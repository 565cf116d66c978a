import ScriptLiterals.Proofs.Recognizer
import ScriptLiterals.Proofs.Regexp.Brackets

/-!
# The grammar of regular expressions

Between its slashes a regular expression consists of items: characters, pairs of a backslash and a
character, and classes, which consist of members between brackets. `IsItem` and `IsMember` say so
about plain texts and nest as the grammar does. The reader does not nest: it keeps one bit, which an
opening bracket sets and a closing one clears wherever they stand.

The two agree because the bit is set exactly within a class. A closing bracket outside of a class
clears what is clear, an opening one inside sets what is set, and brackets behind a backslash touch
nothing. In one direction every item leads the reader back to the state outside of classes
(`IsItem.passes`). In the other the text that the reader takes from a place in a class is the rest of
that class, its bracket, and items (`isBodyFrom_of_splitBody?`), so no class is left open at the slash
that ends the literal.
-/

set_option autoImplicit false

namespace ScriptLiterals.Regexp

open Text

variable {inClass : Bool} {cs body behind : List Char}

/-! ## Items -/

/-- What a class consists of: a character that ends neither the line nor the class, or a backslash
and a character that does not end the line. -/
inductive IsMember : List Char → Prop where
  | plain {c : Char} (hline : isLineTerminator c = false) (hback : c ≠ '\\') (hclose : c ≠ ']') :
    IsMember [c]
  | pair {c : Char} (hline : isLineTerminator c = false) : IsMember ['\\', c]

/-- What a regular expression consists of: a character that ends neither the line nor the literal and
opens no class, a backslash and a character that does not end the line, or a class. -/
inductive IsItem : List Char → Prop where
  | plain {c : Char} (hline : isLineTerminator c = false) (hback : c ≠ '\\') (hslash : c ≠ '/')
    (hopen : c ≠ '[') : IsItem [c]
  | pair {c : Char} (hline : isLineTerminator c = false) : IsItem ['\\', c]
  | bracketed {members : List (List Char)} (h : ∀ member ∈ members, IsMember member) :
    IsItem ('[' :: (members.flatten ++ [']']))

/-- The text consists of items. -/
def AreItems (body : List Char) : Prop :=
  ∃ items : List (List Char), (∀ item ∈ items, IsItem item) ∧ body = items.flatten

/-- The text consists of items, and of at least one. -/
def IsBody (body : List Char) : Prop :=
  ∃ items : List (List Char), items ≠ [] ∧ (∀ item ∈ items, IsItem item) ∧ body = items.flatten

/-- **The literals of regular expressions**, with whatever follows the slash that ends the body:
flags, or none. -/
structure IsLiteral (cs body behind : List Char) : Prop where
  split : cs = '/' :: (body ++ '/' :: behind)
  isBody : IsBody body

/-- No regular expression begins here: there is no slash, or one that opens a comment. -/
def BeginsNone (cs : List Char) : Prop :=
  ¬['/'] <+: cs ∨ ['/', '/'] <+: cs ∨ ['/', '*'] <+: cs

theorem IsItem.ne_nil {item : List Char} (h : IsItem item) : item ≠ [] := by
  cases h <;> simp

theorem isBody_iff : IsBody body ↔ body ≠ [] ∧ AreItems body := by
  constructor
  · intro h
    obtain ⟨items, hne, hitems, rfl⟩ := h
    refine ⟨?_, items, hitems, rfl⟩
    cases items with
    | nil => exact absurd rfl hne
    | cons item items => simp [(hitems item (by simp)).ne_nil]
  · intro h
    obtain ⟨hne, items, hitems, rfl⟩ := h
    refine ⟨items, ?_, hitems, rfl⟩
    rintro rfl
    exact hne rfl

/-! ## The reader passes items -/

/-- Texts that each lead the reader back to where it was do so together. -/
theorem passes_flatten {texts : List (List Char)} (h : ∀ text ∈ texts, Passes inClass text inClass) :
    Passes inClass texts.flatten inClass := by
  induction texts with
  | nil => exact passes_nil inClass
  | cons text texts ih =>
    exact (h text (by simp)).append (ih fun text' htext' => h text' (by simp [htext']))

theorem IsMember.passes {member : List Char} (h : IsMember member) : Passes true member true := by
  cases h with
  | @plain c hline hback hclose =>
    have hafter : classAfter true c = true := by simp [classAfter, hclose]
    have hpasses : Passes true [c] (classAfter true c) := passes_char hback hline (by simp)
    rwa [hafter] at hpasses
  | pair hline => exact passes_pair true hline

/-- **Every item leads the reader back out of all classes.** -/
theorem IsItem.passes {item : List Char} (h : IsItem item) : Passes false item false := by
  cases h with
  | @plain c hline hback hslash hopen =>
    have hafter : classAfter false c = false := by simp [classAfter, hopen]
    have hpasses : Passes false [c] (classAfter false c) :=
      passes_char hback hline fun hc => hslash hc.1
    rwa [hafter] at hpasses
  | pair hline => exact passes_pair false hline
  | bracketed hmembers =>
    have hopening : Passes false ['['] true := passes_char (by decide) (by decide) (by decide)
    have hclosing : Passes true [']'] false := passes_char (by decide) (by decide) (by decide)
    exact hopening.append ((passes_flatten fun member hmember =>
      (hmembers member hmember).passes).append hclosing)

/-- **Items up to a slash are read.** -/
theorem IsBody.splitBody? (h : IsBody body) (behind : List Char) :
    splitBody? false (body ++ '/' :: behind) = some (body, behind) := by
  obtain ⟨items, -, hitems, rfl⟩ := h
  rw [(passes_flatten fun item hitem => (hitems item hitem).passes).read,
    splitBody?_of_ne (by decide), if_neg (by decide), if_pos ⟨rfl, rfl⟩, Option.map_some,
    List.append_nil]

/-! ## What is read consists of items -/

/-- What may stand between a place and the slash that ends the literal: items, and if the place is in
a class, before them what is left of the class. -/
def IsBodyFrom (inClass : Bool) (body : List Char) : Prop :=
  match inClass with
  | false => AreItems body
  | true => ∃ (members : List (List Char)) (later : List Char),
      (∀ member ∈ members, IsMember member) ∧ AreItems later ∧ body = members.flatten ++ ']' :: later

theorem AreItems.cons {item later : List Char} (hitem : IsItem item) (hlater : AreItems later) :
    AreItems (item ++ later) := by
  obtain ⟨items, hitems, rfl⟩ := hlater
  refine ⟨item :: items, ?_, rfl⟩
  intro item' hmem
  rcases List.mem_cons.mp hmem with rfl | hmem
  · exact hitem
  · exact hitems item' hmem

theorem isBodyFrom_member_cons {member later : List Char} (hmember : IsMember member)
    (hlater : IsBodyFrom true later) : IsBodyFrom true (member ++ later) := by
  obtain ⟨members, later', hmembers, hlater', rfl⟩ := hlater
  refine ⟨member :: members, later', ?_, hlater', by simp⟩
  intro member' hmem
  rcases List.mem_cons.mp hmem with rfl | hmem
  · exact hmember
  · exact hmembers member' hmem

/-- A pair may come next in a class and outside of one. -/
theorem isBodyFrom_pair {c : Char} {later : List Char} (hline : isLineTerminator c = false)
    (hlater : IsBodyFrom inClass later) : IsBodyFrom inClass ('\\' :: c :: later) := by
  cases inClass with
  | false => exact AreItems.cons (.pair hline) hlater
  | true => exact isBodyFrom_member_cons (.pair hline) hlater

/-- A character that the reader passes may come next, and the bit behind it says where it leads. -/
theorem isBodyFrom_char {c : Char} {later : List Char} (hline : isLineTerminator c = false)
    (hback : c ≠ '\\') (hslash : ¬(c = '/' ∧ !inClass))
    (hlater : IsBodyFrom (classAfter inClass c) later) : IsBodyFrom inClass (c :: later) := by
  cases inClass with
  | false =>
    by_cases hopen : c = '['
    · -- the bracket and the rest of its class make one item
      subst hopen
      obtain ⟨members, later', hmembers, hlater', rfl⟩ := hlater
      have hitems := AreItems.cons (.bracketed hmembers) hlater'
      simpa [IsBodyFrom] using hitems
    · have hafter : classAfter false c = false := by simp [classAfter, hopen]
      rw [hafter] at hlater
      exact AreItems.cons (.plain hline hback (fun hc => hslash ⟨hc, rfl⟩) hopen) hlater
  | true =>
    by_cases hclose : c = ']'
    · subst hclose
      exact ⟨[], later, by simp, hlater, rfl⟩
    · have hafter : classAfter true c = true := by simp [classAfter, hclose]
      rw [hafter] at hlater
      exact isBodyFrom_member_cons (.plain hline hback hclose) hlater

/-- **What the reader takes consists of items**, from a place in a class behind the rest of it. -/
theorem isBodyFrom_of_splitBody? (h : splitBody? inClass cs = some (body, behind)) :
    IsBodyFrom inClass body := by
  fun_induction splitBody? inClass cs generalizing body with
  | case1 => exact absurd h (by simp)
  | case2 => exact absurd h (by simp)
  | case3 => exact absurd h (by simp)
  | case4 inClass c cs hline ih =>
    obtain ⟨⟨later, behind'⟩, hlater, heq⟩ := Option.map_eq_some_iff.mp h
    obtain ⟨rfl, rfl⟩ := Prod.mk.inj heq
    exact isBodyFrom_pair (Bool.eq_false_iff.mpr hline) (ih hlater)
  | case5 => exact absurd h (by simp)
  | case6 inClass c cs _ _ _ hslash =>
    obtain ⟨rfl, rfl⟩ := Prod.mk.inj (Option.some.inj h)
    have hout : inClass = false := by simpa using hslash.2
    subst hout
    exact ⟨[], by simp, rfl⟩
  | case7 inClass c cs hback hpair hline hslash ih =>
    obtain ⟨⟨later, behind'⟩, hlater, heq⟩ := Option.map_eq_some_iff.mp h
    obtain ⟨rfl, rfl⟩ := Prod.mk.inj heq
    exact isBodyFrom_char (Bool.eq_false_iff.mpr hline) (ne_backslash_of_unpaired hback hpair)
      hslash (ih hlater)

/-! ## Literals -/

/-- **A text is a literal with one body only.** -/
theorem IsLiteral.unique {body' behind' : List Char} (h : IsLiteral cs body behind)
    (h' : IsLiteral cs body' behind') : body' = body ∧ behind' = behind := by
  obtain rfl := h.split
  have hsplit := h.isBody.splitBody? behind
  rw [(List.cons.inj h'.split).2, h'.isBody.splitBody? behind'] at hsplit
  exact Prod.mk.inj (Option.some.inj hsplit)

/-- Behind a slash that opens no comment, the body that the reader finds makes a literal. -/
theorem isLiteral_of_splitBody? (hopens : opensComment cs = false)
    (h : splitBody? false cs = some (body, behind)) : IsLiteral ('/' :: cs) body behind where
  split := by rw [append_of_splitBody? h]
  isBody := by
    refine isBody_iff.mpr ⟨?_, isBodyFrom_of_splitBody? h⟩
    -- without an item the two slashes would open a comment
    rintro rfl
    rw [append_of_splitBody? h] at hopens
    exact absurd hopens (by simp [opensComment])

theorem beginsNone_slash : BeginsNone ('/' :: cs) ↔ opensComment cs = true := by
  cases cs <;> simp [BeginsNone, opensComment, @eq_comm _ '/', @eq_comm _ '*']

theorem exists_slash_of_not_beginsNone (h : ¬BeginsNone cs) :
    ∃ text, cs = '/' :: text ∧ opensComment text = false := by
  cases cs with
  | nil => exact absurd (Or.inl (by simp)) h
  | cons c text =>
    by_cases hc : c = '/'
    · subst hc
      exact ⟨text, rfl, Bool.eq_false_iff.mpr fun hopens => h (beginsNone_slash.mpr hopens)⟩
    · exact absurd (Or.inl (by simp [Ne.symm hc])) h

/-! ## The scan -/

/-- What becomes of a body: a regular expression if it has a meaning under the flags behind it, and
otherwise an invalid pattern. -/
theorem read_slash (hopens : opensComment cs = false)
    (h : splitBody? false cs = some (body, behind)) :
    read ('/' :: cs) = match ofSource body (RegexpFlags.none.readRun behind).2.1 with
      | .error fault => .error (.invalidPattern body fault)
      | .ok value => .ok (lexemeOf body behind value) := by
  rw [read, hopens, h]
  rfl

theorem read_of_beginsNone (h : BeginsNone cs) : read cs = .error .noMatch := by
  unfold read
  split
  · rw [beginsNone_slash.mp h]
    rfl
  · rfl

/-- Behind a slash that opens no comment, the reader finds a body, or no slash that ends one. -/
theorem read_cases (h : ¬BeginsNone cs) :
    (∃ body behind, IsLiteral cs body behind) ∨ read cs = .error .unterminated := by
  obtain ⟨text, rfl, hopens⟩ := exists_slash_of_not_beginsNone h
  cases hsplit : splitBody? false text with
  | some pair => exact Or.inl ⟨_, _, isLiteral_of_splitBody? hopens hsplit⟩
  | none =>
    right
    rw [read, hopens, hsplit]
    rfl

theorem IsLiteral.read_eq (h : IsLiteral cs body behind) (hbegins : ¬BeginsNone cs) :
    read cs = match ofSource body (RegexpFlags.none.readRun behind).2.1 with
      | .error fault => .error (.invalidPattern body fault)
      | .ok value => .ok (lexemeOf body behind value) := by
  obtain ⟨text, rfl, hopens⟩ := exists_slash_of_not_beginsNone hbegins
  refine read_slash hopens ?_
  rw [(List.cons.inj h.split).2]
  exact h.isBody.splitBody? behind

theorem source_of_ofSource {flags : RegexpFlags} {value : Regexp}
    (h : ofSource body flags = .ok value) : value.source = body ∧ value.flags = flags := by
  obtain ⟨meaning, -, rfl⟩ := except_map_eq_ok_iff.mp h
  exact ⟨rfl, rfl⟩

/-- The scan has come to the flags: it answers with a token, or that the pattern has no meaning. -/
def ReachesFlags (answer : Except ScanError (Token Regexp Unit)) : Prop :=
  (∃ t, answer = .ok t) ∨ ∃ pattern fault, answer = .error (.invalidPattern pattern fault)

/-- The answer is about exactly this body: a token with the body for its source and the flags that
stand behind it, if the body has a meaning under them, and otherwise the error that names the body. -/
structure IsAbout (answer : Except ScanError (Token Regexp Unit)) (body behind : List Char) :
    Prop where
  of_ok : ∀ value, ofSource body (RegexpFlags.none.readRun behind).2.1 = .ok value →
    ∃ t, answer = .ok t ∧ t.value = value ∧ t.value.source = body ∧
      t.source = '/' :: body ++ '/' :: (RegexpFlags.none.readRun behind).1
  of_error : ∀ fault, ofSource body (RegexpFlags.none.readRun behind).2.1 = .error fault →
    answer = .error (.invalidPattern body fault)

theorem IsAbout.reachesFlags {answer : Except ScanError (Token Regexp Unit)}
    (h : IsAbout answer body behind) : ReachesFlags answer := by
  cases hmeaning : ofSource body (RegexpFlags.none.readRun behind).2.1 with
  | ok value =>
    obtain ⟨t, ht, -⟩ := h.of_ok value hmeaning
    exact Or.inl ⟨t, ht⟩
  | error fault => exact Or.inr ⟨body, fault, h.of_error fault hmeaning⟩

theorem IsLiteral.isAbout {input : List Char} (h : IsLiteral (skipBlank input) body behind)
    (hbegins : ¬BeginsNone (skipBlank input)) :
    IsAbout (recognizer.scanHead input) body behind where
  of_ok := by
    intro value hvalue
    have hread := h.read_eq hbegins
    rw [hvalue] at hread
    exact ⟨_, Recognizer.scanHead_eq_ok_iff.mpr ⟨_, hread, rfl⟩, rfl, (source_of_ofSource hvalue).1,
      rfl⟩
  of_error := by
    intro fault hfault
    have hread := h.read_eq hbegins
    rw [hfault] at hread
    exact Recognizer.scanHead_eq_error_iff.mpr ⟨_, hread, rfl⟩

/-- A scan that misses does not come to the flags. -/
theorem ReachesFlags.ne_noMatch {answer : Except ScanError (Token Regexp Unit)}
    (h : ReachesFlags answer) (offset : Nat) : answer ≠ .error (.noMatch .regexp offset) := by
  rcases h with ⟨t, rfl⟩ | ⟨pattern, fault, rfl⟩ <;> simp

theorem ReachesFlags.ne_unterminated {answer : Except ScanError (Token Regexp Unit)}
    (h : ReachesFlags answer) (offset : Nat) : answer ≠ .error (.unterminated .regexp offset) := by
  rcases h with ⟨t, rfl⟩ | ⟨pattern, fault, rfl⟩ <;> simp

/-- Where one could begin, a text that is no literal is unterminated. -/
theorem scanHead_eq_unterminated {input : List Char} (hbegins : ¬BeginsNone (skipBlank input))
    (hnone : ¬∃ body behind, IsLiteral (skipBlank input) body behind) :
    recognizer.scanHead input = .error (.unterminated .regexp (leadingBlank input).length) := by
  rcases read_cases hbegins with hliteral | hread
  · exact absurd hliteral hnone
  · exact Recognizer.scanHead_eq_error_iff.mpr ⟨_, hread, rfl⟩

theorem reachesFlags_iff {input : List Char} (hbegins : ¬BeginsNone (skipBlank input)) :
    ReachesFlags (recognizer.scanHead input) ↔
      ∃ body behind, IsLiteral (skipBlank input) body behind := by
  constructor
  · intro hreaches
    by_contra hnone
    exact hreaches.ne_unterminated _ (scanHead_eq_unterminated hbegins hnone)
  · intro hliteral
    obtain ⟨body, behind, hliteral⟩ := hliteral
    exact (hliteral.isAbout hbegins).reachesFlags

theorem scanHead_eq_noMatch_iff {input : List Char} :
    recognizer.scanHead input = .error (.noMatch .regexp (leadingBlank input).length) ↔
      BeginsNone (skipBlank input) := by
  constructor
  · intro h
    by_contra hbegins
    by_cases hliteral : ∃ body behind, IsLiteral (skipBlank input) body behind
    · exact ((reachesFlags_iff hbegins).mpr hliteral).ne_noMatch _ h
    · exact absurd (h.symm.trans (scanHead_eq_unterminated hbegins hliteral)) (by simp)
  · intro hnone
    exact Recognizer.scanHead_eq_error_iff.mpr ⟨_, read_of_beginsNone hnone, rfl⟩

/-- **The scan for a regular expression takes exactly the bodies of the grammar.** It finds none if
and only if the text behind the blanks begins with no slash or with the opener of a comment. Otherwise
it comes to the flags if and only if the text is a literal; the body is then the only one, and what
the scan answers is about this body as it stands. In every other case the literal is unterminated, at
the place of its opening slash. -/
theorem scanHead_isBody (input : List Char) :
    (recognizer.scanHead input = .error (.noMatch .regexp (leadingBlank input).length) ↔
      BeginsNone (skipBlank input)) ∧
    (¬BeginsNone (skipBlank input) →
      (ReachesFlags (recognizer.scanHead input) ↔
        ∃ body behind, IsLiteral (skipBlank input) body behind) ∧
      (∀ body behind, IsLiteral (skipBlank input) body behind →
        (∀ body' behind', IsLiteral (skipBlank input) body' behind' →
          body' = body ∧ behind' = behind) ∧
        IsAbout (recognizer.scanHead input) body behind) ∧
      ((¬∃ body behind, IsLiteral (skipBlank input) body behind) →
        recognizer.scanHead input =
          .error (.unterminated .regexp (leadingBlank input).length))) := by
  refine ⟨scanHead_eq_noMatch_iff, fun hbegins => ?_⟩
  refine ⟨reachesFlags_iff hbegins, ?_, scanHead_eq_unterminated hbegins⟩
  intro body behind hliteral
  refine ⟨?_, hliteral.isAbout hbegins⟩
  intro body' behind' hliteral'
  exact hliteral.unique hliteral'

/-- A slash stands in a class, and a closing bracket behind it: the body is the class and one
character, and ends at the second slash. -/
theorem scanHead_isBody_brackets :
    ¬BeginsNone (skipBlank [' ', '/', '[', '/', ']', ']', '/', 'g']) ∧
      IsLiteral (skipBlank [' ', '/', '[', '/', ']', ']', '/', 'g']) ['[', '/', ']', ']'] ['g'] ∧
      ∃ t, recognizer.scanHead [' ', '/', '[', '/', ']', ']', '/', 'g'] = .ok t ∧
        t.value.source = ['[', '/', ']', ']'] := by
  have hbegins : ¬BeginsNone (skipBlank [' ', '/', '[', '/', ']', ']', '/', 'g']) := by
    unfold BeginsNone
    decide
  have hclass : IsItem ['[', '/', ']'] :=
    @IsItem.bracketed [['/']] (by simpa using .plain (by decide) (by decide) (by decide))
  have hclosing : IsItem [']'] := .plain (by decide) (by decide) (by decide) (by decide)
  have hliteral :
      IsLiteral (skipBlank [' ', '/', '[', '/', ']', ']', '/', 'g']) ['[', '/', ']', ']'] ['g'] :=
    ⟨rfl, [['[', '/', ']'], [']']], by simp, by simp [hclass, hclosing], rfl⟩
  have hscan := (scanHead_isBody [' ', '/', '[', '/', ']', ']', '/', 'g']).2 hbegins
  obtain ⟨t, ht, -, hsource, -⟩ := (hscan.2.1 _ _ hliteral).2.of_ok _ rfl
  exact ⟨hbegins, hliteral, t, ht, hsource⟩

end ScriptLiterals.Regexp
