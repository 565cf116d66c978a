import ScriptLiterals.Proofs.Number.Readers
import ScriptLiterals.Proofs.Readers

/-!
# A text is a literal of one kind

`detect` tries the kinds one after the other and takes the first that answers. The order matters
less than it seems, because hardly any text has two answers.

Most pairs of kinds differ in the first character (`Kind.heads`). That leaves two pairs. A comment
and a regular expression both begin with a slash, but a slash that opens a comment is refused as a
regular expression even if the comment is never closed. A keyword and a number can both begin with
an `I` or an `N`, and then they are the same word: the constants are the one thing that is read as
two kinds, from the same place and to the same end.
-/

set_option autoImplicit false

namespace ScriptLiterals

open Text

variable {α δ : Type} {input cs : List Char} {t : AnyToken}

/-! ## The five scans as one -/

/-- The literal of the given kind at the head of `input`. -/
def tokenOf? (kind : Kind) (input : List Char) : Option AnyToken :=
  match kind with
  | .comment => (Comment.token? input).map .comment
  | .regexp => (Regexp.token? input).map .regexp
  | .string => (Quoted.token? input).map .string
  | .keyword => (Keyword.token? input).map .keyword
  | .number => (Number.token? input).map .number

theorem found?_map {β : Type} (f : α → β) (result : Except ScanError α) :
    found? (result.map f) = (found? result).map f := by
  cases result <;> rfl

theorem found?_scanKind (kind : Kind) (input : List Char) :
    found? (scanKind kind false input) = tokenOf? kind input := by
  cases kind <;> exact found?_map _ _

theorem detectAmong_eq (order : List Kind) (input : List Char) :
    detectAmong order input = order.findSome? (tokenOf? · input) := by
  rw [detectAmong]
  congr 1
  funext kind
  exact found?_scanKind kind input

theorem kind_of_tokenOf? {kind : Kind} (h : tokenOf? kind input = some t) : t.kind = kind := by
  cases kind <;> (obtain ⟨token, -, rfl⟩ := Option.map_eq_some_iff.mp h; rfl)

namespace Recognizer

variable {r : Recognizer α δ}

/-- Every token that a scan finds is a lexeme behind the leading blanks. -/
theorem exists_read_of_map_scan {wrap : Token α δ → AnyToken}
    (h : (found? (r.scan input)).map wrap = some t) :
    ∃ found, r.read (skipBlank input) = .ok found ∧
      t = wrap (found.behind (leadingBlank input)) := by
  obtain ⟨token, htoken, rfl⟩ := Option.map_eq_some_iff.mp h
  obtain ⟨found, hread, -, rfl⟩ := scan_eq_ok_iff.mp (found?_eq_some_iff.mp htoken)
  exact ⟨found, hread, rfl⟩

theorem scanHead_of_scan {token : Token α δ} (h : r.scan input = .ok token) :
    r.scanHead input = .ok token := by
  obtain ⟨found, hread, -, rfl⟩ := scan_eq_ok_iff.mp h
  exact scanHead_eq_ok_iff.mpr ⟨found, hread, rfl⟩

end Recognizer

/-- What is found by itself is found by a scan for its kind, with whichever options. -/
theorem scanAs_of_tokenOf? {kind : Kind} (h : tokenOf? kind input = some t)
    (options : ScanOptions) : scanAs kind options input = .ok (some t) := by
  rw [← found?_scanKind, found?_eq_some_iff] at h
  refine settle_eq_ok_some_iff.mpr ?_
  cases hallow : options.allowTrailing with
  | false => exact h
  | true =>
    cases kind with
    | number =>
      obtain ⟨token, htoken, rfl⟩ := except_map_eq_ok_iff.mp h
      exact except_map_eq_ok_iff.mpr ⟨token, Recognizer.scanHead_of_scan htoken, rfl⟩
    | _ => exact h

/-! ## First characters -/

/-- The characters that literals of a kind begin with. -/
def Kind.heads : Kind → List Char
  | .comment | .regexp => ['/']
  | .string => [Quote.single.char, Quote.double.char, Quote.backtick.char]
  | .keyword => ['t', 'f', 'n', 'N', 'I']
  | .number => '+' :: '-' :: '.' :: 'I' :: 'N' :: Radix.decimal.digitChars

/-- A comment is opened by the character behind its slash. -/
theorem Comment.exists_opensComment {found : Lexeme (List Char) CommentForm}
    (h : read cs = .ok found) : ∃ text, cs = '/' :: text ∧ Regexp.opensComment text = true := by
  rcases read_eq_ok_iff.mp h with ⟨text, rfl, -⟩ | ⟨text, inner, rest, rfl, -⟩
  · exact ⟨'/' :: text, rfl, rfl⟩
  · exact ⟨'*' :: text, rfl, rfl⟩

/-- A number begins with a sign, a digit, a point or a constant. -/
theorem Number.exists_head {found : Lexeme NumberValue Radix} (h : read cs = .ok found) :
    ∃ c ∈ cs.head?, c ∈ Kind.number.heads := by
  obtain ⟨m, value, hm, -, -⟩ := read_eq_ok_iff.mp h
  have happend := Magnitude.readSign_append cs
  rcases Magnitude.isSign_readSign cs with hsign | hsign | hsign
  · obtain ⟨c, hc, hhead⟩ := Magnitude.head?_of_read? hm
    rw [hsign, List.nil_append] at happend
    rw [happend] at hc
    refine ⟨c, hc, ?_⟩
    rcases hhead with hdigit | rfl | rfl | rfl
    · have hmem := Radix.isDigit_iff_mem_digitChars.mp hdigit
      simp [Kind.heads, hmem]
    · decide
    · decide
    · decide
  · rw [← happend, hsign]
    exact ⟨'+', rfl, by decide⟩
  · rw [← happend, hsign]
    exact ⟨'-', rfl, by decide⟩

/-- **A literal begins with a character of its kind.** -/
theorem exists_head_of_tokenOf? {kind : Kind} (h : tokenOf? kind input = some t) :
    ∃ c ∈ (skipBlank input).head?, c ∈ kind.heads := by
  cases kind with
  | comment =>
    obtain ⟨found, hread, -⟩ := Recognizer.exists_read_of_map_scan h
    obtain ⟨text, hcs, -⟩ := Comment.exists_opensComment hread
    rw [hcs]
    exact ⟨'/', rfl, by decide⟩
  | regexp =>
    obtain ⟨found, hread, -⟩ := Recognizer.exists_read_of_map_scan h
    obtain ⟨text, body, behind, value, hcs, -⟩ := Regexp.read_eq_ok_iff.mp hread
    rw [hcs]
    exact ⟨'/', rfl, by decide⟩
  | string =>
    obtain ⟨found, hread, -⟩ := Recognizer.exists_read_of_map_scan h
    obtain ⟨q, behind, pieces, rest, hcs, -⟩ := Quoted.read_eq_ok_iff.mp hread
    rw [hcs]
    exact ⟨q.char, rfl, by cases q <;> decide⟩
  | keyword =>
    obtain ⟨found, hread, -⟩ := Recognizer.exists_read_of_map_scan h
    obtain ⟨k, rest, hcs, -⟩ := Keyword.read_eq_ok_iff.mp hread
    rw [hcs]
    rcases k with (_ | _) | _ | _ | _ <;> exact ⟨_, rfl, by decide⟩
  | number =>
    obtain ⟨found, hread, -⟩ := Recognizer.exists_read_of_map_scan h
    exact Number.exists_head hread

/-- Two kinds that share a first character. -/
inductive Kind.Alike : Kind → Kind → Prop where
  | comment_regexp : Alike .comment .regexp
  | regexp_comment : Alike .regexp .comment
  | keyword_number : Alike .keyword .number
  | number_keyword : Alike .number .keyword

theorem Kind.alike_of_mem_heads {kind kind' : Kind} {c : Char} (hne : kind ≠ kind')
    (h : c ∈ kind.heads) (h' : c ∈ kind'.heads) : Alike kind kind' := by
  have hshared : kind.heads.any (kind'.heads.contains ·) = true :=
    List.any_eq_true.mpr ⟨c, h, List.elem_eq_true_of_mem h'⟩
  cases kind <;> cases kind' <;>
    first
    | exact absurd rfl hne
    | constructor
    | exact absurd hshared (by decide)

/-! ## The two pairs -/

/-- A comment is no regular expression. -/
theorem not_comment_and_regexp {t' : AnyToken} (h : tokenOf? .comment input = some t)
    (h' : tokenOf? .regexp input = some t') : False := by
  obtain ⟨found, hread, -⟩ := Recognizer.exists_read_of_map_scan h
  obtain ⟨text, hcs, hopens⟩ := Comment.exists_opensComment hread
  obtain ⟨found', hread', -⟩ := Recognizer.exists_read_of_map_scan h'
  obtain ⟨text', body, behind, value, hcs', hnot, -⟩ := Regexp.read_eq_ok_iff.mp hread'
  obtain ⟨-, rfl⟩ := List.cons.inj (hcs.symm.trans hcs')
  rw [hopens] at hnot
  exact absurd hnot (by simp)

/-- A constant that is a whole word is the whole number. -/
theorem Number.source_of_readConstant? {word rest : List Char} {numeral : Numeral}
    {found : Lexeme NumberValue Radix}
    (hconstant : Magnitude.readConstant? (word ++ rest) = some ⟨word, rest, .decimal, numeral⟩)
    (hsign : Magnitude.readSign (word ++ rest) = ([], word ++ rest))
    (h : read (word ++ rest) = .ok found) : found.source = word := by
  obtain ⟨m, value, hm, -, rfl⟩ := read_eq_ok_iff.mp h
  rw [hsign, Magnitude.read?_of_readConstant? hconstant] at hm
  rw [← Option.some.inj hm, hsign]
  rfl

/-- Of the keywords only the constants are numbers, and the number is the same word. -/
theorem Number.source_of_read_word {k : Keyword} {rest : List Char}
    {found : Lexeme NumberValue Radix} (hend : EndsRun isIdContinue rest)
    (h : read (k.word ++ rest) = .ok found) :
    (k = .nan ∨ k = .infinity) ∧ found.source = k.word := by
  obtain ⟨c, hc, hhead⟩ := exists_head h
  cases k with
  | bool b => cases b <;> (obtain rfl := Option.some.inj hc; exact absurd hhead (by decide))
  | null =>
    obtain rfl := Option.some.inj hc
    exact absurd hhead (by decide)
  | nan =>
    have hconstant : Magnitude.readConstant? (Keyword.nan.word ++ rest) =
        some ⟨Keyword.nan.word, rest, .decimal, .nan⟩ :=
      Magnitude.readConstant?_eq_some_iff.mpr ⟨rest, hend, Or.inr ⟨rfl, rfl⟩⟩
    exact ⟨Or.inl rfl, source_of_readConstant? hconstant rfl h⟩
  | infinity =>
    have hconstant : Magnitude.readConstant? (Keyword.infinity.word ++ rest) =
        some ⟨Keyword.infinity.word, rest, .decimal, .infinity⟩ :=
      Magnitude.readConstant?_eq_some_iff.mpr ⟨rest, hend, Or.inl ⟨rfl, rfl⟩⟩
    exact ⟨Or.inr rfl, source_of_readConstant? hconstant rfl h⟩

/-- A keyword and a number that are the same constant in the same place. -/
structure SameConstant (t t' : AnyToken) : Prop where
  kinds : (t.kind = .keyword ∧ t'.kind = .number) ∨ (t.kind = .number ∧ t'.kind = .keyword)
  constant : t.source = NumberValue.nanText ∨ t.source = NumberValue.infinityText
  source_eq : t'.source = t.source
  offset_eq : t'.offset = t.offset
  span_eq : t'.span = t.span

theorem SameConstant.symm {t t' : AnyToken} (h : SameConstant t t') : SameConstant t' t where
  kinds := h.kinds.symm.imp And.symm And.symm
  constant := h.source_eq ▸ h.constant
  source_eq := h.source_eq.symm
  offset_eq := h.offset_eq.symm
  span_eq := h.span_eq.symm

/-- A keyword is a number only if it is a constant, and then the number is that constant. -/
theorem sameConstant_of_keyword_number {t' : AnyToken} (h : tokenOf? .keyword input = some t)
    (h' : tokenOf? .number input = some t') : SameConstant t t' := by
  have hkind := kind_of_tokenOf? h
  have hkind' := kind_of_tokenOf? h'
  obtain ⟨found, hread, rfl⟩ := Recognizer.exists_read_of_map_scan h
  obtain ⟨k, rest, hcs, hend, rfl⟩ := Keyword.read_eq_ok_iff.mp hread
  obtain ⟨found', hread', rfl⟩ := Recognizer.exists_read_of_map_scan h'
  rw [hcs] at hread'
  obtain ⟨hk, hsource⟩ := Number.source_of_read_word hend hread'
  refine ⟨Or.inl ⟨hkind, hkind'⟩, ?_, hsource, rfl, ?_⟩
  · rcases hk with rfl | rfl
    · exact Or.inl rfl
    · exact Or.inr rfl
  · change Token.span _ = Token.span _
    simp only [Token.span, Lexeme.behind, hsource]

/-- **Two kinds that answer have found the same constant.** -/
theorem sameConstant_of_ne {kind kind' : Kind} {t' : AnyToken} (hne : kind ≠ kind')
    (h : tokenOf? kind input = some t) (h' : tokenOf? kind' input = some t') :
    SameConstant t t' := by
  obtain ⟨c, hc, hmem⟩ := exists_head_of_tokenOf? h
  obtain ⟨c', hc', hmem'⟩ := exists_head_of_tokenOf? h'
  obtain rfl := Option.some.inj (hc.symm.trans hc')
  cases Kind.alike_of_mem_heads hne hmem hmem' with
  | comment_regexp => exact absurd h' fun h' => not_comment_and_regexp h h'
  | regexp_comment => exact absurd h fun h => not_comment_and_regexp h' h
  | keyword_number => exact sameConstant_of_keyword_number h h'
  | number_keyword => exact (sameConstant_of_keyword_number h' h).symm

/-! ## Other orders -/

section Orders

variable {order : List Kind}

theorem Kind.mem_all (kind : Kind) : kind ∈ Kind.all := by
  cases kind <;> decide

/-- What is found in some order is what its kind finds. -/
theorem tokenOf?_of_detectAmong (h : detectAmong order input = some t) :
    tokenOf? t.kind input = some t := by
  rw [detectAmong_eq] at h
  obtain ⟨kind, -, htoken⟩ := List.exists_of_findSome?_eq_some h
  rw [kind_of_tokenOf? htoken]
  exact htoken

theorem isSome_detectAmong_iff (horder : ∀ kind, kind ∈ order) :
    (detectAmong order input).isSome = true ↔ ∃ kind, (tokenOf? kind input).isSome = true := by
  rw [detectAmong_eq, List.findSome?_isSome_iff]
  constructor
  · intro h
    obtain ⟨kind, -, hsome⟩ := h
    exact ⟨kind, hsome⟩
  · intro h
    obtain ⟨kind, hsome⟩ := h
    exact ⟨kind, horder kind, hsome⟩

/-- Of two kinds in a list that names each once, the first stands before the second. -/
theorem mem_before_of_sublist {kind kind' : Kind} {before behind : List Kind} (hne : kind ≠ kind')
    (hnotin : kind' ∉ behind) (h : [kind, kind'].Sublist (before ++ kind' :: behind)) :
    kind ∈ before := by
  obtain ⟨first, second, hsplit, hfirst, hsecond⟩ := List.sublist_append_iff.mp h
  cases first with
  | nil =>
    rw [List.nil_append] at hsplit
    rw [← hsplit] at hsecond
    cases hsecond with
    | cons _ hbehind => exact absurd (hbehind.subset (by simp)) hnotin
    | cons_cons _ hbehind => exact absurd rfl hne
  | cons kind'' first =>
    obtain ⟨rfl, -⟩ := List.cons.inj hsplit
    exact hfirst.subset (by simp)

/-- A number is found only if no keyword is, where keywords are tried first. -/
theorem tokenOf?_keyword_eq_none (horder : order.Nodup)
    (hsub : [Kind.keyword, Kind.number].Sublist order) (h : detectAmong order input = some t)
    (hkind : t.kind = .number) : tokenOf? .keyword input = none := by
  rw [detectAmong_eq, List.findSome?_eq_some_iff] at h
  obtain ⟨before, kind, behind, rfl, htoken, hbefore⟩ := h
  obtain rfl : kind = .number := (kind_of_tokenOf? htoken).symm.trans hkind
  refine hbefore .keyword (mem_before_of_sublist (by decide) ?_ hsub)
  exact (List.nodup_cons.mp (List.nodup_append.mp horder).2.1).1

/-- **Every order finds the same place**, and the same token if keywords are tried before numbers.
-/
theorem detectAmong_perm (horder : order.Perm Kind.all) :
    (detectAmong order input).map AnyToken.span = (detect input).map AnyToken.span ∧
      ([Kind.keyword, Kind.number].Sublist order → detectAmong order input = detect input) := by
  have hmem : ∀ kind, kind ∈ order := fun kind => horder.mem_iff.mpr kind.mem_all
  have hsome : (detectAmong order input).isSome = (detect input).isSome := by
    rw [Bool.eq_iff_iff, isSome_detectAmong_iff hmem, detect, isSome_detectAmong_iff Kind.mem_all]
  cases hfound : detectAmong order input with
  | none =>
    have hnone : detect input = none := by simpa [hfound] using hsome.symm
    rw [hnone]
    exact ⟨rfl, fun _ => rfl⟩
  | some t =>
    rw [hfound] at hsome
    obtain ⟨t', hfound'⟩ := Option.isSome_iff_exists.mp hsome.symm
    rw [hfound']
    have htoken := tokenOf?_of_detectAmong hfound
    have htoken' := tokenOf?_of_detectAmong hfound'
    by_cases hkind : t.kind = t'.kind
    · rw [hkind, htoken'] at htoken
      obtain rfl := Option.some.inj htoken
      exact ⟨rfl, fun _ => rfl⟩
    · have hsame := sameConstant_of_ne hkind htoken htoken'
      refine ⟨congrArg some hsame.span_eq.symm, fun hsub => ?_⟩
      -- whichever of the two orders has found the number has asked for the keyword before
      rcases hsame.kinds with ⟨hkeyword, hnumber⟩ | ⟨hnumber, hkeyword⟩
      · have hnone := tokenOf?_keyword_eq_none (by decide) (by decide) hfound' hnumber
        rw [hkeyword, hnone] at htoken
        exact absurd htoken (by simp)
      · have hnone :=
          tokenOf?_keyword_eq_none (horder.nodup_iff.mpr (by decide)) hsub hfound hnumber
        rw [hkeyword, hnone] at htoken'
        exact absurd htoken' (by simp)

end Orders

/-- **A text is a literal of one kind.** At most one of the five scans answers; only a keyword and a
number can both do, and then both are the same constant in the same place. So something is detected
if and only if one of the kinds is found, what is detected is what a scan for its kind finds, and
the kinds could be tried in any other order: the place would be the same, and the token too if
keywords come before numbers. -/
theorem detect_unambiguous (input : List Char) :
    (∀ kind kind' t t', kind ≠ kind' → tokenOf? kind input = some t →
      tokenOf? kind' input = some t' → SameConstant t t') ∧
    ((detect input).isSome = true ↔ ∃ kind, (tokenOf? kind input).isSome = true) ∧
    (∀ t, detect input = some t → ∀ options, scanAs t.kind options input = .ok (some t)) ∧
    ∀ order : List Kind, order.Perm Kind.all →
      (detectAmong order input).map AnyToken.span = (detect input).map AnyToken.span ∧
        ([Kind.keyword, Kind.number].Sublist order → detectAmong order input = detect input) := by
  refine ⟨?_, isSome_detectAmong_iff Kind.mem_all, ?_, fun order horder => detectAmong_perm horder⟩
  · intro kind kind' t t' hne h h'
    exact sameConstant_of_ne hne h h'
  · intro t h options
    exact scanAs_of_tokenOf? (tokenOf?_of_detectAmong h) options

/-- With numbers tried first the constant is found in the same place, as a number. -/
theorem detect_unambiguous_nan :
    SameConstant (.keyword ⟨Keyword.nan.word, 1, 1, .nan, ()⟩)
        (.number ⟨Keyword.nan.word, 1, 1, .nan, .decimal⟩) ∧
      (detectAmong Kind.all.reverse (' ' :: Keyword.nan.word)).map AnyToken.span = some ⟨1, 4⟩ := by
  have h := detect_unambiguous (' ' :: Keyword.nan.word)
  refine ⟨h.1 .keyword .number _ _ (by decide) rfl rfl, ?_⟩
  rw [(h.2.2.2 _ (List.reverse_perm _)).1]
  rfl

end ScriptLiterals
