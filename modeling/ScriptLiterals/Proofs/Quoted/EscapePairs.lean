import ScriptLiterals.Proofs.Number.Readers
import ScriptLiterals.Proofs.Quoted.Unescape
import ScriptLiterals.Quoted.Quote

/-!
# What escaped text shows

Escaping is undone by decoding (`unescape_escape_eq`), but that alone would not make the text fit to
stand between quotes. The other half is about the text itself: nothing in it is invisible or breaks
the line, and a quote or a backslash occurs only as part of a pair of a backslash and the character
behind it, so nothing but a quote put there on purpose ends the literal. The characters a caller
excludes are the only exceptions, and `bare` says which characters of a text stand outside pairs.

Both halves need to know what a character can be written as (`Escaped`), and of the numbered escape
sequences only that they end in digits, which are harmless.
-/

set_option autoImplicit false

namespace ScriptLiterals.Quoted

variable {excluded text cs : List Char} {c : Char}

/-- Whether `c` is invisible or breaks the line: a control character of ASCII or one of the two
Unicode line separators. -/
def Unseen (c : Char) : Prop := isAsciiControl c = true ∨ c = '\u2028' ∨ c = '\u2029'

instance : DecidablePred Unseen := fun c =>
  inferInstanceAs (Decidable (isAsciiControl c = true ∨ c = '\u2028' ∨ c = '\u2029'))

/-! ## Characters outside pairs -/

/-- The characters of a text that stand outside its pairs of a backslash and the character behind
it. A backslash with nothing behind it makes no pair. -/
def bare : List Char → List Char
  | [] => []
  | [c] => [c]
  | c :: d :: cs => if c = '\\' then bare cs else c :: bare (d :: cs)

theorem bare_pair (c : Char) (cs : List Char) : bare ('\\' :: c :: cs) = bare cs := if_pos rfl

theorem bare_cons_of_ne (h : c ≠ '\\') (cs : List Char) : bare (c :: cs) = c :: bare cs := by
  cases cs with
  | nil => rfl
  | cons d cs => exact if_neg h

theorem bare_append_of_notMem (h : '\\' ∉ text) (cs : List Char) :
    bare (text ++ cs) = text ++ bare cs := by
  induction text with
  | nil => rfl
  | cons c text ih =>
    have hc : c ≠ '\\' := fun hc => h (hc ▸ List.mem_cons_self)
    have htext : '\\' ∉ text := fun hmem => h (List.mem_cons_of_mem c hmem)
    rw [List.cons_append, bare_cons_of_ne hc, ih htext, List.cons_append]

/-! ## The characters of escape sequences -/

theorem not_unseen_of_isDigit (h : Radix.hexadecimal.isDigit c = true) : ¬Unseen c := by
  have hall : Radix.hexadecimal.digitChars.all (fun d => !decide (Unseen d)) = true := by decide
  simpa using List.all_eq_true.mp hall c (Radix.isDigit_iff_mem_digitChars.mp h)

theorem backslash_notMem_hexPadded (width n : Nat) : '\\' ∉ Text.hexPadded width n := by
  intro h
  exact absurd (Text.isDigit_of_mem_hexPadded h) (by decide)

theorem not_unseen_of_mem_numbered {letter d : Char} {width n : Nat} (hletter : ¬Unseen letter)
    (hd : d ∈ ['\\', letter] ++ Text.hexPadded width n) : ¬Unseen d := by
  rcases List.mem_append.mp hd with hmark | hdigit
  · simp only [List.mem_cons, List.not_mem_nil, or_false] at hmark
    rcases hmark with rfl | rfl
    · decide
    · exact hletter
  · exact not_unseen_of_isDigit (Text.isDigit_of_mem_hexPadded hdigit)

theorem not_unseen_escapeLetter {letter : Char} (h : escapeLetter? c = some letter) :
    ¬Unseen letter := by
  unfold escapeLetter? at h
  split_ifs at h with hself hn hr ht hb hf
  · obtain rfl := Option.some.inj h
    rcases hself with rfl | rfl | rfl | rfl <;> decide
  all_goals
    obtain rfl := Option.some.inj h
    decide

/-! ## Escaped text -/

/-- Nothing invisible is written for a character, unless it is excluded. -/
theorem mem_excluded_of_unseen_escapeChar {d : Char} (hd : d ∈ escapeChar excluded c)
    (hunseen : Unseen d) : d ∈ excluded := by
  unfold escapeChar at hd
  by_cases hraw : excluded.contains c = true
  · rw [if_pos hraw] at hd
    rw [List.mem_singleton.mp hd]
    simpa using hraw
  · rw [if_neg hraw] at hd
    cases hletter : escapeLetter? c with
    | some letter =>
      simp only [hletter, List.mem_cons, List.not_mem_nil, or_false] at hd
      rcases hd with rfl | rfl
      · exact absurd hunseen (by decide)
      · exact absurd hunseen (not_unseen_escapeLetter hletter)
    | none =>
      rw [hletter] at hd
      dsimp only at hd
      split_ifs at hd with hsep hcontrol
      · exact absurd hunseen (not_unseen_of_mem_numbered (by decide) hd)
      · exact absurd hunseen (not_unseen_of_mem_numbered (by decide) hd)
      · obtain rfl := List.mem_singleton.mp hd
        rcases hunseen with hascii | hline
        · exact absurd hascii hcontrol
        · exact absurd hline hsep

/-- What is written for a character ends its own pairs, and what it leaves outside them is excluded
or has no escape letter. -/
theorem bare_escapeChar_append (hexcl : '\\' ∉ excluded) (c : Char) (cs : List Char) :
    ∃ shown, bare (escapeChar excluded c ++ cs) = shown ++ bare cs ∧
      ∀ d ∈ shown, d ∈ excluded ∨ escapeLetter? d = none := by
  have hnumber : ∀ letter width n, bare ('\\' :: letter :: Text.hexPadded width n ++ cs) =
      Text.hexPadded width n ++ bare cs := by
    intro letter width n
    rw [List.cons_append, List.cons_append, bare_pair,
      bare_append_of_notMem (backslash_notMem_hexPadded width n)]
  have hescaped := escaped_escapeChar excluded c
  generalize escapeChar excluded c = written at hescaped ⊢
  cases hescaped with
  | raw hmem =>
    have hne : c ≠ '\\' := by
      rintro rfl
      exact hexcl hmem
    refine ⟨[c], bare_cons_of_ne hne cs, fun d hd => Or.inl ?_⟩
    rw [List.mem_singleton.mp hd]
    exact hmem
  | letter hletter => exact ⟨[], bare_pair _ cs, by simp⟩
  | separator hsep =>
    exact ⟨_, hnumber 'u' 4 c.toNat, fun d hd =>
      Or.inr (escapeLetter?_of_isDigit (Text.isDigit_of_mem_hexPadded hd))⟩
  | control hbyte =>
    exact ⟨_, hnumber 'x' 2 c.toNat, fun d hd =>
      Or.inr (escapeLetter?_of_isDigit (Text.isDigit_of_mem_hexPadded hd))⟩
  | plain hletter =>
    have hne : c ≠ '\\' := by
      rintro rfl
      exact absurd hletter (by decide)
    refine ⟨[c], bare_cons_of_ne hne cs, fun d hd => Or.inr ?_⟩
    rw [List.mem_singleton.mp hd]
    exact hletter

theorem of_mem_bare_escape (hexcl : '\\' ∉ excluded) (text : List Char) :
    ∀ d ∈ bare (escape excluded text), d ∈ excluded ∨ escapeLetter? d = none := by
  induction text with
  | nil => simp [escape, bare]
  | cons c text ih =>
    obtain ⟨shown, hbare, hshown⟩ :=
      bare_escapeChar_append hexcl c (escape excluded text)
    intro d hd
    change d ∈ bare (escapeChar excluded c ++ escape excluded text) at hd
    rw [hbare, List.mem_append] at hd
    rcases hd with hhere | hlater
    · exact hshown d hhere
    · exact ih d hlater

theorem mem_excluded_of_unseen {d : Char} (hd : d ∈ escape excluded text) (hunseen : Unseen d) :
    d ∈ excluded := by
  obtain ⟨c, -, hwritten⟩ := List.mem_flatMap.mp hd
  exact mem_excluded_of_unseen_escapeChar hwritten hunseen

/-- **Decoding undoes escaping, and escaped text is fit to stand between quotes.** Whatever is
excluded apart from the backslash, the text comes back. Only what is excluded can be an invisible
character or a line separator in the escaped text, or a quote outside a pair; a backslash never
stands outside one. So if nothing is excluded, there are no such characters. -/
theorem unescape_escape (hexcl : '\\' ∉ excluded) (text : List Char) :
    unescape (escape excluded text) = text ∧
      (∀ c ∈ escape excluded text,
        (isAsciiControl c = true ∨ c = '\u2028' ∨ c = '\u2029') → c ∈ excluded) ∧
      '\\' ∉ bare (escape excluded text) ∧
      ∀ q : Quote, q.char ∈ bare (escape excluded text) → q.char ∈ excluded := by
  refine ⟨unescape_escape_eq hexcl text, fun c hc hunseen => mem_excluded_of_unseen hc hunseen,
    fun hback => ?_, fun q hquote => ?_⟩
  · rcases of_mem_bare_escape hexcl text _ hback with hmem | hnone
    · exact hexcl hmem
    · exact absurd hnone (by decide)
  · rcases of_mem_bare_escape hexcl text _ hquote with hmem | hnone
    · exact hmem
    · exact absurd hnone (by cases q <;> decide)

/-- Quotes, backslashes, a line feed, the two line separators and a text that looks like an escape
sequence, with nothing excluded. -/
theorem unescape_escape_nothing :
    let text := ['\'', '\\', 'x', '4', '1', '\x60', '\n', '\u2028', '\x7f', 'a', '\x22', '\u2029']
    '\\' ∉ ([] : List Char) ∧
      escape [] text = "\\'\\\\x41\\\x60\\n\\u2028\\x7fa\\\x22\\u2029".toList ∧
      unescape (escape [] text) = text ∧
      (∀ c ∈ escape [] text, ¬Unseen c) ∧
      bare (escape [] text) = "x4120287fa2029".toList ∧
      '\\' ∉ bare (escape [] text) ∧ ∀ q : Quote, q.char ∉ bare (escape [] text) := by
  intro text
  have hexcl : '\\' ∉ ([] : List Char) := List.not_mem_nil
  obtain ⟨hback, hunseen, hbare, hquote⟩ := unescape_escape hexcl text
  refine ⟨hexcl, by decide, hback, fun c hc hc' => ?_, by decide, hbare, fun q hq => ?_⟩
  · exact List.not_mem_nil (hunseen c hc hc')
  · exact List.not_mem_nil (hquote q hq)

end ScriptLiterals.Quoted
