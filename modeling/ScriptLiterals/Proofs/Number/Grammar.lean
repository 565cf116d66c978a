import Mathlib.Computability.RegularExpressions
import ScriptLiterals.Proofs.Number.Readers

/-!
# The grammar of numbers

Number literals as regular expressions, written down without a look at the reader. Being data, they
can be matched against a text by evaluation (`RegularExpression.rmatch`), and being independent of
the reader they are what `ScriptLiterals.Proofs.Number.Longest` measures it against.

Each expression has one lemma that says what its words are in terms of characters and runs of digits
(`mem_digits`, `mem_marked` and so on). These are the words the lemmas about the reader speak, so the
expressions are opened in this file only.

The constants are a grammar of their own, because they alone look at what follows them.
-/

set_option autoImplicit false

namespace ScriptLiterals

open Text

namespace Number.Grammar

open RegularExpression (char)

/-! ## Expressions -/

/-- One of these characters. -/
def oneOf : List Char → RegularExpression Char
  | [] => 0
  | c :: cs => char c + oneOf cs

/-- These characters one after the other. -/
def word : List Char → RegularExpression Char
  | [] => 1
  | c :: cs => char c * word cs

/-- The expression, or nothing. -/
def maybe (e : RegularExpression Char) : RegularExpression Char := 1 + e

/-- A sign, or nothing. -/
def sign : RegularExpression Char := maybe (oneOf ['+', '-'])

/-- One or more digits. -/
def digits (r : Radix) : RegularExpression Char := oneOf r.digitChars * (oneOf r.digitChars).star

/-- `Infinity` and `NaN`. -/
def constant : RegularExpression Char :=
  word NumberValue.infinityText + word NumberValue.nanText

/-- A zero, a letter for the radix, digits and perhaps the suffix. -/
def marked (r : Radix) : RegularExpression Char :=
  char '0' * (oneOf r.letters * (digits r * maybe (char 'n')))

/-- Digits of an octal number behind a zero. -/
def legacyOctal : RegularExpression Char := char '0' * digits .octal

/-- Decimal digits without a leading zero, and the suffix. -/
def bigWhole : RegularExpression Char :=
  (char '0' + oneOf "123456789".toList * (oneOf Radix.decimal.digitChars).star) * char 'n'

/-- A letter `e`, a sign and digits. -/
def exponentPart : RegularExpression Char := oneOf ['e', 'E'] * (sign * digits .decimal)

/-- Decimal digits, perhaps with a point and more digits, perhaps with an exponent. -/
def decimal : RegularExpression Char :=
  digits .decimal *
    (maybe (char '.' * (oneOf Radix.decimal.digitChars).star) * maybe exponentPart)

/-- A point with digits behind it only, perhaps with an exponent. -/
def fraction : RegularExpression Char := char '.' * (digits .decimal * maybe exponentPart)

/-- Numbers without a sign, the constants aside. -/
def unsigned : RegularExpression Char :=
  marked .binary + marked .octal + marked .hexadecimal + bigWhole + decimal + fraction

/-- What is written in a radix. The decimal radix has no form of its own. -/
def ofRadix : Radix → RegularExpression Char
  | .binary => marked .binary
  | .octal => marked .octal + legacyOctal
  | .hexadecimal => marked .hexadecimal
  | .decimal => 0

/-! ## Their words -/

variable {text : List Char} {chars : List Char}

theorem mem_mul {e f : RegularExpression Char} :
    text ∈ (e * f).matches' ↔ ∃ a b, a ∈ e.matches' ∧ b ∈ f.matches' ∧ text = a ++ b := by
  rw [RegularExpression.matches'_mul, Language.mem_mul]
  constructor
  · intro h
    obtain ⟨a, ha, b, hb, rfl⟩ := h
    exact ⟨a, b, ha, hb, rfl⟩
  · intro h
    obtain ⟨a, b, ha, hb, rfl⟩ := h
    exact ⟨a, ha, b, hb, rfl⟩

theorem mem_add {e f : RegularExpression Char} :
    text ∈ (e + f).matches' ↔ text ∈ e.matches' ∨ text ∈ f.matches' := by
  rw [RegularExpression.matches'_add, Language.mem_add]

theorem mem_char {c : Char} : text ∈ (char c).matches' ↔ text = [c] := by
  rw [RegularExpression.matches'_char]
  rfl

theorem mem_char_mul {c : Char} {e : RegularExpression Char} :
    text ∈ (char c * e).matches' ↔ ∃ rest ∈ e.matches', text = c :: rest := by
  rw [mem_mul]
  constructor
  · intro h
    obtain ⟨a, b, ha, hb, rfl⟩ := h
    rw [mem_char.mp ha]
    exact ⟨b, hb, rfl⟩
  · intro h
    obtain ⟨rest, hrest, rfl⟩ := h
    exact ⟨[c], rest, mem_char.mpr rfl, hrest, rfl⟩

theorem mem_maybe {e : RegularExpression Char} :
    text ∈ (maybe e).matches' ↔ text = [] ∨ text ∈ e.matches' := by
  rw [maybe, mem_add, RegularExpression.matches'_epsilon, Language.mem_one]

theorem mem_oneOf : text ∈ (oneOf chars).matches' ↔ ∃ c ∈ chars, text = [c] := by
  induction chars with
  | nil => simp [oneOf, RegularExpression.matches'_zero]
  | cons c chars ih => rw [oneOf, mem_add, mem_char, ih]; simp

theorem mem_oneOf_mul {e : RegularExpression Char} :
    text ∈ (oneOf chars * e).matches' ↔ ∃ c ∈ chars, ∃ rest ∈ e.matches', text = c :: rest := by
  rw [mem_mul]
  constructor
  · intro h
    obtain ⟨a, b, ha, hb, rfl⟩ := h
    obtain ⟨c, hc, rfl⟩ := mem_oneOf.mp ha
    exact ⟨c, hc, b, hb, rfl⟩
  · intro h
    obtain ⟨c, hc, rest, hrest, rfl⟩ := h
    exact ⟨[c], rest, mem_oneOf.mpr ⟨c, hc, rfl⟩, hrest, rfl⟩

theorem mem_word {w : List Char} : text ∈ (word w).matches' ↔ text = w := by
  induction w generalizing text with
  | nil => rw [word, RegularExpression.matches'_epsilon, Language.mem_one]
  | cons c w ih =>
    rw [word, mem_char_mul]
    constructor
    · intro h
      obtain ⟨rest, hrest, rfl⟩ := h
      rw [ih.mp hrest]
    · rintro rfl
      exact ⟨w, ih.mpr rfl, rfl⟩

theorem mem_star_oneOf : text ∈ (oneOf chars).star.matches' ↔ ∀ c ∈ text, c ∈ chars := by
  rw [RegularExpression.matches'_star, Language.mem_kstar]
  constructor
  · intro h c hc
    obtain ⟨words, rfl, hwords⟩ := h
    obtain ⟨w, hw, hcw⟩ := List.mem_flatten.mp hc
    obtain ⟨d, hd, rfl⟩ := mem_oneOf.mp (hwords w hw)
    rw [List.mem_singleton.mp hcw]
    exact hd
  · intro hall
    refine ⟨text.map fun c => [c], by simp [← List.flatMap_def], fun w hw => ?_⟩
    obtain ⟨c, hc, rfl⟩ := List.mem_map.mp hw
    exact mem_oneOf.mpr ⟨c, hall c hc, rfl⟩

theorem mem_star_digits {r : Radix} :
    text ∈ (oneOf r.digitChars).star.matches' ↔ ∀ c ∈ text, r.isDigit c = true := by
  simp only [mem_star_oneOf, Radix.isDigit_iff_mem_digitChars]

/-- The words of `digits` are the runs of digits that are not empty. -/
theorem mem_digits {r : Radix} :
    text ∈ (digits r).matches' ↔ text ≠ [] ∧ ∀ c ∈ text, r.isDigit c = true := by
  rw [digits, mem_oneOf_mul]
  constructor
  · intro h
    obtain ⟨c, hc, rest, hrest, rfl⟩ := h
    refine ⟨by simp, fun d hd => ?_⟩
    rcases List.mem_cons.mp hd with rfl | hd
    · exact Radix.isDigit_iff_mem_digitChars.mpr hc
    · exact mem_star_digits.mp hrest d hd
  · intro h
    obtain ⟨hne, hall⟩ := h
    cases text with
    | nil => exact absurd rfl hne
    | cons c rest =>
      exact ⟨c, Radix.isDigit_iff_mem_digitChars.mp (hall c List.mem_cons_self), rest,
        mem_star_digits.mpr fun d hd => hall d (List.mem_cons_of_mem c hd), rfl⟩

theorem mem_sign : text ∈ sign.matches' ↔ Magnitude.IsSign text := by
  rw [sign, mem_maybe, mem_oneOf, Magnitude.IsSign]
  simp

theorem mem_constant : text ∈ constant.matches' ↔
    text = NumberValue.infinityText ∨ text = NumberValue.nanText := by
  rw [constant, mem_add, mem_word, mem_word]

theorem mem_marked {r : Radix} : text ∈ (marked r).matches' ↔
    ∃ letter run suffix, Radix.ofLetter? letter = some r ∧ run ≠ [] ∧
      (∀ c ∈ run, r.isDigit c = true) ∧ (suffix = [] ∨ suffix = ['n']) ∧
      text = '0' :: letter :: (run ++ suffix) := by
  simp only [marked, mem_char_mul, mem_oneOf_mul, mem_mul (f := maybe _), mem_maybe, mem_char,
    mem_digits, Radix.ofLetter?_eq_some_iff]
  constructor
  · intro h
    obtain ⟨_, ⟨letter, hletter, _, ⟨run, suffix, ⟨hne, hrun⟩, hsuffix, rfl⟩, rfl⟩, rfl⟩ := h
    exact ⟨letter, run, suffix, hletter, hne, hrun, hsuffix, rfl⟩
  · intro h
    obtain ⟨letter, run, suffix, hletter, hne, hrun, hsuffix, rfl⟩ := h
    exact ⟨_, ⟨letter, hletter, _, ⟨run, suffix, ⟨hne, hrun⟩, hsuffix, rfl⟩, rfl⟩, rfl⟩

/-- No letter selects the decimal radix. -/
theorem notMem_marked_decimal : text ∉ (marked .decimal).matches' := by
  intro h
  obtain ⟨letter, _, _, hletter, -⟩ := mem_marked.mp h
  exact absurd (Radix.ofLetter?_eq_some_iff.mp hletter) (by simp [Radix.letters])

theorem mem_legacyOctal : text ∈ legacyOctal.matches' ↔
    ∃ run, run ≠ [] ∧ (∀ c ∈ run, Radix.octal.isDigit c = true) ∧ text = '0' :: run := by
  simp only [legacyOctal, mem_char_mul, mem_digits, and_assoc]

theorem mem_exponentPart : text ∈ exponentPart.matches' ↔
    ∃ e sign run, (e = 'e' ∨ e = 'E') ∧ Magnitude.IsSign sign ∧ run ≠ [] ∧
      (∀ c ∈ run, Magnitude.isDecimalDigit c = true) ∧ text = e :: (sign ++ run) := by
  simp only [exponentPart, mem_oneOf_mul, mem_mul (f := digits _), mem_sign, mem_digits,
    Magnitude.isDecimalDigit]
  constructor
  · intro h
    obtain ⟨e, he, _, ⟨sign, run, hsign, ⟨hne, hrun⟩, rfl⟩, rfl⟩ := h
    exact ⟨e, sign, run, by simpa using he, hsign, hne, hrun, rfl⟩
  · intro h
    obtain ⟨e, sign, run, he, hsign, hne, hrun, rfl⟩ := h
    exact ⟨e, by simpa using he, _, ⟨sign, run, hsign, ⟨hne, hrun⟩, rfl⟩, rfl⟩

theorem mem_bigWhole : text ∈ bigWhole.matches' ↔
    ∃ run, run ≠ [] ∧ (∀ c ∈ run, Magnitude.isDecimalDigit c = true) ∧
      Magnitude.hasLeadingZero run = false ∧ text = run ++ ['n'] := by
  have hnonzero : ∀ {c}, c ∈ "123456789".toList → Magnitude.isDecimalDigit c = true ∧ c ≠ '0' := by
    intro c hc
    have hall : "123456789".toList.all (fun d => Magnitude.isDecimalDigit d && d != '0') = true := by
      decide
    simpa using List.all_eq_true.mp hall c hc
  have hdigits : Radix.decimal.digitChars = '0' :: "123456789".toList := by decide
  simp only [bigWhole, mem_mul (f := char _), mem_add, mem_char, mem_oneOf_mul, mem_star_digits]
  constructor
  · intro h
    obtain ⟨run, _, rfl | ⟨c, hc, rest, hrest, rfl⟩, rfl, rfl⟩ := h
    · exact ⟨['0'], by simp, List.all_eq_true.mp rfl, rfl, rfl⟩
    · refine ⟨c :: rest, by simp, fun d hd => ?_, ?_, rfl⟩
      · rcases List.mem_cons.mp hd with rfl | hd
        · exact (hnonzero hc).1
        · exact hrest d hd
      · unfold Magnitude.hasLeadingZero
        split
        · rename_i heq
          exact absurd (List.cons.inj heq).1 (hnonzero hc).2
        · rfl
  · intro h
    obtain ⟨run, hne, hrun, hzero, rfl⟩ := h
    refine ⟨run, _, ?_, rfl, rfl⟩
    cases run with
    | nil => exact absurd rfl hne
    | cons c rest =>
      have hc := Radix.isDigit_iff_mem_digitChars.mp (hrun c List.mem_cons_self)
      rw [hdigits] at hc
      rcases List.mem_cons.mp hc with rfl | hc
      · cases rest with
        | nil => exact Or.inl rfl
        | cons d rest => exact absurd hzero (by simp [Magnitude.hasLeadingZero])
      · exact Or.inr ⟨c, hc, rest, fun d hd => hrun d (List.mem_cons_of_mem c hd), rfl⟩

/-- A point with digits behind it, or nothing. -/
def IsPoint (point : List Char) : Prop :=
  point = [] ∨ ∃ run, (∀ c ∈ run, Magnitude.isDecimalDigit c = true) ∧ point = '.' :: run

theorem mem_decimal : text ∈ decimal.matches' ↔
    ∃ whole point tail, whole ≠ [] ∧ (∀ c ∈ whole, Magnitude.isDecimalDigit c = true) ∧
      IsPoint point ∧ tail ∈ (maybe exponentPart).matches' ∧ text = whole ++ (point ++ tail) := by
  have hpoint : ∀ {point}, IsPoint point ↔
      point ∈ (maybe (char '.' * (oneOf Radix.decimal.digitChars).star)).matches' := by
    intro point
    rw [mem_maybe, mem_char_mul]
    simp only [mem_star_digits]
    exact Iff.rfl
  simp only [hpoint, decimal, mem_mul (e := digits _), mem_mul (f := maybe exponentPart), mem_digits]
  constructor
  · intro h
    obtain ⟨whole, _, ⟨hne, hwhole⟩, ⟨point, tail, hpoint, htail, rfl⟩, rfl⟩ := h
    exact ⟨whole, point, tail, hne, hwhole, hpoint, htail, rfl⟩
  · intro h
    obtain ⟨whole, point, tail, hne, hwhole, hpoint, htail, rfl⟩ := h
    exact ⟨whole, _, ⟨hne, hwhole⟩, ⟨point, tail, hpoint, htail, rfl⟩, rfl⟩

theorem mem_fraction : text ∈ fraction.matches' ↔
    ∃ run tail, run ≠ [] ∧ (∀ c ∈ run, Magnitude.isDecimalDigit c = true) ∧
      tail ∈ (maybe exponentPart).matches' ∧ text = '.' :: (run ++ tail) := by
  rw [fraction, mem_char_mul]
  simp only [mem_mul, mem_digits]
  constructor
  · intro h
    obtain ⟨_, ⟨run, tail, ⟨hne, hrun⟩, htail, rfl⟩, rfl⟩ := h
    exact ⟨run, tail, hne, hrun, htail, rfl⟩
  · intro h
    obtain ⟨run, tail, hne, hrun, htail, rfl⟩ := h
    exact ⟨_, ⟨run, tail, ⟨hne, hrun⟩, htail, rfl⟩, rfl⟩

theorem mem_unsigned : text ∈ unsigned.matches' ↔
    (∃ r, text ∈ (marked r).matches') ∨ text ∈ bigWhole.matches' ∨ text ∈ decimal.matches' ∨
      text ∈ fraction.matches' := by
  have hmarked : (∃ r, text ∈ (marked r).matches') ↔ text ∈ (marked .binary).matches' ∨
      text ∈ (marked .octal).matches' ∨ text ∈ (marked .hexadecimal).matches' := by
    constructor
    · intro hparts
      obtain ⟨r, hr⟩ := hparts
      cases r with
      | binary => exact Or.inl hr
      | octal => exact Or.inr (Or.inl hr)
      | hexadecimal => exact Or.inr (Or.inr hr)
      | decimal => exact absurd hr notMem_marked_decimal
    · intro hparts
      rcases hparts with h | h | h
      · exact ⟨_, h⟩
      · exact ⟨_, h⟩
      · exact ⟨_, h⟩
  simp only [unsigned, mem_add, hmarked, or_assoc]

example : "08.5".toList ∈ unsigned.matches' ∧ "00n".toList ∉ unsigned.matches' := by decide

theorem notMem_ofRadix_decimal : text ∉ (ofRadix .decimal).matches' := by
  rw [ofRadix, RegularExpression.matches'_zero]
  exact Language.notMem_zero text

theorem mem_ofRadix {r : Radix} : text ∈ (ofRadix r).matches' ↔
    text ∈ (marked r).matches' ∨ (r = .octal ∧ text ∈ legacyOctal.matches') := by
  cases r with
  | binary | hexadecimal => simp [ofRadix]
  | octal =>
    rw [ofRadix, mem_add]
    simp
  | decimal => simp [notMem_ofRadix_decimal, notMem_marked_decimal]

/-- Whatever has a form of its own begins with a zero. -/
theorem exists_zero_of_mem_ofRadix {r : Radix} (h : text ∈ (ofRadix r).matches') :
    ∃ more, text = '0' :: more := by
  rcases mem_ofRadix.mp h with hmarked | ⟨-, hlegacy⟩
  · obtain ⟨letter, run, suffix, -, -, -, -, rfl⟩ := mem_marked.mp hmarked
    exact ⟨_, rfl⟩
  · obtain ⟨run, -, -, rfl⟩ := mem_legacyOctal.mp hlegacy
    exact ⟨_, rfl⟩

end Number.Grammar

end ScriptLiterals
