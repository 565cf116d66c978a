import Mathlib.Tactic.SplitIfs
import ScriptLiterals.Proofs.Hex
import ScriptLiterals.Quoted.Escape
import ScriptLiterals.Quoted.Unescape

/-!
# Decoding what escaping wrote

`escape` writes a text character by character and `unescape` reads it back the same way: whatever one
character is written as, decoding takes exactly that off the head and goes on with the rest
(`unescape_escapeChar_append`). The rest is arbitrary, so nothing that follows can be drawn into an
escape sequence: `\x` and `\u` are written with as many digits as they are read with, and neither of
the two line separators is half of a surrogate pair.

`Escaped` lists the ways in which a character is written, and proofs about printed characters go by
cases on it.

The one character that no list of exclusions may name is the backslash, since a raw backslash would
begin an escape sequence with whatever stands behind it.
-/

set_option autoImplicit false

namespace ScriptLiterals.Quoted

/-! ## Single steps of the decoder -/

@[simp] theorem unescape_nil : unescape [] = [] := by
  rw [unescape]

theorem unescape_cons_of_ne {c : Char} (h : c ≠ '\\') (cs : List Char) :
    unescape (c :: cs) = c :: unescape cs := by
  cases cs with
  | nil => rw [unescape_nil, unescape]
  | cons d cs => rw [unescape, if_neg h]

theorem unescape_backslash_cons (c : Char) (cs : List Char) :
    unescape ('\\' :: c :: cs) = (decodeEscape c cs).1 ++ unescape (decodeEscape c cs).2 := by
  rw [unescape, if_pos rfl]

theorem unescape_append_of_notMem {text : List Char} (h : '\\' ∉ text) (cs : List Char) :
    unescape (text ++ cs) = text ++ unescape cs := by
  induction text with
  | nil => rfl
  | cons c text ih =>
    have hc : c ≠ '\\' := fun hc => h (hc ▸ List.mem_cons_self)
    have htext : '\\' ∉ text := fun hmem => h (List.mem_cons_of_mem c hmem)
    rw [List.cons_append, unescape_cons_of_ne hc, ih htext, List.cons_append]

theorem decodeEscape_byte (cs : List Char) : decodeEscape 'x' cs =
    match readHex? 2 0 cs with
    | some (code, rest) => ([charOfCode code], rest)
    | none => (['x'], cs) := rfl

theorem decodeEscape_unicode (cs : List Char) : decodeEscape 'u' cs =
    match readUnicode? cs with
    | some (decoded, rest) => ([decoded], rest)
    | none => (['u'], cs) := rfl

/-- What is read behind `\u` is a character, and decoding goes on behind it. -/
theorem unescape_unicode {cs rest : List Char} {c : Char} (h : readUnicode? cs = some (c, rest)) :
    unescape ('\\' :: 'u' :: cs) = c :: unescape rest := by
  rw [unescape_backslash_cons, decodeEscape_unicode, h]
  rfl

/-- If nothing is read there, only the backslash is lost. -/
theorem unescape_not_unicode {cs : List Char} (h : readUnicode? cs = none) :
    unescape ('\\' :: 'u' :: cs) = 'u' :: unescape cs := by
  rw [unescape_backslash_cons, decodeEscape_unicode, h]
  rfl

/-- The letters that escaping writes are decoded to what they stand for. -/
theorem decodeEscape_escapeLetter {c letter : Char} (h : escapeLetter? c = some letter)
    (cs : List Char) : decodeEscape letter cs = ([c], cs) := by
  unfold escapeLetter? at h
  split_ifs at h with hself hn hr ht hb hf
  · obtain rfl := Option.some.inj h
    rcases hself with rfl | rfl | rfl | rfl <;> rfl
  all_goals
    obtain rfl := Option.some.inj h
    subst c
    rfl

/-! ## Numbered escape sequences -/

theorem toNat_toUInt32 {n : Nat} (h : n < 2 ^ 32) : n.toUInt32.toNat = n :=
  UInt32.toNat_ofNat_of_lt' h

/-- One more digit is taken in without overflow if the number it makes is a word. -/
theorem toNat_mul_add {value digit : UInt32} (h : value.toNat * 16 + digit.toNat < 2 ^ 32) :
    (value * 16 + digit).toNat = value.toNat * 16 + digit.toNat := by
  rw [UInt32.toNat_add, UInt32.toNat_mul]
  simp
  omega

theorem toNat_lt_of_hexDigit? {c : Char} {digit : UInt32} (h : hexDigit? c = some digit) :
    digit.toNat < 16 := by
  obtain ⟨d, hd, rfl⟩ := Option.map_eq_some_iff.mp h
  have hlt : d < 16 := Radix.lt_base_of_digit? hd
  rw [toNat_toUInt32 (by omega)]
  exact hlt

theorem exists_hexDigit? {c : Char} (h : Radix.hexadecimal.isDigit c = true) :
    ∃ digit, hexDigit? c = some digit ∧ (Radix.hexadecimal.digit? c).getD 0 = digit.toNat := by
  obtain ⟨d, hd⟩ := Option.isSome_iff_exists.mp h
  have hlt : d < 16 := Radix.lt_base_of_digit? hd
  refine ⟨d.toUInt32, by rw [hexDigit?, hd]; rfl, ?_⟩
  rw [hd, Option.getD_some, toNat_toUInt32 (by omega)]

/-- The number of digits behind a number already read: the first of them may be taken in at once. -/
theorem mul_pow_add_valueOf_cons (n : Nat) (c : Char) (digits : List Char) :
    n * 16 ^ (digits.length + 1) + Radix.hexadecimal.valueOf (c :: digits) =
      (n * 16 + (Radix.hexadecimal.digit? c).getD 0) * 16 ^ digits.length +
        Radix.hexadecimal.valueOf digits := by
  have hbase : Radix.hexadecimal.base = 16 := rfl
  rw [Radix.valueOf_cons, hbase, Nat.pow_succ]
  ring

/-- **Digits are read as the number they denote**, as long as that is a word: then so are the numbers
of all shorter runs. -/
theorem readHex?_append {digits : List Char}
    (hdigits : ∀ c ∈ digits, Radix.hexadecimal.isDigit c = true) (value : UInt32)
    (hfits : value.toNat * 16 ^ digits.length + Radix.hexadecimal.valueOf digits < 2 ^ 32)
    (rest : List Char) :
    readHex? digits.length value (digits ++ rest) =
      some ((value.toNat * 16 ^ digits.length + Radix.hexadecimal.valueOf digits).toUInt32,
        rest) := by
  induction digits generalizing value with
  | nil =>
    have hvalue : value.toNat.toUInt32 = value := UInt32.ofNat_toNat
    simp [readHex?, Radix.valueOf, hvalue]
  | cons c digits ih =>
    obtain ⟨digit, hdigit, hvalue⟩ := exists_hexDigit? (hdigits c List.mem_cons_self)
    have htail : ∀ d ∈ digits, Radix.hexadecimal.isDigit d = true :=
      fun d hd => hdigits d (List.mem_cons_of_mem c hd)
    rw [List.length_cons, mul_pow_add_valueOf_cons, hvalue] at hfits ⊢
    have hle : value.toNat * 16 + digit.toNat ≤
        (value.toNat * 16 + digit.toNat) * 16 ^ digits.length :=
      Nat.le_mul_of_pos_right _ (Nat.pow_pos (by decide))
    have hword : value.toNat * 16 + digit.toNat < 2 ^ 32 := by omega
    rw [← toNat_mul_add hword] at hfits ⊢
    rw [List.cons_append, readHex?, hdigit]
    exact ih htail _ hfits

theorem readHex?_of_readDigits? {digits : List Char} {n : Nat}
    (h : Radix.hexadecimal.readDigits? digits = some n) (hfits : n < 2 ^ 32) (rest : List Char) :
    readHex? digits.length 0 (digits ++ rest) = some (n.toUInt32, rest) := by
  obtain ⟨-, hdigits, rfl⟩ := Radix.readDigits?_eq_some_iff.mp h
  have hvalue : (0 : UInt32).toNat * 16 ^ digits.length + Radix.hexadecimal.valueOf digits =
      Radix.hexadecimal.valueOf digits := by
    rw [UInt32.toNat_zero, Nat.zero_mul, Nat.zero_add]
  have hread := readHex?_append hdigits 0 (hvalue.trans_lt hfits) rest
  rw [hvalue] at hread
  exact hread

/-- A byte is read back from its two digits. -/
theorem readHex?_hexPadded_two {n : Nat} (h : n < 256) (cs : List Char) :
    readHex? 2 0 (Text.hexPadded 2 n ++ cs) = some (n.toUInt32, cs) := by
  have hlength : (Text.hexPadded 2 n).length = 2 := Text.length_hexPadded (by decide) h
  have hread := readHex?_of_readDigits? (Text.readDigits?_hexPadded 2 n) (by omega) cs
  rw [hlength] at hread
  exact hread

/-- Every character is the one with its code point. -/
theorem charOfCode_toNat (c : Char) : charOfCode c.toNat.toUInt32 = c := by
  have hcode : c.toNat.toUInt32 = c.val := UInt32.ofNat_toNat
  rw [hcode, charOfCode, dif_pos c.valid]

/-! ## Printed characters -/

/-- The ways in which a character is written. -/
inductive Escaped (excluded : List Char) (c : Char) : List Char → Prop where
  | raw (hmem : c ∈ excluded) : Escaped excluded c [c]
  | letter {letter : Char} (hletter : escapeLetter? c = some letter) :
      Escaped excluded c ['\\', letter]
  | separator (hsep : c = '\u2028' ∨ c = '\u2029') :
      Escaped excluded c ('\\' :: 'u' :: Text.hexPadded 4 c.toNat)
  | control (hbyte : c.toNat < 256) :
      Escaped excluded c ('\\' :: 'x' :: Text.hexPadded 2 c.toNat)
  | plain (hletter : escapeLetter? c = none) : Escaped excluded c [c]

theorem escaped_escapeChar (excluded : List Char) (c : Char) :
    Escaped excluded c (escapeChar excluded c) := by
  unfold escapeChar
  by_cases hraw : excluded.contains c = true
  · rw [if_pos hraw]
    exact .raw (by simpa using hraw)
  · rw [if_neg hraw]
    cases hletter : escapeLetter? c with
    | some letter => exact .letter hletter
    | none =>
      dsimp only
      split
      · rename_i hsep
        exact .separator hsep
      · split
        · rename_i hcontrol
          refine .control ?_
          simp only [isAsciiControl, Bool.or_eq_true, decide_eq_true_eq, beq_iff_eq] at hcontrol
          omega
        · exact .plain hletter

/-- Digits are written as they are. -/
theorem escapeLetter?_of_isDigit {c : Char} (h : Radix.hexadecimal.isDigit c = true) :
    escapeLetter? c = none := by
  unfold escapeLetter?
  split_ifs with hself hn hr ht hb hf
  · rcases hself with rfl | rfl | rfl | rfl <;> exact absurd h (by decide)
  all_goals first
    | rfl
    | subst c
      exact absurd h (by decide)

/-! ## Whole texts -/

/-- The two digits behind an `x` are decoded to their character. -/
theorem decodeEscape_hexPadded_two {c : Char} (h : c.toNat < 256) (cs : List Char) :
    decodeEscape 'x' (Text.hexPadded 2 c.toNat ++ cs) = ([c], cs) := by
  rw [decodeEscape_byte, readHex?_hexPadded_two h]
  dsimp only
  rw [charOfCode_toNat]

/-- **Decoding takes off the head of a text exactly what one character was written as.** -/
theorem unescape_escapeChar_append {excluded : List Char} (hexcl : '\\' ∉ excluded) (c : Char)
    (cs : List Char) : unescape (escapeChar excluded c ++ cs) = c :: unescape cs := by
  have hescaped := escaped_escapeChar excluded c
  generalize escapeChar excluded c = written at hescaped ⊢
  cases hescaped with
  | raw hmem =>
    have hne : c ≠ '\\' := by
      rintro rfl
      exact hexcl hmem
    exact unescape_cons_of_ne hne cs
  | letter hletter =>
    rw [List.cons_append, List.cons_append, unescape_backslash_cons,
      decodeEscape_escapeLetter hletter]
    rfl
  | separator hsep =>
    -- four digits that are no half of a surrogate pair, so what stands behind is not looked at
    rcases hsep with rfl | rfl
    · exact unescape_backslash_cons 'u' (['2', '0', '2', '8'] ++ cs)
    · exact unescape_backslash_cons 'u' (['2', '0', '2', '9'] ++ cs)
  | control hbyte =>
    rw [List.cons_append, List.cons_append, unescape_backslash_cons,
      decodeEscape_hexPadded_two hbyte]
    rfl
  | plain hletter =>
    have hne : c ≠ '\\' := by
      rintro rfl
      exact absurd hletter (by decide)
    exact unescape_cons_of_ne hne cs

/-- Decoding undoes escaping, whatever is excluded apart from the backslash. -/
theorem unescape_escape_eq {excluded : List Char} (hexcl : '\\' ∉ excluded) (text : List Char) :
    unescape (escape excluded text) = text := by
  induction text with
  | nil => exact unescape_nil
  | cons c text ih =>
    show unescape (escapeChar excluded c ++ escape excluded text) = c :: text
    rw [unescape_escapeChar_append hexcl, ih]

end ScriptLiterals.Quoted
