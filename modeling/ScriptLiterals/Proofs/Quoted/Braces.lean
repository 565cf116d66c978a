import ScriptLiterals.Proofs.Quoted.CodeUnits
import ScriptLiterals.Proofs.Quoted.Overflow

/-!
# Code points in braces

`\u` with a number in braces stands for the character with that code point, however many digits the
number has. The reader gives up as soon as the number is larger than any code point, and what it then
leaves behind is decoded like any other text: only the backslash is lost. Both outcomes are one
statement about the reader (`readBraced?_append`), whose induction carries the number read so far.
That this number never overflows is the subject of `ScriptLiterals.Proofs.Quoted.Overflow`.
-/

set_option autoImplicit false

namespace ScriptLiterals.Quoted

variable {digits : List Char} {value : UInt32} {hasDigit : Bool}

/-- Digits and a closing brace: a character if there is a digit and the number is a code point. -/
theorem readBraced?_append (hdigits : ∀ c ∈ digits, Radix.hexadecimal.isDigit c = true)
    (hvalue : value.toNat ≤ 0x10ffff) (rest : List Char) :
    readBraced? value hasDigit (digits ++ '\x7d' :: rest) =
      let code := value.toNat * 16 ^ digits.length + Radix.hexadecimal.valueOf digits
      if code ≤ 0x10ffff ∧ (hasDigit = true ∨ digits ≠ []) then some (charOfCode code.toUInt32, rest)
      else none := by
  induction digits generalizing value hasDigit with
  | nil =>
    have hcode : value.toNat * 16 ^ ([] : List Char).length +
        Radix.hexadecimal.valueOf [] = value.toNat := by
      simp [Radix.valueOf]
    have hword : value.toNat.toUInt32 = value := UInt32.ofNat_toNat
    rw [List.nil_append, readBraced?, if_pos rfl]
    simp only [hcode, hvalue, hword, ne_eq, not_true_eq_false, or_false, true_and]
  | cons c digits ih =>
    obtain ⟨digit, hdigit, hd⟩ := exists_hexDigit? (hdigits c List.mem_cons_self)
    have htail : ∀ d ∈ digits, Radix.hexadecimal.isDigit d = true :=
      fun d hd => hdigits d (List.mem_cons_of_mem c hd)
    have hbrace : c ≠ '\x7d' := by
      rintro rfl
      exact absurd (hdigits _ List.mem_cons_self) (by decide)
    have hlt := toNat_lt_of_hexDigit? hdigit
    have hnext : (value * 16 + digit).toNat = value.toNat * 16 + digit.toNat :=
      toNat_mul_add (by omega)
    rw [List.length_cons, mul_pow_add_valueOf_cons, hd, ← hnext, List.cons_append, readBraced?,
      if_neg hbrace, hdigit]
    dsimp only
    by_cases hlarge : (0x10ffff : UInt32) < value * 16 + digit
    · -- the digits still to come can only make the number larger
      have hmore : (value * 16 + digit).toNat ≤
          (value * 16 + digit).toNat * 16 ^ digits.length :=
        Nat.le_mul_of_pos_right _ (Nat.pow_pos (by decide))
      have hlarge' : 0x10ffff < (value * 16 + digit).toNat := UInt32.lt_iff_toNat_lt.mp hlarge
      rw [if_pos hlarge, if_neg]
      omega
    · have hle : (value * 16 + digit).toNat ≤ 0x10ffff :=
        UInt32.le_iff_toNat_le.mp (UInt32.not_lt.mp hlarge)
      rw [if_neg hlarge, ih htail hle]
      simp

/-- The escape sequence with these digits in braces, and what follows it. -/
def braced (digits rest : List Char) : List Char :=
  '\\' :: 'u' :: '\x7b' :: (digits ++ '\x7d' :: rest)

theorem readUnicode?_braced (hdigits : ∀ c ∈ digits, Radix.hexadecimal.isDigit c = true)
    (rest : List Char) :
    readUnicode? ('\x7b' :: (digits ++ '\x7d' :: rest)) =
      if Radix.hexadecimal.valueOf digits ≤ 0x10ffff ∧ digits ≠ [] then
        some (charOfCode (Radix.hexadecimal.valueOf digits).toUInt32, rest)
      else none := by
  have hzero : (0 : UInt32).toNat ≤ 0x10ffff := by decide
  have hcode : (0 : UInt32).toNat * 16 ^ digits.length + Radix.hexadecimal.valueOf digits =
      Radix.hexadecimal.valueOf digits := by
    rw [UInt32.toNat_zero, Nat.zero_mul, Nat.zero_add]
  rw [readUnicode?, readBraced?_append hdigits hzero rest]
  simp only [hcode, Bool.false_eq_true, false_or]

theorem unescape_braced_of_le {code : Nat} (h : Radix.hexadecimal.readDigits? digits = some code)
    (hcode : code ≤ 0x10ffff) (rest : List Char) :
    unescape (braced digits rest) = Utf16.ofCode code :: unescape rest := by
  obtain ⟨hne, hdigits, rfl⟩ := Radix.readDigits?_eq_some_iff.mp h
  have hread := readUnicode?_braced hdigits rest
  rw [if_pos ⟨hcode, hne⟩] at hread
  have hword : (Radix.hexadecimal.valueOf digits).toUInt32.toNat =
      Radix.hexadecimal.valueOf digits := toNat_toUInt32 (by omega)
  rw [braced, unescape_unicode hread, charOfCode_eq (by omega), hword]

theorem unescape_braced_of_not (hdigits : ∀ c ∈ digits, Radix.hexadecimal.isDigit c = true)
    (h : ¬(Radix.hexadecimal.valueOf digits ≤ 0x10ffff ∧ digits ≠ [])) (rest : List Char) :
    unescape (braced digits rest) =
      'u' :: '\x7b' :: (digits ++ '\x7d' :: unescape rest) := by
  have hread := readUnicode?_braced hdigits rest
  rw [if_neg h] at hread
  have hback : '\\' ∉ '\x7b' :: (digits ++ ['\x7d']) := by
    intro hmem
    simp only [List.mem_cons, List.mem_append, List.not_mem_nil, or_false] at hmem
    rcases hmem with hopen | hdigit | hclose
    · exact absurd hopen (by decide)
    · exact absurd (hdigits _ hdigit) (by decide)
    · exact absurd hclose (by decide)
  have hrest := unescape_append_of_notMem hback rest
  rw [braced, unescape_not_unicode hread]
  simpa using hrest

/-- **Braces are decoded by value, and without overflow.** A number of at least one digit, leading
zeros included, that is a code point stands for its character, and U+FFFD if that is a surrogate. No
digits, or a number that is too large, stand for themselves with the `u` and the braces: only the
backslash is lost. In both cases decoding goes on right behind the brace. And in machine arithmetic
that fails on overflow the word that a code point is read into never overflows, whatever the text;
nor does anything else in a text of fewer than 2^31 characters. -/
theorem unescape_braced (digits rest : List Char) :
    (∀ code, Radix.hexadecimal.readDigits? digits = some code → code ≤ 0x10ffff →
      unescape (braced digits rest) = Utf16.ofCode code :: unescape rest) ∧
    ((digits = [] ∨ ∃ code, Radix.hexadecimal.readDigits? digits = some code ∧ 0x10ffff < code) →
      unescape (braced digits rest) =
        'u' :: '\x7b' :: (digits ++ '\x7d' :: unescape rest)) ∧
    (∀ text, Checked.unescape text ≠ .error .accumulator) ∧
    ∀ text : List Char, text.length < 2 ^ 31 → Checked.unescape text = .ok (unescape text) := by
  refine ⟨fun code hread hcode => unescape_braced_of_le hread hcode rest, ?_,
    Checked.unescape_ne_accumulator, fun text => Checked.unescape_eq⟩
  rintro (rfl | ⟨code, hread, hlarge⟩)
  · exact unescape_braced_of_not (by simp) (by simp) rest
  · obtain ⟨-, hdigits, rfl⟩ := Radix.readDigits?_eq_some_iff.mp hread
    exact unescape_braced_of_not hdigits (by omega) rest

/-- A character behind many zeros, a surrogate, and the first number that is too large, each in front
of an escaped line feed. -/
theorem unescape_braced_limits :
    let zeros := List.replicate 40 '0'
    Radix.hexadecimal.readDigits? (zeros ++ "1F600".toList) = some 0x1f600 ∧ 0x1f600 ≤ 0x10ffff ∧
      unescape (braced (zeros ++ "1F600".toList) ['\\', 'n']) = [Char.ofNat 0x1f600, '\n'] ∧
      Radix.hexadecimal.readDigits? "dFfF".toList = some 0xdfff ∧ 0xdfff ≤ 0x10ffff ∧
      unescape (braced "dFfF".toList ['\\', 'n']) = ['\ufffd', '\n'] ∧
      Radix.hexadecimal.readDigits? "110000".toList = some 0x110000 ∧ 0x10ffff < 0x110000 ∧
      unescape (braced "110000".toList ['\\', 'n']) = "u\x7b110000\x7d\n".toList ∧
      (braced "110000".toList ['\\', 'n']).length < 2 ^ 31 ∧
      Checked.unescape (braced "110000".toList ['\\', 'n']) = .ok "u\x7b110000\x7d\n".toList := by
  intro zeros
  have hrest : unescape ['\\', 'n'] = ['\n'] := by
    rw [unescape_backslash_cons]
    exact congrArg _ unescape_nil
  have hread : Radix.hexadecimal.readDigits? (zeros ++ "1F600".toList) = some 0x1f600 := by decide
  have hread' : Radix.hexadecimal.readDigits? "dFfF".toList = some 0xdfff := by decide
  have hlarge : Radix.hexadecimal.readDigits? "110000".toList = some 0x110000 := by decide
  have hlength : (braced "110000".toList ['\\', 'n']).length < 2 ^ 31 := by decide
  have hcode := (unescape_braced (zeros ++ "1F600".toList) ['\\', 'n']).1 _ hread (by decide)
  have hcode' := (unescape_braced "dFfF".toList ['\\', 'n']).1 _ hread' (by decide)
  obtain ⟨-, hkept, -, hchecked⟩ := unescape_braced "110000".toList ['\\', 'n']
  have hkept := hkept (Or.inr ⟨_, hlarge, by decide⟩)
  rw [hrest] at hcode hcode' hkept
  refine ⟨hread, by decide, hcode, hread', by decide, hcode', hlarge, by decide, hkept, hlength, ?_⟩
  rw [hchecked _ hlength, hkept]
  rfl

end ScriptLiterals.Quoted
