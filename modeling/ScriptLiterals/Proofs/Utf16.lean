/-!
# UTF-16

A text as a sequence of 16-bit code units, and what a sequence of code units means. A character
beyond U+FFFF is written as a pair of surrogates, a high one and a low one. Any list of code units
can be decoded: a surrogate without its partner, which means nothing, becomes U+FFFD. Nothing that is
encoded is lost by this (`decode_encode`).
-/

set_option autoImplicit false

namespace ScriptLiterals.Utf16

variable {unit high low : UInt16}

/-- Whether a code unit is the first half of a pair. -/
def IsHigh (unit : UInt16) : Prop := 0xd800 ≤ unit.toNat ∧ unit.toNat ≤ 0xdbff

/-- Whether a code unit is the second half of a pair. -/
def IsLow (unit : UInt16) : Prop := 0xdc00 ≤ unit.toNat ∧ unit.toNat ≤ 0xdfff

instance : DecidablePred IsHigh := fun unit =>
  inferInstanceAs (Decidable (0xd800 ≤ unit.toNat ∧ unit.toNat ≤ 0xdbff))

instance : DecidablePred IsLow := fun unit =>
  inferInstanceAs (Decidable (0xdc00 ≤ unit.toNat ∧ unit.toNat ≤ 0xdfff))

/-- The character with a code point. A surrogate, which is no character, becomes U+FFFD. -/
def ofCode (code : Nat) : Char :=
  if 0xd800 ≤ code ∧ code ≤ 0xdfff then '\ufffd' else Char.ofNat code

/-- The code point that a pair stands for. It is always one of a character beyond U+FFFF
(`le_pairCode`, `pairCode_lt`). -/
def pairCode (high low : UInt16) : Nat :=
  0x10000 + (high.toNat - 0xd800) * 0x400 + (low.toNat - 0xdc00)

/-- What code units mean: a high surrogate and a low one right behind it are one character, every
other code unit stands for itself. -/
def decode : List UInt16 → List Char
  | [] => []
  | [unit] => [ofCode unit.toNat]
  | high :: low :: units =>
    if IsHigh high ∧ IsLow low then Char.ofNat (pairCode high low) :: decode units
    else ofCode high.toNat :: decode (low :: units)

/-- The first half of the pair for a character beyond U+FFFF. -/
def highOf (c : Char) : UInt16 := .ofNat (0xd800 + (c.toNat - 0x10000) / 0x400)

/-- The second half of that pair. -/
def lowOf (c : Char) : UInt16 := .ofNat (0xdc00 + (c.toNat - 0x10000) % 0x400)

/-- The code units of a character. -/
def encodeChar (c : Char) : List UInt16 :=
  if c.toNat < 0x10000 then [.ofNat c.toNat] else [highOf c, lowOf c]

/-- The code units of a text. -/
def encode (text : List Char) : List UInt16 := text.flatMap encodeChar

/-! ## Decoding -/

theorem le_pairCode (high low : UInt16) : 0x10000 ≤ pairCode high low := by
  unfold pairCode
  omega

theorem pairCode_lt (hhigh : IsHigh high) (hlow : IsLow low) : pairCode high low < 0x110000 := by
  obtain ⟨-, hhigh⟩ := hhigh
  obtain ⟨-, hlow⟩ := hlow
  unfold pairCode
  omega

theorem toNat_ofNat_of_isValidChar {code : Nat} (h : code.isValidChar) :
    (Char.ofNat code).toNat = code := by
  rw [Char.ofNat, dif_pos h]
  rfl

theorem decode_pair (hhigh : IsHigh high) (hlow : IsLow low) (units : List UInt16) :
    decode (high :: low :: units) = Char.ofNat (pairCode high low) :: decode units :=
  if_pos ⟨hhigh, hlow⟩

theorem decode_cons_of_not_isHigh (h : ¬IsHigh unit) (units : List UInt16) :
    decode (unit :: units) = ofCode unit.toNat :: decode units := by
  cases units with
  | nil => rfl
  | cons low units => exact if_neg fun hpair => h hpair.1

/-! ## Decoding what was encoded -/

theorem isValidChar_toNat (c : Char) :
    c.toNat < 0xd800 ∨ 0xdfff < c.toNat ∧ c.toNat < 0x110000 := c.valid

theorem ofCode_toNat (c : Char) : ofCode c.toNat = c := by
  have hvalid := isValidChar_toNat c
  rw [ofCode, if_neg (by omega), Char.ofNat_toNat]

theorem toNat_highOf (c : Char) :
    (highOf c).toNat = 0xd800 + (c.toNat - 0x10000) / 0x400 := by
  have hvalid := isValidChar_toNat c
  exact UInt16.toNat_ofNat_of_lt' (Nat.lt_of_lt_of_le (m := 0xdc00) (by omega) (by decide))

theorem toNat_lowOf (c : Char) :
    (lowOf c).toNat = 0xdc00 + (c.toNat - 0x10000) % 0x400 :=
  UInt16.toNat_ofNat_of_lt' (Nat.lt_of_lt_of_le (m := 0xe000) (by omega) (by decide))

theorem isHigh_highOf (c : Char) : IsHigh (highOf c) := by
  have hvalid := isValidChar_toNat c
  rw [IsHigh, toNat_highOf]
  omega

theorem isLow_lowOf (c : Char) : IsLow (lowOf c) := by
  rw [IsLow, toNat_lowOf]
  omega

theorem pairCode_highOf_lowOf {c : Char} (h : ¬c.toNat < 0x10000) :
    pairCode (highOf c) (lowOf c) = c.toNat := by
  have hhigh := toNat_highOf c
  have hlow := toNat_lowOf c
  unfold pairCode
  omega

/-- What one character is encoded as is decoded on its own, whatever stands behind it. -/
theorem decode_encodeChar_append (c : Char) (units : List UInt16) :
    decode (encodeChar c ++ units) = c :: decode units := by
  unfold encodeChar
  by_cases hsmall : c.toNat < 0x10000
  · have hvalid := isValidChar_toNat c
    have hunit : (UInt16.ofNat c.toNat).toNat = c.toNat := UInt16.toNat_ofNat_of_lt' hsmall
    have hlone : ¬IsHigh (UInt16.ofNat c.toNat) := by
      rw [IsHigh, hunit]
      omega
    rw [if_pos hsmall, List.singleton_append, decode_cons_of_not_isHigh hlone, hunit, ofCode_toNat]
  · rw [if_neg hsmall, List.cons_append, List.singleton_append,
      decode_pair (isHigh_highOf c) (isLow_lowOf c), pairCode_highOf_lowOf hsmall,
      Char.ofNat_toNat]

/-- **Encoding loses nothing.** -/
theorem decode_encode (text : List Char) : decode (encode text) = text := by
  induction text with
  | nil => rfl
  | cons c text ih =>
    change decode (encodeChar c ++ encode text) = c :: text
    rw [decode_encodeChar_append, ih]

end ScriptLiterals.Utf16
