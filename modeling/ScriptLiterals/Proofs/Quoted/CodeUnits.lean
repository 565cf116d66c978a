import Mathlib.Data.List.Forall2
import ScriptLiterals.Proofs.Quoted.Unescape
import ScriptLiterals.Proofs.Utf16

/-!
# Escape sequences of code units

`\u` and four digits name a 16-bit code unit, so a list of such escape sequences names a list of code
units, and decoding it has to agree with decoding UTF-16. What the decoder does at one escape
sequence depends on the next: behind a high surrogate it reads on, and goes back if what it read is
no low one. `unescape_alone` and `unescape_pair` are its two kinds of steps, one for a unit that
stands alone and one for a pair, and the induction follows `Utf16.decode`.
-/

set_option autoImplicit false

namespace ScriptLiterals.Quoted

open Utf16

variable {unit high low : UInt16} {written more rest cs : List Char}

/-- The escape sequence of a code unit: four digits that denote it, letters of either case. -/
def IsUnitEscape (unit : UInt16) (written : List Char) : Prop :=
  ∃ digits, written = '\\' :: 'u' :: digits ∧ digits.length = 4 ∧
    Radix.hexadecimal.readDigits? digits = some unit.toNat

/-- Every code unit has one. -/
theorem isUnitEscape_hexPadded (unit : UInt16) :
    IsUnitEscape unit ('\\' :: 'u' :: Text.hexPadded 4 unit.toNat) :=
  ⟨_, rfl, Text.length_hexPadded (by decide) unit.toNat_lt, Text.readDigits?_hexPadded _ _⟩

theorem hexDigit?_brace : hexDigit? '\x7b' = none := rfl

/-! ## Code units as words -/

theorem toNat_unit (unit : UInt16) : unit.toNat.toUInt32.toNat = unit.toNat := by
  have hlt := unit.toNat_lt
  exact toNat_toUInt32 (by omega)

theorem isHighSurrogate_iff {word : UInt32} :
    isHighSurrogate word = true ↔ 0xd800 ≤ word.toNat ∧ word.toNat ≤ 0xdbff := by
  simp only [isHighSurrogate, Bool.and_eq_true, decide_eq_true_eq, UInt32.le_iff_toNat_le]
  rfl

theorem isLowSurrogate_iff {word : UInt32} :
    isLowSurrogate word = true ↔ 0xdc00 ≤ word.toNat ∧ word.toNat ≤ 0xdfff := by
  simp only [isLowSurrogate, Bool.and_eq_true, decide_eq_true_eq, UInt32.le_iff_toNat_le]
  rfl

theorem isHighSurrogate_unit_iff :
    isHighSurrogate unit.toNat.toUInt32 = true ↔ IsHigh unit := by
  rw [isHighSurrogate_iff, toNat_unit, IsHigh]

theorem isLowSurrogate_unit_iff : isLowSurrogate unit.toNat.toUInt32 = true ↔ IsLow unit := by
  rw [isLowSurrogate_iff, toNat_unit, IsLow]

/-- **The arithmetic that joins a pair wraps around nowhere.** -/
theorem toNat_paired {high low : UInt32} (hhigh : isHighSurrogate high = true)
    (hlow : isLowSurrogate low = true) :
    (0x10000 + (high - 0xd800) * 0x400 + (low - 0xdc00)).toNat =
      0x10000 + (high.toNat - 0xd800) * 0x400 + (low.toNat - 0xdc00) := by
  obtain ⟨hhigh, hhigh'⟩ := isHighSurrogate_iff.mp hhigh
  obtain ⟨hlow, hlow'⟩ := isLowSurrogate_iff.mp hlow
  have hsub : (high - 0xd800).toNat = high.toNat - 0xd800 :=
    UInt32.toNat_sub_of_le _ _ (UInt32.le_iff_toNat_le.mpr hhigh)
  have hsub' : (low - 0xdc00).toNat = low.toNat - 0xdc00 :=
    UInt32.toNat_sub_of_le _ _ (UInt32.le_iff_toNat_le.mpr hlow)
  rw [UInt32.toNat_add, UInt32.toNat_add, UInt32.toNat_mul, hsub, hsub']
  simp
  omega

theorem isValidChar_paired {high low : UInt32} (hhigh : isHighSurrogate high = true)
    (hlow : isLowSurrogate low = true) :
    (0x10000 + (high - 0xd800) * 0x400 + (low - 0xdc00)).isValidChar := by
  obtain ⟨-, hhigh'⟩ := isHighSurrogate_iff.mp hhigh
  obtain ⟨-, hlow'⟩ := isLowSurrogate_iff.mp hlow
  have hword := toNat_paired hhigh hlow
  refine Or.inr ⟨?_, ?_⟩
  · omega
  · omega

/-- The character of a code point that is not too large. -/
theorem charOfCode_eq {code : UInt32} (h : code.toNat ≤ 0x10ffff) :
    charOfCode code = ofCode code.toNat := by
  unfold charOfCode ofCode
  by_cases hvalid : code.isValidChar
  · have hsplit : code.toNat < 0xd800 ∨ 0xdfff < code.toNat ∧ code.toNat < 0x110000 := hvalid
    rw [dif_pos hvalid, if_neg (by omega)]
    apply Char.toNat_inj.mp
    rw [toNat_ofNat_of_isValidChar hsplit]
    rfl
  · have hsplit : ¬(code.toNat < 0xd800 ∨ 0xdfff < code.toNat ∧ code.toNat < 0x110000) := hvalid
    rw [dif_neg hvalid, if_pos (by omega)]

/-- A code unit by itself. -/
theorem charOfCode_unit (unit : UInt16) :
    charOfCode unit.toNat.toUInt32 = ofCode unit.toNat := by
  have hlt := unit.toNat_lt
  have hcode : unit.toNat.toUInt32.toNat ≤ 0x10ffff := by
    rw [toNat_unit]
    omega
  rw [charOfCode_eq hcode, toNat_unit]

/-- Two of them that make a pair. -/
theorem pairedChar_units (hhigh : IsHigh high) (hlow : IsLow low) :
    pairedChar high.toNat.toUInt32 low.toNat.toUInt32 = Char.ofNat (pairCode high low) := by
  have hword := toNat_paired
    (isHighSurrogate_unit_iff.mpr hhigh) (isLowSurrogate_unit_iff.mpr hlow)
  rw [toNat_unit, toNat_unit] at hword
  change _ = pairCode high low at hword
  have hbelow := pairCode_lt hhigh hlow
  have habove := le_pairCode high low
  rw [pairedChar, charOfCode_eq (by omega), hword, ofCode, if_neg (by omega)]

/-! ## Reading one escape sequence -/

/-- What follows a code unit that is no high surrogate is not looked at, and what follows a high
surrogate is left alone if it is no low one. -/
theorem readUnicode?_alone {word : UInt32} (h : readHex? 4 0 cs = some (word, rest))
    (halone : isHighSurrogate word = true → readLowSurrogate? rest = none) :
    readUnicode? cs = some (charOfCode word, rest) := by
  unfold readUnicode?
  split
  · exact absurd h (by simp [readHex?, hexDigit?_brace])
  · rw [h]
    dsimp only
    by_cases hhigh : isHighSurrogate word = true
    · obtain ⟨hlo, hhi⟩ := isHighSurrogate_iff.mp hhigh
      rw [if_pos hhigh, halone hhigh, charOfCode_eq (by omega), ofCode, if_pos (by omega)]
    · rw [if_neg hhigh]

theorem readUnicode?_pair {word low : UInt32} (h : readHex? 4 0 cs = some (word, more))
    (hhigh : isHighSurrogate word = true) (hlow : readLowSurrogate? more = some (low, rest)) :
    readUnicode? cs = some (pairedChar word low, rest) := by
  unfold readUnicode?
  split
  · exact absurd h (by simp [readHex?, hexDigit?_brace])
  · rw [h]
    dsimp only
    rw [if_pos hhigh, hlow]

theorem IsUnitEscape.exists_digits (h : IsUnitEscape unit written) (rest : List Char) :
    ∃ cs, written ++ rest = '\\' :: 'u' :: cs ∧ readHex? 4 0 cs = some (unit.toNat.toUInt32, rest) := by
  obtain ⟨digits, rfl, hlength, hread⟩ := h
  have hlt := unit.toNat_lt
  have hword := readHex?_of_readDigits? hread (by omega) rest
  rw [hlength] at hword
  exact ⟨digits ++ rest, rfl, hword⟩

theorem IsUnitEscape.readLowSurrogate? (h : IsUnitEscape unit written) (rest : List Char) :
    readLowSurrogate? (written ++ rest) =
      if IsLow unit then some (unit.toNat.toUInt32, rest) else none := by
  obtain ⟨cs, hcs, hread⟩ := h.exists_digits rest
  rw [hcs, Quoted.readLowSurrogate?, hread]
  dsimp only
  by_cases hlow : IsLow unit
  · rw [if_pos hlow, if_pos (isLowSurrogate_unit_iff.mpr hlow)]
  · rw [if_neg hlow, if_neg fun hword => hlow (isLowSurrogate_unit_iff.mp hword)]

/-! ## Decoding one unit or a pair -/

theorem unescape_alone (h : IsUnitEscape unit written)
    (halone : IsHigh unit → readLowSurrogate? rest = none) :
    unescape (written ++ rest) = ofCode unit.toNat :: unescape rest := by
  obtain ⟨cs, hcs, hread⟩ := h.exists_digits rest
  have hunicode := readUnicode?_alone hread fun hword =>
    halone (isHighSurrogate_unit_iff.mp hword)
  rw [hcs, unescape_unicode hunicode, charOfCode_unit]

theorem unescape_pair (hh : IsUnitEscape high written) (hl : IsUnitEscape low more)
    (hhigh : IsHigh high) (hlow : IsLow low) :
    unescape (written ++ (more ++ rest)) = Char.ofNat (pairCode high low) :: unescape rest := by
  obtain ⟨cs, hcs, hread⟩ := hh.exists_digits (more ++ rest)
  have hnext := hl.readLowSurrogate? rest
  rw [if_pos hlow] at hnext
  have hword := isHighSurrogate_unit_iff.mpr hhigh
  rw [hcs, unescape_unicode (readUnicode?_pair hread hword hnext), pairedChar_units hhigh hlow]

/-! ## Decoding a list of units -/

theorem unescape_flatten {units : List UInt16} {escapes : List (List Char)}
    (h : List.Forall₂ IsUnitEscape units escapes) :
    unescape escapes.flatten = decode units := by
  induction units using decode.induct generalizing escapes with
  | case1 =>
    cases h
    exact unescape_nil
  | case2 unit =>
    cases h with
    | cons hunit hnone =>
      cases hnone
      rw [List.flatten_cons, unescape_alone hunit fun _ => rfl, List.flatten_nil, unescape_nil,
        decode]
  | case3 high low units hpair ih =>
    cases h with
    | cons hh hrest =>
      cases hrest with
      | cons hl hrest =>
        rw [List.flatten_cons, List.flatten_cons, unescape_pair hh hl hpair.1 hpair.2, ih hrest,
          decode_pair hpair.1 hpair.2]
  | case4 high low units hpair ih =>
    cases h with
    | @cons _ written _ later hh hrest =>
      have hnext : IsHigh high → readLowSurrogate? later.flatten = none := by
        intro hhigh
        cases hrest with
        | cons hl hrest =>
          rw [List.flatten_cons, hl.readLowSurrogate?, if_neg fun hlow => hpair ⟨hhigh, hlow⟩]
      rw [List.flatten_cons, unescape_alone hh hnext, ih hrest, decode, if_neg hpair]

/-- A text whose code units are all escaped, in small letters, is decoded to itself. -/
theorem unescape_flatMap_encode (text : List Char) :
    unescape ((encode text).flatMap fun unit => '\\' :: 'u' :: Text.hexPadded 4 unit.toNat) =
      text := by
  have hescapes : List.Forall₂ IsUnitEscape (encode text)
      ((encode text).map fun unit => '\\' :: 'u' :: Text.hexPadded 4 unit.toNat) := by
    rw [List.forall₂_map_right_iff, List.forall₂_same]
    exact fun unit _ => isUnitEscape_hexPadded unit
  rw [List.flatMap_def, unescape_flatten hescapes, decode_encode]

/-- **Escape sequences of code units are decoded as UTF-16.** Whatever the units, a high surrogate
with a low one right behind it gives one character, any other surrogate U+FFFD and any other unit its
character. So the escaped units of a text give the text back, and the arithmetic that joins two
surrogates never leaves the code points of characters. -/
theorem unescape_unitEscapes {units : List UInt16} {escapes : List (List Char)}
    (h : List.Forall₂ IsUnitEscape units escapes) :
    unescape escapes.flatten = decode units ∧
      (∀ text, units = encode text → unescape escapes.flatten = text) ∧
      ∀ high low : UInt32, isHighSurrogate high = true → isLowSurrogate low = true →
        (0x10000 + (high - 0xd800) * 0x400 + (low - 0xdc00)).isValidChar ∧
        (pairedChar high low).toNat =
          0x10000 + (high.toNat - 0xd800) * 0x400 + (low.toNat - 0xdc00) := by
  refine ⟨unescape_flatten h, ?_, ?_⟩
  · rintro text rfl
    rw [unescape_flatten h, decode_encode]
  · intro high low hhigh hlow
    have hvalid := isValidChar_paired hhigh hlow
    refine ⟨hvalid, ?_⟩
    rw [pairedChar, charOfCode, dif_pos hvalid, ← toNat_paired hhigh hlow]
    rfl

/-- A high surrogate in front of a pair, a pair, a letter, and a low and a high surrogate that are
left over at the end, in digits of either case. -/
theorem unescape_unitEscapes_surrogates :
    let units : List UInt16 := [0xd83d, 0xd83d, 0xde00, 0x41, 0xde00, 0xdbff]
    let escapes := ["\\ud83d".toList, "\\uD83D".toList, "\\uDe00".toList, "\\u0041".toList,
      "\\ude00".toList, "\\uDbFf".toList]
    List.Forall₂ IsUnitEscape units escapes ∧
      unescape escapes.flatten = ['\ufffd', Char.ofNat 0x1f600, 'A', '\ufffd', '\ufffd'] := by
  intro units escapes
  have hescapes : List.Forall₂ IsUnitEscape units escapes :=
    .cons ⟨_, rfl, rfl, rfl⟩ <| .cons ⟨_, rfl, rfl, rfl⟩ <| .cons ⟨_, rfl, rfl, rfl⟩ <|
      .cons ⟨_, rfl, rfl, rfl⟩ <| .cons ⟨_, rfl, rfl, rfl⟩ <| .cons ⟨_, rfl, rfl, rfl⟩ .nil
  obtain ⟨hdecode, -, -⟩ := unescape_unitEscapes hescapes
  exact ⟨hescapes, hdecode.trans (by decide)⟩

end ScriptLiterals.Quoted
