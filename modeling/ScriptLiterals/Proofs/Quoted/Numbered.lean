import ScriptLiterals.Proofs.Quoted.Braces

/-!
# What the readers of numbers take

Behind `\x` stand two digits, behind `\u` four or a number in braces. `IsNumber` lists these texts.
A reader of one kind takes exactly the texts of that kind off the head of what it is given, and what
follows them makes no difference (`Takes`); no such text holds a backslash, so none reaches into the
next escape sequence. Only the two halves of a surrogate pair are read across a backslash, and
`readUnicode?_eq` keeps that step apart from the reading of the numbers.
-/

set_option autoImplicit false

namespace ScriptLiterals.Quoted

variable {α : Type} {text cs rest : List Char}

/-- The text is digits, `count` of them. -/
def AreDigits (count : Nat) (text : List Char) : Prop :=
  text.length = count ∧ ∀ c ∈ text, Radix.hexadecimal.isDigit c = true

/-- The text is a code point in braces. -/
def IsBraced (text : List Char) : Prop :=
  ∃ digits code, text = '\x7b' :: (digits ++ ['\x7d']) ∧
    Radix.hexadecimal.readDigits? digits = some code ∧ code ≤ 0x10ffff

/-- What has to follow a letter behind a backslash to make an escape sequence with a number. -/
inductive IsNumber : Char → List Char → Prop where
  | byte {digits : List Char} (h : AreDigits 2 digits) : IsNumber 'x' digits
  | unit {digits : List Char} (h : AreDigits 4 digits) : IsNumber 'u' digits
  | braced {text : List Char} (h : IsBraced text) : IsNumber 'u' text

/-- The reader takes the texts of one kind, whatever follows them, and no others. None of them holds
a backslash. -/
structure Takes (read : List Char → Option (α × List Char)) (IsTaken : List Char → Prop) :
    Prop where
  exists_taken : ∀ {cs a rest}, read cs = some (a, rest) → ∃ text, IsTaken text ∧ cs = text ++ rest
  exists_read : ∀ {text}, IsTaken text → ∃ a, ∀ rest, read (text ++ rest) = some (a, rest)
  backslash_notMem : ∀ {text}, IsTaken text → '\\' ∉ text

/-- What was taken is taken with the same result in front of anything else. -/
theorem Takes.exists_local {read : List Char → Option (α × List Char)}
    {IsTaken : List Char → Prop} (h : Takes read IsTaken) {a : α} (hread : read cs = some (a, rest)) :
    ∃ text, IsTaken text ∧ cs = text ++ rest ∧ ∀ rest', read (text ++ rest') = some (a, rest') := by
  obtain ⟨text, htaken, rfl⟩ := h.exists_taken hread
  obtain ⟨a', hagain⟩ := h.exists_read htaken
  rw [hagain] at hread
  obtain rfl : a' = a := congrArg Prod.fst (Option.some.inj hread)
  exact ⟨text, htaken, rfl, hagain⟩

/-! ## Digits -/

theorem isDigit_of_hexDigit? {c : Char} {digit : UInt32} (h : hexDigit? c = some digit) :
    Radix.hexadecimal.isDigit c = true := by
  obtain ⟨d, hd, -⟩ := Option.map_eq_some_iff.mp h
  rw [Radix.isDigit, hd]
  rfl

theorem backslash_notMem_digits (h : ∀ c ∈ text, Radix.hexadecimal.isDigit c = true) :
    '\\' ∉ text := by
  intro hmem
  exact absurd (h _ hmem) (by decide)

/-- Only digits are read as digits. -/
theorem exists_digits_of_readHex? {count : Nat} {value : UInt32} {found : UInt32}
    (h : readHex? count value cs = some (found, rest)) :
    ∃ digits, AreDigits count digits ∧ cs = digits ++ rest := by
  induction count generalizing value cs with
  | zero =>
    obtain ⟨-, rfl⟩ := Prod.mk.inj (Option.some.inj h)
    exact ⟨[], ⟨rfl, by simp⟩, rfl⟩
  | succ count ih =>
    cases cs with
    | nil => exact absurd h (by simp [readHex?])
    | cons c cs =>
      cases hdigit : hexDigit? c with
      | none => exact absurd h (by simp [readHex?, hdigit])
      | some digit =>
        simp only [readHex?, hdigit] at h
        obtain ⟨digits, ⟨hlength, hdigits⟩, rfl⟩ := ih h
        refine ⟨c :: digits, ⟨by rw [List.length_cons, hlength], ?_⟩, rfl⟩
        intro d hd
        rcases List.mem_cons.mp hd with rfl | hd
        · exact isDigit_of_hexDigit? hdigit
        · exact hdigits d hd

/-- As many digits as make no more than a word are read, all of them. -/
theorem takes_readHex? (count : Nat) (hcount : count < 8) :
    Takes (readHex? count 0) (AreDigits count) where
  exists_taken := exists_digits_of_readHex?
  exists_read := by
    rintro text ⟨rfl, hdigits⟩
    have hvalue : Radix.hexadecimal.valueOf text < 16 ^ text.length := Radix.valueOf_lt text
    have hpow : 16 ^ text.length ≤ 16 ^ 7 := Nat.pow_le_pow_right (by decide) (by omega)
    have hfits : (0 : UInt32).toNat * 16 ^ text.length + Radix.hexadecimal.valueOf text < 2 ^ 32 := by
      rw [UInt32.toNat_zero]
      omega
    exact ⟨_, readHex?_append hdigits 0 hfits⟩
  backslash_notMem := fun h => backslash_notMem_digits h.2

/-! ## Numbers in braces -/

/-- A code point in braces and what follows it. -/
def readInBraces? : List Char → Option (Char × List Char)
  | '\x7b' :: cs => readBraced? 0 false cs
  | _ => none

theorem exists_digits_of_readBraced? {value : UInt32} {hasDigit : Bool} {found : Char}
    (h : readBraced? value hasDigit cs = some (found, rest)) :
    ∃ digits, (∀ c ∈ digits, Radix.hexadecimal.isDigit c = true) ∧ cs = digits ++ '\x7d' :: rest := by
  induction cs generalizing value hasDigit with
  | nil => exact absurd h (by simp [readBraced?])
  | cons c cs ih =>
    unfold readBraced? at h
    split at h
    · rename_i hbrace
      split at h
      · obtain ⟨-, rfl⟩ := Prod.mk.inj (Option.some.inj h)
        exact ⟨[], by simp, by rw [hbrace]; rfl⟩
      · exact absurd h (by simp)
    · cases hdigit : hexDigit? c with
      | none => exact absurd h (by simp [hdigit])
      | some digit =>
        simp only [hdigit] at h
        split at h
        · exact absurd h (by simp)
        · obtain ⟨digits, hdigits, rfl⟩ := ih h
          refine ⟨c :: digits, ?_, rfl⟩
          intro d hd
          rcases List.mem_cons.mp hd with rfl | hd
          · exact isDigit_of_hexDigit? hdigit
          · exact hdigits d hd

theorem takes_readInBraces? : Takes readInBraces? IsBraced where
  exists_taken := by
    intro cs found rest h
    unfold readInBraces? at h
    split at h
    · rename_i cs
      obtain ⟨digits, hdigits, rfl⟩ := exists_digits_of_readBraced? h
      have hread := readUnicode?_braced hdigits rest
      rw [readUnicode?, h] at hread
      by_cases hcode : Radix.hexadecimal.valueOf digits ≤ 0x10ffff ∧ digits ≠ []
      · have hnumber := Radix.readDigits?_eq_some_iff.mpr ⟨hcode.2, hdigits, rfl⟩
        exact ⟨_, ⟨digits, _, rfl, hnumber, hcode.1⟩, by simp⟩
      · rw [if_neg hcode] at hread
        exact absurd hread (by simp)
    · exact absurd h (by simp)
  exists_read := by
    rintro text ⟨digits, code, rfl, hread, hcode⟩
    obtain ⟨hne, hdigits, rfl⟩ := Radix.readDigits?_eq_some_iff.mp hread
    refine ⟨charOfCode (Radix.hexadecimal.valueOf digits).toUInt32, fun rest => ?_⟩
    have htext := readUnicode?_braced hdigits rest
    rw [if_pos ⟨hcode, hne⟩, readUnicode?] at htext
    simpa [readInBraces?] using htext
  backslash_notMem := by
    rintro text ⟨digits, code, rfl, hread, -⟩
    obtain ⟨-, hdigits, -⟩ := Radix.readDigits?_eq_some_iff.mp hread
    simpa using backslash_notMem_digits hdigits

/-! ## What follows the letter `u` -/

/-- Four digits, and if they are the first half of a surrogate pair, the second half if it follows. -/
def readUnits? (cs : List Char) : Option (Char × List Char) :=
  (readHex? 4 0 cs).map fun found =>
    if isHighSurrogate found.1 then
      match readLowSurrogate? found.2 with
      | some (low, rest) => (pairedChar found.1 low, rest)
      | none => ('\ufffd', found.2)
    else (charOfCode found.1, found.2)

/-- **A number in braces is tried first, then code units.** -/
theorem readUnicode?_eq (cs : List Char) :
    readUnicode? cs = (readInBraces? cs).or (readUnits? cs) := by
  unfold readUnicode?
  split
  · rename_i cs
    rw [readInBraces?, readUnits?, show readHex? 4 0 ('\x7b' :: cs) = none by
      simp [readHex?, hexDigit?_brace]]
    simp
  · rename_i hbrace
    have hnone : readInBraces? cs = none := by
      unfold readInBraces?
      split
      · rename_i cs
        exact absurd rfl (hbrace cs)
      · rfl
    rw [hnone, Option.none_or, readUnits?]
    cases readHex? 4 0 cs with
    | none => rfl
    | some found =>
      dsimp only [Option.map_some]
      split
      · cases readLowSurrogate? found.2 <;> rfl
      · rfl

theorem readUnits?_eq_none_iff : readUnits? cs = none ↔ readHex? 4 0 cs = none :=
  Option.map_eq_none_iff

theorem readUnicode?_eq_none_iff :
    readUnicode? cs = none ↔ readInBraces? cs = none ∧ readHex? 4 0 cs = none := by
  rw [readUnicode?_eq, Option.or_eq_none_iff, readUnits?_eq_none_iff]

theorem exists_readUnicode? {found : UInt32 × List Char} (h : readHex? 4 0 cs = some found) :
    ∃ c rest, readUnicode? cs = some (c, rest) := by
  cases hread : readUnicode? cs with
  | none =>
    rw [(readUnicode?_eq_none_iff.mp hread).2] at h
    exact absurd h (by simp)
  | some found' => exact ⟨found'.1, found'.2, rfl⟩

/-- A brace is no digit. -/
theorem readHex?_of_readInBraces? {found : Char × List Char} (h : readInBraces? cs = some found) :
    readHex? 4 0 cs = none := by
  unfold readInBraces? at h
  split at h
  · simp [readHex?, hexDigit?_brace]
  · exact absurd h (by simp)

theorem readLowSurrogate?_eq_some_iff {low : UInt32} :
    readLowSurrogate? cs = some (low, rest) ↔
      ∃ behind, cs = '\\' :: 'u' :: behind ∧ readHex? 4 0 behind = some (low, rest) ∧
        isLowSurrogate low = true := by
  constructor
  · intro h
    unfold readLowSurrogate? at h
    split at h
    · rename_i behind
      cases hread : readHex? 4 0 behind with
      | none => exact absurd h (by simp [hread])
      | some found =>
        simp only [hread] at h
        split at h
        · rename_i hlow
          obtain ⟨rfl, rfl⟩ := Prod.mk.inj (Option.some.inj h)
          exact ⟨behind, rfl, hread, hlow⟩
        · exact absurd h (by simp)
    · exact absurd h (by simp)
  · intro hparts
    obtain ⟨behind, rfl, hread, hlow⟩ := hparts
    rw [readLowSurrogate?, hread]
    exact if_pos hlow

/-- The second half of a surrogate pair, by itself, stands for U+FFFD. -/
theorem unescape_of_readLowSurrogate? {low : UInt32} (h : readLowSurrogate? cs = some (low, rest)) :
    unescape cs = '\ufffd' :: unescape rest := by
  obtain ⟨behind, rfl, hread, hlow⟩ := readLowSurrogate?_eq_some_iff.mp h
  obtain ⟨hmin, hmax⟩ := isLowSurrogate_iff.mp hlow
  have halone : isHighSurrogate low = true → readLowSurrogate? rest = none := by
    intro hhigh
    obtain ⟨-, hle⟩ := isHighSurrogate_iff.mp hhigh
    omega
  rw [unescape_unicode (readUnicode?_alone hread halone), charOfCode_eq (by omega), Utf16.ofCode,
    if_pos (by omega)]

/-- Whatever is read behind `\u` would be more than one character if it were not read. -/
theorem length_unescape_lt_of_readUnicode? {c : Char} (h : readUnicode? cs = some (c, rest)) :
    (unescape rest).length < (unescape cs).length := by
  rw [readUnicode?_eq] at h
  rcases Option.or_eq_some_iff.mp h with hbraced | ⟨-, hunits⟩
  · obtain ⟨text, htaken, rfl⟩ := takes_readInBraces?.exists_taken hbraced
    rw [unescape_append_of_notMem (takes_readInBraces?.backslash_notMem htaken), List.length_append]
    obtain ⟨digits, code, rfl, -⟩ := htaken
    simp
  · obtain ⟨⟨word, behind⟩, hread, hfound⟩ := Option.map_eq_some_iff.mp hunits
    obtain ⟨digits, ⟨hlength, hdigits⟩, rfl⟩ := exists_digits_of_readHex? hread
    have hle : (unescape rest).length ≤ (unescape behind).length := by
      dsimp only at hfound
      split at hfound
      · cases hlow : readLowSurrogate? behind with
        | none =>
          rw [hlow] at hfound
          rw [(Prod.mk.inj hfound).2]
        | some found =>
          rw [hlow] at hfound
          obtain ⟨-, rfl⟩ := Prod.mk.inj hfound
          rw [unescape_of_readLowSurrogate? hlow, List.length_cons]
          omega
      · rw [(Prod.mk.inj hfound).2]
    rw [unescape_append_of_notMem (backslash_notMem_digits hdigits), List.length_append]
    omega

theorem IsUnitEscape.readHex? {unit : UInt16} (h : IsUnitEscape unit ('\\' :: 'u' :: text))
    (rest : List Char) : readHex? 4 0 (text ++ rest) = some (unit.toNat.toUInt32, rest) := by
  obtain ⟨cs, hcs, hread⟩ := h.exists_digits rest
  obtain ⟨-, htail⟩ := List.cons.inj hcs
  obtain ⟨-, rfl⟩ := List.cons.inj htail
  exact hread

theorem IsUnitEscape.backslash_notMem {unit : UInt16} (h : IsUnitEscape unit ('\\' :: 'u' :: text)) :
    '\\' ∉ text := by
  obtain ⟨digits, hdigits, -, hvalue⟩ := h
  obtain ⟨-, htail⟩ := List.cons.inj hdigits
  obtain ⟨-, rfl⟩ := List.cons.inj htail
  exact backslash_notMem_digits (Radix.readDigits?_eq_some_iff.mp hvalue).2.1

/-- Four digits that were read are the escape sequence of a code unit. -/
theorem exists_unit {word : UInt32} (h : AreDigits 4 text)
    (hread : readHex? 4 0 (text ++ rest) = some (word, rest)) :
    ∃ unit : UInt16, IsUnitEscape unit ('\\' :: 'u' :: text) ∧ word = unit.toNat.toUInt32 := by
  obtain ⟨hlength, hdigits⟩ := h
  have hlt : Radix.hexadecimal.valueOf text < 16 ^ text.length := Radix.valueOf_lt text
  rw [hlength] at hlt
  have hne : text ≠ [] := by
    rintro rfl
    exact absurd hlength (by simp)
  have hunit : (Radix.hexadecimal.valueOf text).toUInt16.toNat = Radix.hexadecimal.valueOf text :=
    UInt16.toNat_ofNat_of_lt' hlt
  have hvalue := Radix.readDigits?_eq_some_iff.mpr ⟨hne, hdigits, hunit.symm⟩
  have hword := readHex?_of_readDigits? hvalue (by omega) rest
  rw [hlength, hread] at hword
  exact ⟨_, ⟨text, rfl, hlength, hvalue⟩, congrArg Prod.fst (Option.some.inj hword)⟩

end ScriptLiterals.Quoted
