import ScriptLiterals.Proofs.Quoted.Unescape

/-!
# Decoding in machine arithmetic

Code points are read into a word of 32 bits, one digit at a time, and between braces any number of
digits may stand. `Checked.unescape` is the decoder once more, with arithmetic that fails where a
word would wrap around; it also counts the digits between braces, which the decoder does not, with a
signed word of 32 bits. Joining two surrogates is not checked here: it works on words that are in
range already, and wraps around nowhere (`toNat_paired`).

The accumulator never fails. Between braces the number is compared with the last code point after
each digit, so it is never larger than that when the next digit comes, and sixteen times that is far
from the end of the range (`agrees_readBraced?`); outside braces there are four digits at most. The
counter fails only where there are 2^31 digits to be counted. `Agrees` says both at once, and goes up
through the readers one by one.
-/

set_option autoImplicit false

namespace ScriptLiterals.Quoted

variable {c : Char} {cs : List Char} {value digit : UInt32}

/-- What can overflow while escape sequences are decoded. -/
inductive Overflow where
  /-- The word that a code point is read into. -/
  | accumulator
  /-- The number of digits between braces. -/
  | counter
  deriving DecidableEq, Repr

namespace Checked

/-! ## The checked decoder -/

/-- Takes one more digit into the accumulator. -/
def takeDigit (value digit : UInt32) : Except Overflow UInt32 :=
  if value.toNat * 16 + digit.toNat < 2 ^ 32 then .ok (value * 16 + digit) else .error .accumulator

/-- Counts one more digit. -/
def countDigit (count : Nat) : Except Overflow Nat :=
  if count + 1 < 2 ^ 31 then .ok (count + 1) else .error .counter

/-- `Quoted.readHex?` in checked arithmetic. -/
def readHex? : Nat → UInt32 → List Char → Except Overflow (Option (UInt32 × List Char))
  | 0, value, cs => .ok (some (value, cs))
  | _ + 1, _, [] => .ok none
  | count + 1, value, c :: cs =>
    match hexDigit? c with
    | none => .ok none
    | some d => do
      let value ← takeDigit value d
      readHex? count value cs

/-- `Quoted.readBraced?` in checked arithmetic, with a count of the digits. -/
def readBraced? : UInt32 → Nat → List Char → Except Overflow (Option (Char × List Char))
  | _, _, [] => .ok none
  | value, count, c :: cs =>
    if c = '\x7d' then .ok (if count = 0 then none else some (charOfCode value, cs))
    else match hexDigit? c with
      | none => .ok none
      | some d => do
        let value ← takeDigit value d
        let count ← countDigit count
        if (0x10ffff : UInt32) < value then .ok none else readBraced? value count cs

/-- `Quoted.readLowSurrogate?` in checked arithmetic. -/
def readLowSurrogate? : List Char → Except Overflow (Option (UInt32 × List Char))
  | '\\' :: 'u' :: cs => do
    match ← readHex? 4 0 cs with
    | some (low, rest) => .ok (if isLowSurrogate low then some (low, rest) else none)
    | none => .ok none
  | _ => .ok none

/-- `Quoted.readUnicode?` in checked arithmetic. -/
def readUnicode? : List Char → Except Overflow (Option (Char × List Char))
  | '\x7b' :: cs => readBraced? 0 0 cs
  | cs => do
    match ← readHex? 4 0 cs with
    | none => .ok none
    | some (unit, rest) =>
      if isHighSurrogate unit then
        match ← readLowSurrogate? rest with
        | some (low, rest) => .ok (some (pairedChar unit low, rest))
        | none => .ok (some ('\ufffd', rest))
      else .ok (some (charOfCode unit, rest))

/-- `Quoted.decodeEscape` in checked arithmetic. -/
def decodeEscape (c : Char) (cs : List Char) : Except Overflow (List Char × List Char) :=
  if c = 'x' then do
    match ← readHex? 2 0 cs with
    | some (code, rest) => .ok ([charOfCode code], rest)
    | none => .ok (['x'], cs)
  else if c = 'u' then do
    match ← readUnicode? cs with
    | some (decoded, rest) => .ok ([decoded], rest)
    | none => .ok (['u'], cs)
  else .ok (Quoted.decodeEscape c cs)

/-! ## Agreement -/

/-- The checked answer is the plain one, or the counter overflowed over a text of that size. -/
def Agrees {α : Type} (size : Nat) (checked : Except Overflow α) (plain : α) : Prop :=
  checked = .ok plain ∨ checked = .error .counter ∧ 2 ^ 31 ≤ size

section

variable {α β : Type} {m n : Nat} {checked : Except Overflow α} {plain : α}

theorem Agrees.mono (h : Agrees m checked plain) (hle : m ≤ n) : Agrees n checked plain := by
  rcases h with hok | ⟨herror, hsize⟩
  · exact Or.inl hok
  · exact Or.inr ⟨herror, Nat.le_trans hsize hle⟩

theorem Agrees.bind {next : α → Except Overflow β} {answer : β} (h : Agrees n checked plain)
    (hnext : Agrees n (next plain) answer) : Agrees n (checked >>= next) answer := by
  rcases h with hok | ⟨herror, hsize⟩
  · rw [hok]
    exact hnext
  · rw [herror]
    exact Or.inr ⟨rfl, hsize⟩

end

theorem takeDigit_of_lt (h : value.toNat * 16 + digit.toNat < 2 ^ 32) :
    takeDigit value digit = .ok (value * 16 + digit) := if_pos h

/-- Eight digits fit a word, whatever they are. -/
theorem readHex?_eq {count read : Nat} (hvalue : value.toNat < 16 ^ read)
    (hcount : read + count ≤ 8) :
    readHex? count value cs = .ok (Quoted.readHex? count value cs) := by
  induction count generalizing value read cs with
  | zero => rfl
  | succ count ih =>
    cases cs with
    | nil => rfl
    | cons c cs =>
      rw [readHex?, Quoted.readHex?]
      cases hdigit : hexDigit? c with
      | none => rfl
      | some digit =>
        have hlt := toNat_lt_of_hexDigit? hdigit
        have hnext : value.toNat * 16 + digit.toNat < 16 ^ (read + 1) := by
          rw [Nat.pow_succ]
          omega
        have hword : value.toNat * 16 + digit.toNat < 2 ^ 32 :=
          Nat.lt_of_lt_of_le hnext (Nat.pow_le_pow_right (by decide) (j := 8) (by omega))
        dsimp only
        rw [takeDigit_of_lt hword]
        exact ih (by rw [toNat_mul_add hword]; exact hnext) (by omega)

/-- **Between braces the accumulator never overflows**: when a digit comes, it holds no more than the
last code point. -/
theorem agrees_readBraced? {count : Nat} (hvalue : value.toNat ≤ 0x10ffff) :
    Agrees (count + cs.length) (readBraced? value count cs)
      (Quoted.readBraced? value (decide (0 < count)) cs) := by
  induction cs generalizing value count with
  | nil => exact Or.inl rfl
  | cons c cs ih =>
    rw [readBraced?, Quoted.readBraced?]
    by_cases hclose : c = '\x7d'
    · rw [if_pos hclose, if_pos hclose]
      cases count with
      | zero => exact Or.inl rfl
      | succ count => exact Or.inl rfl
    · rw [if_neg hclose, if_neg hclose]
      cases hdigit : hexDigit? c with
      | none => exact Or.inl rfl
      | some digit =>
        have hlt := toNat_lt_of_hexDigit? hdigit
        have hword : value.toNat * 16 + digit.toNat < 2 ^ 32 := by omega
        dsimp only
        rw [takeDigit_of_lt hword]
        change Agrees _ (countDigit count >>= _) _
        unfold countDigit
        by_cases hcount : count + 1 < 2 ^ 31
        · rw [if_pos hcount]
          change Agrees _ (if (0x10ffff : UInt32) < value * 16 + digit then _ else _) _
          by_cases hlarge : (0x10ffff : UInt32) < value * 16 + digit
          · rw [if_pos hlarge, if_pos hlarge]
            exact Or.inl rfl
          · rw [if_neg hlarge, if_neg hlarge]
            have hnext : (value * 16 + digit).toNat ≤ 0x10ffff :=
              UInt32.le_iff_toNat_le.mp (UInt32.not_lt.mp hlarge)
            have hrest : Agrees (count + 1 + cs.length) _
                (Quoted.readBraced? _ (decide (0 < count + 1)) cs) := ih hnext
            rw [decide_eq_true (Nat.succ_pos count)] at hrest
            exact hrest.mono (by rw [List.length_cons]; omega)
        · rw [if_neg hcount]
          exact Or.inr ⟨rfl, by rw [List.length_cons]; omega⟩

theorem readHex?_zero_eq {count : Nat} (hcount : count ≤ 8) (cs : List Char) :
    readHex? count 0 cs = .ok (Quoted.readHex? count 0 cs) := by
  have hvalue : (0 : UInt32).toNat < 16 ^ 0 := by decide
  exact readHex?_eq hvalue (by omega)

theorem readLowSurrogate?_eq (cs : List Char) :
    readLowSurrogate? cs = .ok (Quoted.readLowSurrogate? cs) := by
  unfold readLowSurrogate?
  split
  · rename_i cs
    rw [Quoted.readLowSurrogate?, readHex?_zero_eq (by decide)]
    cases Quoted.readHex? 4 0 cs with
    | none => rfl
    | some found => rfl
  · rename_i hother
    rw [Quoted.readLowSurrogate?]
    exact hother

theorem agrees_readUnicode? (cs : List Char) :
    Agrees cs.length (readUnicode? cs) (Quoted.readUnicode? cs) := by
  unfold readUnicode?
  split
  · rename_i cs
    exact (agrees_readBraced? (by decide)).mono (by rw [List.length_cons]; omega)
  · rename_i hother
    refine Or.inl ?_
    rw [Quoted.readUnicode?, readHex?_zero_eq (by decide)]
    · cases Quoted.readHex? 4 0 cs with
      | none => rfl
      | some found =>
        obtain ⟨unit, rest⟩ := found
        change (if isHighSurrogate unit then _ else _) = _
        by_cases hhigh : isHighSurrogate unit = true
        · rw [if_pos hhigh, readLowSurrogate?_eq]
          dsimp only
          rw [if_pos hhigh]
          cases Quoted.readLowSurrogate? rest with
          | none => rfl
          | some next => rfl
        · rw [if_neg hhigh]
          dsimp only
          rw [if_neg hhigh]
    · exact hother

theorem agrees_decodeEscape (c : Char) (cs : List Char) :
    Agrees cs.length (decodeEscape c cs) (Quoted.decodeEscape c cs) := by
  unfold decodeEscape
  by_cases hx : c = 'x'
  · subst hx
    rw [if_pos rfl, readHex?_zero_eq (by decide)]
    refine Or.inl ?_
    rw [decodeEscape_byte]
    cases Quoted.readHex? 2 0 cs with
    | none => rfl
    | some found => rfl
  · rw [if_neg hx]
    by_cases hu : c = 'u'
    · subst hu
      rw [if_pos rfl]
      refine (agrees_readUnicode? cs).bind (Or.inl ?_)
      rw [decodeEscape_unicode]
      cases Quoted.readUnicode? cs with
      | none => rfl
      | some found => rfl
    · rw [if_neg hu]
      exact Or.inl rfl

theorem eq_of_decodeEscape {c : Char} {cs : List Char} {found : List Char × List Char}
    (h : decodeEscape c cs = .ok found) : found = Quoted.decodeEscape c cs := by
  rcases agrees_decodeEscape c cs with hok | ⟨herror, -⟩
  · exact Except.ok.inj (h.symm.trans hok)
  · rw [herror] at h
    exact absurd h (by simp)

/-- `Quoted.unescape` in checked arithmetic. -/
def unescape : List Char → Except Overflow (List Char)
  | [] => .ok []
  | [c] => .ok [c]
  | c :: d :: cs =>
    if c = '\\' then
      match _hfound : decodeEscape d cs with
      | .error overflow => .error overflow
      | .ok found => do
        let decoded ← unescape found.2
        .ok (found.1 ++ decoded)
    else do
      let decoded ← unescape (d :: cs)
      .ok (c :: decoded)
termination_by cs => cs.length
decreasing_by
  · have := decodeEscape_length_le d cs
    rw [eq_of_decodeEscape _hfound]
    simp only [List.length_cons]
    omega
  · simp

/-- **Decoding in checked arithmetic is decoding**, unless there are too many digits to count. -/
theorem agrees_unescape (text : List Char) :
    Agrees text.length (unescape text) (Quoted.unescape text) := by
  induction text using Quoted.unescape.induct with
  | case1 =>
    rw [unescape, Quoted.unescape_nil]
    exact Or.inl rfl
  | case2 c =>
    rw [unescape, Quoted.unescape]
    exact Or.inl rfl
  | case3 d cs ih =>
    rw [unescape, if_pos rfl, unescape_backslash_cons]
    have hlength := decodeEscape_length_le d cs
    split
    · rename_i overflow herror
      rcases agrees_decodeEscape d cs with hok | ⟨hcounter, hsize⟩
      · exact absurd (herror.symm.trans hok) (by simp)
      · rw [Except.error.inj (herror.symm.trans hcounter)]
        exact Or.inr ⟨rfl, by simp only [List.length_cons]; omega⟩
    · rename_i found hok
      rw [eq_of_decodeEscape hok]
      exact (ih.mono (by simp only [List.length_cons]; omega)).bind (Or.inl rfl)
  | case4 c d cs hne ih =>
    rw [unescape, if_neg hne, unescape_cons_of_ne hne]
    exact (ih.mono (by simp only [List.length_cons]; omega)).bind (Or.inl rfl)

/-- The accumulator does not overflow, whatever the text. -/
theorem unescape_ne_accumulator (text : List Char) :
    unescape text ≠ .error .accumulator := by
  intro h
  rcases agrees_unescape text with hok | ⟨hcounter, -⟩
  · exact absurd (h.symm.trans hok) (by simp)
  · exact absurd (h.symm.trans hcounter) (by simp)

/-- Neither does the counter, if the text has fewer than 2^31 characters. -/
theorem unescape_eq {text : List Char} (h : text.length < 2 ^ 31) :
    unescape text = .ok (Quoted.unescape text) := by
  rcases agrees_unescape text with hok | ⟨-, hsize⟩
  · exact hok
  · omega

end Checked

end ScriptLiterals.Quoted
