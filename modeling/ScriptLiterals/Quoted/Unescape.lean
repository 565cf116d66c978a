import ScriptLiterals.Number.Radix

/-!
# Decoding escape sequences

`unescape` replaces each escape sequence of a text by what it stands for. A sequence that is begun
and not well formed loses its backslash and nothing else, and a backslash at the very end stays.
Code points are 32-bit words, as in `Char` itself; `readHex?` and `readBraced?` are written so that
no step leaves that range.
-/

set_option autoImplicit false

namespace ScriptLiterals.Quoted

/-- The character of a code point; a surrogate, which is no character, becomes U+FFFD. -/
def charOfCode (code : UInt32) : Char :=
  if h : code.isValidChar then ⟨code, h⟩ else '\ufffd'

/-- The value of a hexadecimal digit as a word. -/
def hexDigit? (c : Char) : Option UInt32 :=
  (Radix.hexadecimal.digit? c).map (·.toUInt32)

/-- Reads `count` hexadecimal digits into `value`: the number and what follows the digits. -/
def readHex? : Nat → UInt32 → List Char → Option (UInt32 × List Char)
  | 0, value, cs => some (value, cs)
  | _ + 1, _, [] => none
  | count + 1, value, c :: cs =>
    match hexDigit? c with
    | none => none
    | some d => readHex? count (value * 16 + d) cs

/-- Reads hexadecimal digits into `value` up to a closing brace: the character they stand for and
what follows the brace. There has to be a digit, and the number must not exceed the last code
point. -/
def readBraced? : UInt32 → Bool → List Char → Option (Char × List Char)
  | _, _, [] => none
  | value, hasDigit, c :: cs =>
    if c = '\x7d' then if hasDigit then some (charOfCode value, cs) else none
    else match hexDigit? c with
      | none => none
      | some d =>
        if (0x10ffff : UInt32) < value * 16 + d then none else readBraced? (value * 16 + d) true cs

/-- Whether a code unit is the first half of a surrogate pair. -/
def isHighSurrogate (unit : UInt32) : Bool := 0xd800 ≤ unit && unit ≤ 0xdbff

/-- Whether a code unit is the second half of a surrogate pair. -/
def isLowSurrogate (unit : UInt32) : Bool := 0xdc00 ≤ unit && unit ≤ 0xdfff

/-- The character that a surrogate pair stands for. -/
def pairedChar (high low : UInt32) : Char :=
  charOfCode (0x10000 + (high - 0xd800) * 0x400 + (low - 0xdc00))

/-- The second half of a surrogate pair, written as an escape sequence of its own, and what follows
it. -/
def readLowSurrogate? : List Char → Option (UInt32 × List Char)
  | '\\' :: 'u' :: cs =>
    match readHex? 4 0 cs with
    | some (low, rest) => if isLowSurrogate low then some (low, rest) else none
    | none => none
  | _ => none

/-- The character that follows `\u`: a number in braces, or four digits, where the first half of a
surrogate pair takes the second half with it if that follows. -/
def readUnicode? : List Char → Option (Char × List Char)
  | '\x7b' :: cs => readBraced? 0 false cs
  | cs =>
    match readHex? 4 0 cs with
    | none => none
    | some (unit, rest) =>
      if isHighSurrogate unit then
        match readLowSurrogate? rest with
        | some (low, rest) => some (pairedChar unit low, rest)
        | none => some ('\ufffd', rest)
      else some (charOfCode unit, rest)

/-- The character that a single letter behind a backslash stands for. -/
def letterMeaning? (c : Char) : Option Char :=
  if c = 'n' then some '\n'
  else if c = 'r' then some '\r'
  else if c = 't' then some '\t'
  else if c = 'b' then some '\x08'
  else if c = 'f' then some '\x0c'
  else if c = 'v' then some '\x0b'
  else if c = '0' then some '\x00'
  else none

/-- The line break that an escaped carriage return begins: a line feed behind it belongs to it. -/
def skipLineFeed : List Char → List Char
  | '\n' :: cs => cs
  | cs => cs

/-- What `\c` stands for when `cs` follows, and what is left of `cs`. -/
def decodeEscape (c : Char) (cs : List Char) : List Char × List Char :=
  match letterMeaning? c with
  | some meaning => ([meaning], cs)
  | none =>
    if c = 'x' then
      match readHex? 2 0 cs with
      | some (code, rest) => ([charOfCode code], rest)
      | none => (['x'], cs)
    else if c = 'u' then
      match readUnicode? cs with
      | some (decoded, rest) => ([decoded], rest)
      | none => (['u'], cs)
    else if c = '\r' then ([], skipLineFeed cs)
    else if c = '\n' ∨ c = '\u2028' ∨ c = '\u2029' then ([], cs)
    else ([c], cs)

/-! ## Decoding consumes the text from left to right -/

theorem readHex?_length_le {count : Nat} {value : UInt32} {cs : List Char} {found : UInt32 × List Char}
    (h : readHex? count value cs = some found) : found.2.length ≤ cs.length := by
  induction count generalizing value cs with
  | zero => simp only [readHex?, Option.some.injEq] at h; simp [← h]
  | succ n ih =>
    cases cs with
    | nil => simp [readHex?] at h
    | cons c cs =>
      simp only [readHex?] at h
      split at h
      · cases h
      · exact Nat.le_succ_of_le (ih h)

theorem readBraced?_length_le {value : UInt32} {hasDigit : Bool} {cs : List Char}
    {found : Char × List Char} (h : readBraced? value hasDigit cs = some found) :
    found.2.length ≤ cs.length := by
  induction cs generalizing value hasDigit with
  | nil => simp [readBraced?] at h
  | cons c cs ih =>
    simp only [readBraced?] at h
    split at h
    · split at h
      · simp only [Option.some.injEq] at h; simp [← h]
      · cases h
    · split at h
      · cases h
      · split at h
        · cases h
        · exact Nat.le_succ_of_le (ih h)

theorem readLowSurrogate?_length_le {cs : List Char} {found : UInt32 × List Char}
    (h : readLowSurrogate? cs = some found) : found.2.length ≤ cs.length := by
  unfold readLowSurrogate? at h
  split at h
  · rename_i cs
    cases hx : readHex? 4 0 cs with
    | none => simp [hx] at h
    | some p =>
      have := readHex?_length_le hx
      simp only [hx] at h
      split at h
      · simp only [Option.some.injEq] at h
        subst h
        simp only [List.length_cons]
        omega
      · cases h
  · cases h

theorem readUnicode?_length_le {cs : List Char} {found : Char × List Char}
    (h : readUnicode? cs = some found) : found.2.length ≤ cs.length := by
  unfold readUnicode? at h
  split at h
  · exact Nat.le_succ_of_le (readBraced?_length_le h)
  · cases hx : readHex? 4 0 cs with
    | none => simp [hx] at h
    | some p =>
      have hle := readHex?_length_le hx
      simp only [hx] at h
      split at h
      · cases hl : readLowSurrogate? p.2 with
        | none => simp only [hl, Option.some.injEq] at h; simp [← h, hle]
        | some q =>
          have := readLowSurrogate?_length_le hl
          simp only [hl, Option.some.injEq] at h
          subst h
          exact Nat.le_trans this hle
      · simp only [Option.some.injEq] at h; simp [← h, hle]

theorem skipLineFeed_length_le (cs : List Char) : (skipLineFeed cs).length ≤ cs.length := by
  unfold skipLineFeed
  split
  · exact Nat.le_succ _
  · exact Nat.le_refl _

/-- Decoding an escape sequence never gives back more than it was given. -/
theorem decodeEscape_length_le (c : Char) (cs : List Char) :
    (decodeEscape c cs).2.length ≤ cs.length := by
  unfold decodeEscape
  cases letterMeaning? c with
  | some _ => exact Nat.le_refl _
  | none =>
    dsimp only
    by_cases hx : c = 'x'
    · rw [if_pos hx]
      cases h : readHex? 2 0 cs with
      | none => exact Nat.le_refl _
      | some found => exact readHex?_length_le h
    · rw [if_neg hx]
      by_cases hu : c = 'u'
      · rw [if_pos hu]
        cases h : readUnicode? cs with
        | none => exact Nat.le_refl _
        | some found => exact readUnicode?_length_le h
      · rw [if_neg hu]
        by_cases hr : c = '\r'
        · rw [if_pos hr]; exact skipLineFeed_length_le cs
        · rw [if_neg hr]
          split <;> exact Nat.le_refl _

/-- The text with every escape sequence decoded. -/
def unescape : List Char → List Char
  | [] => []
  | [c] => [c]
  | c :: d :: cs =>
    if c = '\\' then (decodeEscape d cs).1 ++ unescape (decodeEscape d cs).2
    else c :: unescape (d :: cs)
termination_by cs => cs.length
decreasing_by
  · have := decodeEscape_length_le d cs
    simp only [List.length_cons]
    omega
  · simp

end ScriptLiterals.Quoted
