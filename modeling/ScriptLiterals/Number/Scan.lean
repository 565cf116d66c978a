import ScriptLiterals.Double.Decimal
import ScriptLiterals.Number.Printer
import ScriptLiterals.Recognizer
import ScriptLiterals.Text.Identifier

/-!
# Reading numbers

A number literal is an optional sign followed by a constant (`NaN`, `Infinity`), by a marked radix
and its digits (`0x1F`), or by decimal digits with an optional fraction and exponent. A whole number
may carry the suffix `n`.

Digits that start with a zero and are all below eight are octal, the legacy form; a fraction, an
exponent or a digit eight or nine makes the same text decimal. The reader takes the longest literal
it can: a mark without digits is read as the number zero, an exponent without digits is left alone.
-/

set_option autoImplicit false

namespace ScriptLiterals

/-- The number a literal without its sign denotes, as written. -/
inductive Numeral where
  /-- The constant not-a-number. -/
  | nan
  /-- The constant infinity. -/
  | infinity
  /-- Digits and nothing else. -/
  | whole (digits : List Char)
  /-- Digits and the suffix `n`. -/
  | big (digits : List Char)
  /-- Decimal digits before and behind a point, times a power of ten. -/
  | real (before behind : List Char) (exponent : Int)
  deriving DecidableEq, Repr

/-- A literal without its sign: its characters, what follows them, and what they say. -/
structure Magnitude where
  source : List Char
  rest : List Char
  radix : Radix
  numeral : Numeral
  deriving DecidableEq, Repr

namespace Magnitude

/-- Whether the text starts with `word` and the word ends there. -/
def startsWithWord (word cs : List Char) : Bool :=
  word.isPrefixOf cs && !((cs.drop word.length).head?.any Text.isIdContinue)

/-- A constant, as a whole word. -/
def readConstant? (cs : List Char) : Option Magnitude :=
  if startsWithWord NumberValue.infinityText cs then
    some ⟨NumberValue.infinityText, cs.drop NumberValue.infinityText.length, .decimal, .infinity⟩
  else if startsWithWord NumberValue.nanText cs then
    some ⟨NumberValue.nanText, cs.drop NumberValue.nanText.length, .decimal, .nan⟩
  else none

/-- A zero, a letter that selects a radix, and at least one digit of that radix. -/
def readMarked? : List Char → Option Magnitude
  | '0' :: letter :: cs =>
    match Radix.ofLetter? letter with
    | none => none
    | some radix =>
      let digits := cs.takeWhile radix.isDigit
      let rest := cs.dropWhile radix.isDigit
      if digits.isEmpty then none
      else match rest with
        | 'n' :: rest => some ⟨'0' :: letter :: digits ++ ['n'], rest, radix, .big digits⟩
        | _ => some ⟨'0' :: letter :: digits, rest, radix, .whole digits⟩
  | _ => none

/-- Whether `c` is a decimal digit. -/
def isDecimalDigit (c : Char) : Bool := Radix.decimal.isDigit c

/-- A point and the digits behind it, and what follows. A point that has no digit before it needs
one behind it. -/
def readFraction? (hasWhole : Bool) : List Char → Option (List Char × List Char)
  | '.' :: cs =>
    if hasWhole || cs.head?.any isDecimalDigit then
      some (cs.takeWhile isDecimalDigit, cs.dropWhile isDecimalDigit)
    else none
  | _ => none

/-- A sign and what follows it. -/
def readSign : List Char → List Char × List Char
  | '-' :: cs => (['-'], cs)
  | '+' :: cs => (['+'], cs)
  | cs => ([], cs)

/-- An exponent: its characters, its value, and what follows it. -/
def readExponent? : List Char → Option (List Char × Int × List Char)
  | e :: cs =>
    let (sign, cs) := readSign cs
    let digits := cs.takeWhile isDecimalDigit
    if (e = 'e' ∨ e = 'E') ∧ digits ≠ [] then
      let value : Int := Radix.decimal.valueOf digits
      some (e :: sign ++ digits, if sign = ['-'] then -value else value,
        cs.dropWhile isDecimalDigit)
    else none
  | [] => none

/-- Whether digits begin with a zero that is not the whole of them. -/
def hasLeadingZero : List Char → Bool
  | '0' :: _ :: _ => true
  | _ => false

/-- The radix of digits that stand alone: octal if they begin with a zero and all are octal. -/
def plainRadix (digits : List Char) : Radix :=
  if hasLeadingZero digits && digits.all Radix.octal.isDigit then .octal else .decimal

/-- Digits with an optional fraction and an optional exponent, or digits with the suffix `n`. -/
def readPlain? (cs : List Char) : Option Magnitude :=
  let whole := cs.takeWhile isDecimalDigit
  let rest := cs.dropWhile isDecimalDigit
  match readFraction? (!whole.isEmpty) rest with
  | some (fraction, rest) =>
    let source := whole ++ '.' :: fraction
    match readExponent? rest with
    | some (marks, exponent, rest) =>
      some ⟨source ++ marks, rest, .decimal, .real whole fraction exponent⟩
    | none => some ⟨source, rest, .decimal, .real whole fraction 0⟩
  | none =>
    if whole.isEmpty then none
    else match readExponent? rest with
      | some (marks, exponent, rest) =>
        some ⟨whole ++ marks, rest, .decimal, .real whole [] exponent⟩
      | none =>
        match hasLeadingZero whole, rest with
        | false, 'n' :: rest => some ⟨whole ++ ['n'], rest, .decimal, .big whole⟩
        | _, _ => some ⟨whole, rest, plainRadix whole, .whole whole⟩

/-- The literal at the head of the text, whichever form it has. -/
def read? (cs : List Char) : Option Magnitude :=
  ((readConstant? cs).or (readMarked? cs)).or (readPlain? cs)

end Magnitude

namespace Numeral

/-- The digits taken into a double one by one, each step rounding twice. -/
def foldDigits (radix : Radix) (digits : List Char) : Double :=
  digits.foldl
    (fun acc c => (acc.mul (.ofNat radix.base)).add (.ofNat ((radix.digit? c).getD 0))) .zero

/-- The first natural number that is no 64-bit integer. -/
def integerLimit : Nat := 0x8000000000000000

/-- A whole number as a value: an integer if it fits, else a double, which decimal digits reach in
one rounding and the digits of another radix one by one. -/
def wholeValue (radix : Radix) (digits : List Char) : NumberValue :=
  let n := radix.valueOf digits
  if n < integerLimit then .integer (.ofNat n)
  else if radix = .decimal then .float (.ofDecimal n 0)
  else .float (foldDigits radix digits)

/-- The value of a numeral in its radix. -/
def value (radix : Radix) : Numeral → Except Miss NumberValue
  | .nan => .ok .nan
  | .infinity => .ok (.infinity false)
  | .whole digits => .ok (wholeValue radix digits)
  | .big digits =>
    match radix.readDigits? digits with
    | some n => .ok (.bigint n)
    | none => .error (.unsupported "big integer digits")
  | .real before behind exponent =>
    .ok (.float (.ofDecimal (Radix.decimal.valueOf (before ++ behind)) (exponent - behind.length)))

end Numeral

namespace Number

/-- Reads a number literal: a sign, then a magnitude. -/
def read (cs : List Char) : Except Miss (Lexeme NumberValue Radix) :=
  let (sign, unsigned) := Magnitude.readSign cs
  match Magnitude.read? unsigned with
  | none => .error .noMatch
  | some m =>
    match m.numeral.value m.radix with
    | .error miss => .error miss
    | .ok value =>
      .ok ⟨sign ++ m.source, m.rest, if sign = ['-'] then value.neg else value, m.radix⟩

/-- Number literals. What may follow one is what may follow an expression. -/
def recognizer : Recognizer NumberValue Radix := ⟨.number, read, some .expression⟩

/-- The number literal at the head of `input`. With `allowTrailing` anything may follow it. -/
def scan (allowTrailing : Bool) (input : List Char) :
    Except ScanError (Token NumberValue Radix) :=
  if allowTrailing then recognizer.scanHead input else recognizer.scan input

/-- The token of the number literal at the head of `input`. -/
def token? (input : List Char) : Option (Token NumberValue Radix) := found? (scan false input)

/-- The value of the number literal at the head of `input`. Unless `strict`, what follows the literal
is ignored. -/
def parse? (strict : Bool) (input : List Char) : Option NumberValue :=
  (found? (scan (!strict) input)).map (·.value)

/-- Whether `input` is a number literal written in `radix`. -/
def isWrittenIn (radix : Radix) (input : List Char) : Bool :=
  (token? input).any fun t => t.detail == radix

/-- Whether `input` is anything but a literal whose value is a number. -/
def isNaN (input : List Char) : Bool :=
  !((parse? true input).any fun v => !v.isNaN)

/-- Whether `input` is a literal whose value is a finite number. -/
def isFinite (input : List Char) : Bool :=
  (parse? true input).any fun v => v.isFinite

end Number

end ScriptLiterals
