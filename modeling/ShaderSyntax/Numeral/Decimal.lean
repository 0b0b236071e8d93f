/-!
# Decimal numbers from text

Reading a floating-point number: an optional sign, then digits with an optional point among, before
or behind them and an optional exponent, or one of the names of infinity and of what is no number.
The decimal is read exactly and rounded once, to the nearest number of binary64.
-/

set_option autoImplicit false

namespace ShaderSyntax.Numeral

/-- Why a text is no decimal number. -/
inductive DecimalFault where
  | empty
  | malformed
  deriving DecidableEq, Repr

/-- The message of a fault. -/
def DecimalFault.message : DecimalFault → String
  | .empty => "cannot parse float from empty string"
  | .malformed => "invalid float literal"

/-- What a text spells, apart from its sign: `digits` times ten to the `exponent`, infinity, or no
number. -/
inductive Magnitude where
  | finite (digits : Nat) (exponent : Int)
  | infinite
  | nan
  deriving DecidableEq, Repr

/-- A decimal number exactly as spelled. -/
structure Decimal where
  negative : Bool
  magnitude : Magnitude
  deriving DecidableEq, Repr

/-- The number that decimal digits spell. -/
def digitsValue (digits : List Char) : Nat :=
  digits.foldl (fun n c => 10 * n + (c.toNat - 48)) 0

/-- Reads an optional sign: whether it is a minus, and the text behind it. -/
def readSign : List Char → Bool × List Char
  | '-' :: rest => (true, rest)
  | '+' :: rest => (false, rest)
  | text => (false, text)

/-- Reads the exponent that ends a number: nothing, or a letter, a sign and digits. -/
def readExponent : List Char → Option Int
  | [] => some 0
  | mark :: rest =>
    let (negative, digits) := readSign rest
    if (mark = 'e' || mark = 'E') && !digits.isEmpty && digits.all Char.isDigit then
      let value := Int.ofNat (digitsValue digits)
      some (if negative then -value else value)
    else none

/-- Reads digits with an optional point and an optional exponent; there is at least one digit. -/
def readFinite (text : List Char) : Option Magnitude :=
  let whole := text.takeWhile Char.isDigit
  let rest := text.dropWhile Char.isDigit
  let (fraction, rest) := match rest with
    | '.' :: rest => (rest.takeWhile Char.isDigit, rest.dropWhile Char.isDigit)
    | rest => ([], rest)
  if whole.isEmpty && fraction.isEmpty then none
  else (readExponent rest).map fun exponent =>
    .finite (digitsValue (whole ++ fraction)) (exponent - fraction.length)

/-- The names of infinity and of what is no number, in lower case. -/
def readName (text : List Char) : Option Magnitude :=
  let name := text.map Char.toLower
  if name = ['i', 'n', 'f'] || name = ['i', 'n', 'f', 'i', 'n', 'i', 't', 'y'] then some .infinite
  else if name = ['n', 'a', 'n'] then some .nan
  else none

/-- Reads a decimal number that makes up a whole text. -/
def readDecimal (text : List Char) : Except DecimalFault Decimal :=
  if text.isEmpty then .error .empty
  else
    let (negative, rest) := readSign text
    match (readFinite rest).or (readName rest) with
    | none => .error .malformed
    | some magnitude => .ok ⟨negative, magnitude⟩

/-- Infinity as a number of binary64. -/
def infinity : Float := 1.0 / 0.0

/-- The number of binary64 nearest to `digits` times ten to the `exponent`. Beyond the range of
binary64 the power of ten is not worked out. -/
def nearest (digits : Nat) (exponent : Int) : Float :=
  let magnitude := Int.ofNat (Nat.toDigits 10 digits).length + exponent
  if digits = 0 || magnitude < -400 then 0.0
  else if 400 < magnitude then infinity
  else if exponent < 0 then Float.ofScientific digits true exponent.natAbs
  else Float.ofScientific digits false exponent.natAbs

/-- The number of binary64 nearest to a magnitude. -/
def Magnitude.toFloat : Magnitude → Float
  | .finite digits exponent => nearest digits exponent
  | .infinite => infinity
  | .nan => 0.0 / 0.0

/-- The number of binary64 nearest to a decimal number. -/
def Decimal.toFloat (decimal : Decimal) : Float :=
  if decimal.negative then -decimal.magnitude.toFloat else decimal.magnitude.toFloat

/-- Reads a number of binary64 that makes up a whole text. -/
def readFloat (text : List Char) : Except DecimalFault Float :=
  (readDecimal text).map Decimal.toFloat

end ShaderSyntax.Numeral
