import ShaderSyntax.Numeral.Shortest

/-!
# Numbers with a given count of places

A number of binary64 is a ratio of two whole numbers. Written with a given count of places behind
the point it is rounded once, to the nearest such decimal, the even one of two that are equally
near. The count may also be that of the digits behind the first one, with an exponent, or of all
digits, and then the shorter of the two ways is taken.
-/

set_option autoImplicit false

namespace ShaderSyntax.Host

open Numeral

/-- A ratio of whole numbers. -/
structure Ratio where
  numerator : Nat
  denominator : Nat
  deriving DecidableEq, Repr

namespace Ratio

/-- The number with some bits of exponent and fraction. -/
def ofBits (exponent fraction : Nat) : Ratio :=
  let interval := Interval.ofBits exponent fraction
  ⟨interval.middle, interval.denominator⟩

/-- The ratio times ten to a power. -/
def scaled (ratio : Ratio) (places : Int) : Ratio :=
  ⟨ratio.numerator * Nat.pow 10 places.toNat, ratio.denominator * Nat.pow 10 (-places).toNat⟩

/-- The nearest whole number, the even one of two that are equally near. -/
def round (ratio : Ratio) : Nat :=
  let below := ratio.numerator / ratio.denominator
  let twice := 2 * (ratio.numerator % ratio.denominator)
  if twice < ratio.denominator then below
  else if twice = ratio.denominator then Tie.even.choose below
  else below + 1

/-- The digits of a ratio with some places behind the first digit, and the power of ten of the first
digit. -/
def firstDigits (ratio : Ratio) (places : Nat) : Nat × Int :=
  if ratio.numerator = 0 then (0, 0)
  else
    let power := decimalPlace ratio.numerator ratio.denominator - 1
    let digits := (ratio.scaled (places - power)).round
    if Nat.pow 10 (places + 1) ≤ digits then (digits / 10, power + 1) else (digits, power)

end Ratio

/-- Digits with a point that has some places behind it. The point is left out if nothing follows,
unless it is asked for. -/
def pointedDigits (digits places : Nat) (keepPoint : Bool) : List Char :=
  let text := Nat.toDigits 10 digits
  let text := List.replicate (places + 1 - text.length) '0' ++ text
  let whole := text.take (text.length - places)
  if places = 0 && !keepPoint then whole
  else whole ++ '.' :: text.drop (text.length - places)

/-- A ratio with some places behind the point. -/
def writeFixed (ratio : Ratio) (places : Nat) (keepPoint : Bool) : List Char :=
  pointedDigits (ratio.scaled places).round places keepPoint

/-- The exponent of a number: a letter, a sign and two digits at least. -/
def exponentMark (power : Int) : List Char :=
  let digits := Nat.toDigits 10 power.natAbs
  'e' :: (if power < 0 then '-' else '+') :: List.replicate (2 - digits.length) '0' ++ digits

/-- A ratio with some places behind its first digit, and an exponent. -/
def writeExponential (ratio : Ratio) (places : Nat) (keepPoint : Bool) : List Char :=
  let first := ratio.firstDigits places
  pointedDigits first.1 places keepPoint ++ exponentMark first.2

/-- Digits behind a point without the zeros at their end, and without the point if none is left. -/
def trimPlaces (text : List Char) : List Char :=
  if text.contains '.' then
    let kept := (text.reverse.dropWhile (· = '0')).reverse
    if kept.getLast? = some '.' then kept.dropLast else kept
  else text

/-- A ratio with some digits in all: without exponent unless the number is too great or too small
for that. Zeros at the end are left out unless they are asked for. -/
def writeGeneral (ratio : Ratio) (digits : Nat) (keepPoint : Bool) : List Char :=
  let digits := max digits 1
  let first := ratio.firstDigits (digits - 1)
  let trim (text : List Char) := if keepPoint then text else trimPlaces text
  if -4 ≤ first.2 && first.2 < digits then
    trim (writeFixed ratio (digits - 1 - first.2).toNat keepPoint)
  else trim (pointedDigits first.1 (digits - 1) keepPoint) ++ exponentMark first.2

end ShaderSyntax.Host
