import ShaderSyntax.Numeral.Shortest

/-!
# Decimals with a point or an exponent

A number of binary64 by its shortest digits, the even ones of two that are equally near. It is
written with a point, which a digit follows, when its first digit stands at most sixteen places
before the point or its first non-zero digit at most five places behind it; otherwise with one digit
before the point and an exponent, which always has a sign.
-/

set_option autoImplicit false

namespace ShaderSyntax.Numeral

/-- The sign and the digits of an exponent. -/
def writeExponent (exponent : Int) : List Char :=
  (if exponent < 0 then '-' else '+') :: Nat.toDigits 10 exponent.natAbs

/-- Writes the digits of a positive number that is below ten to the `point` and not below a tenth of
that. -/
def writePlaced (digits : List Char) (point : Int) : List Char :=
  let count := Int.ofNat digits.length
  if count ≤ point && point ≤ 16 then
    digits ++ List.replicate (point - count).toNat '0' ++ ['.', '0']
  else if 0 < point && point ≤ 16 then
    digits.take point.toNat ++ '.' :: digits.drop point.toNat
  else if -5 < point && point ≤ 0 then
    '0' :: '.' :: List.replicate (-point).toNat '0' ++ digits
  else match digits with
    | [] => []
    | [digit] => digit :: 'e' :: writeExponent (point - 1)
    | first :: rest => first :: '.' :: rest ++ 'e' :: writeExponent (point - 1)

/-- The digits without the zeros at their end. -/
def significant (digits : List Char) : List Char :=
  (digits.reverse.dropWhile (· = '0')).reverse

/-- The shortest digits of a finite number, with a point or an exponent. -/
def writeScientific (x : Float) : List Char :=
  let bits := x.toBits.toNat
  let exponent := bits / Nat.pow 2 52 % Nat.pow 2 11
  let fraction := bits % Nat.pow 2 52
  let sign := if Nat.pow 2 63 ≤ bits then ['-'] else []
  if exponent = 0 && fraction = 0 then sign ++ ['0', '.', '0']
  else
    let (value, places) := (Interval.ofBits exponent fraction).shortest .even
    let digits := Nat.toDigits 10 value
    sign ++ writePlaced (significant digits) (Int.ofNat digits.length - places)

end ShaderSyntax.Numeral
