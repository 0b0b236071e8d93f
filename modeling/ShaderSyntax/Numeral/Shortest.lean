/-!
# The shortest decimal of a binary number

A number of binary64 stands for the interval of reals that round to it. Among the decimals in that
interval, those with the fewest digits are looked for, and of these the one nearest to the number is
taken; which of two that are equally near is the writer's choice (`Tie`). `writeFloat` takes the
greater one and writes it without exponent, and without a point where no digit follows.
-/

set_option autoImplicit false

namespace ShaderSyntax.Numeral

/-- Which of two neighbouring decimals is taken when the number lies halfway between them. -/
inductive Tie where
  | greater
  | even
  deriving DecidableEq, Repr

/-- The decimal taken for a number halfway between `below` and its successor. -/
def Tie.choose (tie : Tie) (below : Nat) : Nat :=
  match tie with
  | .greater => below + 1
  | .even => if below % 2 = 0 then below else below + 1

/-- A positive binary number with its rounding interval, over a common denominator. The ends belong
to the interval when `closed` holds. -/
structure Interval where
  low : Nat
  middle : Nat
  high : Nat
  denominator : Nat
  closed : Bool

/-- The interval of `mantissa` times two to the `exponent`. The gap below is half as wide when the
mantissa is the least of its binade. -/
def Interval.ofBinary (mantissa : Nat) (exponent : Int) (least : Bool) : Interval :=
  let low := 4 * mantissa - if least then 1 else 2
  let high := 4 * mantissa + 2
  let closed := mantissa % 2 == 0
  if 2 ≤ exponent then
    let scale := Nat.pow 2 (exponent - 2).toNat
    ⟨low * scale, 4 * mantissa * scale, high * scale, 1, closed⟩
  else ⟨low, 4 * mantissa, high, Nat.pow 2 (2 - exponent).toNat, closed⟩

/-- Membership of the decimal `digits / 10^places`, where a negative number of places scales up. -/
def Interval.contains (interval : Interval) (digits : Nat) (places : Int) : Bool :=
  let point := digits * interval.denominator * Nat.pow 10 (-places).toNat
  let scale := Nat.pow 10 places.toNat
  if interval.closed then interval.low * scale ≤ point && point ≤ interval.high * scale
  else interval.low * scale < point && point < interval.high * scale

/-- The least `count`, from `count` on, such that the number times ten to the `count` is not below
one tenth; `steps` bounds the search. -/
def leadingZeros (numerator denominator : Nat) : Nat → Nat → Nat
  | 0, count => count
  | steps + 1, count =>
    if denominator ≤ numerator * Nat.pow 10 (count + 1) then count
    else leadingZeros numerator denominator steps (count + 1)

/-- The place of the point of a positive ratio relative to its first digit: the ratio is below ten
to this power and not below a tenth of that. -/
def decimalPlace (numerator denominator : Nat) : Int :=
  if denominator ≤ numerator then
    Int.ofNat (Nat.toDigits 10 (numerator / denominator)).length
  else -Int.ofNat (leadingZeros numerator denominator 400 0)

/-- The place of the point of the number in the middle. -/
def Interval.pointPlace (interval : Interval) : Int :=
  decimalPlace interval.middle interval.denominator

/-- The decimal with the given number of places that is nearest to the middle among the two around
it, if one of them is in the interval. -/
def Interval.decimal? (interval : Interval) (tie : Tie) (places : Int) : Option Nat :=
  let numerator := interval.middle * Nat.pow 10 places.toNat
  let denominator := interval.denominator * Nat.pow 10 (-places).toNat
  let below := numerator / denominator
  let above := below + 1
  let hasBelow := interval.contains below places
  let hasAbove := interval.contains above places
  if hasBelow && hasAbove then
    let rest := 2 * (numerator - below * denominator)
    if rest < denominator then some below
    else if rest = denominator then some (tie.choose below)
    else some above
  else if hasBelow then some below
  else if hasAbove then some above
  else none

/-- The first decimal found when the number of digits grows from `count` on: its digits and places.
Seventeen digits always suffice. -/
def Interval.shortestFrom (interval : Interval) (tie : Tie) : Nat → Nat → Nat × Int
  | 0, count => (0, Int.ofNat count)
  | steps + 1, count =>
    let places := Int.ofNat count - interval.pointPlace
    match interval.decimal? tie places with
    | some digits => (digits, places)
    | none => shortestFrom interval tie steps (count + 1)

/-- The decimal of fewest digits in the interval: its digits and places. -/
def Interval.shortest (interval : Interval) (tie : Tie) : Nat × Int :=
  interval.shortestFrom tie 17 1

/-- Writes the decimal `digits / 10^places` without exponent; zeros at the end of the fraction are
left out, and the point as well when nothing follows it. -/
def writePlain (digits : Nat) (places : Int) : List Char :=
  let text := Nat.toDigits 10 digits
  if places ≤ 0 then text ++ List.replicate (-places).toNat '0'
  else
    let places := places.toNat
    let text := List.replicate (places + 1 - text.length) '0' ++ text
    let whole := text.take (text.length - places)
    let fraction := ((text.drop (text.length - places)).reverse.dropWhile (· = '0')).reverse
    if fraction.isEmpty then whole else whole ++ '.' :: fraction

/-- The interval of a positive number of binary64, given the bits of exponent and fraction. -/
def Interval.ofBits (exponent fraction : Nat) : Interval :=
  if exponent = 0 then Interval.ofBinary fraction (-1074) false
  else Interval.ofBinary (Nat.pow 2 52 + fraction) (Int.ofNat exponent - 1075)
    (fraction = 0 && exponent ≠ 1)

/-- The text of a positive or zero number of binary64, given the bits of exponent and fraction. -/
def writeBits (exponent fraction : Nat) : List Char :=
  if exponent = 0 && fraction = 0 then ['0']
  else if exponent = 2047 then if fraction = 0 then ['i', 'n', 'f'] else ['N', 'a', 'N']
  else
    let (digits, places) := (Interval.ofBits exponent fraction).shortest .greater
    writePlain digits places

/-- The shortest text of a number of binary64; what is no number has no sign. -/
def writeFloat (x : Float) : List Char :=
  let bits := x.toBits.toNat
  let exponent := bits / Nat.pow 2 52 % Nat.pow 2 11
  let fraction := bits % Nat.pow 2 52
  let text := writeBits exponent fraction
  if Nat.pow 2 63 ≤ bits && !(exponent = 2047 && fraction ≠ 0) then '-' :: text else text

end ShaderSyntax.Numeral
