import ShaderSyntax.Numeral.Decimal
import ShaderSyntax.Numeral.Whole

/-!
# The number that a text starts with

Some readers take as much off the front of a text as spells a number and leave the rest to others.
Blanks and a sign may stand in front. A whole number shows its base: sixteen behind a zero with an
x, eight behind any other zero, else ten.
-/

set_option autoImplicit false

namespace ShaderSyntax.Host

open Numeral

/-- A blank that may stand in front of a number. -/
def isLeadingBlank (c : Char) : Bool := c = ' ' || ('\t' ≤ c && c ≤ '\r')

/-- The base that the start of a number shows, and the digits behind its mark. -/
def markedBase : List Char → Nat × List Char
  | '0' :: mark :: digit :: rest =>
    if (mark = 'x' || mark = 'X') && (digit? 16 digit).isSome then (16, digit :: rest)
    else (8, '0' :: mark :: digit :: rest)
  | '0' :: rest => (8, '0' :: rest)
  | text => (10, text)

/-- The whole number that a text starts with, and the text behind it. -/
def leadingWhole? (text : List Char) : Option (Int × List Char) :=
  let signed := readSign (text.dropWhile isLeadingBlank)
  let marked := markedBase signed.2
  let digits := marked.2.takeWhile fun c => (digit? marked.1 c).isSome
  if digits.isEmpty then none
  else
    let value := Int.ofNat (valueOf marked.1 0 (digits.filterMap (digit? marked.1)))
    some (if signed.1 then -value else value, marked.2.drop digits.length)

/-- The exponent that a text starts with, and the text behind it; a letter without digits is
none. -/
def leadingExponent (text : List Char) : Int × List Char :=
  match text with
  | mark :: rest =>
    let signed := readSign rest
    let digits := signed.2.takeWhile Char.isDigit
    if (mark = 'e' || mark = 'E') && !digits.isEmpty then
      let value := Int.ofNat (digitsValue digits)
      (if signed.1 then -value else value, signed.2.drop digits.length)
    else (0, text)
  | [] => (0, text)

/-- The names that stand for numbers, longer ones before those they start with. -/
def namedMagnitudes : List (List Char × Magnitude) := [
  (['i', 'n', 'f', 'i', 'n', 'i', 't', 'y'], .infinite), (['i', 'n', 'f'], .infinite),
  (['n', 'a', 'n'], .nan)]

/-- The decimal number, or the name of one, that a text starts with, and the text behind it. -/
def leadingDecimal? (text : List Char) : Option (Decimal × List Char) :=
  let signed := readSign (text.dropWhile isLeadingBlank)
  let whole := signed.2.takeWhile Char.isDigit
  let rest := signed.2.drop whole.length
  let behindPoint := match rest with
    | '.' :: more => more.takeWhile Char.isDigit
    | _ => []
  if whole.isEmpty && behindPoint.isEmpty then
    let isFirst (named : List Char × Magnitude) :=
      named.1.isPrefixOf (signed.2.map Char.toLower)
    (namedMagnitudes.find? isFirst).map fun named =>
      (⟨signed.1, named.2⟩, signed.2.drop named.1.length)
  else
    let rest := match rest with
      | '.' :: more => more.drop behindPoint.length
      | rest => rest
    let exponent := leadingExponent rest
    some (⟨signed.1, .finite (digitsValue (whole ++ behindPoint))
      (exponent.1 - behindPoint.length)⟩, exponent.2)

end ShaderSyntax.Host
