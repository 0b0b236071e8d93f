import ShaderSyntax.Text.Extending

/-!
# Quoted text

How messages quote a text or a character. The mark of the quotation, the backslash and five control
characters are escaped by a backslash, every other unprintable or extending character by its code
point, and all else stands for itself.
-/

set_option autoImplicit false

namespace ShaderSyntax.Text

/-- The digits of a number to base sixteen, in lower case and without leading zeros. -/
def hexDigits (n : Nat) : List Char :=
  Nat.toDigits 16 n

/-- A character by its code point, `\u` and the hexadecimal digits in braces. -/
def codePoint (c : Char) : List Char :=
  ['\\', 'u', '\x7b'] ++ hexDigits c.toNat ++ ['\x7d']

/-- A character as it stands inside a quotation marked by `mark`. -/
def quoteChar (mark c : Char) : List Char :=
  if c = '\x00' then ['\\', '0']
  else if c = '\t' then ['\\', 't']
  else if c = '\r' then ['\\', 'r']
  else if c = '\n' then ['\\', 'n']
  else if c = '\\' || c = mark then ['\\', c]
  else if isExtending c || isUnprintable c then codePoint c
  else [c]

/-- A text between double quotes. -/
def quoteText (text : List Char) : List Char :=
  '"' :: text.flatMap (quoteChar '"') ++ ['"']

/-- A character between single quotes. -/
def quoteOne (c : Char) : List Char :=
  '\'' :: quoteChar '\'' c ++ ['\'']

/-- A string between double quotes. -/
def quoted (text : String) : String :=
  String.ofList (quoteText text.toList)

end ShaderSyntax.Text
