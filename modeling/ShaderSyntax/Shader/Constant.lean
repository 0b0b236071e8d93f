import ShaderSyntax.Shader.Value

/-!
# Shader constants

The literal values of constant tokens. Integers are decimal, or hexadecimal behind `0x` or `0X`;
suffix letters of unsigned and floating-point constants are dropped, all of them; in a string a
backslash before a quote or before another backslash stands for what follows it.
-/

set_option autoImplicit false

namespace ShaderSyntax.Shader

/-- The text without the letters at its end that are among the given ones. -/
def dropSuffix (letters : List Char) (text : List Char) : List Char :=
  (text.reverse.dropWhile letters.contains).reverse

/-- The base of an integer and its digits: sixteen behind `0x` or `0X`, or else ten. -/
def splitBase : List Char → Nat × List Char
  | '0' :: 'x' :: digits => (16, digits)
  | '0' :: 'X' :: digits => (16, digits)
  | digits => (10, digits)

/-- The value of a signed integer constant. -/
def readInt (text : String) : Except ActionError Int :=
  let (base, digits) := splitBase text.toList
  (Numeral.signed base digits).mapError (.badInteger text)

/-- The value of an unsigned integer constant. -/
def readUInt (text : String) : Except ActionError Nat :=
  let (base, digits) := splitBase (dropSuffix ['u', 'U'] text.toList)
  (Numeral.unsigned base digits).mapError (.badUnsigned text)

/-- The value of a floating-point constant with the given suffix letters. -/
def readFloat (suffixes : List Char) (text : String) : Except ActionError Float :=
  (Numeral.readFloat (dropSuffix suffixes text.toList)).mapError (.badFloat text)

/-- The text with every escape, a backslash before the given character, replaced by that character.
Escapes are found from the left and do not overlap. -/
def resolveEscape (escaped : Char) : List Char → List Char
  | '\\' :: c :: rest =>
    if c = escaped then escaped :: resolveEscape escaped rest
    else '\\' :: resolveEscape escaped (c :: rest)
  | c :: rest => c :: resolveEscape escaped rest
  | [] => []
termination_by text => text.length

/-- The text between quotes at both ends, or the whole text if it is not quoted. -/
def betweenQuotes (text : List Char) : List Char :=
  match text with
  | '"' :: rest => if rest.getLast? = some '"' then rest.dropLast else text
  | _ => text

/-- The text that a string literal stands for: escaped quotes are resolved, then backslashes. -/
def unquote (text : String) : String :=
  String.ofList (resolveEscape '\\' (resolveEscape '"' (betweenQuotes text.toList)))

/-- The node kind and the literal value of a constant token. -/
def readConstant (kind text : String) : Except ActionError (String × Scalar) :=
  match kind with
  | "INTCONSTANT" => (readInt text).map fun value => ("IntConstant", .int value)
  | "UINTCONSTANT" => (readUInt text).map fun value => ("UIntConstant", .uint value)
  | "FLOATCONSTANT" =>
    (readFloat ['f', 'F'] text).map fun value => ("FloatConstant", .float value)
  | "DOUBLECONSTANT" =>
    (readFloat ['d', 'l', 'f', 'L', 'F'] text).map fun value => ("DoubleConstant", .double value)
  | "BOOLCONSTANT" => .ok ("BoolConstant", .bool (text = "true"))
  | "STRLIT" => .ok ("StringLiteral", .str (unquote text))
  | _ => .error (.notAConstant kind)

end ShaderSyntax.Shader
