import ShaderSyntax.Json.Basic

/-!
# Writing JSON

The compact text of a document: no blanks, fields in their order, control characters escaped and
every other character as itself. A string that is no text is written as half a surrogate pair.
-/

set_option autoImplicit false

namespace ShaderSyntax.Json

/-- A hexadecimal digit in lower case. -/
def hexDigit (n : Nat) : Char :=
  if n < 10 then Char.ofNat (48 + n) else Char.ofNat (87 + n)

/-- A character as it stands inside a string. -/
def escape (c : Char) : List Char :=
  if c = '"' then ['\\', '"']
  else if c = '\\' then ['\\', '\\']
  else if c = '\n' then ['\\', 'n']
  else if c = '\r' then ['\\', 'r']
  else if c = '\t' then ['\\', 't']
  else if c = '\x08' then ['\\', 'b']
  else if c = '\x0c' then ['\\', 'f']
  else if c < ' ' then ['\\', 'u', '0', '0', hexDigit (c.toNat / 16), hexDigit (c.toNat % 16)]
  else [c]

/-- Writes a string in front of `rest`. -/
def writeText (text : List Char) (rest : List Char) : List Char :=
  '"' :: text.foldr (fun c tail => escape c ++ tail) ('"' :: rest)

/-- Writes the content of a string in front of `rest`. -/
def writeContent (content : Option String) (rest : List Char) : List Char :=
  match content with
  | some text => writeText text.toList rest
  | none => ['"', '\\', 'u', 'd', '8', '0', '0', '"'] ++ rest

mutual

/-- Writes a document in front of `rest`. -/
def writeTo (value : Json) (rest : List Char) : List Char :=
  match value with
  | .null => ['n', 'u', 'l', 'l'] ++ rest
  | .bool true => ['t', 'r', 'u', 'e'] ++ rest
  | .bool false => ['f', 'a', 'l', 's', 'e'] ++ rest
  | .number spelling => spelling.toList ++ rest
  | .string content => writeContent content rest
  | .array [] => '[' :: ']' :: rest
  | .array (item :: items) => '[' :: writeTo item (writeItems items rest)
  | .object [] => '\x7b' :: '\x7d' :: rest
  | .object (field :: fields) =>
    '\x7b' :: writeContent field.1 (':' :: writeTo field.2 (writeFields fields rest))

/-- Writes the items of an array after the first one, and the closing bracket. -/
def writeItems (items : List Json) (rest : List Char) : List Char :=
  match items with
  | [] => ']' :: rest
  | item :: items => ',' :: writeTo item (writeItems items rest)

/-- Writes the fields of an object after the first one, and the closing brace. -/
def writeFields (fields : List (Option String × Json)) (rest : List Char) : List Char :=
  match fields with
  | [] => '\x7d' :: rest
  | field :: fields =>
    ',' :: writeContent field.1 (':' :: writeTo field.2 (writeFields fields rest))

end

/-- The compact text of a document. -/
def write (value : Json) : String :=
  String.ofList (value.writeTo [])

mutual

/-- The document with the fields of every object sorted by name. -/
def sortFields (value : Json) : Json :=
  match value with
  | .array items => .array (sortItems items)
  | .object fields =>
    .object ((sortEach fields).mergeSort fun a b => decide (a.1.getD "" ≤ b.1.getD ""))
  | other => other

/-- Sorts the objects among the items of an array. -/
def sortItems (items : List Json) : List Json :=
  match items with
  | [] => []
  | item :: items => item.sortFields :: sortItems items

/-- Sorts the objects among the values of fields. -/
def sortEach (fields : List (Option String × Json)) : List (Option String × Json) :=
  match fields with
  | [] => []
  | field :: fields => (field.1, field.2.sortFields) :: sortEach fields

end

end ShaderSyntax.Json
