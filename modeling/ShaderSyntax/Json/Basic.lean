/-!
# JSON values

Documents as trees. Objects keep their fields in the order of the text, repeated names included, and
numbers keep their spelling, because readers of records tell `1` from `1.0` and refuse repeated
fields. A string may hold an escape of half a surrogate pair; such a string is no text and is
represented by `none`.
-/

set_option autoImplicit false

namespace ShaderSyntax

/-- A JSON document. -/
inductive Json where
  | null
  | bool (value : Bool)
  | number (spelling : String)
  | string (content : Option String)
  | array (items : List Json)
  | object (fields : List (Option String × Json))
  deriving Inhabited

namespace Json

/-- A natural number, written in decimal. -/
def ofNat (n : Nat) : Json := .number (toString n)

/-- A text. -/
def ofString (text : String) : Json := .string (some text)

/-- An object with named fields, in the given order. -/
def ofFields (fields : List (String × Json)) : Json :=
  .object (fields.map fun field => (some field.1, field.2))

/-- The value of an optional part, `null` when it is missing. -/
def ofOption {α : Type} (write : α → Json) : Option α → Json
  | none => .null
  | some a => write a

/-- The value of the first field with the given name. -/
def field? (name : String) : Json → Option Json
  | .object fields => (fields.find? fun field => field.1 == some name).map Prod.snd
  | _ => none

/-- The text of a string. -/
def text? : Json → Option String
  | .string content => content
  | _ => none

/-- The items of an array. -/
def items? : Json → Option (List Json)
  | .array items => some items
  | _ => none

/-- The truth value of a Boolean. -/
def bool? : Json → Option Bool
  | .bool value => some value
  | _ => none

end Json

end ShaderSyntax
