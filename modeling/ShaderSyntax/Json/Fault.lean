import ShaderSyntax.Numeral.Scientific
import ShaderSyntax.Text.Quoted

/-!
# Faults of records

Why a text is not the record it should be: what is wrong and the place where reading stopped. Lines
count from one; columns count the bytes of the line that have been passed.
-/

set_option autoImplicit false

namespace ShaderSyntax.Json

/-- What stands where something else was expected. -/
inductive Found where
  | null
  | bool (value : Bool)
  | whole (value : Int)
  | real (value : Float)
  | text (content : String)
  | list
  | object
  | bareName

/-- How messages name what was found. -/
def Found.describe : Found → String
  | .null => "null"
  | .bool value => s!"boolean `{value}`"
  | .whole value => s!"integer `{value}`"
  | .real value => "floating point `" ++ String.ofList (Numeral.writeScientific value) ++ "`"
  | .text content => "string " ++ Text.quoted content
  | .list => "sequence"
  | .object => "map"
  | .bareName => "unit variant"

/-- What is wrong with a text. -/
inductive Cause where
  | endOfValue
  | endOfList
  | endOfObject
  | endOfText
  | endOfEscape
  | noValue
  | noWord
  | noColon
  | noListComma
  | noObjectComma
  | nameNotText
  | trailingComma
  | trailing
  | badNumber
  | outOfRange
  | badEscape
  | loneSurrogate
  | control
  | wrongType (found : Found) (expected : String)
  | wrongValue (found : Found) (expected : String)
  | wrongLength (length : Nat) (expected : String)
  | missing (name : String)
  | repeated (name : String)
  | unknownName (name : String) (known : List String)

/-- The message of a cause. -/
def Cause.message : Cause → String
  | .endOfValue => "EOF while parsing a value"
  | .endOfList => "EOF while parsing a list"
  | .endOfObject => "EOF while parsing an object"
  | .endOfText => "EOF while parsing a string"
  | .endOfEscape => "unexpected end of hex escape"
  | .noValue => "expected value"
  | .noWord => "expected ident"
  | .noColon => "expected `:`"
  | .noListComma => "expected `,` or `]`"
  | .noObjectComma => "expected `,` or `\x7d`"
  | .nameNotText => "key must be a string"
  | .trailingComma => "trailing comma"
  | .trailing => "trailing characters"
  | .badNumber => "invalid number"
  | .outOfRange => "number out of range"
  | .badEscape => "invalid escape"
  | .loneSurrogate => "lone leading surrogate in hex escape"
  | .control => "control character (\\u0000-\\u001F) found while parsing a string"
  | .wrongType found expected => s!"invalid type: {found.describe}, expected {expected}"
  | .wrongValue found expected => s!"invalid value: {found.describe}, expected {expected}"
  | .wrongLength length expected => s!"invalid length {length}, expected {expected}"
  | .missing name => s!"missing field `{name}`"
  | .repeated name => s!"duplicate field `{name}`"
  | .unknownName name known =>
    s!"unknown variant `{name}`, expected " ++
      String.intercalate " or " (known.map fun name => s!"`{name}`")

/-- A place in a record. -/
structure FaultPlace where
  line : Nat
  column : Nat

namespace FaultPlace

/-- The place before the first character. -/
def origin : FaultPlace := ⟨1, 0⟩

/-- The place after a character. -/
def next (place : FaultPlace) (c : Char) : FaultPlace :=
  if c = '\n' then ⟨place.line + 1, 0⟩ else ⟨place.line, place.column + c.utf8Size⟩

/-- The place one byte further, if anything is ahead. -/
def nextByte (place : FaultPlace) : Option Char → FaultPlace
  | none => place
  | some c => if c = '\n' then ⟨place.line + 1, 0⟩ else ⟨place.line, place.column + 1⟩

/-- The place a number of bytes further. -/
def nextBytes (place : FaultPlace) : Nat → List Char → FaultPlace
  | _, [] => place
  | count, c :: rest =>
    if c.utf8Size ≤ count then (place.next c).nextBytes (count - c.utf8Size) rest
    else ⟨place.line, place.column + count⟩

end FaultPlace

/-- A fault of a record. The place is open until the reader of the structure around it sets it. -/
structure Fault where
  cause : Cause
  place : Option FaultPlace

/-- The message of a fault. -/
def Fault.message (fault : Fault) : String :=
  match fault.place with
  | none => fault.cause.message
  | some place => s!"{fault.cause.message} at line {place.line} column {place.column}"

end ShaderSyntax.Json
