import ShaderSyntax.Json.Reader
import ShaderSyntax.Json.Shape
import ShaderSyntax.Json.Writer
import ShaderSyntax.Tables.Basic

/-!
# Table records

The JSON form in which tables are kept. A record is written as one object with all its fields in a
fixed order. Reading accepts fields in any order, ignores unknown ones, refuses repeated ones, and
fills in fields that have a default; like every structure in it, a bundle may also be the array of
its field values in order. Where a text is no record, the first fault says why.
-/

set_option autoImplicit false

namespace ShaderSyntax

open Json.Shape (required defaulted)

namespace Json

/-- The names of an object's fields are texts, and no wanted name occurs twice. -/
def distinct (names : List String) (fields : List (Option String × Json)) : Bool :=
  fields.all (fun field => field.1.isSome) &&
    names.all fun name => (fields.filter fun field => field.1 == some name).length ≤ 1

/-- The value that a structure gives to the field at a place of the list of names. -/
abbrev Fields := Nat → Option Json

/-- The fields of a structure written as an object or as the array of its values. -/
def fields? (names : List String) : Json → Option Fields
  | .object fields =>
    if distinct names fields then
      some fun place => (names[place]?).bind fun name => (Json.object fields).field? name
    else none
  | .array items =>
    if items.length ≤ names.length then some fun place => items[place]? else none
  | _ => none

/-- Reads a field that has to be there. -/
def Fields.required {α : Type} (fields : Fields) (place : Nat) (read : Json → Option α) :
    Option α :=
  (fields place).bind read

/-- Reads a field that has a default. -/
def Fields.optional {α : Type} (fields : Fields) (place : Nat) (read : Json → Option α)
    (default : α) : Option α :=
  match fields place with
  | none => some default
  | some value => read value

/-- Reads an array whose items are all of one kind. -/
def listOf? {α : Type} (read : Json → Option α) : Json → Option (List α)
  | .array items => items.mapM read
  | _ => none

/-- Reads an array of exactly two values. -/
def pairOf? {α β : Type} (first : Json → Option α) (second : Json → Option β) :
    Json → Option (α × β)
  | .array [a, b] => do return (← first a, ← second b)
  | _ => none

/-- Reads a value that may be null. -/
def optionOf? {α : Type} (read : Json → Option α) : Json → Option (Option α)
  | .null => some none
  | value => (read value).map some

end Json

namespace Action

/-- The JSON form of an action: an object with one field. -/
def toJson : Action → Json
  | .shift state => .ofFields [("Shift", .ofNat state)]
  | .reduce production => .ofFields [("Reduce", .ofNat production)]

/-- Reads an action. -/
def ofJson? : Json → Option Action
  | .object [(some name, value)] =>
    if name = "Shift" then value.nat?.map .shift
    else if name = "Reduce" then value.nat?.map .reduce
    else none
  | _ => none

/-- The shape of an action. -/
def shape : Json.Shape := .tagged ["Shift", "Reduce"]

end Action

namespace Production

/-- The JSON form of a production. -/
def toJson (production : Production) : Json :=
  .ofFields [("lhs", .ofNat production.lhs), ("rhs_len", .ofNat production.length)]

/-- Reads a production. -/
def ofJson? (value : Json) : Option Production := do
  let fields ← value.fields? ["lhs", "rhs_len"]
  let lhs ← fields.required 0 Json.nat?
  let length ← fields.required 1 Json.nat?
  return ⟨lhs, length⟩

/-- The shape of a production. -/
def shape : Json.Shape :=
  .struct "Production" [required "lhs" .natural, required "rhs_len" .natural]

end Production

namespace ProductionRecord

/-- The JSON form of a production record. -/
def toJson (record : ProductionRecord) : Json :=
  .ofFields [("id", .ofNat record.id), ("lhs", .ofNat record.lhs),
    ("rhs", .array (record.rhs.map .ofNat)), ("code", .ofString record.code)]

/-- Reads a production record; without a marker the marker is empty. -/
def ofJson? (value : Json) : Option ProductionRecord := do
  let fields ← value.fields? ["id", "lhs", "rhs", "code"]
  let id ← fields.required 0 Json.nat?
  let lhs ← fields.required 1 Json.nat?
  let rhs ← fields.required 2 (Json.listOf? Json.nat?)
  let code ← fields.optional 3 Json.text? ""
  return ⟨id, lhs, rhs, code⟩

/-- The shape of a production record. -/
def shape : Json.Shape :=
  .struct "ProductionRecord" [required "id" .natural, required "lhs" .natural,
    required "rhs" (.list .natural), defaulted "code" .text]

end ProductionRecord

namespace LabelMap

/-- The JSON form of a label map: an object with a field for every label. -/
def toJson (map : LabelMap) : Json :=
  .ofFields (map.entries.map fun entry => (entry.1, .ofNat entry.2))

/-- Reads a field of a label map. -/
def labelled? (field : Option String × Json) : Option (String × Nat) := do
  return (← field.1, ← field.2.nat?)

/-- Reads a label map; the last field of a label counts. -/
def ofJson? : Json → Option LabelMap
  | .object fields => (fields.mapM labelled?).map ofPairs
  | _ => none

end LabelMap

namespace TableBundle

/-- The names of a bundle's fields, in order. -/
def fieldNames : List String :=
  ["pop_tab", "act_tab", "goto_tab", "defact_tab", "labels", "labelmap", "eof_symbol",
    "error_symbol", "whitespace_token", "productions", "hash"]

/-- The JSON form of tables. -/
def toJson (tables : TableBundle) : Json :=
  .ofFields [
    ("pop_tab", .array (tables.productions.map Production.toJson)),
    ("act_tab", .array (tables.actions.map fun row =>
      .array (row.map fun entry => .array [.ofNat entry.1, entry.2.toJson]))),
    ("goto_tab", .array (tables.gotos.map fun row =>
      .array (row.map fun entry => .array [.ofNat entry.1, .ofNat entry.2]))),
    ("defact_tab", .array (tables.defaults.map (.ofOption Action.toJson))),
    ("labels", .array (tables.labels.map .ofString)),
    ("labelmap", tables.labelMap.toJson),
    ("eof_symbol", .ofNat tables.endSymbol),
    ("error_symbol", .ofNat tables.errorSymbol),
    ("whitespace_token", .ofOption .ofNat tables.skipSymbol),
    ("productions", .array (tables.records.map ProductionRecord.toJson)),
    ("hash", .ofString tables.hash)]

/-- Reads tables from their JSON form. -/
def ofJson? (value : Json) : Option TableBundle := do
  let fields ← value.fields? fieldNames
  let productions ← fields.required 0 (Json.listOf? Production.ofJson?)
  let actions ← fields.required 1
    (Json.listOf? (Json.listOf? (Json.pairOf? Json.nat? Action.ofJson?)))
  let gotos ← fields.required 2
    (Json.listOf? (Json.listOf? (Json.pairOf? Json.nat? Json.nat?)))
  let defaults ← fields.required 3 (Json.listOf? (Json.optionOf? Action.ofJson?))
  let labels ← fields.required 4 (Json.listOf? Json.text?)
  let labelMap ← fields.optional 5 LabelMap.ofJson? LabelMap.empty
  let endSymbol ← fields.required 6 Json.nat?
  let errorSymbol ← fields.required 7 Json.nat?
  let skipSymbol ← fields.optional 8 (Json.optionOf? Json.nat?) none
  let records ← fields.optional 9 (Json.listOf? ProductionRecord.ofJson?) []
  let hash ← fields.optional 10 Json.text? ""
  return { productions, actions, gotos, defaults, labels, labelMap, endSymbol, errorSymbol,
           skipSymbol, records, hash }

/-- The record of tables. -/
def write (tables : TableBundle) : String :=
  tables.toJson.write

/-- The shape of tables. -/
def shape : Json.Shape :=
  .struct "TableBundle" [
    required "pop_tab" (.list Production.shape),
    required "act_tab" (.list (.list (.pair .natural Action.shape))),
    required "goto_tab" (.list (.list (.pair .natural .natural))),
    required "defact_tab" (.list (.optional Action.shape)),
    required "labels" (.list .text),
    defaulted "labelmap" (.map .natural),
    required "eof_symbol" .natural,
    required "error_symbol" .natural,
    defaulted "whitespace_token" (.optional .natural),
    defaulted "productions" (.list ProductionRecord.shape),
    defaulted "hash" .text]

/-- The tables of a record, if the text is one. -/
def read? (record : String) : Option TableBundle :=
  (Json.read? record).bind ofJson?

/-- Why a text is no record. -/
def faultMessage (record : String) : String :=
  ((shape.fault? record).map Json.Fault.message).getD ""

end TableBundle

end ShaderSyntax
