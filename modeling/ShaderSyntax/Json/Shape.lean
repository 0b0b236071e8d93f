import ShaderSyntax.Json.Inspection

/-!
# Shapes of records

The shape that a kind of record has, and the first fault of a text that does not have it. A
structure is an object with its fields in any order or the array of their values; a tagged number is
an object whose only field is named by the tag.
-/

set_option autoImplicit false

namespace ShaderSyntax.Json

/-- The shape of a value. -/
inductive Shape where
  | natural
  | text
  | optional (value : Shape)
  | list (item : Shape)
  | pair (first second : Shape)
  | map (value : Shape)
  | tagged (tags : List String)
  | struct (name : String) (fields : List (String × Bool × Shape))

namespace Shape

open Inspection

/-- A field of a structure that has to be there. -/
def required (name : String) (shape : Shape) : String × Bool × Shape := (name, true, shape)

/-- A field of a structure that has a default. -/
def defaulted (name : String) (shape : Shape) : String × Bool × Shape := (name, false, shape)

/-- Passes a natural number below 2^64. -/
def inspectNatural : Inspection Unit := do
  match ← peekVisible with
  | none => failAhead .endOfValue
  | some c =>
    if c = '-' || isDigit c then located do
      if c = '-' then pass
      match ← passNumber (c = '-') with
      | .whole value =>
        if value < 0 then failOpen (.wrongValue (.whole value) "usize")
      | found => failOpen (.wrongType found "usize")
    else failType "usize"

/-- Passes a text and gives it. -/
def inspectText (expected : String) : Inspection String := do
  match ← peekVisible with
  | none => failAhead .endOfValue
  | some c =>
    if c = '"' then
      pass
      passText true
    else failType expected

/-- Passes one of some names. -/
def inspectTag (tags : List String) : Inspection Unit := do
  let name ← inspectText "variant identifier"
  if !tags.contains name then located (failOpen (.unknownName name tags))

/-- Sees that a name comes next behind the opening brace of a tagged number. -/
def expectTag : Inspection Unit := do
  match ← peekVisible with
  | none => failAhead .endOfObject
  | some c =>
    if c = '"' then pure ()
    else failAhead (if c = '\x7d' then .noValue else .nameNotText)

/-- Passes a tagged number. -/
def inspectTagged (tags : List String) : Inspection Unit := do
  match ← peekVisible with
  | none => failAhead .endOfValue
  | some c =>
    if c = '\x7b' then
      pass
      expectTag
      inspectTag tags
      passColon
      inspectNatural
      match ← peekVisible with
      | none => failHere .endOfObject
      | some c => if c = '\x7d' then pass else failHere .noValue
    else if c = '"' then
      inspectTag tags
      failOpen (.wrongType .bareName "newtype variant")
    else failAhead .noValue

/-- Passes a value with brackets around it, given the names of the brackets' kinds it may have. -/
def inspectEnclosed (expected : String) (items fields : Option (Inspection Unit)) :
    Inspection Unit := do
  match ← peekVisible with
  | none => failAhead .endOfValue
  | some c =>
    if c = '[' then
      match items with
      | none => failType expected
      | some items => located do
        pass
        closedBy items endList
    else if c = '\x7b' then
      match fields with
      | none => failType expected
      | some fields => located do
        pass
        closedBy fields endObject
    else failType expected

mutual

/-- Passes a value of a shape; `steps` bounds the calls. -/
def inspectValue (steps : Nat) (shape : Shape) : Inspection Unit :=
  match steps, shape with
  | 0, _ => failHere .endOfValue
  | _ + 1, .natural => inspectNatural
  | _ + 1, .text => do
    let _ ← inspectText "a string"
  | steps + 1, .optional value => do
    if (← peekVisible) = some 'n' then
      pass
      passWord ['u', 'l', 'l']
    else inspectValue steps value
  | steps + 1, .list item =>
    inspectEnclosed "a sequence" (some (inspectItems steps item true)) none
  | steps + 1, .pair first second =>
    inspectEnclosed "a tuple of size 2"
      (some (inspectTuple steps "a tuple of size 2" 0 [required "" first, required "" second])) none
  | steps + 1, .map value => inspectEnclosed "a map" none (some (inspectMap steps value true))
  | _ + 1, .tagged tags => inspectTagged tags
  | steps + 1, .struct name fields =>
    let size := s!"struct {name} with {fields.length} elements"
    inspectEnclosed ("struct " ++ name) (some (inspectTuple steps size 0 fields))
      (some (inspectFields steps fields []))

/-- Passes the items of a list. -/
def inspectItems (steps : Nat) (item : Shape) (first : Bool) : Inspection Unit :=
  match steps with
  | 0 => failHere .endOfValue
  | steps + 1 => do
    if ← nextItem first then
      inspectValue steps item
      inspectItems steps item false

/-- Passes the values of a structure's fields. -/
def inspectTuple (steps : Nat) (expected : String) (count : Nat)
    (fields : List (String × Bool × Shape)) : Inspection Unit :=
  match steps, fields with
  | 0, _ => failHere .endOfValue
  | _ + 1, [] => pure ()
  | steps + 1, (_, isRequired, shape) :: rest => do
    if ← nextItem (count = 0) then
      inspectValue steps shape
    else if isRequired then failOpen (.wrongLength count expected)
    inspectTuple steps expected (count + 1) rest

/-- Passes the fields of a map. -/
def inspectMap (steps : Nat) (value : Shape) (first : Bool) : Inspection Unit :=
  match steps with
  | 0 => failHere .endOfValue
  | steps + 1 => do
    if ← nextField first then
      pass
      let _ ← passText true
      passColon
      inspectValue steps value
      inspectMap steps value false

/-- Passes the fields of a structure; `seen` are the names of those passed. -/
def inspectFields (steps : Nat) (fields : List (String × Bool × Shape)) (seen : List String) :
    Inspection Unit :=
  match steps with
  | 0 => failHere .endOfValue
  | steps + 1 => do
    if ← nextField seen.isEmpty then
      pass
      let name ← passText true
      match fields.find? fun field => field.1 = name with
      | none =>
        passColon
        skipValue (2 * (← get).text.length + 2)
      | some (_, _, shape) =>
        if seen.contains name then failOpen (.repeated name)
        else
          passColon
          inspectValue steps shape
      inspectFields steps fields (name :: seen)
    else
      match fields.find? fun field => field.2.1 && !seen.contains field.1 with
      | none => pure ()
      | some (name, _) => failOpen (.missing name)

end

/-- Passes a value of a shape and sees that nothing follows it. -/
def inspectAll (steps : Nat) (shape : Shape) : Inspection Unit := do
  inspectValue steps shape
  match ← peekVisible with
  | none => pure ()
  | some _ => failAhead .trailing

/-- The first fault of a text that should be a record of a shape. -/
def fault? (shape : Shape) (text : String) : Option Fault :=
  let chars := text.toList
  match ((inspectAll (2 * chars.length + 16) shape).run ⟨chars, FaultPlace.origin⟩).1 with
  | .error fault => some fault
  | .ok _ => none

end Shape

end ShaderSyntax.Json
