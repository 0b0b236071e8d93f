import ShaderSyntax.Json.Fault
import ShaderSyntax.Json.Reader
import ShaderSyntax.Text.Position

/-!
# Inspecting a text for faults

Passing over the parts of a document, from the front, until the first fault. Numbers and texts that
are wanted give what they stand for; what nobody wants is only checked for its form.
-/

set_option autoImplicit false

namespace ShaderSyntax.Json

/-- What an inspection has ahead of it, and the place it has reached. -/
structure Ahead where
  text : List Char
  place : FaultPlace

/-- A part of an inspection. The place reached is kept when it fails. -/
abbrev Inspection (α : Type) := ExceptT Fault (StateM Ahead) α

namespace Inspection

/-- The character ahead. -/
def peek : Inspection (Option Char) := do
  return (← get).text.head?

/-- Passes a character. -/
def pass : Inspection Unit :=
  modify fun ahead => match ahead.text with
    | [] => ahead
    | c :: rest => ⟨rest, ahead.place.next c⟩

/-- Passes the characters of a class and gives them. -/
def passWhile (wanted : Char → Bool) : Inspection (List Char) := do
  let ahead ← get
  let passed := ahead.text.takeWhile wanted
  set (Ahead.mk (ahead.text.dropWhile wanted) (passed.foldl FaultPlace.next ahead.place))
  return passed

/-- Passes blanks and gives the character behind them. -/
def peekVisible : Inspection (Option Char) := do
  let _ ← passWhile isSpace
  peek

/-- A fault at the place reached. -/
def failHere {α : Type} (cause : Cause) : Inspection α := do
  throw ⟨cause, some (← get).place⟩

/-- A fault of the character ahead. -/
def failAhead {α : Type} (cause : Cause) : Inspection α := do
  let ahead ← get
  throw ⟨cause, some (ahead.place.nextByte ahead.text.head?)⟩

/-- A fault whose place is open. -/
def failOpen {α : Type} (cause : Cause) : Inspection α :=
  throw ⟨cause, none⟩

/-- Sets the place of a fault that has none to the place reached. -/
def located {α : Type} (part : Inspection α) : Inspection α :=
  tryCatch part fun fault => match fault.place with
    | some _ => throw fault
    | none => failHere fault.cause

/-- Passes a part and what closes it. A fault of the part counts more than one of its end, but the
end is passed in any case. -/
def closedBy (part close : Inspection Unit) : Inspection Unit := do
  tryCatch part fun fault => do
    tryCatch close fun _ => pure ()
    throw fault
  close

/-- Passes the rest of a word. -/
def passWord : List Char → Inspection Unit
  | [] => pure ()
  | c :: rest => do
    match ← peek with
    | none => failHere .endOfValue
    | some d =>
      if d = c then
        pass
        passWord rest
      else failAhead .noWord

/-- Passes the four digits of an escape by number. -/
def passUnit : Inspection Nat := do
  let ahead ← get
  let digits := ahead.text.take 4
  let found := match digits with
    | [a, b, c, d] => unit? a b c d
    | _ => none
  match found with
  | some unit =>
    set (Ahead.mk (ahead.text.drop 4) (digits.foldl FaultPlace.next ahead.place))
    return unit
  | none =>
    set (Ahead.mk [] (ahead.place.nextBytes 4 ahead.text))
    failHere (if utf8Length digits < 4 then .endOfText else .badEscape)

/-- Passes a character that has to come next in an escape by number. -/
def passHalf (c : Char) : Inspection Unit := do
  match ← peek with
  | none => failHere .endOfText
  | some d => if d = c then pass else failAhead .endOfEscape

/-- Passes an escape by number behind its letter. Only in a wanted text do the halves of a pair have
to stand together. -/
def passNumbered (wanted : Bool) : Inspection Char := do
  let unit ← passUnit
  if !wanted then return ' '
  else if 0xDC00 ≤ unit && unit < 0xE000 then failHere .loneSurrogate
  else if unit < 0xD800 || 0xDC00 ≤ unit then return Char.ofNat unit
  else
    passHalf '\\'
    passHalf 'u'
    let low ← passUnit
    if low < 0xDC00 || 0xE000 ≤ low then failHere .loneSurrogate
    else return Char.ofNat (0x10000 + (unit - 0xD800) * 1024 + (low - 0xDC00))

/-- Passes an escape behind its backslash. -/
def passEscape (wanted : Bool) : Inspection Char := do
  match ← peek with
  | none => failHere .endOfText
  | some c =>
    if c = 'u' then
      pass
      passNumbered wanted
    else match shortEscape? c with
      | none => failAhead .badEscape
      | some c => pass; return c

/-- Passes the rest of a text; `read` holds its characters so far, in reverse. -/
def passContent (wanted : Bool) (steps : Nat) (read : List Char) : Inspection String :=
  match steps with
  | 0 => failHere .endOfText
  | steps + 1 => do
    match ← peek with
    | none => failHere .endOfText
    | some c =>
      if c = '\\' then
        pass
        let c ← passEscape wanted
        passContent wanted steps (c :: read)
      else if c < ' ' && !wanted then failHere .control
      else
        pass
        if c = '"' then return String.ofList read.reverse
        else if c < ' ' then failHere .control
        else passContent wanted steps (c :: read)

/-- Passes a text behind its opening quote. -/
def passText (wanted : Bool) : Inspection String := do
  passContent wanted ((← get).text.length + 1) []

/-- Takes digits into a number as long as it stays below 2^64: the number and the other digits. -/
def absorb (whole : Nat) : List Char → Nat × List Char
  | [] => (whole, [])
  | c :: rest =>
    let more := 10 * whole + (c.toNat - 48)
    if Nat.pow 2 64 ≤ more then (whole, c :: rest) else absorb more rest

/-- A power of ten within the range of binary64. -/
def tenTo (exponent : Nat) : Float := Float.ofScientific 1 false exponent

/-- Scales by a power of ten, if the result is in range. -/
def scaled? (steps : Nat) (whole : Float) (exponent : Int) : Option Float :=
  match steps with
  | 0 => some whole
  | steps + 1 =>
    if exponent.natAbs ≤ 308 then
      if exponent < 0 then some (whole / tenTo exponent.natAbs)
      else
        let scaled := whole * tenTo exponent.natAbs
        if scaled.isInf then none else some scaled
    else if whole == 0 then some whole
    else if 0 ≤ exponent then none
    else scaled? steps (whole / tenTo 308) (exponent + 308)

/-- The real number `whole` times ten to the `exponent`. -/
def realOf (negative : Bool) (whole : Nat) (exponent : Int) : Inspection Found :=
  match scaled? 4 (Float.ofNat whole) exponent with
  | none => failHere .outOfRange
  | some x => return .real (if negative then -x else x)

/-- The number that the digits of an exponent spell, and the digits read: all of them, or those with
which the number reaches 2^31. -/
def readExponentDigits (value : Nat) : List Char → Nat × List Char
  | [] => (value, [])
  | c :: rest =>
    let value := 10 * value + (c.toNat - 48)
    if Nat.pow 2 31 ≤ value then (value, [c])
    else
      let (value, read) := readExponentDigits value rest
      (value, c :: read)

/-- Passes the exponent of a real number, behind its letter. -/
def passExponent (negative : Bool) (whole : Nat) (scale : Int) : Inspection Found := do
  let sign ← peek
  if sign = some '+' || sign = some '-' then pass
  match ← peek with
  | none => failHere .endOfValue
  | some c =>
    if !isDigit c then failAhead .badNumber
    else
      let start := (← get).place
      let (exponent, read) := readExponentDigits 0 (← passWhile isDigit)
      let down := sign = some '-'
      if exponent < Nat.pow 2 31 then
        realOf negative whole (if down then scale - exponent else scale + exponent)
      else if whole ≠ 0 && !down then
        throw ⟨.outOfRange, some (read.foldl FaultPlace.next start)⟩
      else return .real (if negative then -0.0 else 0.0)

/-- Passes the exponent of a real number, if there is one. -/
def passScale (negative : Bool) (whole : Nat) (scale : Int) : Inspection Found := do
  let c ← peek
  if c = some 'e' || c = some 'E' then
    pass
    passExponent negative whole scale
  else realOf negative whole scale

/-- Passes the fraction of a real number behind the point, and its exponent. -/
def passFraction (negative : Bool) (whole : Nat) (scale : Int) : Inspection Found := do
  let digits ← passWhile isDigit
  if digits.isEmpty then
    match ← peek with
    | none => failAhead .endOfValue
    | some _ => failAhead .badNumber
  else
    let (whole, rest) := absorb whole digits
    passScale negative whole (scale - (digits.length - rest.length : Nat))

/-- A whole number; minus zero, and what is out of range, is a real one. -/
def wholeOf (negative : Bool) (whole : Nat) : Found :=
  if !negative then .whole whole
  else if whole = 0 || Nat.pow 2 63 < whole then .real (-Float.ofNat whole)
  else .whole (-whole)

/-- Passes a number behind its sign. -/
def passNumber (negative : Bool) : Inspection Found := do
  match ← peek with
  | none => failHere .endOfValue
  | some c =>
    if !isDigit c then failAhead .badNumber
    else
      if c = '0' then pass
      let digits ← if c = '0' then pure [] else passWhile isDigit
      let (whole, rest) := absorb 0 digits
      let behind ← peek
      if c = '0' && behind.any isDigit then failAhead .badNumber
      else if behind = some '.' then
        pass
        passFraction negative whole rest.length
      else if behind = some 'e' || behind = some 'E' || !rest.isEmpty then
        passScale negative whole rest.length
      else return wholeOf negative whole

/-- Passes digits, at least one. -/
def passDigits : Inspection Unit := do
  match ← peek with
  | none => failHere .badNumber
  | some c =>
    if isDigit c then
      let _ ← passWhile isDigit
    else failAhead .badNumber

/-- Passes an exponent that nobody wants, if there is one. -/
def skipScale : Inspection Unit := do
  let c ← peek
  if c = some 'e' || c = some 'E' then
    pass
    let sign ← peek
    if sign = some '+' || sign = some '-' then pass
    passDigits

/-- Passes a number that nobody wants, behind its sign. -/
def skipNumber : Inspection Unit := do
  let first ← peek
  if first = some '0' then
    pass
    if (← peek).any isDigit then failAhead .badNumber
  else passDigits
  if (← peek) = some '.' then
    pass
    if !(← peek).any isDigit then failAhead .badNumber
    passDigits
  skipScale

/-- Whether another item of a list is ahead; passes the comma in front of it. -/
def nextItem (first : Bool) : Inspection Bool := do
  match ← peekVisible with
  | none => failAhead .endOfList
  | some c =>
    if c = ']' then return false
    else if first then return true
    else if c = ',' then
      pass
      match ← peekVisible with
      | none => failAhead .endOfValue
      | some c => if c = ']' then failAhead .trailingComma else return true
    else failAhead .noListComma

/-- Whether another field of an object is ahead; passes the comma in front of it. -/
def nextField (first : Bool) : Inspection Bool := do
  match ← peekVisible with
  | none => failAhead .endOfObject
  | some c =>
    if c = '\x7d' then return false
    else if first then
      if c = '"' then return true else failAhead .nameNotText
    else if c = ',' then
      pass
      match ← peekVisible with
      | none => failAhead .endOfValue
      | some c =>
        if c = '"' then return true
        else failAhead (if c = '\x7d' then .trailingComma else .nameNotText)
    else failAhead .noObjectComma

/-- Passes the end of a list. -/
def endList : Inspection Unit := do
  match ← peekVisible with
  | none => failAhead .endOfList
  | some c =>
    if c = ']' then pass
    else if c = ',' then
      pass
      let behind ← peekVisible
      failAhead (if behind = some ']' then .trailingComma else .trailing)
    else failAhead .trailing

/-- Passes the end of an object. -/
def endObject : Inspection Unit := do
  match ← peekVisible with
  | none => failAhead .endOfObject
  | some c =>
    if c = '\x7d' then pass
    else failAhead (if c = ',' then .trailingComma else .trailing)

/-- Passes the colon behind the name of a field. -/
def passColon : Inspection Unit := do
  match ← peekVisible with
  | none => failAhead .endOfObject
  | some c => if c = ':' then pass else failAhead .noColon

/-- What stands ahead in the place of something else. -/
def unexpected : Inspection Found := do
  match ← peek with
  | none => failAhead .noValue
  | some c =>
    if c = '[' then return .list
    else if c = '\x7b' then return .object
    else if isDigit c then passNumber false
    else if ['n', 't', 'f', '-', '"'].contains c then
      pass
      if c = 'n' then
        passWord ['u', 'l', 'l']
        return .null
      else if c = 't' then
        passWord ['r', 'u', 'e']
        return .bool true
      else if c = 'f' then
        passWord ['a', 'l', 's', 'e']
        return .bool false
      else if c = '-' then passNumber true
      else return .text (← passText true)
    else failAhead .noValue

/-- A fault for what stands ahead in the place of something else. -/
def failType {α : Type} (expected : String) : Inspection α :=
  located do failOpen (.wrongType (← unexpected) expected)

mutual

/-- Passes a value that nobody wants. -/
def skipValue (steps : Nat) : Inspection Unit :=
  match steps with
  | 0 => failHere .endOfValue
  | steps + 1 => do
    match ← peekVisible with
    | none => failAhead .endOfValue
    | some c =>
      if isDigit c then skipNumber
      else if ['n', 't', 'f', '-', '"', '[', '\x7b'].contains c then
        pass
        if c = 'n' then passWord ['u', 'l', 'l']
        else if c = 't' then passWord ['r', 'u', 'e']
        else if c = 'f' then passWord ['a', 'l', 's', 'e']
        else if c = '-' then skipNumber
        else if c = '"' then
          let _ ← passText false
        else if c = '[' then
          match ← peekVisible with
          | none => failAhead .endOfList
          | some c => if c = ']' then pass else skipItems steps
        else
          match ← peekVisible with
          | none => failAhead .endOfObject
          | some c => if c = '\x7d' then pass else skipFields steps
      else failAhead .noValue

/-- Passes the items of a list that nobody wants, at least one, and the closing bracket. -/
def skipItems (steps : Nat) : Inspection Unit :=
  match steps with
  | 0 => failHere .endOfValue
  | steps + 1 => do
    skipValue steps
    match ← peekVisible with
    | none => failAhead .endOfList
    | some c =>
      if c = ']' then pass
      else if c = ',' then
        pass
        skipItems steps
      else failAhead .noListComma

/-- Passes the fields of an object that nobody wants, at least one, and the closing brace. -/
def skipFields (steps : Nat) : Inspection Unit :=
  match steps with
  | 0 => failHere .endOfValue
  | steps + 1 => do
    match ← peekVisible with
    | none => failAhead .endOfObject
    | some c =>
      if c = '"' then
        pass
        let _ ← passText false
        passColon
        skipValue steps
        match ← peekVisible with
        | none => failAhead .endOfObject
        | some c =>
          if c = '\x7d' then pass
          else if c = ',' then
            pass
            skipFields steps
          else failAhead .noObjectComma
      else failAhead .nameNotText

end

end Inspection

end ShaderSyntax.Json
