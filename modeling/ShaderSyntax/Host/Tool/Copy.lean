import ShaderSyntax.Host.Tool.Basic

/-!
# Copying inputs

Inputs are written one behind the other, as they are, or with lines numbered, blank lines squeezed,
and ends of lines and other characters shown. Numbers and squeezing go on from one input to the
next. A number stands in front of the first byte of a line.
-/

set_option autoImplicit false

namespace ShaderSyntax.Host

open Command

/-- How inputs are copied. -/
structure CopyStyle where
  numbersAll : Bool
  numbersFilled : Bool
  squeezes : Bool
  showsEnds : Bool
  showsTabs : Bool
  showsOthers : Bool
  deriving DecidableEq, Repr

namespace CopyStyle

/-- The options of copying. -/
def rules : List OptionRule := [
  ⟨'b', "number-nonblank", false⟩, ⟨'n', "number", false⟩, ⟨'s', "squeeze-blank", false⟩,
  ⟨'v', "show-nonprinting", false⟩, ⟨'E', "show-ends", false⟩, ⟨'T', "show-tabs", false⟩,
  ⟨'A', "show-all", false⟩, ⟨'e', "", false⟩, ⟨'t', "", false⟩, ⟨'u', "", false⟩]

/-- The style that options ask for. -/
def ofOptions (words : OptionWords) : CopyStyle where
  numbersAll := words.has 'n' && !words.has 'b'
  numbersFilled := words.has 'b'
  squeezes := words.has 's'
  showsEnds := words.has 'E' || words.has 'e' || words.has 'A'
  showsTabs := words.has 'T' || words.has 't' || words.has 'A'
  showsOthers := words.has 'v' || words.has 'e' || words.has 't' || words.has 'A'

/-- Whether everything is copied as it is. -/
def isPlain (style : CopyStyle) : Bool :=
  style = ⟨false, false, false, false, false, false⟩

end CopyStyle

/-- Where copying stands: the number of the last line that got one, and how many ends of lines came
last, if the last byte was one. A line that has begun has none; a copy begins like a new line. -/
structure CopyPlace where
  line : Nat
  ends : Option Nat
  deriving DecidableEq, Repr

/-- The number of a line, in six columns or more. -/
def lineNumber (line : Nat) : Bytes :=
  let digits := Nat.toDigits 10 line
  bytesOf (String.ofList (List.replicate (6 - digits.length) ' ' ++ digits)) ++ [9]

/-- A byte below 128 as it is shown: a control byte by the letter behind a caret. -/
def caretByte (style : CopyStyle) (byte : UInt8) : Bytes :=
  if byte = 9 && !style.showsTabs then [9]
  else if byte < 32 then [94, byte + 64]
  else if byte = 127 then [94, 63]
  else [byte]

/-- A byte within a line as it is shown; `last` says that the end of the line is next. -/
def CopyStyle.writeByte (style : CopyStyle) (byte : UInt8) (last : Bool) : Bytes :=
  if style.showsOthers then
    if byte < 128 then caretByte style byte
    else [77, 45] ++ caretByte { style with showsTabs := true } (byte - 128)
  else if byte = 9 && style.showsTabs then [94, 73]
  else if byte = 13 && style.showsEnds && last then [94, 77]
  else [byte]

/-- What an end of a line is copied as. -/
def CopyStyle.copyEnd (style : CopyStyle) (place : CopyPlace) : Bytes × CopyPlace :=
  let ends := match place.ends with
    | none => 0
    | some count => count + 1
  if 2 ≤ ends && style.squeezes then ([], { place with ends := some ends })
  else
    let numbered := 1 ≤ ends && style.numbersAll
    let line := if numbered then place.line + 1 else place.line
    ((if numbered then lineNumber line else []) ++ (if style.showsEnds then [36] else []) ++
      [lineFeed], ⟨line, some ends⟩)

/-- What bytes are copied as. -/
def CopyStyle.copy (style : CopyStyle) (place : CopyPlace) : Bytes → Bytes × CopyPlace
  | [] => ([], place)
  | byte :: rest =>
    let (copied, next) :=
      if byte = lineFeed then style.copyEnd place
      else
        let numbered := place.ends.isSome && (style.numbersAll || style.numbersFilled)
        let line := if numbered then place.line + 1 else place.line
        let shown := style.writeByte byte (rest.head? = some lineFeed)
        ((if numbered then lineNumber line else []) ++ shown, ⟨line, none⟩)
    let (more, last) := style.copy next rest
    (copied ++ more, last)

/-- Writes its inputs one behind the other. -/
def concatenate : Tool := fun arguments tree input =>
  match readOptionWords CopyStyle.rules true arguments with
  | .error fault => .misused "cat" fault.message input
  | .ok words =>
    let style := CopyStyle.ofOptions words
    let visit (state : CopyPlace × List ToolWrite) (path : String)
        (content : Except FileFault ByteStream) :=
      match content with
      | .error fault => ((state.1, state.2 ++ [plainComplaint "cat" path fault]), ByteStream.empty)
      | .ok stream =>
        if style.isPlain then ((state.1, state.2 ++ [.output stream]), ByteStream.empty)
        else
          let (bytes, place) := style.copy state.1 stream.bytes
          ((place, state.2 ++ [.output (.ofBytes bytes)]), ByteStream.empty)
    let ((_, writes), rest) :=
      visitFiles tree visit (inputsOr words.operands) (⟨0, some 0⟩, []) input
    .ofWrites writes rest

end ShaderSyntax.Host
