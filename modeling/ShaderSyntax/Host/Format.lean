import ShaderSyntax.Host.Escape
import ShaderSyntax.Host.Leading
import ShaderSyntax.Host.Rounded

/-!
# Formats

A format is a row of pieces: bytes that stand for themselves, and conversions, each of which writes
one argument. A format is used again as long as arguments are left over; a missing argument is an
empty text or zero. Escapes are read where the format is read. A conversion that means nothing ends
the writing, as does an argument that asks for it.
-/

set_option autoImplicit false

namespace ShaderSyntax.Host

open Command

/-- How a real number is written. -/
inductive RealStyle where
  | fixed
  | exponential
  | general
  deriving DecidableEq, Repr

/-- What a conversion makes of its argument. -/
inductive ConversionKind where
  | text
  | escapedText
  | firstByte
  | signed
  | unsigned (base : Nat)
  | real (style : RealStyle)
  deriving DecidableEq, Repr

/-- The marks between the percent sign and the width of a conversion. -/
structure ConversionFlags where
  leftAligned : Bool
  zeroFilled : Bool
  plus : Bool
  blank : Bool
  alternate : Bool
  deriving DecidableEq, Repr

/-- A width or a precision: left out, given in the format, or an argument of its own. -/
inductive Amount where
  | absent
  | given (count : Nat)
  | argument
  deriving DecidableEq, Repr

/-- A conversion; `upper` says that letters among digits are great ones. -/
structure Conversion where
  kind : ConversionKind
  upper : Bool
  flags : ConversionFlags
  width : Amount
  precision : Amount
  deriving DecidableEq, Repr

/-- A piece of a format. -/
inductive FormatPiece where
  | bytes (bytes : Bytes)
  | conversion (conversion : Conversion)
  /-- What ends the writing, with the message for it. -/
  | fault (text : String)
  deriving DecidableEq, Repr

/-- The kind of a conversion by its letter. -/
def conversionKind? (letter : Char) : Option ConversionKind :=
  match letter with
  | 's' => some .text
  | 'b' => some .escapedText
  | 'c' => some .firstByte
  | 'd' => some .signed
  | 'i' => some .signed
  | 'u' => some (.unsigned 10)
  | 'o' => some (.unsigned 8)
  | 'x' => some (.unsigned 16)
  | 'X' => some (.unsigned 16)
  | 'f' => some (.real .fixed)
  | 'F' => some (.real .fixed)
  | 'e' => some (.real .exponential)
  | 'E' => some (.real .exponential)
  | 'g' => some (.real .general)
  | 'G' => some (.real .general)
  | _ => none

/-- The number that leading digits spell, zero if there are none. -/
def leadingNumber (text : List Char) : Nat :=
  Numeral.digitsValue (text.takeWhile Char.isDigit)

/-- Reads a width or a precision. -/
def readAmount : List Char → Amount × List Char
  | '*' :: rest => (.argument, rest)
  | text =>
    let digits := text.takeWhile Char.isDigit
    (if digits.isEmpty then .absent else .given (leadingNumber digits), text.drop digits.length)

/-- Reads a conversion behind its percent sign. -/
def readConversion (text : List Char) : FormatPiece × List Char :=
  let isFlag (c : Char) := ['-', '+', ' ', '0', '#'].contains c
  let marks := text.takeWhile isFlag
  let flags : ConversionFlags := {
    leftAligned := marks.contains '-'
    zeroFilled := marks.contains '0'
    plus := marks.contains '+'
    blank := marks.contains ' '
    alternate := marks.contains '#' }
  let (width, rest) := readAmount (text.dropWhile isFlag)
  let (precision, rest) := match rest with
    | '.' :: more =>
      let read := readAmount more
      (if read.1 = .absent then .given 0 else read.1, read.2)
    | _ => (.absent, rest)
  match rest with
  | [] => (.fault "missing format character", [])
  | letter :: rest =>
    match conversionKind? letter with
    | some kind => (.conversion ⟨kind, letter.isUpper, flags, width, precision⟩, rest)
    | none =>
      let spelled := String.ofList (text.take (text.length - rest.length))
      (.fault ("%" ++ spelled ++ ": invalid directive"), rest)

/-- The pieces of a format. `steps` bounds the characters read. -/
def readPieces : Nat → List Char → List FormatPiece
  | 0, _ => []
  | _ + 1, [] => []
  | steps + 1, '%' :: '%' :: rest => .bytes [37] :: readPieces steps rest
  | steps + 1, '%' :: rest =>
    let read := readConversion rest
    read.1 :: readPieces steps read.2
  | steps + 1, '\\' :: rest =>
    let read := readEscape false rest
    .bytes read.1 :: readPieces steps read.2
  | steps + 1, c :: rest => .bytes (bytesOf (String.singleton c)) :: readPieces steps rest

/-- The pieces of a format. -/
def FormatPiece.ofText (format : String) : List FormatPiece :=
  readPieces (format.length + 1) format.toList

/-- The byte behind a quotation mark that an argument starts with. -/
def quotedByte? (argument : String) : Option UInt8 :=
  if argument.startsWith "'" || argument.startsWith "\"" then
    some (((bytesOf argument)[1]?).getD 0)
  else none

/-- What is wrong with a numeric argument. -/
inductive NumberFault where
  | noNumber
  | notAll
  | outOfRange
  deriving DecidableEq, Repr

/-- The message of a fault. -/
def NumberFault.message : NumberFault → String
  | .noNumber => "expected numeric value"
  | .notAll => "not completely converted"
  | .outOfRange => "Numerical result out of range"

/-- A number within the range of words with or without sign; a negative number counts down from the
end of a range without sign. -/
def wordWithin (withSign : Bool) (value : Int) : Int × Bool :=
  let limit : Int := Nat.pow 2 64
  if withSign then
    let kept := max (-(limit / 2)) (min (limit / 2 - 1) value)
    (kept, kept ≠ value)
  else if limit ≤ value.natAbs then (limit - 1, true)
  else (value % limit, false)

/-- A whole number as an argument: its value and what is wrong with it. -/
def readWhole (withSign : Bool) (argument : String) : Int × Option NumberFault :=
  match quotedByte? argument with
  | some byte => (byte.toNat, none)
  | none =>
    match leadingWhole? argument.toList with
    | none => (0, if argument.isEmpty then none else some .noNumber)
    | some (value, rest) =>
      let (kept, exceeded) := wordWithin withSign value
      (kept, if !rest.isEmpty then some .notAll else if exceeded then some .outOfRange else none)

/-- The least positive number of binary64 with all its digits. -/
def leastFullReal : Float := Float.ofBits (Nat.toUInt64 (Nat.pow 2 52))

/-- A real number as an argument: its value and what is wrong with it. -/
def readReal (argument : String) : Float × Option NumberFault :=
  match quotedByte? argument with
  | some byte => (Float.ofNat byte.toNat, none)
  | none =>
    match leadingDecimal? argument.toList with
    | none => (0.0, if argument.isEmpty then none else some .noNumber)
    | some (decimal, rest) =>
      let value := decimal.toFloat
      let exceeded := match decimal.magnitude with
        | .finite digits _ => value.isInf || digits ≠ 0 && value.abs < leastFullReal
        | _ => false
      (value, if !rest.isEmpty then some .notAll else if exceeded then some .outOfRange else none)

/-- How a conversion lays out what it writes, when its width and precision are known. -/
structure Layout where
  flags : ConversionFlags
  width : Nat
  precision : Option Nat
  deriving DecidableEq, Repr

/-- Fills bytes up to the width of a layout; zeros go behind the sign. -/
def Layout.fill (layout : Layout) (zeros : Bool) (sign bytes : Bytes) : Bytes :=
  let missing := layout.width - (sign ++ bytes).length
  if layout.flags.leftAligned then sign ++ bytes ++ List.replicate missing 32
  else if zeros && layout.flags.zeroFilled then sign ++ List.replicate missing 48 ++ bytes
  else List.replicate missing 32 ++ sign ++ bytes

/-- The bytes cut to the precision of a layout. -/
def Layout.cut (layout : Layout) (bytes : Bytes) : Bytes :=
  match layout.precision with
  | some length => bytes.take length
  | none => bytes

/-- The sign that a layout puts in front of a number. -/
def Layout.sign (layout : Layout) (negative : Bool) : Bytes :=
  if negative then [45]
  else if layout.flags.plus then [43]
  else if layout.flags.blank then [32]
  else []

/-- Digits to a base, at least as many as the precision asks for; zero has none for no digits. -/
def Layout.digits (layout : Layout) (base : Nat) (upper : Bool) (value : Nat) : Bytes :=
  let digits := if value = 0 && layout.precision = some 0 then [] else Nat.toDigits base value
  let digits := if upper then digits.map Char.toUpper else digits
  let digits := List.replicate (layout.precision.getD 0 - digits.length) '0' ++ digits
  let digits :=
    if layout.flags.alternate && base = 8 && digits.head? ≠ some '0' then '0' :: digits else digits
  bytesOf (String.ofList digits)

/-- What a conversion writes for a whole number. -/
def Layout.writeWhole (layout : Layout) (kind : ConversionKind) (upper : Bool) (value : Int) :
    Bytes :=
  match kind with
  | .unsigned base =>
    let mark := if layout.flags.alternate && base = 16 && value ≠ 0 then
        if upper then [48, 88] else [48, 120]
      else []
    layout.fill layout.precision.isNone mark (layout.digits base upper value.natAbs)
  | _ =>
    layout.fill layout.precision.isNone (layout.sign (value < 0))
      (layout.digits 10 false value.natAbs)

/-- What a conversion writes for a real number. -/
def Layout.writeReal (layout : Layout) (style : RealStyle) (upper : Bool) (value : Float) : Bytes :=
  let bits := value.toBits.toNat
  let exponent := bits / Nat.pow 2 52 % Nat.pow 2 11
  let fraction := bits % Nat.pow 2 52
  let ratio := if exponent = 0 && fraction = 0 then ⟨0, 1⟩
    else Ratio.ofBits exponent fraction
  let places := layout.precision.getD 6
  let keepPoint := layout.flags.alternate
  let text :=
    if exponent = 2047 then if fraction = 0 then ['i', 'n', 'f'] else ['n', 'a', 'n']
    else match style with
      | .fixed => writeFixed ratio places keepPoint
      | .exponential => writeExponential ratio places keepPoint
      | .general => writeGeneral ratio places keepPoint
  let text := if upper then text.map Char.toUpper else text
  layout.fill (exponent ≠ 2047) (layout.sign (Nat.pow 2 63 ≤ bits)) (bytesOf (String.ofList text))

/-- How far the writing of a format has come. -/
inductive WritingState where
  | going
  /-- An argument asked to stop. -/
  | stopped
  /-- The format cannot be written on. -/
  | broken
  deriving DecidableEq, Repr

/-- What a format has written, what was wrong, and the arguments that are left. -/
structure Writing where
  bytes : Bytes
  faults : List String
  arguments : List String
  state : WritingState

namespace Writing

/-- Nothing written yet. -/
def start (arguments : List String) : Writing := ⟨[], [], arguments, .going⟩

/-- Writes bytes. -/
def put (writing : Writing) (bytes : Bytes) : Writing :=
  { writing with bytes := writing.bytes ++ bytes }

/-- Takes the next argument. -/
def next (writing : Writing) : Option String × Writing :=
  (writing.arguments.head?, { writing with arguments := writing.arguments.drop 1 })

/-- Takes the next argument as a number that some reader makes of it. -/
def nextNumber {α : Type} (writing : Writing) (zero : α) (read : String → α × Option NumberFault) :
    α × Writing :=
  match writing.next with
  | (none, writing) => (zero, writing)
  | (some argument, writing) =>
    let (value, fault) := read argument
    let faults := fault.toList.map fun fault => argument ++ ": " ++ fault.message
    (value, { writing with faults := writing.faults ++ faults })

/-- Takes an amount: nothing, the number in the format, or the next argument. -/
def takeAmount (writing : Writing) : Amount → Option Int × Writing
  | .absent => (none, writing)
  | .given count => (some count, writing)
  | .argument =>
    let (value, writing) := writing.nextNumber 0 (readWhole true)
    (some value, writing)

/-- Writes a conversion. A negative width aligns to the left, a negative precision is none. -/
def convert (writing : Writing) (conversion : Conversion) : Writing :=
  let (width, writing) := writing.takeAmount conversion.width
  let (precision, writing) := writing.takeAmount conversion.precision
  let flags := conversion.flags
  let layout : Layout := {
    flags := { flags with leftAligned := flags.leftAligned || width.any (· < 0) }
    width := (width.getD 0).natAbs
    precision := precision.bind fun count => if count < 0 then none else some count.natAbs }
  match conversion.kind with
  | .text =>
    let (argument, writing) := writing.next
    writing.put (layout.fill false [] (layout.cut (bytesOf (argument.getD ""))))
  | .escapedText =>
    let (argument, writing) := writing.next
    let (bytes, stop) := unescape (argument.getD "").toList
    let writing := writing.put (layout.fill false [] (layout.cut bytes))
    if stop then { writing with state := .stopped } else writing
  | .firstByte =>
    let (argument, writing) := writing.next
    let byte := (argument.bind fun argument => (bytesOf argument).head?).getD 0
    writing.put (layout.fill false [] [byte])
  | .real style =>
    let (value, writing) := writing.nextNumber 0.0 readReal
    writing.put (layout.writeReal style conversion.upper value)
  | kind =>
    let (value, writing) := writing.nextNumber 0 (readWhole (kind = .signed))
    writing.put (layout.writeWhole kind conversion.upper value)

/-- Writes a piece, unless the writing has ended. -/
def writePiece (writing : Writing) (piece : FormatPiece) : Writing :=
  if writing.state = .going then
    match piece with
    | .bytes bytes => writing.put bytes
    | .conversion conversion => writing.convert conversion
    | .fault text => { writing with faults := writing.faults ++ [text], state := .broken }
  else writing

/-- Writes pieces again and again as long as arguments are left over and are used. -/
def writeRounds (pieces : List FormatPiece) : Nat → Writing → Writing
  | 0, writing => writing
  | rounds + 1, writing =>
    let after := pieces.foldl writePiece writing
    if after.state = .going && !after.arguments.isEmpty &&
        after.arguments.length < writing.arguments.length then
      writeRounds pieces rounds after
    else after

/-- The code of a finished writing. -/
def code (writing : Writing) : Nat :=
  if writing.state = .broken then 2 else if writing.faults.isEmpty then 0 else 1

end Writing

/-- Writes arguments under a format. -/
def writeFormat (format : String) (arguments : List String) : Writing :=
  Writing.writeRounds (FormatPiece.ofText format) (arguments.length + 1) (.start arguments)

end ShaderSyntax.Host
