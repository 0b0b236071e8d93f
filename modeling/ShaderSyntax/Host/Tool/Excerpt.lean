import ShaderSyntax.Host.Format
import ShaderSyntax.Host.Tool.Basic

/-!
# Parts of inputs

The first or the last lines or bytes of each input, or all but some. Several inputs have their names
above their parts. Counts may have a letter behind them that multiplies them.
-/

set_option autoImplicit false

namespace ShaderSyntax.Host

open Command

/-- The number of bytes of the first lines. -/
def linesLength (lineEnd : UInt8) : Nat → Bytes → Nat
  | 0, _ => 0
  | _ + 1, [] => 0
  | lines + 1, byte :: rest =>
    1 + if byte = lineEnd then linesLength lineEnd lines rest
      else linesLength lineEnd (lines + 1) rest

/-- The last lines of bytes; the last line may lack its end. -/
def lastLines (lineEnd : UInt8) (count : Nat) (bytes : Bytes) : Bytes :=
  let reversed := bytes.reverse
  let ending := reversed.takeWhile (· = lineEnd) |>.take 1
  let body := reversed.drop ending.length
  if count = 0 then []
  else
    let length := linesLength lineEnd count (body ++ [lineEnd])
    (ending ++ body.take (length - 1)).reverse

/-- Why a word is no count. -/
inductive CountFault where
  | malformed
  | tooLarge
  deriving DecidableEq, Repr

/-- What the letters behind a count multiply it by. -/
def countFactor? : List Char → Option Nat
  | [] => some 1
  | ['b'] => some 512
  | letter :: rest =>
    let power? := (["kK", "mM", "G", "T", "P", "E", "Z", "Y", "R", "Q"].findIdx? fun letters =>
      letters.toList.contains letter).map (· + 1)
    match power?, rest with
    | some power, [] => some (Nat.pow 1024 power)
    | some power, ['B'] => some (Nat.pow 1000 power)
    | some power, ['i', 'B'] => some (Nat.pow 1024 power)
    | _, _ => none

/-- The count that a word spells. A letter alone stands for a count of one. -/
def readCount (word : String) : Except CountFault Nat :=
  let text := word.toList.dropWhile isLeadingBlank
  let text := if text.head? = some '+' then text.drop 1 else text
  let digits := text.takeWhile Char.isDigit
  match countFactor? (text.drop digits.length) with
  | none => .error .malformed
  | some factor =>
    if digits.isEmpty && (digits.length = text.length || text.length < word.length) then
      .error .malformed
    else
      let count := (if digits.isEmpty then 1 else Numeral.digitsValue digits) * factor
      if Nat.pow 2 64 ≤ count then .error .tooLarge else .ok count

/-- The sign in front of a count. -/
inductive CountSign where
  | none
  | plus
  | minus
  deriving DecidableEq, Repr

/-- Which part of its inputs a tool writes. -/
structure Excerpt where
  byBytes : Bool
  sign : CountSign
  count : Nat
  lineEnd : UInt8
  /-- Whether names stand above parts, if that is asked for. -/
  names : Option Bool
  deriving DecidableEq, Repr

namespace Excerpt

/-- Ten lines. -/
def plain : Excerpt := ⟨false, .none, 10, lineFeed, none⟩

/-- The options of excerpts. -/
def rules : List OptionRule := [
  ⟨'c', "bytes", true⟩, ⟨'n', "lines", true⟩, ⟨'q', "quiet", false⟩, ⟨'q', "silent", false⟩,
  ⟨'v', "verbose", false⟩, ⟨'z', "zero-terminated", false⟩]

/-- An excerpt with the count of an option's value. -/
def withCount (excerpt : Excerpt) (byBytes : Bool) (value : String) :
    Except String Excerpt :=
  let (sign, word) := match value.toList with
    | '+' :: digits => (CountSign.plus, String.ofList digits)
    | '-' :: digits => (CountSign.minus, String.ofList digits)
    | _ => (CountSign.none, value)
  match readCount word with
  | .ok count => .ok { excerpt with byBytes, sign, count }
  | .error fault =>
    let shown := curvedQuotes (if sign = .plus then value else word)
    let text := "invalid number of " ++ (if byBytes then "bytes" else "lines") ++ ": " ++ shown
    .error (text ++ if fault = .tooLarge then ": Value too large for defined data type" else "")

/-- An excerpt with an option in force. -/
def withOption (excerpt : Excerpt) (option : GivenOption) : Except String Excerpt :=
  match option.letter with
  | 'c' => excerpt.withCount true option.value
  | 'n' => excerpt.withCount false option.value
  | 'q' => .ok { excerpt with names := some false }
  | 'v' => .ok { excerpt with names := some true }
  | _ => .ok { excerpt with lineEnd := 0 }

/-- An excerpt with options in force, the last ones last. -/
def withOptions (excerpt : Excerpt) : List GivenOption → Except String Excerpt
  | [] => .ok excerpt
  | option :: rest =>
    match excerpt.withOption option with
    | .error text => .error text
    | .ok excerpt => excerpt.withOptions rest

end Excerpt

/-- What stands above a part: the name of the input, behind an empty line unless it is the first. -/
def partName (isFirst : Bool) (path : String) : ByteStream :=
  let name := if path = "-" then "standard input" else path
  .ofText ((if isFirst then "" else "\n") ++ "==> " ++ name ++ " <==\n")

/-- Writes the part of each input that `cut` takes; it gives also what is left of the input. -/
def writeParts (tool : String) (names : Option Bool) (cut : ByteStream → ByteStream × ByteStream)
    (paths : List String) (tree : FileTree) (input : ByteStream) : ToolResult :=
  let paths := inputsOr paths
  let named := names.getD (1 < paths.length)
  let visit (state : Bool × List ToolWrite) (path : String)
      (content : Except FileFault ByteStream) : (Bool × List ToolWrite) × ByteStream :=
    let name := if named then [ToolWrite.output (partName state.1 path)] else []
    match content with
    | .ok stream =>
      let (part, rest) := cut stream
      ((false, state.2 ++ name ++ [.output part]), rest)
    | .error fault =>
      let text := shortMessage fault
      if fault = .isAFolder then
        ((false, state.2 ++ name ++
          [.complaint (tool ++ ": error reading " ++ quotedName path ++ ": " ++ text ++ "\n")]),
          .empty)
      else
        ((state.1, state.2 ++ [.complaint
          (tool ++ ": cannot open " ++ quotedName path ++ " for reading: " ++ text ++ "\n")]),
          .empty)
  let (state, rest) := visitFiles tree visit paths (true, []) input
  .ofWrites state.2 rest

/-- The bytes that a reader of lines takes at a time. -/
def blockSize : Nat := 8192

/-- The first part of a stream, and what is left of it. Whoever looks for lines takes whole
blocks. -/
def Excerpt.cutFirst (excerpt : Excerpt) (stream : ByteStream) : ByteStream × ByteStream :=
  let all := stream.bytes.length
  let length :=
    if excerpt.sign = .minus then
      all - if excerpt.byBytes then excerpt.count
        else (lastLines excerpt.lineEnd excerpt.count stream.bytes).length
    else if excerpt.byBytes then excerpt.count
    else linesLength excerpt.lineEnd excerpt.count
      (stream.take (max all (excerpt.count * blockSize)))
  let used :=
    if excerpt.sign = .minus then all
    else if excerpt.byBytes then length
    else if excerpt.count = 0 then 0
    else (length + blockSize - 1) / blockSize * blockSize
  (.ofBytes (stream.take length), stream.drop used)

/-- The last part of a stream, or all from a line or byte on. -/
def Excerpt.cutLast (excerpt : Excerpt) (stream : ByteStream) : ByteStream × ByteStream :=
  let bytes := stream.bytes
  let part :=
    match excerpt.byBytes, excerpt.sign with
    | true, .plus => bytes.drop (excerpt.count - 1)
    | true, _ => bytes.drop (bytes.length - excerpt.count)
    | false, .plus => bytes.drop (linesLength excerpt.lineEnd (excerpt.count - 1) bytes)
    | false, _ => lastLines excerpt.lineEnd excerpt.count bytes
  (.ofBytes part, .empty)

/-- Writes the parts of inputs that words ask for, with an excerpt for words without options. -/
def writeExcerpt (tool : String) (excerpt : Excerpt)
    (cut : Excerpt → ByteStream → ByteStream × ByteStream) : Tool := fun arguments tree input =>
  match readOptionWords Excerpt.rules true arguments with
  | .error (.unknownLetter letter) =>
    if letter.isDigit && tool = "head" then
      .misused tool s!"invalid trailing option -- {letter}" input
    else if letter.isDigit then
      .refused tool s!"option used in invalid context -- {letter}" input
    else .misused tool (OptionFault.unknownLetter letter).message input
  | .error fault => .misused tool fault.message input
  | .ok words =>
    match excerpt.withOptions words.options with
    | .error text => .refused tool text input
    | .ok excerpt => writeParts tool excerpt.names (cut excerpt) words.operands tree input

/-- The excerpt that letters behind a count without an option ask for. -/
def Excerpt.withLetters (excerpt : Excerpt) : List Char → Except Char Excerpt
  | [] => .ok excerpt
  | letter :: rest =>
    match letter with
    | 'c' => withLetters { excerpt with byBytes := true } rest
    | 'l' => withLetters { excerpt with byBytes := false } rest
    | 'b' => withLetters { excerpt with byBytes := true, count := excerpt.count * 512 } rest
    | 'k' => withLetters { excerpt with byBytes := true, count := excerpt.count * 1024 } rest
    | 'm' => withLetters { excerpt with byBytes := true, count := excerpt.count * 1048576 } rest
    | 'q' => withLetters { excerpt with names := some false } rest
    | 'v' => withLetters { excerpt with names := some true } rest
    | 'z' => withLetters { excerpt with lineEnd := 0 } rest
    | letter => .error letter

/-- Writes the first lines, or bytes, of its inputs. The first word may be a hyphen with a count. -/
def writeFirst : Tool := fun arguments tree input =>
  match arguments with
  | [] => writeExcerpt "head" .plain Excerpt.cutFirst [] tree input
  | word :: rest =>
    let digits := (word.toList.drop 1).takeWhile Char.isDigit
    if word.startsWith "-" && !digits.isEmpty then
      let excerpt := { Excerpt.plain with count := Numeral.digitsValue digits }
      match excerpt.withLetters (word.toList.drop (1 + digits.length)) with
      | .error letter => .misused "head" s!"invalid trailing option -- {letter}" input
      | .ok excerpt => writeExcerpt "head" excerpt Excerpt.cutFirst rest tree input
    else writeExcerpt "head" .plain Excerpt.cutFirst arguments tree input

/-- The excerpt that a sign with a count, without an option, asks for. -/
def signedCount? (word : String) : Option Excerpt :=
  let text := word.toList
  let digits := (text.drop 1).takeWhile Char.isDigit
  let letters := text.drop (1 + digits.length)
  let unit? := match letters with
    | [] => some (false, 1)
    | ['l'] => some (false, 1)
    | ['c'] => some (true, 1)
    | ['b'] => some (true, 512)
    | _ => none
  let isSign := text.head? = some '+' || text.head? = some '-' && !digits.isEmpty
  match unit? with
  | some (byBytes, factor) =>
    if isSign then
      let count := if digits.isEmpty then 10 else Numeral.digitsValue digits
      some { Excerpt.plain with
        byBytes
        sign := if text.head? = some '+' then .plus else .none
        count := count * factor }
    else none
  | none => none

/-- Writes the last lines, or bytes, of its inputs, or all from a line or byte on. A word alone, or
with one more that is no option, may be a sign with a count. -/
def writeLast : Tool := fun arguments tree input =>
  let standard := writeExcerpt "tail" .plain Excerpt.cutLast
  let counted (word : String) (rest : List String) :=
    match signedCount? word with
    | some excerpt => writeExcerpt "tail" excerpt Excerpt.cutLast rest tree input
    | none => standard arguments tree input
  match arguments with
  | [word] => counted word []
  | [word, path] =>
    if path.startsWith "-" && path ≠ "-" && path ≠ "--" then standard arguments tree input
    else counted word [path]
  | _ => standard arguments tree input

end ShaderSyntax.Host
