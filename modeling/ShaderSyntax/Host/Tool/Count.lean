import ShaderSyntax.Host.Tool.Basic
import ShaderSyntax.Text.Blank
import ShaderSyntax.Text.Extending

/-!
# Counting inputs

How many lines, words, characters and bytes each input has, and how wide its widest line is. A word
is a stretch without blanks in which something can be seen. Numbers stand in columns that are as
wide as the sizes of the files ask for; several inputs have their sum below.
-/

set_option autoImplicit false

namespace ShaderSyntax.Host

open Command

/-- What is counted of an input. -/
structure InputCounts where
  lines : Nat
  words : Nat
  chars : Nat
  bytes : Nat
  width : Nat
  deriving DecidableEq, Repr

namespace InputCounts

/-- The counts of nothing. -/
def zero : InputCounts := ⟨0, 0, 0, 0, 0⟩

/-- The counts of two inputs in a row; the wider line counts. -/
def add (a b : InputCounts) : InputCounts :=
  ⟨a.lines + b.lines, a.words + b.words, a.chars + b.chars, a.bytes + b.bytes, max a.width b.width⟩

end InputCounts

/-- The ranges of characters that fill two columns. -/
def wideRanges : List (Nat × Nat) := [
  (0x1100, 0x115F), (0x2E80, 0x303E), (0x3041, 0xA4CF), (0xA960, 0xA97C), (0xAC00, 0xD7A3),
  (0xF900, 0xFAFF), (0xFE30, 0xFE6F), (0xFF01, 0xFF60), (0xFFE0, 0xFFE6), (0x1F300, 0x1F64F),
  (0x1F680, 0x1F6FC), (0x1F900, 0x1F9FF), (0x20000, 0x3FFFD)]

/-- How many columns a character fills. -/
def columnsOf (c : Char) : Nat :=
  if Text.isUnprintable c && !Text.isBlank c || Text.isExtending c then 0
  else if wideRanges.any fun range => range.1 ≤ c.toNat && c.toNat ≤ range.2 then 2
  else 1

/-- The width of the widest line, given that of the line so far and of the widest before. -/
def widestLine (column widest : Nat) : List Char → Nat
  | [] => max column widest
  | c :: rest =>
    if c = '\n' || c = '\r' || c = '\x0c' then widestLine 0 (max column widest) rest
    else if c = '\t' then widestLine (column / 8 * 8 + 8) widest rest
    else if c.toNat < 32 || c.toNat = 127 then widestLine column widest rest
    else widestLine (column + columnsOf c) widest rest

/-- The counts of bytes. -/
def countBytes (bytes : Bytes) : InputCounts :=
  let chars := (Utf8.decodeParts bytes).filterMap id
  let seen (word : List Char) := word.any fun c => !Text.isUnprintable c
  { lines := bytes.count lineFeed
    words := ((Text.words chars).filter seen).length
    chars := chars.length
    bytes := bytes.length
    width := widestLine 0 0 chars }

/-- Which counts are written. -/
structure CountColumns where
  letters : List Char

namespace CountColumns

/-- The options of counting. -/
def rules : List OptionRule := [
  ⟨'c', "bytes", false⟩, ⟨'m', "chars", false⟩, ⟨'l', "lines", false⟩, ⟨'w', "words", false⟩,
  ⟨'L', "max-line-length", false⟩]

/-- The columns that options ask for; lines, words and bytes if there are none. -/
def ofOptions (words : OptionWords) : CountColumns :=
  ⟨if words.options.isEmpty then ['l', 'w', 'c'] else words.options.map GivenOption.letter⟩

/-- The counts that are written, in order. -/
def select (columns : CountColumns) (counts : InputCounts) : List Nat :=
  ([('l', counts.lines), ('w', counts.words), ('m', counts.chars), ('c', counts.bytes),
    ('L', counts.width)].filter fun entry => columns.letters.contains entry.1).map Prod.snd

end CountColumns

/-- The width of the columns for some inputs. A single count has no column; the sizes of files
decide unless there is an input that is no file. -/
def columnWidth (tree : FileTree) (columns : CountColumns) (paths : List String) : Nat :=
  if paths.length ≤ 1 && (columns.select .zero).length ≤ 1 then 1
  else
    let size? (path : String) : Option Nat :=
      if isOwnInput path then none
      else match tree.find path with
        | .ok (.file bytes) => some bytes.size
        | .ok _ => none
        | .error _ => some 0
    let total := paths.foldl (fun total path => total + (size? path).getD 0) 0
    max (toString total).length (if paths.any fun path => (size? path).isNone then 7 else 1)

/-- The line with the counts of an input, or of all. -/
def countLine (columns : CountColumns) (width : Nat) (name : String) (counts : InputCounts) :
    ToolWrite :=
  let column (n : Nat) :=
    let digits := toString n
    String.ofList (List.replicate (width - digits.length) ' ') ++ digits
  let line := String.intercalate " " ((columns.select counts).map column)
  .output (.ofText (line ++ (if name.isEmpty then "" else " " ++ name) ++ "\n"))

/-- Writes how many lines, words, characters or bytes its inputs have. -/
def countInputs : Tool := fun arguments tree input =>
  match readOptionWords CountColumns.rules true arguments with
  | .error fault => .misused "wc" fault.message input
  | .ok words =>
    let columns := CountColumns.ofOptions words
    let paths := inputsOr words.operands
    let width := columnWidth tree columns paths
    let visit (state : InputCounts × List ToolWrite) (path : String)
        (content : Except FileFault ByteStream) : (InputCounts × List ToolWrite) × ByteStream :=
      let name := if words.operands.isEmpty then "" else path
      match content with
      | .ok stream =>
        let counts := countBytes stream.bytes
        ((state.1.add counts, state.2 ++ [countLine columns width name counts]), .empty)
      | .error fault =>
        let lines := if fault = .isAFolder then [countLine columns width name .zero] else []
        ((state.1, state.2 ++ plainComplaint "wc" path fault :: lines), .empty)
    let (state, rest) := visitFiles tree visit paths (.zero, []) input
    let total := if 1 < paths.length then [countLine columns width "total" state.1] else []
    .ofWrites (state.2 ++ total) rest

end ShaderSyntax.Host
