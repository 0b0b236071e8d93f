import ShaderSyntax.Numeral.Whole
import ShaderSyntax.Text.Lines
import ShaderSyntax.Text.Quoted

/-!
# Errors of a parse, and their excerpts

A rejected token with its place and the labels of what the parser could have taken instead, and
how it is shown: a message, the labels, and the lines around the place with a caret under the
character. Lines and columns are words of 64 bits, and their sums are checked: where one is no word,
or the caret's row would be longer than a text can be, there is nothing to show and the program
stops. The main statement gives the excerpt's line numbers (`map_fst_numbered`).
-/

set_option autoImplicit false

namespace ShaderSyntax

/-- A token that a parser rejected. -/
structure SyntaxError where
  line : Nat
  column : Nat
  /-- The bytes before the token. -/
  offset : Nat
  kind : String
  /-- The token's text, empty at the end of input. -/
  text : String
  /-- The labels of the symbols that the parser could have taken, in the order of its table. -/
  expected : List String
  deriving DecidableEq, Repr

/-- Why an excerpt cannot be made. There is nothing to show then, and the program stops. -/
inductive ExcerptFault where
  /-- A sum of words is no word of 64 bits. -/
  | overflow
  /-- A row would be longer than a text can be. -/
  | rowTooLong
  deriving DecidableEq, Repr

/-- What the program says of a fault when it stops. -/
def ExcerptFault.message : ExcerptFault → String
  | .overflow => "attempt to add with overflow"
  | .rowTooLong => "capacity overflow"

namespace SyntaxError

/-- What was found: the kind and, if there is one, the quoted text. -/
def found (error : SyntaxError) : String :=
  if error.text.isEmpty then error.kind else error.kind ++ " " ++ Text.quoted error.text

/-- The message in one line. -/
def message (error : SyntaxError) : String :=
  s!"parse error on line {error.line}, column {error.column}: unexpected {error.found}"

/-- A number in decimal. -/
def digits (n : Nat) : List Char :=
  Nat.toDigits 10 n

/-- A number behind blanks that fill it up to a width. -/
def alignRight (width n : Nat) : List Char :=
  List.replicate (width - (digits n).length) ' ' ++ digits n

/-- The lines from number `first` to number `last`, each with its number, counting from one. -/
def numbered (lines : List (List Char)) (first last : Nat) : List (Nat × List Char) :=
  (lines.zipIdx 1).filterMap fun line =>
    if first ≤ line.2 && line.2 ≤ last then some (line.2, line.1) else none

/-- A line behind its number, which is filled up to a width. -/
def numberedRow (width : Nat) (shown : Nat × List Char) : List Char :=
  alignRight width shown.1 ++ ':' :: ' ' :: shown.2

/-- The sum of two words, if it is a word. -/
def wordSum (a b : Nat) : Except ExcerptFault Nat :=
  if a + b ≤ Numeral.unsignedLimit then .ok (a + b) else .error .overflow

/-- The row of a caret behind blanks. -/
def caretRow (blanks : Nat) : Except ExcerptFault (List Char) :=
  if blanks ≤ Numeral.signedLimit then .ok (List.replicate blanks ' ' ++ ['^'])
  else .error .rowTooLong

/-- The width to which the numbers of lines up to `last` are filled. -/
def numberWidth (last : Nat) : Nat :=
  max (digits last).length 3

/-- The rows of a line: its own and, below that of line `line`, a caret under column `column`. -/
def rowsOf (width line column : Nat) (shown : Nat × List Char) :
    Except ExcerptFault (List (List Char)) := do
  if shown.1 = line then
    let blanks ← wordSum (width + 2) (column - 1)
    let caret ← caretRow blanks
    return [numberedRow width shown, caret]
  else return [numberedRow width shown]

/-- The lines of an excerpt: `context` lines on both sides of line `line`, each behind its number,
and below that line a caret under column `column`. -/
def excerpt (lines : List (List Char)) (line column context : Nat) :
    Except ExcerptFault (List (List Char)) := do
  let first := max (line - context) 1
  let asked ← wordSum line context
  let last := min asked lines.length
  let rows ← (numbered lines first last).mapM (rowsOf (numberWidth last) line column)
  return rows.flatten

/-- The line that lists the expected labels, if there are any. -/
def expectation (error : SyntaxError) : List (List Char) :=
  if error.expected.isEmpty then []
  else [("expected one of: " ++ String.intercalate ", " error.expected).toList]

/-- The message, the expected labels and the excerpt, each on lines of its own. -/
def render (error : SyntaxError) (source : String) (context : Nat) :
    Except ExcerptFault String := do
  let rows ← excerpt (Text.lines source.toList) error.line error.column context
  return String.ofList (Text.endLines (error.message.toList :: (error.expectation ++ rows)))

/-- A sum that is a word is given. -/
theorem wordSum_of_le {a b : Nat} (word : a + b ≤ Numeral.unsignedLimit) :
    wordSum a b = .ok (a + b) :=
  if_pos word

/-- A sum that is no word is a fault. -/
theorem wordSum_of_lt {a b : Nat} (beyond : Numeral.unsignedLimit < a + b) :
    wordSum a b = .error .overflow :=
  if_neg (Nat.not_le.mpr beyond)

/-- Counted from any number on, the lines of a range have the numbers of the range. -/
theorem map_fst_numbered_aux (lines : List (List Char)) (start first last : Nat) :
    ((lines.zipIdx start).filterMap fun line =>
      if first ≤ line.2 && line.2 ≤ last then some line.2 else none) =
      (List.range' start lines.length).filter fun n => first ≤ n && n ≤ last := by
  induction lines generalizing start with
  | nil => rfl
  | cons line rest ih =>
    rw [List.zipIdx_cons, List.filterMap_cons, List.length_cons, List.range'_succ,
      List.filter_cons, ih]
    split <;> rename_i h <;> split at h <;> simp_all

/-- The numbers of an excerpt's lines are those of the wanted range that the text has, in order. -/
theorem map_fst_numbered (lines : List (List Char)) (first last : Nat) :
    (numbered lines first last).map Prod.fst =
      (List.range' 1 lines.length).filter fun n => first ≤ n && n ≤ last := by
  rw [← map_fst_numbered_aux, numbered, List.map_filterMap]
  congr 1
  funext line
  split <;> simp_all

end SyntaxError

end ShaderSyntax
