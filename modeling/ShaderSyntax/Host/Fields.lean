import ShaderSyntax.Host.ByteStream

/-!
# Cutting values into words

Values that are not quoted are cut where separators stand. Blank separators in a row are one gap,
and none stands at an end; every other separator ends a word, be it an empty one, together with the
blank ones around it.
-/

set_option autoImplicit false

namespace ShaderSyntax.Host

/-- The characters that separate words: blank ones, and marks that end a word each. -/
structure Separators where
  blanks : List Char
  marks : List Char
  deriving DecidableEq, Repr

namespace Separators

/-- The blanks that separate words where nothing else is asked for. -/
def usualBlanks : List Char := [' ', '\t', '\n']

/-- No separators, for what is not cut. -/
def empty : Separators := ⟨[], []⟩

/-- The separators that a setting asks for. -/
def ofSetting : Option String → Separators
  | none => ⟨usualBlanks, []⟩
  | some text =>
    ⟨text.toList.filter usualBlanks.contains, text.toList.filter (!usualBlanks.contains ·)⟩

/-- What stands between the words of a row that becomes one word. -/
def joint : Option String → String
  | none => " "
  | some text => (text.take 1).toString

end Separators

/-- A piece of an expanded word. Solid text makes a word even if it is empty. -/
inductive WordPiece where
  | part (text : String) (solid : Bool)
  /-- A blank separator. -/
  | gap
  /-- A separator that ends a word. -/
  | mark
  /-- The end of one value of several. -/
  | border
  deriving DecidableEq, Repr

/-- A word that is being joined: its text, and the pattern that it is if it is none. -/
structure JoinedWord where
  text : String
  pattern : String
  deriving DecidableEq, Repr

/-- The empty word. -/
def JoinedWord.empty : JoinedWord := ⟨"", ""⟩

/-- The pattern that stands for a text alone. -/
def literalPattern (text : String) : String :=
  String.ofList (text.toList.flatMap fun c => ['\\', c])

/-- A word with more text behind it. -/
def JoinedWord.append (word : JoinedWord) (text : String) (solid : Bool) : JoinedWord :=
  ⟨word.text ++ text, word.pattern ++ if solid then literalPattern text else text⟩

/-- Joins pieces to words. `word` is the word being joined; `closed` says that a blank has ended the
last one, so that a mark that comes next belongs to it. -/
def joinPieces : Option JoinedWord → Bool → List WordPiece → List JoinedWord
  | word, _, [] => word.toList
  | some word, _, .gap :: rest => word :: joinPieces none true rest
  | none, closed, .gap :: rest => joinPieces none closed rest
  | some word, _, .mark :: rest => word :: joinPieces none false rest
  | none, closed, .mark :: rest =>
    (if closed then [] else [.empty]) ++ joinPieces none false rest
  | word, _, .border :: rest => word.toList ++ joinPieces none false rest
  | word, closed, .part text solid :: rest =>
    if solid || !text.isEmpty then
      joinPieces (some ((word.getD .empty).append text solid)) false rest
    else joinPieces word closed rest

/-- Cuts text that is not quoted at its separators. -/
def splitPieces (separators : Separators) (text : List Char) : List WordPiece :=
  text.map fun c =>
    if separators.blanks.contains c then .gap
    else if separators.marks.contains c then .mark
    else .part (String.singleton c) false

/-- The pieces of a value. -/
def valuePieces (separators : Separators) (quoted : Bool) (value : String) : List WordPiece :=
  if quoted then [.part value true] else splitPieces separators value.toList

/-- Pieces with a border between each two groups. -/
def separate : List (List WordPiece) → List WordPiece
  | [] => []
  | [group] => group
  | group :: rest => group ++ .border :: separate rest

/-- A character of a line, and whether a backslash keeps it. -/
abbrev LineChar := Char × Bool

/-- Whether a character is a blank separator. -/
def Separators.isBlank (separators : Separators) (c : LineChar) : Bool :=
  !c.2 && separators.blanks.contains c.1

/-- Whether a character is a mark. -/
def Separators.isMark (separators : Separators) (c : LineChar) : Bool :=
  !c.2 && separators.marks.contains c.1

/-- Whether a character separates words. -/
def Separators.separates (separators : Separators) (c : LineChar) : Bool :=
  separators.isBlank c || separators.isMark c

/-- A line without the blanks at its end. -/
def Separators.trimEnd (separators : Separators) (line : List LineChar) : List LineChar :=
  (line.reverse.dropWhile separators.isBlank).reverse

/-- Cuts a line into a count of words; the last one takes all that is left, but for a mark that ends
it alone. -/
def Separators.cutLine (separators : Separators) : Nat → List LineChar → List String
  | 0, _ => []
  | 1, line =>
    let line := separators.trimEnd (line.dropWhile separators.isBlank)
    let word := separators.trimEnd line.dropLast
    let endsAlone := line.getLast?.any separators.isMark && !word.any separators.separates
    [String.ofList ((if endsAlone then word else line).map Prod.fst)]
  | count + 2, line =>
    let line := line.dropWhile separators.isBlank
    let word := line.takeWhile (!separators.separates ·)
    let rest := (line.drop word.length).dropWhile separators.isBlank
    let rest := if rest.head?.any separators.isMark then rest.drop 1 else rest
    String.ofList (word.map Prod.fst) :: cutLine separators (count + 1) rest

end ShaderSyntax.Host
