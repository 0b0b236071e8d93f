import ShaderSyntax.Preprocess.Directive
import ShaderSyntax.Preprocess.Error
import ShaderSyntax.Source.Loader
import ShaderSyntax.Text.Lines

/-!
# The preprocessor

Preprocessing goes through a text line by line. A definition changes the macro table, an inclusion
puts the preprocessed text of another file in its place, other directives vanish, and every other
line is written out with its macros expanded. All files of a run share one state, and what a run did
to the state stays when the run fails.

An inclusion below the nesting limit is preprocessed with one level less, so preprocessing ends
whatever the files include.
-/

set_option autoImplicit false

namespace ShaderSyntax

/-- The limits of preprocessing. -/
structure PreprocessOptions where
  /-- Passes over a line. -/
  maxPasses : Nat
  /-- Steps in a pass. -/
  maxSteps : Nat
  /-- Inclusions within one another. -/
  maxDepth : Nat
  deriving DecidableEq, Repr

/-- Fifty passes of 4096 steps, and sixty-four levels of inclusion. -/
def PreprocessOptions.standard : PreprocessOptions := ⟨50, 4096, 64⟩

/-- What preprocessing reads and changes: the macros, and the lines that ran into a limit. -/
structure MacroState where
  macros : MacroTable
  overflows : List ExpansionOverflow
  deriving DecidableEq, Repr

/-- The state before anything was preprocessed. -/
def MacroState.empty : MacroState := ⟨.empty, []⟩

/-- The state with a macro defined. -/
def MacroState.define (state : MacroState) (name body : List Char) : MacroState :=
  { state with macros := state.macros.define name body }

/-- The state with an overflow recorded behind the others. -/
def MacroState.record (state : MacroState) (overflow : ExpansionOverflow) : MacroState :=
  { state with overflows := state.overflows ++ [overflow] }

/-- A computation on the state of preprocessing that may fail. -/
abbrev Preprocessing := ExceptT PreprocessError (StateM MacroState)

/-- A preprocessor: where it reads files, and its limits. -/
structure Preprocessor where
  loader : SourceLoader
  options : PreprocessOptions

namespace Preprocessor

/-- The number that a limit stands for. -/
def limitOf (options : PreprocessOptions) : ExpansionLimit → Nat
  | .steps => options.maxSteps
  | .passes => options.maxPasses

/-- Expands the macros of a line, and records the limit that it ran into. -/
def expandLine (options : PreprocessOptions) (path : String) (number : Nat) (line : List Char) :
    Preprocessing (List Char) := do
  let expansion := (← get).macros.expandLine options.maxSteps options.maxPasses line
  match expansion.stopped with
  | none => return expansion.text
  | some limit =>
    modify (·.record ⟨path, number, limitOf options limit, limit⟩)
    return expansion.text

/-- What a line is replaced by: nothing, the text of an included file, or the line itself, expanded
and with its line feed. `splice` gives the text for an inclusion on a line. -/
def expandOne (options : PreprocessOptions) (path : String)
    (splice : Nat → String → Preprocessing (List Char)) (number : Nat) (line : List Char) :
    Preprocessing (List Char) :=
  match Directive.ofLine? line with
  | none => return (← expandLine options path number line) ++ ['\n']
  | some (.define name body) => do
    modify (·.define name body)
    return []
  | some (.inclusion target) => splice number (String.ofList target)
  | some .ignored => return []

/-- Goes through lines, the first of which has the given number. -/
def expandLines (options : PreprocessOptions) (path : String)
    (splice : Nat → String → Preprocessing (List Char)) :
    Nat → List (List Char) → Preprocessing (List Char)
  | _, [] => return []
  | number, line :: rest => do
    let first ← expandOne options path splice number line
    let more ← expandLines options path splice (number + 1) rest
    return first ++ more

/-- Preprocesses a text below which inclusions may lie `levels` deep. -/
def expandText (loader : SourceLoader) (options : PreprocessOptions) :
    Nat → String → List Char → Preprocessing (List Char)
  | 0, path, text =>
    expandLines options path
      (fun number target => throw (.tooDeep target path number options.maxDepth)) 1
      (Text.lines text)
  | levels + 1, path, text =>
    expandLines options path
      (fun number target =>
        match loader target with
        | .ok included => expandText loader options levels target included.toList
        | .error (.missing _) => throw (.includeNotFound target path number)
        | .error (.unreadable cause) => throw (.unreadable target cause)) 1
      (Text.lines text)

/-- Preprocesses a text; `path` names it in messages. -/
def expand (preprocessor : Preprocessor) (path text : String) : Preprocessing String := do
  let chars ← expandText preprocessor.loader preprocessor.options preprocessor.options.maxDepth path
    text.toList
  return String.ofList chars

/-- Preprocesses a text with a macro state; gives the text or the failure, and the state after. -/
def preprocess (preprocessor : Preprocessor) (state : MacroState) (path text : String) :
    Except PreprocessError String × MacroState :=
  (preprocessor.expand path text).run state

/-- Preprocesses a text that shares no macros with others. -/
def runAlone (preprocessor : Preprocessor) (path text : String) : Except PreprocessError String :=
  (preprocessor.preprocess .empty path text).1

/-- Reads a file as it is. -/
def load (preprocessor : Preprocessor) (path : String) : Except PreprocessError String :=
  (preprocessor.loader path).mapError fun fault => .unreadable path fault.text

end Preprocessor

end ShaderSyntax
