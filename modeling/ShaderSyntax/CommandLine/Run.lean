import ShaderSyntax.Command.Compiler
import ShaderSyntax.CommandLine.Arguments
import ShaderSyntax.Shader.Frontend

/-!
# Running a command line

What a command line writes, the code it ends with, and the files it leaves. A failure is reported
with its causes: one cause stands by itself, several are numbered, and the lines of a cause that has
several are indented alike. A grammar compiler is a program of the system on which the command line
runs; the system is a parameter.
-/

set_option autoImplicit false

namespace ShaderSyntax.CommandLine

/-- What a run came to. -/
structure Report where
  output : String
  errors : String
  code : Nat
  tree : FileTree

/-- A failure: its message and those of its causes, the outermost first. -/
structure Failure where
  message : String
  causes : List String
  deriving DecidableEq, Repr

namespace Failure

/-- The text of a cause, with `first` in front of its first line and `more` in front of others. -/
def indent (first more cause : String) : String :=
  let lines := (Text.lines cause.toList).map String.ofList
  String.intercalate "\n" ((lines.take 1).map (first ++ ·) ++ (lines.drop 1).map (more ++ ·))

/-- The number of a cause, at the right of five columns. -/
def numberText (number : Nat) : String :=
  let digits := toString number
  String.ofList (List.replicate (5 - digits.length) ' ') ++ digits ++ ": "

/-- The texts of the causes. -/
def causeTexts : List String → List String
  | [] => []
  | [cause] => [indent "    " "    " cause]
  | causes => causes.zipIdx.map fun cause => indent (numberText cause.2) "       " cause.1

/-- The report of a failure. -/
def text (failure : Failure) : String :=
  let causes :=
    if failure.causes.isEmpty then ""
    else "\n\nCaused by:" ++ String.join ((causeTexts failure.causes).map ("\n" ++ ·))
  "Error: " ++ failure.message ++ causes ++ "\n"

end Failure

/-- The report of a run that failed. -/
def failed (output errors : String) (tree : FileTree) (failure : Failure) : Report :=
  ⟨output, errors ++ failure.text, 1, tree⟩

/-- The code of a run that stopped where it stood. -/
def stoppedCode : Nat := 101

/-- The report of a run that stopped where it stood. What the system says of it is left out. -/
def stopped (output errors : String) (tree : FileTree) : Report :=
  ⟨output, errors, stoppedCode, tree⟩

/-- Preprocesses a file. -/
def runPreprocess (preprocessor : Preprocessor) (path : String) (tree : FileTree) : Report :=
  let fail (error : PreprocessError) := failed "" "" tree ⟨error.message, error.causes⟩
  match preprocessor.load path with
  | .error error => fail error
  | .ok text =>
    match preprocessor.preprocess .empty path text with
    | (.error error, _) => fail error
    | (.ok source, state) =>
      let warnings := state.overflows.map fun overflow =>
        "warning: " ++ overflow.message ++ "\n"
      ⟨source, String.join warnings, 0, tree⟩

/-- Writes the grammar of the shader language, or its digest. -/
def runGrammar (hashOnly : Bool) (tree : FileTree) : Report :=
  ⟨if hashOnly then Shader.grammar.hash ++ "\n" else Shader.grammar.render, "", 0, tree⟩

/-- The excerpts of errors, up to the first one that cannot be made, and whether there is one. -/
def excerptsOf (source : String) (context : Nat) : List SyntaxError → String × Option ExcerptFault
  | [] => ("", none)
  | error :: rest =>
    match error.render source context with
    | .error fault => ("", some fault)
    | .ok excerpt =>
      let (excerpts, fault) := excerptsOf source context rest
      (excerpt ++ excerpts, fault)

/-- Writes a parsed shader with the errors that were recovered from. -/
def reportShader (request : ParseRequest) (shader : Shader.ParsedShader) (tree : FileTree) :
    Report :=
  match excerptsOf shader.source request.contextLines shader.errors with
  | (excerpts, some _) => stopped shader.render excerpts tree
  | (excerpts, none) =>
    if shader.errors.isEmpty then ⟨shader.render, "", 0, tree⟩
    else
      failed shader.render excerpts tree
        ⟨s!"{request.path}: {shader.errors.length} syntax errors", []⟩

/-- The preprocessor that reads files below a folder. -/
def preprocessorOn (base : String) (tree : FileTree) : Preprocessor :=
  ⟨tree.loader base, .standard⟩

/-- Parses a file, with tables from a cache in a folder and a compiler; nothing if the parse does
not end within `limit` moves. Sources are read after the tables have been made. -/
def runParse (limit : Nat) (compiler : GrammarCompiler FileTree) (base : String)
    (request : ParseRequest) (tree : FileTree) : Option Report :=
  let (frontend, state) := Shader.Frontend.ofCache ⟨.folder request.cacheFolder, compiler⟩
    ⟨request.recover, request.contextLines⟩ (preprocessorOn base tree) (TableCache.fresh tree)
  match frontend with
  | .error error =>
    some (failed "" "" state.world
      ⟨"cannot set up the shader parser", error.message :: error.causes⟩)
  | .ok frontend =>
    let frontend := { frontend with preprocessor := preprocessorOn base state.world }
    (frontend.parseFile limit request.path).map fun parsed =>
      match parsed with
      | .error (.stopped _) => stopped "" "" state.world
      | .error error => failed "" "" state.world ⟨error.message, error.causes⟩
      | .ok shader => reportShader request shader state.world

/-- Carries out a request on the files of a tree, with the programs of a system. -/
def run (limit : Nat) (programs : Command.Programs FileTree) (arguments : Arguments)
    (tree : FileTree) : Option Report :=
  match arguments.request with
  | .preprocess path => some (runPreprocess (preprocessorOn arguments.base tree) path tree)
  | .grammar hashOnly => some (runGrammar hashOnly tree)
  | .parse request =>
    let compiler := Command.compilerOf programs request.compiler request.compilerArguments
    runParse limit compiler arguments.base request tree

end ShaderSyntax.CommandLine
