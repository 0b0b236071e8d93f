import ShaderSyntax.Host.Builtin
import ShaderSyntax.Host.Expansion
import ShaderSyntax.Host.Script.Reader

/-!
# Programs

What a name or a path runs: a tool, or another shell with a session of its own. Nothing else is a
program.
-/

set_option autoImplicit false

namespace ShaderSyntax.Host

open Command

/-- How a program that had a session ended. Of a code, the last eight bits are left. -/
def Session.exitStatus (session : Session) : ExitStatus :=
  match session.status with
  | .code value => .code (value % 256)
  | .signal number => .signal number

/-- What the arguments of a shell ask for: the script, or the file that holds it, and the name and
the arguments that it is run with. -/
inductive ShellTask where
  | script (text name : String) (arguments : List String)
  | file (path : String) (arguments : List String)
  | input (arguments : List String)
  | wrong (text : String)
  deriving DecidableEq, Repr

/-- Reads the arguments of a shell. -/
def ShellTask.ofArguments (shell : String) (arguments : List String) : ShellOptions × ShellTask :=
  match SwitchWords.ofWords true .plain arguments with
  | .error fault => (.plain, .wrong fault)
  | .ok read =>
    match read.words with
    | [] =>
      if read.hasScript then (read.options, .wrong "-c requires an argument")
      else (read.options.switch true "stdin", .input [])
    | first :: more =>
      if read.hasScript then
        (read.options, .script first (more.head?.getD shell) (more.drop 1))
      else if read.options.has "stdin" then (read.options, .input (first :: more))
      else (read.options, .file first more)

/-- A session that starts within another one: it writes where that one writes, but has only the
variables that programs are given. -/
def Session.within (outer : Session) (name : String) (arguments : List String)
    (options : ShellOptions) (input : ByteStream) : Session :=
  { Session.start name arguments options outer.environment outer.tree input with
    output := outer.output
    errors := outer.errors
    outputSink := outer.outputSink
    errorSink := outer.errorSink
    otherSinks := outer.otherSinks
    otherInputs := outer.otherInputs }

/-- Runs a shell with its own session. -/
def runShell (run : Runner) (shell : String) (arguments : List String) (outer : Session) :
    Session :=
  let (options, task) := ShellTask.ofArguments shell arguments
  let started (name : String) (arguments : List String) (input : ByteStream) :=
    outer.within name arguments options input
  let refused (text : String) := { started shell [] outer.input with line := 0 }.abort text
  let inner := match task with
    | .script text name arguments => run.script text (started name arguments outer.input)
    | .input arguments => run.script (textOf outer.input.bytes) (started shell arguments .empty)
    | .wrong text => refused text
    | .file path arguments =>
      match outer.tree.readBytes path with
      | .ok bytes => run.script (textOf bytes.toList) (started path arguments outer.input)
      | .error _ => refused s!"cannot open {path}: No such file"
  inner.depart run

/-- A session behind a program that had a session of its own. -/
def Session.behindProgram (outer inner : Session) : Session :=
  { outer with
    tree := { inner.tree with home := outer.tree.home }
    input := inner.input
    output := inner.output
    errors := inner.errors }

/-- The name of a program by the path of its file, if it is in a folder of programs. -/
def programName? (path : String) : Option String :=
  match (Path.names path).reverse with
  | [name] => some name
  | [name, "bin", ""] => some name
  | [name, "bin", "usr", ""] => some name
  | _ => none

/-- The names that the shell goes by. -/
def shellNames : List String := ["sh", "dash"]

/-- The tool with a name. -/
def tool? (name : String) : Option Tool := (tools.find? (·.1 = name)).map Prod.snd

/-- Whether a name is that of a program. -/
def isProgram (name : String) : Bool := (tool? name).isSome || shellNames.contains name

/-- The code of a command that is nowhere. -/
def missingCode : Nat := 127

/-- The code of a command that cannot be run. -/
def deniedCode : Nat := 126

/-- Runs a tool as a program of its own. It fails if it writes and cannot. -/
def runTool (name program : String) (tool : Tool) (arguments : List String) (session : Session) :
    Session :=
  let after := session.runTool tool arguments
  if session.outputSink = .closed && (name = "cat" ||
      !(({ session with outputSink := .output, output := .empty }.runTool tool
        arguments).output.take 1).isEmpty) then
    let text := if name = "cat" then "standard output" else "write error"
    (after.report s!"{program}: {text}: Bad file descriptor\n").withCode 1
  else after

/-- Runs a program in a session. -/
def runProgram (run : Runner) (program : String) (arguments : List String) (session : Session) :
    Session :=
  match programName? program with
  | some name =>
    if let some tool := tool? name then runTool name program tool arguments session
    else if shellNames.contains name then
      let inner := runShell run program arguments session
      let status := inner.exitStatus
      ((session.behindProgram inner).report (endNotice status)).withCode (shellCode status)
    else if program.isEmpty then (session.complain ": Permission denied").withCode missingCode
    else (session.complain s!"{program}: not found").withCode missingCode
  | none =>
    match session.tree.find program with
    | .ok _ => (session.complain s!"{program}: Permission denied").withCode deniedCode
    | .error _ => (session.complain s!"{program}: not found").withCode missingCode

/-- The words that open or close a part of a statement, which no command can have as its name. -/
def isKeyword (name : String) : Bool := reservedWords.contains name

/-- The path of a program, or the name of something that a session runs itself. -/
def locate? (session : Session) (name : String) : Option String :=
  if isKeyword name || (builtin? name).isSome || (session.functions.get? name).isSome then some name
  else if name.toList.contains '/' then
    if (programName? name).any isProgram || (session.tree.find name).toOption.isSome then some name
    else none
  else if isProgram name then some ("/usr/bin/" ++ name)
  else none

/-- What a name runs, in words. -/
def describe (session : Session) (name : String) : String :=
  if isKeyword name then s!"{name} is a shell keyword"
  else if (session.functions.get? name).isSome then s!"{name} is a shell function"
  else if specialCommands.contains name then s!"{name} is a special shell builtin"
  else match locate? session name with
    | some place => if place = name then s!"{name} is a shell builtin" else s!"{name} is {place}"
    | none => s!"{name}: not found"

end ShaderSyntax.Host
