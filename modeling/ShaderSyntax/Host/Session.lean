import ShaderSyntax.Cache.Named
import ShaderSyntax.Host.Signal
import ShaderSyntax.Host.Fields
import ShaderSyntax.Host.Script.Basic
import ShaderSyntax.Host.ShellOptions
import ShaderSyntax.Files.Tree

/-!
# Shell sessions

What a running script knows: its parameters, the files, what is left of its input, what it has
written, and where output and complaints go. A session that has ended stays as it is, and one that
leaves a loop or a function passes over what is in between.
-/

set_option autoImplicit false

namespace ShaderSyntax.Host

open Command

/-- Where a descriptor writes to. -/
inductive Sink where
  | output
  | errors
  | file (place : Place)
  /-- Takes everything and keeps nothing. -/
  | nowhere
  /-- Takes nothing. -/
  | closed
  deriving DecidableEq, Repr

/-- What a script is about to leave: some loops, the last of them only for its next round, or a
function. -/
inductive Leaving where
  | loops (count : Nat) (again : Bool)
  | function
  deriving DecidableEq, Repr

/-- The path of a place. -/
def pathOfPlace (place : Place) : String := "/" ++ String.intercalate "/" place

/-- The state of a running script. -/
structure Session where
  name : String
  arguments : List String
  settings : Named String
  tree : FileTree
  input : ByteStream
  output : ByteStream
  errors : ByteStream
  outputSink : Sink
  errorSink : Sink
  /-- Where other descriptors write to. -/
  otherSinks : List (Nat × Sink)
  /-- What other descriptors read. -/
  otherInputs : List (Nat × ByteStream)
  /-- The other descriptor that the input was taken from, if it was. -/
  inputSource : Option Nat
  options : ShellOptions
  functions : Named Statement
  /-- The variables that programs are given. -/
  exported : List String
  /-- The variables that keep their values. -/
  fixed : List String
  /-- In a function, the values that variables had before it took them for itself. -/
  hidden : Option (List (String × Option String))
  /-- What is run at the end, under the name `0`, and for signals, under their numbers. -/
  traps : Named String
  /-- What is run for signals that have come. -/
  pending : List String
  /-- How the last part ended that ran in the background. -/
  job : Option Nat
  /-- The line of the command that is run. -/
  line : Nat
  /-- What messages name as the command that runs others, if there is one. -/
  caller : Option String
  /-- How many loops are running. -/
  loops : Nat
  /-- Whether what is around asks how a command went. -/
  tested : Bool
  leaving : Option Leaving
  /-- The word that a choice by patterns is about. -/
  subject : String
  /-- The code of the last command. -/
  code : Nat
  /-- The code of the last script whose output the command that is run takes in. -/
  captured : Nat
  /-- How the session ended, if it has. -/
  ended : Option ExitStatus

namespace Session

/-- The variables that every session has. -/
def ownSettings (tree : FileTree) : List (String × String) := [
  ("IFS", " \t\n"), ("OPTIND", "1"), ("PS1", "# "), ("PS2", "> "), ("PS4", "+ "),
  ("PWD", pathOfPlace tree.home)]

/-- A session before its first command; `environment` are the variables that it is given. -/
def start (name : String) (arguments : List String) (options : ShellOptions)
    (environment : Named String) (tree : FileTree) (input : ByteStream) : Session :=
  { name, arguments, options, tree, input
    settings := (ownSettings tree).foldl (fun settings own => settings.put own.1 own.2) environment
    output := .empty
    errors := .empty
    outputSink := .output
    errorSink := .errors
    otherSinks := []
    otherInputs := []
    inputSource := none
    functions := .empty
    exported := environment.entries.map Prod.fst
    fixed := []
    hidden := none
    job := none
    traps := .empty
    pending := []
    line := 1
    caller := none
    loops := 0
    tested := false
    leaving := none
    subject := ""
    code := 0
    captured := 0
    ended := none }

/-- The variables that programs are given, with their values. -/
def environment (session : Session) : Named String :=
  ⟨session.settings.entries.filter fun entry => session.exported.contains entry.1⟩

/-- The number that scripts know their own session by. -/
def ownNumber : String := "4711"

/-- The number of the part that ran last in the background. -/
def jobNumber : String := "4712"

/-- Writes to a sink. -/
def writeTo (session : Session) (sink : Sink) (stream : ByteStream) : Session :=
  match sink with
  | .output => { session with output := session.output.append stream }
  | .errors => { session with errors := session.errors.append stream }
  | .nowhere => session
  | .closed => session
  | .file place =>
    let old := match session.tree.lookup? place with
      | some (.file bytes) => bytes.toList
      | _ => []
    { session with tree := session.tree.put place (.file ⟨(old ++ stream.bytes).toArray⟩) }

/-- Writes output. -/
def print (session : Session) (stream : ByteStream) : Session :=
  session.writeTo session.outputSink stream

/-- Writes complaints. -/
def report (session : Session) (text : String) : Session :=
  session.writeTo session.errorSink (.ofText text)

/-- Complains about the command that is run. -/
def complain (session : Session) (text : String) : Session :=
  let caller := match session.caller with
    | some caller => caller ++ ": "
    | none => ""
  session.report (session.name ++ ": " ++ toString session.line ++ ": " ++ caller ++ text ++ "\n")

/-- The session with the code of a command. -/
def withCode (session : Session) (code : Nat) : Session :=
  { session with code }

/-- Ends the session. -/
def finish (session : Session) (status : ExitStatus) : Session :=
  { session with ended := some status, code := shellCode status }

/-- The code of a command that cannot be run as it is given. -/
def refusalCode : Nat := 2

/-- Complains about a command, and goes on. -/
def refuse (session : Session) (text : String) : Session :=
  (session.complain text).withCode refusalCode

/-- Complains about a command that nothing can come after. -/
def abort (session : Session) (text : String) : Session :=
  (session.complain text).finish (.code refusalCode)

/-- How the session stands: as it ended, or with the code of its last command. -/
def status (session : Session) : ExitStatus :=
  session.ended.getD (.code session.code)

/-- Takes over what a part of the script that ran apart did to files, input and output. Its end is
not the session's, unless a signal ended it. -/
def adopt (session part : Session) : Session :=
  { session with
    tree := { part.tree with home := session.tree.home }
    input := part.input
    output := part.output
    errors := part.errors
    code := shellCode part.status
    ended := match part.ended with
      | some (.signal number) => some (.signal number)
      | _ => none }

/-- Runs a part of the script apart, so that it changes no parameters and sinks. -/
def isolate (run : Session → Session) (session : Session) : Session :=
  session.adopt (run session)

/-- Runs two parts of the script at once, the output of the first as input of the second. -/
def pipe (first second : Session → Session) (session : Session) : Session :=
  let source := isolate first { session with output := .empty, outputSink := .output }
  let target := isolate second
    { session with tree := source.tree, input := source.output, errors := source.errors }
  { target with input := source.input, ended := source.ended.or target.ended }

/-- The values of a parameter; all have one, but the two for all arguments. -/
def parameter (session : Session) (name : String) : List String :=
  match name with
  | "@" => session.arguments
  | "*" => session.arguments
  | "#" => [toString session.arguments.length]
  | "?" => [toString session.code]
  | "$" => [ownNumber]
  | "-" => [session.options.letters]
  | "!" => [if session.job.isSome then jobNumber else ""]
  | "0" => [session.name]
  | _ =>
    match name.toNat? with
    | some place => [(session.arguments[place - 1]?).getD ""]
    | none => [(session.settings.get? name).getD ""]

/-- Whether a parameter has a value, be it an empty one. -/
def isSet (session : Session) (name : String) : Bool :=
  match name.toNat? with
  | some place => place ≤ session.arguments.length
  | none =>
    if name.toList.all Char.isAlphanum || name.contains '_' then
      (session.settings.get? name).isSome
    else name ≠ "@" && name ≠ "*" || !session.arguments.isEmpty

/-- Gives a variable a value, or tells why that cannot be. -/
def put (session : Session) (name value : String) : Except String Session :=
  if !isName name.toList then .error s!"{name}: bad variable name"
  else if session.fixed.contains name then .error s!"{name}: is read only"
  else .ok { session with
    settings := session.settings.put name value
    exported := if session.options.exportsAll then name :: session.exported
      else session.exported }

/-- Gives a variable a value; the session ends if that cannot be. -/
def putOrAbort (session : Session) (name value : String) : Session :=
  match session.put name value with
  | .ok session => session
  | .error fault => session.abort fault

/-- What separates the words of values that are not quoted. -/
def separators (session : Session) : Separators :=
  .ofSetting (session.settings.get? "IFS")

/-- Whether the session passes over what comes next. -/
def stops (session : Session) : Bool :=
  session.ended.isSome || session.leaving.isSome

/-- Goes on unless the session has ended or is leaving something. -/
def andThen (session : Session) (next : Session → Session) : Session :=
  if session.stops then session else next session

/-- Runs a part of the script that is asked how it went. -/
def testing (run : Session → Session) (session : Session) : Session :=
  { run { session with tested := true } with tested := session.tested }

/-- Ends the session if a command failed that nothing asks about, and the session is to end then. -/
def checked (session : Session) : Session :=
  if session.options.stopOnFailure && !session.tested && session.code ≠ 0 then
    session.andThen fun session => session.finish (.code session.code)
  else session

/-- A session behind a round of a loop, and whether another round may follow. -/
def behindRound (session : Session) : Session × Bool :=
  match session.leaving with
  | none => (session, session.ended.isNone)
  | some (.loops (count + 2) again) =>
    ({ session with leaving := some (.loops (count + 1) again) }, false)
  | some (.loops _ again) => ({ session with leaving := none }, again)
  | some .function => (session, false)

/-- The sink of a descriptor that is open for writing. -/
def sink? (session : Session) (descriptor : Nat) : Option Sink :=
  let sink := if descriptor = 1 then some session.outputSink
    else if descriptor = 2 then some session.errorSink
    else (session.otherSinks.find? (·.1 = descriptor)).map Prod.snd
  sink.filter (· ≠ .closed)

/-- Sets the sink of a descriptor. -/
def setSink (session : Session) (descriptor : Nat) (sink : Sink) : Session :=
  if descriptor = 1 then { session with outputSink := sink }
  else if descriptor = 2 then { session with errorSink := sink }
  else { session with otherSinks := (descriptor, sink) :: session.otherSinks }

/-- What a descriptor that is open for reading reads. -/
def input? (session : Session) (descriptor : Nat) : Option ByteStream :=
  if descriptor = 0 then some session.input
  else (session.otherInputs.find? (·.1 = descriptor)).map Prod.snd

/-- Sets what a descriptor reads. -/
def setInput (session : Session) (descriptor : Nat) (input : ByteStream) : Session :=
  if descriptor = 0 then { session with input, inputSource := none }
  else { session with
    otherInputs := (descriptor, input) :: session.otherInputs.filter (·.1 ≠ descriptor) }

/-- Closes a descriptor. -/
def close (session : Session) (descriptor : Nat) : Session :=
  if descriptor = 0 then session.setInput 0 .empty
  else { session.setSink descriptor .closed with
    otherInputs := session.otherInputs.filter (·.1 ≠ descriptor) }

end Session

end ShaderSyntax.Host
