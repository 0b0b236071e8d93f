import ShaderSyntax.Host.Builtin.Folders
import ShaderSyntax.Host.Builtin.Signals
import ShaderSyntax.Host.Builtin.Variables
import ShaderSyntax.Host.Condition

/-!
# Built-in commands

The commands that a shell runs itself, because they read or change its session, by name.
-/

set_option autoImplicit false

namespace ShaderSyntax.Host

/-- Writes its arguments in a line, with escapes. -/
def echoEscaped : Builtin := fun arguments session =>
  let (words, ending) := match arguments with
    | "-n" :: words => (words, [])
    | words => (words, [lineFeed])
  let (bytes, stop) := unescape (String.intercalate " " words).toList
  (session.print (.ofBytes (if stop then bytes else bytes ++ ending))).withCode 0

/-- Writes its arguments under a format. -/
def printFormatted : Builtin := fun arguments session =>
  session.runTool (format s!"{session.name}: {session.line}: printf") arguments

/-- Ends the session with the code given, or that of the last command. -/
def exitSession : Builtin := fun arguments session =>
  match arguments with
  | [] => session.finish (.code session.code)
  | word :: _ =>
    match smallNumber? word with
    | some code => session.finish (.code (code % 256))
    | none => session.abort (noNumber word)

/-- Leaves loops: as many as the argument says, but no more than are running. -/
def leaveLoops (again : Bool) : Builtin := fun arguments session =>
  let word := arguments.head?.getD "1"
  match smallNumber? word with
  | some (count + 1) =>
    if session.loops = 0 then session.withCode 0
    else { session with leaving := some (.loops (min (count + 1) session.loops) again), code := 0 }
  | _ => session.abort (noNumber word)

/-- Leaves the function, or the script, with the code given, or that of the last command. -/
def leaveFunction : Builtin := fun arguments session =>
  match arguments with
  | [] => { session with leaving := some .function }
  | word :: _ =>
    match smallNumber? word with
    | some code => { session with leaving := some .function, code }
    | none => session.abort (noNumber word)

/-- Tests a condition. -/
def testCondition : Builtin := fun arguments session =>
  match Condition.holds session.tree arguments with
  | .ok result => session.withCode (if result then 0 else 1)
  | .error fault => session.refuse fault.message

/-- Tests a condition between brackets. -/
def testBracketed : Builtin := fun arguments session =>
  if arguments.getLast? = some "]" then testCondition arguments.dropLast session
  else session.refuse "missing ]"

/-- Has the code of what ran in the background, if it is asked for. -/
def awaitJobs : Builtin :=
  withOptions [] Session.refuse fun read session =>
    match read.operands with
    | [] => session.withCode 0
    | word :: _ =>
      if word.startsWith "%" then
        match session.job with
        | some code => session.withCode code
        | none => session.refuse s!"No such job: {word}"
      else if (smallNumber? word).isNone then session.refuse (noNumber word)
      else session.withCode (if word = Session.jobNumber then session.job.getD 127 else 127)

/-- The built-in commands by name. -/
def builtins : List (String × Builtin) := [
  (":", doNothing 0), ("[", testBracketed), ("break", leaveLoops false), ("cd", changeFolder),
  ("continue", leaveLoops true), ("echo", echoEscaped), ("exit", exitSession),
  ("export", exportVariables), ("false", doNothing 1), ("kill", sendSignal),
  ("local", hideVariables), ("printf", printFormatted), ("pwd", tellFolder),
  ("read", readVariables), ("readonly", fixVariables), ("return", leaveFunction),
  ("set", setArguments), ("shift", shiftArguments), ("test", testCondition),
  ("trap", trapSignals), ("true", doNothing 0), ("umask", showMask), ("unset", unsetNames),
  ("wait", awaitJobs)]

/-- The built-in commands that set the variables which their words assign values to. -/
def declaringCommands : List String := ["export", "local", "readonly"]

/-- The built-in command with a name. -/
def builtin? (name : String) : Option Builtin :=
  (builtins.find? (·.1 = name)).map Prod.snd

/-- Runs a built-in command under its name. It fails if it writes and cannot. -/
def runBuiltin (name : String) (builtin : Builtin) (arguments : List String) (session : Session) :
    Session :=
  let inside := { session with caller := some name }
  let after :=
    if session.outputSink = .closed then
      let after := builtin arguments { inside with outputSink := .output, output := .empty }
      let wrote := !after.output.bytes.isEmpty
      let after := { after with outputSink := .closed, output := session.output }
      if wrote then (after.complain s!"{name}: I/O error").withCode 1 else after
    else builtin arguments inside
  { after with caller := session.caller }

end ShaderSyntax.Host
