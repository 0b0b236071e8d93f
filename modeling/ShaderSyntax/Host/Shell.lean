import ShaderSyntax.Host.Program
import ShaderSyntax.Host.Redirections

/-!
# The shell

Running statements in a session. A command is a built-in one, a function, or a program; redirections
hold while the command runs, and for the rest of the session if there is no command to run. Scripts
and functions within each other are run to a fixed depth, and loops for a fixed number of rounds, so
every script comes to an end.
-/

set_option autoImplicit false

namespace ShaderSyntax.Host

open Command

/-- Runs what is kept for the signals that have come, and goes on with the code that was. -/
def Session.attend (run : Runner) (session : Session) : Session :=
  session.pending.foldl (fun session action =>
    session.andThen fun session =>
      let after := run.script action { session with caller := none, line := 1 }
      let after := { after with caller := session.caller, line := session.line }
      if after.stops then after else { after with code := session.code })
    { session with pending := [] }

/-- Gives variables back the values that a function hid. -/
def restoreHidden (settings : Named String) (hidden : List (String × Option String)) :
    Named String :=
  hidden.foldl (fun settings entry =>
    match entry.2 with
    | some value => settings.put entry.1 value
    | none => settings.erase entry.1) settings

/-- Runs the body of a function with arguments of its own. -/
def callFunction (run : Runner) (body : Statement) (arguments : List String) (session : Session) :
    Session :=
  let after := run.body body { session with arguments, loops := 0, hidden := some [] }
  { after with
    arguments := session.arguments
    loops := session.loops
    leaving := if after.leaving = some .function then none else after.leaving
    settings := restoreHidden after.settings (after.hidden.getD [])
    hidden := session.hidden }

/-- Tells what the first of some names runs, as far as it runs something. -/
def locateCommand : Builtin := fun names session =>
  match names.head?.map (locate? session) with
  | none => session.withCode 0
  | some none => session.withCode missingCode
  | some (some place) => (session.print (.ofText (place ++ "\n"))).withCode 0

/-- Describes what names run. -/
def describeCommands : Builtin := fun names session =>
  names.foldl (fun session name =>
    (session.print (.ofText (describe session name ++ "\n"))).withCode
      (if isKeyword name || (locate? session name).isSome || specialCommands.contains name then
        session.code
      else missingCode)) (session.withCode 0)

/-- Runs a script under the name of the command that asks for it, with lines of its own. A script
without statements goes well. -/
def Session.runCalled (run : Runner) (session : Session) (caller script : String) : Session :=
  let inside := { session with caller := some caller, line := 1 }
  let after := if (Script.ofText 1 script).isEmpty then inside.withCode 0
    else run.script script inside
  { after with caller := session.caller, line := session.line }

/-- Runs a script that a file holds. -/
def runFile (run : Runner) : Builtin := fun arguments session =>
  let arguments := if arguments.head? = some "--" then arguments.drop 1 else arguments
  match arguments with
  | [] => session.withCode 0
  | path :: _ =>
    let inside := { session with caller := some "." }
    if !path.toList.contains '/' then inside.abort s!"{path}: not found"
    else match session.tree.readBytes path with
      | .ok bytes => session.runCalled run path (textOf bytes.toList)
      | .error _ => inside.abort s!"cannot open {path}: No such file"

/-- Runs a program in place of the session. -/
def runInPlace (run : Runner) (program : String) (arguments : List String) (session : Session) :
    Session :=
  let after := runProgram run program arguments { session with caller := some "exec" }
  { after with traps := .empty }.finish (.code (if program.isEmpty then deniedCode else after.code))

/-- Runs a command that no function stands for. -/
def runNamed (run : Runner) (name : String) (arguments : List String) (session : Session) :
    Session :=
  match name, arguments with
  | "eval", words => session.runCalled run "eval" (String.intercalate " " words)
  | ".", arguments => runFile run arguments session
  | "exec", [] => session.withCode 0
  | "exec", program :: arguments => runInPlace run program arguments session
  | "type", names => describeCommands names session
  | name, arguments =>
    match builtin? name with
    | some builtin => runBuiltin name builtin arguments session
    | none => runProgram run name arguments session

/-- Runs a command even if a function has its name, or tells what a name runs. -/
def runCommandWord (run : Runner) (words : List String) (session : Session) : Session :=
  let ask := withOptions [letterRule false 'v', letterRule false 'V', letterRule false 'p']
    Session.refuse fun read asking =>
      if read.has 'V' then describeCommands read.operands asking
      else if read.has 'v' then locateCommand read.operands asking
      else match read.operands with
        | [] => asking.withCode 0
        | name :: arguments => runNamed run name arguments session
  { ask words { session with caller := some "command" } with caller := session.caller }

/-- Runs a command with its arguments. -/
def runWords (run : Runner) (words : List String) (session : Session) : Session :=
  match words with
  | [] => session
  | name :: arguments =>
    match session.functions.get? name with
    | some body => callFunction run body arguments session
    | none =>
      if name = "command" then runCommandWord run arguments session
      else runNamed run name arguments session

/-- Sets the variables of assignments, one after the other; gives what was set. -/
def assignAll (run : Runner) (assignments : List (String × Word)) (session : Session) :
    List (String × String) × Session :=
  assignments.foldl (fun (acc : List (String × String) × Session) assignment =>
    if acc.2.stops then acc
    else
      let (value, session) := expandText run acc.2 assignment.2
      (acc.1 ++ [(assignment.1, value)],
        session.andThen fun session => session.putOrAbort assignment.1 value)) ([], session)

/-- Reports assignments and words that are about to run, if that is asked for. -/
def Session.trace (session : Session) (sink : Sink) (texts : List (String × String))
    (fields : List String) : Session :=
  if session.options.traces then
    let words := texts.map (fun text => text.1 ++ "=" ++ text.2) ++ fields
    let mark := (session.settings.get? "PS4").getD ""
    session.writeTo sink (.ofText (mark ++ String.intercalate " " words ++ "\n"))
  else session

/-- Gives back the values that variables had, unless they stay set. -/
def Session.restore (session after : Session) (names : List String) (stay : Bool) : Session :=
  if stay || names.isEmpty then after
  else { after with
    settings := restoreHidden after.settings
      (names.map fun name => (name, session.settings.get? name))
    exported := session.exported }

/-- Runs words with some variables set for them; they stay set if `stay` holds. -/
def runAssigned (run : Runner) (assignments : List (String × Word)) (fields : List String)
    (sink : Sink) (stay : Bool) (session : Session) : Session :=
  let (texts, assigned) := assignAll run assignments session
  let names := texts.map Prod.fst
  let after := assigned.andThen fun session =>
    let session := if texts.isEmpty && fields.isEmpty then session
      else session.trace sink texts fields
    let exported := if stay then session.exported else names ++ session.exported
    if fields.isEmpty then session.withCode session.captured
    else runWords run fields { session with exported }
  session.restore after names stay

/-- The words that the words of a command stand for. Behind the name of a command that sets
variables, values that are assigned are not cut. -/
def expandCommand (run : Runner) (session : Session) (words : List Word) :
    List String × Session :=
  let (first, session) := expandWords run session (words.take 1)
  if first.any declaringCommands.contains then
    (words.drop 1).foldl (fun (acc : List String × Session) word =>
      if (assignment? word).isSome then
        let (text, session) := expandText run acc.2 word
        (acc.1 ++ [text], session)
      else
        let (fields, session) := expandWords run acc.2 [word]
        (acc.1 ++ fields, session)) (first, session)
  else
    let (others, session) := expandWords run session (words.drop 1)
    (first ++ others, session)

/-- Runs a plain command. -/
def runCommand (run : Runner) (line : Nat) (assignments : List (String × Word))
    (words : List Word) (redirections : List Redirection) (session : Session) : Session :=
  let (fields, session) := expandCommand run { session with line, captured := 0 } words
  session.andThen fun session =>
    let isSpecial := fields.head?.any specialCommands.contains
    if fields = ["exec"] then
      match redirectAll run session redirections with
      | .error fault => session.failRedirection true fault
      | .ok session => session.andThen (Session.withCode · 0)
    else
      let stay := fields.isEmpty || isSpecial
      (withRedirections run isSpecial redirections
        (runAssigned run assignments fields session.errorSink stay) session).attend run

/-- The most rounds that a loop is run for. -/
def roundLimit : Nat := 100000

/-- Runs a body as long as a condition goes well, or as long as it does not. The code at the end is
that of the last round. -/
def runRounds (condition body : Session → Session) (whileFails : Bool) :
    Nat → Nat → Session → Session
  | 0, code, session => session.withCode code
  | rounds + 1, code, session =>
    let tried := condition session
    if tried.stops then
      let (next, again) := tried.behindRound
      if again then runRounds condition body whileFails rounds code (next.withCode code)
      else if next.ended.isSome || next.leaving = some .function then next
      else next.withCode code
    else if (tried.code = 0) = (whileFails = true) then tried.withCode code
    else
      let (next, again) := (body tried).behindRound
      if again then runRounds condition body whileFails rounds next.code next else next

/-- Runs a body for one value after the other. -/
def runEach (body : Session → Session) (name : String) : List String → Session → Session
  | [], session => session
  | value :: values, session =>
    let (next, again) := ((session.putOrAbort name value).andThen body).behindRound
    if again then runEach body name values next else next

/-- Runs a loop. -/
def Session.inLoop (loop : Session → Session) (session : Session) : Session :=
  { loop { session with loops := session.loops + 1 } with loops := session.loops }

/-- Runs a statement. -/
def Statement.run (run : Runner) : Statement → Session → Session
  | .nothing => id
  | .command line assignments words redirections => fun session =>
    session.andThen fun session =>
      if session.options.onlyReads then session
      else (runCommand run line assignments words redirections session).checked
  | .group line body redirections => fun session =>
    session.andThen fun session =>
      withRedirections run false redirections (body.run run) { session with line }
  | .isolated line body redirections => fun session =>
    session.andThen fun session =>
      (withRedirections run false redirections (Session.runApart run (body.run run))
        { session with line }).checked
  | .background body => fun session =>
    session.andThen fun session =>
      let after := Session.runApart run (body.run run) { session with input := .empty }
      { after with code := 0, ended := none, input := session.input, job := some after.code }
  | .pipe first second => fun session =>
    session.andThen fun session => (Session.pipe (first.run run) (second.run run) session).checked
  | .sequence first second => fun session => (first.run run session).andThen (second.run run)
  | .both first second => fun session =>
    (session.testing (first.run run)).andThen fun session =>
      if session.code = 0 then second.run run session else session
  | .either first second => fun session =>
    (session.testing (first.run run)).andThen fun session =>
      if session.code = 0 then session else second.run run session
  | .negation body => fun session =>
    (session.testing (body.run run)).andThen fun session =>
      session.withCode (if session.code = 0 then 1 else 0)
  | .choice condition yes no => fun session =>
    (session.testing (condition.run run)).andThen fun session =>
      if session.code = 0 then yes.run run session
      else match no with
        | .nothing => session.withCode 0
        | no => no.run run session
  | .loop whileFails condition body => fun session =>
    session.andThen (Session.inLoop
      (runRounds (fun session => session.testing (condition.run run)) (body.run run) whileFails
        roundLimit 0))
  | .each line name words body => fun session =>
    session.andThen fun session =>
      let (values, session) := expandWords run { session with line } words
      session.andThen fun session =>
        if values.isEmpty then session.withCode 0
        else session.inLoop (runEach (body.run run) name values)
  | .select line word body => fun session =>
    session.andThen fun session =>
      let (subject, session) := expandText run { session with line } word
      session.andThen fun session => body.run run { session with subject, code := 0 }
  | .branch patterns body next => fun session =>
    session.andThen fun session =>
      let (chosen, session) := patterns.foldl (fun (acc : Bool × Session) pattern =>
        if acc.1 then acc
        else
          let (pattern, session) := expandPattern run acc.2 pattern
          (globMatches pattern session.subject, session)) (false, session)
      if chosen then body.run run session else next.run run session
  | .define name body => fun session =>
    session.andThen fun session =>
      { session with functions := session.functions.put name body, code := 0 }

/-- Runs a script in a session, from the line on which the session is. -/
def runScript (run : Runner) (text : String) (session : Session) : Session :=
  let script := Script.ofText session.line text
  let session := script.lines.foldl (fun session line => line.run run session) session
  match script.fault with
  | none => session
  | some fault =>
    session.andThen fun session => { session with line := fault.line }.abort fault.text

/-- Fills in the operand of a parameter. -/
def fillOperand (run : Runner) (quoted : Bool) (operand : String) (session : Session) :
    List WordPiece × Session :=
  match operandWord quoted operand with
  | .ok word => expandPieces run .empty session word
  | .error fault => ([], session.abort fault)

/-- Runs scripts and functions within each other to a depth. -/
def runnerOf : Nat → Runner
  | 0 => ⟨fun _ session => session, fun _ session => session, fun _ _ session => ([], session)⟩
  | depth + 1 =>
    let inner := runnerOf depth
    ⟨runScript inner, Statement.run inner, fillOperand inner⟩

/-- Runs scripts and functions as deep within each other as they may lie. -/
def shellRunner : Runner := runnerOf 64

/-- The most bytes that an argument of a program may have. -/
def argumentLimit : Nat := 131071

/-- What a program comes to that had a session within another one, and the files behind it. -/
def Session.result (outer inner : Session) : ProgramResult × FileTree :=
  (⟨inner.output.bytes, inner.errors.bytes, inner.exitStatus⟩, (outer.behindProgram inner).tree)

/-- The programs of a system with the shell and the tools, on a tree of files. -/
def programs : Programs FileTree := fun program arguments input tree =>
  let outer := Session.start program [] .plain .empty tree (.ofBytes input)
  if (program :: arguments).any fun word => word.toList.contains '\x00' then
    .error .nullInArgument
  else if program.isEmpty then .error .missing
  else
    match programName? program with
    | some name =>
      if isProgram name then
        if (program :: arguments).any fun word => argumentLimit < word.utf8ByteSize then
          .error .argumentsTooLong
        else if shellNames.contains name then
          .ok (outer.result (runShell shellRunner program arguments outer))
        else .ok (outer.result (runProgram shellRunner program arguments outer))
      else .error .missing
    | none =>
      match tree.find program with
      | .ok _ => .error .denied
      | .error fault => .error fault

end ShaderSyntax.Host
