import ShaderSyntax.Host.Builtin.Basic

/-!
# Sending signals

A script can send signals, and say what is run when one comes. The only program that a signal can
reach is the session itself.
-/

set_option autoImplicit false

namespace ShaderSyntax.Host

/-- What the arguments of a sending ask for: a signal for some targets, the words for signals, or
the word for one of them; or what is wrong with them. -/
inductive Sending where
  | signal (number : Nat) (targets : List String)
  | words
  | wordOf (text : String)
  | wrong (text : String)
  deriving DecidableEq, Repr

namespace Sending

/-- How signals are sent. -/
def usage : Sending :=
  .wrong ("Usage: kill [-s sigspec | -signum | -sigspec] [pid | job]... or\n" ++
    "kill -l [exitstatus]")

/-- The signal that is sent if no other one is asked for. -/
def usualSignal : Nat := 15

/-- A signal for targets, of which there has to be one. -/
def toTargets (number : Nat) (targets : List String) : Sending :=
  if targets.isEmpty then usage else .signal number targets

/-- Reads the options of a sending. -/
def ofOptions (arguments : List String) : Sending :=
  match readOptionWords [letterRule false 'l', letterRule true 's'] false arguments with
  | .error fault => .wrong fault.shellMessage
  | .ok read =>
    let named := read.options.filter (·.letter = 's')
    match named.find? fun option => (signalOf? 1 option.value).isNone with
    | some option => .wrong ("invalid signal number or name: " ++ option.value)
    | none =>
      match read.has 'l', named.getLast? with
      | true, none => (read.operands.head?.map wordOf).getD words
      | true, some _ => usage
      | false, none => toTargets usualSignal read.operands
      | false, some option => toTargets ((signalOf? 1 option.value).getD usualSignal) read.operands

/-- Reads the arguments of a sending. -/
def ofArguments (arguments : List String) : Sending :=
  match arguments with
  | [] => usage
  | word :: rest =>
    match word.toList with
    | '-' :: name =>
      match signalOf? 1 (String.ofList name) with
      | some number => toTargets number rest
      | none => ofOptions arguments
    | _ => .signal usualSignal arguments

end Sending

/-- Sends a signal to the session itself. -/
def Session.receive (session : Session) (number : Nat) : Session :=
  let trap := if deadlySignals.contains number then none
    else session.traps.get? (toString number)
  match trap with
  | some action => { session with pending := session.pending ++ [action] }
  | none =>
    if harmlessSignals.contains number then session
    else session.finish (.signal number)

/-- Sends a signal to targets, one after the other. -/
def Session.sendTo (session : Session) (number : Nat) : List String → Session
  | [] => session
  | target :: rest =>
    if target = Session.ownNumber then
      let session := session.receive number
      if session.stops then session else session.sendTo number rest
    else if target.startsWith "%" then session.refuse s!"No such job: {target}"
    else
      let digits := if target.startsWith "-" then (target.drop 1).toString else target
      if (smallNumber? digits).isNone then session.refuse (noNumber digits)
      else ((session.complain "No such process\n").withCode 1).sendTo number rest

/-- The word of a signal, or of the one that ended a program with a code. -/
def signalOfCode? (code : Nat) : Option String :=
  let number := if code > 128 then code - 128 else code
  if 0 < number && number ≤ lastSignal then some (signalWord number) else none

/-- Sends signals, or tells their words. -/
def sendSignal : Builtin := fun arguments session =>
  match Sending.ofArguments arguments with
  | .wrong text => session.refuse text
  | .words =>
    let words := "0" :: (List.range lastSignal).map fun number => signalWord (number + 1)
    (session.print (.ofText (String.join (words.map (· ++ "\n"))))).withCode 0
  | .wordOf text =>
    match (smallNumber? text).map signalOfCode? with
    | none => session.refuse (noNumber text)
    | some none => session.refuse s!"invalid signal number or exit status: {text}"
    | some (some word) => (session.print (.ofText (word ++ "\n"))).withCode 0
  | .signal number targets => (session.withCode 0).sendTo number targets

/-- Says what is run for signals, as far as words name signals. -/
def Session.setTraps (session : Session) (action : Option String) : List String → Session
  | [] => session.withCode 0
  | word :: rest =>
    match signalOf? 0 word with
    | none => (session.report s!"trap: {word}: bad trap\n").withCode 1
    | some number =>
      let traps := match action with
        | some action => session.traps.put (toString number) action
        | none => session.traps.erase (toString number)
      { session with traps }.setTraps action rest

/-- Tells what is run for signals. -/
def Session.listTraps (session : Session) : Session :=
  let line (number : Nat) := (session.traps.get? (toString number)).map fun action =>
    "trap -- " ++ quotedForScripts action ++ " " ++ signalWord number ++ "\n"
  let lines := (List.range (lastSignal + 1)).filterMap line
  (session.print (.ofText (String.join lines))).withCode 0

/-- Says what is run for signals and at the end; with a hyphen, or for a signal alone, nothing. -/
def trapSignals : Builtin :=
  withOptions [] Session.abort fun read session =>
    match read.operands with
    | [] => session.listTraps
    | [word] => session.setTraps none [word]
    | first :: rest =>
      if first.toList.all Char.isDigit && (signalOf? 0 first).isSome then
        session.setTraps none (first :: rest)
      else session.setTraps (if first = "-" then none else some first) rest

end ShaderSyntax.Host
