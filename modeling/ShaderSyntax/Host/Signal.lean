import ShaderSyntax.Command.Program

/-!
# Signals

Signals have numbers, and most of them names; those from a certain number on have no meaning of
their own and are counted from both ends.
-/

set_option autoImplicit false

namespace ShaderSyntax.Host

open Command

/-- The signals without a name, which scripts write as numbers. -/
def namelessSignals : List Nat := [16, 32, 33]

/-- The first signal without a meaning of its own. -/
def firstFreeSignal : Nat := 34

/-- The last of those that are counted from the first one. -/
def middleFreeSignal : Nat := 49

/-- The greatest number of a signal. -/
def lastSignal : Nat := 64

/-- How scripts write the free signal that is so many behind the first, or before the last. -/
def freeSignalWord (base : String) (sign : String) (distance : Nat) : String :=
  if distance = 0 then base else base ++ sign ++ toString distance

/-- How scripts write a signal. Number zero stands for the end of a script. -/
def signalWord (number : Nat) : String :=
  if number = 0 then "EXIT"
  else if namelessSignals.contains number then toString number
  else if number < firstFreeSignal then (signalNames[number - 1]?).getD (toString number)
  else if number ≤ middleFreeSignal then freeSignalWord "RTMIN" "+" (number - firstFreeSignal)
  else freeSignalWord "RTMAX" "-" (lastSignal - number)

/-- The signal from a number on that a word names; letters stand for themselves in both cases. -/
def signalNamed? (least : Nat) (word : String) : Option Nat :=
  ((List.range (lastSignal + 1)).drop least).find? fun number =>
    (signalWord number).toLower = word.toLower

/-- The signal that a word stands for: any by its number, or one from a number on by its name. -/
def signalOf? (least : Nat) (word : String) : Option Nat :=
  if word.toList.all Char.isDigit && !word.isEmpty then
    (word.toNat?).filter (· ≤ lastSignal)
  else signalNamed? least word

/-- What a shell says of a program that a signal ended, for the signals from number one on. -/
def signalDescriptions : List String := [
  "Hangup", "Interrupt", "Quit", "Illegal instruction", "Trace/breakpoint trap", "Aborted",
  "Bus error", "Floating point exception", "Killed", "User defined signal 1",
  "Segmentation fault", "User defined signal 2", "Broken pipe", "Alarm clock", "Terminated",
  "Stack fault", "Child exited", "Continued", "Stopped (signal)", "Stopped",
  "Stopped (tty input)", "Stopped (tty output)", "Urgent I/O condition",
  "CPU time limit exceeded", "File size limit exceeded", "Virtual timer expired",
  "Profiling timer expired", "Window changed", "I/O possible", "Power failure",
  "Bad system call"]

/-- What a shell says of a program that a signal ended. -/
def signalDescription (number : Nat) : String :=
  match signalDescriptions[number - 1]? with
  | some description => description
  | none =>
    if number < firstFreeSignal then s!"Unknown signal {number}"
    else s!"Real-time signal {number - firstFreeSignal}"

/-- The signals that a shell says nothing of. -/
def quietSignals : List Nat := [2, 13]

/-- The signals that leave a program running. -/
def harmlessSignals : List Nat := [0, 17, 18, 23, 28]

/-- The signals that nothing can be run for. -/
def deadlySignals : List Nat := [9, 19]

/-- The code that a shell gives to the end of a program. -/
def shellCode : ExitStatus → Nat
  | .code value => value
  | .signal number => 128 + number

/-- The line that a shell writes when a program ended like this. -/
def endNotice : ExitStatus → String
  | .code _ => ""
  | .signal number =>
    if quietSignals.contains number then ""
    else signalDescription number ++ "\n"

end ShaderSyntax.Host
