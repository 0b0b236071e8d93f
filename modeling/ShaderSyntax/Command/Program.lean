import ShaderSyntax.Files.Fault

/-!
# Programs of the system

What a program is to the one who runs it: it gets arguments and input, and gives output, complaints
and the state in which it ended, or it cannot be started. What the system's programs do is not said
here; a system is any function of this kind (`Programs`).
-/

set_option autoImplicit false

namespace ShaderSyntax.Command

/-- Bytes in order. -/
abbrev Bytes := List UInt8

/-- The names of the signals with a meaning, from number one on. -/
def signalNames : List String := [
  "HUP", "INT", "QUIT", "ILL", "TRAP", "ABRT", "BUS", "FPE", "KILL", "USR1", "SEGV", "USR2",
  "PIPE", "ALRM", "TERM", "STKFLT", "CHLD", "CONT", "STOP", "TSTP", "TTIN", "TTOU", "URG",
  "XCPU", "XFSZ", "VTALRM", "PROF", "WINCH", "IO", "PWR", "SYS"]

/-- How a program ended: by itself, with a code, or by a signal. -/
inductive ExitStatus where
  | code (value : Nat)
  | signal (number : Nat)
  deriving DecidableEq, Repr

namespace ExitStatus

/-- The end of a program that did what it should. -/
def success : ExitStatus := .code 0

/-- Whether a program did what it should. -/
def succeeded (status : ExitStatus) : Bool := status = success

/-- How messages write the end of a program. -/
def text : ExitStatus → String
  | .code value => s!"exit status: {value}"
  | .signal number =>
    match signalNames[number - 1]? with
    | some name => s!"signal: {number} (SIG{name})"
    | none => s!"signal: {number}"

end ExitStatus

/-- What a program wrote, and how it ended. -/
structure ProgramResult where
  output : Bytes
  /-- What it wrote for complaints. -/
  errors : Bytes
  status : ExitStatus
  deriving DecidableEq, Repr

/-- The programs of a system with a state. A program is run by its name or path with arguments and
input, and changes the state; one that cannot be started leaves it as it was. -/
abbrev Programs (σ : Type) :=
  String → List String → Bytes → σ → Except FileFault (ProgramResult × σ)

end ShaderSyntax.Command
