import ShaderSyntax.Cache.Backend
import ShaderSyntax.Command.Program
import ShaderSyntax.Tables.Record
import ShaderSyntax.Text.Blank
import ShaderSyntax.Text.Utf8

/-!
# Compilers that are programs

A grammar compiler may be any program that reads a rendered grammar from its input and writes tables
as a record. Each way in which that fails has a message and, behind it, the message of its cause.
-/

set_option autoImplicit false

namespace ShaderSyntax.Command

/-- Why a program gives no tables. -/
inductive CompilerFault where
  | start (program : String) (fault : FileFault)
  | exit (program : String) (status : ExitStatus) (errors : String)
  | notText (program detail : String)
  | malformed (program detail : String)
  deriving DecidableEq, Repr

namespace CompilerFault

/-- The message of a fault. -/
def message : CompilerFault → String
  | .start program _ => "cannot start " ++ program
  | .exit program status errors => s!"{program} exited with {status.text}: {errors}"
  | .notText program _ => program ++ " wrote non-UTF-8 output"
  | .malformed program _ => program ++ " produced malformed tables"

/-- The messages of what caused a fault. -/
def causes : CompilerFault → List String
  | .start _ fault => [fault.message]
  | .exit .. => []
  | .notText _ detail => [detail]
  | .malformed _ detail => [detail]

/-- The message of a fault with that of its cause. -/
def fullMessage (fault : CompilerFault) : String :=
  String.intercalate ": " (fault.message :: fault.causes)

end CompilerFault

/-- The tables that a finished program wrote. -/
def tablesOf (program : String) (result : ProgramResult) : Except CompilerFault TableBundle :=
  if !result.status.succeeded then
    let errors := Text.trim (Utf8.decodeLossy ⟨result.errors.toArray⟩).toList
    .error (.exit program result.status (String.ofList errors))
  else
    match Utf8.decode? ⟨result.output.toArray⟩ with
    | none => .error (.notText program (Utf8.faultMessage result.output))
    | some record =>
      match TableBundle.read? record with
      | none => .error (.malformed program (TableBundle.faultMessage record))
      | some tables => .ok tables

variable {σ : Type}

/-- Runs a program of a system on a rendered grammar; gives its tables and the system's state. -/
def compile (programs : Programs σ) (program : String) (arguments : List String)
    (grammar : String) (state : σ) : Except CompilerFault TableBundle × σ :=
  match programs program arguments (Utf8.encode grammar).toList state with
  | .error fault => (.error (.start program fault), state)
  | .ok (result, state) => (tablesOf program result, state)

/-- The compiler that a program of a system is. -/
def compilerOf (programs : Programs σ) (program : String) (arguments : List String) :
    GrammarCompiler σ :=
  fun grammar state =>
    let (tables, state) := compile programs program arguments grammar state
    (tables.mapError CompilerFault.fullMessage, state)

end ShaderSyntax.Command
