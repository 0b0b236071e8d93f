import ShaderSyntax.Macro.Expansion
import ShaderSyntax.Text.Quoted

/-!
# Failures of preprocessing

What ends preprocessing, and what is only recorded: a line whose macro expansion ran into a limit.
-/

set_option autoImplicit false

namespace ShaderSyntax

/-- Why preprocessing gives no text. -/
inductive PreprocessError where
  /-- An included file does not exist; `source` and `line` say where the inclusion stands. -/
  | includeNotFound (path source : String) (line : Nat)
  | unreadable (path cause : String)
  /-- An inclusion lies below `limit` others. -/
  | tooDeep (path source : String) (line limit : Nat)
  deriving DecidableEq, Repr

/-- The message of a failure. -/
def PreprocessError.message : PreprocessError → String
  | .includeNotFound path source line =>
    s!"{source}:{line}: included file {Text.quoted path} not found"
  | .unreadable path cause => s!"cannot read {Text.quoted path}: {cause}"
  | .tooDeep path source line limit =>
    s!"{source}:{line}: including {Text.quoted path} exceeds the nesting limit of {limit}"

/-- A line whose expansion ran into a limit. -/
structure ExpansionOverflow where
  path : String
  line : Nat
  limit : Nat
  kind : ExpansionLimit
  deriving DecidableEq, Repr

/-- The message of an overflow. -/
def ExpansionOverflow.message (overflow : ExpansionOverflow) : String :=
  s!"{overflow.path}:{overflow.line}: macro expansion stopped after {overflow.limit} " ++
    overflow.kind.unit

end ShaderSyntax
