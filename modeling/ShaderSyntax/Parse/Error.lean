import ShaderSyntax.Parse.SyntaxError
import ShaderSyntax.Token.Basic

/-!
# Failures of a parse

Why a parse gives no value: a syntax error that recovery could not mend, a place that no token rule
matches, a semantic action that failed, or tables that do not fit the parse they drive.
-/

set_option autoImplicit false

namespace ShaderSyntax

/-- A way in which tables do not fit the parse they drive. -/
inductive TableMisfit where
  | noGoto (state : Nat) (label : String)
  | noProduction (production : Nat)
  | shortStack (production : Nat)
  | unreported
  deriving DecidableEq, Repr

/-- What is wrong, without its heading. -/
def TableMisfit.detail : TableMisfit → String
  | .noGoto state label => s!"no goto from state {state} on {label}"
  | .noProduction production => s!"production {production} out of range"
  | .shortStack production => s!"stack underflow reducing production {production}"
  | .unreported => "recovery failed without a reported error"

/-- A failed parse. -/
inductive ParseError where
  /-- The first syntax error that was reported. -/
  | rejected (error : SyntaxError)
  | unmatched (fault : Unmatched)
  | action (production line : Nat) (text : String)
  | misfit (fault : TableMisfit)
  deriving DecidableEq, Repr

/-- The message of a failed parse. -/
def ParseError.message : ParseError → String
  | .rejected error => error.message
  | .unmatched fault => fault.message
  | .action production line text =>
    s!"action for production {production} failed at line {line}: {text}"
  | .misfit fault => "malformed parse tables: " ++ fault.detail

end ShaderSyntax
