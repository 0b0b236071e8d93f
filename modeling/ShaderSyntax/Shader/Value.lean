import ShaderSyntax.Parse.Engine
import ShaderSyntax.Numeral.Decimal
import ShaderSyntax.Text.Quoted
import ShaderSyntax.Tree.Basic

/-!
# Values of the shader parser

What the shader parser keeps on its stack: tokens as they come, nodes of the tree under
construction, and lists of nodes; and how an action that is handed the wrong values fails.
-/

set_option autoImplicit false

namespace ShaderSyntax.Shader

/-- A value on the stack of the shader parser. -/
inductive Value where
  | empty
  | token (kind text : String) (line : Nat)
  | node (id : NodeId)
  | list (ids : List NodeId)
  deriving DecidableEq, Repr

/-- A shifted token is a value with its kind, its text and its line; there is an empty value. -/
instance : StackValue Value where
  ofToken token := .token token.kind token.text token.span.start.line
  empty := .empty

/-- How messages write a value. -/
def Value.describe : Value → String
  | .empty => "Empty"
  | .token kind text line =>
    "Token \x7b kind: " ++ Text.quoted kind ++ ", text: " ++ Text.quoted text ++ ", line: " ++
      toString line ++ " \x7d"
  | .node id => s!"Node({nodeText id})"
  | .list ids => "List([" ++ String.intercalate ", " (ids.map nodeText) ++ "])"

/-- Why a shader action fails. -/
inductive ActionError where
  | valueCount (expected found : Nat)
  | notANode (found : Value)
  | notAToken (found : Value)
  | notAList (found : Value)
  | badInteger (text : String) (fault : Numeral.WholeFault)
  | badUnsigned (text : String) (fault : Numeral.WholeFault)
  | badFloat (text : String) (fault : Numeral.DecimalFault)
  | notAConstant (kind : String)
  | badStatement (found : Value)
  | tree (error : TreeError)
  deriving DecidableEq, Repr

/-- The message of a failed action. -/
def ActionError.message : ActionError → String
  | .valueCount expected found => s!"expected {expected} values, got {found}"
  | .notANode found => s!"expected a syntax node, found {found.describe}"
  | .notAToken found => s!"expected a token, found {found.describe}"
  | .notAList found => s!"expected a list, found {found.describe}"
  | .badInteger text fault => s!"invalid integer constant {Text.quoted text}: {fault.message}"
  | .badUnsigned text fault => s!"invalid unsigned constant {Text.quoted text}: {fault.message}"
  | .badFloat text fault =>
    s!"invalid floating-point constant {Text.quoted text}: {fault.message}"
  | .notAConstant kind => s!"unexpected constant token {kind}"
  | .badStatement found => s!"unexpected statement head {found.describe}"
  | .tree error => error.message

end ShaderSyntax.Shader
