import ShaderSyntax.Shader.Constant

/-!
# The semantic actions of the shader grammar

Each action builds the part of the syntax tree that belongs to one rule, from the values of an
alternative's symbols. An action tells its alternatives apart by the number of values; what it
changed before a failure stays changed.
-/

set_option autoImplicit false

namespace ShaderSyntax.Shader

/-- A computation on the tree under construction that may fail. -/
abbrev Builder := ExceptT ActionError (StateM SyntaxTree)

/-- A semantic action of the shader grammar. -/
abbrev BuildAction := List Value → Builder Value

/-- The failure of an action that was handed the wrong number of values. -/
def wrongCount {α : Type} (expected : Nat) (values : List Value) : Builder α :=
  throw (.valueCount expected values.length)

/-- The node that a value is. -/
def asNode : Value → Builder NodeId
  | .node id => pure id
  | other => throw (.notANode other)

/-- The kind and the text of the token that a value is. -/
def asToken : Value → Builder (String × String)
  | .token kind text _ => pure (kind, text)
  | other => throw (.notAToken other)

/-- The list that a value is. -/
def asList : Value → Builder (List NodeId)
  | .list ids => pure ids
  | other => throw (.notAList other)

/-- Adds a node to the tree. -/
def create (make : SyntaxTree → NodeId × SyntaxTree) : Builder NodeId := do
  let (id, tree) := make (← get)
  set tree
  return id

/-- Edits the tree; what the edit changed before it failed stays. -/
def edit {α : Type} (change : TreeBuilder α) : Builder α := do
  let (result, tree) := change.run (← get)
  set tree
  match result with
  | .ok outcome => return outcome
  | .error error => throw (.tree error)

/-- Adds a node with children to the tree. -/
def branch (kind : String) (children : List NodeId) : Builder NodeId :=
  edit (SyntaxTree.branch kind children)

/-- Adds a leaf with the name that a token spells. -/
def nameLeaf (value : Value) : Builder NodeId := do
  let (_, name) ← asToken value
  create (·.leaf "ID" (.str name))

/-- A variable. -/
def varExpr : BuildAction
  | [name] => return .node (← nameLeaf name)
  | values => wrongCount 1 values

/-- A constant. -/
def constant : BuildAction
  | [token] => do
    let (kind, text) ← asToken token
    let (nodeKind, value) ← liftM (readConstant kind text)
    return .node (← create (·.leaf nodeKind value))
  | values => wrongCount 1 values

/-- A variable, a constant, or an expression between parentheses. -/
def primaryExpression : BuildAction
  | [x] => return x
  | [_, x, _] => return x
  | values => wrongCount 3 values

/-- A leaf with the spelling of a keyword. -/
def keywordLeaf (kind : String) : BuildAction
  | [token] => do
    let (_, text) ← asToken token
    return .node (← create (·.leaf kind (.str text)))
  | values => wrongCount 1 values

/-- A primary expression, an index, a call, a constructor, or a postfix operator. -/
def postfixExpression : BuildAction
  | [x] => return x
  | [e, op] => do
    let (_, text) ← asToken op
    let id ← create (·.opNode "PostfixOp" text)
    let e ← asNode e
    edit (.push id e)
    return .node id
  | [f, _, _] => do
    let f ← asNode f
    return .node (← branch "Call" [f])
  | [head, opening, inner, _] => do
    let head ← asNode head
    let (kind, _) ← asToken opening
    if kind = "LSBRACKET" then
      let inner ← asNode inner
      return .node (← branch "Index" [head, inner])
    else
      let kind := if (← get).kind? head = some "Type" then "Constructor" else "Call"
      let arguments ← asList inner
      return .node (← branch kind (head :: arguments))
  | values => wrongCount 4 values

/-- A list of one item, or a list with an item added behind it, with or without a separator. -/
def listRule : BuildAction
  | [x] => return .list [← asNode x]
  | [l, x] => do
    let items ← asList l
    return .list (items ++ [← asNode x])
  | [l, _, x] => do
    let items ← asList l
    return .list (items ++ [← asNode x])
  | values => wrongCount 3 values

/-- A postfix expression, or a unary operator before an expression. -/
def unaryExpression : BuildAction
  | [x] => return x
  | [op, e] => do
    let (_, text) ← asToken op
    let id ← create (·.opNode "UnaryOp" text)
    let e ← asNode e
    edit (.push id e)
    return .node id
  | values => wrongCount 2 values

/-- A unary expression, or a binary operator between expressions. -/
def expression : BuildAction
  | [x] => return x
  | [lhs, op, rhs] => do
    let (_, text) ← asToken op
    let id ← create (·.opNode "BinOp" text)
    let lhs ← asNode lhs
    edit (.push id lhs)
    let rhs ← asNode rhs
    edit (.push id rhs)
    return .node id
  | values => wrongCount 3 values

/-- A type, with its qualifier as first child if it has one. -/
def fullySpecifiedType : BuildAction
  | [x] => return x
  | [qualifier, type] => do
    let type ← asNode type
    let qualifier ← asNode qualifier
    edit (.insert type 0 qualifier)
    return .node type
  | values => wrongCount 2 values

/-- A declaration, plain, with an initial value, or of an array. -/
def declaration : BuildAction
  | [type, name, _] => do
    let name ← nameLeaf name
    let type ← asNode type
    return .node (← branch "Declaration" [type, name])
  | [type, name, _, initial, _] => do
    let name ← nameLeaf name
    let type ← asNode type
    let initial ← asNode initial
    return .node (← branch "Declaration" [type, name, initial])
  | [type, name, _, size, _, _] => do
    let name ← nameLeaf name
    let size ← asNode size
    let size ← branch "ArraySize" [size]
    let type ← asNode type
    return .node (← branch "Declaration" [type, name, size])
  | values => wrongCount 6 values

/-- A parameter of a function. -/
def parameter : BuildAction
  | [type, name] => do
    let name ← nameLeaf name
    let type ← asNode type
    return .node (← branch "Param" [type, name])
  | values => wrongCount 2 values

/-- A block of statements. -/
def compoundStatement : BuildAction
  | [_, _] => return .node (← branch "Block" [])
  | [_, statements, _] => do
    let statements ← asList statements
    return .node (← branch "Block" statements)
  | values => wrongCount 3 values

/-- A declaration, an expression, a block, a return, or what recovery gave up. -/
def statement : BuildAction
  | [x] => return x
  | [x, _] =>
    match x with
    | .empty => return .node (← create (·.newNode "Error"))
    | .token .. => return .node (← create (·.newNode "Return"))
    | .node e => return .node (← branch "ExprStatement" [e])
    | other => throw (.badStatement other)
  | [_, e, _] => do
    let e ← asNode e
    return .node (← branch "Return" [e])
  | values => wrongCount 3 values

/-- Builds the node of a function from its parts. -/
def functionNode (type name : Value) (parameters : List NodeId) (body : Value) :
    Builder Value := do
  let name ← nameLeaf name
  let parameters ← branch "Params" parameters
  let type ← asNode type
  let body ← asNode body
  return .node (← branch "Function" [type, name, parameters, body])

/-- A function, with or without parameters. -/
def functionDefinition : BuildAction
  | [type, name, _, _, body] => functionNode type name [] body
  | [type, name, _, parameters, _, body] => do
    let parameters ← asList parameters
    functionNode type name parameters body
  | values => wrongCount 6 values

/-- A unit of one declaration, or a unit with a declaration added. -/
def translationUnit : BuildAction
  | [item] => do
    let item ← asNode item
    return .node (← branch "TranslationUnit" [item])
  | [unit, item] => do
    let unit ← asNode unit
    let item ← asNode item
    edit (.push unit item)
    return .node unit
  | values => wrongCount 2 values

/-- An action in the form the engine runs: the tree is its context, a failure is its message. -/
def BuildAction.toSemantic (action : BuildAction) : SemanticAction SyntaxTree Value :=
  fun tree values =>
    let (result, tree) := (action values).run tree
    (result.mapError ActionError.message, tree)

end ShaderSyntax.Shader
