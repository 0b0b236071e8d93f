import ShaderSyntax.Proofs.Shader.Ownership
import ShaderSyntax.Shader.Grammar

/-!
# The actions of the shader grammar keep their nodes apart

An action is handed values and gives one. Whatever values it is handed, the nodes that its outcome
owns are loose if those of the values were, all other loose nodes stay so, the tree stays a forest,
and no edit is refused (`Shader.BuildAction.Tidy`). Each action is followed step by step; the main
statement is that all actions of the grammar are tidy (`Shader.tidy_of_mem_rules`).
-/

set_option autoImplicit false

namespace ShaderSyntax.Shader

/-- An action is tidy if it takes what its values own and gives what its outcome owns. -/
def BuildAction.Tidy (action : BuildAction) : Prop :=
  ∀ values, Keeps (action values) (values.flatMap Value.ids) Value.ids

/-- The action for variables makes one leaf, which its outcome owns. -/
theorem tidy_varExpr : BuildAction.Tidy varExpr := by
  intro values
  unfold varExpr
  split
  case h_1 name =>
    refine .nameLeaf fun id => ?_
    exact .node
  case h_2 => exact .wrongCount

/-- The action for constants makes one leaf, or none if the text cannot be read. -/
theorem tidy_constant : BuildAction.Tidy constant := by
  intro values
  unfold constant
  split
  case h_1 token =>
    refine .asToken ?_
    rintro kind text _ rfl
    refine .readConstant fun ⟨nodeKind, value⟩ => ?_
    refine .create (fun _ => ⟨_, _, _, rfl⟩) fun id => ?_
    exact .node
  case h_2 => exact .wrongCount

/-- Parentheses are dropped, and the node between them is passed on. -/
theorem tidy_primaryExpression : BuildAction.Tidy primaryExpression := by
  intro values
  unfold primaryExpression
  split
  case h_1 x => exact .pass x
  case h_2 opening x closing => exact .pure fun id => by grind
  case h_3 => exact .wrongCount

/-- The action for keywords makes one leaf, of whatever kind. -/
theorem tidy_keywordLeaf (kind : String) : BuildAction.Tidy (keywordLeaf kind) := by
  intro values
  unfold keywordLeaf
  split
  case h_1 token =>
    refine .asToken ?_
    rintro _ text _ rfl
    refine .create (fun _ => ⟨_, _, _, rfl⟩) fun id => ?_
    exact .node
  case h_2 => exact .wrongCount

/-- An operator, a call or an index takes all its operands below a new node. -/
theorem tidy_postfixExpression : BuildAction.Tidy postfixExpression := by
  intro values
  unfold postfixExpression
  split
  case h_1 x => exact .pass x
  case h_2 e op =>
    refine .asToken ?_
    rintro _ text _ rfl
    refine .create (fun _ => ⟨_, _, _, rfl⟩) fun id => ?_
    refine .asNode ?_
    rintro e rfl
    refine .push ?_
    exact .node
  case h_3 f _ _ =>
    refine .asNode ?_
    rintro f rfl
    refine .branch fun id => ?_
    exact .node
  case h_4 head opening inner _ =>
    refine .asNode ?_
    rintro head rfl
    refine .asToken ?_
    rintro kind _ _ rfl
    dsimp only
    split
    case isTrue =>
      refine .asNode ?_
      rintro inner rfl
      refine .branch fun id => ?_
      exact .node
    case isFalse =>
      refine .get fun tree => ?_
      refine .asList ?_
      rintro arguments rfl
      refine .branch fun id => ?_
      exact .node
  case h_5 => exact .wrongCount

/-- A list owns its items and the one that is added. -/
theorem tidy_listRule : BuildAction.Tidy listRule := by
  intro values
  unfold listRule
  split
  case h_1 x =>
    refine .asNode ?_
    rintro x rfl
    exact .pure fun id => by grind
  case h_2 l x =>
    refine .asList ?_
    rintro items rfl
    refine .asNode ?_
    rintro x rfl
    exact .pure fun id => by grind
  case h_3 l separator x =>
    refine .asList ?_
    rintro items rfl
    refine .asNode ?_
    rintro x rfl
    exact .pure fun id => by grind
  case h_4 => exact .wrongCount

/-- A unary operator takes its operand below a new node. -/
theorem tidy_unaryExpression : BuildAction.Tidy unaryExpression := by
  intro values
  unfold unaryExpression
  split
  case h_1 x => exact .pass x
  case h_2 op e =>
    refine .asToken ?_
    rintro _ text _ rfl
    refine .create (fun _ => ⟨_, _, _, rfl⟩) fun id => ?_
    refine .asNode ?_
    rintro e rfl
    refine .push ?_
    exact .node
  case h_3 => exact .wrongCount

/-- A binary operator takes both operands below a new node. -/
theorem tidy_expression : BuildAction.Tidy expression := by
  intro values
  unfold expression
  split
  case h_1 x => exact .pass x
  case h_2 lhs op rhs =>
    refine .asToken ?_
    rintro _ text _ rfl
    refine .create (fun _ => ⟨_, _, _, rfl⟩) fun id => ?_
    refine .asNode ?_
    rintro lhs rfl
    refine .push ?_
    refine .asNode ?_
    rintro rhs rfl
    refine .push ?_
    exact .node
  case h_3 => exact .wrongCount

/-- A qualifier comes below its type, which is passed on. -/
theorem tidy_fullySpecifiedType : BuildAction.Tidy fullySpecifiedType := by
  intro values
  unfold fullySpecifiedType
  split
  case h_1 x => exact .pass x
  case h_2 qualifier type =>
    refine .asNode ?_
    rintro type rfl
    refine .asNode ?_
    rintro qualifier rfl
    refine .of_count [type, qualifier] (fun id => by grind) ?_
    refine .insert ?_
    exact .node
  case h_3 => exact .wrongCount

/-- A declaration takes its type, its name and what else it has below a new node. -/
theorem tidy_declaration : BuildAction.Tidy declaration := by
  intro values
  unfold declaration
  split
  case h_1 type name closing =>
    refine .nameLeaf fun name => ?_
    refine .asNode ?_
    rintro type rfl
    refine .of_count ([type, name] ++ []) (fun id => by grind) ?_
    refine .branch fun id => ?_
    exact .node
  case h_2 type name assign initial closing =>
    refine .nameLeaf fun name => ?_
    refine .asNode ?_
    rintro type rfl
    refine .asNode ?_
    rintro initial rfl
    refine .of_count ([type, name, initial] ++ []) (fun id => by grind) ?_
    refine .branch fun id => ?_
    exact .node
  case h_3 type name opening size closing last =>
    refine .nameLeaf fun name => ?_
    refine .asNode ?_
    rintro size rfl
    refine .of_count ([size] ++ (name :: type.ids)) (fun id => by grind) ?_
    refine .branch fun size => ?_
    refine .asNode ?_
    rintro type rfl
    refine .of_count ([type, name, size] ++ []) (fun id => by grind) ?_
    refine .branch fun id => ?_
    exact .node
  case h_4 => exact .wrongCount

/-- A parameter takes its type and its name below a new node. -/
theorem tidy_parameter : BuildAction.Tidy parameter := by
  intro values
  unfold parameter
  split
  case h_1 type name =>
    refine .nameLeaf fun name => ?_
    refine .asNode ?_
    rintro type rfl
    refine .of_count ([type, name] ++ []) (fun id => by grind) ?_
    refine .branch fun id => ?_
    exact .node
  case h_2 => exact .wrongCount

/-- A block takes its statements below a new node. -/
theorem tidy_compoundStatement : BuildAction.Tidy compoundStatement := by
  intro values
  unfold compoundStatement
  split
  case h_1 =>
    refine .branch fun id => ?_
    exact .node
  case h_2 opening statements closing =>
    refine .asList ?_
    rintro statements rfl
    refine .of_count (statements ++ []) (fun id => by grind) ?_
    refine .branch fun id => ?_
    exact .node
  case h_3 => exact .wrongCount

/-- A statement takes its expression below a new node, or has none; a block and a declaration are
passed on. -/
theorem tidy_statement : BuildAction.Tidy statement := by
  intro values
  unfold statement
  split
  case h_1 x => exact .pass x
  case h_2 x _ =>
    split
    case h_1 =>
      refine .create (fun _ => ⟨_, _, _, rfl⟩) fun id => ?_
      exact .node
    case h_2 =>
      refine .create (fun _ => ⟨_, _, _, rfl⟩) fun id => ?_
      exact .node
    case h_3 e =>
      refine .branch fun id => ?_
      exact .node
    case h_4 => exact .throw nofun
  case h_3 opening e closing =>
    refine .asNode ?_
    rintro e rfl
    refine .of_count ([e] ++ []) (fun id => by grind) ?_
    refine .branch fun id => ?_
    exact .node
  case h_4 => exact .wrongCount

/-- The node of a function takes its type, its parameters and its body below it, and two nodes that
are made for it. -/
theorem keeps_functionNode (type name : Value) (parameters : List NodeId) (body : Value) :
    Keeps (functionNode type name parameters body) (parameters ++ (type.ids ++ body.ids))
      Value.ids := by
  unfold functionNode
  refine .nameLeaf fun name => ?_
  refine .of_count (parameters ++ (name :: (type.ids ++ body.ids))) (fun id => by grind) ?_
  refine .branch fun parameters => ?_
  refine .asNode ?_
  rintro type rfl
  refine .asNode ?_
  rintro body rfl
  refine .of_count ([type, name, parameters, body] ++ []) (fun id => by grind) ?_
  refine .branch fun id => ?_
  exact .node

/-- A function is tidy with parameters and without. -/
theorem tidy_functionDefinition : BuildAction.Tidy functionDefinition := by
  intro values
  unfold functionDefinition
  split
  case h_1 type name opening closing body =>
    refine .of_count _ (fun id => ?_) (keeps_functionNode type name [] body)
    grind
  case h_2 type name opening parameters closing body =>
    refine .asList ?_
    rintro parameters rfl
    refine .of_count _ (fun id => ?_) (keeps_functionNode type name parameters body)
    grind
  case h_3 => exact .wrongCount

/-- A unit takes each declaration below its node, which it makes for the first. -/
theorem tidy_translationUnit : BuildAction.Tidy translationUnit := by
  intro values
  unfold translationUnit
  split
  case h_1 item =>
    refine .asNode ?_
    rintro item rfl
    refine .branch fun id => ?_
    exact .node
  case h_2 unit item =>
    refine .asNode ?_
    rintro unit rfl
    refine .asNode ?_
    rintro item rfl
    refine .push ?_
    exact .node
  case h_3 => exact .wrongCount

/-- Every action of the grammar is tidy. -/
theorem tidy_of_mem_rules :
    ∀ rule ∈ rules, ∀ action, rule.action = some action → action.Tidy := by
  simp only [rules, List.forall_mem_cons, Option.some.injEq, forall_eq', reduceCtorEq,
    false_imp_iff, List.not_mem_nil]
  exact ⟨tidy_varExpr, tidy_constant, tidy_primaryExpression, tidy_keywordLeaf "Type",
    tidy_postfixExpression, tidy_listRule, tidy_unaryExpression, tidy_expression,
    tidy_keywordLeaf "Qualifier", tidy_fullySpecifiedType, tidy_declaration, tidy_parameter,
    tidy_listRule, tidy_listRule, tidy_compoundStatement, tidy_statement, tidy_functionDefinition,
    fun _ => trivial, tidy_translationUnit, fun _ => trivial⟩

end ShaderSyntax.Shader
