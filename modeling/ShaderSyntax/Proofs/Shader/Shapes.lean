import ShaderSyntax.Proofs.Shader.Constants
import ShaderSyntax.Proofs.Shader.Gathering
import ShaderSyntax.Proofs.Shader.Stack
import ShaderSyntax.Shader.Grammar

/-!
# The actions fit the shader grammar

Each symbol of the grammar stands for values of one form (`Shader.shapeOf`). An action is handed the
values of an alternative and sees only how many there are; on values of the forms of its rule's
alternatives it succeeds, with a value of the form of the left-hand side, below which all the nodes
lie that the values own (`Shader.BuildAction.Yields`). This is shown for each number of values that
an action knows, with whatever kinds of tokens; the rows of the grammar are among these
(`Shader.typed_of_mem_rules`). Only the action for constants may fail, on a text that denotes no
value of its kind (`Shader.reduceValue_of_shapes`).
-/

set_option autoImplicit false

namespace ShaderSyntax.Shader

open SyntaxTree

/-- The forms of values. -/
inductive Shape where
  | empty
  | token (kind : String)
  | node
  | list
  deriving DecidableEq, Repr

/-- A value has a form. -/
inductive Value.HasShape : Value → Shape → Prop
  | empty : HasShape .empty .empty
  | token (kind text : String) (line : Nat) : HasShape (.token kind text line) (.token kind)
  | node (id : NodeId) : HasShape (.node id) .node
  | list (ids : List NodeId) : HasShape (.list ids) .list

/-- The symbols that stand for lists. -/
def listSymbols : List String := ["argument_list", "parameter_list", "statement_list"]

/-- The form of the values that a symbol stands for: nothing for what recovery gave up, a list or a
node for what a rule makes, and otherwise a token of that kind. -/
def shapeOf (symbol : String) : Shape :=
  if symbol = "error" then .empty
  else if listSymbols.contains symbol then .list
  else if (rules.map Rule.lhs).contains symbol then .node
  else .token symbol

/-- A property holds of all lists of values of forms in a row. -/
def ForEach : List Shape → (List Value → Prop) → Prop
  | [], holds => holds []
  | .empty :: row, holds => ForEach row fun values => holds (.empty :: values)
  | .token kind :: row, holds =>
    ∀ text line, ForEach row fun values => holds (.token kind text line :: values)
  | .node :: row, holds => ∀ id, ForEach row fun values => holds (.node id :: values)
  | .list :: row, holds => ∀ ids, ForEach row fun values => holds (.list ids :: values)

/-- A property of all values of forms in a row holds of the given ones. -/
theorem ForEach.elim {row : List Shape} {holds : List Value → Prop} (each : ForEach row holds)
    {values : List Value} (shaped : List.Forall₂ Value.HasShape values row) : holds values := by
  induction shaped generalizing holds with
  | nil => exact each
  | cons first rest ih =>
    cases first with
    | empty => exact ih each
    | token kind text line => exact ih (each text line)
    | node id => exact ih (each id)
    | list ids => exact ih (each ids)

/-- On values of forms in a row an action succeeds with a value of a form, and loses no node. -/
def BuildAction.Yields (action : BuildAction) (row : List Shape) (result : Shape) : Prop :=
  ∀ values, List.Forall₂ Value.HasShape values row →
    Gathers (action values) (values.flatMap Value.ids) Value.ids (Value.HasShape · result)

/-- An action yields a form if it gathers the nodes of all values of forms in the row. -/
theorem yields_of_each {action : BuildAction} {row : List Shape} {result : Shape}
    (each : ForEach row fun values =>
      Gathers (action values) (values.flatMap Value.ids) Value.ids (Value.HasShape · result)) :
    action.Yields row result :=
  fun _ shaped => each.elim shaped

/-! ## Rows of values, action by action -/

variable {action : BuildAction} {a b c d : String}

/-- A new node with children is a node that gathers them. -/
theorem gathers_branchNode {kind : String} {children : List NodeId} :
    Gathers (branch kind children >>= fun id => pure (Value.node id)) children Value.ids
      (Value.HasShape · .node) := by
  refine .of_count (children ++ []) (fun id => by rw [List.append_nil]) ?_
  refine .bind .branch fun id _ => ?_
  exact .pure rfl (.node id)

/-- An action that passes on its only value yields a node for a node. -/
theorem yields_pass (passes : ∀ value, action [value] = pure value) :
    action.Yields [.node] .node := by
  refine yields_of_each ?_
  intro id
  show Gathers (action [.node id]) _ _ _
  rw [passes]
  exact .pure rfl (.node id)

/-- A variable yields a node. -/
theorem yields_varExpr : BuildAction.Yields varExpr [.token a] .node := by
  refine yields_of_each ?_
  intro text line
  refine .of_count [] (fun id => by grind) ?_
  refine .bind .nameLeaf fun id _ => ?_
  exact .pure rfl (.node id)

/-- A node between parentheses is passed on. -/
theorem yields_parentheses :
    BuildAction.Yields primaryExpression [.token a, .node, .token b] .node := by
  refine yields_of_each ?_
  intro _ _ id _ _
  exact .pure rfl (.node id)

/-- A keyword yields a node. -/
theorem yields_keywordLeaf {kind : String} :
    BuildAction.Yields (keywordLeaf kind) [.token a] .node := by
  refine yields_of_each ?_
  intro text line
  refine .of_count [] (fun id => by grind) ?_
  refine .asToken ?_
  refine .bind (.create fun _ => ⟨_, _, _, rfl⟩) fun id _ => ?_
  exact .pure rfl (.node id)

/-- A postfix operator yields a node above its operand. -/
theorem yields_increment : BuildAction.Yields postfixExpression [.node, .token a] .node := by
  refine yields_of_each ?_
  intro e text line
  refine .of_count [e] (fun id => by grind) ?_
  refine .asToken ?_
  refine .bind (.create fun _ => ⟨_, _, _, rfl⟩) fun id _ => ?_
  refine .asNode ?_
  refine .bind .push fun _ _ => ?_
  exact .pure rfl (.node id)

/-- A call without arguments yields a node above what is called. -/
theorem yields_emptyCall :
    BuildAction.Yields postfixExpression [.node, .token a, .token b] .node := by
  refine yields_of_each ?_
  intro f _ _ _ _
  refine .of_count [f] (fun id => by grind) ?_
  refine .asNode ?_
  exact gathers_branchNode

/-- An index yields a node above both of its operands. -/
theorem yields_index :
    BuildAction.Yields postfixExpression [.node, .token "LSBRACKET", .node, .token a] .node := by
  refine yields_of_each ?_
  intro head text line inner _ _
  refine .of_count [head, inner] (fun id => by grind) ?_
  refine .asNode (.asToken ?_)
  dsimp only
  rw [if_pos rfl]
  refine .asNode ?_
  exact gathers_branchNode

/-- A call or a constructor, whatever the node of the head is. -/
theorem yields_call (other : a ≠ "LSBRACKET") :
    BuildAction.Yields postfixExpression [.node, .token a, .list, .token b] .node := by
  refine yields_of_each ?_
  intro head text line arguments _ _
  refine .of_count (head :: arguments) (fun id => by grind) ?_
  refine .asNode (.asToken ?_)
  dsimp only
  rw [if_neg other]
  refine .bind .get fun tree _ => ?_
  refine .asList ?_
  exact gathers_branchNode

/-- One item yields a list. -/
theorem yields_listOfOne : BuildAction.Yields listRule [.node] .list := by
  refine yields_of_each ?_
  intro x
  refine .asNode ?_
  exact .pure rfl (.list [x])

/-- A list with an item behind it yields a list of all. -/
theorem yields_listWithNext : BuildAction.Yields listRule [.list, .node] .list := by
  refine yields_of_each ?_
  intro items x
  refine .of_count (items ++ [x]) (fun id => by grind) ?_
  refine .asList (.asNode ?_)
  exact .pure rfl (.list (items ++ [x]))

/-- A list with a separator and an item behind it yields a list of all. -/
theorem yields_listWithSeparated :
    BuildAction.Yields listRule [.list, .token a, .node] .list := by
  refine yields_of_each ?_
  intro items _ _ x
  refine .of_count (items ++ [x]) (fun id => by grind) ?_
  refine .asList (.asNode ?_)
  exact .pure rfl (.list (items ++ [x]))

/-- A unary operator yields a node above its operand. -/
theorem yields_unary : BuildAction.Yields unaryExpression [.token a, .node] .node := by
  refine yields_of_each ?_
  intro text line e
  refine .of_count [e] (fun id => by grind) ?_
  refine .asToken ?_
  refine .bind (.create fun _ => ⟨_, _, _, rfl⟩) fun id _ => ?_
  refine .asNode ?_
  refine .bind .push fun _ _ => ?_
  exact .pure rfl (.node id)

/-- A binary operator yields a node above both operands. -/
theorem yields_binary : BuildAction.Yields expression [.node, .token a, .node] .node := by
  refine yields_of_each ?_
  intro lhs text line rhs
  refine .of_count [lhs, rhs] (fun id => by grind) ?_
  refine .asToken ?_
  refine .bind (.create fun _ => ⟨_, _, _, rfl⟩) fun id _ => ?_
  refine .asNode ?_
  refine .bind .push fun _ _ => ?_
  refine .asNode ?_
  refine .bind .push fun _ _ => ?_
  exact .pure rfl (.node id)

/-- A qualified type yields the node of the type, with the qualifier below it. -/
theorem yields_qualified : BuildAction.Yields fullySpecifiedType [.node, .node] .node := by
  refine yields_of_each ?_
  intro qualifier type
  refine .of_count [type, qualifier] (fun id => by grind) ?_
  refine .asNode (.asNode ?_)
  refine .bind .insert fun _ _ => ?_
  exact .pure rfl (.node type)

/-- A declaration yields a node above its type. -/
theorem yields_declaration :
    BuildAction.Yields declaration [.node, .token a, .token b] .node := by
  refine yields_of_each ?_
  intro type _ _ _ _
  refine .of_count [type] (fun id => by grind) ?_
  refine .bind .nameLeaf fun name _ => ?_
  refine .asNode ?_
  refine .of_count [type, name] (fun id => by grind) ?_
  exact gathers_branchNode

/-- A declaration with an initial value yields a node above its type and the value. -/
theorem yields_initialised :
    BuildAction.Yields declaration [.node, .token a, .token b, .node, .token c] .node := by
  refine yields_of_each ?_
  intro type _ _ _ _ initial _ _
  refine .of_count [type, initial] (fun id => by grind) ?_
  refine .bind .nameLeaf fun name _ => ?_
  refine .asNode (.asNode ?_)
  refine .of_count [type, name, initial] (fun id => by grind) ?_
  exact gathers_branchNode

/-- A declaration of an array yields a node above its type and its size. -/
theorem yields_array :
    BuildAction.Yields declaration [.node, .token a, .token b, .node, .token c, .token d]
      .node := by
  refine yields_of_each ?_
  intro type _ _ _ _ size _ _ _ _
  refine .of_count [size, type] (fun id => by grind) ?_
  refine .bind .nameLeaf fun name _ => ?_
  refine .asNode ?_
  refine .of_count ([size] ++ [name, type]) (fun id => by grind) ?_
  refine .bind .branch fun size _ => ?_
  refine .asNode ?_
  refine .of_count [type, name, size] (fun id => by grind) ?_
  exact gathers_branchNode

/-- A parameter yields a node above its type. -/
theorem yields_parameter : BuildAction.Yields parameter [.node, .token a] .node := by
  refine yields_of_each ?_
  intro type _ _
  refine .of_count [type] (fun id => by grind) ?_
  refine .bind .nameLeaf fun name _ => ?_
  refine .asNode ?_
  refine .of_count [type, name] (fun id => by grind) ?_
  exact gathers_branchNode

/-- A block without statements yields a node. -/
theorem yields_emptyBlock : BuildAction.Yields compoundStatement [.token a, .token b] .node := by
  refine yields_of_each ?_
  intro _ _ _ _
  refine .of_count [] (fun id => by grind) ?_
  exact gathers_branchNode

/-- A block yields a node above its statements. -/
theorem yields_block :
    BuildAction.Yields compoundStatement [.token a, .list, .token b] .node := by
  refine yields_of_each ?_
  intro _ _ statements _ _
  refine .of_count statements (fun id => by grind) ?_
  refine .asList ?_
  exact gathers_branchNode

/-- An expression as a statement yields a node above it. -/
theorem yields_expressionStatement :
    BuildAction.Yields statement [.node, .token a] .node := by
  refine yields_of_each ?_
  intro e _ _
  refine .of_count [e] (fun id => by grind) ?_
  exact gathers_branchNode

/-- A return without value yields a node. -/
theorem yields_return : BuildAction.Yields statement [.token a, .token b] .node := by
  refine yields_of_each ?_
  intro _ _ _ _
  refine .of_count [] (fun id => by grind) ?_
  refine .bind (.create fun _ => ⟨_, _, _, rfl⟩) fun id _ => ?_
  exact .pure rfl (.node id)

/-- A return yields a node above its value. -/
theorem yields_returnValue :
    BuildAction.Yields statement [.token a, .node, .token b] .node := by
  refine yields_of_each ?_
  intro _ _ e _ _
  refine .of_count [e] (fun id => by grind) ?_
  refine .asNode ?_
  exact gathers_branchNode

/-- What recovery gave up yields a node. -/
theorem yields_error : BuildAction.Yields statement [.empty, .token a] .node := by
  refine yields_of_each ?_
  intro _ _
  refine .of_count [] (fun id => by grind) ?_
  refine .bind (.create fun _ => ⟨_, _, _, rfl⟩) fun id _ => ?_
  exact .pure rfl (.node id)

/-- The node of a function gathers its parameters, its type and its body. -/
theorem gathers_functionNode (type body : NodeId) (parameters : List NodeId) (text : String)
    (line : Nat) :
    Gathers (functionNode (.node type) (.token a text line) parameters (.node body))
      (parameters ++ [type, body]) Value.ids (Value.HasShape · .node) := by
  refine .bind .nameLeaf fun name _ => ?_
  refine .of_count (parameters ++ [name, type, body]) (fun id => by grind) ?_
  refine .bind .branch fun parameters _ => ?_
  refine .asNode (.asNode ?_)
  refine .of_count [type, name, parameters, body] (fun id => by grind) ?_
  exact gathers_branchNode

/-- A function without parameters yields a node above its type and its body. -/
theorem yields_function :
    BuildAction.Yields functionDefinition [.node, .token a, .token b, .token c, .node] .node := by
  refine yields_of_each ?_
  intro type _ _ _ _ _ _ body
  exact gathers_functionNode type body [] _ _

/-- A function with parameters yields a node above all its parts. -/
theorem yields_functionOf :
    BuildAction.Yields functionDefinition
      [.node, .token a, .token b, .list, .token c, .node] .node := by
  refine yields_of_each ?_
  intro type _ _ _ _ parameters _ _ body
  refine .of_count (parameters ++ [type, body]) (fun id => by grind) ?_
  refine .asList ?_
  exact gathers_functionNode type body parameters _ _

/-- The first declaration of a unit yields a node above it. -/
theorem yields_unitOfOne : BuildAction.Yields translationUnit [.node] .node := by
  refine yields_of_each ?_
  intro item
  refine .of_count [item] (fun id => by grind) ?_
  refine .asNode ?_
  exact gathers_branchNode

/-- A unit with a declaration behind it yields the unit's node, with the declaration below it. -/
theorem yields_unitWithNext : BuildAction.Yields translationUnit [.node, .node] .node := by
  refine yields_of_each ?_
  intro unit item
  refine .asNode (.asNode ?_)
  refine .bind .push fun _ _ => ?_
  exact .pure rfl (.node unit)

/-! ## The rows of the grammar -/

/-- Passes on the first value, as the parser does for a rule without action. -/
def passOn : BuildAction :=
  fun values => return values.head?.getD StackValue.empty

/-- The action of a rule, or what the parser does without one. -/
def Rule.build (rule : Rule) : BuildAction :=
  rule.action.getD passOn

/-- The forms of the symbols of each alternative of a rule. -/
def Rule.rows (rule : Rule) : List (List Shape) :=
  rule.alternatives.map fun alternative => alternative.map shapeOf

/-- What a rule's action yields on all rows of the rule. -/
def Rule.Typed (rule : Rule) : Prop :=
  ∀ row ∈ rule.rows, rule.build.Yields row (shapeOf rule.lhs)

/-- The forms of left-hand sides and the rows of the rules, written out. -/
theorem rows_of_rules : rules.map (fun rule => (shapeOf rule.lhs, rule.rows)) = [
    (.node, [[.token "ID"]]),
    (.node, [[.token "INTCONSTANT"], [.token "UINTCONSTANT"], [.token "FLOATCONSTANT"],
      [.token "DOUBLECONSTANT"], [.token "BOOLCONSTANT"], [.token "STRLIT"]]),
    (.node, [[.node], [.node], [.token "LPAREN", .node, .token "RPAREN"]]),
    (.node, typeKeywords.map fun keyword => [.token keyword]),
    (.node, [[.node], [.node, .token "LSBRACKET", .node, .token "RSBRACKET"],
      [.node, .token "LPAREN", .token "RPAREN"], [.node, .token "LPAREN", .list, .token "RPAREN"],
      [.node, .token "LPAREN", .list, .token "RPAREN"], [.node, .token "INC"],
      [.node, .token "DEC"]]),
    (.list, [[.node], [.list, .token "COMMA", .node]]),
    (.node, [.node] :: unaryOperators.map fun op => [.token op, .node]),
    (.node, [.node] :: binaryOperators.map fun op => [.node, .token op, .node]),
    (.node, qualifiers.map fun keyword => [.token keyword]),
    (.node, [[.node], [.node, .node]]),
    (.node, [[.node, .token "ID", .token "SEMICOLON"],
      [.node, .token "ID", .token "ASSIGN", .node, .token "SEMICOLON"],
      [.node, .token "ID", .token "LSBRACKET", .node, .token "RSBRACKET", .token "SEMICOLON"]]),
    (.node, [[.node, .token "ID"]]),
    (.list, [[.node], [.list, .token "COMMA", .node]]),
    (.list, [[.node], [.list, .node]]),
    (.node, [[.token "LBRACKET", .token "RBRACKET"],
      [.token "LBRACKET", .list, .token "RBRACKET"]]),
    (.node, [[.node], [.node, .token "SEMICOLON"], [.node], [.token "RETURN", .token "SEMICOLON"],
      [.token "RETURN", .node, .token "SEMICOLON"], [.empty, .token "SEMICOLON"]]),
    (.node, [[.node, .token "ID", .token "LPAREN", .token "RPAREN", .node],
      [.node, .token "ID", .token "LPAREN", .list, .token "RPAREN", .node]]),
    (.node, [[.node], [.node]]),
    (.node, [[.node], [.node, .node]])] := by
  decide +kernel

/-- A rule is typed if its action yields the form of its left-hand side on all its rows. -/
theorem typed_of_rows {rule : Rule} {result : Shape} {rows : List (List Shape)}
    (same : (shapeOf rule.lhs, rule.rows) = (result, rows))
    (yields : ∀ row ∈ rows, rule.build.Yields row result) : rule.Typed := by
  obtain ⟨rfl, rfl⟩ := Prod.mk.inj same
  exact yields

/-- Every rule but the one for constants yields what its left-hand side stands for. -/
theorem typed_of_mem_rules : ∀ rule ∈ rules, rule.lhs = "constant" ∨ rule.Typed := by
  have table := rows_of_rules
  simp only [rules, List.map_cons, List.cons.injEq] at table
  obtain ⟨var_expr, -, primary, type, applied, arguments, unary, binary, qualifier, specified,
    declared, parameter, parameters, statements, block, statement, function, external, unit, -⟩ :=
    table
  simp only [rules, List.forall_mem_cons]
  refine ⟨.inr (typed_of_rows var_expr ?_), .inl trivial, .inr (typed_of_rows primary ?_),
    .inr (typed_of_rows type ?_), .inr (typed_of_rows applied ?_),
    .inr (typed_of_rows arguments ?_), .inr (typed_of_rows unary ?_),
    .inr (typed_of_rows binary ?_), .inr (typed_of_rows qualifier ?_),
    .inr (typed_of_rows specified ?_), .inr (typed_of_rows declared ?_),
    .inr (typed_of_rows parameter ?_), .inr (typed_of_rows parameters ?_),
    .inr (typed_of_rows statements ?_), .inr (typed_of_rows block ?_),
    .inr (typed_of_rows statement ?_), .inr (typed_of_rows function ?_),
    .inr (typed_of_rows external ?_), .inr (typed_of_rows unit ?_), List.forall_mem_nil _⟩
  -- rule by rule, one lemma for each row and one for each family of rows
  all_goals simp only [List.forall_mem_cons, List.forall_mem_map]
  · exact ⟨yields_varExpr, List.forall_mem_nil _⟩
  · exact ⟨yields_pass fun _ => rfl, yields_pass fun _ => rfl, yields_parentheses,
      List.forall_mem_nil _⟩
  · exact fun _ _ => yields_keywordLeaf
  · exact ⟨yields_pass fun _ => rfl, yields_index, yields_emptyCall, yields_call (by decide),
      yields_call (by decide), yields_increment, yields_increment, List.forall_mem_nil _⟩
  · exact ⟨yields_listOfOne, yields_listWithSeparated, List.forall_mem_nil _⟩
  · exact ⟨yields_pass fun _ => rfl, fun _ _ => yields_unary⟩
  · exact ⟨yields_pass fun _ => rfl, fun _ _ => yields_binary⟩
  · exact fun _ _ => yields_keywordLeaf
  · exact ⟨yields_pass fun _ => rfl, yields_qualified, List.forall_mem_nil _⟩
  · exact ⟨yields_declaration, yields_initialised, yields_array, List.forall_mem_nil _⟩
  · exact ⟨yields_parameter, List.forall_mem_nil _⟩
  · exact ⟨yields_listOfOne, yields_listWithSeparated, List.forall_mem_nil _⟩
  · exact ⟨yields_listOfOne, yields_listWithNext, List.forall_mem_nil _⟩
  · exact ⟨yields_emptyBlock, yields_block, List.forall_mem_nil _⟩
  · exact ⟨yields_pass fun _ => rfl, yields_expressionStatement, yields_pass fun _ => rfl,
      yields_return, yields_returnValue, yields_error, List.forall_mem_nil _⟩
  · exact ⟨yields_function, yields_functionOf, List.forall_mem_nil _⟩
  · exact ⟨yields_pass fun _ => rfl, yields_pass fun _ => rfl, List.forall_mem_nil _⟩
  · exact ⟨yields_unitOfOne, yields_unitWithNext, List.forall_mem_nil _⟩

/-! ## Constants -/

/-- The rule for constants has the action for constants, and alternatives of one token. -/
theorem constant_of_mem_rules : ∀ rule ∈ rules, rule.lhs = "constant" →
    rule.build = constant ∧ ∀ row ∈ rule.rows, ∃ kind, row = [.token kind] := by
  have table := rows_of_rules
  simp only [rules, List.map_cons, List.cons.injEq] at table
  obtain ⟨-, row, -⟩ := table
  have tokens := (Prod.mk.inj row).2
  have alone : ∀ rule ∈ rules, rule.lhs = "constant" → rule = ⟨"constant",
      [["INTCONSTANT"], ["UINTCONSTANT"], ["FLOATCONSTANT"], ["DOUBLECONSTANT"],
        ["BOOLCONSTANT"], ["STRLIT"]], some constant⟩ := by
    simp [rules]
  intro rule listed named
  obtain rfl := alone rule listed named
  refine ⟨rfl, ?_⟩
  rw [tokens]
  simp

/-- On a text that denotes a value the action for constants gives a new leaf. -/
theorem gathers_constant {kind text : String} {line : Nat} (denotes : Denotes kind text) :
    Gathers (constant [.token kind text line]) [] Value.ids (Value.HasShape · .node) := by
  obtain ⟨⟨leafKind, value⟩, read⟩ := (exists_readConstant_iff kind text).mpr denotes
  intro tree rest forest loose
  refine ⟨.node tree.size, (tree.leaf leafKind value).2, ?_, .node _,
    forest.add leafKind (some value) none, loose.add leafKind (some value) none,
    extends_add leafKind (some value) none, nofun⟩
  rw [run_constant, read]

/-- On any other text it fails and changes nothing. -/
theorem constant_fails {kind text : String} {line : Nat} (nothing : ¬Denotes kind text)
    (tree : SyntaxTree) :
    ∃ error, (constant [.token kind text line]).run tree = (.error error, tree) := by
  rw [run_constant]
  cases read : readConstant kind text with
  | ok leaf => exact absurd ((exists_readConstant_iff kind text).mp ⟨leaf, read⟩) nothing
  | error error => exact ⟨error, rfl⟩

/-! ## Reductions -/

/-- A reduction succeeds with a value of a form, and no node is lost: it leaves a forest with all
the links there were, in which the nodes of the value are loose and all nodes that the arguments own
lie below them. -/
def Reduces (engine : Engine SyntaxTree Value) (production : Nat) (tree : SyntaxTree)
    (values : List Value) (result : Shape) : Prop :=
  ∃ value later, engine.reduceValue production tree values = (.ok value, later) ∧
    value.HasShape result ∧ later.Forest ∧ later.Extends tree ∧ later.Loose value.ids ∧
    ∀ id ∈ values.flatMap Value.ids, ∃ root ∈ value.ids, later.Below root id

/-- The values are those of a constant, and its text denotes no value of its kind. -/
def Undenoted (rule : Rule) (values : List Value) : Prop :=
  rule.lhs = "constant" ∧
    ∃ kind text line, values = [.token kind text line] ∧ ¬Denotes kind text

section Reductions

variable {rule : Rule} {engine : Engine SyntaxTree Value} {production : Nat} {tree : SyntaxTree}
  {values : List Value} {result : Shape}

/-- The value of a production is what its rule's action makes of the values. -/
theorem reduceValue_eq
    (acts : engine.action? production = rule.action.map BuildAction.toSemantic) :
    engine.reduceValue production tree values =
      (((rule.build values).run tree).1.mapError ActionError.message,
        ((rule.build values).run tree).2) := by
  rw [Engine.reduceValue, acts, Rule.build]
  cases rule.action <;> rfl

/-- A reduction whose action gathers the nodes of its values loses none. -/
theorem reduces_of_gathers
    (acts : engine.action? production = rule.action.map BuildAction.toSemantic)
    (forest : tree.Forest) (loose : tree.Loose (values.flatMap Value.ids))
    (gathers : Gathers (rule.build values) (values.flatMap Value.ids) Value.ids
      (Value.HasShape · result)) :
    Reduces engine production tree values result := by
  rw [← List.append_nil (values.flatMap Value.ids)] at loose
  obtain ⟨value, later, run, gathered⟩ := gathers tree [] forest loose
  refine ⟨value, later, ?_, gathered.good, gathered.forest, gathered.extend, ?_,
    gathered.covers⟩
  · rw [reduceValue_eq acts, run]
    rfl
  · have loose := gathered.loose
    rwa [List.append_nil] at loose

/-- The actions fit the grammar. For each alternative of each rule, the rule's action succeeds on
values of the forms of the alternative's symbols whose nodes are loose in a forest, with a value of
the form of the left-hand side, and no node is lost; except that the action for constants fails on a
text that denotes no value of the kind of its token, and then changes nothing. -/
theorem reduceValue_of_shapes (listed : rule ∈ rules) {alternative : List String}
    (among : alternative ∈ rule.alternatives)
    (acts : engine.action? production = rule.action.map BuildAction.toSemantic)
    (forest : tree.Forest) (loose : tree.Loose (values.flatMap Value.ids))
    (shaped : List.Forall₂ Value.HasShape values (alternative.map shapeOf)) :
    (¬Undenoted rule values → Reduces engine production tree values (shapeOf rule.lhs)) ∧
      (Undenoted rule values →
        ∃ text, engine.reduceValue production tree values = (.error text, tree)) := by
  have row : alternative.map shapeOf ∈ rule.rows := List.mem_map_of_mem among
  by_cases named : rule.lhs = "constant"
  · -- the values are one token, and its text decides
    obtain ⟨build, tokens⟩ := constant_of_mem_rules rule listed named
    obtain ⟨kind, same⟩ := tokens _ row
    rw [same] at shaped
    obtain ⟨value, _, form, nothing, rfl⟩ := List.forall₂_cons_right_iff.mp shaped
    obtain rfl := List.forall₂_nil_right_iff.mp nothing
    obtain ⟨text, line, rfl⟩ : ∃ text line, value = .token kind text line := by
      cases form
      exact ⟨_, _, rfl⟩
    by_cases denotes : Denotes kind text
    · refine ⟨fun _ => reduces_of_gathers acts forest loose ?_, ?_⟩
      · rw [build, named, show shapeOf "constant" = .node by decide +kernel]
        exact gathers_constant denotes
      · rintro ⟨-, _, _, _, same, nothing⟩
        obtain ⟨rfl, rfl, -⟩ := Value.token.inj (List.cons.inj same).1
        exact absurd denotes nothing
    · obtain ⟨error, run⟩ := @constant_fails kind text line denotes tree
      refine ⟨fun denoted => absurd ⟨named, kind, text, line, rfl, denotes⟩ denoted, fun _ => ?_⟩
      rw [reduceValue_eq acts, build, run]
      exact ⟨error.message, rfl⟩
  · refine ⟨fun _ => ?_, fun undenoted => absurd undenoted.1 named⟩
    have typed := (typed_of_mem_rules rule listed).resolve_left named
    exact reduces_of_gathers acts forest loose (typed _ row values shaped)

end Reductions

/-- Three nodes without parents, the first of them a type. -/
def threeNodes : SyntaxTree :=
  .after [.newNode "Type", .newNode "Block", .newNode "Block"]

/-- An engine with the actions for postfix expressions and for constants. -/
def smallEngine : Engine SyntaxTree Value where
  lexer := ⟨[]⟩
  tables := Frontend.nameTables
  actions := [none, some (BuildAction.toSemantic postfixExpression),
    some (BuildAction.toSemantic constant)]
  options := .standard

/-- A constructor with two arguments, and an integer constant of more than 64 bits. -/
theorem reduceValue_of_shapes_constructor :
    threeNodes.Forest ∧ threeNodes.Loose [0, 1, 2] ∧
      Reduces smallEngine 1 threeNodes
        [.node 0, .token "LPAREN" "(" 1, .list [1, 2], .token "RPAREN" ")" 1] .node ∧
      ∃ text, smallEngine.reduceValue 2 threeNodes
        [.token "INTCONSTANT" "9223372036854775808" 1] = (.error text, threeNodes) := by
  have forest : threeNodes.Forest := forest_after _
  have loose : threeNodes.Loose [0, 1, 2] := ⟨by decide, by decide, by decide⟩
  obtain ⟨call, at_4, acts, named, among⟩ : ∃ rule, rules[4]? = some rule ∧
      rule.action = some postfixExpression ∧ rule.lhs = "postfix_expression" ∧
      ["type_specifier", "LPAREN", "argument_list", "RPAREN"] ∈ rule.alternatives :=
    ⟨_, rfl, rfl, rfl, by decide +kernel⟩
  obtain ⟨number, at_1, acts_1, named_1, among_1⟩ : ∃ rule, rules[1]? = some rule ∧
      rule.action = some constant ∧ rule.lhs = "constant" ∧
      ["INTCONSTANT"] ∈ rule.alternatives := ⟨_, rfl, rfl, rfl, by decide +kernel⟩
  have forms : ["type_specifier", "LPAREN", "argument_list", "RPAREN"].map shapeOf =
      [.node, .token "LPAREN", .list, .token "RPAREN"] ∧
      ["INTCONSTANT"].map shapeOf = [.token "INTCONSTANT"] ∧
      shapeOf "postfix_expression" = .node := by
    decide +kernel
  obtain ⟨call_forms, number_forms, node⟩ := forms
  refine ⟨forest, loose, ?_, ?_⟩
  · have owned : threeNodes.Loose (List.flatMap Value.ids
        [.node 0, .token "LPAREN" "(" 1, .list [1, 2], .token "RPAREN" ")" 1]) := loose
    rw [← node, ← named]
    refine (reduceValue_of_shapes (List.mem_of_getElem? at_4) among (acts ▸ rfl) forest owned
      ?_).1 ?_
    · rw [call_forms]
      exact .cons (.node 0) (.cons (.token _ _ _) (.cons (.list _) (.cons (.token _ _ _) .nil)))
    · rintro ⟨constant, -⟩
      rw [named] at constant
      exact absurd constant (by decide)
  · have owned : threeNodes.Loose (List.flatMap Value.ids
        [.token "INTCONSTANT" "9223372036854775808" 1]) := .nil
    refine (reduceValue_of_shapes (List.mem_of_getElem? at_1) among_1 (acts_1 ▸ rfl) forest
      owned ?_).2 ?_
    · rw [number_forms]
      exact .cons (.token _ _ _) .nil
    · refine ⟨named_1, _, _, _, rfl, ?_⟩
      have fails : (readConstant "INTCONSTANT" "9223372036854775808").toOption.isNone = true := by
        decide +kernel
      rw [← exists_readConstant_iff]
      rintro ⟨leaf, read⟩
      rw [read] at fails
      contradiction

end ShaderSyntax.Shader
