import ShaderSyntax.Proofs.Parse.Trail

/-!
# What the stack holds

A parser whose actions build trees shows what becomes of every token: it is a leaf of a tree on the
stack, unless a recovery cut it off. The main statement says this of every configuration that a
parse comes through, for any tables (`Engine.stack_of_trail`): the leaves on the stack are shifted
tokens in their order, the nodes are listed in the order of the reductions that made them, and
without a recovery nothing is missing. The invariant is `Account`; a move keeps it
(`Engine.account_of_moved`).
-/

set_option autoImplicit false

namespace ShaderSyntax

/-- What a parse makes of its tokens: a shifted token, nothing, or a production over the trees of
its right-hand side. -/
inductive ParseTree where
  | leaf (token : Token)
  | empty
  | node (production : Nat) (children : List ParseTree)

/-- Derivation trees are values: a token is a leaf, and the empty tree stands for nothing. -/
instance : StackValue ParseTree := ⟨.leaf, .empty⟩

namespace ParseTree

mutual

/-- The tokens of a tree from left to right. -/
def leaves : ParseTree → List Token
  | .leaf token => [token]
  | .empty => []
  | .node _ children => leavesOfAll children

/-- The tokens of trees from left to right. -/
def leavesOfAll : List ParseTree → List Token
  | [] => []
  | tree :: trees => leaves tree ++ leavesOfAll trees

end

mutual

/-- The productions of a tree's nodes, each behind those of its children. -/
def labels : ParseTree → List Nat
  | .leaf _ => []
  | .empty => []
  | .node production children => labelsOfAll children ++ [production]

/-- The productions of the nodes of trees, tree after tree. -/
def labelsOfAll : List ParseTree → List Nat
  | [] => []
  | tree :: trees => labels tree ++ labelsOfAll trees

end

/-- The leaves of trees in a row are those of each tree in turn. -/
theorem leavesOfAll_eq (trees : List ParseTree) : leavesOfAll trees = trees.flatMap leaves := by
  induction trees with
  | nil => rfl
  | cons tree trees ih => rw [leavesOfAll, ih, List.flatMap_cons]

/-- The labels of trees in a row are those of each tree in turn. -/
theorem labelsOfAll_eq (trees : List ParseTree) : labelsOfAll trees = trees.flatMap labels := by
  induction trees with
  | nil => rfl
  | cons tree trees ih => rw [labelsOfAll, ih, List.flatMap_cons]

/-- Every node has as many children as its production has symbols on its right-hand side. -/
inductive WellFormed (tables : TableBundle) : ParseTree → Prop
  | leaf (token : Token) : WellFormed tables (.leaf token)
  | empty : WellFormed tables .empty
  | node {production : Nat} {rule : Production} {children : List ParseTree}
      (known : tables.production production = some rule) (arity : children.length = rule.length)
      (each : ∀ child ∈ children, WellFormed tables child) :
      WellFormed tables (.node production children)

/-- The action that makes a node and notes its production. -/
def build (production : Nat) : SemanticAction (List Nat) ParseTree :=
  fun trace children => (.ok (.node production children), trace ++ [production])

end ParseTree

/-- The parser whose actions build trees. -/
def treeEngine (lexer : Lexer) (tables : TableBundle) (options : EngineOptions) :
    Engine (List Nat) ParseTree where
  lexer
  tables
  actions := (List.range tables.productions.length).map fun production =>
    some (ParseTree.build production)
  options

/-- Where an action is listed for every production, each but the goal has its own. -/
theorem Engine.action?_of_range {C V : Type} {engine : Engine C V} {count production : Nat}
    {act : Nat → SemanticAction C V}
    (listed : engine.actions = (List.range count).map fun production => some (act production))
    (inner : production ≠ 0) (inside : production < count) :
    engine.action? production = some (act production) := by
  simp [action?, listed, inner, inside]

/-- A production other than the goal makes a node of what it reduces. -/
theorem reduceValue_treeEngine {lexer : Lexer} {tables : TableBundle} {options : EngineOptions}
    {production : Nat} {rule : Production} (inner : production ≠ 0)
    (known : tables.production production = some rule) (trace : List Nat)
    (children : List ParseTree) :
    (treeEngine lexer tables options).reduceValue production trace children =
      (.ok (.node production children), trace ++ [production]) := by
  have inside : production < tables.productions.length :=
    (List.getElem?_eq_some_iff.mp known).1
  have action : (treeEngine lexer tables options).action? production =
      some (ParseTree.build production) := Engine.action?_of_range rfl inner inside
  simp [Engine.reduceValue, action, ParseTree.build]

/-- The tables of four productions: a goal, its statements in a row, each of them a name and a
semicolon, and an error in place of a name. -/
def statementTables : TableBundle where
  productions := [⟨0, 1⟩, ⟨5, 2⟩, ⟨5, 3⟩, ⟨5, 2⟩]
  actions := [[(3, .shift 2), (2, .shift 3)], [(1, .reduce 0), (3, .shift 4)], [(4, .shift 5)],
    [(4, .shift 6)], [(4, .shift 7)], [], [], []]
  gotos := [[(5, 1)], [], [], [], [], [], [], []]
  defaults := [none, none, none, none, none, some (.reduce 1), some (.reduce 3), some (.reduce 2)]
  labels := ["goal", "end", "error", "x", ";", "statements", "gap"]
  labelMap := LabelMap.ofLabels ["goal", "end", "error", "x", ";", "statements", "gap"]
  endSymbol := 1
  errorSymbol := 2
  skipSymbol := some 6
  records := [⟨0, 0, [5], ""⟩, ⟨1, 5, [3, 4], ""⟩, ⟨2, 5, [5, 3, 4], ""⟩, ⟨3, 5, [2, 4], ""⟩]
  hash := ""

/-- A token whose text is its kind. -/
def sampleToken (kind : String) : Token :=
  ⟨kind, kind, 0, ⟨Position.origin, Position.origin⟩⟩

/-- An input of tokens of the given kinds. -/
def sampleInput (kinds : List String) : List (Except Unmatched Token) :=
  kinds.map fun kind => .ok (sampleToken kind)

namespace TableBundle

variable {V : Type}

/-- The topmost frame of a stack whose state shifts the error symbol, with the frames above and
below it and the state that is entered. -/
structure CutsAt (tables : TableBundle) (stack upper : List (Frame V)) (frame : Frame V)
    (lower : List (Frame V)) (state : Nat) : Prop where
  stack_eq : stack = upper ++ frame :: lower
  shifts : tables.action frame.state tables.errorSymbol = some (.shift state)
  topmost : ∀ above ∈ upper, ∀ other,
    tables.action above.state tables.errorSymbol ≠ some (.shift other)

/-- The frame at which a stack is cut is one of its frames. -/
theorem CutsAt.mem {tables : TableBundle} {stack upper lower : List (Frame V)} {frame : Frame V}
    {state : Nat} (cuts : tables.CutsAt stack upper frame lower state) : frame ∈ stack := by
  rw [cuts.stack_eq]
  exact List.mem_append_right upper List.mem_cons_self

/-- Below a frame that does not shift the error symbol, a stack is cut as without this frame. -/
theorem CutsAt.cons {tables : TableBundle} {stack upper lower : List (Frame V)}
    {top frame : Frame V} {state : Nat} (cuts : tables.CutsAt stack upper frame lower state)
    (blocked : ∀ other, tables.action top.state tables.errorSymbol ≠ some (.shift other)) :
    tables.CutsAt (top :: stack) (top :: upper) frame lower state :=
  ⟨congrArg (top :: ·) cuts.stack_eq, cuts.shifts, List.forall_mem_cons.mpr ⟨blocked, cuts.topmost⟩⟩

/-- The stack is cut back to the topmost frame that shifts the error symbol, the bottom included. -/
theorem unwind_eq_some_iff {tables : TableBundle} {stack kept : List (Frame V)} {state : Nat} :
    tables.unwind stack = some (state, kept) ↔
      ∃ upper frame lower, tables.CutsAt stack upper frame lower state ∧ kept = frame :: lower := by
  induction stack with
  | nil =>
    refine iff_of_false (by simp [unwind]) ?_
    rintro ⟨upper, frame, lower, cuts, -⟩
    exact absurd cuts.mem List.not_mem_nil
  | cons top rest ih =>
    by_cases here : ∃ target, tables.action top.state tables.errorSymbol = some (.shift target)
    · obtain ⟨target, shifts⟩ := here
      simp only [unwind, shifts, Option.some.injEq, Prod.mk.injEq]
      constructor
      · rintro ⟨rfl, rfl⟩
        exact ⟨[], top, rest, ⟨rfl, shifts, by simp⟩, rfl⟩
      · rintro ⟨upper, frame, lower, cuts, rfl⟩
        cases upper with
        | nil =>
          obtain ⟨rfl, rfl⟩ := List.cons.inj cuts.stack_eq
          exact ⟨Action.shift.inj (Option.some.inj (shifts.symm.trans cuts.shifts)), rfl⟩
        | cons above upper =>
          obtain ⟨rfl, -⟩ := List.cons.inj cuts.stack_eq
          exact absurd shifts (cuts.topmost top List.mem_cons_self target)
    · have blocked := not_exists.mp here
      have below : tables.unwind (top :: rest) = tables.unwind rest := by
        rw [unwind]
        split
        case h_1 target shifts => exact absurd shifts (blocked target)
        case h_2 => rfl
      rw [below, ih]
      constructor
      · rintro ⟨upper, frame, lower, cuts, rfl⟩
        exact ⟨top :: upper, frame, lower, cuts.cons blocked, rfl⟩
      · rintro ⟨upper, frame, lower, cuts, rfl⟩
        cases upper with
        | nil =>
          obtain ⟨rfl, -⟩ := List.cons.inj cuts.stack_eq
          exact absurd cuts.shifts (blocked state)
        | cons above upper =>
          obtain ⟨-, same⟩ := List.cons.inj cuts.stack_eq
          refine ⟨upper, frame, lower, ⟨same, cuts.shifts, ?_⟩, rfl⟩
          exact fun each mem => cuts.topmost each (List.mem_cons_of_mem above mem)

/-- The frames that stay when the stack is cut back are the lower ones, and the topmost of them
shifts the error symbol. -/
theorem unwind_eq_some {tables : TableBundle} {frames kept : List (Frame V)} {state : Nat}
    (unwound : tables.unwind frames = some (state, kept)) :
    ∃ frame rest, kept = frame :: rest ∧ kept <:+ frames ∧
      tables.action frame.state tables.errorSymbol = some (.shift state) := by
  obtain ⟨upper, frame, lower, cuts, rfl⟩ := unwind_eq_some_iff.mp unwound
  refine ⟨frame, lower, rfl, ?_, cuts.shifts⟩
  rw [cuts.stack_eq]
  exact List.suffix_append upper (frame :: lower)

end TableBundle

namespace Frame

variable {V : Type}

/-- The states of a stack from the bottom to the top. -/
def states (frames : List (Frame V)) : List Nat :=
  frames.reverse.map Frame.state

/-- The values of a stack from the bottom to the top. -/
def values (frames : List (Frame V)) : List V :=
  frames.reverse.map Frame.value

/-- The value of the topmost frame is the last one. -/
theorem values_cons (frame : Frame V) (frames : List (Frame V)) :
    values (frame :: frames) = values frames ++ [frame.value] := by
  simp [values]

/-- The values of the lower frames come before those of the upper ones. -/
theorem values_append (upper lower : List (Frame V)) :
    values (upper ++ lower) = values lower ++ values upper := by
  simp [values]

/-- The popped values are those of the topmost frames. -/
theorem popped_eq {C L : Type} (c : Configuration C V L) (count : Nat) :
    c.popped count = values (c.stack.take count) := by
  unfold Configuration.popped values
  rw [List.map_reverse]

/-- The values of a stack are those below some frames and those in these frames. -/
theorem values_drop_append_take (frames : List (Frame V)) (count : Nat) :
    values (frames.drop count) ++ values (frames.take count) = values frames := by
  rw [← values_append, List.take_append_drop]

/-- A property of all values is one of the topmost value and of those below. -/
theorem forall_mem_values_cons {p : V → Prop} (frame : Frame V) (frames : List (Frame V)) :
    (∀ value ∈ values (frame :: frames), p value) ↔
      (∀ value ∈ values frames, p value) ∧ p frame.value := by
  rw [values_cons, List.forall_mem_append, List.forall_mem_singleton]

/-- A tree put in place of the values it was made of adds to a listing of the values what it adds to
the listing of those it was made of. -/
theorem listing_of_reduction {α : Type} {list : ParseTree → List α} {tree : ParseTree}
    {more : List α} (frames : List (Frame ParseTree)) (count state : Nat)
    (same : list tree = (values (frames.take count)).flatMap list ++ more) :
    (values (⟨state, tree⟩ :: frames.drop count)).flatMap list =
      (values frames).flatMap list ++ more := by
  rw [values_cons, ← values_drop_append_take frames count, List.flatMap_append,
    List.flatMap_append, List.flatMap_singleton, same, List.append_assoc]

/-- A listing of the values of a stack that was cut back, with an empty value on top, is a part of
the listing before, provided that an empty value adds nothing to it. -/
theorem listing_of_cut {α : Type} {list : ParseTree → List α} (nothing : list .empty = [])
    {kept frames : List (Frame ParseTree)} (cut : kept <:+ frames) (state : Nat) :
    ((values (⟨state, .empty⟩ :: kept)).flatMap list).Sublist ((values frames).flatMap list) := by
  obtain ⟨lost, rfl⟩ := cut
  have top : [ParseTree.empty].flatMap list = [] := by simp [nothing]
  rw [values_cons, values_append, List.flatMap_append, List.flatMap_append, top, List.append_nil]
  exact List.sublist_append_left _ _

end Frame

/-! ## The account of a stack -/

open ShaderSyntax.Frame (values)

/-- The account of a stack. Its bottom lies in state 0 and holds no value. The trees on it are well
formed, their leaves are some of the tokens shifted so far and their labels some of the productions
reduced so far, in order; as long as the parse is unbroken they are all of them. -/
structure Account (tables : TableBundle) (tokens : List Token) (trace : List Nat) (unbroken : Prop)
    (frames : List (Frame ParseTree)) : Prop where
  bottom : [⟨0, .empty⟩] <:+ frames
  wellFormed : ∀ tree ∈ values frames, tree.WellFormed tables
  leaves : ((values frames).flatMap ParseTree.leaves).Sublist tokens
  labels : ((values frames).flatMap ParseTree.labels).Sublist trace
  all_leaves : unbroken → (values frames).flatMap ParseTree.leaves = tokens
  all_labels : unbroken → (values frames).flatMap ParseTree.labels = trace

namespace Account

variable {tables : TableBundle} {tokens : List Token} {trace : List Nat} {unbroken : Prop}
  {frames : List (Frame ParseTree)}

/-- Nothing is on the stack before the first move. -/
theorem start : Account tables [] [] unbroken [⟨0, .empty⟩] := by
  refine ⟨List.suffix_refl _, ?_, List.nil_sublist _, List.nil_sublist _, fun _ => rfl,
    fun _ => rfl⟩
  intro tree mem
  rw [List.mem_singleton.mp mem]
  exact .empty

/-- A shift puts a leaf on top. -/
theorem shift (account : Account tables tokens trace unbroken frames) (token : Token)
    (state : Nat) :
    Account tables (tokens ++ [token]) trace unbroken (⟨state, .leaf token⟩ :: frames) := by
  have leaves : (values (⟨state, .leaf token⟩ :: frames)).flatMap ParseTree.leaves =
      (values frames).flatMap ParseTree.leaves ++ [token] := by
    rw [Frame.values_cons, List.flatMap_append, List.flatMap_singleton, ParseTree.leaves]
  have labels : (values (⟨state, .leaf token⟩ :: frames)).flatMap ParseTree.labels =
      (values frames).flatMap ParseTree.labels := by
    rw [Frame.values_cons, List.flatMap_append, List.flatMap_singleton, ParseTree.labels,
      List.append_nil]
  refine ⟨account.bottom.trans (List.suffix_cons _ _), ?_, ?_, ?_, ?_, ?_⟩
  · rw [Frame.forall_mem_values_cons]
    exact ⟨account.wellFormed, .leaf token⟩
  · rw [leaves]
    exact account.leaves.append_right _
  · rw [labels]
    exact account.labels
  · intro whole
    rw [leaves, account.all_leaves whole]
  · rw [labels]
    exact account.all_labels

/-- A reduction puts a node over the topmost values. -/
theorem reduce (account : Account tables tokens trace unbroken frames) {production : Nat}
    {rule : Production} (known : tables.production production = some rule)
    (deep : rule.length < frames.length) (state : Nat) :
    Account tables tokens (trace ++ [production]) unbroken
      (⟨state, .node production (values (frames.take rule.length))⟩ ::
        frames.drop rule.length) := by
  have leaves : (values (⟨state, .node production (values (frames.take rule.length))⟩ ::
      frames.drop rule.length)).flatMap ParseTree.leaves =
        (values frames).flatMap ParseTree.leaves ++ [] := by
    apply Frame.listing_of_reduction
    rw [ParseTree.leaves, ParseTree.leavesOfAll_eq, List.append_nil]
  have labels : (values (⟨state, .node production (values (frames.take rule.length))⟩ ::
      frames.drop rule.length)).flatMap ParseTree.labels =
        (values frames).flatMap ParseTree.labels ++ [production] := by
    apply Frame.listing_of_reduction
    rw [ParseTree.labels, ParseTree.labelsOfAll_eq]
  have below : [⟨0, .empty⟩] <:+ frames.drop rule.length := by
    obtain ⟨upper, rfl⟩ := account.bottom
    rw [List.length_append, List.length_singleton] at deep
    rw [List.drop_append_of_le_length (by omega)]
    exact List.suffix_append _ _
  have formed := account.wellFormed
  rw [← Frame.values_drop_append_take frames rule.length, List.forall_mem_append] at formed
  rw [List.append_nil] at leaves
  refine ⟨below.trans (List.suffix_cons _ _), ?_, ?_, ?_, ?_, ?_⟩
  · rw [Frame.forall_mem_values_cons]
    refine ⟨formed.1, .node known ?_ formed.2⟩
    rw [values, List.length_map, List.length_reverse, List.length_take]
    omega
  · rw [leaves]
    exact account.leaves
  · rw [labels]
    exact account.labels.append_right _
  · rw [leaves]
    exact account.all_leaves
  · intro whole
    rw [labels, account.all_labels whole]

/-- A recovery cuts the stack back and puts an empty value on top; the parse is broken. -/
theorem cut (account : Account tables tokens trace unbroken frames) {kept : List (Frame ParseTree)}
    (suffix : kept <:+ frames) (filled : kept ≠ []) (state : Nat) :
    Account tables tokens trace False (⟨state, .empty⟩ :: kept) := by
  have below : [⟨0, .empty⟩] <:+ kept := by
    apply List.suffix_of_suffix_length_le account.bottom suffix
    exact List.length_pos_iff.mpr filled
  refine ⟨below.trans (List.suffix_cons _ _), ?_, ?_, ?_, False.elim, False.elim⟩
  · rw [Frame.forall_mem_values_cons]
    refine ⟨?_, .empty⟩
    obtain ⟨lost, rfl⟩ := suffix
    intro tree mem
    apply account.wellFormed tree
    rw [Frame.values_append]
    exact List.mem_append_left _ mem
  · exact (Frame.listing_of_cut rfl suffix state).trans account.leaves
  · exact (Frame.listing_of_cut rfl suffix state).trans account.labels

end Account

namespace Engine

variable {L : Type} {lexer : Lexer} {tables : TableBundle} {options : EngineOptions}
  {listen : L → SyntaxError → L} {c next : Configuration (List Nat) ParseTree L}
  {tokens : List Token}

/-- A move keeps the account of the stack; the token of a shift joins those shifted so far. -/
theorem account_of_moved (account : Account tables tokens c.context (c.recoveries = 0) c.stack)
    (moved : Moved (treeEngine lexer tables options) listen c next) :
    Account tables (tokens ++ ((treeEngine lexer tables options).shifted [c]).map Lookahead.token)
      next.context (next.recoveries = 0) next.stack := by
  cases moved with
  | @shift state lookahead feed looked taken =>
    have one : (treeEngine lexer tables options).shifted [c] = [c.lookahead] := by
      simp [shifted, shifted?, looked]
    rw [one, List.map_cons, List.map_nil]
    exact account.shift c.lookahead.token state
  | @reduce production state rule context value looked inner known deep acted target =>
    have none_shifted : (treeEngine lexer tables options).shifted [c] = [] := by
      simp [shifted, shifted?, looked]
    have in_tables : tables.production production = some rule := known
    rw [reduceValue_treeEngine inner in_tables, Prod.mk.injEq, Except.ok.injEq] at acted
    obtain ⟨rfl, rfl⟩ := acted
    rw [none_shifted, List.map_nil, List.append_nil, Frame.popped_eq]
    exact account.reduce in_tables deep state
  | @recover log errors state count kept lookahead feed looked reported unwound =>
    have none_shifted : (treeEngine lexer tables options).shifted [c] = [] := by
      simp [shifted, shifted?, looked]
    obtain ⟨frame, rest, rfl, suffix, -⟩ := TableBundle.unwind_eq_some unwound
    rw [none_shifted, List.map_nil, List.append_nil]
    simp only [Nat.succ_ne_zero]
    exact account.cut suffix (List.cons_ne_nil _ _) state

/-- The account of the stack holds wherever a parse comes to. -/
theorem account_of_trail {log : L} {input : List (Except Unmatched Token)}
    {trail : List (Configuration (List Nat) ParseTree L)}
    (before : Trail (treeEngine lexer tables options) listen log [] input trail c) :
    Account tables (((treeEngine lexer tables options).shifted trail).map Lookahead.token)
      c.context (c.recoveries = 0) c.stack := by
  induction before with
  | start started =>
    obtain ⟨lookahead, feed, -, rfl⟩ := started_eq started
    exact .start
  | move before stepped ih =>
    have kept := account_of_moved ih (moved_of_step stepped)
    rwa [shifted, List.filterMap_append, List.map_append]

/-- No token is lost, doubled or moved by the stack. Wherever a parse comes to, its stack has as
many values as states, with state 0 and an empty value at the bottom, and every node on it has the
arity of its production. From bottom to top its leaves are shifted tokens in the order of the shifts
and its labels are productions in the order of the reductions; before the first recovery they are
all of them. -/
theorem stack_of_trail {log : L} {input : List (Except Unmatched Token)}
    {trail : List (Configuration (List Nat) ParseTree L)}
    (before : Trail (treeEngine lexer tables options) listen log [] input trail c) :
    (Frame.states c.stack).length = (values c.stack).length ∧ 0 < (values c.stack).length ∧
    (Frame.states c.stack).head? = some 0 ∧ (values c.stack).head? = some .empty ∧
    (∀ tree ∈ values c.stack, tree.WellFormed tables) ∧
    ((values c.stack).flatMap ParseTree.leaves).Sublist
      (((treeEngine lexer tables options).shifted trail).map Lookahead.token) ∧
    (c.recoveries = 0 → (values c.stack).flatMap ParseTree.leaves =
      ((treeEngine lexer tables options).shifted trail).map Lookahead.token) ∧
    ((values c.stack).flatMap ParseTree.labels).Sublist c.context ∧
    (c.recoveries = 0 → (values c.stack).flatMap ParseTree.labels = c.context) := by
  have account := account_of_trail before
  obtain ⟨upper, whole⟩ := account.bottom
  have states : Frame.states c.stack = 0 :: Frame.states upper := by
    simp [Frame.states, ← whole]
  have vals : values c.stack = .empty :: values upper := by
    simp [values, ← whole]
  refine ⟨?_, ?_, ?_, ?_, account.wellFormed, account.leaves, account.all_leaves,
    account.labels, account.all_labels⟩
  · simp [Frame.states, values]
  · rw [vals]
    exact Nat.succ_pos _
  · rw [states, List.head?_cons]
  · rw [vals, List.head?_cons]

/-- In a parse of three tokens the first is shifted and cut off again by a recovery, the second is
dropped, and the third is shifted behind the error symbol. -/
theorem stack_of_trail_recovery :
    ∃ trail, ∃ c : Configuration (List Nat) ParseTree Unit,
      Trail (treeEngine ⟨[]⟩ statementTables .standard) (fun log _ => log) () []
        (sampleInput ["x", "x", ";"]) trail c ∧
      c.recoveries = 1 ∧ (Frame.states c.stack) = [0, 3, 6] ∧
      ((values c.stack).flatMap ParseTree.leaves).Sublist
        (((treeEngine ⟨[]⟩ statementTables .standard).shifted trail).map Lookahead.token) := by
  have facts : ((treeEngine ⟨[]⟩ statementTables .standard).trail? (fun log _ => log) () []
      (sampleInput ["x", "x", ";"]) 3).map
      (fun found => (found.2.recoveries, Frame.states found.2.stack)) = some (1, [0, 3, 6]) := by
    decide +kernel
  obtain ⟨⟨trail, c⟩, found, same⟩ := Option.map_eq_some_iff.mp facts
  obtain ⟨recoveries, states⟩ := Prod.mk.inj same
  have before := trail_iff.mpr ⟨3, found⟩
  obtain ⟨-, -, -, -, -, leaves, -⟩ := stack_of_trail before
  exact ⟨trail, c, before, recoveries, states, leaves⟩

end Engine

end ShaderSyntax
