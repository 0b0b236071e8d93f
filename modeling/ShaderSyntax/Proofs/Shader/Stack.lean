import ShaderSyntax.Proofs.Parse.Calls
import ShaderSyntax.Proofs.Parse.Stacks
import ShaderSyntax.Proofs.Shader.Actions
import ShaderSyntax.Shader.Frontend

/-!
# The stack of a shader parse

Wherever a shader parse comes to, the nodes that the values on its stack own are roots: each is a
node of the tree, is owned by one value in one place, and has no parent. The invariant is
`Shader.Sound`; a move keeps it, whether it shifts, runs an action, passes a value on, or drops
frames in a recovery (`Shader.sound_of_moved`). It needs nothing of the tables but that the
grammar's actions are bound to them. The main statement draws the conclusions: no action is refused
an edit, the tree is a forest at every step and at the end, and the node of a parsed shader has no
parent (`Shader.Frontend.roots_of_parse`).
-/

set_option autoImplicit false

namespace ShaderSyntax.Shader

open SyntaxTree ShaderSyntax.Frame

/-- The nodes that the values on a stack own, from the bottom to the top. -/
def owned (frames : List (Frame Value)) : List NodeId :=
  (values frames).flatMap Value.ids

variable {frames kept : List (Frame Value)} {tree : SyntaxTree} {id : NodeId}

/-- The nodes of the topmost value come behind those below. -/
theorem owned_cons (frame : Frame Value) (frames : List (Frame Value)) :
    owned (frame :: frames) = owned frames ++ frame.value.ids := by
  rw [owned, values_cons, List.flatMap_append, List.flatMap_singleton, owned]

/-- A frame whose value owns nothing adds nothing. -/
theorem owned_cons_of_nil {frame : Frame Value} (nothing : frame.value.ids = []) :
    owned (frame :: frames) = owned frames := by
  rw [owned_cons, nothing, List.append_nil]

/-- The nodes of the lower frames come before those of the upper ones. -/
theorem owned_append (upper lower : List (Frame Value)) :
    owned (upper ++ lower) = owned lower ++ owned upper := by
  rw [owned, values_append, List.flatMap_append, owned, owned]

/-- The nodes of a stack are those below some frames and those in these frames. -/
theorem owned_drop_append_take (frames : List (Frame Value)) (count : Nat) :
    owned (frames.drop count) ++ owned (frames.take count) = owned frames := by
  rw [← owned_append, List.take_append_drop]

/-- Frames that stay own no more than all frames did. -/
theorem count_owned_le_of_suffix (stays : kept <:+ frames) :
    (owned kept).count id ≤ (owned frames).count id := by
  obtain ⟨lost, rfl⟩ := stays
  rw [owned_append, List.count_append]
  exact Nat.le_add_right _ _

/-- The first of some values owns no more than all of them. -/
theorem count_ids_head?_le (row : List Value) :
    (row.head?.getD StackValue.empty).ids.count id ≤ (row.flatMap Value.ids).count id := by
  cases row with
  | nil => exact Nat.le_refl _
  | cons value rest =>
    rw [List.flatMap_cons, List.count_append]
    exact Nat.le_add_right _ _

/-! ## The actions that are bound -/

/-- The action of a production: that of the rule which its record names. -/
def actionOf? (tables : TableBundle) (production : Nat) : Option BuildAction :=
  tables.records[production]?.bind fun record => (record.ruleId?.bind (rules[·]?)).bind Rule.action

/-- The actions bound to the productions are actions of the grammar. -/
theorem tidy_of_actionOf? {tables : TableBundle} {production : Nat} {action : BuildAction}
    (acts : actionOf? tables production = some action) : action.Tidy := by
  obtain ⟨record, -, acts⟩ := Option.bind_eq_some_iff.mp acts
  obtain ⟨rule, named, acts⟩ := Option.bind_eq_some_iff.mp acts
  obtain ⟨number, -, named⟩ := Option.bind_eq_some_iff.mp named
  exact tidy_of_mem_rules rule (List.mem_of_getElem? named) action acts

variable {engine : Engine SyntaxTree Value}

/-- The action that the grammar has for a record is the one that its rule has. -/
theorem action_ruleOf? (record : ProductionRecord) :
    (grammar.ruleOf? record).bind GrammarRule.action =
      ((record.ruleId?.bind (rules[·]?)).bind Rule.action).map BuildAction.toSemantic := by
  cases named : record.ruleId? with
  | none => simp only [Grammar.ruleOf?, named, Option.bind_none, Option.map_none]
  | some number =>
    simp only [Grammar.ruleOf?, named, grammar, Option.bind_some, List.getElem?_map]
    cases rules[number]? <;> rfl

/-- With the grammar's actions bound, a production other than the goal runs the action of its
rule. -/
theorem action?_eq (bound : grammar.bind engine.tables = .ok engine.actions) {production : Nat}
    (inner : production ≠ 0) :
    engine.action? production =
      (actionOf? engine.tables production).map BuildAction.toSemantic := by
  rw [Engine.action?, if_neg inner, Grammar.getElem?_bind bound inner, actionOf?]
  cases engine.tables.records[production]? with
  | none => rfl
  | some record => exact action_ruleOf? record

/-- A reduction leaves a forest, and what its value owns is loose beside all else. -/
theorem loose_of_reduceValue (bound : grammar.bind engine.tables = .ok engine.actions)
    (production : Nat) {row : List Value} {rest : List NodeId} (forest : tree.Forest)
    (loose : tree.Loose (row.flatMap Value.ids ++ rest)) :
    (engine.reduceValue production tree row).2.Forest ∧
    ∀ value, (engine.reduceValue production tree row).1 = .ok value →
      (engine.reduceValue production tree row).2.Loose (value.ids ++ rest) := by
  cases acts : engine.action? production with
  | none =>
    simp only [Engine.reduceValue, acts]
    refine ⟨forest, ?_⟩
    intro value same
    rw [Except.ok.injEq] at same
    subst same
    refine loose.of_count fun id => ?_
    rw [List.count_append, List.count_append]
    exact Nat.add_le_add_right (count_ids_head?_le row) _
  | some semantic =>
    have inner : production ≠ 0 := by
      rintro rfl
      simp [Engine.action?] at acts
    rw [action?_eq bound inner, Option.map_eq_some_iff] at acts
    obtain ⟨action, found, rfl⟩ := acts
    have semantic : engine.reduceValue production tree row =
        (((action row).run tree).1.mapError ActionError.message, ((action row).run tree).2) := by
      rw [Engine.reduceValue, action?_eq bound inner, found]
      rfl
    obtain ⟨kept, gives, -⟩ := tidy_of_actionOf? found row tree rest forest loose
    rw [semantic]
    refine ⟨kept, ?_⟩
    intro value same
    cases result : ((action row).run tree).1 with
    | ok outcome =>
      rw [result, Except.mapError, Except.ok.injEq] at same
      exact same ▸ gives outcome result
    | error error => simp [result, Except.mapError] at same

/-! ## Along a parse -/

variable {L : Type} {listen : L → SyntaxError → L} {log : L} {input : List (Except Unmatched Token)}
  {c next : Configuration SyntaxTree Value L} {outcome : Outcome SyntaxTree Value L}
  {trail : List (Configuration SyntaxTree Value L)}

/-- A configuration is sound if its tree is a forest and the values on its stack own loose nodes. -/
structure Sound (c : Configuration SyntaxTree Value L) : Prop where
  forest : c.context.Forest
  loose : c.context.Loose (owned c.stack)

/-- The nodes of the topmost values are loose beside those below. -/
theorem Sound.popped (sound : Sound c) (count : Nat) :
    c.context.Loose ((c.popped count).flatMap Value.ids ++ owned (c.stack.drop count)) := by
  refine sound.loose.of_count fun id => ?_
  rw [popped_eq, ← owned_drop_append_take c.stack count, List.count_append, List.count_append]
  exact Nat.le_of_eq (Nat.add_comm _ _)

/-- A move keeps a configuration sound. -/
theorem sound_of_moved (bound : grammar.bind engine.tables = .ok engine.actions) (sound : Sound c)
    (moved : engine.Moved listen c next) : Sound next := by
  cases moved with
  | @shift state lookahead feed looked taken =>
    refine ⟨sound.forest, ?_⟩
    have same : owned (⟨state, StackValue.ofToken c.lookahead.token⟩ :: c.stack) = owned c.stack :=
      owned_cons_of_nil rfl
    rw [same]
    exact sound.loose
  | @reduce production state rule context value looked inner known deep acted target =>
    obtain ⟨forest, gives⟩ := loose_of_reduceValue bound production sound.forest
      (sound.popped rule.length)
    rw [acted] at forest gives
    refine ⟨forest, (gives value rfl).of_count fun id => ?_⟩
    exact Nat.le_of_eq (by rw [owned_cons, List.count_append, List.count_append, Nat.add_comm])
  | @recover log errors state count kept lookahead feed looked reported unwound =>
    obtain ⟨frame, rest, rfl, stays, -⟩ := TableBundle.unwind_eq_some unwound
    refine ⟨sound.forest, sound.loose.of_count fun id => ?_⟩
    rw [owned_cons_of_nil rfl]
    exact count_owned_le_of_suffix stays

/-- Every configuration that a parse comes to is sound. -/
theorem sound_of_trail (bound : grammar.bind engine.tables = .ok engine.actions)
    (before : engine.Trail listen log .empty input trail c) : Sound c := by
  induction before with
  | start started =>
    obtain ⟨lookahead, feed, -, rfl⟩ := Engine.started_eq started
    exact ⟨.empty, .nil⟩
  | move before stepped ih => exact sound_of_moved bound ih (Engine.moved_of_step stepped)

/-- The next move of a parser runs an action on the topmost values. The action is the one of the
shader grammar that the production's marker names; where the grammar is bound to the tables, this is
the action that the engine has for the production (`action?_eq`). -/
inductive Runs (engine : Engine SyntaxTree Value) (c : Configuration SyntaxTree Value L) :
    BuildAction → List Value → Prop
  | reduce {production : Nat} {rule : Production} {action : BuildAction}
      (looked : engine.tables.lookup c.top c.lookahead.symbol = some (.reduce production))
      (inner : production ≠ 0) (known : engine.tables.production production = some rule)
      (deep : rule.length < c.stack.length)
      (acts : actionOf? engine.tables production = some action) :
      Runs engine c action (c.popped rule.length)

/-- An action that is run leaves a forest, and no edit of it is refused. -/
theorem Sound.unrefused (sound : Sound c) {action : BuildAction} {row : List Value}
    (runs : Runs engine c action row) :
    ((action row).run c.context).2.Forest ∧
    ∀ refusal, ((action row).run c.context).1 ≠ .error (.tree refusal) := by
  cases runs with
  | reduce looked inner known deep acts =>
    obtain ⟨forest, -, unrefused⟩ :=
      tidy_of_actionOf? acts _ _ _ sound.forest (sound.popped _)
    exact ⟨forest, unrefused⟩

/-- A parse that ends leaves a forest. -/
theorem forest_of_parse (bound : grammar.bind engine.tables = .ok engine.actions) {limit : Nat}
    (ended : engine.parseTokens limit listen log .empty input = some outcome) :
    outcome.context.Forest := by
  rcases Engine.trail_of_parseTokens ended with halted | ⟨trail, last, before, halted⟩
  · rw [Engine.context_of_start halted]
    exact .empty
  · have sound := sound_of_trail bound before
    rcases Engine.context_of_halt halted with same | ⟨production, rule, -, -, -, after⟩
    · rw [same]
      exact sound.forest
    · rw [after]
      exact (loose_of_reduceValue bound production sound.forest (sound.popped rule.length)).1

/-- A node that a parse gives is a root. -/
theorem root_of_parse (bound : grammar.bind engine.tables = .ok engine.actions) {limit : Nat}
    (ended : engine.parseTokens limit listen log .empty input = some outcome)
    (accepted : outcome.verdict = .ok (.node id)) :
    id < outcome.context.size ∧ outcome.context.parent? id = none := by
  rcases Engine.trail_of_parseTokens ended with halted | ⟨trail, last, before, halted⟩
  · obtain ⟨-, -, error, failed⟩ := Engine.counts_of_start halted
    simp [failed] at accepted
  obtain ⟨looked, rule, -, -, first⟩ := Engine.accepts_of_halt halted accepted
  have sound := sound_of_trail bound before
  -- The goal has no action, so the tree is the one before the move.
  have same : outcome.context = last.context := by
    rcases Engine.context_of_halt halted with same | ⟨production, other, looked', -, -, after⟩
    · exact same
    · rw [looked, Option.some.injEq, Action.reduce.injEq] at looked'
      rw [after, ← looked']
      rfl
  have mem : id ∈ (last.popped rule.length).flatMap Value.ids := by
    rw [← List.count_pos_iff]
    refine Nat.lt_of_lt_of_le ?_ (count_ids_head?_le _)
    rw [← first, Value.ids_node, List.count_singleton_self]
    exact Nat.one_pos
  have held := List.mem_append_left (owned (last.stack.drop rule.length)) mem
  rw [same]
  exact ⟨(sound.popped _).known id held, (sound.popped _).alone id held⟩

namespace Frontend

variable {frontend : Frontend}

/-- A front end whose parser uses served tables has the grammar's actions bound to them. -/
theorem bound_of_ofCache {σ : Type} {backend : Backend σ} {options : EngineOptions}
    {preprocessor : Preprocessor} {state : CacheState σ}
    (served : (ofCache backend options preprocessor state).1 = .ok frontend) :
    grammar.bind frontend.engine.tables = .ok frontend.engine.actions := by
  unfold ofCache at served
  -- Which rules the lexer has does not matter, so they are not looked into.
  generalize Shader.lexer = rules at served
  cases rules with
  | error fault => nomatch served
  | ok lexer =>
    cases parser : (TableCache.parser backend options lexer grammar parserName state).1 with
    | error error => simp [parser] at served
    | ok engine =>
      simp only [parser, Except.ok.injEq] at served
      subst served
      exact TableCache.bind_eq_ok_of_served parser

/-- The node of the whole shader is a root: the one that the parse gave, or else a new one. -/
theorem root_of_rootOf {value : Value} (forest : tree.Forest)
    (given : ∀ id, value = .node id → id < tree.size ∧ tree.parent? id = none) :
    (rootOf value tree).2.Forest ∧ (rootOf value tree).1 < (rootOf value tree).2.size ∧
      (rootOf value tree).2.parent? (rootOf value tree).1 = none := by
  have fresh : (tree.newNode "TranslationUnit").2.Forest ∧
      tree.size < (tree.newNode "TranslationUnit").2.size ∧
      (tree.newNode "TranslationUnit").2.parent? tree.size = none := by
    have nothing : tree.Loose [] := .nil
    have loose := nothing.add "TranslationUnit" none none
    exact ⟨forest.add _ none none, loose.known _ List.mem_cons_self,
      loose.alone _ List.mem_cons_self⟩
  cases value with
  | node id => exact ⟨forest, given id rfl⟩
  | _ => exact fresh

/-- The root of a parsed source has no parent, in a tree that is a forest. -/
theorem root_of_parseSource
    (bound : grammar.bind frontend.engine.tables = .ok frontend.engine.actions)
    {limit : Nat} {path source : String} {shader : ParsedShader}
    (parsed : frontend.parseSource limit path source = some (.ok shader)) :
    shader.tree.Forest ∧ shader.root < shader.tree.size ∧
      shader.tree.parent? shader.root = none := by
  rw [parseSource, Option.map_eq_some_iff] at parsed
  obtain ⟨outcome, ended, parsed⟩ := parsed
  cases verdict : outcome.verdict with
  | error error => simp [verdict] at parsed
  | ok value =>
    simp only [verdict, Except.ok.injEq] at parsed
    subst parsed
    refine root_of_rootOf (forest_of_parse bound ended) ?_
    rintro id rfl
    exact root_of_parse bound ended verdict

/-- The root of a parsed file has no parent, in a tree that is a forest. -/
theorem root_of_parseFile
    (bound : grammar.bind frontend.engine.tables = .ok frontend.engine.actions)
    {limit : Nat} {path : String} {shader : ParsedShader}
    (parsed : frontend.parseFile limit path = some (.ok shader)) :
    shader.tree.Forest ∧ shader.root < shader.tree.size ∧
      shader.tree.parent? shader.root = none := by
  unfold parseFile at parsed
  split at parsed
  · simp at parsed
  case h_2 source state _ =>
    obtain ⟨result, found, same⟩ := Option.map_eq_some_iff.mp parsed
    cases result with
    | error error => simp [Except.map] at same
    | ok inner =>
      rw [Except.map, Except.ok.injEq] at same
      subst same
      have roots := root_of_parseSource bound found
      exact roots

/-- A shader parse neither shares nor misattaches a node. Over any tables to which the grammar's
actions are bound, and for any input and options, wherever a parse from an empty tree comes to,
its tree is a forest, and the nodes that the values on its stack own are nodes of the tree, owned
once each and without parents. No action that is run is refused an edit, and also an action that
fails leaves a forest; so does a parse that ends. The root of a parsed shader has no parent. Which
actions are run is said by `Runs`, through the markers of the tables; that these are the engine's
own actions is `action?_eq`, since the grammar is bound to the tables. -/
theorem roots_of_parse (frontend : Frontend)
    (bound : grammar.bind frontend.engine.tables = .ok frontend.engine.actions) :
    (∀ (L : Type) (listen : L → SyntaxError → L) (log : L) (input : List (Except Unmatched Token)),
      (∀ trail c, frontend.engine.Trail listen log .empty input trail c →
        c.context.Forest ∧ c.context.Loose (owned c.stack) ∧
        ∀ action row, Runs frontend.engine c action row →
          ((action row).run c.context).2.Forest ∧
          ∀ refusal, ((action row).run c.context).1 ≠ .error (.tree refusal)) ∧
      ∀ limit outcome, frontend.engine.parseTokens limit listen log .empty input = some outcome →
        outcome.context.Forest) ∧
    (∀ limit path source shader, frontend.parseSource limit path source = some (.ok shader) →
      shader.tree.Forest ∧ shader.root < shader.tree.size ∧
        shader.tree.parent? shader.root = none) ∧
    ∀ limit path shader, frontend.parseFile limit path = some (.ok shader) →
      shader.tree.Forest ∧ shader.root < shader.tree.size ∧
        shader.tree.parent? shader.root = none := by
  refine ⟨?_, ?_, ?_⟩
  · intro L listen log input
    refine ⟨?_, fun limit outcome ended => forest_of_parse bound ended⟩
    intro trail c before
    have sound := sound_of_trail bound before
    exact ⟨sound.forest, sound.loose, fun action row runs => sound.unrefused runs⟩
  · exact fun limit path source shader parsed => root_of_parseSource bound parsed
  · exact fun limit path shader parsed => root_of_parseFile bound parsed

/-- Tables for names in a row: a goal, a unit of one name, a unit with a name added, and a name. -/
def nameTables : TableBundle where
  productions := [⟨0, 1⟩, ⟨4, 1⟩, ⟨4, 2⟩, ⟨5, 1⟩]
  actions := [[(3, .shift 1)], [], [(1, .reduce 0), (3, .shift 1)], [], []]
  gotos := [[(4, 2), (5, 3)], [], [(5, 4)], [], []]
  defaults := [none, some (.reduce 3), none, some (.reduce 1), some (.reduce 2)]
  labels := ["goal", "end", "error", "ID", "unit", "name"]
  labelMap := LabelMap.ofLabels ["goal", "end", "error", "ID", "unit", "name"]
  endSymbol := 1
  errorSymbol := 2
  skipSymbol := none
  records := [⟨0, 0, [4], ""⟩, ⟨1, 4, [5], "_18"⟩, ⟨2, 4, [4, 5], "_18"⟩, ⟨3, 5, [3], "_0"⟩]
  hash := ""

/-- A front end over these tables. -/
def nameFrontend : Frontend where
  preprocessor := ⟨fun path => .error (.missing path), .standard⟩
  engine :=
    { lexer := ⟨[]⟩
      tables := nameTables
      actions := [none, some (BuildAction.toSemantic translationUnit),
        some (BuildAction.toSemantic translationUnit), some (BuildAction.toSemantic varExpr)]
      options := .standard }

/-- The actions of the grammar are bound to the tables for names. -/
theorem bind_nameTables : grammar.bind nameTables = .ok nameFrontend.engine.actions := by
  have unit : ProductionRecord.ruleId? ⟨1, 4, [5], "_18"⟩ = some 18 := by decide +kernel
  have longer : ProductionRecord.ruleId? ⟨2, 4, [4, 5], "_18"⟩ = some 18 := by decide +kernel
  have name : ProductionRecord.ruleId? ⟨3, 5, [3], "_0"⟩ = some 0 := by decide +kernel
  have last : ∃ rule, rules[18]? = some rule ∧ rule.action = some translationUnit := ⟨_, rfl, rfl⟩
  have first : ∃ rule, rules[0]? = some rule ∧ rule.action = some varExpr := ⟨_, rfl, rfl⟩
  obtain ⟨last, at_last, acts_last⟩ := last
  obtain ⟨first, at_first, acts_first⟩ := first
  simp only [Grammar.bind, nameTables, Grammar.bindFrom, Grammar.ruleOf?, unit, longer, name,
    Option.bind_some, grammar, List.getElem?_map, at_last, at_first, acts_last, acts_first,
    Option.map_some, Except.map, nameFrontend]

/-- In a parse of two names, before the second joins the unit of the first, the stack owns the unit
and the second name; the first name belongs to the unit. -/
theorem roots_of_parse_names :
    grammar.bind nameFrontend.engine.tables = .ok nameFrontend.engine.actions ∧
    ∃ trail, ∃ c : Configuration SyntaxTree Value Unit,
      nameFrontend.engine.Trail (fun log _ => log) () .empty (sampleInput ["ID", "ID"]) trail c ∧
      owned c.stack = [1, 2] ∧ c.context.parent? 0 = some 1 ∧ c.context.Loose [1, 2] := by
  have facts : (nameFrontend.engine.trail? (fun log _ => log) () .empty
      (sampleInput ["ID", "ID"]) 5).map
      (fun found => (owned found.2.stack, found.2.context.parent? 0)) = some ([1, 2], some 1) := by
    decide +kernel
  obtain ⟨⟨trail, c⟩, found, same⟩ := Option.map_eq_some_iff.mp facts
  obtain ⟨stack, below⟩ := Prod.mk.inj same
  have before := Engine.trail_iff.mpr ⟨5, found⟩
  obtain ⟨along, -⟩ := (roots_of_parse nameFrontend bind_nameTables).1 Unit (fun log _ => log) ()
    (sampleInput ["ID", "ID"])
  obtain ⟨-, loose, -⟩ := along trail c before
  exact ⟨bind_nameTables, trail, c, before, stack, below, stack ▸ loose⟩

end Frontend

end ShaderSyntax.Shader
