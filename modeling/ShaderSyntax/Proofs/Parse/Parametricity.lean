import ShaderSyntax.Proofs.Parse.Reports

/-!
# A parse does not look at its values

Values go onto the stack, are handed to the actions and are dropped by a recovery, but no move
depends on one. So a map of values that the actions respect carries every configuration of a parse
to one of another parse, move by move (`Engine.Carries.step_map`), and its outcome to the other
outcome (`Engine.parse_map`). What is carried along changes nothing but the values: the context, the
reports and the counts are the same.
-/

set_option autoImplicit false

namespace ShaderSyntax

variable {C V W L : Type}

/-! ## Maps of values -/

/-- A frame with another value. -/
def Frame.map (h : V → W) (frame : Frame V) : Frame W :=
  ⟨frame.state, h frame.value⟩

/-- A configuration with other values on its stack. -/
def Configuration.map (h : V → W) (c : Configuration C V L) : Configuration C W L where
  context := c.context
  log := c.log
  stack := c.stack.map (Frame.map h)
  lookahead := c.lookahead
  feed := c.feed
  countdown := c.countdown
  errors := c.errors
  shifts := c.shifts
  reductions := c.reductions
  recoveries := c.recoveries
  discarded := c.discarded

/-- An outcome with another value. -/
def Outcome.map (h : V → W) (outcome : Outcome C V L) : Outcome C W L where
  verdict := outcome.verdict.map h
  context := outcome.context
  log := outcome.log
  errors := outcome.errors
  stats := outcome.stats

/-- A move with other values. -/
def Move.map (h : V → W) : Move C V L → Move C W L
  | .next c => .next (c.map h)
  | .halt outcome => .halt (outcome.map h)

/-- On the images of so many values an action does to the context what another one does on the
values; it fails with the same text, or makes the image of the same value. -/
def SemanticAction.Maps (h : V → W) (arity : Nat) (action : SemanticAction C V)
    (image : SemanticAction C W) : Prop :=
  ∀ context values, values.length = arity →
    image context (values.map h) = Prod.map (Except.map h) id (action context values)

/-- A map of values carries a parser to another one: they have the same token rules, tables and
options, and each production but the goal has an action in both or in neither. -/
structure Engine.Carries [StackValue V] [StackValue W] (h : V → W) (engine : Engine C V)
    (image : Engine C W) : Prop where
  lexer : image.lexer = engine.lexer
  tables : image.tables = engine.tables
  options : image.options = engine.options
  ofToken : ∀ token, h (StackValue.ofToken token) = StackValue.ofToken token
  empty : h StackValue.empty = StackValue.empty
  actions : ∀ production rule, production ≠ 0 →
    engine.tables.production production = some rule →
    Option.Rel (SemanticAction.Maps h rule.length) (engine.action? production)
      (image.action? production)

namespace Configuration

variable (h : V → W) (c : Configuration C V L)

/-- A map of values and contexts keeps the state on top. -/
@[simp] theorem top_map : (c.map h).top = c.top := by
  unfold top map
  cases c.stack <;> rfl

/-- The popped values of the image are the images of the popped values. -/
theorem popped_map (count : Nat) : (c.map h).popped count = (c.popped count).map h := by
  simp [popped, map, Frame.map, List.map_reverse, ← List.map_take, Function.comp_def]

end Configuration

/-- The frames that stay when a stack is cut back do not depend on the values. -/
theorem TableBundle.unwind_map (tables : TableBundle) (h : V → W) (frames : List (Frame V)) :
    tables.unwind (frames.map (Frame.map h)) =
      (tables.unwind frames).map (Prod.map id (List.map (Frame.map h))) := by
  induction frames with
  | nil => rfl
  | cons frame rest ih =>
    have same : (Frame.map h frame).state = frame.state := rfl
    rw [List.map_cons, unwind, unwind, same, ih]
    cases tables.action frame.state tables.errorSymbol with
    | none => rfl
    | some action => cases action <;> rfl

namespace Engine.Carries

variable [StackValue V] [StackValue W] {h : V → W} {engine : Engine C V} {image : Engine C W}
  {listen : L → SyntaxError → L}

/-! ## Moves -/

/-- Going to the next lookahead commutes with the map. -/
theorem advance_map (carries : Carries h engine image) (c : Configuration C V L) :
    image.advance (c.map h) = (engine.advance c).map h := by
  have feed : (c.map h).feed = c.feed := rfl
  unfold advance
  rw [carries.tables, feed]
  rcases c.feed.next engine.tables with fault | ⟨lookahead, feed⟩ <;> rfl

/-- Shifting commutes with the map. -/
theorem shift_map (carries : Carries h engine image) (c : Configuration C V L) (state : Nat) :
    image.shift (c.map h) state = (engine.shift c state).map h := by
  unfold shift
  rw [← carries.advance_map]
  simp only [Configuration.map, List.map_cons, Frame.map, carries.ofToken]

/-- What a production makes of the images is the image of what it makes of the values; one without
action passes the first of them on. -/
theorem reduceValue_map (carries : Carries h engine image) {production : Nat} {rule : Production}
    (known : engine.tables.production production = some rule) (context : C) {values : List V}
    (arity : values.length = rule.length) :
    image.reduceValue production context (values.map h) =
      Prod.map (Except.map h) id (engine.reduceValue production context values) := by
  have passed_on : (values.map h).head?.getD StackValue.empty =
      h (values.head?.getD StackValue.empty) := by
    cases values with
    | nil => exact carries.empty.symm
    | cons first rest => rfl
  unfold reduceValue
  by_cases goal : production = 0
  · subst goal
    simp only [action?, if_true, passed_on]
    rfl
  · have related := carries.actions production rule goal known
    generalize engine.action? production = action, image.action? production = other at related ⊢
    cases related with
    | none =>
      simp only [passed_on]
      rfl
    | some maps => exact maps context values arity

/-- Reducing commutes with the map, as the actions do. -/
theorem reduce_map (carries : Carries h engine image) (c : Configuration C V L)
    (production : Nat) :
    image.reduce (c.map h) production = (engine.reduce c production).map h := by
  have height : (c.map h).stack.length = c.stack.length := List.length_map _
  have context : (c.map h).context = c.context := rfl
  unfold reduce
  rw [carries.tables, height]
  cases known : engine.tables.production production with
  | none => rfl
  | some rule =>
    simp only
    split
    case isTrue short => rfl
    case isFalse deep =>
      have arity : (c.popped rule.length).length = rule.length := by
        rw [Configuration.popped, List.length_reverse, List.length_map, List.length_take]
        omega
      have popped : (((c.map h).stack.take rule.length).map Frame.value).reverse =
          (c.popped rule.length).map h := c.popped_map h rule.length
      have lower : (c.map h).stack.drop rule.length =
          (c.stack.drop rule.length).map (Frame.map h) := List.map_drop.symm
      have made := carries.reduceValue_map known c.context arity
      rw [popped, context, made, lower]
      unfold Configuration.popped
      rcases engine.reduceValue production c.context _ with ⟨text | value, after⟩
      · rfl
      · simp only [Prod.map, Except.map, id]
        split
        case isTrue goal => rfl
        case isFalse inner =>
          have top := Configuration.top_map h { c with
            context := after
            stack := c.stack.drop rule.length
            reductions := c.reductions + 1 }
          unfold Configuration.map at top ⊢
          rw [top]
          split <;> rfl

/-- Resuming commutes with the map. -/
theorem resume_map (carries : Carries h engine image) (c : Configuration C V L) :
    image.resume (c.map h) = (engine.resume c).map h := by
  have lookahead : (c.map h).lookahead = c.lookahead := rfl
  have feed : (c.map h).feed = c.feed := rfl
  have stack : (c.map h).stack = c.stack.map (Frame.map h) := rfl
  unfold resume
  rw [carries.tables, stack, TableBundle.unwind_map]
  cases engine.tables.unwind c.stack with
  | none => rfl
  | some found =>
    obtain ⟨state, kept⟩ := found
    simp only [Option.map_some, Prod.map, id, lookahead, feed]
    cases engine.tables.resync state c.lookahead c.feed 0 with
    | found lookahead feed dropped =>
      simp only [Move.map, Configuration.map, List.map_cons, Frame.map, carries.empty]
    | exhausted feed dropped => rfl
    | faulty fault feed dropped => rfl

/-- Reporting an error commutes with the map. -/
theorem report_map (carries : Carries h engine image) (c : Configuration C V L) :
    image.report listen (c.map h) = (engine.report listen c).map h := by
  have lookahead : (c.map h).lookahead = c.lookahead := rfl
  unfold report
  rw [carries.tables, Configuration.top_map, lookahead]
  rfl

/-- A recovery commutes with the map. -/
theorem recover_map (carries : Carries h engine image) (c : Configuration C V L) :
    image.recover listen (c.map h) = (engine.recover listen c).map h := by
  have countdown : (c.map h).countdown = c.countdown := rfl
  have lookahead : (c.map h).lookahead = c.lookahead := rfl
  unfold Engine.recover
  rw [carries.tables, carries.options, countdown, lookahead, carries.report_map,
    carries.advance_map, carries.resume_map]
  simp only
  split
  · split
    · exact carries.resume_map _
    · rfl
  · split
    · split
      · rfl
      · cases engine.advance c with
        | halt outcome => rfl
        | next later => exact carries.resume_map { later with discarded := later.discarded + 1 }
    · rfl

/-- A move of the image is the image of the move. -/
theorem step_map (carries : Carries h engine image) (c : Configuration C V L) :
    image.step listen (c.map h) = (engine.step listen c).map h := by
  have lookahead : (c.map h).lookahead = c.lookahead := rfl
  unfold step
  rw [carries.tables, Configuration.top_map, lookahead]
  cases engine.tables.lookup c.top c.lookahead.symbol with
  | none => exact carries.recover_map c
  | some action =>
    cases action with
    | shift state => exact carries.shift_map c state
    | reduce production => exact carries.reduce_map c production

/-! ## Whole parses -/

/-- A run of the image ends as the run does, with the image of its value. -/
theorem run_map (carries : Carries h engine image) (limit : Nat) (c : Configuration C V L) :
    image.run listen limit (c.map h) = (engine.run listen limit c).map (Outcome.map h) := by
  induction limit generalizing c with
  | zero => rfl
  | succ limit ih =>
    rw [run, run, carries.step_map]
    cases engine.step listen c with
    | halt outcome => rfl
    | next next => exact ih next

/-- Starting commutes with the map. -/
theorem start_map (carries : Carries h engine image) (context : C) (log : L)
    (input : List (Except Unmatched Token)) :
    image.start context log input = (engine.start context log input).map h := by
  unfold start
  rw [carries.tables]
  simp only
  rcases (Feed.ofInput input).next engine.tables with fault | ⟨lookahead, feed⟩
  · rfl
  · simp only [Move.map, Configuration.map, List.map_cons, List.map_nil, Frame.map, carries.empty]

/-- A parse of the image is the image of the parse, with the same limit of moves. -/
theorem parseTokens_map (carries : Carries h engine image) (limit : Nat) (log : L) (context : C)
    (input : List (Except Unmatched Token)) :
    image.parseTokens limit listen log context input =
      (engine.parseTokens limit listen log context input).map (Outcome.map h) := by
  unfold parseTokens
  rw [carries.start_map]
  cases engine.start context log input with
  | halt outcome => rfl
  | next c => exact carries.run_map limit c

end Engine.Carries

/-- A parse does not look at its values. Where a map of values carries a parser to another one, a
parse by the second ends, within as many moves, as one by the first: with the same failure or with
the image of the value, and with the same context, reports, errors and counts. -/
theorem Engine.parse_map [StackValue V] [StackValue W] {h : V → W} {engine : Engine C V}
    {image : Engine C W} (carries : Engine.Carries h engine image) (limit : Nat)
    (listen : L → SyntaxError → L) (log : L) (context : C) :
    (∀ input, image.parseTokens limit listen log context input =
      (engine.parseTokens limit listen log context input).map (Outcome.map h)) ∧
    ∀ source, image.parse limit listen log context source =
      (engine.parse limit listen log context source).map (Outcome.map h) := by
  refine ⟨fun input => carries.parseTokens_map limit log context input, ?_⟩
  intro source
  unfold parse
  rw [carries.lexer]
  exact carries.parseTokens_map limit log context (engine.lexer.stream source)

/-! ## Trees and their leaves -/

/-- Lists of tokens are values: a token is a list of its own, and the empty list stands for nothing.
-/
instance : StackValue (List Token) := ⟨fun token => [token], []⟩

/-- The action that lists the tokens of its parts and notes its production. -/
def listTokens (production : Nat) : SemanticAction (List Nat) (List Token) :=
  fun trace parts => (.ok parts.flatten, trace ++ [production])

/-- The parser that lists the tokens of every production. -/
def yieldEngine (lexer : Lexer) (tables : TableBundle) (options : EngineOptions) :
    Engine (List Nat) (List Token) where
  lexer
  tables
  actions := (List.range tables.productions.length).map fun production =>
    some (listTokens production)
  options

/-- Listing the leaves of a tree carries the parser that builds trees to the one that lists
tokens. -/
theorem leaves_carries (lexer : Lexer) (tables : TableBundle) (options : EngineOptions) :
    Engine.Carries ParseTree.leaves (treeEngine lexer tables options)
      (yieldEngine lexer tables options) where
  lexer := rfl
  tables := rfl
  options := rfl
  ofToken token := rfl
  empty := rfl
  actions := by
    intro production rule inner known
    have inside : production < tables.productions.length :=
      (List.getElem?_eq_some_iff.mp known).1
    have builds : (treeEngine lexer tables options).action? production =
        some (ParseTree.build production) := Engine.action?_of_range rfl inner inside
    have lists : (yieldEngine lexer tables options).action? production =
        some (listTokens production) := Engine.action?_of_range rfl inner inside
    rw [builds, lists]
    apply Option.Rel.some
    intro trace children _
    simp only [ParseTree.build, listTokens, Prod.map, Except.map, id, ParseTree.leaves,
      ParseTree.leavesOfAll_eq, List.flatMap_def]

/-- A parse that recovers from two errors lists the tokens that are leaves of the tree which it
would build. -/
theorem Engine.parse_map_statements :
    ∃ outcome image tree, (treeEngine ⟨[]⟩ statementTables .standard).parseTokens 40
        (fun log error => log ++ [error]) [] [] faultyStatements = some outcome ∧
      outcome.verdict = .ok tree ∧
      (yieldEngine ⟨[]⟩ statementTables .standard).parseTokens 40
        (fun log error => log ++ [error]) [] [] faultyStatements = some image ∧
      image.verdict = .ok tree.leaves ∧ image.errors.length = 2 ∧
      image.errors = outcome.errors ∧ image.stats = outcome.stats ∧
      image.context = outcome.context := by
  have facts : ((treeEngine ⟨[]⟩ statementTables .standard).parseTokens 40
      (fun log error => log ++ [error]) [] [] faultyStatements).map
      (fun outcome => (outcome.verdict.toBool, outcome.errors.length)) = some (true, 2) := by
    decide +kernel
  obtain ⟨outcome, ended, same⟩ := Option.map_eq_some_iff.mp facts
  rw [Prod.mk.injEq] at same
  have carried := (Engine.parse_map (leaves_carries ⟨[]⟩ statementTables .standard) 40
    (fun log error => log ++ [error]) [] []).1 faultyStatements
  rw [ended, Option.map_some] at carried
  cases verdict : outcome.verdict with
  | error error => simp [verdict, Except.toBool] at same
  | ok tree =>
    have image : (outcome.map ParseTree.leaves).verdict = .ok tree.leaves := by
      rw [Outcome.map, verdict]
      rfl
    exact ⟨outcome, _, tree, ended, verdict, carried, image, same.2, rfl, rfl, rfl⟩

end ShaderSyntax
