import Mathlib.Data.List.Forall2
import ShaderSyntax.Proofs.Parse.Progress
import ShaderSyntax.Proofs.Tables.Bounds

/-!
# Parses are derivations

Tables that were made of a grammar are consistent with it: every state but the first is entered by
one symbol, and a state that reduces by a production is entered by its right-hand side
(`TableBundle.LRConsistent`). Over such tables every value on the stack is a derivation tree of the
symbol that led to its state, through all moves of a parse and its recoveries
(`Engine.built_of_trail`), and an accepted value is a derivation tree of the goal's symbol that, if
nothing went wrong, has all tokens of the input as its leaves (`Engine.parse_derives`).
-/

set_option autoImplicit false

namespace ShaderSyntax

/-! ## Tables and the grammar they describe -/

namespace TableBundle

/-- The tables are those of an LR automaton for the grammar in their records. Every state but 0 has
the symbol by which all transitions enter it, no transition enters state 0, no default is a shift,
and whatever leads to a state in as many transitions as a production has symbols spells the
right-hand side of the production, if the state reduces by it. -/
structure LRConsistent (tables : TableBundle) (accessing : Nat → Nat) : Prop where
  shift : ∀ source symbol target, tables.action source symbol = some (.shift target) →
    accessing target = symbol
  goto : ∀ source symbol target, tables.goto source symbol = some target →
    accessing target = symbol
  default : ∀ state target, tables.defaultAction state ≠ some (.shift target)
  initial : ∀ source symbol, ¬tables.Edge source symbol 0
  reduce : ∀ state production rule record, tables.ReducesBy state production →
    tables.production production = some rule → tables.records[production]? = some record →
    ∀ source word, tables.Path source word state → word.length = rule.length → word = record.rhs

/-- The goal is reduced in front of the end of input only, by an entry for it and not by default, in
states that are entered from state 0 alone; and the end of input is never shifted. -/
structure AcceptsAtEnd (tables : TableBundle) : Prop where
  row : ∀ state symbol, tables.action state symbol = some (.reduce 0) → symbol = tables.endSymbol
  default : ∀ state, tables.defaultAction state ≠ some (.reduce 0)
  entered : ∀ state, tables.ReducesBy state 0 → ∀ source symbol,
    tables.Edge source symbol state → source = 0
  unshifted : ∀ state target, tables.action state tables.endSymbol ≠ some (.shift target)

/-- Where the goal is reduced, the lookahead is the end of input. -/
theorem AcceptsAtEnd.isEnd_eq_true {tables : TableBundle} (accepts : tables.AcceptsAtEnd)
    {state : Nat} {lookahead : Lookahead}
    (looked : tables.lookup state lookahead.symbol = some (.reduce 0)) :
    tables.isEnd lookahead = true := by
  rcases lookup_eq_some looked with ⟨symbol, same, reduces⟩ | by_default
  · rw [isEnd, same, accepts.row state symbol reduces, beq_self_eq_true]
  · exact absurd by_default (accepts.default state)

/-- All transitions into a state have its symbol. -/
theorem LRConsistent.accessing_eq {tables : TableBundle} {accessing : Nat → Nat}
    (consistent : tables.LRConsistent accessing) {source symbol target : Nat}
    (edge : tables.Edge source symbol target) : accessing target = symbol := by
  cases edge with
  | shift shifts => exact consistent.shift source symbol target shifts
  | goto goes => exact consistent.goto source symbol target goes

/-- A shift of a lookahead is a transition with its symbol. -/
theorem LRConsistent.edge_of_lookup {tables : TableBundle} {accessing : Nat → Nat}
    (consistent : tables.LRConsistent accessing) {source target : Nat} {symbol : Option Nat}
    (looked : tables.lookup source symbol = some (.shift target)) :
    ∃ known, symbol = some known ∧ tables.Edge source known target := by
  rcases lookup_eq_some looked with ⟨known, same, shifts⟩ | by_default
  · exact ⟨known, same, .shift shifts⟩
  · exact absurd by_default (consistent.default source target)

/-- In consistent tables with records, every production has a record that agrees with it. -/
theorem exists_record {tables : TableBundle} (valid : tables.validate = .ok ())
    (recorded : tables.records ≠ []) {production : Nat} {rule : Production}
    (known : tables.production production = some rule) :
    ∃ record, tables.records[production]? = some record ∧ record.lhs = rule.lhs ∧
      record.rhs.length = rule.length := by
  obtain ⟨same_length, each⟩ :=
    List.forall₂_iff_get.mp ((consistent_of_validate valid).records recorded)
  obtain ⟨inside, rfl⟩ := List.getElem?_eq_some_iff.mp known
  have recorded_inside : production < tables.records.length := same_length ▸ inside
  exact ⟨_, List.getElem?_eq_getElem recorded_inside, each production recorded_inside inside⟩

end TableBundle

/-! ## Checking consistency -/

namespace TableBundle

/-- Checks tables for consistency with the grammar in their records. -/
def checkConsistent (tables : TableBundle) (accessing : Nat → Nat) : Bool :=
  tables.edges.all (fun edge => accessing edge.2.2 = edge.2.1 && edge.2.2 ≠ 0) &&
  tables.defaults.all (fun
    | some (.shift _) => false
    | _ => true) &&
  tables.reductions.all fun reduction =>
    match tables.production reduction.2, tables.records[reduction.2]? with
    | some rule, some record =>
      (tables.wordsInto rule.length reduction.1).all (· = record.rhs)
    | _, _ => true

/-- Checks that tables accept at the end of input only. -/
def checkAcceptsAtEnd (tables : TableBundle) : Bool :=
  tables.entries.all (fun entry =>
    match entry.2.2 with
    | .shift _ => entry.2.1 ≠ tables.endSymbol
    | .reduce production => production ≠ 0 || entry.2.1 = tables.endSymbol) &&
  tables.defaults.all (· ≠ some (.reduce 0)) &&
  tables.reductions.all fun reduction => reduction.2 ≠ 0 ||
    tables.edges.all fun edge => edge.2.2 ≠ reduction.1 || edge.1 = 0

/-- Tables that pass the check are consistent. -/
theorem lrConsistent_of_check {tables : TableBundle} {accessing : Nat → Nat}
    (checked : tables.checkConsistent accessing = true) : tables.LRConsistent accessing := by
  simp only [checkConsistent, Bool.and_eq_true, List.all_eq_true] at checked
  obtain ⟨⟨edges, defaults⟩, reductions⟩ := checked
  have entered : ∀ source symbol target, tables.Edge source symbol target →
      accessing target = symbol ∧ target ≠ 0 := by
    intro source symbol target edge
    simpa using edges _ (mem_edges edge)
  refine ⟨?_, ?_, ?_, ?_, ?_⟩
  · intro source symbol target shifts
    exact (entered source symbol target (.shift shifts)).1
  · intro source symbol target goes
    exact (entered source symbol target (.goto goes)).1
  · intro state target shifts
    simpa using defaults _ (mem_defaults shifts)
  · intro source symbol edge
    exact (entered source symbol 0 edge).2 rfl
  · intro state production rule record reduces known recorded source word path length
    have words := reductions _ (mem_reductions reduces)
    simp only [known, recorded, List.all_eq_true, decide_eq_true_eq] at words
    exact words word (length ▸ mem_wordsInto path)

/-- Tables that pass the check accept at the end of input only. -/
theorem acceptsAtEnd_of_check {tables : TableBundle}
    (checked : tables.checkAcceptsAtEnd = true) : tables.AcceptsAtEnd := by
  simp only [checkAcceptsAtEnd, Bool.and_eq_true, List.all_eq_true] at checked
  obtain ⟨⟨entries, defaults⟩, reductions⟩ := checked
  refine ⟨?_, ?_, ?_, ?_⟩
  · intro state symbol reduces
    simpa using entries _ (mem_entries reduces)
  · intro state reduces
    simpa using defaults _ (mem_defaults reduces)
  · intro state reduces source symbol edge
    have sources := reductions _ (mem_reductions reduces)
    simp only [ne_eq, not_true_eq_false, decide_false, Bool.false_or, List.all_eq_true] at sources
    simpa using sources _ (mem_edges edge)
  · intro state target shifts
    simpa using entries _ (mem_entries shifts)

end TableBundle

/-! ## Derivation trees -/

/-- A tree is a derivation tree of a symbol: a leaf shifted for a lookahead with the symbol, nothing
in place of the error symbol, or a production with the symbol on its left and derivation trees of
the symbols on its right. -/
inductive Derives (tables : TableBundle) (shifted : List Lookahead) : ParseTree → Nat → Prop
  | leaf {token : Token} {symbol : Nat} (shown : ⟨some symbol, token⟩ ∈ shifted) :
      Derives tables shifted (.leaf token) symbol
  | empty : Derives tables shifted .empty tables.errorSymbol
  | node {production : Nat} {rule : Production} {record : ProductionRecord}
      {children : List ParseTree} (known : tables.production production = some rule)
      (recorded : tables.records[production]? = some record)
      (each : List.Forall₂ (Derives tables shifted) children record.rhs) :
      Derives tables shifted (.node production children) rule.lhs

/-- A derivation tree stays one when more lookaheads have been shifted. -/
theorem Derives.mono {tables : TableBundle} {shifted more : List Lookahead} {tree : ParseTree}
    {symbol : Nat} (derived : Derives tables shifted tree symbol) (kept : shifted ⊆ more) :
    Derives tables more tree symbol := by
  -- The children of a node are derived in a row, so the induction runs over rows as well.
  refine @Derives.rec tables shifted (fun tree symbol _ => Derives tables more tree symbol)
    (fun trees symbols _ => List.Forall₂ (Derives tables more) trees symbols)
    ?_ ?_ ?_ ?_ ?_ tree symbol derived
  · intro token symbol shown
    exact .leaf (kept shown)
  · exact .empty
  · intro production rule record children known recorded _ each
    exact .node known recorded each
  · exact .nil
  · intro tree symbol trees symbols _ _ first others
    exact .cons first others

/-! ## The stack as a path -/

/-- A stack over whose bottom every frame was entered by a transition from the one below, and holds
a derivation tree of that transition's symbol. -/
inductive Built (tables : TableBundle) (shifted : List Lookahead) : List (Frame ParseTree) → Prop
  | bottom : Built tables shifted [⟨0, .empty⟩]
  | push {below : Frame ParseTree} {rest : List (Frame ParseTree)} {state symbol : Nat}
      {value : ParseTree} (lower : Built tables shifted (below :: rest))
      (edge : tables.Edge below.state symbol state)
      (derived : Derives tables shifted value symbol) :
      Built tables shifted (⟨state, value⟩ :: below :: rest)

namespace Built

variable {tables : TableBundle} {shifted more : List Lookahead} {frames : List (Frame ParseTree)}

/-- A stack stays built when more lookaheads have been shifted. -/
theorem mono (built : Built tables shifted frames) (kept : shifted ⊆ more) :
    Built tables more frames := by
  induction built with
  | bottom => exact .bottom
  | push lower edge derived ih => exact .push ih edge (derived.mono kept)

/-- A built stack is not empty. -/
theorem exists_cons (built : Built tables shifted frames) :
    ∃ below rest, frames = below :: rest := by
  cases built with
  | bottom => exact ⟨_, _, rfl⟩
  | push lower edge derived => exact ⟨_, _, rfl⟩

/-- What is left of a stack that is cut back is built. -/
theorem of_suffix {kept : List (Frame ParseTree)} (built : Built tables shifted frames)
    (cut : kept <:+ frames) (filled : kept ≠ []) : Built tables shifted kept := by
  induction built with
  | bottom =>
    rcases List.suffix_cons_iff.mp cut with rfl | nothing
    · exact .bottom
    · exact absurd (List.suffix_nil.mp nothing) filled
  | push lower edge derived ih =>
    rcases List.suffix_cons_iff.mp cut with rfl | below
    · exact .push lower edge derived
    · exact ih below

/-- The topmost frames of a stack lie on a path to its top, and their values are derivation trees of
what the path spells. -/
theorem exists_path (built : Built tables shifted frames) {count : Nat}
    (deep : count < frames.length) :
    ∃ below rest top word, frames.drop count = below :: rest ∧ frames.head? = some top ∧
      tables.Path below.state word top.state ∧ word.length = count ∧
      List.Forall₂ (Derives tables shifted) (Frame.values (frames.take count)) word := by
  induction built generalizing count with
  | bottom =>
    have none_taken : count = 0 := by simpa using deep
    subst none_taken
    exact ⟨_, _, _, [], rfl, rfl, .stay, rfl, .nil⟩
  | @push below rest state symbol value lower edge derived ih =>
    cases count with
    | zero => exact ⟨_, _, _, [], rfl, rfl, .stay, rfl, .nil⟩
    | succ count =>
      obtain ⟨source, others, top, word, dropped, same, path, length, each⟩ :=
        ih (by simpa using deep)
      obtain rfl : below = top := by simpa using same
      refine ⟨source, others, _, word ++ [symbol], ?_, rfl, .step path edge, ?_, ?_⟩
      · simpa using dropped
      · simp [length]
      · rw [List.take_succ_cons, Frame.values_cons]
        exact List.rel_append each (.cons derived .nil)

/-- Over consistent tables, the values above the bottom are derivation trees of the symbols of their
states. -/
theorem exists_upper {accessing : Nat → Nat} (consistent : tables.LRConsistent accessing)
    (built : Built tables shifted frames) :
    ∃ upper, frames = upper ++ [⟨0, .empty⟩] ∧
      ∀ frame ∈ upper, Derives tables shifted frame.value (accessing frame.state) := by
  induction built with
  | bottom => exact ⟨[], rfl, by simp⟩
  | @push below rest state symbol value lower edge derived ih =>
    obtain ⟨upper, whole, each⟩ := ih
    refine ⟨⟨state, value⟩ :: upper, by rw [whole, List.cons_append], ?_⟩
    intro frame mem
    rcases List.mem_cons.mp mem with rfl | mem
    · rw [consistent.accessing_eq edge]
      exact derived
    · exact each frame mem

/-- Over consistent tables, a stack whose topmost state is entered from state 0 alone has nothing
between its top and its bottom. -/
theorem eq_pair {accessing : Nat → Nat} (consistent : tables.LRConsistent accessing)
    (built : Built tables shifted frames) (tall : 1 < frames.length) {top : Frame ParseTree}
    (first : frames.head? = some top)
    (entered : ∀ source symbol, tables.Edge source symbol top.state → source = 0) :
    frames = [top, ⟨0, .empty⟩] := by
  cases built with
  | bottom => simp at tall
  | @push below rest state symbol value lower edge derived =>
    obtain rfl : ⟨state, value⟩ = top := by simpa using first
    -- The frame below the top lies in state 0, which no transition enters.
    have at_zero : below.state = 0 := entered below.state symbol edge
    cases lower with
    | bottom => rfl
    | push deeper edge_below derived_below =>
      simp only at at_zero
      subst at_zero
      exact absurd edge_below (consistent.initial _ _)

end Built

namespace Engine

variable {L : Type} {lexer : Lexer} {tables : TableBundle} {options : EngineOptions}
  {listen : L → SyntaxError → L} {c next : Configuration (List Nat) ParseTree L}
  {shifted : List Lookahead} {accessing : Nat → Nat} {log : L}
  {input : List (Except Unmatched Token)} {trail : List (Configuration (List Nat) ParseTree L)}
  {outcome : Outcome (List Nat) ParseTree L}

/-- The state on top is that of the first frame. -/
theorem top_of_head? {top : Frame ParseTree} (first : c.stack.head? = some top) :
    c.top = top.state := by
  obtain ⟨rest, same⟩ := List.head?_eq_some_iff.mp first
  rw [Configuration.top, same]

/-- What a reduction by a production takes from a built stack are derivation trees of the symbols on
the production's right-hand side. -/
theorem derives_popped (consistent : tables.LRConsistent accessing)
    (built : Built tables shifted c.stack) {production : Nat} {rule : Production}
    {record : ProductionRecord}
    (looked : tables.lookup c.top c.lookahead.symbol = some (.reduce production))
    (known : tables.production production = some rule)
    (recorded : tables.records[production]? = some record)
    (deep : rule.length < c.stack.length) :
    List.Forall₂ (Derives tables shifted) (c.popped rule.length) record.rhs := by
  obtain ⟨below, rest, top, word, -, first, path, length, each⟩ := built.exists_path deep
  rw [top_of_head? first] at looked
  have spelled : word = record.rhs :=
    consistent.reduce top.state production rule record (TableBundle.reducesBy_of_lookup looked)
      known recorded below.state word path length
  rw [Frame.popped_eq, ← spelled]
  exact each

/-- A move keeps the stack built. -/
theorem built_of_moved (valid : tables.validate = .ok ()) (recorded : tables.records ≠ [])
    (consistent : tables.LRConsistent accessing) (built : Built tables shifted c.stack)
    (moved : Moved (treeEngine lexer tables options) listen c next) :
    Built tables (shifted ++ (treeEngine lexer tables options).shifted [c]) next.stack := by
  have kept := built.mono (List.subset_append_left shifted
    ((treeEngine lexer tables options).shifted [c]))
  obtain ⟨below, rest, whole⟩ := built.exists_cons
  have top : c.top = below.state := by rw [Configuration.top, whole]
  cases moved with
  | @shift state lookahead feed looked taken =>
    have in_tables : tables.lookup below.state c.lookahead.symbol = some (.shift state) :=
      top ▸ looked
    obtain ⟨symbol, same, edge⟩ := consistent.edge_of_lookup in_tables
    have shown : ⟨some symbol, c.lookahead.token⟩ ∈
        shifted ++ (treeEngine lexer tables options).shifted [c] := by
      simp [Engine.shifted, shifted?, looked, ← same]
    simp only [whole] at kept ⊢
    exact .push kept edge (.leaf shown)
  | @reduce production state rule context value looked inner known deep acted target =>
    have in_tables : tables.production production = some rule := known
    rw [reduceValue_treeEngine inner in_tables, Prod.mk.injEq, Except.ok.injEq] at acted
    obtain ⟨rfl, -⟩ := acted
    obtain ⟨record, there, -⟩ := TableBundle.exists_record valid recorded in_tables
    have children := derives_popped consistent kept looked in_tables there deep
    obtain ⟨lower, others, -, -, dropped, -⟩ := kept.exists_path deep
    have lower_built := kept.of_suffix (List.drop_suffix rule.length c.stack) (by simp [dropped])
    simp only [dropped] at lower_built target ⊢
    exact .push lower_built (.goto target) (.node in_tables there children)
  | @recover log errors state count stack lookahead feed looked reported unwound =>
    obtain ⟨frame, others, rfl, cut, shifts⟩ := TableBundle.unwind_eq_some unwound
    have lower_built := kept.of_suffix cut (by simp)
    exact .push lower_built (.shift shifts) .empty

/-- Wherever a parse comes to, its stack is built. -/
theorem built_of_trail (valid : tables.validate = .ok ()) (recorded : tables.records ≠ [])
    (consistent : tables.LRConsistent accessing)
    (before : Trail (treeEngine lexer tables options) listen log [] input trail c) :
    Built tables ((treeEngine lexer tables options).shifted trail) c.stack := by
  induction before with
  | start started =>
    obtain ⟨lookahead, feed, -, rfl⟩ := started_eq started
    exact .bottom
  | move before stepped ih =>
    have kept := built_of_moved valid recorded consistent ih (moved_of_step stepped)
    rwa [Engine.shifted, List.filterMap_append]

/-- An accepted value is a derivation tree of the goal's symbol, if the goal has one symbol. -/
theorem derives_of_accepted (consistent : tables.LRConsistent accessing)
    (built : Built tables shifted c.stack)
    (halted : (treeEngine lexer tables options).step listen c = .halt outcome) {value : ParseTree}
    (accepted : outcome.verdict = .ok value) {rule : Production} {record : ProductionRecord}
    (known : tables.production 0 = some rule) (single : rule.length = 1)
    (recorded : tables.records[0]? = some record) :
    ∃ symbol, record.rhs = [symbol] ∧ c.popped 1 = [value] ∧
      Derives tables shifted value symbol := by
  obtain ⟨looked, goal, is_goal, deep, same⟩ := accepts_of_halt halted accepted
  obtain rfl : rule = goal := Option.some.inj (known.symm.trans is_goal)
  have children := derives_popped consistent built looked known recorded deep
  rw [single] at children deep same
  have one : (c.popped 1).length = 1 := by
    simp only [Configuration.popped, List.length_reverse, List.length_map, List.length_take]
    omega
  obtain ⟨tree, alone⟩ := List.length_eq_one_iff.mp one
  rw [alone] at children same
  generalize record.rhs = symbols at children
  cases children with
  | @cons _ symbol _ _ derived others =>
    cases others
    rw [List.head?_cons, Option.getD_some] at same
    subst same
    exact ⟨symbol, rfl, alone, derived⟩

/-- Without recovery, an accepted value has all tokens before the end of input as its leaves. -/
theorem leaves_of_accepted (consistent : tables.LRConsistent accessing)
    (accepts : tables.AcceptsAtEnd)
    (before : Trail (treeEngine lexer tables options) listen log [] input trail c)
    (built : Built tables shifted c.stack)
    (looked : tables.lookup c.top c.lookahead.symbol = some (.reduce 0)) {value : ParseTree}
    (tall : 1 < c.stack.length) (alone : c.popped 1 = [value]) (unbroken : c.recoveries = 0) :
    value.leaves =
      ((tables.lookaheads input).takeWhile fun each => !tables.isEnd each).map Lookahead.token := by
  have unshifted : (treeEngine lexer tables options).tables.NeverShiftsEnd :=
    ⟨accepts.unshifted, consistent.default⟩
  obtain ⟨none_dropped, shifts⟩ := shifted_of_trail unshifted before unbroken
  have stands := stands_of_trail unshifted before
  rw [none_dropped, Nat.add_zero] at stands
  have passed : ((tables.lookaheads input).takeWhile fun each => !tables.isEnd each) =
      (treeEngine lexer tables options).shifted trail := by
    rw [shifts]
    apply stands.takeWhile_eq (accepts.isEnd_eq_true looked)
    intro earlier mem
    rw [← shifts] at mem
    exact isEnd_of_mem_shifted unshifted mem
  obtain ⟨top, rest, whole⟩ := built.exists_cons
  have at_top : c.top = top.state := by rw [Configuration.top, whole]
  have pair := built.eq_pair consistent tall (by rw [whole, List.head?_cons])
    (accepts.entered top.state (TableBundle.reducesBy_of_lookup (at_top ▸ looked)))
  have value_eq : top.value = value := by
    simpa [Configuration.popped, pair] using alone
  have leaves := (account_of_trail before).all_leaves unbroken
  rw [pair] at leaves
  simp only [Frame.values, List.reverse_cons, List.reverse_nil, List.nil_append,
    List.cons_append, List.map_cons, List.map_nil, List.flatMap_cons, List.flatMap_nil,
    ParseTree.leaves, List.append_nil] at leaves
  rw [passed, ← leaves, value_eq]

/-- A parse over tables of a grammar makes derivations. Let the tables pass their check, have
records, and be consistent with the grammar in these. Then, wherever a parse comes to, be it through
recoveries, every value above the bottom of its stack is a derivation tree of the symbol of its
state, with leaves shifted for lookaheads of their symbols. A value that a parse gives, if the goal
has one symbol, is a derivation tree of that symbol; and if the goal is reduced in front of the end
of input only, and there was no recovery, its leaves are all tokens in front of the end. -/
theorem parse_derives (valid : tables.validate = .ok ()) (recorded : tables.records ≠ [])
    (consistent : tables.LRConsistent accessing) (lexer : Lexer) (options : EngineOptions)
    (listen : L → SyntaxError → L) (log : L) (input : List (Except Unmatched Token)) :
    (∀ trail c, Trail (treeEngine lexer tables options) listen log [] input trail c →
      ∃ upper, c.stack = upper ++ [⟨0, .empty⟩] ∧ ∀ frame ∈ upper,
        Derives tables ((treeEngine lexer tables options).shifted trail) frame.value
          (accessing frame.state)) ∧
    (∀ rule, tables.production 0 = some rule → rule.length = 1 → ∀ limit outcome value,
      (treeEngine lexer tables options).parseTokens limit listen log [] input = some outcome →
      outcome.verdict = .ok value →
      ∃ trail c record symbol,
        Trail (treeEngine lexer tables options) listen log [] input trail c ∧
        (treeEngine lexer tables options).step listen c = .halt outcome ∧
        tables.records[0]? = some record ∧ record.rhs = [symbol] ∧
        Derives tables ((treeEngine lexer tables options).shifted trail) value symbol ∧
        (tables.AcceptsAtEnd → outcome.stats.recoveries = 0 → value.leaves =
          ((tables.lookaheads input).takeWhile fun each => !tables.isEnd each).map
            Lookahead.token)) := by
  refine ⟨?_, ?_⟩
  · intro trail c before
    exact (built_of_trail valid recorded consistent before).exists_upper consistent
  · intro rule known single limit outcome value ended accepted
    rcases trail_of_parseTokens ended with never_started | ⟨trail, c, before, halted⟩
    · obtain ⟨-, -, error, failed⟩ := counts_of_start never_started
      simp [failed] at accepted
    · have built := built_of_trail valid recorded consistent before
      obtain ⟨record, there, -⟩ := TableBundle.exists_record valid recorded known
      obtain ⟨symbol, rhs, alone, derived⟩ :=
        derives_of_accepted consistent built halted accepted known single there
      refine ⟨trail, c, record, symbol, before, halted, there, rhs, derived, ?_⟩
      intro accepts unbroken
      obtain ⟨looked, goal, is_goal, deep, -⟩ := accepts_of_halt halted accepted
      obtain rfl : rule = goal := Option.some.inj (known.symm.trans is_goal)
      rw [(counts_of_halt halted).1] at unbroken
      exact leaves_of_accepted consistent accepts before built looked (single ▸ deep) alone unbroken

/-- The symbols by which the states of the tables of statements are entered. -/
def statementSymbol (state : Nat) : Nat :=
  [0, 5, 3, 2, 3, 4, 4, 4].getD state 0

/-- The tables of statements are made of a grammar, so the value of two statements with a gap
between them has their four tokens as its leaves. -/
theorem parse_derives_statements :
    statementTables.validate = .ok () ∧ statementTables.records ≠ [] ∧
    statementTables.LRConsistent statementSymbol ∧ statementTables.AcceptsAtEnd ∧
    ∃ outcome value, (treeEngine ⟨[]⟩ statementTables .standard).parseTokens 20
        (fun log _ => log) () [] (sampleInput ["x", ";", "gap", "x", ";"]) = some outcome ∧
      outcome.verdict = .ok value ∧
      value.leaves = [sampleToken "x", sampleToken ";", sampleToken "x", sampleToken ";"] := by
  have valid : statementTables.validate = .ok () := by decide +kernel
  have recorded : statementTables.records ≠ [] := by simp [statementTables]
  have consistent : statementTables.LRConsistent statementSymbol :=
    TableBundle.lrConsistent_of_check (by decide)
  have accepts : statementTables.AcceptsAtEnd :=
    TableBundle.acceptsAtEnd_of_check (by decide)
  refine ⟨valid, recorded, consistent, accepts, ?_⟩
  have facts : ((treeEngine ⟨[]⟩ statementTables .standard).parseTokens 20 (fun log _ => log) ()
      [] (sampleInput ["x", ";", "gap", "x", ";"])).map
      (fun outcome => (outcome.verdict.toBool, outcome.stats.recoveries)) = some (true, 0) := by
    decide +kernel
  obtain ⟨outcome, ended, same⟩ := Option.map_eq_some_iff.mp facts
  obtain ⟨succeeds, unbroken⟩ := Prod.mk.inj same
  cases accepted : outcome.verdict with
  | error fault => simp [accepted, Except.toBool] at succeeds
  | ok value =>
    obtain ⟨-, gives⟩ := parse_derives valid recorded consistent ⟨[]⟩ .standard
      (fun log _ => log) () (sampleInput ["x", ";", "gap", "x", ";"])
    obtain ⟨-, -, -, -, -, -, -, -, -, leaves⟩ := gives _ rfl rfl 20 outcome value ended accepted
    refine ⟨outcome, value, ended, accepted, ?_⟩
    rw [leaves accepts unbroken]
    decide +kernel

end Engine

end ShaderSyntax
