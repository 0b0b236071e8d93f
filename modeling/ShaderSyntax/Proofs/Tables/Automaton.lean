import ShaderSyntax.Tables.Basic

/-!
# Tables as an automaton

The transitions of parse tables, by their shifts and their gotos, the paths that these make up, and
the productions by which a state reduces. Each of these is also listed, so that what is said of all
transitions or all paths into a state can be computed (`TableBundle.mem_edges`,
`TableBundle.mem_reductions`, `TableBundle.mem_wordsInto`).
-/

set_option autoImplicit false

namespace ShaderSyntax

/-- A value found in a row stands there under its key. -/
theorem mem_of_findIn {β : Type} {row : List (Nat × β)} {key : Nat} {value : β}
    (found : findIn row key = some value) : (key, value) ∈ row := by
  obtain ⟨entry, first, rfl⟩ := Option.map_eq_some_iff.mp found
  have same : entry.1 = key := by simpa using List.find?_some first
  rw [← same]
  exact List.mem_of_find?_eq_some first

namespace TableBundle

variable {tables : TableBundle}

/-- All entries of the rows of actions: state, symbol and action. -/
def entries (tables : TableBundle) : List (Nat × Nat × Action) :=
  tables.actions.zipIdx.flatMap fun row => row.1.map fun entry => (row.2, entry.1, entry.2)

/-- What a state does with a symbol stands in its row. -/
theorem mem_entries {state symbol : Nat} {action : Action}
    (acts : tables.action state symbol = some action) :
    (state, symbol, action) ∈ tables.entries := by
  obtain ⟨row, there, found⟩ := Option.bind_eq_some_iff.mp acts
  refine List.mem_flatMap.mpr ⟨(row, state), List.mem_zipIdx_iff_getElem?.mpr there, ?_⟩
  exact List.mem_map.mpr ⟨(symbol, action), mem_of_findIn found, rfl⟩

/-- What a state does by default stands in the column of defaults. -/
theorem mem_defaults {state : Nat} {action : Action}
    (acts : tables.defaultAction state = some action) : some action ∈ tables.defaults :=
  List.mem_of_getElem? (Option.join_eq_some_iff.mp acts)

/-- The transitions of tables: a state shifts a symbol, or goes on with it after a reduction. -/
inductive Edge (tables : TableBundle) (source symbol target : Nat) : Prop
  | shift (shifts : tables.action source symbol = some (.shift target))
  | goto (goes : tables.goto source symbol = some target)

/-- All transitions: state, symbol and the state entered. -/
def edges (tables : TableBundle) : List (Nat × Nat × Nat) :=
  (tables.entries.filterMap fun
    | (state, symbol, .shift target) => some (state, symbol, target)
    | _ => none) ++
  tables.gotos.zipIdx.flatMap fun row => row.1.map fun entry => (row.2, entry.1, entry.2)

/-- Every edge is listed. -/
theorem mem_edges {source symbol target : Nat} (edge : tables.Edge source symbol target) :
    (source, symbol, target) ∈ tables.edges := by
  cases edge with
  | shift shifts =>
    apply List.mem_append_left
    exact List.mem_filterMap.mpr ⟨_, mem_entries shifts, rfl⟩
  | goto goes =>
    obtain ⟨row, there, found⟩ := Option.bind_eq_some_iff.mp goes
    apply List.mem_append_right
    refine List.mem_flatMap.mpr ⟨(row, source), List.mem_zipIdx_iff_getElem?.mpr there, ?_⟩
    exact List.mem_map.mpr ⟨(symbol, target), mem_of_findIn found, rfl⟩

/-- Transitions in a row from one state to another, and the symbols they spell. -/
inductive Path (tables : TableBundle) (source : Nat) : List Nat → Nat → Prop
  | stay : Path tables source [] source
  | step {word : List Nat} {middle symbol target : Nat} (before : Path tables source word middle)
      (edge : tables.Edge middle symbol target) : Path tables source (word ++ [symbol]) target

/-- What is spelled by the paths of a given length that end in a state. -/
def wordsInto (tables : TableBundle) : Nat → Nat → List (List Nat)
  | 0, _ => [[]]
  | length + 1, state =>
    (tables.edges.filter (·.2.2 = state)).flatMap fun edge =>
      (tables.wordsInto length edge.1).map (· ++ [edge.2.1])

/-- A word that leads into a state is listed among those of its length. -/
theorem mem_wordsInto {source state : Nat} {word : List Nat}
    (path : tables.Path source word state) : word ∈ tables.wordsInto word.length state := by
  induction path with
  | stay => exact List.mem_singleton.mpr rfl
  | @step word middle symbol target before edge ih =>
    rw [List.length_append, List.length_singleton, wordsInto]
    refine List.mem_flatMap.mpr ⟨(middle, symbol, target), ?_, List.mem_map.mpr ⟨word, ih, rfl⟩⟩
    exact List.mem_filter.mpr ⟨mem_edges edge, by simp⟩

/-- A state reduces by a production, in front of some symbol or by default. -/
def ReducesBy (tables : TableBundle) (state production : Nat) : Prop :=
  (∃ symbol, tables.action state symbol = some (.reduce production)) ∨
    tables.defaultAction state = some (.reduce production)

/-- All reductions: state and production. -/
def reductions (tables : TableBundle) : List (Nat × Nat) :=
  (tables.entries.filterMap fun
    | (state, _, .reduce production) => some (state, production)
    | _ => none) ++
  tables.defaults.zipIdx.filterMap fun
    | (some (.reduce production), state) => some (state, production)
    | _ => none

/-- Every reduction is listed. -/
theorem mem_reductions {state production : Nat} (reduces : tables.ReducesBy state production) :
    (state, production) ∈ tables.reductions := by
  rcases reduces with ⟨symbol, by_row⟩ | by_default
  · apply List.mem_append_left
    exact List.mem_filterMap.mpr ⟨_, mem_entries by_row, rfl⟩
  · apply List.mem_append_right
    have there : tables.defaults[state]? = some (some (.reduce production)) :=
      Option.join_eq_some_iff.mp by_default
    exact List.mem_filterMap.mpr ⟨(some (.reduce production), state),
      List.mem_zipIdx_iff_getElem?.mpr there, rfl⟩

/-- An action found for a lookahead stands in the row under its symbol, or is the default. -/
theorem lookup_eq_some {state : Nat} {symbol : Option Nat} {action : Action}
    (looked : tables.lookup state symbol = some action) :
    (∃ known, symbol = some known ∧ tables.action state known = some action) ∨
      tables.defaultAction state = some action := by
  rw [lookup, Option.or_eq_some_iff] at looked
  rcases looked with by_row | ⟨-, by_default⟩
  · exact .inl (Option.bind_eq_some_iff.mp by_row)
  · exact .inr by_default

/-- A reduction in front of a lookahead is one of its state. -/
theorem reducesBy_of_lookup {state production : Nat} {symbol : Option Nat}
    (looked : tables.lookup state symbol = some (.reduce production)) :
    tables.ReducesBy state production := by
  rcases lookup_eq_some looked with ⟨known, -, reduces⟩ | by_default
  · exact .inl ⟨known, reduces⟩
  · exact .inr by_default

end TableBundle

end ShaderSyntax
