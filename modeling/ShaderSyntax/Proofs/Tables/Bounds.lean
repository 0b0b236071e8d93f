import Mathlib.Data.List.Forall2
import ShaderSyntax.Proofs.Tables.Automaton
import ShaderSyntax.Tables.Validity

/-!
# Consistent tables lead somewhere

What the check of tables says: exactly the tables pass whose cross-references agree with each other
and lead to states, productions and symbols that exist (`TableBundle.validate_iff_consistent`). To a
parser this says that an action that is looked up, in a row or by default, enters a state of the
tables or reduces by a production of the tables, and so does a goto. There is one reference that the
check leaves out: a symbol on the right-hand side of a production's record need not exist
(`TableBundle.validate_unknown_right_hand`).
-/

set_option autoImplicit false

namespace ShaderSyntax

/-- What holds of all items holds of them with their places. -/
theorem forall_mem_zipIdx_iff {α : Type} (items : List α) (holds : α → Prop) :
    (∀ placed ∈ items.zipIdx, holds placed.1) ↔ ∀ item ∈ items, holds item := by
  rw [← List.forall_mem_map (f := Prod.fst), List.zipIdx_map_fst]

namespace TableBundle

/-- What an action leads to is there: a state of the tables, or a production of the tables. -/
def Leads (tables : TableBundle) : Action → Prop
  | .shift target => target < tables.stateCount
  | .reduce production => production < tables.productions.length

/-- An action has no faults if it leads to something the tables have. -/
theorem actionFaults_eq_nil_iff {tables : TableBundle} {state : Nat} {action : Action} :
    tables.actionFaults state action = [] ↔ tables.Leads action := by
  cases action <;> simp only [actionFaults, Leads, require_eq_nil]

/-- A record agrees with the production it describes. -/
def Describes (record : ProductionRecord) (production : Production) : Prop :=
  record.lhs = production.lhs ∧ record.rhs.length = production.length

/-- Tables whose cross-references lead somewhere. There is a row for each state; rows, columns and
productions refer to symbols, states and productions of the tables; the symbols with a role of their
own are symbols; records, if there are any, describe the productions one by one; and the index leads
to the labels it lists. -/
structure Consistent (tables : TableBundle) : Prop where
  some_state : 0 < tables.stateCount
  goto_rows : tables.gotos.length = tables.stateCount
  default_rows : tables.defaults.length = tables.stateCount
  actions : ∀ row ∈ tables.actions, ∀ entry ∈ row,
    entry.1 < tables.labels.length ∧ tables.Leads entry.2
  defaults : ∀ action, some action ∈ tables.defaults → tables.Leads action
  gotos : ∀ row ∈ tables.gotos, ∀ entry ∈ row,
    entry.1 < tables.labels.length ∧ entry.2 < tables.stateCount
  productions : ∀ production ∈ tables.productions, production.lhs < tables.labels.length
  end_symbol : tables.endSymbol < tables.labels.length
  error_symbol : tables.errorSymbol < tables.labels.length
  skip_symbol : ∀ symbol, tables.skipSymbol = some symbol → symbol < tables.labels.length
  records : tables.records ≠ [] → List.Forall₂ Describes tables.records tables.productions
  record_symbols : ∀ record ∈ tables.records, record.lhs < tables.labels.length
  label_map : ∀ entry ∈ tables.labelMap.entries,
    ∃ known : entry.2 < tables.labels.length, tables.labels[entry.2] = entry.1

variable {tables : TableBundle}

/-! ## What it takes to be without faults -/

/-- An entry of an action row has no faults if its symbol has a label and its action leads
somewhere. -/
theorem entryFaults_eq_nil_iff {state : Nat} {entry : Nat × Action} :
    tables.entryFaults state entry = [] ↔
      entry.1 < tables.labels.length ∧ tables.Leads entry.2 := by
  rw [entryFaults, List.append_eq_nil_iff, require_eq_nil, actionFaults_eq_nil_iff]

/-- An entry of a goto row has no faults if its symbol has a label and its state is in the tables.
-/
theorem gotoFaults_eq_nil_iff {state : Nat} {entry : Nat × Nat} :
    tables.gotoFaults state entry = [] ↔
      entry.1 < tables.labels.length ∧ entry.2 < tables.stateCount := by
  rw [gotoFaults, List.append_eq_nil_iff, require_eq_nil, require_eq_nil]

/-- A column of defaults with a row for each state is gone through with the states. -/
theorem stateFaults_eq_nil_iff (rows : tables.defaults.length = tables.stateCount) :
    (∀ row ∈ tables.actions.zipIdx, tables.stateFaults row.1 row.2 = []) ↔
      (∀ row ∈ tables.actions, ∀ entry ∈ row,
        entry.1 < tables.labels.length ∧ tables.Leads entry.2) ∧
      ∀ action, some action ∈ tables.defaults → tables.Leads action := by
  simp only [stateFaults, List.append_eq_nil_iff, List.flatMap_eq_nil_iff, entryFaults_eq_nil_iff]
  constructor
  · intro clean
    refine ⟨(forall_mem_zipIdx_iff _ _).mp fun row mem => (clean row mem).1, ?_⟩
    intro action mem
    obtain ⟨state, there⟩ := List.mem_iff_getElem?.mp mem
    have inside : state < tables.actions.length := by
      rw [← stateCount, ← rows]
      exact (List.getElem?_eq_some_iff.mp there).1
    have of_state := (clean (tables.actions[state], state)
      (List.mem_zipIdx_iff_getElem?.mpr (List.getElem?_eq_getElem inside))).2
    have acts : tables.defaultAction state = some action := Option.join_eq_some_iff.mpr there
    rw [acts, Option.elim_some, actionFaults_eq_nil_iff] at of_state
    exact of_state
  · rintro ⟨entries, defaults⟩ row mem
    refine ⟨(forall_mem_zipIdx_iff _ _).mpr entries row mem, ?_⟩
    cases acts : tables.defaultAction row.2 with
    | none => rfl
    | some action => exact actionFaults_eq_nil_iff.mpr (defaults action (mem_defaults acts))

/-- The special symbols have labels if those of the end, of errors and of skipping do. -/
theorem specialSymbols_iff :
    (∀ symbol ∈ tables.specialSymbols, symbol.2 < tables.labels.length) ↔
      tables.endSymbol < tables.labels.length ∧ tables.errorSymbol < tables.labels.length ∧
      ∀ symbol, tables.skipSymbol = some symbol → symbol < tables.labels.length := by
  rw [specialSymbols, List.forall_mem_cons, List.forall_mem_cons]
  cases tables.skipSymbol <;> simp

/-- Records are without faults if they describe the productions one by one. -/
theorem recordFaults_eq_nil_iff : tables.recordFaults = [] ↔
    (tables.records ≠ [] → List.Forall₂ Describes tables.records tables.productions) := by
  unfold recordFaults
  by_cases unrecorded : tables.records = []
  · simp [unrecorded]
  · rw [if_neg (by simpa using unrecorded), List.append_eq_nil_iff, require_eq_nil,
      List.flatMap_eq_nil_iff, List.forall₂_iff_zip]
    simp only [require_eq_nil, unrecorded, ne_eq, not_false_eq_true, true_implies]
    refine and_congr_right fun _ => ?_
    refine (forall_mem_zipIdx_iff (tables.records.zip tables.productions)
      fun pair => Describes pair.1 pair.2).trans ?_
    exact ⟨fun all record production mem => all (record, production) mem,
      fun all pair mem => all mem⟩

/-- The left-hand symbols of records are those of the productions they describe, so they exist as
well. -/
theorem record_symbols_of_describes
    (described : tables.records ≠ [] → List.Forall₂ Describes tables.records tables.productions)
    (productions : ∀ production ∈ tables.productions, production.lhs < tables.labels.length) :
    ∀ record ∈ tables.records, record.lhs < tables.labels.length := by
  intro record mem
  obtain ⟨same_length, each⟩ := List.forall₂_iff_get.mp (described (List.ne_nil_of_mem mem))
  obtain ⟨index, inside, rfl⟩ := List.mem_iff_getElem.mp mem
  have agrees := each index inside (same_length ▸ inside)
  rw [List.get_eq_getElem, List.get_eq_getElem] at agrees
  rw [agrees.1]
  exact productions _ (List.getElem_mem _)

/-- Tables are without faults exactly if they are consistent. -/
theorem faults_eq_nil_iff : tables.faults = [] ↔ tables.Consistent := by
  have rows_iff := forall_mem_zipIdx_iff tables.gotos fun row => ∀ entry ∈ row,
    entry.1 < tables.labels.length ∧ entry.2 < tables.stateCount
  have productions_iff := forall_mem_zipIdx_iff tables.productions fun production =>
    production.lhs < tables.labels.length
  simp only [faults, List.append_eq_nil_iff, List.flatMap_eq_nil_iff, require_eq_nil,
    gotoFaults_eq_nil_iff, specialSymbols_iff, recordFaults_eq_nil_iff,
    List.getElem?_eq_some_iff, rows_iff, productions_iff]
  constructor
  · rintro ⟨⟨⟨⟨⟨⟨⟨⟨states, goto_rows⟩, default_rows⟩, rows⟩, gotos⟩, productions⟩,
      end_symbol, error_symbol, skip_symbol⟩, records⟩, label_map⟩
    have rows := (stateFaults_eq_nil_iff default_rows).mp rows
    exact {
      some_state := Nat.pos_of_ne_zero states
      actions := rows.1
      defaults := rows.2
      record_symbols := record_symbols_of_describes records productions
      goto_rows, default_rows, gotos, productions, end_symbol, error_symbol, skip_symbol, records,
      label_map }
  · intro consistent
    have rows := (stateFaults_eq_nil_iff consistent.default_rows).mpr
      ⟨consistent.actions, consistent.defaults⟩
    exact ⟨⟨⟨⟨⟨⟨⟨⟨Nat.ne_of_gt consistent.some_state, consistent.goto_rows⟩,
      consistent.default_rows⟩, rows⟩, consistent.gotos⟩, consistent.productions⟩,
      consistent.end_symbol, consistent.error_symbol, consistent.skip_symbol⟩,
      consistent.records⟩, consistent.label_map⟩

/-! ## Consistent tables pass their check, and no others -/

/-- Tables that pass validation are consistent. -/
theorem consistent_of_validate (valid : tables.validate = .ok ()) : tables.Consistent :=
  faults_eq_nil_iff.mp (tables.validate_eq_ok_iff.mp valid)

/-- Consistent tables pass validation. -/
theorem validate_of_consistent (consistent : tables.Consistent) : tables.validate = .ok () :=
  tables.validate_eq_ok_iff.mpr (faults_eq_nil_iff.mpr consistent)

/-- The check passes exactly the tables whose cross-references agree and lead to states, productions
and symbols that exist. Of the right-hand side of a record it counts the symbols, and does not look
them up. -/
theorem validate_iff_consistent (tables : TableBundle) :
    tables.validate = .ok () ↔ tables.Consistent :=
  ⟨consistent_of_validate, validate_of_consistent⟩

/-- Tables that pass their check with one symbol, 0, though the record of their one production has
symbol 9 on its right-hand side. -/
theorem validate_unknown_right_hand :
    let tables : TableBundle :=
      { productions := [⟨0, 1⟩], actions := [[]], gotos := [[]], defaults := [none],
        labels := ["goal"], labelMap := LabelMap.ofLabels ["goal"], endSymbol := 0,
        errorSymbol := 0, skipSymbol := none, records := [⟨0, 0, [9], ""⟩], hash := "" }
    tables.validate = .ok () ∧
      ∃ record ∈ tables.records, ∃ symbol ∈ record.rhs, ¬symbol < tables.labels.length := by
  intro tables
  refine ⟨?_, ⟨0, 0, [9], ""⟩, by simp [tables], 9, by simp, by simp [tables]⟩
  rw [validate_eq_ok_iff]
  decide +kernel

/-! ## What a parser looks up -/

/-- Consistent tables have a state. -/
theorem stateCount_pos (valid : tables.validate = .ok ()) : 0 < tables.stateCount :=
  (consistent_of_validate valid).some_state

/-- What a row of consistent tables says leads somewhere. -/
theorem leads_of_action (valid : tables.validate = .ok ()) {state symbol : Nat} {action : Action}
    (acts : tables.action state symbol = some action) : tables.Leads action := by
  obtain ⟨row, there, found⟩ := Option.bind_eq_some_iff.mp acts
  have entries := (consistent_of_validate valid).actions row (List.mem_of_getElem? there)
  exact (entries _ (mem_of_findIn found)).2

/-- A default action of consistent tables leads somewhere. -/
theorem leads_of_defaultAction (valid : tables.validate = .ok ()) {state : Nat} {action : Action}
    (acts : tables.defaultAction state = some action) : tables.Leads action :=
  (consistent_of_validate valid).defaults action (mem_defaults acts)

/-- What consistent tables do with a lookahead leads somewhere. -/
theorem leads_of_lookup (valid : tables.validate = .ok ()) {state : Nat} {symbol : Option Nat}
    {action : Action} (looked : tables.lookup state symbol = some action) :
    tables.Leads action := by
  rcases lookup_eq_some looked with ⟨known, -, by_row⟩ | by_default
  · exact leads_of_action valid by_row
  · exact leads_of_defaultAction valid by_default

/-- A goto of consistent tables enters a state of the tables. -/
theorem goto_lt (valid : tables.validate = .ok ()) {state symbol target : Nat}
    (goes : tables.goto state symbol = some target) : target < tables.stateCount := by
  obtain ⟨row, there, found⟩ := Option.bind_eq_some_iff.mp goes
  have entries := (consistent_of_validate valid).gotos row (List.mem_of_getElem? there)
  exact (entries _ (mem_of_findIn found)).2

end TableBundle

end ShaderSyntax
