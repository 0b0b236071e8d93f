import ShaderSyntax.Grammar.Basic

/-!
# Binding actions to productions

The records of a table bundle say with a marker which rule each production comes from; binding looks
up that rule's action. The goal, production 0, has no action whatever its marker. The main
statements are that a successful binding has one entry per record (`length_bind`), and that the
entry of a production other than the goal is the action of the rule that its record names
(`getElem?_bind`).
-/

set_option autoImplicit false

namespace ShaderSyntax

/-- Why the actions of a grammar do not fit a bundle. -/
inductive BindError where
  | noRecords
  /-- A production's marker names no rule. -/
  | unknownRule (production : Nat) (code : String)
  deriving DecidableEq, Repr

/-- The message of a failed binding. -/
def BindError.message : BindError → String
  | .noRecords => "table bundle has no production records"
  | .unknownRule production code =>
    s!"production {production} carries marker {Text.quoted code} that names no rule"

namespace Grammar

variable {C V : Type}

/-- The rule that a record's marker names. -/
def ruleOf? (grammar : Grammar C V) (record : ProductionRecord) : Option (GrammarRule C V) :=
  record.ruleId?.bind (grammar.rules[·]?)

/-- Binds the productions from number `production` on. -/
def bindFrom (grammar : Grammar C V) (production : Nat) :
    List ProductionRecord → Except BindError (List (Option (SemanticAction C V)))
  | [] => .ok []
  | record :: rest =>
    match grammar.ruleOf? record with
    | none => .error (.unknownRule production record.code)
    | some rule => (grammar.bindFrom (production + 1) rest).map (rule.action :: ·)

/-- The action of every production of a bundle. -/
def bind (grammar : Grammar C V) (tables : TableBundle) :
    Except BindError (List (Option (SemanticAction C V))) :=
  match tables.records with
  | [] => .error .noRecords
  | _ :: rest => (grammar.bindFrom 1 rest).map (none :: ·)

variable {grammar : Grammar C V} {tables : TableBundle}
  {actions : List (Option (SemanticAction C V))}

/-- Bound actions are, record by record, the actions of the rules that the markers name. -/
theorem bindFrom_eq_map {production : Nat} {records : List ProductionRecord}
    (h : grammar.bindFrom production records = .ok actions) :
    actions = records.map fun record => (grammar.ruleOf? record).bind GrammarRule.action := by
  induction records generalizing production actions with
  | nil =>
    simp only [bindFrom, Except.ok.injEq] at h
    simp [← h]
  | cons record rest ih =>
    rw [bindFrom] at h
    split at h
    · simp at h
    · rename_i rule named
      cases more : grammar.bindFrom (production + 1) rest with
      | error e => simp [more, Except.map] at h
      | ok found =>
        simp only [more, Except.map, Except.ok.injEq] at h
        rw [← h, ih more, List.map_cons, named, Option.bind_some]

/-- Bound actions are none for the goal, and then those of the rules that the records name. -/
theorem bind_eq_ok (h : grammar.bind tables = .ok actions) :
    ∃ goal rest, tables.records = goal :: rest ∧ actions = none :: rest.map fun record =>
      (grammar.ruleOf? record).bind GrammarRule.action := by
  rw [bind] at h
  split at h
  · simp at h
  · rename_i goal rest same
    cases more : grammar.bindFrom 1 rest with
    | error e => simp [more, Except.map] at h
    | ok found =>
      simp only [more, Except.map, Except.ok.injEq] at h
      exact ⟨goal, rest, same, by rw [← h, bindFrom_eq_map more]⟩

/-- A bundle whose actions are bound has one for every record. -/
theorem length_bind (h : grammar.bind tables = .ok actions) :
    actions.length = tables.records.length := by
  obtain ⟨goal, rest, same, rfl⟩ := bind_eq_ok h
  simp [same]

/-- A production other than the goal has the action of the rule that its record names. -/
theorem getElem?_bind (h : grammar.bind tables = .ok actions) {production : Nat}
    (inner : production ≠ 0) :
    (actions[production]?).join = (tables.records[production]?).bind fun record =>
      (grammar.ruleOf? record).bind GrammarRule.action := by
  obtain ⟨production, rfl⟩ := Nat.exists_eq_succ_of_ne_zero inner
  obtain ⟨goal, rest, same, rfl⟩ := bind_eq_ok h
  rw [same, List.getElem?_cons_succ, List.getElem?_cons_succ, List.getElem?_map]
  cases rest[production]? <;> rfl

end Grammar

end ShaderSyntax
