import ShaderSyntax.Tables.Basic
import ShaderSyntax.Text.Quoted

/-!
# Consistency of parse tables

Whether every index in a table points at something that exists. The faults of a bundle are listed in
a fixed order, and checking reports the first. The main statement says that a bundle passes exactly
when it has no faults (`validate_eq_ok_iff`).
-/

set_option autoImplicit false

namespace ShaderSyntax

/-- A way in which tables contradict themselves. -/
inductive TableError where
  | noStates
  | rowCount (table : String) (expected found : Nat)
  | unknownSymbol (state symbol : Nat)
  | unknownState (state target : Nat)
  | unknownProduction (state production : Nat)
  | leftHand (production symbol : Nat)
  | special (name : String) (symbol : Nat)
  | record (production : Nat)
  | labelMap (label : String) (symbol : Nat)
  deriving DecidableEq, Repr

/-- The message of a fault. -/
def TableError.message : TableError → String
  | .noStates => "table has no states"
  | .rowCount table expected found => s!"{table} has {found} rows, expected {expected}"
  | .unknownSymbol state symbol => s!"state {state} refers to unknown symbol {symbol}"
  | .unknownState state target => s!"state {state} refers to unknown target state {target}"
  | .unknownProduction state production =>
    s!"state {state} refers to unknown production {production}"
  | .leftHand production symbol =>
    s!"production {production} has unknown left-hand symbol {symbol}"
  | .special name symbol => s!"{name} symbol {symbol} is not a known symbol"
  | .record production =>
    s!"production record {production} disagrees with the production table"
  | .labelMap label symbol =>
    s!"label map entry {Text.quoted label} -> {symbol} disagrees with the label table"

namespace TableBundle

/-- A fault if the condition fails. -/
def require (holds : Prop) [Decidable holds] (fault : TableError) : List TableError :=
  if holds then [] else [fault]

/-- A requirement reports nothing exactly if it is met. -/
@[simp] theorem require_eq_nil {holds : Prop} [Decidable holds] {fault : TableError} :
    require holds fault = [] ↔ holds := by
  unfold require
  split <;> simp_all

/-- A state's action leads somewhere. -/
def actionFaults (tables : TableBundle) (state : Nat) : Action → List TableError
  | .shift target => require (target < tables.stateCount) (.unknownState state target)
  | .reduce production =>
    require (production < tables.productions.length) (.unknownProduction state production)

/-- The faults of an action table's entry. -/
def entryFaults (tables : TableBundle) (state : Nat) (entry : Nat × Action) : List TableError :=
  require (entry.1 < tables.labels.length) (.unknownSymbol state entry.1) ++
    tables.actionFaults state entry.2

/-- The faults of a state's actions: first those of its row, then that of its default. -/
def stateFaults (tables : TableBundle) (row : List (Nat × Action)) (state : Nat) :
    List TableError :=
  row.flatMap (tables.entryFaults state) ++
    (tables.defaultAction state).elim [] (tables.actionFaults state)

/-- The faults of a goto table's entry. -/
def gotoFaults (tables : TableBundle) (state : Nat) (entry : Nat × Nat) : List TableError :=
  require (entry.1 < tables.labels.length) (.unknownSymbol state entry.1) ++
    require (entry.2 < tables.stateCount) (.unknownState state entry.2)

/-- The symbols with a role of their own, by name. -/
def specialSymbols (tables : TableBundle) : List (String × Nat) :=
  ("eof", tables.endSymbol) :: ("error", tables.errorSymbol) ::
    (tables.skipSymbol.map fun symbol => ("discard", symbol)).toList

/-- The faults of the production records, if there are any records. -/
def recordFaults (tables : TableBundle) : List TableError :=
  if tables.records.isEmpty then []
  else
    require (tables.records.length = tables.productions.length)
      (.rowCount "productions" tables.productions.length tables.records.length) ++
    ((tables.records.zip tables.productions).zipIdx.flatMap fun pair =>
      require (pair.1.1.lhs = pair.1.2.lhs ∧ pair.1.1.rhs.length = pair.1.2.length)
        (.record pair.2))

/-- All faults, in the order in which they are looked for. -/
def faults (tables : TableBundle) : List TableError :=
  require (tables.stateCount ≠ 0) .noStates ++
  require (tables.gotos.length = tables.stateCount)
    (.rowCount "goto_tab" tables.stateCount tables.gotos.length) ++
  require (tables.defaults.length = tables.stateCount)
    (.rowCount "defact_tab" tables.stateCount tables.defaults.length) ++
  (tables.actions.zipIdx.flatMap fun row => tables.stateFaults row.1 row.2) ++
  (tables.gotos.zipIdx.flatMap fun row => row.1.flatMap (tables.gotoFaults row.2)) ++
  (tables.productions.zipIdx.flatMap fun production =>
    require (production.1.lhs < tables.labels.length)
      (.leftHand production.2 production.1.lhs)) ++
  (tables.specialSymbols.flatMap fun symbol =>
    require (symbol.2 < tables.labels.length) (.special symbol.1 symbol.2)) ++
  tables.recordFaults ++
  (tables.labelMap.entries.flatMap fun entry =>
    require (tables.labels[entry.2]? = some entry.1) (.labelMap entry.1 entry.2))

/-- Checks that every index of the tables points at something; reports the first fault. -/
def validate (tables : TableBundle) : Except TableError Unit :=
  match tables.faults with
  | [] => .ok ()
  | fault :: _ => .error fault

/-- The check passes exactly where there are no faults. -/
theorem validate_eq_ok_iff (tables : TableBundle) :
    tables.validate = .ok () ↔ tables.faults = [] := by
  unfold validate
  split <;> simp_all

end TableBundle

end ShaderSyntax
