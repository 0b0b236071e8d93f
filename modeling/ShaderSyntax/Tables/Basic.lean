import ShaderSyntax.Numeral.Whole
import ShaderSyntax.Tables.LabelMap
import ShaderSyntax.Text.Blank

/-!
# Parse tables

The tables that drive a shift-reduce parser: for every state a row of actions by symbol, a row of
targets by nonterminal and an optional default action, with the labels of the symbols and what is
known of the productions. Rows are lists of pairs; the first pair of a symbol counts, and the order
of a row is the order in which expected symbols are reported.
-/

set_option autoImplicit false

namespace ShaderSyntax

/-- What a state does with a symbol: enter a state, or reduce by a production. -/
inductive Action where
  | shift (state : Nat)
  | reduce (production : Nat)
  deriving DecidableEq, Repr

/-- What a reduction needs of a production. -/
structure Production where
  lhs : Nat
  /-- The number of symbols on its right-hand side. -/
  length : Nat
  deriving DecidableEq, Repr

/-- A production as the grammar compiler reports it. -/
structure ProductionRecord where
  id : Nat
  lhs : Nat
  rhs : List Nat
  /-- The marker found behind the rule's text, which names the rule's action. -/
  code : String
  deriving DecidableEq, Repr

/-- The rule that a marker names: an underscore and a number, blanks around them ignored. -/
def ProductionRecord.ruleId? (record : ProductionRecord) : Option Nat :=
  match Text.trim record.code.toList with
  | '_' :: digits => Numeral.decimal? digits
  | _ => none

/-- Parse tables with the digest of the grammar they were built from. -/
structure TableBundle where
  productions : List Production
  actions : List (List (Nat × Action))
  gotos : List (List (Nat × Nat))
  defaults : List (Option Action)
  labels : List String
  labelMap : LabelMap
  /-- The symbol of the end of input. -/
  endSymbol : Nat
  /-- The symbol that recovery shifts in place of what it gave up. -/
  errorSymbol : Nat
  /-- The symbol of tokens that the parser skips. -/
  skipSymbol : Option Nat
  records : List ProductionRecord
  hash : String
  deriving DecidableEq

/-- The value of the first pair with a key. -/
def findIn {β : Type} (row : List (Nat × β)) (key : Nat) : Option β :=
  (row.find? (·.1 == key)).map Prod.snd

namespace TableBundle

/-- The number of states. -/
def stateCount (tables : TableBundle) : Nat := tables.actions.length

/-- What a state does with exactly this symbol. -/
def action (tables : TableBundle) (state symbol : Nat) : Option Action :=
  (tables.actions[state]?).bind (findIn · symbol)

/-- What a state does with symbols of which its row says nothing. -/
def defaultAction (tables : TableBundle) (state : Nat) : Option Action :=
  (tables.defaults[state]?).join

/-- What a state does with a lookahead; a token of unknown kind has no symbol. -/
def lookup (tables : TableBundle) (state : Nat) (symbol : Option Nat) : Option Action :=
  (symbol.bind (tables.action state)).or (tables.defaultAction state)

/-- Where a state goes after a reduction to a nonterminal. -/
def goto (tables : TableBundle) (state symbol : Nat) : Option Nat :=
  (tables.gotos[state]?).bind (findIn · symbol)

/-- What a reduction needs of a production. -/
def production (tables : TableBundle) (index : Nat) : Option Production :=
  tables.productions[index]?

/-- The symbol of a label. -/
def symbol (tables : TableBundle) (label : String) : Option Nat :=
  tables.labelMap.get? label

/-- The label of a symbol, a question mark for an unknown one. -/
def label (tables : TableBundle) (symbol : Nat) : String :=
  (tables.labels[symbol]?).getD "?"

/-- The labels of the symbols in a state's row, in order. -/
def expected (tables : TableBundle) (state : Nat) : List String :=
  ((tables.actions[state]?).getD []).map fun entry => tables.label entry.1

/-- The tables with the label map built anew from the labels. -/
def indexLabels (tables : TableBundle) : TableBundle :=
  { tables with labelMap := LabelMap.ofLabels tables.labels }

/-- The tables with a label map, built from the labels where there is none. -/
def ensureIndexed (tables : TableBundle) : TableBundle :=
  if tables.labelMap.isEmpty then tables.indexLabels else tables

end TableBundle

end ShaderSyntax
