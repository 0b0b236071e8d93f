import ShaderSyntax.Tables.Basic
import ShaderSyntax.Token.Basic

/-!
# The feed of lookaheads

How a parser takes its tokens: those of the skipped symbol are passed over, and behind the last one
the end of input can be taken any number of times. The main statement is that taking a lookahead
uses up the feed (`Feed.next_weight`).
-/

set_option autoImplicit false

namespace ShaderSyntax

/-- The token a parser looks at; its symbol is missing when the tables do not know its kind. -/
structure Lookahead where
  symbol : Option Nat
  token : Token
  deriving DecidableEq, Repr

/-- The tokens ahead, the place just past the last one taken, and how many were taken that were not
skipped. -/
structure Feed where
  input : List (Except Unmatched Token)
  offset : Nat
  place : Position
  taken : Nat

namespace Feed

/-- A feed from which nothing has been taken. -/
def ofInput (input : List (Except Unmatched Token)) : Feed :=
  ⟨input, 0, Position.origin, 0⟩

end Feed

/-- The end of input as a lookahead at a place. -/
def TableBundle.endLookahead (tables : TableBundle) (offset : Nat) (place : Position) :
    Lookahead :=
  ⟨some tables.endSymbol, ⟨tables.label tables.endSymbol, "", offset, ⟨place, place⟩⟩⟩

/-- A lookahead with the symbol of the end of input. -/
def TableBundle.isEnd (tables : TableBundle) (lookahead : Lookahead) : Bool :=
  lookahead.symbol == some tables.endSymbol

/-- Tokens with this symbol are passed over. -/
def TableBundle.skips (tables : TableBundle) (symbol : Option Nat) : Bool :=
  symbol.isSome && symbol == tables.skipSymbol

namespace Feed

/-- Takes the next lookahead from the tokens ahead; `offset` and `place` are just past the last
token taken. -/
def nextFrom (tables : TableBundle) (taken offset : Nat) (place : Position) :
    List (Except Unmatched Token) → Except Unmatched (Lookahead × Feed)
  | [] => .ok (tables.endLookahead offset place, ⟨[], offset, place, taken⟩)
  | .error fault :: _ => .error fault
  | .ok token :: rest =>
    let symbol := tables.symbol token.kind
    let offset := token.offset + utf8Length token.text.toList
    if tables.skips symbol then nextFrom tables taken offset token.span.stop rest
    else .ok (⟨symbol, token⟩, ⟨rest, offset, token.span.stop, taken + 1⟩)

/-- Takes the next lookahead. -/
def next (tables : TableBundle) (feed : Feed) : Except Unmatched (Lookahead × Feed) :=
  nextFrom tables feed.taken feed.offset feed.place feed.input

/-- What is left to take: the tokens ahead and the lookahead itself, unless it is the end. -/
def weight (tables : TableBundle) (lookahead : Lookahead) (feed : Feed) : Nat :=
  feed.input.length + if tables.isEnd lookahead then 0 else 1

/-- What is left once a lookahead is taken weighs no more than the items it was taken from. -/
theorem nextFrom_weight {tables : TableBundle} {taken offset : Nat} {place : Position}
    {input : List (Except Unmatched Token)} {lookahead : Lookahead} {feed : Feed}
    (h : nextFrom tables taken offset place input = .ok (lookahead, feed)) :
    feed.weight tables lookahead < input.length + 1 := by
  induction input generalizing offset place with
  | nil =>
    simp only [nextFrom, Except.ok.injEq, Prod.mk.injEq] at h
    obtain ⟨rfl, rfl⟩ := h
    simp [weight, TableBundle.isEnd, TableBundle.endLookahead]
  | cons item rest ih =>
    cases item with
    | error fault => simp [nextFrom] at h
    | ok token =>
      simp only [nextFrom] at h
      split at h
      · exact Nat.lt_succ_of_lt (ih h)
      · simp only [Except.ok.injEq, Prod.mk.injEq] at h
        obtain ⟨rfl, rfl⟩ := h
        simp only [weight, List.length_cons]
        split <;> omega

/-- Behind a lookahead that is not the end, taking another one leaves less to take. -/
theorem next_weight {tables : TableBundle} {old new : Lookahead} {feed feed' : Feed}
    (open_ended : tables.isEnd old = false) (h : feed.next tables = .ok (new, feed')) :
    feed'.weight tables new < feed.weight tables old := by
  have := nextFrom_weight h
  simpa [weight, open_ended] using this

end Feed

end ShaderSyntax
