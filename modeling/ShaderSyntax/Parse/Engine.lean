import ShaderSyntax.Parse.Error
import ShaderSyntax.Parse.Feed
import ShaderSyntax.Token.Lexer

/-!
# The shift-reduce engine

A parser walks its tables over a feed of tokens. A configuration holds all that a parse knows: the
stack of frames, the lookahead and the feed behind it, the errors so far, the counts, and the
caller's context. `Engine.step` makes one move of it: it shifts, reduces, or recovers; `Engine.run`
makes moves until the parse ends.

Recovery reports the rejected lookahead, cuts the stack back to the topmost state that shifts the
error symbol, shifts that symbol, and drops lookaheads until one is acceptable. Behind a recovery no
error is reported until three symbols have been shifted, and a parse that did not shift at all since
then gives up one lookahead first, so that recovery cannot stall.

Production 0 is the goal: reducing by it ends the parse, and no action belongs to it.
-/

set_option autoImplicit false

namespace ShaderSyntax

/-- Values that a parser keeps on its stack. -/
class StackValue (V : Type) where
  /-- The value of a shifted token. -/
  ofToken : Token → V
  /-- The value of the bottom of the stack, of a shifted error symbol, and of an empty production
  without action. -/
  empty : V

/-- The meaning of a production: from the values of its right-hand side, oldest first, it makes a
value or fails with a text; either way it may have changed the context. -/
abbrev SemanticAction (C V : Type) := C → List V → Except String V × C

/-- How a parser reacts to errors. -/
structure EngineOptions where
  /-- Recover from syntax errors instead of stopping at the first. -/
  recover : Bool
  /-- The lines shown on both sides of a syntax error. -/
  contextLines : Nat
  deriving DecidableEq, Repr

/-- Recovery is on and two lines of context are shown. -/
def EngineOptions.standard : EngineOptions := ⟨true, 2⟩

/-- A parser: token rules, tables, and the action of each production. -/
structure Engine (C V : Type) where
  lexer : Lexer
  tables : TableBundle
  /-- The action of each production by its number; a missing one passes the first value on. -/
  actions : List (Option (SemanticAction C V))
  options : EngineOptions

/-- The number of shifts behind a recovery during which no error is reported. -/
def recoveryWindow : Nat := 3

/-- A state on the stack with the value of the symbol that led to it. -/
structure Frame (V : Type) where
  state : Nat
  value : V

/-- Counts of a parse. -/
structure ParseStats where
  tokens : Nat
  shifts : Nat
  reductions : Nat
  recoveries : Nat
  /-- Lookaheads dropped by recovery. -/
  discarded : Nat
  deriving DecidableEq, Repr

/-- All that a parse knows between two moves. `C` is the caller's context, `L` what the caller's
listener made of the reported errors. -/
structure Configuration (C V L : Type) where
  context : C
  log : L
  /-- The frames, topmost first; the last one is the bottom, which no symbol led to. -/
  stack : List (Frame V)
  lookahead : Lookahead
  feed : Feed
  /-- Shifts still to come before errors are reported again. -/
  countdown : Nat
  /-- The reported errors in order. -/
  errors : List SyntaxError
  shifts : Nat
  reductions : Nat
  recoveries : Nat
  discarded : Nat

/-- How a parse ended. -/
structure Outcome (C V L : Type) where
  verdict : Except ParseError V
  context : C
  log : L
  errors : List SyntaxError
  stats : ParseStats

/-- A move of a parse: on to another configuration, or to its end. -/
inductive Move (C V L : Type) where
  | next (configuration : Configuration C V L)
  | halt (outcome : Outcome C V L)

variable {C V L : Type}

namespace Configuration

/-- The state on top of the stack. -/
def top (c : Configuration C V L) : Nat :=
  match c.stack with
  | [] => 0
  | frame :: _ => frame.state

/-- The counts so far. -/
def stats (c : Configuration C V L) : ParseStats :=
  ⟨c.feed.taken, c.shifts, c.reductions, c.recoveries, c.discarded⟩

/-- Ends the parse here. -/
def halt (c : Configuration C V L) (verdict : Except ParseError V) : Move C V L :=
  .halt ⟨verdict, c.context, c.log, c.errors, c.stats⟩

/-- Ends the parse here with the first reported error. -/
def giveUp (c : Configuration C V L) : Move C V L :=
  c.halt (.error (match c.errors with
    | error :: _ => .rejected error
    | [] => .misfit .unreported))

end Configuration

/-- The syntax error of a lookahead in a state. -/
def TableBundle.syntaxError (tables : TableBundle) (state : Nat) (lookahead : Lookahead) :
    SyntaxError :=
  { line := lookahead.token.span.start.line
    column := lookahead.token.span.start.column
    offset := lookahead.token.offset
    kind := lookahead.token.kind
    text := lookahead.token.text
    expected := tables.expected state }

/-- Cuts the stack back to the topmost frame whose state shifts the error symbol; gives the state
entered by that shift and the frames that stay. -/
def TableBundle.unwind (tables : TableBundle) : List (Frame V) → Option (Nat × List (Frame V))
  | [] => none
  | frame :: rest =>
    match tables.action frame.state tables.errorSymbol with
    | some (.shift state) => some (state, frame :: rest)
    | _ => tables.unwind rest

/-- What dropping lookaheads led to. -/
inductive Resync where
  /-- An acceptable lookahead, the feed behind it, and the number of those dropped. -/
  | found (lookahead : Lookahead) (feed : Feed) (dropped : Nat)
  /-- The end of input came first. -/
  | exhausted (feed : Feed) (dropped : Nat)
  /-- The tokens ended in a fault. -/
  | faulty (fault : Unmatched) (feed : Feed) (dropped : Nat)

/-- Drops lookaheads until the state has an action for one; `dropped` counts those before. -/
def TableBundle.resync (tables : TableBundle) (state : Nat) (lookahead : Lookahead) (feed : Feed)
    (dropped : Nat) : Resync :=
  if (tables.lookup state lookahead.symbol).isSome then .found lookahead feed dropped
  else if open_ended : tables.isEnd lookahead then .exhausted feed dropped
  else
    match h : feed.next tables with
    | .error fault => .faulty fault feed dropped
    | .ok (next, rest) =>
      have := Feed.next_weight (by simpa using open_ended) h
      tables.resync state next rest (dropped + 1)
termination_by feed.weight tables lookahead

namespace Engine

/-- The action of a production; the goal has none. -/
def action? (engine : Engine C V) (production : Nat) : Option (SemanticAction C V) :=
  if production = 0 then none else (engine.actions[production]?).join

variable [StackValue V]

/-- The value of a production: what its action makes of the values, or the first of them. -/
def reduceValue (engine : Engine C V) (production : Nat) (context : C) (values : List V) :
    Except String V × C :=
  match engine.action? production with
  | some action => action context values
  | none => (.ok (values.head?.getD StackValue.empty), context)

/-- Takes the next lookahead. -/
def advance (engine : Engine C V) (c : Configuration C V L) : Move C V L :=
  match c.feed.next engine.tables with
  | .error fault => c.halt (.error (.unmatched fault))
  | .ok (lookahead, feed) => .next { c with lookahead, feed }

/-- Shifts the lookahead and enters a state. -/
def shift (engine : Engine C V) (c : Configuration C V L) (state : Nat) : Move C V L :=
  engine.advance { c with
    stack := ⟨state, StackValue.ofToken c.lookahead.token⟩ :: c.stack
    shifts := c.shifts + 1
    countdown := c.countdown - 1 }

/-- Reduces by a production. -/
def reduce (engine : Engine C V) (c : Configuration C V L) (production : Nat) : Move C V L :=
  match engine.tables.production production with
  | none => c.halt (.error (.misfit (.noProduction production)))
  | some p =>
    if c.stack.length ≤ p.length then c.halt (.error (.misfit (.shortStack production)))
    else
      let values := ((c.stack.take p.length).map Frame.value).reverse
      let c := { c with stack := c.stack.drop p.length }
      match engine.reduceValue production c.context values with
      | (.error text, context) =>
        { c with context }.halt
          (.error (.action production c.lookahead.token.span.start.line text))
      | (.ok value, context) =>
        let c := { c with context, reductions := c.reductions + 1 }
        if production = 0 then c.halt (.ok value)
        else
          match engine.tables.goto c.top p.lhs with
          | none => c.halt (.error (.misfit (.noGoto c.top (engine.tables.label p.lhs))))
          | some state => .next { c with stack := ⟨state, value⟩ :: c.stack }

/-- Shifts the error symbol where that is possible, and drops lookaheads until one is acceptable. -/
def resume (engine : Engine C V) (c : Configuration C V L) : Move C V L :=
  match engine.tables.unwind c.stack with
  | none => c.giveUp
  | some (state, stack) =>
    let c := { c with stack := ⟨state, StackValue.empty⟩ :: stack }
    match engine.tables.resync state c.lookahead c.feed 0 with
    | .exhausted feed dropped =>
      { c with feed, discarded := c.discarded + dropped }.giveUp
    | .faulty fault feed dropped =>
      { c with feed, discarded := c.discarded + dropped }.halt (.error (.unmatched fault))
    | .found lookahead feed dropped =>
      .next { c with
        lookahead, feed
        discarded := c.discarded + dropped
        countdown := recoveryWindow
        recoveries := c.recoveries + 1 }

/-- Reports the rejected lookahead to the listener and in the list of errors. -/
def report (engine : Engine C V) (listen : L → SyntaxError → L) (c : Configuration C V L) :
    Configuration C V L :=
  let error := engine.tables.syntaxError c.top c.lookahead
  { c with log := listen c.log error, errors := c.errors ++ [error] }

/-- Recovers from a rejected lookahead. -/
def recover (engine : Engine C V) (listen : L → SyntaxError → L) (c : Configuration C V L) :
    Move C V L :=
  if c.countdown = 0 then
    let c := engine.report listen c
    if engine.options.recover then engine.resume c else c.giveUp
  else if c.countdown = recoveryWindow then
    if engine.tables.isEnd c.lookahead then c.giveUp
    else
      match engine.advance c with
      | .halt outcome => .halt outcome
      | .next c => engine.resume { c with discarded := c.discarded + 1 }
  else engine.resume c

/-- Makes one move. -/
def step (engine : Engine C V) (listen : L → SyntaxError → L) (c : Configuration C V L) :
    Move C V L :=
  match engine.tables.lookup c.top c.lookahead.symbol with
  | some (.shift state) => engine.shift c state
  | some (.reduce production) => engine.reduce c production
  | none => engine.recover listen c

/-- Makes at most `limit` moves; gives the outcome if the parse ended within them. -/
def run (engine : Engine C V) (listen : L → SyntaxError → L) :
    Nat → Configuration C V L → Option (Outcome C V L)
  | 0, _ => none
  | limit + 1, c =>
    match engine.step listen c with
    | .halt outcome => some outcome
    | .next c => run engine listen limit c

/-- The first configuration of a parse, or its end if the first token is a fault. -/
def start (engine : Engine C V) (context : C) (log : L) (input : List (Except Unmatched Token)) :
    Move C V L :=
  let feed := Feed.ofInput input
  match feed.next engine.tables with
  | .error fault => .halt ⟨.error (.unmatched fault), context, log, [], ⟨0, 0, 0, 0, 0⟩⟩
  | .ok (lookahead, feed) => .next
    { context, log, lookahead, feed
      stack := [⟨0, StackValue.empty⟩]
      countdown := 0
      errors := []
      shifts := 0
      reductions := 0
      recoveries := 0
      discarded := 0 }

/-- Parses tokens within `limit` moves. The listener is told every reported error in order. -/
def parseTokens (engine : Engine C V) (limit : Nat) (listen : L → SyntaxError → L) (log : L)
    (context : C) (input : List (Except Unmatched Token)) : Option (Outcome C V L) :=
  match engine.start context log input with
  | .halt outcome => some outcome
  | .next c => engine.run listen limit c

/-- Cuts a source into tokens and parses them within `limit` moves. -/
def parse (engine : Engine C V) (limit : Nat) (listen : L → SyntaxError → L) (log : L)
    (context : C) (source : String) : Option (Outcome C V L) :=
  engine.parseTokens limit listen log context (engine.lexer.stream source)

/-- A number of moves beyond any parse that can be carried out. -/
def standardLimit : Nat := Nat.pow 2 60

/-- A finished parse stays finished, with the same outcome, when more moves are allowed. -/
theorem run_mono {engine : Engine C V} {listen : L → SyntaxError → L} {limit more : Nat}
    {c : Configuration C V L} {outcome : Outcome C V L}
    (h : engine.run listen limit c = some outcome) :
    engine.run listen (limit + more) c = some outcome := by
  induction limit generalizing c with
  | zero => simp [run] at h
  | succ limit ih =>
    rw [Nat.add_right_comm]
    rw [run] at h ⊢
    split <;> rename_i heq <;> rw [heq] at h
    · exact h
    · exact ih h

end Engine

end ShaderSyntax
