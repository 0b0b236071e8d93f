import ShaderSyntax.Proofs.Parse.Truncation

/-!
# Skipped tokens do not matter

A parser passes the tokens of the skipped symbol over. All that they leave behind is the place just
past the last token read, and the next token that is not skipped overwrites it. So where an input
does not end in skipped tokens (`TableBundle.Settled`), a parse of it and one of the input without
them make the same moves: a configuration and the one that has only the visible tokens ahead of it
correspond (`Engine.step_visible`), and the outcomes are equal. Inputs with the same visible tokens
have therefore the same parse (`Engine.parse_eq_of_visible`).
-/

set_option autoImplicit false

namespace ShaderSyntax

variable {C V L : Type}

/-! ## What is visible of an input -/

namespace TableBundle

/-- Whether an item of an input is a token that a parser passes over. -/
def passesOver (tables : TableBundle) : Except Unmatched Token → Bool
  | .ok token => tables.skips (tables.symbol token.kind)
  | .error _ => false

/-- An input without the tokens that are passed over. -/
def visible (tables : TableBundle) (input : List (Except Unmatched Token)) :
    List (Except Unmatched Token) :=
  input.filter fun item => !tables.passesOver item

/-- An input does not end in a token that is passed over: behind each of these there is an item of
another kind. -/
def Settled (tables : TableBundle) (input : List (Except Unmatched Token)) : Prop :=
  ∀ item ∈ input.getLast?, tables.passesOver item = false

/-- Whether an input is settled is decided tail by tail. -/
instance (tables : TableBundle) (input : List (Except Unmatched Token)) :
    Decidable (tables.Settled input) :=
  inferInstanceAs (Decidable (∀ item ∈ input.getLast?, tables.passesOver item = false))

variable {tables : TableBundle} {item : Except Unmatched Token}
  {input rest : List (Except Unmatched Token)}

/-- An item that is passed over is not visible. -/
theorem visible_cons_of_passesOver (passed : tables.passesOver item = true) :
    tables.visible (item :: rest) = tables.visible rest := by
  simp [visible, passed]

/-- An item that is not passed over is visible. -/
theorem visible_cons_of_not (seen : tables.passesOver item = false) :
    tables.visible (item :: rest) = item :: tables.visible rest := by
  simp [visible, seen]

/-- The tail of a settled input is settled. -/
theorem Settled.tail (settled : tables.Settled (item :: rest)) : tables.Settled rest := by
  intro last ends
  rw [Option.mem_def] at ends
  exact settled last (by rw [List.getLast?_cons, ends, Option.getD_some, Option.mem_def])

/-- Behind a token that is passed over something is visible. -/
theorem Settled.exists_visible (settled : tables.Settled (item :: rest))
    (passed : tables.passesOver item = true) :
    ∃ first more, tables.visible rest = first :: more ∧ tables.passesOver first = false := by
  -- the last item of the input is visible, so the search along the rest finds one
  induction rest generalizing item with
  | nil =>
    have ends := settled item rfl
    rw [passed] at ends
    contradiction
  | cons next rest ih =>
    cases seen : tables.passesOver next with
    | true =>
      rw [visible_cons_of_passesOver seen]
      exact ih settled.tail seen
    | false => exact ⟨next, tables.visible rest, visible_cons_of_not seen, seen⟩

end TableBundle

/-! ## What is visible of a configuration -/

/-- A feed with only the visible tokens ahead. -/
def Feed.visible (tables : TableBundle) (feed : Feed) : Feed :=
  { feed with input := tables.visible feed.input }

/-- A configuration with only the visible tokens ahead. -/
def Configuration.visible (tables : TableBundle) (c : Configuration C V L) : Configuration C V L :=
  { c with feed := c.feed.visible tables }

/-- A move with only the visible tokens ahead. -/
def Move.visible (tables : TableBundle) : Move C V L → Move C V L
  | .next c => .next (c.visible tables)
  | .halt outcome => .halt outcome

/-- What dropping lookaheads led to, with only the visible tokens ahead. -/
def Resync.visible (tables : TableBundle) : Resync → Resync
  | .found lookahead feed dropped => .found lookahead (feed.visible tables) dropped
  | .exhausted feed dropped => .exhausted (feed.visible tables) dropped
  | .faulty fault feed dropped => .faulty fault (feed.visible tables) dropped

namespace Feed

variable {tables : TableBundle} {taken offset : Nat} {place : Position}
  {input : List (Except Unmatched Token)} {lookahead : Lookahead} {feed : Feed}

/-- Where the first item is not passed over, what was read before it does not matter. -/
theorem nextFrom_eq_of_seen {item : Except Unmatched Token} {rest : List (Except Unmatched Token)}
    (seen : tables.passesOver item = false) (other : Nat) (elsewhere : Position) :
    nextFrom tables taken offset place (item :: rest) =
      nextFrom tables taken other elsewhere (item :: rest) := by
  cases item with
  | error fault => rfl
  | ok token =>
    have wanted : ¬tables.skips (tables.symbol token.kind) = true := by
      simpa [TableBundle.passesOver] using seen
    simp only [nextFrom, if_neg wanted]

/-- The next lookahead is the next visible one. -/
theorem nextFrom_visible (settled : tables.Settled input) :
    nextFrom tables taken offset place (tables.visible input) =
      (nextFrom tables taken offset place input).map (Prod.map id (visible tables)) := by
  induction input generalizing offset place with
  | nil => rfl
  | cons item rest ih =>
    cases item with
    | error fault => rfl
    | ok token =>
      cases seen : tables.passesOver (.ok token) with
      | false =>
        have wanted : ¬tables.skips (tables.symbol token.kind) = true := by
          simpa [TableBundle.passesOver] using seen
        rw [TableBundle.visible_cons_of_not seen]
        simp only [nextFrom, if_neg wanted]
        rfl
      | true =>
        -- a skipped token only moves the place, which the visible item behind it replaces
        obtain ⟨first, more, ahead, first_seen⟩ := settled.exists_visible seen
        have skipped : tables.skips (tables.symbol token.kind) = true := seen
        rw [TableBundle.visible_cons_of_passesOver seen]
        simp only [nextFrom, if_pos skipped]
        rw [← ih settled.tail, ahead]
        exact nextFrom_eq_of_seen first_seen _ _

/-- The next lookahead is the same among the visible items, and what is left is what is visible of
the rest. -/
theorem next_visible (settled : tables.Settled feed.input) :
    (feed.visible tables).next tables =
      (feed.next tables).map (Prod.map id (visible tables)) :=
  nextFrom_visible settled

/-- What is left behind a lookahead does not end in skipped tokens either. -/
theorem settled_of_nextFrom (settled : tables.Settled input)
    (next : nextFrom tables taken offset place input = .ok (lookahead, feed)) :
    tables.Settled feed.input := by
  induction input generalizing offset place with
  | nil =>
    simp only [nextFrom, Except.ok.injEq, Prod.mk.injEq] at next
    obtain ⟨-, rfl⟩ := next
    exact settled
  | cons item rest ih =>
    cases item with
    | error fault => simp [nextFrom] at next
    | ok token =>
      simp only [nextFrom] at next
      split at next
      case isTrue => exact ih settled.tail next
      case isFalse =>
        simp only [Except.ok.injEq, Prod.mk.injEq] at next
        obtain ⟨-, rfl⟩ := next
        exact settled.tail

/-- What is left behind the next lookahead is settled. -/
theorem settled_of_next {rest : Feed} (settled : tables.Settled feed.input)
    (next : feed.next tables = .ok (lookahead, rest)) : tables.Settled rest.input :=
  settled_of_nextFrom settled next

end Feed

/-- What is left behind dropped lookaheads is settled. -/
theorem TableBundle.Drops.settled {tables : TableBundle} {first last : Lookahead}
    {feed rest : Feed} {count : Nat} (drops : tables.Drops first feed count last rest)
    (settled : tables.Settled feed.input) : tables.Settled rest.input := by
  induction drops with
  | none => exact settled
  | drop open_ended taken others ih => exact ih (Feed.settled_of_next settled taken)

/-- Dropping lookaheads drops visible ones only. -/
theorem TableBundle.resync_visible {tables : TableBundle} {feed : Feed}
    (settled : tables.Settled feed.input) (state : Nat) (lookahead : Lookahead) (dropped : Nat) :
    tables.resync state lookahead (feed.visible tables) dropped =
      (tables.resync state lookahead feed dropped).visible tables := by
  -- both feeds have the same next lookahead, so both scans drop the same ones
  fun_induction TableBundle.resync tables state lookahead feed dropped with
  | case1 lookahead feed dropped acceptable =>
    rw [TableBundle.resync, if_pos acceptable]
    rfl
  | case2 lookahead feed dropped rejected ended =>
    rw [TableBundle.resync, if_neg rejected, dif_pos ended]
    rfl
  | case3 lookahead feed dropped rejected open_ended fault taken =>
    have next := Feed.next_visible settled
    rw [taken] at next
    rw [TableBundle.resync, if_neg rejected, dif_neg open_ended]
    split
    case h_1 other same =>
      obtain rfl := Except.error.inj (next.symm.trans same)
      rfl
    case h_2 same => cases next.symm.trans same
  | case4 lookahead feed dropped rejected open_ended following behind taken _ ih =>
    have next := Feed.next_visible settled
    rw [taken] at next
    rw [TableBundle.resync, if_neg rejected, dif_neg open_ended]
    split
    case h_1 same => cases next.symm.trans same
    case h_2 same =>
      obtain ⟨rfl, rfl⟩ := Prod.mk.inj (Except.ok.inj (next.symm.trans same))
      exact ih (Feed.settled_of_next settled taken)

namespace Engine

variable {engine : Engine C V} {listen : L → SyntaxError → L} {c next : Configuration C V L}

/-! ## Moves -/

/-- Going to the next lookahead does the same on the visible items. -/
theorem advance_visible (settled : engine.tables.Settled c.feed.input) :
    engine.advance (c.visible engine.tables) = (engine.advance c).visible engine.tables := by
  have same : (c.visible engine.tables).feed.next engine.tables =
      (c.feed.next engine.tables).map (Prod.map id (Feed.visible engine.tables)) :=
    Feed.next_visible settled
  unfold advance
  rw [same]
  rcases c.feed.next engine.tables with fault | ⟨lookahead, feed⟩ <;> rfl

variable [StackValue V]

/-- Shifting does the same on the visible items. -/
theorem shift_visible (state : Nat) (settled : engine.tables.Settled c.feed.input) :
    engine.shift (c.visible engine.tables) state =
      (engine.shift c state).visible engine.tables := by
  unfold shift
  rw [← advance_visible]
  · rfl
  · exact settled

/-- A reduction does not look at what is ahead. -/
theorem reduce_visible (production : Nat) :
    engine.reduce (c.visible engine.tables) production =
      (engine.reduce c production).visible engine.tables := by
  have stack : (c.visible engine.tables).stack = c.stack := rfl
  have context : (c.visible engine.tables).context = c.context := rfl
  unfold reduce
  rw [stack, context]
  cases engine.tables.production production with
  | none => rfl
  | some rule =>
    simp only
    split
    case isTrue short => rfl
    case isFalse deep =>
      rcases engine.reduceValue production c.context _ with ⟨text | value, after⟩
      · rfl
      · simp only
        split
        case isTrue goal => rfl
        case isFalse inner =>
          simp only [Configuration.top]
          split <;> rfl

/-- Resuming does the same on the visible items. -/
theorem resume_visible (settled : engine.tables.Settled c.feed.input) :
    engine.resume (c.visible engine.tables) = (engine.resume c).visible engine.tables := by
  have stack : (c.visible engine.tables).stack = c.stack := rfl
  unfold resume
  rw [stack]
  cases engine.tables.unwind c.stack with
  | none => rfl
  | some found =>
    have resync : engine.tables.resync found.1 (c.visible engine.tables).lookahead
        (c.visible engine.tables).feed 0 =
        (engine.tables.resync found.1 c.lookahead c.feed 0).visible engine.tables :=
      TableBundle.resync_visible settled found.1 c.lookahead 0
    simp only [resync]
    cases engine.tables.resync found.1 c.lookahead c.feed 0 <;> rfl

/-- A recovery does the same on the visible items. -/
theorem recover_visible (settled : engine.tables.Settled c.feed.input) :
    engine.recover listen (c.visible engine.tables) =
      (engine.recover listen c).visible engine.tables := by
  have countdown : (c.visible engine.tables).countdown = c.countdown := rfl
  have lookahead : (c.visible engine.tables).lookahead = c.lookahead := rfl
  unfold Engine.recover
  rw [countdown, lookahead]
  split
  · -- an error that is reported: recovery goes on with the same lookahead, or the parse ends
    split
    · exact resume_visible (c := engine.report listen c) settled
    · rfl
  · split
    · -- an error right behind another one: first the lookahead is given up
      split
      · rfl
      · rw [advance_visible settled]
        cases advanced : engine.advance c with
        | halt outcome => rfl
        | next later =>
          obtain ⟨following, behind, taken, rfl⟩ := advanced_eq advanced
          exact resume_visible (c := { c with
            lookahead := following
            feed := behind
            discarded := c.discarded + 1 }) (Feed.settled_of_next settled taken)
    · exact resume_visible settled

/-- A move with only the visible tokens ahead is the same move. -/
theorem step_visible (settled : engine.tables.Settled c.feed.input) :
    engine.step listen (c.visible engine.tables) =
      (engine.step listen c).visible engine.tables := by
  have top : (c.visible engine.tables).top = c.top := rfl
  have lookahead : (c.visible engine.tables).lookahead = c.lookahead := rfl
  unfold step
  rw [top, lookahead]
  cases engine.tables.lookup c.top c.lookahead.symbol with
  | none => exact recover_visible settled
  | some action =>
    cases action with
    | shift state => exact shift_visible state settled
    | reduce production => exact reduce_visible production

/-- What is ahead does not end in skipped tokens after a move if it did not before. -/
theorem settled_of_moved (moved : Moved engine listen c next)
    (settled : engine.tables.Settled c.feed.input) : engine.tables.Settled next.feed.input := by
  cases moved with
  | shift looked taken => exact Feed.settled_of_next settled taken
  | reduce => exact settled
  | recover looked reported unwound dropped => exact dropped.settled settled

/-! ## Whole parses -/

variable {input : List (Except Unmatched Token)}

/-- A run with only the visible tokens ahead ends in the same way, within as many moves. -/
theorem run_visible (limit : Nat) (settled : engine.tables.Settled c.feed.input) :
    engine.run listen limit (c.visible engine.tables) = engine.run listen limit c := by
  -- that the input is settled is kept by moves, and it makes each move a visible one
  induction limit generalizing c with
  | zero => rfl
  | succ limit ih =>
    rw [run, run, step_visible settled]
    cases stepped : engine.step listen c with
    | halt outcome => rfl
    | next next => exact ih (settled_of_moved (moved_of_step stepped) settled)

/-- Starting does the same on the visible items. -/
theorem start_visible (settled : engine.tables.Settled input) (context : C) (log : L) :
    engine.start context log (engine.tables.visible input) =
      (engine.start context log input).visible engine.tables := by
  have next : (Feed.ofInput (engine.tables.visible input)).next engine.tables =
      ((Feed.ofInput input).next engine.tables).map (Prod.map id (Feed.visible engine.tables)) :=
    Feed.nextFrom_visible settled
  unfold start
  simp only [next]
  rcases (Feed.ofInput input).next engine.tables with fault | ⟨lookahead, feed⟩ <;> rfl

/-- The visible tokens of an input that does not end in skipped ones have the same parse. -/
theorem parseTokens_visible (settled : engine.tables.Settled input) (limit : Nat) (log : L)
    (context : C) :
    engine.parseTokens limit listen log context (engine.tables.visible input) =
      engine.parseTokens limit listen log context input := by
  unfold parseTokens
  rw [start_visible settled]
  cases started : engine.start context log input with
  | halt outcome => rfl
  | next c =>
    obtain ⟨lookahead, feed, taken, rfl⟩ := started_eq started
    refine run_visible limit ?_
    exact Feed.settled_of_nextFrom settled taken

/-- Tokens of one character on a line, each with the number of characters before it. -/
def placedInput (kinds : List (String × Nat)) : List (Except Unmatched Token) :=
  kinds.map fun (kind, offset) =>
    .ok ⟨kind, "_", offset, ⟨⟨1, offset + 1⟩, ⟨1, offset + 2⟩⟩⟩

/-- A gap behind the last token is not invisible: the end of input is just past it. -/
example : (statementEngine.parseTokens 40 (fun log error => log ++ [error.offset]) [] []
      (placedInput [("x", 0), ("gap", 1)])).map Outcome.log = some [2] ∧
    (statementEngine.parseTokens 40 (fun log error => log ++ [error.offset]) [] []
      (placedInput [("x", 0)])).map Outcome.log = some [1] := by
  decide +kernel

end Engine

end ShaderSyntax
