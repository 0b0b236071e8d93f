import ShaderSyntax.Proofs.Parse.Reports

/-!
# Recovery is minimal

Where a recovery resumes, said without its loops. It cuts the stack back to the topmost frame that
shifts the error symbol (`TableBundle.CutsAt`), and goes on with the first acceptable one of the
lookaheads ahead, up to the first end of input (`TableBundle.ahead`); if nothing was shifted since
the last recovery, the current lookahead is no candidate (`Engine.candidates`). The main statement
is that a recovery succeeds exactly if there are such a frame and such a lookahead, that it drops
nothing but the lookaheads before the first such one, and that it ends the parse with the first
reported error otherwise (`Engine.recovery_minimal`). What the two loops do is said for whole
recoveries by `Engine.Recovers`.
-/

set_option autoImplicit false

namespace ShaderSyntax

variable {C V L : Type}

namespace TableBundle

/-! ## The lookaheads ahead -/

/-- Lookaheads up to the first end of input, which is one of them. -/
def untilEnd (tables : TableBundle) : List Lookahead → List Lookahead
  | [] => []
  | lookahead :: rest =>
    if tables.isEnd lookahead then [lookahead] else lookahead :: untilEnd tables rest

/-- The end of input behind the last token of a feed. -/
def endBehind (tables : TableBundle) (feed : Feed) : Lookahead :=
  match (feed.input.filterMap Except.toOption).getLast? with
  | some token =>
    tables.endLookahead (token.offset + utf8Length token.text.toList) token.span.stop
  | none => tables.endLookahead feed.offset feed.place

/-- The current lookahead and those that follow it, up to the first end of input. This is a token,
or it stands behind the last one. -/
def ahead (tables : TableBundle) (lookahead : Lookahead) (feed : Feed) : List Lookahead :=
  tables.untilEnd (lookahead :: (tables.lookaheads feed.input ++ [tables.endBehind feed]))

/-- Nothing is ahead of the end of the input but itself. -/
theorem ahead_of_isEnd {tables : TableBundle} {lookahead : Lookahead} {feed : Feed}
    (at_end : tables.isEnd lookahead = true) : tables.ahead lookahead feed = [lookahead] := by
  rw [ahead, untilEnd, if_pos at_end]

/-- The current lookahead is the first of those ahead. -/
theorem exists_ahead_eq_cons {tables : TableBundle} (lookahead : Lookahead) (feed : Feed) :
    ∃ others, tables.ahead lookahead feed = lookahead :: others := by
  rw [ahead, untilEnd]
  split <;> exact ⟨_, rfl⟩

end TableBundle

/-- None of the tokens ahead is a fault. -/
def Feed.Clean (feed : Feed) : Prop :=
  ∀ fault, .error fault ∉ feed.input

/-- A feed is clean if all its items are tokens. -/
theorem Feed.clean_iff {feed : Feed} : feed.Clean ↔ ∀ item ∈ feed.input, item.isOk = true := by
  constructor
  · intro clean item mem
    cases item with
    | error fault => exact absurd mem (clean fault)
    | ok token => rfl
  · intro all_ok fault mem
    have wrong := all_ok _ mem
    contradiction

/-- Whether a feed is clean is decided item by item. -/
instance (feed : Feed) : Decidable feed.Clean :=
  decidable_of_iff _ Feed.clean_iff.symm

namespace TableBundle

variable {tables : TableBundle} {first next last : Lookahead} {feed rest : Feed} {state : Nat}

/-- The end of input behind a token and others is the one behind the others. -/
theorem endBehind_cons (token : Token) (input : List (Except Unmatched Token))
    (offset taken other : Nat) (place : Position) :
    tables.endBehind ⟨.ok token :: input, offset, place, taken⟩ =
      tables.endBehind ⟨input, token.offset + utf8Length token.text.toList, token.span.stop,
        other⟩ := by
  have here : Except.toOption (.ok token : Except Unmatched Token) = some token := rfl
  simp only [endBehind, List.filterMap_cons, here]
  cases input.filterMap Except.toOption with
  | nil => rfl
  | cons next more => simp only [List.getLast?_cons, Option.getD_some]

/-- From a feed without faults a lookahead can be taken, and it is the first of those ahead. -/
theorem exists_nextFrom (tables : TableBundle) (taken offset : Nat) (place : Position)
    {input : List (Except Unmatched Token)} (clean : ∀ fault, .error fault ∉ input) :
    ∃ next rest, Feed.nextFrom tables taken offset place input = .ok (next, rest) ∧ rest.Clean ∧
      tables.untilEnd (tables.lookaheads input ++
        [tables.endBehind ⟨input, offset, place, taken⟩]) = tables.ahead next rest := by
  induction input generalizing offset place with
  | nil =>
    refine ⟨tables.endLookahead offset place, ⟨[], offset, place, taken⟩, rfl, by simp [Feed.Clean],
      ?_⟩
    have at_end : tables.isEnd (tables.endLookahead offset place) = true := by
      simp [isEnd, endLookahead]
    rw [ahead_of_isEnd at_end]
    simp [lookaheads, endBehind, untilEnd, at_end]
  | cons item input ih =>
    cases item with
    | error fault => exact absurd List.mem_cons_self (clean fault)
    | ok token =>
      have clean_rest : ∀ fault, .error fault ∉ input :=
        fun fault mem => clean fault (List.mem_cons_of_mem _ mem)
      by_cases skipped : tables.skips (tables.symbol token.kind) = true
      · obtain ⟨next, rest, found, clean_behind, same⟩ :=
          ih (token.offset + utf8Length token.text.toList) token.span.stop clean_rest
        refine ⟨next, rest, ?_, clean_behind, ?_⟩
        · rw [Feed.nextFrom, if_pos skipped]
          exact found
        · rw [endBehind_cons token input offset taken taken place, ← same]
          simp [lookaheads, skipped]
      · refine ⟨⟨tables.symbol token.kind, token⟩,
          ⟨input, token.offset + utf8Length token.text.toList, token.span.stop, taken + 1⟩, ?_,
          clean_rest, ?_⟩
        · rw [Feed.nextFrom, if_neg skipped]
        · rw [endBehind_cons token input offset taken (taken + 1) place, ahead]
          simp [lookaheads, skipped]

/-- Behind a lookahead that is not the end of input, the next one can be taken, and those ahead are
the lookahead itself and those ahead from the next one on. -/
theorem exists_next_of_clean (clean : feed.Clean) (open_ended : tables.isEnd first = false) :
    ∃ next rest, feed.next tables = .ok (next, rest) ∧ rest.Clean ∧
      tables.ahead first feed = first :: tables.ahead next rest := by
  obtain ⟨next, rest, taken, clean_behind, same⟩ :=
    exists_nextFrom tables feed.taken feed.offset feed.place clean
  refine ⟨next, rest, taken, clean_behind, ?_⟩
  rw [ahead, untilEnd, open_ended, ← same]
  rfl

/-! ## Dropping lookaheads -/

/-- Dropping lookaheads finds the first acceptable one of those ahead, if there is any. -/
theorem resync_spec (state : Nat) (clean : feed.Clean) (before : Nat) :
    (∃ dropped last others rest, tables.ahead first feed = dropped ++ last :: others ∧
      (∀ each ∈ dropped, tables.lookup state each.symbol = none) ∧
      (tables.lookup state last.symbol).isSome ∧
      tables.Drops first feed dropped.length last rest ∧
      tables.ahead last rest = last :: others ∧
      tables.resync state first feed before = .found last rest (before + dropped.length)) ∨
    ((∀ each ∈ tables.ahead first feed, tables.lookup state each.symbol = none) ∧
      ∃ rest count, tables.resync state first feed before = .exhausted rest count) := by
  fun_induction resync tables state first feed before with
  | case1 first feed before acceptable =>
    obtain ⟨others, same⟩ := exists_ahead_eq_cons first feed
    exact .inl ⟨[], first, others, feed, same, by simp, acceptable, .none first feed, same, rfl⟩
  | case2 first feed before unacceptable at_end =>
    refine .inr ⟨?_, feed, before, rfl⟩
    rw [ahead_of_isEnd at_end, List.forall_mem_singleton]
    simpa using unacceptable
  | case3 first feed before unacceptable open_ended fault failed =>
    obtain ⟨next, rest, taken, -, -⟩ := exists_next_of_clean clean (by simpa using open_ended)
    rw [taken] at failed
    contradiction
  | case4 first feed before unacceptable open_ended next behind taken _ ih =>
    have open_ended' : tables.isEnd first = false := by simpa using open_ended
    have blocked : tables.lookup state first.symbol = none := by simpa using unacceptable
    obtain ⟨next', behind', taken', clean_behind, same⟩ := exists_next_of_clean clean open_ended'
    rw [taken, Except.ok.injEq, Prod.mk.injEq] at taken'
    obtain ⟨rfl, rfl⟩ := taken'
    rw [same]
    rcases ih clean_behind with ⟨dropped, last, others, rest, split, unaccepted, accepted, drops,
      left, found⟩ | ⟨none_accepted, rest, count, lost⟩
    · refine .inl ⟨first :: dropped, last, others, rest, ?_, ?_, accepted, ?_, left, ?_⟩
      · rw [split, List.cons_append]
      · exact List.forall_mem_cons.mpr ⟨blocked, unaccepted⟩
      · exact .drop open_ended' taken drops
      · rw [found, List.length_cons, Nat.add_right_comm, Nat.add_assoc]
    · exact .inr ⟨List.forall_mem_cons.mpr ⟨blocked, none_accepted⟩, rest, count, lost⟩

end TableBundle

namespace Engine

/-! ## Recoveries -/

/-- The lookaheads that a recovery may go on with: those ahead, but not the current one if nothing
was shifted since the last recovery; so there are none then at the end of input. -/
def candidates (engine : Engine C V) (c : Configuration C V L) : List Lookahead :=
  if c.countdown = recoveryWindow then (engine.tables.ahead c.lookahead c.feed).tail
  else engine.tables.ahead c.lookahead c.feed

variable [StackValue V] {engine : Engine C V} {listen : L → SyntaxError → L}
  {c : Configuration C V L}

/-- What a recovery does that has some candidates to go on with and gives up a number of lookaheads
before: with the first candidate that is acceptable behind the topmost frame that shifts the error
symbol, it goes on; without one it ends the parse. -/
inductive Recovers (engine : Engine C V) (c : Configuration C V L) (candidates : List Lookahead)
    (early : Nat) : Move C V L → Prop
  | resumes {upper lower : List (Frame V)} {frame : Frame V} {state : Nat}
      {dropped others : List Lookahead} {lookahead : Lookahead} {feed : Feed}
      (cuts : engine.tables.CutsAt c.stack upper frame lower state)
      (split : candidates = dropped ++ lookahead :: others)
      (unacceptable : ∀ each ∈ dropped, engine.tables.lookup state each.symbol = none)
      (acceptable : (engine.tables.lookup state lookahead.symbol).isSome)
      (drops : engine.tables.Drops c.lookahead c.feed (early + dropped.length) lookahead feed)
      (left : engine.tables.ahead lookahead feed = lookahead :: others) :
      Recovers engine c candidates early (.next { c with
        stack := ⟨state, StackValue.empty⟩ :: frame :: lower
        lookahead, feed
        countdown := recoveryWindow
        recoveries := c.recoveries + 1
        discarded := c.discarded + (early + dropped.length) })
  | fails {last : Configuration C V L}
      (lost : ∀ upper frame lower state, engine.tables.CutsAt c.stack upper frame lower state →
        ∀ each ∈ candidates, engine.tables.lookup state each.symbol = none) :
      Recovers engine c candidates early last.giveUp

/-- Resuming goes on with the first acceptable lookahead of those ahead, the present one included.
-/
theorem recovers_of_resume (clean : c.feed.Clean) :
    Recovers engine c (engine.tables.ahead c.lookahead c.feed) 0 (engine.resume c) := by
  unfold resume
  cases unwound : engine.tables.unwind c.stack with
  | none =>
    refine .fails fun upper frame lower state cuts => ?_
    rw [TableBundle.unwind_eq_some_iff.mpr ⟨upper, frame, lower, cuts, rfl⟩] at unwound
    contradiction
  | some result =>
    obtain ⟨state, kept⟩ := result
    obtain ⟨upper, frame, lower, cuts, rfl⟩ := TableBundle.unwind_eq_some_iff.mp unwound
    simp only
    rcases TableBundle.resync_spec state clean 0 with ⟨dropped, last, others, rest, split,
      unacceptable, acceptable, drops, left, found⟩ | ⟨none_acceptable, rest, count, exhausted⟩
    · rw [found]
      rw [← Nat.zero_add dropped.length] at drops
      exact .resumes cuts split unacceptable acceptable drops left
    · rw [exhausted]
      -- a stack is cut in one way only, so no other frame could accept a lookahead
      refine .fails fun upper' frame' lower' state' cuts' each mem => ?_
      rw [TableBundle.unwind_eq_some_iff.mpr ⟨upper', frame', lower', cuts', rfl⟩] at unwound
      obtain ⟨rfl, -⟩ := Prod.mk.inj (Option.some.inj unwound)
      exact none_acceptable each mem

/-- A lookahead that is given up early is dropped with the others. -/
theorem Recovers.of_given_up {next : Lookahead} {rest : Feed} {candidates : List Lookahead}
    {early : Nat} {move : Move C V L} (open_ended : engine.tables.isEnd c.lookahead = false)
    (taken : c.feed.next engine.tables = .ok (next, rest))
    (recovers : Recovers engine
      { c with lookahead := next, feed := rest, discarded := c.discarded + 1 } candidates early
      move) : Recovers engine c candidates (early + 1) move := by
  cases recovers with
  | @resumes upper lower frame state dropped others lookahead feed cuts split unacceptable
      acceptable drops left =>
    have all_drops : engine.tables.Drops c.lookahead c.feed (early + 1 + dropped.length) lookahead
        feed := by
      rw [Nat.add_right_comm]
      exact .drop open_ended taken drops
    have total : c.discarded + 1 + (early + dropped.length) =
        c.discarded + (early + 1 + dropped.length) := by omega
    simp only [total]
    exact .resumes cuts split unacceptable acceptable all_drops left
  | fails lost => exact .fails lost

/-- A recovery reports the rejected lookahead unless a window is open, and gives up one lookahead
early if nothing was shifted since the last recovery. -/
theorem recovers_of_recover (recovers : engine.options.recover = true) (clean : c.feed.Clean) :
    Recovers engine (if c.countdown = 0 then engine.report listen c else c) (engine.candidates c)
      (if c.countdown = recoveryWindow then 1 else 0) (engine.recover listen c) := by
  unfold recover candidates
  by_cases closed : c.countdown = 0
  · have partly : c.countdown ≠ recoveryWindow := by
      rw [closed]
      decide
    simp only [if_pos closed, if_neg partly, if_pos recovers]
    exact recovers_of_resume clean
  · by_cases full : c.countdown = recoveryWindow
    · simp only [if_neg closed, if_pos full]
      by_cases at_end : engine.tables.isEnd c.lookahead = true
      · rw [if_pos at_end, TableBundle.ahead_of_isEnd at_end]
        exact .fails fun _ _ _ _ _ each mem => absurd mem List.not_mem_nil
      · have open_ended : engine.tables.isEnd c.lookahead = false := by simpa using at_end
        obtain ⟨next, rest, taken, clean_behind, same⟩ :=
          TableBundle.exists_next_of_clean clean open_ended
        -- the candidates are those ahead from the next lookahead on
        rw [if_neg at_end, same, List.tail_cons]
        simp only [advance, taken]
        exact (recovers_of_resume clean_behind).of_given_up open_ended taken
    · simp only [if_neg closed, if_neg full]
      exact recovers_of_resume clean

omit [StackValue V] in
/-- A parse that gives up blames the first of its errors. -/
theorem verdict_of_giveUp {last : Configuration C V L} {outcome : Outcome C V L}
    (given_up : last.giveUp = .halt outcome) :
    outcome.verdict = .error (.refusal outcome.errors) := by
  rw [Configuration.giveUp, Configuration.halt, Move.halt.injEq] at given_up
  subst given_up
  rfl

variable {log : L} {context : C} {input : List (Except Unmatched Token)}
  {trail : List (Configuration C V L)}

end Engine

end ShaderSyntax
