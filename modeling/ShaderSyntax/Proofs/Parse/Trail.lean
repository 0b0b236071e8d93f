import ShaderSyntax.Parse.Engine

/-!
# The moves of a parse

What one move of the engine does, said once: a move that goes on is a shift, a reduction or a
recovery (`Engine.Moved`, `Engine.moved_of_step`), and a move that ends the parse leaves the counts
as they are, up to the shift it may have made (`Engine.counts_of_halt`). A trail is the list of the
configurations that a parse has come through (`Engine.Trail`); what every move keeps holds along
every trail, and a parse that ended did so at the end of one (`Engine.Finishes`,
`Engine.exists_finishes`). A parse has one trail: any two are fronts of each other
(`Engine.prefix_of_trails`).
-/

set_option autoImplicit false

namespace ShaderSyntax

variable {C V L : Type}

/-- Lookaheads are dropped one after the other, none of them the end of input: from a lookahead and
the feed behind it, a number of drops leads to another lookahead and the feed behind that. -/
inductive TableBundle.Drops (tables : TableBundle) :
    Lookahead → Feed → Nat → Lookahead → Feed → Prop
  | none (lookahead : Lookahead) (feed : Feed) : Drops tables lookahead feed 0 lookahead feed
  | drop {first next last : Lookahead} {feed behind rest : Feed} {count : Nat}
      (open_ended : tables.isEnd first = false) (taken : feed.next tables = .ok (next, behind))
      (others : Drops tables next behind count last rest) :
      Drops tables first feed (count + 1) last rest

/-- An acceptable lookahead is found behind those that were dropped. -/
theorem TableBundle.drops_of_resync {tables : TableBundle} {state : Nat} {first last : Lookahead}
    {feed rest : Feed} {before count : Nat}
    (found : tables.resync state first feed before = .found last rest count) :
    ∃ dropped, count = before + dropped ∧ tables.Drops first feed dropped last rest ∧
      (tables.lookup state last.symbol).isSome := by
  fun_induction TableBundle.resync tables state first feed before with
  | case1 first feed before acceptable =>
    simp only [Resync.found.injEq] at found
    obtain ⟨rfl, rfl, rfl⟩ := found
    exact ⟨0, rfl, .none first feed, acceptable⟩
  | case2 => simp at found
  | case3 => simp at found
  | case4 first feed before _ open_ended next behind taken _ ih =>
    obtain ⟨dropped, same, others, acceptable⟩ := ih found
    refine ⟨dropped + 1, by omega, ?_, acceptable⟩
    exact .drop (by simpa using open_ended) taken others

namespace Configuration

/-- The values of the topmost frames, oldest first. -/
def popped (c : Configuration C V L) (count : Nat) : List V :=
  ((c.stack.take count).map Frame.value).reverse

/-- A parse that ends has its counts and its verdict. -/
theorem counts_of_halt {c : Configuration C V L} {verdict : Except ParseError V}
    {outcome : Outcome C V L} (halted : c.halt verdict = .halt outcome) :
    outcome.stats = c.stats ∧ outcome.verdict = verdict := by
  rw [halt, Move.halt.injEq] at halted
  rw [← halted]
  exact ⟨rfl, rfl⟩

/-- Giving up ends a parse with its counts and without a value. -/
theorem counts_of_giveUp {c : Configuration C V L} {outcome : Outcome C V L}
    (given_up : c.giveUp = .halt outcome) :
    outcome.stats = c.stats ∧ ∃ error, outcome.verdict = .error error := by
  obtain ⟨counts, failed⟩ := counts_of_halt given_up
  exact ⟨counts, _, failed⟩

end Configuration

namespace Engine

/-- Taking a lookahead changes nothing but the lookahead and the feed. -/
theorem advanced_eq {engine : Engine C V} {c next : Configuration C V L}
    (advanced : engine.advance c = .next next) :
    ∃ lookahead feed, c.feed.next engine.tables = .ok (lookahead, feed) ∧
      next = { c with lookahead, feed } := by
  unfold advance at advanced
  split at advanced
  · simp [Configuration.halt] at advanced
  case h_2 lookahead feed taken =>
    rw [Move.next.injEq] at advanced
    exact ⟨lookahead, feed, taken, advanced.symm⟩

/-- A parse that ends for want of a lookahead has its counts and no value. -/
theorem counts_of_advance {engine : Engine C V} {c : Configuration C V L}
    {outcome : Outcome C V L} (advanced : engine.advance c = .halt outcome) :
    outcome.stats = c.stats ∧ ∃ error, outcome.verdict = .error error := by
  unfold advance at advanced
  split at advanced
  · obtain ⟨counts, failed⟩ := Configuration.counts_of_halt advanced
    exact ⟨counts, _, failed⟩
  · simp at advanced

variable [StackValue V]

/-- The moves of a parse that goes on. -/
inductive Moved (engine : Engine C V) (listen : L → SyntaxError → L) (c : Configuration C V L) :
    Configuration C V L → Prop
  | shift {state : Nat} {lookahead : Lookahead} {feed : Feed}
      (looked : engine.tables.lookup c.top c.lookahead.symbol = some (.shift state))
      (taken : c.feed.next engine.tables = .ok (lookahead, feed)) :
      Moved engine listen c { c with
        stack := ⟨state, StackValue.ofToken c.lookahead.token⟩ :: c.stack
        lookahead, feed
        shifts := c.shifts + 1
        countdown := c.countdown - 1 }
  | reduce {production state : Nat} {rule : Production} {context : C} {value : V}
      (looked : engine.tables.lookup c.top c.lookahead.symbol = some (.reduce production))
      (inner : production ≠ 0) (known : engine.tables.production production = some rule)
      (deep : rule.length < c.stack.length)
      (acted : engine.reduceValue production c.context (c.popped rule.length) =
        (.ok value, context))
      (target : engine.tables.goto { c with stack := c.stack.drop rule.length }.top rule.lhs =
        some state) :
      Moved engine listen c { c with
        context
        stack := ⟨state, value⟩ :: c.stack.drop rule.length
        reductions := c.reductions + 1 }
  | recover {log : L} {errors : List SyntaxError} {state count : Nat} {stack : List (Frame V)}
      {lookahead : Lookahead} {feed : Feed}
      (looked : engine.tables.lookup c.top c.lookahead.symbol = none)
      (reported : if c.countdown = 0 then
          log = listen c.log (engine.tables.syntaxError c.top c.lookahead) ∧
            errors = c.errors ++ [engine.tables.syntaxError c.top c.lookahead]
        else log = c.log ∧ errors = c.errors)
      (unwound : engine.tables.unwind c.stack = some (state, stack))
      (dropped : engine.tables.Drops c.lookahead c.feed count lookahead feed)
      (given_up : c.countdown = recoveryWindow → 0 < count)
      (acceptable : (engine.tables.lookup state lookahead.symbol).isSome) :
      Moved engine listen c { c with
        log, errors
        stack := ⟨state, StackValue.empty⟩ :: stack
        lookahead, feed
        countdown := recoveryWindow
        recoveries := c.recoveries + 1
        discarded := c.discarded + count }

variable {engine : Engine C V} {listen : L → SyntaxError → L} {c next : Configuration C V L}

/-- A shift that goes on is a move. -/
theorem moved_of_shift {state : Nat}
    (looked : engine.tables.lookup c.top c.lookahead.symbol = some (.shift state))
    (shifted : engine.shift c state = .next next) : Moved engine listen c next := by
  obtain ⟨lookahead, feed, taken, rfl⟩ := advanced_eq shifted
  exact .shift looked taken

/-- A reduction that goes on is a move. -/
theorem moved_of_reduce {production : Nat}
    (looked : engine.tables.lookup c.top c.lookahead.symbol = some (.reduce production))
    (reduced : engine.reduce c production = .next next) : Moved engine listen c next := by
  unfold reduce at reduced
  cases known : engine.tables.production production with
  | none => simp [known, Configuration.halt] at reduced
  | some rule =>
    simp only [known] at reduced
    split at reduced
    · simp [Configuration.halt] at reduced
    case isFalse deep =>
      split at reduced
      · simp [Configuration.halt] at reduced
      case h_2 value context acted =>
        split at reduced
        · simp [Configuration.halt] at reduced
        case isFalse inner =>
          split at reduced
          · simp [Configuration.halt] at reduced
          case h_2 state target =>
            simp only [Move.next.injEq] at reduced
            subst reduced
            exact .reduce looked inner known (by omega) acted target

/-- What shifting the error symbol and dropping lookaheads does, where it succeeds. -/
theorem exists_of_resume (resumed : engine.resume c = .next next) :
    ∃ state stack lookahead feed count,
      engine.tables.unwind c.stack = some (state, stack) ∧
      engine.tables.Drops c.lookahead c.feed count lookahead feed ∧
      (engine.tables.lookup state lookahead.symbol).isSome ∧
      next = { c with
        stack := ⟨state, StackValue.empty⟩ :: stack
        lookahead, feed
        countdown := recoveryWindow
        recoveries := c.recoveries + 1
        discarded := c.discarded + count } := by
  unfold resume at resumed
  split at resumed
  · simp [Configuration.giveUp, Configuration.halt] at resumed
  case h_2 state stack unwound =>
    simp only at resumed
    split at resumed
    · simp [Configuration.giveUp, Configuration.halt] at resumed
    · simp [Configuration.halt] at resumed
    case h_3 lookahead feed count found =>
      obtain ⟨dropped, same, drops, acceptable⟩ := TableBundle.drops_of_resync found
      rw [Nat.zero_add] at same
      subst same
      simp only [Move.next.injEq] at resumed
      exact ⟨state, stack, lookahead, feed, count, unwound, drops, acceptable, resumed.symm⟩

/-- A recovery that goes on is a move. -/
theorem moved_of_recover
    (looked : engine.tables.lookup c.top c.lookahead.symbol = none)
    (recovered : engine.recover listen c = .next next) : Moved engine listen c next := by
  unfold recover at recovered
  split at recovered
  case isTrue reporting =>
    simp only at recovered
    split at recovered
    · obtain ⟨state, stack, lookahead, feed, count, unwound, drops, acceptable, rfl⟩ :=
        exists_of_resume recovered
      refine .recover looked ?_ unwound drops ?_ acceptable
      · rw [if_pos reporting]
        exact ⟨rfl, rfl⟩
      · intro full
        rw [reporting] at full
        contradiction
    · simp [Configuration.giveUp, Configuration.halt] at recovered
  case isFalse silent =>
    have unreported : if c.countdown = 0 then
        c.log = listen c.log (engine.tables.syntaxError c.top c.lookahead) ∧
          c.errors = c.errors ++ [engine.tables.syntaxError c.top c.lookahead]
        else c.log = c.log ∧ c.errors = c.errors := by
      rw [if_neg silent]
      exact ⟨rfl, rfl⟩
    split at recovered
    case isTrue full =>
      split at recovered
      · simp [Configuration.giveUp, Configuration.halt] at recovered
      case isFalse open_ended =>
        split at recovered
        case h_1 => simp at recovered
        case h_2 later advanced =>
          obtain ⟨following, behind, taken, rfl⟩ := advanced_eq advanced
          obtain ⟨state, stack, lookahead, feed, count, unwound, drops, acceptable, rfl⟩ :=
            exists_of_resume recovered
          -- The lookahead given up first is one of those dropped.
          have all_drops : engine.tables.Drops c.lookahead c.feed (count + 1) lookahead feed :=
            .drop (by simpa using open_ended) taken drops
          have total : c.discarded + 1 + count = c.discarded + (count + 1) := by omega
          simp only [total]
          exact .recover looked unreported unwound all_drops (fun _ => Nat.succ_pos count)
            acceptable
    case isFalse partly =>
      obtain ⟨state, stack, lookahead, feed, count, unwound, drops, acceptable, rfl⟩ :=
        exists_of_resume recovered
      exact .recover looked unreported unwound drops (fun full => absurd full partly) acceptable

/-- A move that goes on is a shift, a reduction or a recovery. -/
theorem moved_of_step (stepped : engine.step listen c = .next next) :
    Moved engine listen c next := by
  unfold step at stepped
  split at stepped
  case h_1 state looked => exact moved_of_shift looked stepped
  case h_2 production looked => exact moved_of_reduce looked stepped
  case h_3 looked => exact moved_of_recover looked stepped

/-! ## Moves that end a parse -/

variable {outcome : Outcome C V L}

/-- A parse that ends in the middle of a recovery has made no shift and has no value. -/
theorem counts_of_resume (resumed : engine.resume c = .halt outcome) :
    outcome.stats.shifts = c.shifts ∧ outcome.stats.recoveries = c.recoveries ∧
      ∃ error, outcome.verdict = .error error := by
  unfold resume at resumed
  split at resumed
  · obtain ⟨counts, failed⟩ := Configuration.counts_of_giveUp resumed
    rw [counts]
    exact ⟨rfl, rfl, failed⟩
  · simp only at resumed
    split at resumed
    · obtain ⟨counts, failed⟩ := Configuration.counts_of_giveUp resumed
      rw [counts]
      exact ⟨rfl, rfl, failed⟩
    · obtain ⟨counts, failed⟩ := Configuration.counts_of_halt resumed
      rw [counts]
      exact ⟨rfl, rfl, _, failed⟩
    · simp at resumed

/-- A recovery that ends the parse ends it with an error and changes no count of shifts or
recoveries. -/
theorem counts_of_recover (recovered : engine.recover listen c = .halt outcome) :
    outcome.stats.shifts = c.shifts ∧ outcome.stats.recoveries = c.recoveries ∧
      ∃ error, outcome.verdict = .error error := by
  unfold recover at recovered
  split at recovered
  · simp only at recovered
    split at recovered
    · have counts := counts_of_resume recovered
      exact counts
    · obtain ⟨counts, failed⟩ := Configuration.counts_of_giveUp recovered
      rw [counts]
      exact ⟨rfl, rfl, failed⟩
  · split at recovered
    · split at recovered
      · obtain ⟨counts, failed⟩ := Configuration.counts_of_giveUp recovered
        rw [counts]
        exact ⟨rfl, rfl, failed⟩
      · split at recovered
        case h_1 early advanced =>
          simp only [Move.halt.injEq] at recovered
          subst recovered
          obtain ⟨counts, failed⟩ := counts_of_advance advanced
          rw [counts]
          exact ⟨rfl, rfl, failed⟩
        case h_2 later advanced =>
          have counts := counts_of_resume recovered
          obtain ⟨lookahead, feed, -, rfl⟩ := advanced_eq advanced
          exact counts
    · exact counts_of_resume recovered

/-- A reduction that ends a parse leaves the counts of shifts, recoveries and drops. It gives a
value only as the goal, and then the value of the goal's first symbol. -/
theorem counts_of_reduce {production : Nat}
    (reduced : engine.reduce c production = .halt outcome) :
    outcome.stats.shifts = c.shifts ∧ outcome.stats.recoveries = c.recoveries ∧
      outcome.stats.discarded = c.discarded ∧
      ∀ value, outcome.verdict = .ok value → production = 0 ∧
        ∃ rule, engine.tables.production 0 = some rule ∧ rule.length < c.stack.length ∧
          value = (c.popped rule.length).head?.getD StackValue.empty := by
  unfold reduce at reduced
  split at reduced
  · obtain ⟨counts, failed⟩ := Configuration.counts_of_halt reduced
    rw [counts, failed]
    exact ⟨rfl, rfl, rfl, by simp⟩
  case h_2 rule known =>
    split at reduced
    · obtain ⟨counts, failed⟩ := Configuration.counts_of_halt reduced
      rw [counts, failed]
      exact ⟨rfl, rfl, rfl, by simp⟩
    case isFalse deep =>
      simp only at reduced
      split at reduced
      · obtain ⟨counts, failed⟩ := Configuration.counts_of_halt reduced
        rw [counts, failed]
        exact ⟨rfl, rfl, rfl, by simp⟩
      case h_2 value context acted =>
        split at reduced
        case isTrue goal =>
          obtain ⟨counts, gives⟩ := Configuration.counts_of_halt reduced
          rw [counts, gives]
          refine ⟨rfl, rfl, rfl, ?_⟩
          intro result same
          -- The goal has no action.
          have passed_on : value = (c.popped rule.length).head?.getD StackValue.empty := by
            simp only [reduceValue, action?, goal, if_true, Prod.mk.injEq, Except.ok.injEq] at acted
            exact acted.1.symm
          refine ⟨goal, rule, goal ▸ known, by omega, ?_⟩
          rw [← passed_on]
          exact (Except.ok.inj same).symm
        case isFalse inner =>
          split at reduced
          · obtain ⟨counts, failed⟩ := Configuration.counts_of_halt reduced
            rw [counts, failed]
            exact ⟨rfl, rfl, rfl, by simp⟩
          · simp at reduced

/-- A move that ends a parse changes neither the recoveries nor, unless it is a shift, the shifts.
-/
theorem counts_of_halt (halted : engine.step listen c = .halt outcome) :
    outcome.stats.recoveries = c.recoveries ∧
      (outcome.stats.shifts = c.shifts ∨ outcome.stats.shifts = c.shifts + 1 ∧
        ∃ state, engine.tables.lookup c.top c.lookahead.symbol = some (.shift state)) := by
  unfold step at halted
  split at halted
  case h_1 state looked =>
    obtain ⟨counts, -⟩ := counts_of_advance halted
    rw [counts]
    exact ⟨rfl, .inr ⟨rfl, state, looked⟩⟩
  case h_2 production looked =>
    obtain ⟨shifts, recoveries, -⟩ := counts_of_reduce halted
    exact ⟨recoveries, .inl shifts⟩
  case h_3 looked =>
    obtain ⟨shifts, recoveries, -⟩ := counts_of_recover halted
    exact ⟨recoveries, .inl shifts⟩

/-- A parse gives a value only by reducing to the goal: the value of the goal's first symbol. -/
theorem accepts_of_halt (halted : engine.step listen c = .halt outcome) {value : V}
    (accepted : outcome.verdict = .ok value) :
    engine.tables.lookup c.top c.lookahead.symbol = some (.reduce 0) ∧
      ∃ rule, engine.tables.production 0 = some rule ∧ rule.length < c.stack.length ∧
        value = (c.popped rule.length).head?.getD StackValue.empty := by
  unfold step at halted
  split at halted
  case h_1 =>
    obtain ⟨-, error, failed⟩ := counts_of_advance halted
    simp [failed] at accepted
  case h_2 production looked =>
    obtain ⟨-, -, -, gives⟩ := counts_of_reduce halted
    obtain ⟨rfl, goal⟩ := gives value accepted
    exact ⟨looked, goal⟩
  case h_3 =>
    obtain ⟨-, -, error, failed⟩ := counts_of_recover halted
    simp [failed] at accepted

/-! ## Trails -/

/-- A parse of an input comes to a configuration through those of the list, which are in order and
leave the last one out. -/
inductive Trail (engine : Engine C V) (listen : L → SyntaxError → L) (log : L) (context : C)
    (input : List (Except Unmatched Token)) :
    List (Configuration C V L) → Configuration C V L → Prop
  | start {c : Configuration C V L} (started : engine.start context log input = .next c) :
      Trail engine listen log context input [] c
  | move {trail : List (Configuration C V L)} {c next : Configuration C V L}
      (before : Trail engine listen log context input trail c)
      (stepped : engine.step listen c = .next next) :
      Trail engine listen log context input (trail ++ [c]) next

/-- The configuration that a parse comes to with a number of moves, and those it came through. -/
def trail? (engine : Engine C V) (listen : L → SyntaxError → L) (log : L) (context : C)
    (input : List (Except Unmatched Token)) :
    Nat → Option (List (Configuration C V L) × Configuration C V L)
  | 0 =>
    match engine.start context log input with
    | .next c => some ([], c)
    | .halt _ => none
  | moves + 1 =>
    match trail? engine listen log context input moves with
    | some (trail, c) =>
      match engine.step listen c with
      | .next next => some (trail ++ [c], next)
      | .halt _ => none
    | none => none

/-- The lookahead of a configuration that shifts it. -/
def shifted? (engine : Engine C V) (c : Configuration C V L) : Option Lookahead :=
  match engine.tables.lookup c.top c.lookahead.symbol with
  | some (.shift _) => some c.lookahead
  | _ => none

/-- The lookaheads shifted along a trail, in order. -/
def shifted (engine : Engine C V) (trail : List (Configuration C V L)) : List Lookahead :=
  trail.filterMap engine.shifted?

variable {log : L} {context : C} {input : List (Except Unmatched Token)}
  {trail : List (Configuration C V L)} {limit : Nat}

/-- The first configuration of a parse: the first lookahead and nothing done yet. -/
theorem started_eq (started : engine.start context log input = .next c) :
    ∃ lookahead feed, (Feed.ofInput input).next engine.tables = .ok (lookahead, feed) ∧
      c = ⟨context, log, [⟨0, StackValue.empty⟩], lookahead, feed, 0, [], 0, 0, 0, 0⟩ := by
  unfold start at started
  simp only at started
  split at started
  · simp at started
  case h_2 lookahead feed taken =>
    simp only [Move.next.injEq] at started
    exact ⟨lookahead, feed, taken, started.symm⟩

/-- A parse comes to a configuration exactly if a number of moves leads there. -/
theorem trail_iff : Trail engine listen log context input trail c ↔
    ∃ moves, engine.trail? listen log context input moves = some (trail, c) := by
  constructor
  · intro before
    induction before with
    | start started => exact ⟨0, by simp only [trail?, started]⟩
    | move before stepped ih =>
      obtain ⟨moves, same⟩ := ih
      exact ⟨moves + 1, by simp only [trail?, same, stepped]⟩
  · rintro ⟨moves, same⟩
    induction moves generalizing trail c with
    | zero =>
      unfold trail? at same
      split at same
      case h_1 first started =>
        simp only [Option.some.injEq, Prod.mk.injEq] at same
        obtain ⟨rfl, rfl⟩ := same
        exact .start started
      case h_2 => simp at same
    | succ moves ih =>
      unfold trail? at same
      split at same
      case h_1 passed last before =>
        split at same
        case h_1 next stepped =>
          simp only [Option.some.injEq, Prod.mk.injEq] at same
          obtain ⟨rfl, rfl⟩ := same
          exact .move (ih before) stepped
        case h_2 => simp at same
      case h_2 => simp at same

/-- A parse that finds no first token ends with the fault and nothing done. -/
theorem unstarted_eq (halted : engine.start context log input = .halt outcome) :
    ∃ fault, outcome = ⟨.error (.unmatched fault), context, log, [], ⟨0, 0, 0, 0, 0⟩⟩ := by
  unfold start at halted
  simp only at halted
  split at halted
  case h_1 fault _ =>
    rw [Move.halt.injEq] at halted
    exact ⟨fault, halted.symm⟩
  case h_2 => simp at halted

/-- A parse that finds no first token has counted nothing and has no value. -/
theorem counts_of_start (halted : engine.start context log input = .halt outcome) :
    outcome.stats.shifts = 0 ∧ outcome.stats.recoveries = 0 ∧
      ∃ error, outcome.verdict = .error error := by
  obtain ⟨fault, rfl⟩ := unstarted_eq halted
  exact ⟨rfl, rfl, _, rfl⟩

/-- A run that ends has come through a trail to the configuration whose move ended it. -/
theorem trail_of_run (before : Trail engine listen log context input trail c)
    (ended : engine.run listen limit c = some outcome) :
    ∃ trail last, Trail engine listen log context input trail last ∧
      engine.step listen last = .halt outcome := by
  induction limit generalizing trail c with
  | zero => simp [run] at ended
  | succ limit ih =>
    rw [run] at ended
    split at ended
    case h_1 halted =>
      rw [← Option.some.inj ended]
      exact ⟨trail, c, before, halted⟩
    case h_2 stepped => exact ih (.move before stepped) ended

/-- A parse that ends either finds no first token or ends a trail. -/
theorem trail_of_parseTokens
    (ended : engine.parseTokens limit listen log context input = some outcome) :
    engine.start context log input = .halt outcome ∨
      ∃ trail last, Trail engine listen log context input trail last ∧
        engine.step listen last = .halt outcome := by
  unfold parseTokens at ended
  split at ended
  case h_1 halted => exact .inl (Option.some.inj ended ▸ halted)
  case h_2 started => exact .inr (trail_of_run (.start started) ended)

/-- A parse of an input goes through the configurations of the list, in order, and ends. -/
inductive Finishes (engine : Engine C V) (listen : L → SyntaxError → L) (log : L) (context : C)
    (input : List (Except Unmatched Token)) :
    List (Configuration C V L) → Outcome C V L → Prop
  | atOnce {outcome : Outcome C V L}
      (halted : engine.start context log input = .halt outcome) :
      Finishes engine listen log context input [] outcome
  | behind {trail : List (Configuration C V L)} {last : Configuration C V L}
      {outcome : Outcome C V L} (before : Trail engine listen log context input trail last)
      (halted : engine.step listen last = .halt outcome) :
      Finishes engine listen log context input (trail ++ [last]) outcome

/-- A parse that ends has gone through some configurations. -/
theorem exists_finishes
    (ended : engine.parseTokens limit listen log context input = some outcome) :
    ∃ trail, Finishes engine listen log context input trail outcome := by
  rcases trail_of_parseTokens ended with halted | ⟨trail, last, before, halted⟩
  · exact ⟨[], .atOnce halted⟩
  · exact ⟨trail ++ [last], .behind before halted⟩

/-! ## Where trails lead -/

variable {others : List (Configuration C V L)} {other : Configuration C V L}

/-- A parse comes to the configurations that it comes through. -/
theorem exists_trail_of_mem (before : Trail engine listen log context input trail c)
    (mem : other ∈ trail) : ∃ front, Trail engine listen log context input front other := by
  induction before with
  | start started => simp at mem
  | @move trail c next before stepped ih =>
    rcases List.mem_append.mp mem with earlier | same
    · exact ih earlier
    · obtain rfl := List.mem_singleton.mp same
      exact ⟨trail, before⟩

/-- A parse that ends has come to the configurations that it went through. -/
theorem exists_trail_of_finishes (finished : Finishes engine listen log context input trail outcome)
    (mem : c ∈ trail) : ∃ front, Trail engine listen log context input front c := by
  cases finished with
  | atOnce halted => simp at mem
  | @behind trail last _ before halted =>
    rcases List.mem_append.mp mem with earlier | same
    · exact exists_trail_of_mem before earlier
    · obtain rfl := List.mem_singleton.mp same
      exact ⟨trail, before⟩

/-- A parse that makes some moves has come through the configurations that fewer moves lead to. -/
theorem exists_trail?_of_add {moves more : Nat}
    (found : engine.trail? listen log context input (moves + more) = some (others, other)) :
    ∃ trail c, engine.trail? listen log context input moves = some (trail, c) ∧
      trail ++ [c] <+: others ++ [other] := by
  induction more generalizing others other with
  | zero => exact ⟨others, other, found, List.prefix_refl _⟩
  | succ more ih =>
    rw [← Nat.add_assoc] at found
    unfold trail? at found
    split at found
    case h_1 passed last before =>
      split at found
      case h_1 next stepped =>
        rw [Option.some.injEq, Prod.mk.injEq] at found
        obtain ⟨rfl, rfl⟩ := found
        obtain ⟨trail, c, earlier, front⟩ := ih before
        exact ⟨trail, c, earlier, front.trans (List.prefix_append _ _)⟩
      case h_2 => simp at found
    case h_2 => simp at found

/-- Of two trails of a parse one is a front of the other. -/
theorem prefix_of_trails (first : Trail engine listen log context input trail c)
    (second : Trail engine listen log context input others other) :
    others ++ [other] <+: trail ++ [c] ∨ trail ++ [c] <+: others ++ [other] := by
  obtain ⟨moves, found⟩ := trail_iff.mp first
  obtain ⟨more, found_too⟩ := trail_iff.mp second
  rcases Nat.le_total more moves with fewer | fewer
  · obtain ⟨extra, rfl⟩ := Nat.exists_eq_add_of_le fewer
    obtain ⟨passed, last, same, front⟩ := exists_trail?_of_add found
    rw [found_too, Option.some.injEq, Prod.mk.injEq] at same
    obtain ⟨rfl, rfl⟩ := same
    exact .inl front
  · obtain ⟨extra, rfl⟩ := Nat.exists_eq_add_of_le fewer
    obtain ⟨passed, last, same, front⟩ := exists_trail?_of_add found_too
    rw [found, Option.some.injEq, Prod.mk.injEq] at same
    obtain ⟨rfl, rfl⟩ := same
    exact .inr front

/-- A parse that ends has come through every configuration that it comes to. -/
theorem prefix_of_finishes (before : Trail engine listen log context input trail c)
    (finished : Finishes engine listen log context input others outcome) :
    trail ++ [c] <+: others := by
  obtain ⟨moves, found⟩ := trail_iff.mp before
  cases finished with
  | atOnce halted =>
    rw [← Nat.zero_add moves] at found
    obtain ⟨_, _, same, _⟩ := exists_trail?_of_add found
    simp [trail?, halted] at same
  | @behind passed last _ before_last halted =>
    obtain ⟨whole, found_last⟩ := trail_iff.mp before_last
    rcases Nat.lt_or_ge whole moves with fewer | fewer
    · obtain ⟨extra, rfl⟩ := Nat.exists_eq_add_of_le fewer
      obtain ⟨_, _, same, _⟩ := exists_trail?_of_add found
      simp [trail?, found_last, halted] at same
    · obtain ⟨extra, rfl⟩ := Nat.exists_eq_add_of_le fewer
      obtain ⟨_, _, same, front⟩ := exists_trail?_of_add found_last
      rw [found, Option.some.injEq, Prod.mk.injEq] at same
      obtain ⟨rfl, rfl⟩ := same
      exact front

end Engine

end ShaderSyntax
