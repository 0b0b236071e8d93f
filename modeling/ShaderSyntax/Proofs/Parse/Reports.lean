import ShaderSyntax.Proofs.Parse.Progress

/-!
# Reported errors

Which errors a parse reports, to its listener and in the list that it keeps. A report is made where
the lookahead is rejected and no window is open (`Engine.reporting`); the window that a recovery
opens is used up by shifts alone, and a recovery inside it opens it anew. So three shifts lie
between two reports, and a window is never open before the first report: a parse that gives up
always has an error to blame. The main statement puts this together (`Engine.reports_of_parse`);
its invariant is `Engine.Spaced`.
-/

set_option autoImplicit false

namespace ShaderSyntax

/-- The failure of a parse that gives up: the first reported error. -/
def ParseError.refusal : List SyntaxError → ParseError
  | error :: _ => .rejected error
  | [] => .misfit .unreported

/-- The failures with which a parse gives up. -/
def ParseError.isRefusal : ParseError → Bool
  | .rejected _ => true
  | .misfit .unreported => true
  | _ => false

variable {C V L : Type}

/-- The failure that a parse ended with. -/
def Outcome.failure? (outcome : Outcome C V L) : Option ParseError :=
  match outcome.verdict with
  | .error error => some error
  | .ok _ => none

/-- The failure of an outcome is the error of its verdict. -/
theorem Outcome.failure?_eq_some {outcome : Outcome C V L} {error : ParseError} :
    outcome.failure? = some error ↔ outcome.verdict = .error error := by
  unfold failure?
  cases outcome.verdict <;> simp

namespace Engine

/-- An error is reported at this configuration: its lookahead is rejected, and no window is open. -/
def reporting (engine : Engine C V) (c : Configuration C V L) : Bool :=
  c.countdown = 0 && (engine.tables.lookup c.top c.lookahead.symbol).isNone

/-- The configurations of a trail at which errors are reported, in order. -/
def reported (engine : Engine C V) (trail : List (Configuration C V L)) :
    List (Configuration C V L) :=
  trail.filter engine.reporting

/-- The error of a configuration that rejects its lookahead. -/
def errorAt (engine : Engine C V) (c : Configuration C V L) : SyntaxError :=
  engine.tables.syntaxError c.top c.lookahead

/-- A configuration with an action for its lookahead reports nothing. -/
theorem reporting_eq_false {engine : Engine C V} {c : Configuration C V L} {action : Action}
    (looked : engine.tables.lookup c.top c.lookahead.symbol = some action) :
    engine.reporting c = false := by
  simp [reporting, looked]

/-- A configuration without an action for its lookahead reports it if no window is open. -/
theorem reporting_eq {engine : Engine C V} {c : Configuration C V L}
    (looked : engine.tables.lookup c.top c.lookahead.symbol = none) :
    engine.reporting c = decide (c.countdown = 0) := by
  simp [reporting, looked]

/-- One more configuration on a trail is reported if it reports. -/
theorem reported_append (engine : Engine C V) (trail : List (Configuration C V L))
    (c : Configuration C V L) :
    engine.reported (trail ++ [c]) =
      engine.reported trail ++ if engine.reporting c then [c] else [] := by
  simp only [reported, List.filter_append, List.filter_cons, List.filter_nil]

/-- Reports are spaced out. The listener was told the errors that are kept, and these are the errors
at the configurations that report; each of them lies three shifts back, as far as these are not yet
to come in the open window; there is a recovery for each, and without any no window is open. -/
structure Spaced (engine : Engine C V) (listen : L → SyntaxError → L) (log : L)
    (trail : List (Configuration C V L)) (c : Configuration C V L) : Prop where
  told : c.log = c.errors.foldl listen log
  kept : c.errors = (engine.reported trail).map engine.errorAt
  since : ∀ earlier ∈ engine.reported trail,
    earlier.shifts + recoveryWindow ≤ c.shifts + c.countdown ∧ earlier.discarded ≤ c.discarded
  few : recoveryWindow * c.errors.length ≤ c.shifts + c.countdown
  recovered : c.errors.length ≤ c.recoveries
  quiet : c.errors = [] → c.recoveries = 0 ∧ c.countdown = 0

variable {engine : Engine C V} {listen : L → SyntaxError → L} {c next : Configuration C V L}
  {log : L} {trail : List (Configuration C V L)} {outcome : Outcome C V L}

/-- A move that reports nothing keeps reports spaced out, provided that it leaves the log and the
errors, uses up the window only by shifts, and recovers only after a report. -/
theorem Spaced.of_silent (spaced : Spaced engine listen log trail c)
    (silent : engine.reporting c = false) (same_log : next.log = c.log)
    (same_errors : next.errors = c.errors)
    (window : c.shifts + c.countdown ≤ next.shifts + next.countdown)
    (discarded : c.discarded ≤ next.discarded) (recoveries : c.recoveries ≤ next.recoveries)
    (quiet : c.recoveries = 0 → c.countdown = 0 → next.recoveries = 0 ∧ next.countdown = 0) :
    Spaced engine listen log (trail ++ [c]) next := by
  have same : engine.reported (trail ++ [c]) = engine.reported trail := by
    rw [reported_append, silent, if_neg Bool.false_ne_true, List.append_nil]
  refine ⟨?_, ?_, ?_, ?_, ?_, ?_⟩
  · rw [same_log, same_errors, spaced.told]
  · rw [same, same_errors, spaced.kept]
  · rw [same]
    intro earlier mem
    obtain ⟨shifts, dropped⟩ := spaced.since earlier mem
    exact ⟨shifts.trans window, dropped.trans discarded⟩
  · rw [same_errors]
    exact spaced.few.trans window
  · rw [same_errors]
    exact spaced.recovered.trans recoveries
  · rw [same_errors]
    intro none_yet
    obtain ⟨no_recoveries, closed⟩ := spaced.quiet none_yet
    exact quiet no_recoveries closed

/-- A recovery outside the window keeps reports spaced out: it reports an error and opens the
window. -/
theorem Spaced.of_report (spaced : Spaced engine listen log trail c)
    (reports : engine.reporting c = true)
    (same_log : next.log = listen c.log (engine.errorAt c))
    (same_errors : next.errors = c.errors ++ [engine.errorAt c])
    (shifts : next.shifts = c.shifts) (opened : next.countdown = recoveryWindow)
    (discarded : c.discarded ≤ next.discarded) (recoveries : next.recoveries = c.recoveries + 1) :
    Spaced engine listen log (trail ++ [c]) next := by
  have more : engine.reported (trail ++ [c]) = engine.reported trail ++ [c] := by
    rw [reported_append, if_pos reports]
  have closed : c.countdown = 0 := by
    rw [reporting, Bool.and_eq_true, decide_eq_true_eq] at reports
    exact reports.1
  refine ⟨?_, ?_, ?_, ?_, ?_, ?_⟩
  · rw [same_log, same_errors, List.foldl_append, ← spaced.told]
    rfl
  · rw [more, same_errors, List.map_append, ← spaced.kept]
    rfl
  · rw [more, List.forall_mem_append, List.forall_mem_singleton]
    refine ⟨?_, ?_, discarded⟩
    · intro earlier mem
      obtain ⟨far, dropped⟩ := spaced.since earlier mem
      exact ⟨by omega, dropped.trans discarded⟩
    · omega
  · have few := spaced.few
    rw [same_errors, List.length_append, List.length_singleton, opened, shifts]
    unfold recoveryWindow at few ⊢
    omega
  · have recovered := spaced.recovered
    rw [same_errors, List.length_append, List.length_singleton, recoveries]
    omega
  · simp [same_errors]

/-! ## The last move of a parse -/

/-- A parse ends with its log and its errors; it may give up only under a condition, and then it
blames the first of these errors. -/
structure Ends (c : Configuration C V L) (outcome : Outcome C V L) (may_refuse : Prop) : Prop where
  log : outcome.log = c.log
  errors : outcome.errors = c.errors
  blames : ∀ error, outcome.verdict = .error error → error.isRefusal = true →
    may_refuse ∧ error = .refusal c.errors

section

variable {last : Configuration C V L} {may_refuse : Prop}

/-- A parse that halts with an error other than a refusal ends well. -/
theorem ends_of_error {error : ParseError} (halted : last.halt (.error error) = .halt outcome)
    (log : last.log = c.log) (errors : last.errors = c.errors)
    (unrefused : error.isRefusal = false) : Ends c outcome may_refuse := by
  rw [Configuration.halt, Move.halt.injEq] at halted
  subst halted
  refine ⟨log, errors, ?_⟩
  intro failure same refused
  rw [← Except.error.inj same, unrefused] at refused
  contradiction

/-- A parse that halts with a value ends well. -/
theorem ends_of_value {value : V} (halted : last.halt (.ok value) = .halt outcome)
    (log : last.log = c.log) (errors : last.errors = c.errors) : Ends c outcome may_refuse := by
  rw [Configuration.halt, Move.halt.injEq] at halted
  subst halted
  exact ⟨log, errors, fun failure same => by simp at same⟩

/-- A parse that gives up where it may ends well. -/
theorem ends_of_giveUp (allowed : may_refuse) (given_up : last.giveUp = .halt outcome)
    (log : last.log = c.log) (errors : last.errors = c.errors) : Ends c outcome may_refuse := by
  rw [Configuration.giveUp, Configuration.halt, Move.halt.injEq] at given_up
  subst given_up
  refine ⟨log, errors, ?_⟩
  intro failure same _
  rw [← errors]
  exact ⟨allowed, (Except.error.inj same).symm⟩

/-- A parse that ends in going to the next lookahead ends well. -/
theorem ends_of_advance (advanced : engine.advance last = .halt outcome)
    (log : last.log = c.log) (errors : last.errors = c.errors) : Ends c outcome may_refuse := by
  unfold advance at advanced
  split at advanced
  · exact ends_of_error advanced log errors rfl
  · simp at advanced

variable [StackValue V]

/-- A parse that ends in a reduction ends well. -/
theorem ends_of_reduce {production : Nat} (reduced : engine.reduce c production = .halt outcome) :
    Ends c outcome may_refuse := by
  unfold reduce at reduced
  split at reduced
  · exact ends_of_error reduced rfl rfl rfl
  · split at reduced
    · exact ends_of_error reduced rfl rfl rfl
    · simp only at reduced
      split at reduced
      · exact ends_of_error reduced rfl rfl rfl
      · split at reduced
        · exact ends_of_value reduced rfl rfl
        · split at reduced
          · exact ends_of_error reduced rfl rfl rfl
          · simp at reduced

/-- A parse that ends in resuming, where it may give up, ends well. -/
theorem ends_of_resume (allowed : may_refuse) (resumed : engine.resume last = .halt outcome)
    (log : last.log = c.log) (errors : last.errors = c.errors) : Ends c outcome may_refuse := by
  unfold resume at resumed
  split at resumed
  · exact ends_of_giveUp allowed resumed log errors
  · simp only at resumed
    split at resumed
    · exact ends_of_giveUp allowed resumed log errors
    · exact ends_of_error resumed log errors rfl
    · simp at resumed

end

variable [StackValue V]

/-- A recovery that reports ends a parse after the report. -/
theorem ends_of_reporting (closed : c.countdown = 0)
    (recovered : engine.recover listen c = .halt outcome) :
    Ends (engine.report listen c) outcome True := by
  unfold recover at recovered
  rw [if_pos closed] at recovered
  simp only at recovered
  split at recovered
  · exact ends_of_resume trivial recovered rfl rfl
  · exact ends_of_giveUp trivial recovered rfl rfl

/-- A recovery inside the window ends a parse without a report. -/
theorem ends_of_silent (opened : c.countdown ≠ 0)
    (recovered : engine.recover listen c = .halt outcome) : Ends c outcome True := by
  unfold recover at recovered
  rw [if_neg opened] at recovered
  split at recovered
  · split at recovered
    · exact ends_of_giveUp trivial recovered rfl rfl
    · split at recovered
      case h_1 early advanced =>
        rw [Move.halt.injEq] at recovered
        subst recovered
        exact ends_of_advance advanced rfl rfl
      case h_2 later advanced =>
        obtain ⟨lookahead, feed, -, rfl⟩ := advanced_eq advanced
        exact ends_of_resume trivial recovered rfl rfl
  · exact ends_of_resume trivial recovered rfl rfl

/-- What the last move of a parse does to the log and the errors, and whom it blames. -/
structure Stopped (engine : Engine C V) (listen : L → SyntaxError → L) (c : Configuration C V L)
    (outcome : Outcome C V L) : Prop where
  log : outcome.log = if engine.reporting c then listen c.log (engine.errorAt c) else c.log
  errors : outcome.errors = c.errors ++ if engine.reporting c then [engine.errorAt c] else []
  blames : ∀ error, outcome.verdict = .error error → error.isRefusal = true →
    engine.tables.lookup c.top c.lookahead.symbol = none ∧ error = .refusal outcome.errors

/-- The last move of a parse stops it in one of the ways listed. -/
theorem stopped_of_step (halted : engine.step listen c = .halt outcome) :
    Stopped engine listen c outcome := by
  -- A shift or a reduction reports nothing and cannot give up.
  have of_action : ∀ action, engine.tables.lookup c.top c.lookahead.symbol = some action →
      Ends c outcome False → Stopped engine listen c outcome := by
    intro action looked ends
    have silent := reporting_eq_false looked
    refine ⟨by simp [silent, ends.log], by simp [silent, ends.errors], ?_⟩
    intro error failed refused
    exact (ends.blames error failed refused).1.elim
  unfold step at halted
  split at halted
  case h_1 state looked => exact of_action _ looked (ends_of_advance halted rfl rfl)
  case h_2 production looked => exact of_action _ looked (ends_of_reduce halted)
  case h_3 looked =>
    by_cases closed : c.countdown = 0
    · have ends := ends_of_reporting closed halted
      have reports : engine.reporting c = true := by rw [reporting_eq looked, decide_eq_true closed]
      refine ⟨by rw [ends.log, if_pos reports]; rfl, by rw [ends.errors, if_pos reports]; rfl, ?_⟩
      intro error failed refused
      rw [ends.errors]
      exact ⟨looked, (ends.blames error failed refused).2⟩
    · have ends := ends_of_silent closed halted
      have silent : engine.reporting c = false := by
        rw [reporting_eq looked, decide_eq_false closed]
      refine ⟨by simp [silent, ends.log], by simp [silent, ends.errors], ?_⟩
      intro error failed refused
      rw [ends.errors]
      exact ⟨looked, (ends.blames error failed refused).2⟩

/-! ## Whole parses -/

variable {context : C} {input : List (Except Unmatched Token)} {limit : Nat}

/-- A move keeps reports spaced out. -/
theorem spaced_of_moved (window : c.countdown ≤ recoveryWindow)
    (spaced : Spaced engine listen log trail c) (moved : Moved engine listen c next) :
    Spaced engine listen log (trail ++ [c]) next := by
  cases moved with
  | shift looked taken =>
    refine spaced.of_silent (reporting_eq_false looked) rfl rfl ?_ (Nat.le_refl _)
      (Nat.le_refl _) fun no_recoveries closed => ⟨no_recoveries, by simp only [closed]⟩
    simp only
    omega
  | reduce looked inner known deep acted target =>
    exact spaced.of_silent (reporting_eq_false looked) rfl rfl (Nat.le_refl _) (Nat.le_refl _)
      (Nat.le_refl _) fun no_recoveries closed => ⟨no_recoveries, closed⟩
  | recover looked reported unwound dropped given_up acceptable =>
    have open_or_closed := reporting_eq looked
    split at reported
    case isTrue closed =>
      rw [decide_eq_true closed] at open_or_closed
      exact spaced.of_report open_or_closed reported.1 reported.2 rfl rfl (Nat.le_add_right _ _) rfl
    case isFalse opened =>
      rw [decide_eq_false opened] at open_or_closed
      exact spaced.of_silent open_or_closed reported.1 reported.2
        (Nat.add_le_add_left window _) (Nat.le_add_right _ _) (Nat.le_succ _)
        fun _ closed => absurd closed opened

/-- Reports are spaced out along every trail. -/
theorem spaced_of_trail (before : Trail engine listen log context input trail c) :
    Spaced engine listen log trail c := by
  induction before with
  | start started =>
    obtain ⟨lookahead, feed, -, rfl⟩ := started_eq started
    exact ⟨rfl, rfl, by simp [reported], Nat.zero_le _, Nat.zero_le _, fun _ => ⟨rfl, rfl⟩⟩
  | move before stepped ih =>
    exact spaced_of_moved (paid_of_trail before).window ih (moved_of_step stepped)

/-- What is known at a report: three shifts lie behind each earlier one; and over tables that never
shift the end of input, the offending lookahead stands behind those shifted and dropped, at least
three places behind each earlier one, and before the first report the lookaheads in front of it were
shifted and none was dropped. -/
theorem apart_of_reporting (before : Trail engine listen log context input trail c)
    (reports : engine.reporting c = true) :
    (∀ earlier ∈ engine.reported trail, earlier.shifts + recoveryWindow ≤ c.shifts) ∧
    (engine.tables.NeverShiftsEnd →
      engine.tables.Stands (engine.tables.lookaheads input) (c.shifts + c.discarded) c.lookahead
        c.feed ∧
      (∀ earlier ∈ engine.reported trail,
        earlier.shifts + earlier.discarded + recoveryWindow ≤ c.shifts + c.discarded) ∧
      (engine.reported trail = [] → c.discarded = 0 ∧
        engine.shifted trail = (engine.tables.lookaheads input).take c.shifts)) := by
  have spaced := spaced_of_trail before
  have closed : c.countdown = 0 := by
    rw [reporting, Bool.and_eq_true, decide_eq_true_eq] at reports
    exact reports.1
  have far : ∀ earlier ∈ engine.reported trail, earlier.shifts + recoveryWindow ≤ c.shifts := by
    intro earlier mem
    have since := (spaced.since earlier mem).1
    rwa [closed, Nat.add_zero] at since
  refine ⟨far, fun unshifted => ⟨stands_of_trail unshifted before, ?_, ?_⟩⟩
  · intro earlier mem
    have shifts := far earlier mem
    have dropped := (spaced.since earlier mem).2
    omega
  · intro first
    have none_yet : c.errors = [] := by rw [spaced.kept, first, List.map_nil]
    exact shifted_of_trail unshifted before (spaced.quiet none_yet).1

/-- What is known where a parse ends: the listener was told the errors that are kept, these are the
errors of the configurations that reported, and there are no more of them than one and one for every
three shifts. -/
theorem told_of_finishes (finished : Finishes engine listen log context input trail outcome) :
    outcome.log = outcome.errors.foldl listen log ∧
    outcome.errors = (engine.reported trail).map engine.errorAt ∧
    recoveryWindow * outcome.errors.length ≤ outcome.stats.shifts + recoveryWindow := by
  cases finished with
  | atOnce halted =>
    obtain ⟨fault, rfl⟩ := unstarted_eq halted
    exact ⟨rfl, rfl, Nat.zero_le _⟩
  | @behind trail last _ before halted =>
    obtain ⟨told, kept, -, few, -, -⟩ := spaced_of_trail before
    obtain ⟨log, errors, -⟩ := stopped_of_step halted
    have window := (paid_of_trail before).window
    have shifts : last.shifts ≤ outcome.stats.shifts := by
      obtain ⟨-, same | ⟨one_more, -⟩⟩ := counts_of_halt halted <;> omega
    refine ⟨?_, ?_, ?_⟩
    · rw [log, errors, List.foldl_append, ← told]
      split <;> rfl
    · rw [errors, reported_append, List.map_append, ← kept]
      split <;> rfl
    · rw [errors, List.length_append, Nat.mul_add]
      split
      case isTrue reports =>
        -- A report is made with the window closed.
        rw [reporting, Bool.and_eq_true, decide_eq_true_eq] at reports
        simp only [List.length_singleton]
        omega
      case isFalse =>
        simp only [List.length_nil]
        omega

/-- Whom a parse blames where it ends: with a value there is a recovery for every error; a syntax
error is the first that was reported, and a parse never gives up without one. -/
theorem blames_of_finishes (finished : Finishes engine listen log context input trail outcome) :
    (∀ value, outcome.verdict = .ok value → outcome.errors.length ≤ outcome.stats.recoveries) ∧
    (∀ error, outcome.verdict = .error (.rejected error) → outcome.errors.head? = some error) ∧
    outcome.verdict ≠ .error (.misfit .unreported) := by
  cases finished with
  | atOnce halted =>
    obtain ⟨fault, rfl⟩ := unstarted_eq halted
    simp
  | @behind trail last _ before halted =>
    have spaced := spaced_of_trail before
    obtain ⟨-, errors, blames⟩ := stopped_of_step halted
    have recoveries := (counts_of_halt halted).1
    -- Where a parse gives up, it has reported just now or the window is open after a report.
    have blamed : ∀ error, outcome.verdict = .error error → error.isRefusal = true →
        ∃ first rest, outcome.errors = first :: rest ∧ error = .rejected first := by
      intro error failed refused
      obtain ⟨looked, same⟩ := blames error failed refused
      have filled : outcome.errors ≠ [] := by
        rw [errors]
        by_cases closed : last.countdown = 0
        · simp [reporting_eq looked, closed]
        · have some_error : last.errors ≠ [] := fun none_yet => closed (spaced.quiet none_yet).2
          simp [some_error]
      obtain ⟨first, rest, found⟩ := List.exists_cons_of_ne_nil filled
      exact ⟨first, rest, found, by rw [same, found]; rfl⟩
    refine ⟨?_, ?_, ?_⟩
    · intro value accepted
      have silent := reporting_eq_false (accepts_of_halt halted accepted).1
      rw [errors, silent, recoveries, if_neg Bool.false_ne_true, List.append_nil]
      exact spaced.recovered
    · intro error failed
      obtain ⟨first, rest, found, same⟩ := blamed _ failed rfl
      rw [found, List.head?_cons, ParseError.rejected.inj same]
    · intro failed
      obtain ⟨first, rest, -, same⟩ := blamed _ failed rfl
      contradiction

/-- What a parse reports. Wherever it comes to, its listener was told the errors that are kept, in
order, and they are those at the configurations that reported. Between two reports lie three shifts;
over tables that never shift the end of input also three places of the input, and the first report
is made at the first lookahead that was not shifted. A parse that ends has no more errors than one
and one for every three shifts; with a value, no more than recoveries; a syntax error that ends it
is the first that was reported, and it never ends for want of one. -/
theorem reports_of_parse (engine : Engine C V) (listen : L → SyntaxError → L) (log : L)
    (context : C) (input : List (Except Unmatched Token)) :
    (∀ trail c, Trail engine listen log context input trail c →
      c.log = c.errors.foldl listen log ∧
      c.errors = (engine.reported trail).map engine.errorAt) ∧
    (∀ trail c, Trail engine listen log context input trail c → engine.reporting c = true →
      (∀ earlier ∈ engine.reported trail, earlier.shifts + recoveryWindow ≤ c.shifts) ∧
      (engine.tables.NeverShiftsEnd →
        engine.tables.Stands (engine.tables.lookaheads input) (c.shifts + c.discarded) c.lookahead
          c.feed ∧
        (∀ earlier ∈ engine.reported trail,
          earlier.shifts + earlier.discarded + recoveryWindow ≤ c.shifts + c.discarded) ∧
        (engine.reported trail = [] → c.discarded = 0 ∧
          engine.shifted trail = (engine.tables.lookaheads input).take c.shifts))) ∧
    (∀ limit outcome, engine.parseTokens limit listen log context input = some outcome →
      outcome.log = outcome.errors.foldl listen log ∧
      (∃ trail, Finishes engine listen log context input trail outcome ∧
        outcome.errors = (engine.reported trail).map engine.errorAt) ∧
      outcome.errors.length ≤ 1 + outcome.stats.shifts / recoveryWindow ∧
      (∀ value, outcome.verdict = .ok value → outcome.errors.length ≤ outcome.stats.recoveries) ∧
      (∀ error, outcome.verdict = .error (.rejected error) →
        outcome.errors.head? = some error) ∧
      outcome.verdict ≠ .error (.misfit .unreported)) := by
  refine ⟨?_, fun trail c before reports => apart_of_reporting before reports, ?_⟩
  · intro trail c before
    have spaced := spaced_of_trail before
    exact ⟨spaced.told, spaced.kept⟩
  · intro limit outcome ended
    obtain ⟨trail, finished⟩ := exists_finishes ended
    obtain ⟨told, kept, few⟩ := told_of_finishes finished
    refine ⟨told, ⟨trail, finished, kept⟩, ?_, blames_of_finishes finished⟩
    unfold recoveryWindow at few ⊢
    omega

/-- A source of statements with an error at its second token and another one at its seventh. -/
def faultyStatements : List (Except Unmatched Token) :=
  sampleInput ["x", "x", ";", "x", ";", "x", "x", ";"]

/-- A parse with two errors reports both and recovers from each. The second report is made five
places behind the first. -/
theorem reports_of_parse_statements :
    statementTables.NeverShiftsEnd ∧
    (∃ trail, ∃ c : Configuration (List Nat) ParseTree (List SyntaxError),
      Trail (treeEngine ⟨[]⟩ statementTables .standard) (fun log error => log ++ [error]) [] []
        faultyStatements trail c ∧
      (treeEngine ⟨[]⟩ statementTables .standard).reporting c = true ∧
      ((treeEngine ⟨[]⟩ statementTables .standard).reported trail).map
        (fun earlier => earlier.shifts + earlier.discarded) = [1] ∧
      c.shifts + c.discarded = 6 ∧
      ∀ earlier ∈ (treeEngine ⟨[]⟩ statementTables .standard).reported trail,
        earlier.shifts + earlier.discarded + recoveryWindow ≤ c.shifts + c.discarded) ∧
    ∃ outcome, (treeEngine ⟨[]⟩ statementTables .standard).parseTokens 40
        (fun log error => log ++ [error]) [] [] faultyStatements = some outcome ∧
      outcome.errors.length = 2 ∧ outcome.stats.shifts = 6 ∧
      outcome.log = outcome.errors.foldl (fun log error => log ++ [error]) [] ∧
      outcome.errors.length ≤ 1 + outcome.stats.shifts / recoveryWindow ∧
      outcome.errors.length ≤ outcome.stats.recoveries := by
  obtain ⟨-, along, ends⟩ := reports_of_parse (treeEngine ⟨[]⟩ statementTables .standard)
    (fun log error => log ++ [error]) [] [] faultyStatements
  refine ⟨neverShiftsEnd_statementTables, ?_, ?_⟩
  · have facts : ((treeEngine ⟨[]⟩ statementTables .standard).trail?
        (fun log error => log ++ [error]) [] [] faultyStatements 8).map
        (fun found => ((treeEngine ⟨[]⟩ statementTables .standard).reporting found.2,
          ((treeEngine ⟨[]⟩ statementTables .standard).reported found.1).map
            (fun earlier => earlier.shifts + earlier.discarded),
          found.2.shifts + found.2.discarded)) = some (true, [1], 6) := by
      decide +kernel
    obtain ⟨⟨trail, c⟩, found, same⟩ := Option.map_eq_some_iff.mp facts
    simp only [Prod.mk.injEq] at same
    obtain ⟨reports, first, place⟩ := same
    have before := trail_iff.mpr ⟨8, found⟩
    obtain ⟨-, spaced⟩ := along trail c before reports
    obtain ⟨-, apart, -⟩ := spaced neverShiftsEnd_statementTables
    exact ⟨trail, c, before, reports, first, place, apart⟩
  · have facts : ((treeEngine ⟨[]⟩ statementTables .standard).parseTokens 40
        (fun log error => log ++ [error]) [] [] faultyStatements).map
        (fun outcome => (outcome.verdict.toBool, outcome.errors.length, outcome.stats.shifts)) =
          some (true, 2, 6) := by
      decide +kernel
    obtain ⟨outcome, ended, same⟩ := Option.map_eq_some_iff.mp facts
    simp only [Prod.mk.injEq] at same
    obtain ⟨accepted, two, six⟩ := same
    obtain ⟨told, -, few, recovered, -⟩ := ends 40 outcome ended
    have value : ∃ value, outcome.verdict = .ok value := by
      cases verdict : outcome.verdict with
      | ok value => exact ⟨value, rfl⟩
      | error error => simp [verdict, Except.toBool] at accepted
    obtain ⟨value, verdict⟩ := value
    exact ⟨outcome, ended, two, six, told, few, recovered value verdict⟩

end Engine

end ShaderSyntax
