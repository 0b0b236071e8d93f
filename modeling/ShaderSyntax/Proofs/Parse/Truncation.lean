import ShaderSyntax.Proofs.Parse.Calls
import ShaderSyntax.Proofs.Parse.Reports

/-!
# A parse without recovery

Switching recovery off only cuts a parse short. Up to the first rejected lookahead both parses make
the same moves; there the one without recovery reports the error and ends, and the other one reports
it and may go on. So the first is a front of the second, with the actions that it ran, and it has
the same outcome unless it is a syntax error (`Engine.recovery_truncates`). The invariant is that a
parse is untroubled (`Configuration.Untroubled`), which one without recovery is wherever it comes
to.
-/

set_option autoImplicit false

namespace ShaderSyntax

variable {C V L : Type}

/-- A parse has met no error. -/
structure Configuration.Untroubled (log : L) (c : Configuration C V L) : Prop where
  countdown : c.countdown = 0
  errors : c.errors = []
  log : c.log = log
  recoveries : c.recoveries = 0
  discarded : c.discarded = 0

namespace Engine

/-- The same parser with recovery on or off. -/
def withRecovery (engine : Engine C V) (recover : Bool) : Engine C V :=
  { engine with options := { engine.options with recover } }

variable [StackValue V] {engine : Engine C V} {listen : L → SyntaxError → L} {log : L} {context : C}
  {input : List (Except Unmatched Token)} {trail : List (Configuration C V L)}
  {c next : Configuration C V L} {outcome : Outcome C V L} {limit : Nat}

/-- Recovery does not matter to a move with an action for the lookahead. -/
theorem step_withRecovery (recover : Bool) {action : Action}
    (looked : engine.tables.lookup c.top c.lookahead.symbol = some action) :
    (engine.withRecovery recover).step listen c = engine.step listen c := by
  have same : (engine.withRecovery recover).tables.lookup c.top c.lookahead.symbol = some action :=
    looked
  unfold step
  rw [looked, same]
  cases action <;> rfl

/-- A first rejected lookahead ends a parse without recovery. -/
theorem step_without_recovery (closed : c.countdown = 0)
    (looked : engine.tables.lookup c.top c.lookahead.symbol = none) :
    (engine.withRecovery false).step listen c = (engine.report listen c).giveUp := by
  have same : (engine.withRecovery false).tables.lookup c.top c.lookahead.symbol = none := looked
  unfold step Engine.recover
  rw [same]
  simp only [if_pos closed]
  rfl

/-- A parse starts untroubled. -/
theorem untroubled_of_start (started : engine.start context log input = .next c) :
    c.Untroubled log := by
  obtain ⟨lookahead, feed, -, rfl⟩ := started_eq started
  exact ⟨rfl, rfl, rfl, rfl, rfl⟩

/-- An untroubled parse without recovery goes on only where there is an action for the lookahead,
and untroubled. -/
theorem untroubled_of_step (untroubled : c.Untroubled log)
    (stepped : (engine.withRecovery false).step listen c = .next next) :
    next.Untroubled log ∧
      ∃ action, engine.tables.lookup c.top c.lookahead.symbol = some action := by
  cases looked : engine.tables.lookup c.top c.lookahead.symbol with
  | none =>
    rw [step_without_recovery untroubled.countdown looked] at stepped
    simp [Configuration.giveUp, Configuration.halt] at stepped
  | some action =>
    refine ⟨?_, action, rfl⟩
    obtain ⟨countdown, errors, same_log, recoveries, discarded⟩ := untroubled
    cases moved_of_step stepped with
    | shift shifts taken =>
      refine ⟨?_, errors, same_log, recoveries, discarded⟩
      simp only [countdown]
    | reduce reduces inner known deep acted target =>
      exact ⟨countdown, errors, same_log, recoveries, discarded⟩
    | recover rejects => exact absurd (looked.symm.trans rejects) (Option.some_ne_none action)

/-- Wherever a parse without recovery comes to it is untroubled. -/
theorem untroubled_of_trail
    (before : Trail (engine.withRecovery false) listen log context input trail c) :
    c.Untroubled log := by
  induction before with
  | start started => exact untroubled_of_start started
  | move before stepped ih => exact (untroubled_of_step ih stepped).1

/-- A trail of a parse without recovery is one of a parse with recovery. -/
theorem trail_withRecovery (recover : Bool)
    (before : Trail (engine.withRecovery false) listen log context input trail c) :
    Trail (engine.withRecovery recover) listen log context input trail c := by
  induction before with
  | start started => exact .start started
  | move before stepped ih =>
    obtain ⟨-, action, looked⟩ := untroubled_of_step (untroubled_of_trail before) stepped
    rw [step_withRecovery false looked, ← step_withRecovery recover looked] at stepped
    exact .move ih stepped

/-- A run without recovery that does not end in a syntax error is one with recovery. -/
theorem run_withRecovery (recover : Bool) (untroubled : c.Untroubled log)
    (ended : (engine.withRecovery false).run listen limit c = some outcome)
    (unrejected : ∀ error, outcome.verdict ≠ .error (.rejected error)) :
    (engine.withRecovery recover).run listen limit c = some outcome := by
  induction limit generalizing c with
  | zero => simp [run] at ended
  | succ limit ih =>
    cases looked : engine.tables.lookup c.top c.lookahead.symbol with
    | none =>
      rw [run, step_without_recovery untroubled.countdown looked] at ended
      simp only [Configuration.giveUp, Configuration.halt, report, untroubled.errors,
        List.nil_append, Option.some.injEq] at ended
      rw [← ended] at unrejected
      exact absurd rfl (unrejected _)
    | some action =>
      rw [run, step_withRecovery _ looked] at ended ⊢
      split at ended
      case h_1 early halted => exact ended
      case h_2 next stepped =>
        rw [← step_withRecovery false looked] at stepped
        exact ih (untroubled_of_step untroubled stepped).1 ended

/-- A parse without recovery that does not end in a syntax error is one with recovery. -/
theorem parseTokens_withRecovery (recover : Bool)
    (ended : (engine.withRecovery false).parseTokens limit listen log context input = some outcome)
    (unrejected : ∀ error, outcome.verdict ≠ .error (.rejected error)) :
    (engine.withRecovery recover).parseTokens limit listen log context input = some outcome := by
  unfold parseTokens at ended ⊢
  split at ended
  case h_1 early halted =>
    have same : (engine.withRecovery recover).start context log input = .halt early := halted
    rw [same]
    exact ended
  case h_2 first started =>
    have same : (engine.withRecovery recover).start context log input = .next first := started
    rw [same]
    exact run_withRecovery recover (untroubled_of_start started) ended unrejected

/-- A parse without recovery that does not end in a syntax error has reported none; one that ends
with a value has dropped nothing. -/
theorem silent_of_finishes
    (finished : Finishes (engine.withRecovery false) listen log context input trail outcome)
    (unrejected : ∀ error, outcome.verdict ≠ .error (.rejected error)) :
    outcome.errors = [] ∧ outcome.log = log ∧ ∀ value, outcome.verdict = .ok value →
      outcome.stats.recoveries = 0 ∧ outcome.stats.discarded = 0 := by
  cases finished with
  | atOnce halted =>
    obtain ⟨fault, rfl⟩ := unstarted_eq halted
    exact ⟨rfl, rfl, fun value _ => ⟨rfl, rfl⟩⟩
  | @behind trail last _ before halted =>
    have untroubled := untroubled_of_trail before
    cases looked : engine.tables.lookup last.top last.lookahead.symbol with
    | none =>
      rw [step_without_recovery untroubled.countdown looked, Configuration.giveUp,
        Configuration.halt, Move.halt.injEq] at halted
      rw [← halted, report, untroubled.errors] at unrejected
      exact absurd rfl (unrejected _)
    | some action =>
      have silent : (engine.withRecovery false).reporting last = false :=
        reporting_eq_false looked
      obtain ⟨told, kept, -⟩ := stopped_of_step halted
      rw [silent] at told kept
      refine ⟨?_, ?_, ?_⟩
      · simpa [untroubled.errors] using kept
      · simpa [untroubled.log] using told
      · intro value accepted
        have goal := (accepts_of_halt halted accepted).1
        unfold step at halted
        rw [goal] at halted
        obtain ⟨-, recoveries, dropped, -⟩ := counts_of_reduce halted
        exact ⟨recoveries.trans untroubled.recoveries, dropped.trans untroubled.discarded⟩

/-- A parse without recovery that ends in a syntax error has reported this error alone, at the last
of its configurations. -/
theorem rejected_of_finishes {error : SyntaxError} {whole : List (Configuration C V L)}
    (finished : Finishes (engine.withRecovery false) listen log context input whole outcome)
    (failed : outcome.verdict = .error (.rejected error)) :
    outcome.errors = [error] ∧ outcome.log = listen log error ∧
    ∃ trail last, whole = trail ++ [last] ∧
      Trail (engine.withRecovery false) listen log context input trail last ∧
      last.errors = [] ∧ engine.reporting last = true ∧ engine.errorAt last = error := by
  have blamed := (blames_of_finishes finished).2.1 error failed
  cases finished with
  | atOnce halted =>
    obtain ⟨fault, rfl⟩ := unstarted_eq halted
    simp at failed
  | @behind trail last _ before halted =>
    have untroubled := untroubled_of_trail before
    obtain ⟨told, kept, blames⟩ := stopped_of_step halted
    have looked : engine.tables.lookup last.top last.lookahead.symbol = none :=
      (blames _ failed rfl).1
    have reports : engine.reporting last = true := by
      rw [reporting_eq looked, decide_eq_true untroubled.countdown]
    have reports_off : (engine.withRecovery false).reporting last = true := reports
    rw [if_pos reports_off, untroubled.errors, List.nil_append] at kept
    rw [if_pos reports_off, untroubled.log] at told
    rw [kept, List.head?_cons, Option.some.injEq] at blamed
    rw [← blamed]
    exact ⟨kept, told, trail, last, rfl, before, untroubled.errors, reports, rfl⟩

/-- The first error of a parse is that of the first configuration that reports. -/
theorem head?_reported {others : List (Configuration C V L)}
    (before : Trail engine listen log context input trail c) (unreported : c.errors = [])
    (reports : engine.reporting c = true) (front : trail ++ [c] <+: others) :
    ((engine.reported others).map engine.errorAt).head? = some (engine.errorAt c) := by
  have kept := (spaced_of_trail before).kept
  rw [unreported, eq_comm, List.map_eq_nil_iff] at kept
  obtain ⟨rest, rfl⟩ := front
  rw [reported, List.filter_append, ← reported, reported_append, kept, if_pos reports]
  rfl

/-- Behind a configuration that reports for the first time, a parse keeps its error as the first
one. -/
theorem first_of_trail {others : List (Configuration C V L)} {other : Configuration C V L}
    (before : Trail engine listen log context input trail c) (unreported : c.errors = [])
    (reports : engine.reporting c = true)
    (second : Trail engine listen log context input others other) :
    others ++ [other] <+: trail ++ [c] ∨
      trail ++ [c] <+: others ∧ other.errors.head? = some (engine.errorAt c) := by
  rcases prefix_of_trails before second with within | front
  · exact .inl within
  · rcases List.prefix_concat_iff.mp front with same | further
    · rw [same]
      exact .inl (List.prefix_refl _)
    · right
      refine ⟨further, ?_⟩
      rw [(spaced_of_trail second).kept]
      exact head?_reported before unreported reports further

/-- A parse that has reported an error for the first time ends with this error as its first, and no
other syntax error can end it. -/
theorem first_of_finishes {others : List (Configuration C V L)}
    (before : Trail engine listen log context input trail c) (unreported : c.errors = [])
    (reports : engine.reporting c = true)
    (finished : Finishes engine listen log context input others outcome) :
    trail ++ [c] <+: others ∧ outcome.errors.head? = some (engine.errorAt c) ∧
      ∀ error, outcome.verdict = .error (.rejected error) → error = engine.errorAt c := by
  have front := prefix_of_finishes before finished
  have first : outcome.errors.head? = some (engine.errorAt c) := by
    rw [(told_of_finishes finished).2.1]
    exact head?_reported before unreported reports front
  refine ⟨front, first, ?_⟩
  intro error rejected
  have blamed := (blames_of_finishes finished).2.1 error rejected
  exact Option.some.inj (blamed.symm.trans first)

/-- Switching recovery off only cuts a parse short. If the parse without recovery ends with a value,
with a fault of its tokens or its tables or with a failed action, so does the one with recovery,
within as many moves and with the same outcome, and nothing is reported. If it ends in a syntax
error, it has reported this error alone; the parse with recovery comes through the same
configurations first, runs the same actions there and reports the same error, and no other syntax
error can end it. -/
theorem recovery_truncates
    (ended : (engine.withRecovery false).parseTokens limit listen log context input =
      some outcome) :
    (∀ value, outcome.verdict = .ok value →
      (engine.withRecovery true).parseTokens limit listen log context input = some outcome ∧
      outcome.errors = [] ∧ outcome.log = log ∧
      outcome.stats.recoveries = 0 ∧ outcome.stats.discarded = 0) ∧
    (∀ failure, outcome.verdict = .error failure → (∀ error, failure ≠ .rejected error) →
      (engine.withRecovery true).parseTokens limit listen log context input = some outcome ∧
      outcome.errors = [] ∧ outcome.log = log) ∧
    ∀ error, outcome.verdict = .error (.rejected error) →
      outcome.errors = [error] ∧ outcome.log = listen log error ∧
      ∃ trail, Finishes (engine.withRecovery false) listen log context input trail outcome ∧
        (∀ others other, Trail (engine.withRecovery true) listen log context input others other →
          others ++ [other] <+: trail ∨ trail <+: others ∧ other.errors.head? = some error) ∧
        ∀ more result,
          (engine.withRecovery true).parseTokens more listen log context input = some result →
          ∃ others, Finishes (engine.withRecovery true) listen log context input others result ∧
            trail <+: others ∧ engine.calls trail <+: engine.calls others ∧
            result.errors.head? = some error ∧
            ∀ second, result.verdict = .error (.rejected second) → second = error := by
  obtain ⟨whole, finished⟩ := exists_finishes ended
  refine ⟨?_, ?_, ?_⟩
  · intro value accepted
    have unrejected : ∀ error, outcome.verdict ≠ .error (.rejected error) := by
      intro error
      rw [accepted]
      exact nofun
    obtain ⟨errors, told, counts⟩ := silent_of_finishes finished unrejected
    exact ⟨parseTokens_withRecovery true ended unrejected, errors, told, counts value accepted⟩
  · intro failure failed other_failure
    have unrejected : ∀ error, outcome.verdict ≠ .error (.rejected error) := by
      intro error same
      exact other_failure error (Except.error.inj (failed.symm.trans same))
    obtain ⟨errors, told, -⟩ := silent_of_finishes finished unrejected
    exact ⟨parseTokens_withRecovery true ended unrejected, errors, told⟩
  · intro error failed
    obtain ⟨errors, told, trail, last, rfl, before, unreported, reports, rfl⟩ :=
      rejected_of_finishes finished failed
    have with_recovery := trail_withRecovery true before
    have reports_too : (engine.withRecovery true).reporting last = true := reports
    refine ⟨errors, told, trail ++ [last], finished, ?_, ?_⟩
    · intro others other second
      have placed := first_of_trail with_recovery unreported reports_too second
      exact placed
    · intro more result second
      obtain ⟨others, finished_too⟩ := exists_finishes second
      obtain ⟨front, first, blamed⟩ :=
        first_of_finishes with_recovery unreported reports_too finished_too
      exact ⟨others, finished_too, front, front.filterMap _, first, blamed⟩

/-- The parser of statements. -/
def statementEngine : Engine (List Nat) ParseTree :=
  treeEngine ⟨[]⟩ statementTables .standard

/-- A statement, an error at the fourth token, and the end of another statement. -/
def truncatedInput : List (Except Unmatched Token) :=
  sampleInput ["x", ";", "x", "x", ";"]

/-- Without recovery the parse ends at its fourth token, with one reduction behind it; with recovery
it reports the same error, and ends with a value after two reductions. Input without an error gives
the same outcome either way. -/
theorem recovery_truncates_statements :
    (∃ outcome error, (statementEngine.withRecovery false).parseTokens 40
        (fun log error => log ++ [error]) [] [] truncatedInput = some outcome ∧
      outcome.verdict = .error (.rejected error) ∧ outcome.context = [1] ∧
      outcome.errors = [error] ∧
      ∃ result, (statementEngine.withRecovery true).parseTokens 40
        (fun log error => log ++ [error]) [] [] truncatedInput = some result ∧
      result.context = [1, 3] ∧ result.errors.head? = some error) ∧
    ∃ outcome value, (statementEngine.withRecovery false).parseTokens 40
        (fun log error => log ++ [error]) [] [] (sampleInput ["x", ";"]) = some outcome ∧
      outcome.verdict = .ok value ∧ outcome.errors = [] ∧
      (statementEngine.withRecovery true).parseTokens 40
        (fun log error => log ++ [error]) [] [] (sampleInput ["x", ";"]) = some outcome := by
  constructor
  · have facts : ((statementEngine.withRecovery false).parseTokens 40
        (fun log error => log ++ [error]) [] [] truncatedInput).map
        (fun outcome => (outcome.failure?, outcome.context)) =
          some (some (.rejected ⟨1, 1, 0, "x", "x", [";"]⟩), [1]) := by
      decide +kernel
    have facts_too : ((statementEngine.withRecovery true).parseTokens 40
        (fun log error => log ++ [error]) [] [] truncatedInput).map Outcome.context =
          some [1, 3] := by
      decide +kernel
    obtain ⟨outcome, ended, same⟩ := Option.map_eq_some_iff.mp facts
    rw [Prod.mk.injEq] at same
    have failed := Outcome.failure?_eq_some.mp same.1
    obtain ⟨errors, -, trail, -, -, compare⟩ := (recovery_truncates ended).2.2 _ failed
    obtain ⟨result, ended_too, context⟩ := Option.map_eq_some_iff.mp facts_too
    obtain ⟨others, -, -, -, first, -⟩ := compare 40 result ended_too
    exact ⟨outcome, _, ended, failed, same.2, errors, result, ended_too, context, first⟩
  · have facts : ((statementEngine.withRecovery false).parseTokens 40
        (fun log error => log ++ [error]) [] [] (sampleInput ["x", ";"])).map
        (fun outcome => outcome.failure?.isNone) = some true := by
      decide +kernel
    obtain ⟨outcome, ended, same⟩ := Option.map_eq_some_iff.mp facts
    have accepted : ∃ value, outcome.verdict = .ok value := by
      cases verdict : outcome.verdict with
      | ok value => exact ⟨value, rfl⟩
      | error error => simp [Outcome.failure?, verdict] at same
    obtain ⟨value, verdict⟩ := accepted
    obtain ⟨with_recovery, errors, -⟩ := (recovery_truncates ended).1 value verdict
    exact ⟨outcome, value, ended, verdict, errors, with_recovery⟩

end Engine

end ShaderSyntax
