import Mathlib.Order.WellFounded
import Mathlib.Tactic.IntervalCases
import ShaderSyntax.Proofs.Parse.Stacks
import ShaderSyntax.Proofs.Tables.Automaton

/-!
# Recovery makes progress

A recovery may leave the lookahead where it was, so the moves of a parse are not bounded by its
tokens alone. Tables that never shift the end of input keep an account nevertheless: every lookahead
passed was shifted or dropped, and a recovery behind which nothing was shifted is preceded by a
lookahead that was dropped (`Configuration.Paid`). So there are at most as many shifts as
tokens and one recovery more, and a parse over tables without endless reductions ends
(`Engine.recovery_progresses`).
-/

set_option autoImplicit false

namespace ShaderSyntax

namespace TableBundle

/-! ## Lookaheads of an input -/

/-- The lookaheads of an input in order: its tokens other than skipped ones. -/
def lookaheads (tables : TableBundle) (input : List (Except Unmatched Token)) : List Lookahead :=
  input.filterMap fun
    | .ok token =>
      if tables.skips (tables.symbol token.kind) then none
      else some ⟨tables.symbol token.kind, token⟩
    | .error _ => none

/-- What is taken next is the first of the lookaheads of the input, or the end where there are
none. -/
theorem lookaheads_of_nextFrom {tables : TableBundle} {taken offset : Nat} {place : Position}
    {input : List (Except Unmatched Token)} {lookahead : Lookahead} {feed : Feed}
    (next : Feed.nextFrom tables taken offset place input = .ok (lookahead, feed)) :
    (tables.lookaheads input = lookahead :: tables.lookaheads feed.input ∧
      feed.taken = taken + 1) ∨
    (tables.lookaheads input = [] ∧ tables.lookaheads feed.input = [] ∧ feed.taken = taken ∧
      lookahead = tables.endLookahead feed.offset feed.place) := by
  induction input generalizing offset place with
  | nil =>
    simp only [Feed.nextFrom, Except.ok.injEq, Prod.mk.injEq] at next
    obtain ⟨rfl, rfl⟩ := next
    exact .inr ⟨rfl, rfl, rfl, rfl⟩
  | cons item rest ih =>
    cases item with
    | error fault => simp [Feed.nextFrom] at next
    | ok token =>
      simp only [Feed.nextFrom] at next
      split at next
      case isTrue skipped =>
        have same : tables.lookaheads (.ok token :: rest) = tables.lookaheads rest := by
          simp [lookaheads, skipped]
        rw [same]
        exact ih next
      case isFalse wanted =>
        simp only [Except.ok.injEq, Prod.mk.injEq] at next
        obtain ⟨rfl, rfl⟩ := next
        left
        simp [lookaheads, wanted]

/-- A lookahead with the feed behind it stands where `passed` of all lookaheads have been passed: it
is the next of them, or the end of input if there are no more. -/
inductive Stands (tables : TableBundle) (all : List Lookahead) (passed : Nat) :
    Lookahead → Feed → Prop
  | inside {lookahead : Lookahead} {feed : Feed} (here : all[passed]? = some lookahead)
      (counted : feed.taken = passed + 1)
      (ahead : tables.lookaheads feed.input = all.drop (passed + 1)) :
      Stands tables all passed lookahead feed
  | atEnd {feed : Feed} (ended : all.length = passed) (counted : feed.taken = passed) :
      Stands tables all passed (tables.endLookahead feed.offset feed.place) feed

/-- The next lookahead of a feed stands behind those taken before. -/
theorem stands_of_next {tables : TableBundle} {all : List Lookahead} {passed : Nat}
    {lookahead : Lookahead} {feed rest : Feed} (within : passed ≤ all.length)
    (counted : feed.taken = passed) (ahead : tables.lookaheads feed.input = all.drop passed)
    (taken : feed.next tables = .ok (lookahead, rest)) :
    tables.Stands all passed lookahead rest := by
  rcases lookaheads_of_nextFrom taken with ⟨first, count⟩ | ⟨none_left, -, count, rfl⟩
  · rw [ahead] at first
    have here : all[passed]? = some lookahead := by
      rw [← List.head?_drop, first, List.head?_cons]
    refine .inside here (by rw [count, counted]) ?_
    rw [← List.tail_drop, first, List.tail_cons]
  · rw [ahead, List.drop_eq_nil_iff] at none_left
    exact .atEnd (by omega) (by rw [count, counted])

/-- The first lookahead of an input stands behind nothing. -/
theorem stands_of_ofInput {tables : TableBundle} {input : List (Except Unmatched Token)}
    {lookahead : Lookahead} {feed : Feed}
    (taken : (Feed.ofInput input).next tables = .ok (lookahead, feed)) :
    tables.Stands (tables.lookaheads input) 0 lookahead feed :=
  stands_of_next (Nat.zero_le _) rfl rfl taken

/-- A lookahead that is not the end of input is one of the input. -/
theorem Stands.getElem?_eq {tables : TableBundle} {all : List Lookahead} {passed : Nat}
    {lookahead : Lookahead} {feed : Feed} (stands : tables.Stands all passed lookahead feed)
    (open_ended : tables.isEnd lookahead = false) : all[passed]? = some lookahead := by
  cases stands with
  | inside here => exact here
  | atEnd => simp [isEnd, endLookahead] at open_ended

/-- Behind a lookahead that is not the end of input there is still room. -/
theorem Stands.passed_lt {tables : TableBundle} {all : List Lookahead} {passed : Nat}
    {lookahead : Lookahead} {feed : Feed} (stands : tables.Stands all passed lookahead feed)
    (open_ended : tables.isEnd lookahead = false) : passed < all.length :=
  (List.getElem?_eq_some_iff.mp (stands.getElem?_eq open_ended)).1

/-- Behind a lookahead that is not the end of input stands the next one. -/
theorem Stands.next {tables : TableBundle} {all : List Lookahead} {passed : Nat}
    {old new : Lookahead} {feed rest : Feed} (stands : tables.Stands all passed old feed)
    (open_ended : tables.isEnd old = false) (taken : feed.next tables = .ok (new, rest)) :
    tables.Stands all (passed + 1) new rest := by
  have within := stands.passed_lt open_ended
  cases stands with
  | inside here counted ahead => exact stands_of_next within counted ahead taken
  | atEnd => simp [isEnd, endLookahead] at open_ended

/-- Dropping lookaheads passes as many as are dropped. -/
theorem Stands.drops {tables : TableBundle} {all : List Lookahead} {passed count : Nat}
    {first last : Lookahead} {feed rest : Feed} (stands : tables.Stands all passed first feed)
    (dropped : tables.Drops first feed count last rest) :
    tables.Stands all (passed + count) last rest := by
  induction dropped generalizing passed with
  | none => exact stands
  | @drop first next last feed behind rest count open_ended taken others ih =>
    have total : passed + (count + 1) = passed + 1 + count := by omega
    rw [total]
    exact ih (stands.next open_ended taken)

/-- No more lookaheads are passed than there are. -/
theorem Stands.passed_le {tables : TableBundle} {all : List Lookahead} {passed : Nat}
    {lookahead : Lookahead} {feed : Feed} (stands : tables.Stands all passed lookahead feed) :
    passed ≤ all.length := by
  cases stands with
  | inside here => exact Nat.le_of_lt (List.getElem?_eq_some_iff.mp here).1
  | atEnd ended => exact Nat.le_of_eq ended.symm

/-- In front of the end of input, all lookaheads before the first end have been passed. -/
theorem Stands.takeWhile_eq {tables : TableBundle} {all : List Lookahead} {passed : Nat}
    {lookahead : Lookahead} {feed : Feed} (stands : tables.Stands all passed lookahead feed)
    (at_end : tables.isEnd lookahead = true)
    (before : ∀ earlier ∈ all.take passed, tables.isEnd earlier = false) :
    (all.takeWhile fun each => !tables.isEnd each) = all.take passed := by
  have stops : ((all.drop passed).takeWhile fun each => !tables.isEnd each) = [] := by
    cases stands with
    | inside here =>
      have inside := (List.getElem?_eq_some_iff.mp here).1
      have same : all[passed] = lookahead := (List.getElem?_eq_some_iff.mp here).2
      rw [List.drop_eq_getElem_cons inside, same, List.takeWhile_cons_of_neg (by simp [at_end])]
    | atEnd ended => rw [List.drop_eq_nil_of_le (Nat.le_of_eq ended), List.takeWhile_nil]
  calc
    (all.takeWhile fun each => !tables.isEnd each)
      = (all.take passed ++ all.drop passed).takeWhile fun each => !tables.isEnd each := by
        rw [List.take_append_drop]
    _ = all.take passed ++ (all.drop passed).takeWhile fun each => !tables.isEnd each := by
        apply List.takeWhile_append_of_pos
        intro earlier mem
        simp [before earlier mem]
    _ = all.take passed := by rw [stops, List.append_nil]

/-- No state shifts the end of input, be it by its row or by default. -/
structure NeverShiftsEnd (tables : TableBundle) : Prop where
  row : ∀ state target, tables.action state tables.endSymbol ≠ some (.shift target)
  default : ∀ state target, tables.defaultAction state ≠ some (.shift target)

/-- Over such tables a lookahead that is shifted is not the end of input. -/
theorem NeverShiftsEnd.isEnd_eq_false {tables : TableBundle} (unshifted : tables.NeverShiftsEnd)
    {state target : Nat} {lookahead : Lookahead}
    (looked : tables.lookup state lookahead.symbol = some (.shift target)) :
    tables.isEnd lookahead = false := by
  rw [isEnd, beq_eq_false_iff_ne]
  intro at_end
  rw [at_end] at looked
  rcases lookup_eq_some looked with ⟨symbol, same, by_row⟩ | by_default
  · rw [← Option.some.inj same] at by_row
    exact unshifted.row state target by_row
  · exact unshifted.default state target by_default

end TableBundle

/-! ## The account of a parse -/

variable {C V L : Type}

/-- Recovery is paid for: apart from the one whose window is still untouched, every recovery goes
with a lookahead that was passed. -/
structure Configuration.Paid (c : Configuration C V L) : Prop where
  window : c.countdown ≤ recoveryWindow
  recoveries : c.recoveries ≤ c.shifts + c.discarded + if c.countdown = recoveryWindow then 1 else 0

/-- Recoveries that are paid for are at most one more than the tokens shifted and discarded. -/
theorem Configuration.Paid.recoveries_le {c : Configuration C V L} (paid : c.Paid) :
    c.recoveries ≤ c.shifts + c.discarded + 1 := by
  have bound := paid.recoveries
  split at bound <;> omega

namespace Engine

variable [StackValue V] {engine : Engine C V} {listen : L → SyntaxError → L}
  {c next : Configuration C V L} {log : L} {context : C} {input : List (Except Unmatched Token)}
  {trail : List (Configuration C V L)} {outcome : Outcome C V L} {limit : Nat}

/-- A move leaves recovery paid for. -/
theorem paid_of_moved (paid : c.Paid) (moved : Moved engine listen c next) : next.Paid := by
  obtain ⟨window, recoveries⟩ := paid
  have bound := Configuration.Paid.recoveries_le ⟨window, recoveries⟩
  unfold recoveryWindow at window recoveries
  cases moved with
  | shift looked taken =>
    refine ⟨?_, ?_⟩
    · simp only [recoveryWindow]
      omega
    · simp only [recoveryWindow]
      omega
  | reduce looked inner known deep acted target => exact ⟨window, recoveries⟩
  | recover looked reported unwound dropped given_up acceptable =>
    refine ⟨Nat.le_refl _, ?_⟩
    simp only [if_true]
    -- With a full window a lookahead is given up; otherwise a shift has paid for the last recovery.
    by_cases full : c.countdown = 3
    · have := given_up full
      omega
    · rw [if_neg full] at recoveries
      omega

/-- Recovery is paid for along every trail. -/
theorem paid_of_trail (before : Trail engine listen log context input trail c) : c.Paid := by
  induction before with
  | start started =>
    obtain ⟨lookahead, feed, -, rfl⟩ := started_eq started
    exact ⟨Nat.zero_le _, Nat.zero_le _⟩
  | move before stepped ih => exact paid_of_moved ih (moved_of_step stepped)

/-- Over tables that never shift the end of input, a move keeps the lookahead standing behind those
that were shifted or dropped. -/
theorem stands_of_moved (unshifted : engine.tables.NeverShiftsEnd) {all : List Lookahead}
    (stands : engine.tables.Stands all (c.shifts + c.discarded) c.lookahead c.feed)
    (moved : Moved engine listen c next) :
    engine.tables.Stands all (next.shifts + next.discarded) next.lookahead next.feed := by
  cases moved with
  | shift looked taken =>
    have total : c.shifts + 1 + c.discarded = c.shifts + c.discarded + 1 := by omega
    simp only [total]
    exact stands.next (unshifted.isEnd_eq_false looked) taken
  | reduce looked inner known deep acted target => exact stands
  | recover looked reported unwound dropped given_up acceptable =>
    simp only [← Nat.add_assoc]
    exact stands.drops dropped

/-- Over such tables, the lookahead stands behind those shifted or dropped along every trail. -/
theorem stands_of_trail (unshifted : engine.tables.NeverShiftsEnd)
    (before : Trail engine listen log context input trail c) :
    engine.tables.Stands (engine.tables.lookaheads input) (c.shifts + c.discarded) c.lookahead
      c.feed := by
  induction before with
  | start started =>
    obtain ⟨lookahead, feed, taken, rfl⟩ := started_eq started
    exact TableBundle.stands_of_ofInput taken
  | move before stepped ih => exact stands_of_moved unshifted ih (moved_of_step stepped)

omit [StackValue V] in
/-- Over such tables no lookahead that was shifted is the end of input. -/
theorem isEnd_of_mem_shifted (unshifted : engine.tables.NeverShiftsEnd) {lookahead : Lookahead}
    (mem : lookahead ∈ engine.shifted trail) : engine.tables.isEnd lookahead = false := by
  obtain ⟨c, -, same⟩ := List.mem_filterMap.mp mem
  unfold shifted? at same
  split at same
  case h_1 state looked => exact Option.some.inj same ▸ unshifted.isEnd_eq_false looked
  case h_2 => simp at same

/-- Over such tables, up to the first recovery nothing is dropped and the lookaheads shifted are the
first ones of the input. -/
theorem shifted_of_trail (unshifted : engine.tables.NeverShiftsEnd)
    (before : Trail engine listen log context input trail c) (none_yet : c.recoveries = 0) :
    c.discarded = 0 ∧ engine.shifted trail = (engine.tables.lookaheads input).take c.shifts := by
  induction before with
  | start started =>
    obtain ⟨lookahead, feed, -, rfl⟩ := started_eq started
    exact ⟨rfl, rfl⟩
  | @move trail c next before stepped ih =>
    have stands := stands_of_trail unshifted before
    cases moved_of_step stepped with
    | @shift state lookahead feed looked taken =>
      obtain ⟨none_dropped, same⟩ := ih none_yet
      refine ⟨none_dropped, ?_⟩
      have open_ended := unshifted.isEnd_eq_false looked
      have here : (engine.tables.lookaheads input)[c.shifts]? = some c.lookahead := by
        rw [none_dropped, Nat.add_zero] at stands
        exact stands.getElem?_eq open_ended
      rw [List.take_add_one, here, ← same]
      simp [shifted, shifted?, looked]
    | reduce looked inner known deep acted target =>
      obtain ⟨none_dropped, same⟩ := ih none_yet
      refine ⟨none_dropped, ?_⟩
      rw [← same]
      simp [shifted, shifted?, looked]
    | recover => exact absurd none_yet (Nat.succ_ne_zero _)

/-- Along every trail there are at most as many shifts as lookaheads and one recovery more. -/
theorem bounds_of_trail (unshifted : engine.tables.NeverShiftsEnd)
    (before : Trail engine listen log context input trail c) :
    c.shifts ≤ (engine.tables.lookaheads input).length ∧
      c.recoveries ≤ (engine.tables.lookaheads input).length + 1 := by
  have within := (stands_of_trail unshifted before).passed_le
  have paid := (paid_of_trail before).recoveries_le
  constructor <;> omega

/-- The same holds where a parse ends. -/
theorem bounds_of_parseTokens (unshifted : engine.tables.NeverShiftsEnd)
    (ended : engine.parseTokens limit listen log context input = some outcome) :
    outcome.stats.shifts ≤ (engine.tables.lookaheads input).length ∧
      outcome.stats.recoveries ≤ (engine.tables.lookaheads input).length + 1 := by
  rcases trail_of_parseTokens ended with never_started | ⟨trail, last, before, halted⟩
  · obtain ⟨no_shifts, no_recoveries, -⟩ := counts_of_start never_started
    rw [no_shifts, no_recoveries]
    exact ⟨Nat.zero_le _, Nat.zero_le _⟩
  · obtain ⟨shifts, recoveries⟩ := bounds_of_trail unshifted before
    obtain ⟨same, none_more | ⟨one_more, state, looked⟩⟩ := counts_of_halt halted
    · rw [same, none_more]
      exact ⟨shifts, recoveries⟩
    · have room := (stands_of_trail unshifted before).passed_lt (unshifted.isEnd_eq_false looked)
      rw [same, one_more]
      exact ⟨by omega, recoveries⟩

end Engine

/-! ## Termination -/

/-- A reduction on the states of a stack, topmost first, in front of a lookahead with the given
symbol: the goal aside, the states of a right-hand side make way for one. -/
inductive TableBundle.Reduces (tables : TableBundle) (symbol : Option Nat) :
    List Nat → List Nat → Prop
  | reduce {states : List Nat} {production target : Nat} {rule : Production}
      (looked : tables.lookup (states.headD 0) symbol = some (.reduce production))
      (inner : production ≠ 0) (known : tables.production production = some rule)
      (deep : rule.length < states.length)
      (landed : tables.goto ((states.drop rule.length).headD 0) rule.lhs = some target) :
      Reduces tables symbol states (target :: states.drop rule.length)

/-- No stack admits reductions without end in front of one lookahead. -/
def TableBundle.ReductionsEnd (tables : TableBundle) : Prop :=
  ∀ symbol, ¬∃ states : Nat → List Nat, ∀ n, tables.Reduces symbol (states n) (states (n + 1))

/-- A reduction by a right-hand side of two symbols or more makes the stack shorter. -/
theorem TableBundle.Reduces.length_lt {tables : TableBundle} {symbol : Option Nat}
    {before after : List Nat} (reduced : tables.Reduces symbol before after)
    (long : ∀ production rule, production ≠ 0 → tables.production production = some rule →
      2 ≤ rule.length) : after.length < before.length := by
  cases reduced with
  | reduce looked inner known deep landed =>
    have two := long _ _ inner known
    simp only [List.length_cons, List.length_drop]
    omega

/-- Reductions end if every production but the goal has at least two symbols on its right-hand side,
since the stack gets shorter each time. -/
theorem TableBundle.reductionsEnd_of_two_le {tables : TableBundle}
    (long : ∀ production rule, production ≠ 0 → tables.production production = some rule →
      2 ≤ rule.length) : tables.ReductionsEnd := by
  rintro symbol ⟨states, endless⟩
  have shorter : ∀ n, (states n).length + n ≤ (states 0).length := by
    intro n
    induction n with
    | zero => exact Nat.le_refl _
    | succ n ih =>
      have less := (endless n).length_lt long
      omega
  have := shorter ((states 0).length + 1)
  omega

/-- The state on top of a stack is the first of its states. -/
theorem Configuration.top_eq (c : Configuration C V L) :
    c.top = (c.stack.map Frame.state).headD 0 := by
  unfold top
  split <;> simp_all

namespace Engine

variable [StackValue V] {engine : Engine C V} {listen : L → SyntaxError → L}
  {c next : Configuration C V L} {log : L} {context : C} {input : List (Except Unmatched Token)}
  {trail : List (Configuration C V L)}

/-- A move that neither shifts nor recovers is a reduction in front of the same lookahead. -/
theorem reduces_of_moved (moved : Moved engine listen c next) :
    c.shifts + c.recoveries < next.shifts + next.recoveries ∨
      (next.shifts + next.recoveries = c.shifts + c.recoveries ∧ next.lookahead = c.lookahead ∧
        engine.tables.Reduces c.lookahead.symbol (c.stack.map Frame.state)
          (next.stack.map Frame.state)) := by
  cases moved with
  | shift looked taken =>
    left
    simp only
    omega
  | @reduce production state rule _ _ looked inner known deep acted target =>
    right
    refine ⟨rfl, rfl, ?_⟩
    rw [Configuration.top_eq] at looked target
    simp only [List.map_cons, List.map_drop] at target ⊢
    exact .reduce looked inner known (by simpa using deep) target
  | recover looked reported unwound dropped given_up acceptable =>
    left
    simp only
    omega

/-- Where reductions end, a parse ends. -/
theorem exists_run (unshifted : engine.tables.NeverShiftsEnd)
    (reductions_end : engine.tables.ReductionsEnd)
    (before : Trail engine listen log context input trail c) :
    ∃ limit outcome, engine.run listen limit c = some outcome := by
  have well_founded : ∀ symbol, WellFounded fun after before =>
      engine.tables.Reduces symbol before after := by
    intro symbol
    rw [wellFounded_iff_isEmpty_descending_chain]
    exact ⟨fun ⟨states, endless⟩ => reductions_end symbol ⟨states, endless⟩⟩
  -- Outside, shifts and recoveries are counted up to their bounds; inside, reductions end.
  generalize left : 2 * (engine.tables.lookaheads input).length + 1 - (c.shifts + c.recoveries) =
    budget
  induction budget using Nat.strong_induction_on generalizing trail c with
  | _ budget outer =>
    generalize seen : c.lookahead.symbol = symbol
    generalize shape : c.stack.map Frame.state = states
    induction states using (well_founded symbol).induction generalizing trail c with
    | _ states inner =>
      cases stepped : engine.step listen c with
      | halt outcome => exact ⟨1, outcome, by rw [run, stepped]⟩
      | next next =>
        have after := before.move stepped
        have continued : ∃ limit outcome, engine.run listen limit next = some outcome := by
          rcases reduces_of_moved (moved_of_step stepped) with counted | ⟨same, kept, reduced⟩
          · obtain ⟨shifts, recoveries⟩ := bounds_of_trail unshifted after
            exact outer _ (by omega) after rfl
          · rw [seen, shape] at reduced
            exact inner _ reduced after (same ▸ left) (kept ▸ seen) rfl
        obtain ⟨limit, outcome, ended⟩ := continued
        refine ⟨limit + 1, outcome, ?_⟩
        rw [run, stepped]
        exact ended

/-- Recovery makes progress, over tables that never shift the end of input. Wherever a parse comes
to, the tokens taken are those shifted, those dropped and, unless it is the end of input, the
lookahead; and there are at most one more recoveries than lookaheads passed. So no parse, finished
or not, has more shifts than the input has lookaheads, or more than one recovery beyond that; and if
no stack admits reductions without end in front of one lookahead, every parse ends. -/
theorem recovery_progresses (engine : Engine C V) (unshifted : engine.tables.NeverShiftsEnd)
    (listen : L → SyntaxError → L) (log : L) (context : C) (input : List (Except Unmatched Token)) :
    (∀ trail c, Trail engine listen log context input trail c →
      (((engine.tables.lookaheads input)[c.shifts + c.discarded]? = some c.lookahead ∧
          c.feed.taken = c.shifts + c.discarded + 1) ∨
        ((engine.tables.lookaheads input).length = c.shifts + c.discarded ∧
          c.lookahead = engine.tables.endLookahead c.feed.offset c.feed.place ∧
          c.feed.taken = c.shifts + c.discarded)) ∧
      c.recoveries ≤ c.shifts + c.discarded + 1 ∧
      c.shifts ≤ (engine.tables.lookaheads input).length ∧
      c.recoveries ≤ (engine.tables.lookaheads input).length + 1) ∧
    (∀ limit outcome, engine.parseTokens limit listen log context input = some outcome →
      outcome.stats.shifts ≤ (engine.tables.lookaheads input).length ∧
      outcome.stats.recoveries ≤ (engine.tables.lookaheads input).length + 1) ∧
    (engine.tables.ReductionsEnd →
      ∃ limit outcome, engine.parseTokens limit listen log context input = some outcome) := by
  refine ⟨?_, fun limit outcome => bounds_of_parseTokens unshifted, ?_⟩
  · intro trail c before
    refine ⟨?_, (paid_of_trail before).recoveries_le, bounds_of_trail unshifted before⟩
    have stands := stands_of_trail unshifted before
    generalize c.lookahead = lookahead at stands
    cases stands with
    | inside here counted => exact .inl ⟨here, counted⟩
    | atEnd ended counted => exact .inr ⟨ended, rfl, counted⟩
  · intro reductions_end
    cases started : engine.start context log input with
    | halt outcome => exact ⟨0, outcome, by rw [parseTokens, started]⟩
    | next c =>
      have before : Trail engine listen log context input [] c := .start started
      obtain ⟨limit, outcome, ended⟩ := exists_run unshifted reductions_end before
      refine ⟨limit, outcome, ?_⟩
      rw [parseTokens, started]
      exact ended

/-- The tables of statements never shift the end of input. -/
theorem neverShiftsEnd_statementTables : statementTables.NeverShiftsEnd := by
  have entries : ∀ entry ∈ statementTables.entries, entry.2.1 = 1 →
      ∃ production, entry.2.2 = .reduce production := by
    simp [TableBundle.entries, statementTables]
  refine ⟨?_, ?_⟩ <;> intro state target shifts
  · obtain ⟨production, reduces⟩ := entries _ (TableBundle.mem_entries shifts) rfl
    contradiction
  · have there := TableBundle.mem_defaults shifts
    simp [statementTables] at there

/-- The tables of statements never shift the end of input, and their reductions end; so a parse ends
that has to recover at its second token. -/
theorem recovery_progresses_statements :
    statementTables.NeverShiftsEnd ∧ statementTables.ReductionsEnd ∧
    ∃ limit outcome, (treeEngine ⟨[]⟩ statementTables .standard).parseTokens limit
        (fun log _ => log + 1) 0 [] (sampleInput ["x", "gap", "x", ";"]) = some outcome ∧
      outcome.stats.shifts ≤ 3 ∧ outcome.stats.recoveries ≤ 4 := by
  have unshifted := neverShiftsEnd_statementTables
  have reductions_end : statementTables.ReductionsEnd := by
    apply TableBundle.reductionsEnd_of_two_le
    intro production rule inner known
    have inside : production < 4 := (List.getElem?_eq_some_iff.mp known).1
    interval_cases production
    · contradiction
    all_goals
      have same := Option.some.inj known
      simp [← same]
  obtain ⟨-, bounds, ends⟩ := recovery_progresses (treeEngine ⟨[]⟩ statementTables .standard)
    unshifted (fun log _ => log + 1) 0 [] (sampleInput ["x", "gap", "x", ";"])
  obtain ⟨limit, outcome, ended⟩ := ends reductions_end
  exact ⟨unshifted, reductions_end, limit, outcome, ended, bounds limit outcome ended⟩

end Engine

end ShaderSyntax
