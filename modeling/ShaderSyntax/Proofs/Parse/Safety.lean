import ShaderSyntax.Proofs.Parse.Checked
import ShaderSyntax.Proofs.Tables.Bounds

/-!
# Consistent tables are safe to run

A parse over tables that pass their check never leaves them: each state on its stack is one of
theirs, and so is whatever an action leads to. Two misfits remain that such tables can end a parse
with, a goto that is missing and a stack that is too low for a production; a production that is not
there cannot end it, and neither can a recovery with nothing reported (`Engine.safe_of_validate`).
That no access of a parse is out of range needs no check of the tables at all.
-/

set_option autoImplicit false

namespace ShaderSyntax

variable {C V L : Type}

/-- All states on the stack are states of the tables. -/
def Configuration.Inside (tables : TableBundle) (c : Configuration C V L) : Prop :=
  ∀ frame ∈ c.stack, frame.state < tables.stateCount

/-- A frame with a known state on frames with known states is inside the tables. -/
theorem Configuration.inside_cons {tables : TableBundle} {c : Configuration C V L} {frame : Frame V}
    {kept : List (Frame V)} (stack : c.stack = frame :: kept)
    (enters : frame.state < tables.stateCount)
    (below : ∀ lower ∈ kept, lower.state < tables.stateCount) : c.Inside tables := by
  rw [Inside, stack]
  intro member mem
  rcases List.mem_cons.mp mem with same | lower
  · rw [same]
    exact enters
  · exact below member lower

/-- A refusal is one. -/
theorem ParseError.isRefusal_refusal (errors : List SyntaxError) :
    (refusal errors).isRefusal = true := by
  cases errors <;> rfl

namespace Engine

section Failures

variable {engine : Engine C V} {c : Configuration C V L} {outcome : Outcome C V L}

/-- A parse gives up, or finds its tokens end in a fault. -/
def Forsakes (outcome : Outcome C V L) : Prop :=
  ∃ error, outcome.verdict = .error error ∧
    (error.isRefusal = true ∨ ∃ fault, error = .unmatched fault)

/-- Giving up forsakes the parse. -/
theorem forsakes_of_giveUp (given_up : c.giveUp = .halt outcome) : Forsakes outcome := by
  obtain ⟨-, failed⟩ := Configuration.counts_of_halt given_up
  exact ⟨.refusal c.errors, failed, .inl (ParseError.isRefusal_refusal c.errors)⟩

/-- Halting on a fault of the lexer forsakes the parse. -/
theorem forsakes_of_unmatched {fault : Unmatched}
    (halted : c.halt (.error (.unmatched fault)) = .halt outcome) : Forsakes outcome := by
  obtain ⟨-, failed⟩ := Configuration.counts_of_halt halted
  exact ⟨.unmatched fault, failed, .inr ⟨fault, rfl⟩⟩

/-- A parse that ends in going to the next lookahead is forsaken. -/
theorem forsakes_of_advance (advanced : engine.advance c = .halt outcome) : Forsakes outcome := by
  unfold advance at advanced
  split at advanced
  · exact forsakes_of_unmatched advanced
  · simp at advanced

variable [StackValue V]

/-- A parse that ends in resuming is forsaken. -/
theorem forsakes_of_resume (resumed : engine.resume c = .halt outcome) : Forsakes outcome := by
  unfold resume at resumed
  split at resumed
  · exact forsakes_of_giveUp resumed
  · simp only at resumed
    split at resumed
    · exact forsakes_of_giveUp resumed
    · exact forsakes_of_unmatched resumed
    · simp at resumed

/-- A parse that ends in a recovery is forsaken. -/
theorem forsakes_of_recover {listen : L → SyntaxError → L}
    (recovered : engine.recover listen c = .halt outcome) : Forsakes outcome := by
  unfold recover at recovered
  split at recovered
  · simp only at recovered
    split at recovered
    · exact forsakes_of_resume recovered
    · exact forsakes_of_giveUp recovered
  · split at recovered
    · split at recovered
      · exact forsakes_of_giveUp recovered
      · split at recovered
        case h_1 early advanced =>
          rw [Move.halt.injEq] at recovered
          rw [← recovered]
          exact forsakes_of_advance advanced
        case h_2 => exact forsakes_of_resume recovered
    · exact forsakes_of_resume recovered

/-- The misfits of a reduction: its production is not there, it is longer than the stack is high, or
its goto is missing. -/
theorem misfit_of_reduce {production : Nat} {fault : TableMisfit}
    (reduced : engine.reduce c production = .halt outcome)
    (failed : outcome.verdict = .error (.misfit fault)) :
    (engine.tables.production production = none ∧ fault = .noProduction production) ∨
    (∃ rule, engine.tables.production production = some rule ∧ fault = .shortStack production) ∨
    ∃ state symbol, engine.tables.goto state symbol = none ∧
      fault = .noGoto state (engine.tables.label symbol) := by
  have same : ∀ {last : Configuration C V L} {verdict : Except ParseError V},
      last.halt verdict = .halt outcome → verdict = .error (.misfit fault) := by
    intro last verdict halted
    rw [← (Configuration.counts_of_halt halted).2, failed]
  unfold reduce at reduced
  split at reduced
  case h_1 unknown =>
    have fits := same reduced
    rw [Except.error.injEq, ParseError.misfit.injEq] at fits
    exact .inl ⟨unknown, fits.symm⟩
  case h_2 rule known =>
    split at reduced
    · have fits := same reduced
      rw [Except.error.injEq, ParseError.misfit.injEq] at fits
      exact .inr (.inl ⟨rule, known, fits.symm⟩)
    · simp only at reduced
      split at reduced
      · have fits := same reduced
        simp at fits
      · split at reduced
        · have fits := same reduced
          simp at fits
        · split at reduced
          case h_1 missing =>
            have fits := same reduced
            rw [Except.error.injEq, ParseError.misfit.injEq] at fits
            exact .inr (.inr ⟨_, rule.lhs, missing, fits.symm⟩)
          case h_2 => simp at reduced

end Failures

variable [StackValue V] {engine : Engine C V} {listen : L → SyntaxError → L} {log : L} {context : C}
  {input : List (Except Unmatched Token)} {c next : Configuration C V L}

/-- A move stays inside the tables. -/
theorem inside_of_moved (valid : engine.tables.validate = .ok ()) (inside : c.Inside engine.tables)
    (moved : Moved engine listen c next) : next.Inside engine.tables := by
  cases moved with
  | @shift state _ _ looked taken =>
    have enters : state < engine.tables.stateCount := TableBundle.leads_of_lookup valid looked
    exact Configuration.inside_cons rfl enters inside
  | reduce looked inner known deep acted target =>
    have enters := TableBundle.goto_lt valid target
    apply Configuration.inside_cons rfl enters
    intro lower mem
    exact inside lower (List.mem_of_mem_drop mem)
  | @recover _ _ state _ _ _ _ looked reported unwound =>
    obtain ⟨frame, rest, rfl, suffix, shifts⟩ := TableBundle.unwind_eq_some unwound
    have enters : state < engine.tables.stateCount := TableBundle.leads_of_action valid shifts
    apply Configuration.inside_cons rfl enters
    intro lower mem
    exact inside lower (suffix.subset mem)

/-- A parse over consistent tables stays inside them. -/
theorem inside_of_trail (valid : engine.tables.validate = .ok ())
    {trail : List (Configuration C V L)}
    (before : Trail engine listen log context input trail c) : c.Inside engine.tables := by
  induction before with
  | start started =>
    obtain ⟨lookahead, feed, -, rfl⟩ := started_eq started
    have some_state := TableBundle.stateCount_pos valid
    exact Configuration.inside_cons rfl some_state (List.forall_mem_nil _)
  | move before stepped ih => exact inside_of_moved valid ih (moved_of_step stepped)

/-- The misfits that can end a parse over consistent tables. -/
theorem misfit_of_finishes (valid : engine.tables.validate = .ok ())
    {trail : List (Configuration C V L)} {outcome : Outcome C V L} {fault : TableMisfit}
    (finished : Finishes engine listen log context input trail outcome)
    (failed : outcome.verdict = .error (.misfit fault)) :
    (∃ state symbol, engine.tables.goto state symbol = none ∧
      fault = .noGoto state (engine.tables.label symbol)) ∨
    ∃ production rule, engine.tables.production production = some rule ∧
      fault = .shortStack production := by
  have reported := (blames_of_finishes finished).2.2
  -- A parse that gives up has reported an error, so it does not end in a misfit.
  have not_forsaken : ¬ Forsakes outcome := by
    rintro ⟨error, same, refused | ⟨fault, unmatched⟩⟩
    · rw [failed, Except.error.injEq] at same
      subst same
      cases fault with
      | unreported => exact reported failed
      | noGoto state label => simp [ParseError.isRefusal] at refused
      | noProduction production => simp [ParseError.isRefusal] at refused
      | shortStack production => simp [ParseError.isRefusal] at refused
    · rw [failed, unmatched] at same
      simp at same
  cases finished with
  | atOnce halted =>
    obtain ⟨fault, rfl⟩ := unstarted_eq halted
    simp at failed
  | @behind trail last _ before halted =>
    unfold step at halted
    split at halted
    case h_1 state looked => exact absurd (forsakes_of_advance halted) not_forsaken
    case h_2 production looked =>
      have leads : production < engine.tables.productions.length :=
        TableBundle.leads_of_lookup valid looked
      rcases misfit_of_reduce halted failed with ⟨unknown, -⟩ | ⟨rule, known, short⟩ | no_goto
      · have beyond := List.getElem?_eq_none_iff.mp unknown
        omega
      · exact .inr ⟨production, rule, known, short⟩
      · exact .inl no_goto
    case h_3 looked => exact absurd (forsakes_of_recover halted) not_forsaken

/-- A parse over consistent tables is safe: each state on its stack is one of theirs, each action
that it looks up leads to one of their states or productions, and the tables can end it only for
want of a goto or of a higher stack. Whatever the tables are, no access of a parse is out of
range. -/
theorem safe_of_validate (engine : Engine C V) (listen : L → SyntaxError → L) (log : L)
    (context : C) (input : List (Except Unmatched Token)) :
    (engine.tables.validate = .ok () →
      (∀ trail c, Trail engine listen log context input trail c →
        ∀ state ∈ Frame.states c.stack, state < engine.tables.stateCount) ∧
      (∀ state symbol action, engine.tables.lookup state symbol = some action →
        engine.tables.Leads action) ∧
      (∀ state symbol action, engine.tables.action state symbol = some action →
        engine.tables.Leads action) ∧
      ∀ limit outcome fault,
        engine.parseTokens limit listen log context input = some outcome →
        outcome.verdict = .error (.misfit fault) →
        (∃ state symbol, engine.tables.goto state symbol = none ∧
          fault = .noGoto state (engine.tables.label symbol)) ∨
        ∃ production rule, engine.tables.production production = some rule ∧
          fault = .shortStack production) ∧
    ∀ limit, engine.checkedParse limit listen log context input =
      .ok (engine.parseTokens limit listen log context input) := by
  refine ⟨fun valid => ⟨?_, ?_, ?_, ?_⟩, ?_⟩
  · intro trail c before state mem
    obtain ⟨frame, on_stack, rfl⟩ := List.mem_map.mp mem
    exact inside_of_trail valid before frame (List.mem_reverse.mp on_stack)
  · intro state symbol action looked
    exact TableBundle.leads_of_lookup valid looked
  · intro state symbol action acts
    exact TableBundle.leads_of_action valid acts
  · intro limit outcome fault ended failed
    obtain ⟨trail, finished⟩ := exists_finishes ended
    exact misfit_of_finishes valid finished failed
  · intro limit
    exact checkedParse_eq engine limit listen log context input

/-- Tables of statements that pass their check without any goto, and with a production for which no
stack is high enough. -/
def strandedTables : TableBundle :=
  { statementTables with
    productions := [⟨0, 1⟩, ⟨5, 2⟩, ⟨5, 3⟩, ⟨5, 9⟩]
    gotos := List.replicate 8 []
    records := [] }

/-- Inputs that strand a parse over these tables, each with the misfit that ends it. -/
def strandedInputs : List (List String × TableMisfit) :=
  [(["x", ";"], .noGoto 0 "statements"), ([";"], .shortStack 3)]

/-- Over these tables one parse ends for want of a goto, and another one, behind a recovery, for
want of a higher stack. -/
theorem safe_of_validate_stranded :
    strandedTables.validate = .ok () ∧
    (∃ trail, ∃ c : Configuration (List Nat) ParseTree Unit,
      Trail (treeEngine ⟨[]⟩ strandedTables .standard) (fun log _ => log) () []
        (sampleInput ["x", ";"]) trail c ∧
      Frame.states c.stack = [0, 2, 5] ∧
      ∀ state ∈ Frame.states c.stack, state < strandedTables.stateCount) ∧
    ∀ sample ∈ strandedInputs,
      ∃ outcome, (treeEngine ⟨[]⟩ strandedTables .standard).parseTokens 9 (fun log _ => log) () []
        (sampleInput sample.1) = some outcome ∧
      outcome.verdict = .error (.misfit sample.2) ∧
      ((∃ state symbol, strandedTables.goto state symbol = none ∧
          sample.2 = .noGoto state (strandedTables.label symbol)) ∨
        ∃ production rule, strandedTables.production production = some rule ∧
          sample.2 = .shortStack production) ∧
      (treeEngine ⟨[]⟩ strandedTables .standard).checkedParse 9 (fun log _ => log) () []
        (sampleInput sample.1) = .ok (some outcome) := by
  have valid : strandedTables.validate = .ok () := by
    rw [TableBundle.validate_eq_ok_iff]
    decide +kernel
  refine ⟨valid, ?_, ?_⟩
  · obtain ⟨inside, -⟩ := (safe_of_validate (treeEngine ⟨[]⟩ strandedTables .standard)
      (fun log _ => log) () [] (sampleInput ["x", ";"])).1 valid
    have facts : ((treeEngine ⟨[]⟩ strandedTables .standard).trail? (fun log _ => log) () []
        (sampleInput ["x", ";"]) 2).map (fun found => Frame.states found.2.stack) =
          some [0, 2, 5] := by
      decide +kernel
    obtain ⟨⟨trail, c⟩, found, states⟩ := Option.map_eq_some_iff.mp facts
    have before := trail_iff.mpr ⟨2, found⟩
    exact ⟨trail, c, before, states, inside trail c before⟩
  · have facts : ∀ sample ∈ strandedInputs,
        ((treeEngine ⟨[]⟩ strandedTables .standard).parseTokens 9 (fun log _ => log) () []
          (sampleInput sample.1)).bind Outcome.failure? = some (.misfit sample.2) := by
      decide +kernel
    intro sample mem
    obtain ⟨safe, in_range⟩ := safe_of_validate (treeEngine ⟨[]⟩ strandedTables .standard)
      (fun log _ => log) () [] (sampleInput sample.1)
    obtain ⟨-, -, -, misfits⟩ := safe valid
    obtain ⟨outcome, ended, same⟩ := Option.bind_eq_some_iff.mp (facts sample mem)
    have failed := Outcome.failure?_eq_some.mp same
    exact ⟨outcome, ended, failed, misfits 9 outcome sample.2 ended failed, ended ▸ in_range 9⟩

end Engine

end ShaderSyntax
