import ShaderSyntax.Proofs.Parse.Reports

/-!
# The engine on two stacks

A parser may keep its states and its values on two stacks of their own, bottom first, and cut them
at a place that it computes from their height. Each such access can be out of range: a production
that is not there, a difference below zero, a cut above the top of a stack, a pop off an empty one.
This module runs the engine that way with every access checked (`Engine.checkedStep`), and asserts
behind every move that the two stacks are of one height. Whatever the tables are, no check ever
fails, and the parse is that of the engine (`Engine.checkedParse_eq`).

The two stacks are those of a configuration, seen from below (`Configuration.machine`).
-/

set_option autoImplicit false

namespace ShaderSyntax

/-! ## Checked accesses -/

/-- An access that is out of range. -/
inductive Overrun where
  /-- There is no element at the place. -/
  | element (place length : Nat)
  /-- More is taken away than there is. -/
  | difference (whole part : Nat)
  /-- A stack is cut above its top. -/
  | cut (place length : Nat)
  /-- A stack is popped that is empty. -/
  | pop
  /-- The stack of states and the stack of values are of different height. -/
  | uneven (states values : Nat)
  deriving DecidableEq, Repr

namespace Checked

variable {α : Type}

/-- The element at a place. -/
def element (list : List α) (place : Nat) : Except Overrun α :=
  match list[place]? with
  | some found => .ok found
  | none => .error (.element place list.length)

/-- What is left of a number. -/
def difference (whole part : Nat) : Except Overrun Nat :=
  if part ≤ whole then .ok (whole - part) else .error (.difference whole part)

/-- What lies below a place of a stack, and what lies above it. -/
def splitOff (stack : List α) (place : Nat) : Except Overrun (List α × List α) :=
  if place ≤ stack.length then .ok (stack.take place, stack.drop place)
  else .error (.cut place stack.length)

/-- A stack without its topmost element. -/
def pop (stack : List α) : Except Overrun (List α) :=
  if stack.isEmpty then .error .pop else .ok stack.dropLast

/-- A place that a list has is looked up with success. -/
theorem element_eq_ok {list : List α} {place : Nat} {found : α}
    (there : list[place]? = some found) : element list place = .ok found := by
  simp only [element, there]

/-- A part that is not greater than the whole is taken off with success. -/
theorem difference_eq_ok {whole part : Nat} (fits : part ≤ whole) :
    difference whole part = .ok (whole - part) := if_pos fits

/-- A stack is split with success at any place up to its height. -/
theorem splitOff_eq_ok {stack : List α} {place : Nat} (fits : place ≤ stack.length) :
    splitOff stack place = .ok (stack.take place, stack.drop place) := if_pos fits

/-- Popping takes off what was put on top. -/
@[simp] theorem pop_append_singleton (stack : List α) (top : α) :
    pop (stack ++ [top]) = .ok stack := by
  simp [pop]

/-- A stack that was popped is lower. -/
theorem length_lt_of_pop {stack rest : List α} (popped : pop stack = .ok rest) :
    rest.length < stack.length := by
  unfold pop at popped
  split at popped
  · simp at popped
  case isFalse filled =>
    rw [← Except.ok.inj popped, List.length_dropLast]
    have : 0 < stack.length := List.length_pos_iff.mpr (by simpa using filled)
    omega

end Checked

/-! ## The engine with checked accesses -/

/-- A parse with its states and its values on stacks of their own. -/
structure Machine (C V L : Type) where
  context : C
  log : L
  /-- The states from the bottom to the top. -/
  states : List Nat
  /-- The values from the bottom to the top. -/
  values : List V
  lookahead : Lookahead
  feed : Feed
  countdown : Nat
  errors : List SyntaxError
  shifts : Nat
  reductions : Nat
  recoveries : Nat
  discarded : Nat

/-- A move of such a parse. -/
inductive Machine.Move (C V L : Type) where
  | next (machine : Machine C V L)
  | halt (outcome : Outcome C V L)

variable {C V L : Type}

namespace Machine

/-- The state on top. -/
def top (m : Machine C V L) : Nat :=
  m.states.getLast?.getD 0

/-- Puts a state and a value on top. -/
def push (m : Machine C V L) (state : Nat) (value : V) : Machine C V L :=
  { m with states := m.states ++ [state], values := m.values ++ [value] }

/-- Ends the parse here. -/
def halt (m : Machine C V L) (verdict : Except ParseError V) : Machine.Move C V L :=
  .halt ⟨verdict, m.context, m.log, m.errors,
    ⟨m.feed.taken, m.shifts, m.reductions, m.recoveries, m.discarded⟩⟩

/-- Ends the parse here with the first reported error. -/
def giveUp (m : Machine C V L) : Machine.Move C V L :=
  m.halt (.error (.refusal m.errors))

/-- Asserts that the two stacks are of one height. -/
def Move.assertEven : Machine.Move C V L → Except Overrun (Machine.Move C V L)
  | .halt outcome => .ok (.halt outcome)
  | .next m =>
    if m.states.length = m.values.length then .ok (.next m)
    else .error (.uneven m.states.length m.values.length)

end Machine

/-- Pops both stacks until the topmost state shifts the error symbol, but never the bottom; gives
the state entered by that shift and what is left of the stacks. -/
def TableBundle.checkedUnwind (tables : TableBundle) (states : List Nat) (values : List V) :
    Except Overrun (Option (Nat × List Nat × List V)) :=
  match tables.action (states.getLast?.getD 0) tables.errorSymbol with
  | some (.shift state) => .ok (some (state, states, values))
  | _ =>
    if states.length = 1 then .ok none
    else
      match popped : Checked.pop states with
      | .error overrun => .error overrun
      | .ok lower =>
        have := Checked.length_lt_of_pop popped
        (Checked.pop values).bind fun rest => tables.checkedUnwind lower rest
termination_by states.length

namespace Engine

variable [StackValue V]

/-- Takes the next lookahead. -/
def checkedAdvance (engine : Engine C V) (m : Machine C V L) : Machine.Move C V L :=
  match m.feed.next engine.tables with
  | .error fault => m.halt (.error (.unmatched fault))
  | .ok (lookahead, feed) => .next { m with lookahead, feed }

/-- Shifts the lookahead and enters a state. -/
def checkedShift (engine : Engine C V) (m : Machine C V L) (state : Nat) : Machine.Move C V L :=
  engine.checkedAdvance
    { m.push state (StackValue.ofToken m.lookahead.token) with
      shifts := m.shifts + 1
      countdown := m.countdown - 1 }

/-- Goes on with the value of a production: the goal ends the parse, any other goes on top of the
stacks. -/
def checkedLand (engine : Engine C V) (m : Machine C V L) (production : Nat) (value : V) :
    Except Overrun (Machine.Move C V L) :=
  if production = 0 then .ok (m.halt (.ok value))
  else do
    let rule ← Checked.element engine.tables.productions production
    match engine.tables.goto m.top rule.lhs with
    | none => .ok (m.halt (.error (.misfit (.noGoto m.top (engine.tables.label rule.lhs)))))
    | some state => .ok (.next (m.push state value))

/-- Reduces by a production: cuts both stacks as many places below the top of the values as the
production is long. -/
def checkedReduce (engine : Engine C V) (m : Machine C V L) (production : Nat) :
    Except Overrun (Machine.Move C V L) :=
  match engine.tables.production production with
  | none => .ok (m.halt (.error (.misfit (.noProduction production))))
  | some p =>
    if m.states.length ≤ p.length then .ok (m.halt (.error (.misfit (.shortStack production))))
    else do
      let place ← Checked.difference m.values.length p.length
      let (values, popped) ← Checked.splitOff m.values place
      let m := { m with states := m.states.take place, values }
      match engine.reduceValue production m.context popped with
      | (.error text, context) =>
        .ok ({ m with context }.halt
          (.error (.action production m.lookahead.token.span.start.line text)))
      | (.ok value, context) =>
        engine.checkedLand { m with context, reductions := m.reductions + 1 } production value

/-- Drops lookaheads until one is acceptable in the state on top. -/
def checkedResync (engine : Engine C V) (m : Machine C V L) : Machine.Move C V L :=
  match engine.tables.resync m.top m.lookahead m.feed 0 with
  | .exhausted feed dropped => { m with feed, discarded := m.discarded + dropped }.giveUp
  | .faulty fault feed dropped =>
    { m with feed, discarded := m.discarded + dropped }.halt (.error (.unmatched fault))
  | .found lookahead feed dropped =>
    .next { m with
      lookahead, feed
      discarded := m.discarded + dropped
      countdown := recoveryWindow
      recoveries := m.recoveries + 1 }

/-- Shifts the error symbol where that is possible, and drops lookaheads until one is acceptable. -/
def checkedResume (engine : Engine C V) (m : Machine C V L) :
    Except Overrun (Machine.Move C V L) := do
  match ← engine.tables.checkedUnwind m.states m.values with
  | none => .ok m.giveUp
  | some (state, states, values) =>
    .ok (engine.checkedResync ({ m with states, values }.push state StackValue.empty))

/-- Recovers from a rejected lookahead. -/
def checkedRecover (engine : Engine C V) (listen : L → SyntaxError → L) (m : Machine C V L) :
    Except Overrun (Machine.Move C V L) :=
  if m.countdown = 0 then
    let error := engine.tables.syntaxError m.top m.lookahead
    let m := { m with log := listen m.log error, errors := m.errors ++ [error] }
    if engine.options.recover then engine.checkedResume m else .ok m.giveUp
  else if m.countdown = recoveryWindow then
    if engine.tables.isEnd m.lookahead then .ok m.giveUp
    else
      match engine.checkedAdvance m with
      | .halt outcome => .ok (.halt outcome)
      | .next m => engine.checkedResume { m with discarded := m.discarded + 1 }
  else engine.checkedResume m

/-- Makes one move, and asserts behind it that the two stacks are of one height. -/
def checkedStep (engine : Engine C V) (listen : L → SyntaxError → L) (m : Machine C V L) :
    Except Overrun (Machine.Move C V L) := do
  let move ← match engine.tables.lookup m.top m.lookahead.symbol with
    | some (.shift state) => .ok (engine.checkedShift m state)
    | some (.reduce production) => engine.checkedReduce m production
    | none => engine.checkedRecover listen m
  move.assertEven

/-- Makes at most `limit` moves; gives the outcome if the parse ended within them. -/
def checkedRun (engine : Engine C V) (listen : L → SyntaxError → L) :
    Nat → Machine C V L → Except Overrun (Option (Outcome C V L))
  | 0, _ => .ok none
  | limit + 1, m => do
    match ← engine.checkedStep listen m with
    | .halt outcome => .ok (some outcome)
    | .next m => checkedRun engine listen limit m

/-- Parses tokens within `limit` moves, from state 0 and the empty value at the bottom. -/
def checkedParse (engine : Engine C V) (limit : Nat) (listen : L → SyntaxError → L) (log : L)
    (context : C) (input : List (Except Unmatched Token)) :
    Except Overrun (Option (Outcome C V L)) :=
  match (Feed.ofInput input).next engine.tables with
  | .error fault => .ok (some ⟨.error (.unmatched fault), context, log, [], ⟨0, 0, 0, 0, 0⟩⟩)
  | .ok (lookahead, feed) => engine.checkedRun listen limit
    { context, log, lookahead, feed
      states := [0]
      values := [StackValue.empty]
      countdown := 0
      errors := []
      shifts := 0
      reductions := 0
      recoveries := 0
      discarded := 0 }

end Engine

/-! ## Both engines agree -/

namespace Frame

variable {V : Type}

/-- The state of the topmost frame is the last one. -/
theorem states_cons (frame : Frame V) (frames : List (Frame V)) :
    states (frame :: frames) = states frames ++ [frame.state] := by
  simp [states]

/-- There is one state for each frame. -/
@[simp] theorem length_states (frames : List (Frame V)) :
    (states frames).length = frames.length := by
  simp [states]

/-- There is one value for each frame. -/
@[simp] theorem length_values (frames : List (Frame V)) :
    (values frames).length = frames.length := by
  simp [values]

/-- The states of the lower frames are the first ones. -/
theorem states_drop {frames : List (Frame V)} {count : Nat} (within : count ≤ frames.length) :
    states (frames.drop count) = (states frames).take (frames.length - count) := by
  rw [states, states, ← List.map_take, List.take_reverse, Nat.sub_sub_self within]

/-- The values of the lower frames are the first ones. -/
theorem values_drop {frames : List (Frame V)} {count : Nat} (within : count ≤ frames.length) :
    values (frames.drop count) = (values frames).take (frames.length - count) := by
  rw [values, values, ← List.map_take, List.take_reverse, Nat.sub_sub_self within]

/-- The values of the upper frames are the last ones. -/
theorem values_take {frames : List (Frame V)} {count : Nat} (within : count ≤ frames.length) :
    values (frames.take count) = (values frames).drop (frames.length - count) := by
  rw [values, values, ← List.map_drop, List.drop_reverse, Nat.sub_sub_self within]

end Frame

/-- A configuration with its states and its values on stacks of their own. -/
def Configuration.machine (c : Configuration C V L) : Machine C V L where
  context := c.context
  log := c.log
  states := Frame.states c.stack
  values := Frame.values c.stack
  lookahead := c.lookahead
  feed := c.feed
  countdown := c.countdown
  errors := c.errors
  shifts := c.shifts
  reductions := c.reductions
  recoveries := c.recoveries
  discarded := c.discarded

/-- A move to a configuration is one to its two stacks. -/
def Move.machine : Move C V L → Machine.Move C V L
  | .next c => .next c.machine
  | .halt outcome => .halt outcome

namespace Configuration

variable (c : Configuration C V L)

/-- The state on top is the last one from the bottom. -/
@[simp] theorem top_machine : c.machine.top = c.top := by
  unfold Machine.top machine top
  cases c.stack with
  | nil => rfl
  | cons frame rest => simp [Frame.states_cons]

/-- The machine halts as the configuration does. -/
theorem halt_machine (verdict : Except ParseError V) :
    c.machine.halt verdict = (c.halt verdict).machine := rfl

/-- The machine gives up as the configuration does. -/
theorem giveUp_machine : c.machine.giveUp = c.giveUp.machine := by
  unfold Machine.giveUp giveUp ParseError.refusal
  rw [halt_machine]
  rfl

/-- A frame on top is a state and a value on top. -/
theorem push_machine (state : Nat) (value : V) :
    c.machine.push state value = { c with stack := ⟨state, value⟩ :: c.stack }.machine := by
  simp only [Machine.push, machine, Frame.states_cons, Frame.values_cons]

end Configuration

/-- The two stacks of a configuration are of one height. -/
theorem Move.assertEven_machine (move : Move C V L) :
    move.machine.assertEven = .ok move.machine := by
  cases move with
  | next c => simp [machine, Machine.Move.assertEven, Configuration.machine]
  | halt outcome => rfl

/-- Unwinding two stacks looks at the topmost state, and goes on below it unless it is the
bottom. -/
theorem TableBundle.checkedUnwind_append (tables : TableBundle) (states : List Nat) (state : Nat)
    (values : List V) (value : V) :
    tables.checkedUnwind (states ++ [state]) (values ++ [value]) =
      match tables.action state tables.errorSymbol with
      | some (.shift target) => .ok (some (target, states ++ [state], values ++ [value]))
      | _ => if states.length = 0 then .ok none else tables.checkedUnwind states values := by
  rw [checkedUnwind]
  simp only [List.getLast?_concat, Option.getD_some, List.length_append, List.length_singleton,
    Nat.add_eq_right]
  split
  · rfl
  · split
    · rfl
    · split
      case h_1 overrun popped => simp at popped
      case h_2 lower popped =>
        rw [Checked.pop_append_singleton, Except.ok.injEq] at popped
        subst popped
        rw [Checked.pop_append_singleton]
        rfl

/-- Popping both stacks takes away the frames above the one at which unwinding stops, and stops at
the bottom. -/
theorem TableBundle.checkedUnwind_eq (tables : TableBundle) {frames : List (Frame V)}
    (filled : frames ≠ []) :
    tables.checkedUnwind (Frame.states frames) (Frame.values frames) =
      .ok ((tables.unwind frames).map fun found =>
        (found.1, Frame.states found.2, Frame.values found.2)) := by
  induction frames with
  | nil => exact absurd rfl filled
  | cons frame rest ih =>
    have lower : (if (Frame.states rest).length = 0 then .ok none
        else tables.checkedUnwind (Frame.states rest) (Frame.values rest)) =
          .ok ((tables.unwind rest).map fun found =>
            (found.1, Frame.states found.2, Frame.values found.2)) := by
      cases rest with
      | nil => rfl
      | cons below rest =>
        rw [if_neg (by simp)]
        exact ih (List.cons_ne_nil _ _)
    rw [Frame.states_cons, Frame.values_cons, checkedUnwind_append, lower, unwind]
    cases tables.action frame.state tables.errorSymbol with
    | none => rfl
    | some action =>
      cases action with
      | shift target => simp only [Option.map_some, Frame.states_cons, Frame.values_cons]
      | reduce production => rfl

namespace Engine

/-- The machine goes to the next lookahead as the configuration does. -/
theorem checkedAdvance_machine (engine : Engine C V) (c : Configuration C V L) :
    engine.checkedAdvance c.machine = (engine.advance c).machine := by
  have same : c.machine.feed = c.feed := rfl
  unfold checkedAdvance advance
  rw [same]
  rcases c.feed.next engine.tables with fault | ⟨lookahead, feed⟩ <;> rfl

/-- The production of a value that is put on the stacks is there. -/
theorem checkedLand_machine {engine : Engine C V} {production : Nat} {p : Production}
    (known : engine.tables.production production = some p) (c : Configuration C V L) (value : V) :
    engine.checkedLand c.machine production value =
      .ok (if production = 0 then c.halt (.ok value)
        else match engine.tables.goto c.top p.lhs with
          | none => c.halt (.error (.misfit (.noGoto c.top (engine.tables.label p.lhs))))
          | some state => .next { c with stack := ⟨state, value⟩ :: c.stack }).machine := by
  unfold checkedLand
  split
  · rfl
  · rw [Checked.element_eq_ok known]
    simp only [bind, Except.bind, Configuration.top_machine]
    cases engine.tables.goto c.top p.lhs with
    | none => rfl
    | some state => simp only [Configuration.push_machine, Move.machine]

/-- The machine resynchronizes as the configuration does: none of its look-ups fails. -/
theorem checkedResync_machine (engine : Engine C V) (c : Configuration C V L) :
    engine.checkedResync c.machine =
      (match engine.tables.resync c.top c.lookahead c.feed 0 with
        | .exhausted feed dropped => { c with feed, discarded := c.discarded + dropped }.giveUp
        | .faulty fault feed dropped =>
          { c with feed, discarded := c.discarded + dropped }.halt (.error (.unmatched fault))
        | .found lookahead feed dropped =>
          .next { c with
            lookahead, feed
            discarded := c.discarded + dropped
            countdown := recoveryWindow
            recoveries := c.recoveries + 1 }).machine := by
  have lookahead : c.machine.lookahead = c.lookahead := rfl
  have feed : c.machine.feed = c.feed := rfl
  unfold checkedResync
  rw [Configuration.top_machine, lookahead, feed]
  cases engine.tables.resync c.top c.lookahead c.feed 0 with
  | found lookahead feed dropped => rfl
  | exhausted feed dropped =>
    exact Configuration.giveUp_machine { c with feed, discarded := c.discarded + dropped }
  | faulty fault feed dropped => rfl

variable [StackValue V]

/-- The machine shifts as the configuration does. -/
theorem checkedShift_machine (engine : Engine C V) (c : Configuration C V L) (state : Nat) :
    engine.checkedShift c.machine state = (engine.shift c state).machine := by
  rw [checkedShift, shift, ← checkedAdvance_machine, Configuration.push_machine]
  rfl

/-- No access of a reduction is out of range, since the stack is higher than the production is long.
-/
theorem checkedReduce_machine (engine : Engine C V) (c : Configuration C V L) (production : Nat) :
    engine.checkedReduce c.machine production = .ok (engine.reduce c production).machine := by
  have height : c.machine.states.length = c.stack.length := Frame.length_states c.stack
  have width : c.machine.values.length = c.stack.length := Frame.length_values c.stack
  unfold checkedReduce reduce
  rw [height, width]
  cases known : engine.tables.production production with
  | none => rfl
  | some p =>
    simp only
    split
    case isTrue short => rfl
    case isFalse deep =>
      have within : p.length ≤ c.stack.length := by omega
      have cut : c.stack.length - p.length ≤ c.machine.values.length := by omega
      have lower : c.machine.states.take (c.stack.length - p.length) =
          Frame.states (c.stack.drop p.length) := (Frame.states_drop within).symm
      have kept : c.machine.values.take (c.stack.length - p.length) =
          Frame.values (c.stack.drop p.length) := (Frame.values_drop within).symm
      have popped : c.machine.values.drop (c.stack.length - p.length) =
          ((c.stack.take p.length).map Frame.value).reverse := by
        rw [← Configuration.popped, Frame.popped_eq]
        exact (Frame.values_take within).symm
      have context : c.machine.context = c.context := rfl
      rw [Checked.difference_eq_ok within]
      simp only [bind, Except.bind]
      rw [Checked.splitOff_eq_ok cut]
      simp only [lower, kept, popped, context]
      rcases engine.reduceValue production c.context _ with ⟨text | value, context⟩
      · rfl
      · exact checkedLand_machine known { c with
          context, stack := c.stack.drop p.length, reductions := c.reductions + 1 } value

/-- No access of a recovery is out of range, since the bottom is never popped. -/
theorem checkedResume_machine (engine : Engine C V) {c : Configuration C V L}
    (filled : c.stack ≠ []) :
    engine.checkedResume c.machine = .ok (engine.resume c).machine := by
  have unwound : engine.tables.checkedUnwind c.machine.states c.machine.values = _ :=
    engine.tables.checkedUnwind_eq filled
  unfold checkedResume resume
  rw [unwound]
  cases engine.tables.unwind c.stack with
  | none => exact congrArg Except.ok c.giveUp_machine
  | some found =>
    obtain ⟨state, stack⟩ := found
    simp only [Option.map_some, bind, Except.bind, Except.ok.injEq]
    have pushed := Configuration.push_machine { c with stack } state StackValue.empty
    exact (congrArg engine.checkedResync pushed).trans (checkedResync_machine engine _)

/-- No access of a recovery is out of range. -/
theorem checkedRecover_machine (engine : Engine C V) (listen : L → SyntaxError → L)
    {c : Configuration C V L} (filled : c.stack ≠ []) :
    engine.checkedRecover listen c.machine = .ok (engine.recover listen c).machine := by
  have countdown : c.machine.countdown = c.countdown := rfl
  have lookahead : c.machine.lookahead = c.lookahead := rfl
  unfold checkedRecover recover
  rw [countdown, lookahead, Configuration.top_machine]
  split
  · simp only
    split
    · exact checkedResume_machine engine (c := engine.report listen c) filled
    · exact congrArg Except.ok (engine.report listen c).giveUp_machine
  · split
    · split
      · exact congrArg Except.ok c.giveUp_machine
      · rw [checkedAdvance_machine]
        cases advanced : engine.advance c with
        | halt outcome => rfl
        | next later =>
          obtain ⟨lookahead, feed, -, rfl⟩ := advanced_eq advanced
          exact checkedResume_machine engine
            (c := { c with lookahead, feed, discarded := c.discarded + 1 }) filled
    · exact checkedResume_machine engine filled

/-- A move over two stacks is the engine's move. -/
theorem checkedStep_machine (engine : Engine C V) (listen : L → SyntaxError → L)
    {c : Configuration C V L} (filled : c.stack ≠ []) :
    engine.checkedStep listen c.machine = .ok (engine.step listen c).machine := by
  have lookahead : c.machine.lookahead = c.lookahead := rfl
  unfold checkedStep step
  rw [lookahead, Configuration.top_machine]
  cases engine.tables.lookup c.top c.lookahead.symbol with
  | none =>
    simp only [checkedRecover_machine engine listen filled]
    exact Move.assertEven_machine _
  | some action =>
    cases action with
    | shift state =>
      simp only [checkedShift_machine]
      exact Move.assertEven_machine _
    | reduce production =>
      simp only [checkedReduce_machine]
      exact Move.assertEven_machine _

/-- A move that goes on leaves a frame on the stack. -/
theorem filled_of_moved {engine : Engine C V} {listen : L → SyntaxError → L}
    {c next : Configuration C V L} (moved : Moved engine listen c next) : next.stack ≠ [] := by
  cases moved <;> exact List.cons_ne_nil _ _

/-- A run over two stacks is the engine's run. -/
theorem checkedRun_machine (engine : Engine C V) (listen : L → SyntaxError → L) (limit : Nat)
    {c : Configuration C V L} (filled : c.stack ≠ []) :
    engine.checkedRun listen limit c.machine = .ok (engine.run listen limit c) := by
  induction limit generalizing c with
  | zero => rfl
  | succ limit ih =>
    rw [checkedRun, run, checkedStep_machine engine listen filled]
    cases stepped : engine.step listen c with
    | halt outcome => rfl
    | next next => exact ih (filled_of_moved (moved_of_step stepped))

/-- Whatever the tables are, no access of a parse is out of range: over two stacks with every access
checked it ends as the engine's parse does. -/
theorem checkedParse_eq (engine : Engine C V) (limit : Nat) (listen : L → SyntaxError → L) (log : L)
    (context : C) (input : List (Except Unmatched Token)) :
    engine.checkedParse limit listen log context input =
      .ok (engine.parseTokens limit listen log context input) := by
  unfold checkedParse parseTokens start
  simp only
  rcases (Feed.ofInput input).next engine.tables with fault | ⟨lookahead, feed⟩
  · rfl
  · have filled : [(⟨0, StackValue.empty⟩ : Frame V)] ≠ [] := List.cons_ne_nil _ _
    exact checkedRun_machine engine listen limit
      (c := ⟨context, log, _, lookahead, feed, 0, [], 0, 0, 0, 0⟩) filled

end Engine

end ShaderSyntax
