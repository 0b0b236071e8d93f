import ShaderSyntax.Proofs.Parse.Trail

/-!
# The calls of a parse

An engine hands its caller's context to the actions of its productions, and to nothing else. A move
makes at most one call (`Engine.call?`) and leaves the context as that call does
(`Engine.context_step`). What a move leaves that ends the parse is the context as it was, or what a
reduction made of it (`Engine.context_of_halt`).
-/

set_option autoImplicit false

namespace ShaderSyntax

/-- A call of a production's action with the context and the values that it was given. -/
structure Call (C V : Type) where
  production : Nat
  context : C
  values : List V

variable {C V L : Type}

/-- The context behind a move. -/
def Move.context : Move C V L → C
  | .next c => c.context
  | .halt outcome => outcome.context

namespace Engine

/-- The call that a configuration makes: where it reduces by a production of the tables that has an
action, if the stack is high enough. -/
def call? (engine : Engine C V) (c : Configuration C V L) : Option (Call C V) :=
  match engine.tables.lookup c.top c.lookahead.symbol with
  | some (.reduce production) =>
    match engine.tables.production production with
    | some rule =>
      if rule.length < c.stack.length then
        (engine.action? production).map fun _ => ⟨production, c.context, c.popped rule.length⟩
      else none
    | none => none
  | _ => none

/-- The calls along a trail, in order. -/
def calls (engine : Engine C V) (trail : List (Configuration C V L)) : List (Call C V) :=
  trail.filterMap engine.call?

/-- The context behind a call of a production's action. -/
def afterCall [StackValue V] (engine : Engine C V) (context : C) (call : Call C V) : C :=
  (engine.reduceValue call.production context call.values).2

/-- A call is that of a reduction. -/
theorem call?_eq_some {engine : Engine C V} {c : Configuration C V L} {call : Call C V}
    (made : engine.call? c = some call) :
    ∃ production rule, engine.tables.lookup c.top c.lookahead.symbol = some (.reduce production) ∧
      engine.tables.production production = some rule ∧ rule.length < c.stack.length ∧
      call = ⟨production, c.context, c.popped rule.length⟩ := by
  unfold call? at made
  split at made
  case h_1 production looked =>
    split at made
    case h_1 rule known =>
      split at made
      case isTrue deep =>
        obtain ⟨action, -, rfl⟩ := Option.map_eq_some_iff.mp made
        exact ⟨production, rule, looked, known, deep, rfl⟩
      case isFalse => simp at made
    case h_2 => simp at made
  case h_2 => simp at made

/-! ## What a move does to the context -/

/-- Going to the next lookahead leaves the context alone. -/
theorem context_advance (engine : Engine C V) (c : Configuration C V L) :
    (engine.advance c).context = c.context := by
  unfold advance
  split <;> rfl

variable [StackValue V]

/-- Resuming behind an error leaves the context alone. -/
theorem context_resume (engine : Engine C V) (c : Configuration C V L) :
    (engine.resume c).context = c.context := by
  unfold resume
  split
  · rfl
  · simp only
    split <;> rfl

/-- A recovery leaves the context alone; only actions change it. -/
theorem context_recover (engine : Engine C V) (listen : L → SyntaxError → L)
    (c : Configuration C V L) : (engine.recover listen c).context = c.context := by
  unfold recover
  split
  · simp only
    split
    · exact context_resume engine (engine.report listen c)
    · rfl
  · split
    · split
      · rfl
      · have same := context_advance engine c
        split
        case h_1 early advanced =>
          rw [advanced] at same
          exact same
        case h_2 later advanced =>
          rw [advanced] at same
          exact (context_resume engine _).trans same
    · exact context_resume engine c

/-- A reduction leaves the context as its production does. -/
theorem context_reduce (engine : Engine C V) {c : Configuration C V L} {production : Nat}
    {rule : Production} (known : engine.tables.production production = some rule)
    (deep : rule.length < c.stack.length) :
    (engine.reduce c production).context =
      (engine.reduceValue production c.context (c.popped rule.length)).2 := by
  unfold reduce
  rw [known]
  simp only
  rw [if_neg (by omega)]
  unfold Configuration.popped
  split
  case h_1 text context acted => rw [acted]; rfl
  case h_2 value context acted =>
    rw [acted]
    split
    · rfl
    · split <;> rfl

/-- A move leaves the context as its call does, if it makes one. -/
theorem context_step (engine : Engine C V) (listen : L → SyntaxError → L)
    (c : Configuration C V L) :
    (engine.step listen c).context =
      (engine.call? c).elim c.context (engine.afterCall c.context) := by
  unfold step call?
  cases looked : engine.tables.lookup c.top c.lookahead.symbol with
  | none => exact context_recover engine listen c
  | some action =>
    cases action with
    | shift state => exact context_advance engine _
    | reduce production =>
      simp only
      cases known : engine.tables.production production with
      | none =>
        rw [reduce, known]
        rfl
      | some rule =>
        simp only
        split
        case isTrue deep =>
          have left := context_reduce engine known deep
          cases acts : engine.action? production with
          | none =>
            rw [reduceValue, acts] at left
            exact left
          | some act => exact left
        case isFalse high =>
          have short : c.stack.length ≤ rule.length := by omega
          rw [reduce, known]
          simp only [if_pos short]
          rfl

/-- A move that ends a parse changes its context only if it reduces, and then to what the reduction
leaves. -/
theorem context_of_halt {engine : Engine C V} {listen : L → SyntaxError → L}
    {c : Configuration C V L} {outcome : Outcome C V L}
    (halted : engine.step listen c = .halt outcome) :
    outcome.context = c.context ∨ ∃ production rule,
      engine.tables.lookup c.top c.lookahead.symbol = some (.reduce production) ∧
      engine.tables.production production = some rule ∧ rule.length < c.stack.length ∧
      outcome.context = (engine.reduceValue production c.context (c.popped rule.length)).2 := by
  have left : outcome.context = (engine.call? c).elim c.context (engine.afterCall c.context) := by
    rw [← context_step engine listen c, halted]
    rfl
  cases made : engine.call? c with
  | none =>
    rw [made] at left
    exact .inl left
  | some call =>
    obtain ⟨production, rule, looked, known, deep, rfl⟩ := call?_eq_some made
    rw [made] at left
    exact .inr ⟨production, rule, looked, known, deep, left⟩

/-! ## Along a trail -/

variable {engine : Engine C V} {listen : L → SyntaxError → L} {log : L} {context : C}
  {input : List (Except Unmatched Token)}

/-- A parse that finds no first token leaves its context alone. -/
theorem context_of_start {outcome : Outcome C V L}
    (halted : engine.start context log input = .halt outcome) :
    outcome.context = context := by
  obtain ⟨fault, rfl⟩ := unstarted_eq halted
  rfl

end Engine

end ShaderSyntax
