import ShaderSyntax.Pattern.Basic

/-!
# Matching patterns

The match that a pattern prefers at the start of a text: the first in its order of preference that
fits, not the longest.

A pattern becomes an automaton with numbered states. All ways to go on are followed at once, as a
list of states in the order of preference, the *threads*. Before each character the threads are
opened into *heads*, the characters they accept next. A state is entered only once between two
characters, by the most preferred way that reaches it; so rounds of a repetition whose body fits
nothing come to an end, and what such a body prefers less than fitting nothing keeps its turn. What
is less preferred than stopping here is dropped. The main statement bounds the match by the text
(`matchLength?_le`).
-/

set_option autoImplicit false

namespace ShaderSyntax

namespace Automaton

/-- What a state does: it ends the match, takes a character, or has two ways to go on. -/
inductive State where
  | accept
  | take (chars : CharSet) (next : Nat)
  | fork (preferred other : Nat)
  deriving DecidableEq, Repr

/-- The state that chooses between another round and the way out. -/
def State.round (greedy : Bool) (again out : Nat) : State :=
  if greedy then .fork again out else .fork out again

end Automaton

namespace Pattern

/-- How many states a pattern takes. A repetition from none on has one state to begin with and one
behind each round, if its body can be empty, and else a single one for both. -/
def width : Pattern → Nat
  | .empty => 0
  | .set _ => 1
  | .seq first second => first.width + second.width
  | .alt preferred other => preferred.width + other.width + 1
  | .star _ body => body.width + if body.canBeEmpty then 2 else 1
  | .plus _ body => body.width + 1

/-- Where a pattern begins whose states are numbered from `base` on and whose match goes on at
`next`. -/
def entrance : Pattern → Nat → Nat → Nat
  | .empty, next, _ => next
  | .set _, _, base => base
  | .seq first second, next, base => first.entrance (second.entrance next (base + first.width)) base
  | .alt _ _, _, base => base
  | .star _ _, _, base => base
  | .plus _ body, _, base => body.entrance base (base + 1)

/-- The states of a pattern, numbered from `base` on, whose match goes on at `next`. -/
def states : Pattern → Nat → Nat → List Automaton.State
  | .empty, _, _ => []
  | .set chars, next, _ => [.take chars next]
  | .seq first second, next, base =>
    first.states (second.entrance next (base + first.width)) base ++
      second.states next (base + first.width)
  | .alt preferred other, next, base =>
    .fork (preferred.entrance next (base + 1)) (other.entrance next (base + 1 + preferred.width)) ::
      (preferred.states next (base + 1) ++ other.states next (base + 1 + preferred.width))
  | .star greedy body, next, base =>
    if body.canBeEmpty then
      let again := body.entrance (base + 1) (base + 2)
      .round greedy again next :: .round greedy again next :: body.states (base + 1) (base + 2)
    else .round greedy (body.entrance base (base + 1)) next :: body.states base (base + 1)
  | .plus greedy body, next, base =>
    .round greedy (body.entrance base (base + 1)) next :: body.states base (base + 1)

/-- A pattern has as many states as it takes. -/
theorem length_states (pattern : Pattern) (next base : Nat) :
    (pattern.states next base).length = pattern.width := by
  induction pattern generalizing next base with
  | empty => rfl
  | set => rfl
  | seq first second hf hs => simp [states, width, hf, hs]
  | alt preferred other hp ho => simp [states, width, hp, ho]
  | star greedy body ih => rw [states, width]; split <;> simp [ih]
  | plus greedy body ih => simp [states, width, ih]

end Pattern

/-- Numbered states, and the one to begin with. -/
structure Automaton where
  states : Array Automaton.State
  start : Nat

namespace Automaton

/-- The automaton of a pattern; its state number zero ends the match. -/
def ofPattern (pattern : Pattern) : Automaton :=
  ⟨(.accept :: pattern.states 0 1).toArray, pattern.entrance 0 1⟩

/-- What may come next: the end of the match, or a character of a set. -/
inductive Head where
  | stop
  | take (chars : CharSet) (next : Nat)
  deriving DecidableEq, Repr

/-- Opens threads into heads, in the order of preference; `entered` tells the states entered before,
and `steps` bounds the states looked at. -/
def openAll (automaton : Automaton) (steps : Nat) (threads : List Nat) (entered : Array Bool) :
    List Head :=
  match steps, threads with
  | 0, _ => []
  | _, [] => []
  | steps + 1, thread :: threads =>
    if entered.getD thread true then automaton.openAll steps threads entered
    else
      let entered := entered.setIfInBounds thread true
      match automaton.states[thread]? with
      | none => automaton.openAll steps threads entered
      | some .accept => .stop :: automaton.openAll steps threads entered
      | some (.take chars next) => .take chars next :: automaton.openAll steps threads entered
      | some (.fork preferred other) =>
        automaton.openAll steps (preferred :: other :: threads) entered

/-- The heads of threads. Each state puts at most two others in line. -/
def heads (automaton : Automaton) (threads : List Nat) : List Head :=
  automaton.openAll (threads.length + 2 * automaton.states.size) threads
    (Array.replicate automaton.states.size false)

/-- The heads up to the first that stops. -/
def untilStop (heads : List Head) : List Head :=
  heads.takeWhile (· ≠ .stop)

/-- The thread of a head behind character `c`. -/
def Head.next? (c : Char) : Head → Option Nat
  | .stop => none
  | .take chars next => if chars.contains c then some next else none

/-- Follows the threads along the text. `passed` characters are behind; `best` is the length of the
preferred match among those that stopped so far. -/
def follow (automaton : Automaton) (threads : List Nat) (passed : Nat) (best : Option Nat) :
    List Char → Option Nat
  | [] => if Head.stop ∈ automaton.heads threads then some passed else best
  | c :: rest =>
    let all := automaton.heads threads
    let best := if Head.stop ∈ all then some passed else best
    match (untilStop all).filterMap (Head.next? c) with
    | [] => best
    | threads => automaton.follow threads (passed + 1) best rest

/-- The length of the preferred match at the start of a text, if there is a match. -/
def matchLength? (automaton : Automaton) (text : List Char) : Option Nat :=
  automaton.follow [automaton.start] 0 none text

/-- The length that is found does not go past the text. -/
theorem follow_le {automaton : Automaton} {threads : List Nat} {passed : Nat} {best : Option Nat}
    {text : List Char} {n : Nat} (bound : ∀ m, best = some m → m ≤ passed)
    (h : automaton.follow threads passed best text = some n) : n ≤ passed + text.length := by
  induction text generalizing threads passed best with
  | nil =>
    rw [follow] at h
    split at h
    · simp at h; omega
    · exact Nat.le_trans (bound n h) (Nat.le_add_right ..)
  | cons c rest ih =>
    have bound' : ∀ m,
        (if Head.stop ∈ automaton.heads threads then some passed else best) = some m →
          m ≤ passed := by
      intro m hm
      split at hm
      · simp at hm; omega
      · exact bound m hm
    simp only [follow] at h
    split at h
    · exact Nat.le_trans (bound' n h) (Nat.le_add_right ..)
    · have := ih (fun m hm => Nat.le_succ_of_le (bound' m hm)) h
      simp only [List.length_cons]
      omega

/-- A match lies within the text. -/
theorem matchLength?_le {automaton : Automaton} {text : List Char} {n : Nat}
    (h : automaton.matchLength? text = some n) : n ≤ text.length := by
  simpa using follow_le (by simp) h

end Automaton

end ShaderSyntax
