import Mathlib.Computability.Language
import ShaderSyntax.Pattern.Automaton

/-!
# The language of a pattern

Which texts a pattern fits, apart from what it prefers, and that its automaton fits the same ones
(`Automaton.accepts_ofPattern`). The states of a part of a pattern stand in a row of the automaton;
a run that enters the row leaves it, for the state where the match goes on, behind a word of the
part (`Automaton.Run.through`), and each word of the part leads there
(`Automaton.accepts_entrance`).
-/

set_option autoImplicit false

namespace ShaderSyntax

open scoped Computability

/-- The texts that a pattern fits. -/
def Pattern.language : Pattern → Language Char
  | .empty => 1
  | .set chars => fun text => ∃ c, chars.contains c = true ∧ text = [c]
  | .seq first second => first.language * second.language
  | .alt preferred other => preferred.language + other.language
  | .star _ body => body.language∗
  | .plus _ body => body.language * body.language∗

/-! ## The words of a pattern, part by part -/

namespace Pattern

variable {chars : CharSet} {first second : Pattern} {greedy : Bool} {text : List Char}

/-- The empty pattern fits the empty text only. -/
theorem mem_empty : text ∈ empty.language ↔ text = [] :=
  Language.mem_one text

/-- A set fits the texts of one of its characters. -/
theorem mem_set : text ∈ (set chars).language ↔ ∃ c, chars.contains c = true ∧ text = [c] :=
  Iff.rfl

/-- A sequence fits the texts of its parts in a row. -/
theorem mem_seq : text ∈ (seq first second).language ↔
    ∃ front ∈ first.language, ∃ back ∈ second.language, front ++ back = text :=
  Language.mem_mul

/-- An alternative fits what one of its parts fits. -/
theorem mem_alt : text ∈ (alt first second).language ↔
    text ∈ first.language ∨ text ∈ second.language :=
  Language.mem_add _ _ _

/-- An optional part is there or not. -/
theorem mem_optional :
    text ∈ (alt first empty).language ↔ text ∈ first.language ∨ text = [] := by
  rw [mem_alt, mem_empty]

/-- A repetition goes on with one more round in front. -/
theorem append_mem_star {body : Pattern} {word : List Char} (round : word ∈ body.language)
    (more : text ∈ (star greedy body).language) : word ++ text ∈ (star greedy body).language := by
  change word ++ text ∈ body.language∗
  rw [← Language.one_add_self_mul_kstar_eq_kstar]
  exact .inr (Language.append_mem_mul round more)

/-- Repetitions of a character of a set are the texts of such characters. -/
theorem mem_star_set :
    text ∈ (star greedy (set chars)).language ↔ ∀ c ∈ text, chars.contains c = true := by
  constructor
  · intro fits
    obtain ⟨words, rfl, all⟩ := Language.mem_kstar.mp fits
    intro c mem
    obtain ⟨word, listed, mem⟩ := List.mem_flatten.mp mem
    obtain ⟨d, within, rfl⟩ := mem_set.mp (all word listed)
    rwa [List.mem_singleton.mp mem]
  · intro all
    refine Language.mem_kstar.mpr ⟨text.map fun c => [c], ?_, ?_⟩
    · induction text with
      | nil => rfl
      | cons c rest ih =>
        simpa using ih fun d mem => all d (List.mem_cons_of_mem _ mem)
    · intro word listed
      obtain ⟨c, mem, rfl⟩ := List.mem_map.mp listed
      exact ⟨c, all c mem, rfl⟩

/-- A repeated set fits the texts of its characters that are not empty. -/
theorem mem_plus_set : text ∈ (plus greedy (set chars)).language ↔
    text ≠ [] ∧ ∀ c ∈ text, chars.contains c = true := by
  constructor
  · intro fits
    obtain ⟨first, in_set, more, in_star, rfl⟩ := Language.mem_mul.mp fits
    obtain ⟨c, within, rfl⟩ := mem_set.mp in_set
    exact ⟨List.cons_ne_nil c more,
      List.forall_mem_cons.mpr ⟨within, (@mem_star_set _ greedy _).mp in_star⟩⟩
  · rintro ⟨filled, all⟩
    obtain ⟨c, more, rfl⟩ := List.exists_cons_of_ne_nil filled
    obtain ⟨within, all⟩ := List.forall_mem_cons.mp all
    exact Language.mem_mul.mpr
      ⟨[c], ⟨c, within, rfl⟩, more, (@mem_star_set _ greedy _).mpr all, rfl⟩

end Pattern

namespace Automaton

/-- A way through an automaton that ends a match: from a state, along a text, in a number of
steps. -/
inductive Run (automaton : Automaton) : Nat → List Char → Nat → Prop
  | accept {state : Nat} (at_state : automaton.states[state]? = some .accept) :
      Run automaton state [] 0
  | take {state next steps : Nat} {chars : CharSet} {c : Char} {text : List Char}
      (at_state : automaton.states[state]? = some (.take chars next))
      (within : chars.contains c = true) (onward : Run automaton next text steps) :
      Run automaton state (c :: text) (steps + 1)
  | fork {state preferred other next steps : Nat} {text : List Char}
      (at_state : automaton.states[state]? = some (.fork preferred other))
      (choice : next = preferred ∨ next = other) (onward : Run automaton next text steps) :
      Run automaton state text (steps + 1)

/-- Some way from a state along a text ends a match. -/
def Accepts (automaton : Automaton) (state : Nat) (text : List Char) : Prop :=
  ∃ steps, automaton.Run state text steps

/-- States stand in an automaton in a row. -/
def Holds (automaton : Automaton) (base : Nat) (row : List State) : Prop :=
  ∀ i state, row[i]? = some state → automaton.states[base + i]? = some state

variable {automaton : Automaton} {base loop again next : Nat} {greedy : Bool}
  {pattern : Pattern} {language : Language Char} {word text rest : List Char} {steps : Nat}

/-- The first state of a row stands at its base. -/
theorem Holds.head {state : State} {row : List State}
    (holds : automaton.Holds base (state :: row)) :
    automaton.states[base]? = some state :=
  holds 0 state rfl

/-- The other states of a row stand behind its base. -/
theorem Holds.tail {state : State} {row : List State}
    (holds : automaton.Holds base (state :: row)) :
    automaton.Holds (base + 1) row := by
  intro i found at_i
  rw [Nat.add_assoc, Nat.add_comm 1]
  exact holds (i + 1) found at_i

/-- The front of a row stands at its base. -/
theorem Holds.left {front back : List State} (holds : automaton.Holds base (front ++ back)) :
    automaton.Holds base front := by
  intro i found at_i
  refine holds i found ?_
  rw [List.getElem?_append_left (List.getElem?_eq_some_iff.mp at_i).1]
  exact at_i

/-- The back of a row stands behind its front. -/
theorem Holds.right {front back : List State} (holds : automaton.Holds base (front ++ back)) :
    automaton.Holds (base + front.length) back := by
  intro i found at_i
  rw [Nat.add_assoc]
  refine holds (front.length + i) found ?_
  rw [List.getElem?_append_right (Nat.le_add_right ..), Nat.add_sub_cancel_left]
  exact at_i

/-- States that do the same have the same ways onward. -/
theorem Run.of_same {state other : Nat}
    (same : automaton.states[state]? = automaton.states[other]?)
    (run : automaton.Run state text steps) : automaton.Run other text steps := by
  cases run with
  | accept at_state => exact .accept (same ▸ at_state)
  | take at_state within onward => exact .take (same ▸ at_state) within onward
  | fork at_state choice onward => exact .fork (same ▸ at_state) choice onward

/-! ## Rounds -/

/-- A way on from a state between two rounds starts another round or goes out. -/
theorem Run.of_round (at_loop : automaton.states[loop]? = some (.round greedy again next))
    (run : automaton.Run loop text steps) :
    ∃ fewer, steps = fewer + 1 ∧
      (automaton.Run again text fewer ∨ automaton.Run next text fewer) := by
  cases run with
  | accept at_state => cases greedy <;> simp [State.round, at_state] at at_loop
  | take at_state => cases greedy <;> simp [State.round, at_state] at at_loop
  | fork at_state choice onward =>
    refine ⟨_, rfl, ?_⟩
    cases greedy <;>
      simp only [State.round, at_state, Option.some.injEq, State.fork.injEq, if_true,
        Bool.false_eq_true, if_false] at at_loop <;>
      obtain ⟨rfl, rfl⟩ := at_loop <;> obtain rfl | rfl := choice <;> simp [onward]

/-- A loop accepts what can be accepted by another round or by leaving. -/
theorem accepts_of_round (at_loop : automaton.states[loop]? = some (.round greedy again next))
    (onward : automaton.Accepts again text ∨ automaton.Accepts next text) :
    automaton.Accepts loop text := by
  have choose : ∀ state, state = again ∨ state = next → automaton.Accepts state text →
      automaton.Accepts loop text := by
    rintro state chosen ⟨steps, run⟩
    cases greedy with
    | true => exact ⟨_, .fork at_loop chosen run⟩
    | false => exact ⟨_, .fork at_loop chosen.symm run⟩
  obtain onward | onward := onward
  · exact choose again (.inl rfl) onward
  · exact choose next (.inr rfl) onward

/-- If words of a language lead through a round, words in a row lead out of the loop. -/
theorem accepts_loop (at_loop : automaton.states[loop]? = some (.round greedy again next))
    (round : ∀ word rest, word ∈ language → automaton.Accepts loop rest →
      automaton.Accepts again (word ++ rest))
    (fits : word ∈ language∗) (onward : automaton.Accepts next rest) :
    automaton.Accepts loop (word ++ rest) := by
  obtain ⟨words, rfl, all⟩ := Language.mem_kstar.mp fits
  clear fits
  induction words with
  | nil => exact accepts_of_round at_loop (.inr onward)
  | cons first words ih =>
    rw [List.flatten_cons, List.append_assoc]
    refine accepts_of_round at_loop (.inl (round _ _ (all first List.mem_cons_self) ?_))
    exact ih fun word later => all word (List.mem_cons_of_mem _ later)

/-- A way out of a loop passes words in a row. The induction is on the number of steps, since a
round may pass no character. -/
theorem Run.through_loop (at_loop : automaton.states[loop]? = some (.round greedy again next))
    (round : ∀ text steps, automaton.Run again text steps → ∃ word rest fewer,
      text = word ++ rest ∧ word ∈ language ∧ fewer ≤ steps ∧ automaton.Run loop rest fewer)
    (run : automaton.Run loop text steps) :
    ∃ word rest fewer, text = word ++ rest ∧ word ∈ language∗ ∧ fewer ≤ steps ∧
      automaton.Run next rest fewer := by
  induction steps using Nat.strong_induction_on generalizing text with
  | _ steps ih =>
    obtain ⟨fewer, rfl, more | out⟩ := run.of_round at_loop
    · obtain ⟨first, behind, steps', rfl, fits, bound, run⟩ := round _ _ more
      obtain ⟨word, rest, last, rfl, all, bound', out⟩ := ih steps' (by omega) run
      refine ⟨first ++ word, rest, last, by simp, ?_, by omega, out⟩
      rw [← Language.one_add_self_mul_kstar_eq_kstar]
      exact .inr (Language.append_mem_mul fits all)
    · exact ⟨[], text, fewer, rfl, Language.nil_mem_kstar _, by omega, out⟩

/-! ## Parts of a pattern -/

/-- Each word of a part leads from the part's entrance to where the match goes on. -/
theorem accepts_entrance (holds : automaton.Holds base (pattern.states next base))
    (fits : word ∈ pattern.language) (onward : automaton.Accepts next rest) :
    automaton.Accepts (pattern.entrance next base) (word ++ rest) := by
  induction pattern generalizing next base word rest with
  | empty =>
    obtain rfl := (Language.mem_one word).mp fits
    exact onward
  | set chars =>
    obtain ⟨c, within, rfl⟩ := fits
    obtain ⟨steps, run⟩ := onward
    exact ⟨steps + 1, .take holds.head within run⟩
  | seq first second ihf ihs =>
    obtain ⟨front, in_front, back, in_back, rfl⟩ := Language.mem_mul.mp fits
    have there := Holds.right holds
    rw [Pattern.length_states] at there
    rw [List.append_assoc]
    exact ihf holds.left in_front (ihs there in_back onward)
  | alt preferred other ihp iho =>
    have at_base := holds.head
    have there := Holds.right holds.tail
    rw [Pattern.length_states] at there
    obtain fits | fits := (Language.mem_add _ _ _).mp fits
    · obtain ⟨steps, run⟩ := ihp holds.tail.left fits onward
      exact ⟨steps + 1, .fork at_base (.inl rfl) run⟩
    · obtain ⟨steps, run⟩ := iho there fits onward
      exact ⟨steps + 1, .fork at_base (.inr rfl) run⟩
  | star greedy body ih =>
    rw [Pattern.states] at holds
    split at holds
    · -- the two states in front do the same, and rounds come back to the second
      have same : automaton.states[base + 1]? = automaton.states[base]? :=
        holds.tail.head.trans holds.head.symm
      obtain ⟨steps, run⟩ := accepts_loop holds.tail.head
        (fun word rest fits loop => ih holds.tail.tail fits loop) fits onward
      exact ⟨steps, run.of_same same⟩
    · exact accepts_loop holds.head (fun word rest fits loop => ih holds.tail fits loop) fits onward
  | plus greedy body ih =>
    obtain ⟨first, in_body, more, in_star, rfl⟩ := Language.mem_mul.mp fits
    rw [List.append_assoc]
    refine ih holds.tail in_body ?_
    exact accepts_loop holds.head (fun word rest fits loop => ih holds.tail fits loop)
      in_star onward

/-- A way from the entrance of a part passes a word of the part and comes to where the match goes
on. -/
theorem Run.through (holds : automaton.Holds base (pattern.states next base))
    (run : automaton.Run (pattern.entrance next base) text steps) :
    ∃ word rest fewer, text = word ++ rest ∧ word ∈ pattern.language ∧ fewer ≤ steps ∧
      automaton.Run next rest fewer := by
  induction pattern generalizing next base text steps with
  | empty => exact ⟨[], text, steps, rfl, Language.nil_mem_one, Nat.le_refl _, run⟩
  | set chars =>
    have at_base := holds.head
    cases run with
    | accept at_state => simp [Pattern.entrance, at_base] at at_state
    | fork at_state => simp [Pattern.entrance, at_base] at at_state
    | take at_state within onward =>
      simp only [Pattern.entrance, at_base, Option.some.injEq, State.take.injEq] at at_state
      obtain ⟨rfl, rfl⟩ := at_state
      exact ⟨[_], _, _, rfl, ⟨_, within, rfl⟩, Nat.le_succ _, onward⟩
  | seq first second ihf ihs =>
    have there := Holds.right holds
    rw [Pattern.length_states] at there
    obtain ⟨front, behind, steps', rfl, in_front, bound, run⟩ := ihf holds.left run
    obtain ⟨back, rest, fewer, rfl, in_back, bound', out⟩ := ihs there run
    exact ⟨front ++ back, rest, fewer, by simp, Language.append_mem_mul in_front in_back,
      Nat.le_trans bound' bound, out⟩
  | alt preferred other ihp iho =>
    have at_base := holds.head
    have there := Holds.right holds.tail
    rw [Pattern.length_states] at there
    cases run with
    | accept at_state => simp [Pattern.entrance, at_base] at at_state
    | take at_state => simp [Pattern.entrance, at_base] at at_state
    | fork at_state choice onward =>
      simp only [Pattern.entrance, at_base, Option.some.injEq, State.fork.injEq] at at_state
      obtain ⟨rfl, rfl⟩ := at_state
      obtain rfl | rfl := choice
      · obtain ⟨word, rest, fewer, rfl, fits, bound, out⟩ := ihp holds.tail.left onward
        exact ⟨word, rest, fewer, rfl, .inl fits, Nat.le_succ_of_le bound, out⟩
      · obtain ⟨word, rest, fewer, rfl, fits, bound, out⟩ := iho there onward
        exact ⟨word, rest, fewer, rfl, .inr fits, Nat.le_succ_of_le bound, out⟩
  | star greedy body ih =>
    rw [Pattern.states] at holds
    split at holds
    · have same : automaton.states[base]? = automaton.states[base + 1]? :=
        holds.head.trans holds.tail.head.symm
      exact through_loop holds.tail.head (fun text steps run => ih holds.tail.tail run)
        (run.of_same same)
    · exact through_loop holds.head (fun text steps run => ih holds.tail run) run
  | plus greedy body ih =>
    obtain ⟨first, behind, steps', rfl, in_body, bound, run⟩ := ih holds.tail run
    obtain ⟨more, rest, fewer, rfl, in_star, bound', out⟩ :=
      through_loop holds.head (fun text steps run => ih holds.tail run) run
    exact ⟨first ++ more, rest, fewer, by simp, Language.append_mem_mul in_body in_star,
      Nat.le_trans bound' bound, out⟩

/-- The automaton of a pattern accepts what the pattern fits. -/
theorem accepts_ofPattern (pattern : Pattern) (text : List Char) :
    (ofPattern pattern).Accepts (ofPattern pattern).start text ↔ text ∈ pattern.language := by
  have holds : (ofPattern pattern).Holds 1 (pattern.states 0 1) := by
    intro i state at_i
    rw [Nat.add_comm]
    simpa [ofPattern] using at_i
  have at_end : (ofPattern pattern).states[0]? = some .accept := by simp [ofPattern]
  constructor
  · rintro ⟨steps, run⟩
    obtain ⟨word, rest, fewer, rfl, fits, -, out⟩ := run.through holds
    cases out with
    | accept => rwa [List.append_nil]
    | take at_state => simp [at_end] at at_state
    | fork at_state => simp [at_end] at at_state
  · intro fits
    have through := accepts_entrance holds fits ⟨0, .accept at_end⟩
    rwa [List.append_nil] at through

end Automaton

end ShaderSyntax
