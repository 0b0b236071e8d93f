import ShaderSyntax.Proofs.Preprocess.Splicing

/-!
# Runs side by side

Two runs of preprocessing over one text, from other states or under other limits, take the same
path through lines and files. To relate them it is enough to relate their parts: `Comparable` lists
what a relation between computations has to keep, and `Comparable.expandText` carries it over to
whole texts, inclusions and all. The second run may have more levels of inclusion left than the
first; what holds where only the first runs out of levels is left to the relation.
-/

set_option autoImplicit false

namespace ShaderSyntax

/-- The failure that a result of preprocessing is. -/
def PreprocessError.ofResult? {α : Type} : Except PreprocessError α → Option PreprocessError
  | .error error => some error
  | .ok _ => none

/-- The error of a result is there if the result is a failure. -/
theorem PreprocessError.ofResult?_eq_some {α : Type} {result : Except PreprocessError α}
    {error : PreprocessError} : ofResult? result = some error ↔ result = .error error := by
  cases result <;> simp [ofResult?]

/-- A failed run is known from its failure and the state left. -/
theorem Preprocessor.eq_error_of_ofResult? {α : Type} {error : PreprocessError} {final : MacroState}
    {outcome : Except PreprocessError α × MacroState}
    (failed : PreprocessError.ofResult? outcome.1 = some error) (left : outcome.2 = final) :
    outcome = (.error error, final) :=
  Prod.ext (PreprocessError.ofResult?_eq_some.mp failed) left

namespace Preprocessing

/-- A computation that writes one text behind another ends with the first failure, or with both
texts. -/
theorem run_append (first second : Preprocessing (List Char)) (state : MacroState) :
    (do
      let front ← first
      let back ← second
      return front ++ back : Preprocessing (List Char)).run state =
      match first.run state with
      | (.error error, between) => (.error error, between)
      | (.ok front, between) =>
        match second.run between with
        | (.error error, final) => (.error error, final)
        | (.ok back, final) => (.ok (front ++ back), final) := by
  rw [run_bind]
  generalize first.run state = outcome
  obtain ⟨error | front, between⟩ := outcome
  · rfl
  · simp only
    rw [run_bind]
    generalize second.run between = outcome
    obtain ⟨error | back, final⟩ := outcome <;> rfl

end Preprocessing

namespace Preprocessor

open Preprocessing

/-- A line is always expanded to something; only the state tells whether a limit stopped it. -/
theorem run_expandLine (options : PreprocessOptions) (path : String) (number : Nat)
    (line : List Char) (state : MacroState) :
    (expandLine options path number line).run state =
      (.ok (expansionOf options state line).text, stateBehind options path number state line) :=
  gives_expandLine.mpr ⟨rfl, rfl⟩

/-- A text is preprocessed with all levels of inclusion left. -/
theorem preprocess_eq (preprocessor : Preprocessor) (state : MacroState) (path text : String) :
    preprocessor.preprocess state path text =
      ((expandText preprocessor.loader preprocessor.options preprocessor.options.maxDepth path
        text.toList).run state).map (Except.map String.ofList) id := by
  rw [preprocess, expand, run_bind]
  generalize (expandText preprocessor.loader preprocessor.options preprocessor.options.maxDepth path
    text.toList).run state = outcome
  obtain ⟨error | chars, final⟩ := outcome <;> rfl

/-- Computations that write text under two limits are related in a way that all parts of
preprocessing keep. -/
structure Comparable (options higher : PreprocessOptions)
    (related : Preprocessing (List Char) → Preprocessing (List Char) → Prop) : Prop where
  nothing : related (pure []) (pure [])
  /-- One text behind another. -/
  append : ∀ {first first' second second' : Preprocessing (List Char)}, related first first' →
    related second second' →
    related
      (do
        let front ← first
        let back ← second
        return front ++ back)
      (do
        let front ← first'
        let back ← second'
        return front ++ back)
  /-- A line that is no directive. -/
  line : ∀ (path : String) (number : Nat) (line : List Char),
    related (do return (← expandLine options path number line) ++ ['\n'])
      (do return (← expandLine higher path number line) ++ ['\n'])
  define : ∀ (name body : List Char),
    related
      (do
        modify (·.define name body)
        return [])
      (do
        modify (·.define name body)
        return [])
  failure : ∀ error : PreprocessError, related (throw error) (throw error)

namespace Comparable

variable {options higher : PreprocessOptions} {loader : SourceLoader}
  {related : Preprocessing (List Char) → Preprocessing (List Char) → Prop}
  {splice splice' : Nat → String → Preprocessing (List Char)}

/-- Expanding a line is related under the two limits if including is. -/
theorem expandOne (comparable : Comparable options higher related)
    (inclusions : ∀ number target, related (splice number target) (splice' number target))
    (path : String) (number : Nat) (line : List Char) :
    related (expandOne options path splice number line)
      (expandOne higher path splice' number line) := by
  unfold Preprocessor.expandOne
  cases Directive.ofLine? line with
  | none => exact comparable.line path number line
  | some directive =>
    cases directive with
    | define name body => exact comparable.define name body
    | inclusion target => exact inclusions number (String.ofList target)
    | ignored => exact comparable.nothing

/-- Expanding lines is related under the two limits if including is. -/
theorem expandLines (comparable : Comparable options higher related)
    (inclusions : ∀ number target, related (splice number target) (splice' number target))
    (path : String) (number : Nat) (lines : List (List Char)) :
    related (expandLines options path splice number lines)
      (expandLines higher path splice' number lines) := by
  induction lines generalizing number with
  | nil => exact comparable.nothing
  | cons line lines ih =>
    exact comparable.append (comparable.expandOne inclusions path number line) (ih (number + 1))

/-- A relation that the parts keep holds of whole texts, if it holds of inclusions for which the
first run has no level left. -/
theorem expandText (comparable : Comparable options higher related) (extra : Nat)
    (bottom : ∀ path number target, related (inclusionAt loader options path 0 number target)
      (inclusionAt loader higher path extra number target))
    (levels : Nat) (path : String) (text : List Char) :
    related (expandText loader options levels path text)
      (expandText loader higher (levels + extra) path text) := by
  induction levels generalizing path text with
  | zero =>
    rw [Nat.zero_add, expandText_eq, expandText_eq]
    exact comparable.expandLines (bottom path) path 1 (Text.lines text)
  | succ levels ih =>
    rw [Nat.add_right_comm, expandText_eq, expandText_eq]
    refine comparable.expandLines (fun number target => ?_) path 1 (Text.lines text)
    simp only [inclusionAt]
    cases loader target with
    | ok included => exact ih target included.toList
    | error fault => cases fault <;> exact comparable.failure _

end Comparable

end Preprocessor

end ShaderSyntax
