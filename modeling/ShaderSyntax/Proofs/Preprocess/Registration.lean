import ShaderSyntax.Proofs.Macro.Agreement
import ShaderSyntax.Proofs.Preprocess.Comparison

/-!
# The order of registration

States in which the same names stand for the same bodies cannot be told apart by preprocessing,
whatever order the macros were registered in: from either of them a text gives the same output or
the same failure and the same overflows, and the states left agree again
(`Preprocessor.agrees_of_preprocess`). Each line is expanded in the same way because the bodies
alone decide which macro applies, and definitions, here and in included files, keep states in
agreement.
-/

set_option autoImplicit false

namespace ShaderSyntax

/-- The states have the same body for every name, whatever the order of their macros, and recorded
the same overflows. -/
structure MacroState.Agrees (state other : MacroState) : Prop where
  macros : state.macros.Agrees other.macros
  overflows : state.overflows = other.overflows

namespace MacroState.Agrees

variable {state other : MacroState}

/-- States that agree do so after the same definition. -/
theorem define (agrees : state.Agrees other) (name body : List Char) :
    (state.define name body).Agrees (other.define name body) :=
  ⟨agrees.macros.define name body, agrees.overflows⟩

/-- States that agree do so after the same overflow. -/
theorem record (agrees : state.Agrees other) (overflow : ExpansionOverflow) :
    (state.record overflow).Agrees (other.record overflow) := by
  refine ⟨agrees.macros, ?_⟩
  rw [MacroState.record, MacroState.record, agrees.overflows]

end MacroState.Agrees

namespace Preprocessing

/-- From states that agree the computations end with the same text or failure, in states that
agree. -/
def Indifferent (first second : Preprocessing (List Char)) : Prop :=
  ∀ ⦃state other⦄, state.Agrees other →
    (first.run state).1 = (second.run other).1 ∧ (first.run state).2.Agrees (second.run other).2

/-- Computations in a row are indifferent if each is. -/
theorem Indifferent.append {first first' second second' : Preprocessing (List Char)}
    (front : Indifferent first first') (back : Indifferent second second') :
    Indifferent
      (do
        let front ← first
        let back ← second
        return front ++ back)
      (do
        let front ← first'
        let back ← second'
        return front ++ back) := by
  intro state other agrees
  obtain ⟨same, between⟩ := front agrees
  rw [run_append, run_append]
  generalize first.run state = outcome at same between ⊢
  generalize first'.run other = outcome' at same between ⊢
  obtain ⟨result, after⟩ := outcome
  obtain ⟨result', after'⟩ := outcome'
  obtain rfl : result = result' := same
  cases result with
  | error error => exact ⟨rfl, between⟩
  | ok text =>
    obtain ⟨same, final⟩ := back between
    simp only
    generalize second.run after = outcome at same final ⊢
    generalize second'.run after' = outcome' at same final ⊢
    obtain ⟨result, last⟩ := outcome
    obtain ⟨result', last'⟩ := outcome'
    obtain rfl : result = result' := same
    cases result with
    | error error => exact ⟨rfl, final⟩
    | ok more => exact ⟨rfl, final⟩

end Preprocessing

namespace Preprocessor

open Preprocessing

variable {state other : MacroState}

/-- States that agree expand a line in the same way and record the same limit. -/
theorem agrees_stateBehind (agrees : state.Agrees other) (options : PreprocessOptions)
    (path : String) (number : Nat) (line : List Char) :
    expansionOf options state line = expansionOf options other line ∧
      (stateBehind options path number state line).Agrees
        (stateBehind options path number other line) := by
  have same : expansionOf options state line = expansionOf options other line :=
    agrees.macros.expandLine options.maxSteps options.maxPasses line
  refine ⟨same, ?_⟩
  rw [stateBehind, stateBehind, same]
  cases (expansionOf options other line).stopped with
  | none => exact agrees
  | some limit => exact agrees.record _

/-- All parts of preprocessing are indifferent to the order of macros. -/
theorem comparable_indifferent (options : PreprocessOptions) :
    Comparable options options Indifferent where
  nothing := fun _ _ agrees => ⟨rfl, agrees⟩
  append := Indifferent.append
  line := by
    intro path number line state other agrees
    obtain ⟨same, behind⟩ := agrees_stateBehind agrees options path number line
    rw [run_bind, run_bind, run_expandLine, run_expandLine, same]
    exact ⟨rfl, behind⟩
  define := fun name body _ _ agrees => ⟨rfl, agrees.define name body⟩
  failure := fun _ _ _ agrees => ⟨rfl, agrees⟩

/-- The order in which macros were registered does not matter. From two states in which the same
names stand for the same bodies and the same overflows are recorded, a text gives the same output or
the same failure; the same overflows are recorded, and again the same names stand for the same
bodies. -/
theorem agrees_of_preprocess (preprocessor : Preprocessor) (state other : MacroState)
    (path text : String) (macros : ∀ name, state.macros.get? name = other.macros.get? name)
    (overflows : state.overflows = other.overflows) :
    (preprocessor.preprocess state path text).1 = (preprocessor.preprocess other path text).1 ∧
    (preprocessor.preprocess state path text).2.overflows =
      (preprocessor.preprocess other path text).2.overflows ∧
    ∀ name, (preprocessor.preprocess state path text).2.macros.get? name =
      (preprocessor.preprocess other path text).2.macros.get? name := by
  have whole : Indifferent
      (expandText preprocessor.loader preprocessor.options preprocessor.options.maxDepth path
        text.toList)
      (expandText preprocessor.loader preprocessor.options preprocessor.options.maxDepth path
        text.toList) := by
    refine (comparable_indifferent preprocessor.options).expandText 0 ?_ _ path _
    exact fun path number target => (comparable_indifferent preprocessor.options).failure _
  obtain ⟨same, final⟩ := whole ⟨macros, overflows⟩
  rw [preprocess_eq, preprocess_eq]
  refine ⟨?_, final.overflows, final.macros⟩
  rw [Prod.map_fst, Prod.map_fst, same]

/-- Two macros registered in one order and in the other. A file that is included defines a third one
and is read with either order, one of the two is defined anew, and the last line runs into the limit
of four passes. -/
theorem agrees_of_preprocess_reordered :
    let preprocessor : Preprocessor := ⟨fun path =>
      if path = "more.glsl" then .ok "#define AC AB\nAC;" else .error (.missing path), ⟨4, 20, 4⟩⟩
    let before : ExpansionOverflow := ⟨"before", 7, 3, .passes⟩
    let state : MacroState := ⟨(MacroTable.empty.define "A".toList "1".toList).define "AB".toList
      "A2".toList, [before]⟩
    let other : MacroState := ⟨(MacroTable.empty.define "AB".toList "A2".toList).define "A".toList
      "1".toList, [before]⟩
    let text := "#include 'more.glsl'\nAB A;\n#define A AA\nA"
    let output := "12;\n12 1;\nAAAAAAAAAAAAAAAA\n"
    state.macros.names ≠ other.macros.names ∧
      (∀ name, state.macros.get? name = other.macros.get? name) ∧
      ∃ final final', preprocessor.preprocess state "main" text = (.ok output, final) ∧
        preprocessor.preprocess other "main" text = (.ok output, final') ∧
        final.overflows = [before, ⟨"main", 4, 4, .passes⟩] ∧
        final.overflows = final'.overflows ∧
        ∀ name, final.macros.get? name = final'.macros.get? name := by
  intro preprocessor before state other text output
  have macros : ∀ name, state.macros.get? name = other.macros.get? name :=
    MacroTable.agrees_define_comm .empty "1".toList "A2".toList (by decide)
  obtain ⟨same, overflows, bodies⟩ :=
    agrees_of_preprocess preprocessor state other "main" text macros rfl
  have done : (preprocessor.preprocess state "main" text).1.toOption = some output := by
    decide +kernel
  have done_too : (preprocessor.preprocess other "main" text).1.toOption = some output := by
    rw [← same, done]
  have recorded : (preprocessor.preprocess state "main" text).2.overflows =
      [before, ⟨"main", 4, 4, .passes⟩] := by decide +kernel
  exact ⟨by decide +kernel, macros, (preprocessor.preprocess state "main" text).2,
    (preprocessor.preprocess other "main" text).2, eq_ok_of_toOption done rfl,
    eq_ok_of_toOption done_too rfl, recorded, overflows, bodies⟩

end Preprocessor

end ShaderSyntax
