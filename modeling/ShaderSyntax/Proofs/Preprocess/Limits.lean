import ShaderSyntax.Proofs.Preprocess.Comparison
import ShaderSyntax.Proofs.Preprocess.PlainLines

/-!
# Higher limits

A run that meets no limit does not depend on the limits: with more passes, more steps and more
levels of inclusion it gives the same output, or fails with the same missing or unreadable file, and
leaves the same state (`Preprocessor.preprocess_of_le`). A run meets a limit where it records an
overflow or where no level of inclusion is left. Since overflows are only ever added, a run that
ends with the overflows it started with has added none on the way, so each of its parts met no limit
either; this is what carries the argument through lines and included files (`Persists.append`).
-/

set_option autoImplicit false

namespace ShaderSyntax

/-- Whether a failure says that no level of inclusion was left. -/
def PreprocessError.isTooDeep : PreprocessError → Bool
  | .tooDeep _ _ _ _ => true
  | _ => false

/-- A run from a state on that met no limit: it recorded no overflow, and if it failed, then not for
want of a level of inclusion. -/
structure MacroState.Unlimited {α : Type} (state : MacroState)
    (outcome : Except PreprocessError α × MacroState) : Prop where
  overflows : outcome.2.overflows = state.overflows
  levels : ∀ error, outcome.1 = .error error → error.isTooDeep = false

namespace Preprocessing

/-- The first computation only adds overflows, and where it meets no limit, the second one does the
same. -/
structure Persists (first second : Preprocessing (List Char)) : Prop where
  adds : ∀ state, state.overflows <+: (first.run state).2.overflows
  same : ∀ state, state.Unlimited (first.run state) → second.run state = first.run state

/-- Computations in a row persist if each does. -/
theorem Persists.append {first first' second second' : Preprocessing (List Char)}
    (front : Persists first first') (back : Persists second second') :
    Persists
      (do
        let front ← first
        let back ← second
        return front ++ back)
      (do
        let front ← first'
        let back ← second'
        return front ++ back) := by
  refine ⟨fun state => ?_, fun state unlimited => ?_⟩
  · have added := front.adds state
    rw [run_append]
    generalize first.run state = outcome at added ⊢
    obtain ⟨error | text, between⟩ := outcome
    · exact added
    · have more := back.adds between
      simp only
      generalize second.run between = outcome at more ⊢
      obtain ⟨error | text, final⟩ := outcome <;> exact added.trans more
  · have added := front.adds state
    have persists := front.same state
    rw [run_append] at unlimited ⊢
    rw [run_append]
    generalize first.run state = outcome at added persists unlimited ⊢
    obtain ⟨error | text, between⟩ := outcome
    · rw [persists ⟨unlimited.overflows, unlimited.levels⟩]
    · have more := back.adds between
      have persists_behind := back.same between
      simp only at unlimited ⊢
      generalize second.run between = outcome at more persists_behind unlimited ⊢
      obtain ⟨result, final⟩ := outcome
      -- nothing was added in the end, so nothing was added up to the point between the parts
      have kept : final.overflows = state.overflows := by
        cases result <;> exact unlimited.overflows
      have kept_front : between.overflows = state.overflows := by
        refine (added.eq_of_length_le ?_).symm
        rw [← kept]
        exact more.length_le
      have same_front : first'.run state = (.ok text, between) :=
        persists ⟨kept_front, fun error failed => by simp at failed⟩
      have same_back : second'.run between = (result, final) := by
        refine persists_behind ⟨kept.trans kept_front.symm, fun error failed => ?_⟩
        subst failed
        exact unlimited.levels error rfl
      rw [same_front]
      simp only
      rw [same_back]

end Preprocessing

namespace Preprocessor

open Preprocessing

variable {options higher : PreprocessOptions} {loader : SourceLoader}

/-- Expanding a line only adds overflows. -/
theorem overflows_prefix_stateBehind (options : PreprocessOptions) (path : String) (number : Nat)
    (state : MacroState) (line : List Char) :
    state.overflows <+: (stateBehind options path number state line).overflows := by
  unfold stateBehind
  split
  · exact List.prefix_refl _
  · exact List.prefix_append _ _

/-- A line that meets no limit is expanded to the same text under higher limits. -/
theorem run_expandLine_of_le (passes : options.maxPasses ≤ higher.maxPasses)
    (steps : options.maxSteps ≤ higher.maxSteps) (path : String) (number : Nat) (line : List Char)
    (state : MacroState)
    (unlimited : (stateBehind options path number state line).overflows = state.overflows) :
    (expandLine higher path number line).run state =
      (expandLine options path number line).run state := by
  obtain ⟨settled, unchanged⟩ := stateBehind_eq_iff.mp unlimited
  have same : expansionOf higher state line = expansionOf options state line :=
    MacroTable.expandLine_of_le settled steps passes
  have unchanged_too : stateBehind higher path number state line = state := by
    rw [stateBehind, same, settled]
  rw [run_expandLine, run_expandLine, same, unchanged, unchanged_too]

/-- All parts of preprocessing persist under higher limits. -/
theorem comparable_persists (passes : options.maxPasses ≤ higher.maxPasses)
    (steps : options.maxSteps ≤ higher.maxSteps) : Comparable options higher Persists where
  nothing := ⟨fun _ => List.prefix_refl _, fun _ _ => rfl⟩
  append := Persists.append
  line := by
    intro path number line
    refine ⟨fun state => ?_, fun state unlimited => ?_⟩
    · rw [run_bind, run_expandLine]
      exact overflows_prefix_stateBehind options path number state line
    · rw [run_bind, run_expandLine] at unlimited
      have same := run_expandLine_of_le passes steps path number line state unlimited.overflows
      rw [run_bind, run_bind, same]
  define := fun name body => ⟨fun _ => List.prefix_refl _, fun _ _ => rfl⟩
  failure := fun error => ⟨fun _ => List.prefix_refl _, fun _ _ => rfl⟩

/-- Where no level of inclusion is left, a run meets a limit. -/
theorem persists_of_tooDeep (target path : String) (number limit : Nat)
    (other : Preprocessing (List Char)) :
    Persists (throw (.tooDeep target path number limit)) other := by
  refine ⟨fun _ => List.prefix_refl _, fun state unlimited => ?_⟩
  have deep := unlimited.levels (.tooDeep target path number limit) rfl
  contradiction

/-- A text whose preprocessing meets no limit is preprocessed the same way under higher limits. -/
theorem preprocess_eq_of_unlimited (passes : options.maxPasses ≤ higher.maxPasses)
    (steps : options.maxSteps ≤ higher.maxSteps) (depth : options.maxDepth ≤ higher.maxDepth)
    {state : MacroState} {path text : String}
    (unlimited : state.Unlimited ((⟨loader, options⟩ : Preprocessor).preprocess state path text)) :
    (⟨loader, higher⟩ : Preprocessor).preprocess state path text =
      (⟨loader, options⟩ : Preprocessor).preprocess state path text := by
  obtain ⟨extra, more⟩ := Nat.exists_eq_add_of_le depth
  have whole : Persists (expandText loader options options.maxDepth path text.toList)
      (expandText loader higher higher.maxDepth path text.toList) := by
    rw [more]
    refine (comparable_persists passes steps).expandText extra ?_ options.maxDepth path text.toList
    exact fun path number target => persists_of_tooDeep target path number options.maxDepth _
  rw [preprocess_eq] at unlimited ⊢
  rw [preprocess_eq]
  have unlimited_chars : state.Unlimited
      ((expandText loader options options.maxDepth path text.toList).run state) := by
    refine ⟨unlimited.overflows, fun error failed => unlimited.levels error ?_⟩
    rw [Prod.map_fst, failed]
    rfl
  rw [whole.same state unlimited_chars]

/-- Limits that a run does not meet do not matter. If preprocessing a text succeeds and records no
overflow, it gives the same output and leaves the same state when more passes, more steps and more
levels of inclusion are allowed; and if, with no overflow recorded, it fails for a file that is
missing or cannot be read, it fails in the same way and leaves the same state. -/
theorem preprocess_of_le (loader : SourceLoader) (options higher : PreprocessOptions)
    (passes : options.maxPasses ≤ higher.maxPasses) (steps : options.maxSteps ≤ higher.maxSteps)
    (depth : options.maxDepth ≤ higher.maxDepth) (state : MacroState) (path text : String) :
    (∀ output final, (⟨loader, options⟩ : Preprocessor).preprocess state path text =
        (.ok output, final) → final.overflows = state.overflows →
      (⟨loader, higher⟩ : Preprocessor).preprocess state path text = (.ok output, final)) ∧
    (∀ target source line final, (⟨loader, options⟩ : Preprocessor).preprocess state path text =
        (.error (.includeNotFound target source line), final) →
      final.overflows = state.overflows →
      (⟨loader, higher⟩ : Preprocessor).preprocess state path text =
        (.error (.includeNotFound target source line), final)) ∧
    (∀ target cause final, (⟨loader, options⟩ : Preprocessor).preprocess state path text =
        (.error (.unreadable target cause), final) → final.overflows = state.overflows →
      (⟨loader, higher⟩ : Preprocessor).preprocess state path text =
        (.error (.unreadable target cause), final)) := by
  have unchanged : ∀ result final, (⟨loader, options⟩ : Preprocessor).preprocess state path text =
      (result, final) → final.overflows = state.overflows →
      (∀ error, result = .error error → error.isTooDeep = false) →
      (⟨loader, higher⟩ : Preprocessor).preprocess state path text = (result, final) := by
    intro result final ran kept levels
    rw [preprocess_eq_of_unlimited passes steps depth (ran ▸ ⟨kept, levels⟩), ran]
  refine ⟨?_, ?_, ?_⟩
  · intro output final ran kept
    exact unchanged _ _ ran kept fun error failed => by contradiction
  · intro target source line final ran kept
    refine unchanged _ _ ran kept fun error failed => ?_
    rw [← Except.error.inj failed]
    rfl
  · intro target cause final ran kept
    refine unchanged _ _ ran kept fun error failed => ?_
    rw [← Except.error.inj failed]
    rfl

/-- A file of definitions, one that cannot be read, and no others. -/
def definingFiles : SourceLoader := fun path =>
  if path = "names.glsl" then .ok "#define N M\n#define M 4"
  else if path = "locked.glsl" then .error (.unreadable "permission denied")
  else .error (.missing path)

/-- Three passes, two steps and one level are just enough, and the standard limits change nothing:
not the output, and not the failures for a file that is missing and for one that cannot be read. -/
theorem preprocess_of_le_exact :
    let tight : Preprocessor := ⟨definingFiles, ⟨3, 2, 1⟩⟩
    let standard : Preprocessor := ⟨definingFiles, .standard⟩
    let final : MacroState := ⟨⟨[⟨"N".toList, "M".toList⟩, ⟨"M".toList, "4".toList⟩]⟩, []⟩
    let text := "#include 'names.glsl'\nN;"
    let lost := "#include 'names.glsl'\n#include none.glsl"
    let barred := "#include 'names.glsl'\n#include \"locked.glsl\""
    3 ≤ standard.options.maxPasses ∧ 2 ≤ standard.options.maxSteps ∧
      1 ≤ standard.options.maxDepth ∧
      tight.preprocess .empty "main" text = (.ok "4;\n", final) ∧
      standard.preprocess .empty "main" text = (.ok "4;\n", final) ∧
      tight.preprocess .empty "main" lost =
        (.error (.includeNotFound "none.glsl" "main" 2), final) ∧
      standard.preprocess .empty "main" lost =
        (.error (.includeNotFound "none.glsl" "main" 2), final) ∧
      tight.preprocess .empty "main" barred =
        (.error (.unreadable "locked.glsl" "permission denied"), final) ∧
      standard.preprocess .empty "main" barred =
        (.error (.unreadable "locked.glsl" "permission denied"), final) := by
  intro tight standard final text lost barred
  have passes : 3 ≤ standard.options.maxPasses := by decide
  have steps : 2 ≤ standard.options.maxSteps := by decide
  have depth : 1 ≤ standard.options.maxDepth := by decide
  have done : tight.preprocess .empty "main" text = (.ok "4;\n", final) :=
    eq_ok_of_toOption (by decide +kernel) (by decide +kernel)
  have missing : tight.preprocess .empty "main" lost =
      (.error (.includeNotFound "none.glsl" "main" 2), final) :=
    eq_error_of_ofResult? (by decide +kernel) (by decide +kernel)
  have unreadable : tight.preprocess .empty "main" barred =
      (.error (.unreadable "locked.glsl" "permission denied"), final) :=
    eq_error_of_ofResult? (by decide +kernel) (by decide +kernel)
  have unchanged := preprocess_of_le definingFiles ⟨3, 2, 1⟩ .standard passes steps depth .empty
    "main"
  exact ⟨passes, steps, depth, done, (unchanged text).1 _ _ done rfl, missing,
    (unchanged lost).2.1 _ _ _ _ missing rfl, unreadable,
    (unchanged barred).2.2 _ _ _ unreadable rfl⟩

end Preprocessor

end ShaderSyntax
