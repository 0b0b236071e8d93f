import ShaderSyntax.Preprocess.Basic

/-!
# Inclusion is textual splicing

An inclusion stands for the lines of its target: a text that is preprocessed without failure gives
the same output when the lines of included files are put in the place of the inclusions, all of them
or some, at any depth. Since a text is preprocessed line by line through one state, the lines before
an inclusion, the included file and the lines behind it may as well be preprocessed one after the
other (`Preprocessor.splice_inclusion`).

The names of files and the numbers of lines are lost when lines move, and both stand in the records
of overflows. So states are compared up to these (`MacroState.Alike`), and a computation stands in
for another if it does the same on such states (`Preprocessing.Reproduces`). Lines that move may be
preprocessed with more levels of inclusion left than before, which changes no successful run
(`reproduces_expandText`).
-/

set_option autoImplicit false

namespace ShaderSyntax

/-! ## States up to the places of overflows -/

/-- What an overflow says apart from its place. -/
def ExpansionOverflow.reached (overflow : ExpansionOverflow) : Nat × ExpansionLimit :=
  (overflow.limit, overflow.kind)

/-- The states have the same macros, in the same order, and recorded the same overflows, in the same
order, but perhaps at other places. -/
structure MacroState.Alike (state other : MacroState) : Prop where
  macros : state.macros = other.macros
  overflows : state.overflows.map ExpansionOverflow.reached =
    other.overflows.map ExpansionOverflow.reached

namespace MacroState.Alike

variable {state other : MacroState}

/-- A state is like itself. -/
@[refl] theorem refl (state : MacroState) : state.Alike state := ⟨rfl, rfl⟩

/-- States that are alike are so after the same definition. -/
theorem define (alike : state.Alike other) (name body : List Char) :
    (state.define name body).Alike (other.define name body) :=
  ⟨congrArg (·.define name body) alike.macros, alike.overflows⟩

/-- States that are alike are so after overflows of the same limit and kind, wherever these
happened. -/
theorem record (alike : state.Alike other) {overflow moved : ExpansionOverflow}
    (same : overflow.reached = moved.reached) :
    (state.record overflow).Alike (other.record moved) := by
  refine ⟨alike.macros, ?_⟩
  simp only [MacroState.record, List.map_append, List.map_cons, List.map_nil, alike.overflows, same]

end MacroState.Alike

/-! ## Successful runs -/

namespace Preprocessing

variable {α β : Type}

/-- The computation succeeds from `state` on with a value, and leaves `final`. -/
def Gives (computation : Preprocessing α) (state : MacroState) (value : α) (final : MacroState) :
    Prop :=
  computation.run state = (.ok value, final)

/-- A value that is returned is given at once. -/
theorem gives_pure {value result : α} {state final : MacroState} :
    (pure value : Preprocessing α).Gives state result final ↔ value = result ∧ state = final := by
  constructor
  · intro h
    cases h
    exact ⟨rfl, rfl⟩
  · rintro ⟨rfl, rfl⟩
    rfl

/-- The second part of a computation runs with what the first left, if the first succeeds. -/
theorem run_bind (first : Preprocessing α) (next : α → Preprocessing β) (state : MacroState) :
    (first >>= next).run state =
      match first.run state with
      | (.ok value, between) => (next value).run between
      | (.error error, between) => (.error error, between) := by
  rw [ExceptT.run_bind]
  change (StateT.bind first.run _) state = _
  unfold StateT.bind
  generalize first.run state = outcome
  obtain ⟨result | value, between⟩ := outcome <;> rfl

/-- A computation in two parts succeeds if both do, the second with what the first left. -/
theorem gives_bind {first : Preprocessing α} {next : α → Preprocessing β} {result : β}
    {state final : MacroState} :
    (first >>= next).Gives state result final ↔
      ∃ value between, first.Gives state value between ∧
        (next value).Gives between result final := by
  unfold Gives
  rw [run_bind]
  constructor
  · intro h
    split at h
    case h_1 value between ran => exact ⟨value, between, ran, h⟩
    case h_2 => cases h
  · rintro ⟨value, between, ran, rest⟩
    rw [ran]
    exact rest

/-- Two computations that write one behind the other. -/
theorem gives_append {first second : Preprocessing (List Char)} {chars : List Char}
    {state final : MacroState} :
    (do
      let front ← first
      let back ← second
      return front ++ back : Preprocessing (List Char)).Gives state chars final ↔
      ∃ front back between, first.Gives state front between ∧ second.Gives between back final ∧
        chars = front ++ back := by
  constructor
  · intro ran
    obtain ⟨front, between, ran_first, ran⟩ := gives_bind.mp ran
    obtain ⟨back, _, ran_second, ran⟩ := gives_bind.mp ran
    obtain ⟨rfl, rfl⟩ := gives_pure.mp ran
    exact ⟨front, back, between, ran_first, ran_second, rfl⟩
  · rintro ⟨front, back, between, ran_first, ran_second, rfl⟩
    exact gives_bind.mpr ⟨front, between, ran_first, gives_bind.mpr
      ⟨back, final, ran_second, gives_pure.mpr ⟨rfl, rfl⟩⟩⟩

/-- A failure gives no value. -/
theorem not_gives_throw {error : PreprocessError} {value : α} {state final : MacroState} :
    ¬ (throw error : Preprocessing α).Gives state value final := by
  intro h
  cases h

/-- The second computation does whatever the first does when it succeeds, up to the places of
overflows. -/
def Reproduces (computation other : Preprocessing α) : Prop :=
  ∀ ⦃state value final⦄, computation.Gives state value final →
    ∀ ⦃start⦄, state.Alike start →
      ∃ stop, other.Gives start value stop ∧ final.Alike stop

namespace Reproduces

/-- Returning a value reproduces itself. -/
theorem pure (value : α) : Reproduces (Pure.pure value) (Pure.pure value) := by
  intro state result final gives start alike
  obtain ⟨rfl, rfl⟩ := gives_pure.mp gives
  exact ⟨start, gives_pure.mpr ⟨rfl, rfl⟩, alike⟩

/-- Computations in a row are reproduced step by step. -/
theorem bind {first first' : Preprocessing α} {next next' : α → Preprocessing β}
    (start : Reproduces first first') (rest : ∀ value, Reproduces (next value) (next' value)) :
    Reproduces (first >>= next) (first' >>= next') := by
  intro state result final gives other alike
  obtain ⟨value, between, ran, more⟩ := gives_bind.mp gives
  obtain ⟨between', ran', alike⟩ := start ran alike
  obtain ⟨stop, more', alike⟩ := rest value more alike
  exact ⟨stop, gives_bind.mpr ⟨value, between', ran', more'⟩, alike⟩

/-- A failure need not be reproduced. -/
theorem throw (error : PreprocessError) (other : Preprocessing α) :
    Reproduces (MonadExcept.throw error) other :=
  fun _ _ _ gives => absurd gives not_gives_throw

/-- Defining a macro reproduces itself. -/
theorem define (name body : List Char) :
    Reproduces (modify (·.define name body)) (modify (·.define name body)) := by
  intro state value final gives start alike
  cases gives
  exact ⟨start.define name body, rfl, alike.define name body⟩

end Reproduces

end Preprocessing

namespace Preprocessor

open Preprocessing

variable {loader : SourceLoader} {options : PreprocessOptions}

/-! ## Lines elsewhere -/

/-- What a line is expanded to with the macros of a state. -/
def expansionOf (options : PreprocessOptions) (state : MacroState) (line : List Char) : Expansion :=
  state.macros.expandLine options.maxSteps options.maxPasses line

/-- The state behind a line: a limit that stopped its expansion is recorded. -/
def stateBehind (options : PreprocessOptions) (path : String) (number : Nat) (state : MacroState)
    (line : List Char) : MacroState :=
  match (expansionOf options state line).stopped with
  | none => state
  | some limit => state.record ⟨path, number, limitOf options limit, limit⟩

/-- The macros alone decide what a line is expanded to and whether something is recorded. -/
theorem gives_expandLine {path : String} {number : Nat} {line chars : List Char}
    {state final : MacroState} :
    (expandLine options path number line).Gives state chars final ↔
      (expansionOf options state line).text = chars ∧
        stateBehind options path number state line = final := by
  have reads : (get : Preprocessing MacroState).Gives state state state := rfl
  unfold expandLine stateBehind
  rw [gives_bind]
  constructor
  · rintro ⟨_, _, read, gives⟩
    cases read
    rw [← expansionOf] at gives
    cases expansion : expansionOf options state line with
    | mk text stopped =>
      rw [expansion] at gives
      cases stopped with
      | none => exact gives_pure.mp gives
      | some limit =>
        obtain ⟨_, _, recorded, gives⟩ := gives_bind.mp gives
        cases recorded
        exact gives_pure.mp gives
  · rintro ⟨rfl, rfl⟩
    refine ⟨state, state, reads, ?_⟩
    rw [← expansionOf]
    cases expansionOf options state line with
    | mk text stopped =>
      cases stopped with
      | none => exact gives_pure.mpr ⟨rfl, rfl⟩
      | some limit => exact gives_bind.mpr ⟨_, _, rfl, gives_pure.mpr ⟨rfl, rfl⟩⟩

/-- A line is expanded the same way wherever it stands. -/
theorem reproduces_expandLine (path path' : String) (number number' : Nat) (line : List Char) :
    Reproduces (expandLine options path number line) (expandLine options path' number' line) := by
  intro state value final gives start alike
  obtain ⟨text, behind⟩ := gives_expandLine.mp gives
  have same : expansionOf options state line = expansionOf options start line := by
    rw [expansionOf, expansionOf, alike.macros]
  rw [same] at text
  refine ⟨_, gives_expandLine.mpr ⟨text, rfl⟩, ?_⟩
  rw [← behind, stateBehind, stateBehind, same]
  cases (expansionOf options start line).stopped with
  | none => exact alike
  | some limit => exact alike.record rfl

variable {splice splice' : Nat → String → Preprocessing (List Char)}

/-- A line is replaced by the same text wherever it stands, if inclusions are. -/
theorem reproduces_expandOne
    (inclusions : ∀ number number' target,
      Reproduces (splice number target) (splice' number' target))
    (path path' : String) (number number' : Nat) (line : List Char) :
    Reproduces (expandOne options path splice number line)
      (expandOne options path' splice' number' line) := by
  unfold expandOne
  cases Directive.ofLine? line with
  | none => exact (reproduces_expandLine path path' number number' line).bind fun _ => .pure _
  | some directive =>
    cases directive with
    | define name body => exact (Reproduces.define name body).bind fun _ => .pure _
    | inclusion target => exact inclusions number number' (String.ofList target)
    | ignored => exact .pure _

/-- Lines are replaced by the same text wherever they stand, if inclusions are. -/
theorem reproduces_expandLines
    (inclusions : ∀ number number' target,
      Reproduces (splice number target) (splice' number' target))
    (path path' : String) (number number' : Nat) (lines : List (List Char)) :
    Reproduces (expandLines options path splice number lines)
      (expandLines options path' splice' number' lines) := by
  induction lines generalizing number number' with
  | nil => exact .pure _
  | cons line lines ih =>
    exact (reproduces_expandOne inclusions path path' number number' line).bind fun _ =>
      (ih (number + 1) (number' + 1)).bind fun _ => .pure _

/-- Lines in a row are gone through one after the other. -/
theorem expandLines_append (path : String) (number : Nat) (front back : List (List Char)) :
    expandLines options path splice number (front ++ back) = do
      let first ← expandLines options path splice number front
      let second ← expandLines options path splice (number + front.length) back
      return first ++ second := by
  induction front generalizing number with
  | nil => simp [expandLines]
  | cons line front ih =>
    simp only [List.cons_append, expandLines, ih, List.length_cons, bind_assoc, pure_bind,
      List.append_assoc]
    rw [show number + 1 + front.length = number + (front.length + 1) by omega]

/-! ## Inclusions at other levels -/

/-- What an inclusion in a file named `path` is replaced by, if inclusions may lie `levels` deep. -/
def inclusionAt (loader : SourceLoader) (options : PreprocessOptions) (path : String) :
    Nat → Nat → String → Preprocessing (List Char)
  | 0, number, target => throw (.tooDeep target path number options.maxDepth)
  | levels + 1, number, target =>
    match loader target with
    | .ok included => expandText loader options levels target included.toList
    | .error (.missing _) => throw (.includeNotFound target path number)
    | .error (.unreadable cause) => throw (.unreadable target cause)

/-- A text is gone through line by line. -/
theorem expandText_eq (levels : Nat) (path : String) (text : List Char) :
    expandText loader options levels path text =
      expandLines options path (inclusionAt loader options path levels) 1 (Text.lines text) := by
  cases levels <;> rfl

/-- With a level more on both sides, an inclusion is replaced as included texts are. -/
theorem reproduces_inclusionAt_succ {levels more : Nat}
    (texts : ∀ target text, Reproduces (expandText loader options levels target text)
      (expandText loader options more target text))
    (path path' : String) (number number' : Nat) (target : String) :
    Reproduces (inclusionAt loader options path (levels + 1) number target)
      (inclusionAt loader options path' (more + 1) number' target) := by
  simp only [inclusionAt]
  cases loader target with
  | ok included => exact texts target included.toList
  | error fault => cases fault <;> exact .throw _ _

/-- A text is preprocessed the same way with more levels of inclusion left, under any name. -/
theorem reproduces_expandText {levels more : Nat} (le : levels ≤ more) (path path' : String)
    (text : List Char) :
    Reproduces (expandText loader options levels path text)
      (expandText loader options more path' text) := by
  induction levels generalizing more path path' text with
  | zero =>
    rw [expandText_eq, expandText_eq]
    exact reproduces_expandLines (fun _ _ _ => .throw _ _) path path' 1 1 _
  | succ levels ih =>
    cases more with
    | zero => exact absurd le (Nat.not_succ_le_zero levels)
    | succ more =>
      rw [expandText_eq, expandText_eq]
      refine reproduces_expandLines (fun number number' target => ?_) path path' 1 1 _
      exact reproduces_inclusionAt_succ
        (fun target text => ih (Nat.le_of_succ_le_succ le) target target text)
        path path' number number' target

/-- An inclusion is replaced by the same text with more levels left, in any file and line. -/
theorem reproduces_inclusionAt {levels more : Nat} (le : levels ≤ more) (path path' : String)
    (number number' : Nat) (target : String) :
    Reproduces (inclusionAt loader options path levels number target)
      (inclusionAt loader options path' more number' target) := by
  cases levels with
  | zero => exact .throw _ _
  | succ levels =>
    cases more with
    | zero => exact absurd le (Nat.not_succ_le_zero levels)
    | succ more =>
      exact reproduces_inclusionAt_succ
        (fun target text => reproduces_expandText (Nat.le_of_succ_le_succ le) target target text)
        path path' number number' target

end Preprocessor

/-! ## Splicing -/

/-- Of lines in a text below which inclusions may lie `levels` deep, some inclusions are replaced by
the lines of their targets, in which inclusions may be replaced in turn. -/
inductive Spliced (loader : SourceLoader) : Nat → List (List Char) → List (List Char) → Prop where
  | done {levels : Nat} : Spliced loader levels [] []
  | keep {levels : Nat} {lines spliced : List (List Char)} (line : List Char)
      (rest : Spliced loader levels lines spliced) :
      Spliced loader levels (line :: lines) (line :: spliced)
  | splice {levels : Nat} {line target : List Char} {included : String}
      {body lines spliced : List (List Char)}
      (inclusion : Directive.ofLine? line = some (.inclusion target))
      (loads : loader (String.ofList target) = .ok included)
      (inside : Spliced loader levels (Text.lines included.toList) body)
      (rest : Spliced loader (levels + 1) lines spliced) :
      Spliced loader (levels + 1) (line :: lines) (body ++ spliced)

namespace Spliced

variable {loader : SourceLoader} {levels : Nat} {lines spliced back back' : List (List Char)}

/-- All inclusions may be kept. -/
theorem refl (lines : List (List Char)) : Spliced loader levels lines lines := by
  induction lines with
  | nil => exact .done
  | cons line lines ih => exact .keep line ih

/-- Inclusions may be replaced in one part of the lines and in the other. -/
theorem append (front : Spliced loader levels lines spliced)
    (behind : Spliced loader levels back back') :
    Spliced loader levels (lines ++ back) (spliced ++ back') := by
  induction front with
  | done => exact behind
  | keep line _ ih => exact .keep line (ih behind)
  | splice inclusion loads inside _ _ ih =>
    rw [List.cons_append, List.append_assoc]
    exact .splice inclusion loads inside (ih behind)

/-- Splicing leaves lines. -/
theorem ne_nil (h : Spliced loader levels lines spliced) (some_line : lines ≠ []) :
    spliced ≠ [] := by
  induction h with
  | done => exact some_line
  | keep line _ _ => exact List.cons_ne_nil _ _
  | splice _ _ _ _ inside _ =>
    have some_body := inside (Text.lines_ne_nil _)
    simp [some_body]

/-- Splicing puts no line feed into a line. -/
theorem newline_not_mem (h : Spliced loader levels lines spliced)
    (clean : ∀ line ∈ lines, '\n' ∉ line) : ∀ line ∈ spliced, '\n' ∉ line := by
  induction h with
  | done => exact clean
  | keep line _ ih =>
    intro other mem
    rcases List.mem_cons.mp mem with rfl | mem
    · exact clean other List.mem_cons_self
    · exact ih (fun line mem => clean line (List.mem_cons_of_mem _ mem)) other mem
  | splice _ _ _ _ inside rest =>
    intro other mem
    rcases List.mem_append.mp mem with mem | mem
    · exact inside (Text.newline_not_mem_lines _) other mem
    · exact rest (fun line mem => clean line (List.mem_cons_of_mem _ mem)) other mem

end Spliced

namespace Preprocessor

open Preprocessing

variable {loader : SourceLoader} {options : PreprocessOptions}

/-- Lines with inclusions replaced are preprocessed as the lines with the inclusions are. -/
theorem reproduces_spliced {levels more : Nat} {lines spliced : List (List Char)}
    (h : Spliced loader levels lines spliced) (le : levels ≤ more) (path path' : String)
    (number number' : Nat) :
    Reproduces (expandLines options path (inclusionAt loader options path levels) number lines)
      (expandLines options path' (inclusionAt loader options path' more) number' spliced) := by
  induction h generalizing more path path' number number' with
  | done => exact .pure _
  | keep line _ ih =>
    refine (reproduces_expandOne ?_ path path' number number' line).bind fun _ =>
      (ih le path path' (number + 1) (number' + 1)).bind fun _ => .pure _
    exact fun number number' target =>
      reproduces_inclusionAt le path path' number number' target
  | @splice levels line target included body lines spliced inclusion loads _ _ inside rest =>
    rw [expandLines_append]
    have replaced : expandOne options path (inclusionAt loader options path (levels + 1)) number
        line = expandText loader options levels (String.ofList target) included.toList := by
      simp only [expandOne, inclusion, inclusionAt, loads]
    rw [expandLines, replaced, expandText_eq]
    exact (inside (Nat.le_of_succ_le le) (String.ofList target) path' 1 number').bind fun _ =>
      (rest le path path' (number + 1) (number' + body.length)).bind fun _ => .pure _

/-! ## Buffers -/

/-- The text that has the given lines. -/
def buffer (lines : List (List Char)) : String :=
  String.ofList (Text.joinLines lines)

/-- Preprocesses the text of a file that lies below `depth` inclusions. -/
def expandAt (preprocessor : Preprocessor) (depth : Nat) (path text : String) :
    Preprocessing String := do
  let chars ← expandText preprocessor.loader preprocessor.options
    (preprocessor.options.maxDepth - depth) path text.toList
  return String.ofList chars

/-- Preprocesses the text of a file below `depth` inclusions, from a macro state on; gives the text
or the failure, and the state after. -/
def preprocessAt (preprocessor : Preprocessor) (depth : Nat) (state : MacroState)
    (path text : String) : Except PreprocessError String × MacroState :=
  (preprocessor.expandAt depth path text).run state

/-- A text that is given to the preprocessor lies below no inclusions. -/
theorem preprocessAt_zero (preprocessor : Preprocessor) (state : MacroState) (path text : String) :
    preprocessor.preprocessAt 0 state path text = preprocessor.preprocess state path text := rfl

/-- Preprocesses lines as a text of their own; no lines make no text. -/
def preprocessLines (preprocessor : Preprocessor) (state : MacroState) (path : String) :
    List (List Char) → Except PreprocessError String × MacroState
  | [] => (.ok "", state)
  | line :: lines => preprocessor.preprocess state path (buffer (line :: lines))

variable {preprocessor : Preprocessor} {depth levels : Nat} {state final start : MacroState}
  {path output : String} {lines : List (List Char)} {chars : List Char}

/-- Preprocessing at a depth succeeds if expanding the text at that depth does, with the same text.
-/
theorem preprocessAt_eq_ok {text : String} :
    preprocessor.preprocessAt depth state path text = (.ok output, final) ↔
      ∃ chars, (expandText preprocessor.loader preprocessor.options
        (preprocessor.options.maxDepth - depth) path text.toList).Gives state chars final ∧
        output = String.ofList chars := by
  change (preprocessor.expandAt depth path text).Gives state output final ↔ _
  rw [expandAt, gives_bind]
  constructor
  · rintro ⟨chars, between, ran, made⟩
    obtain ⟨rfl, rfl⟩ := gives_pure.mp made
    exact ⟨chars, ran, rfl⟩
  · rintro ⟨chars, ran, rfl⟩
    exact ⟨chars, final, ran, gives_pure.mpr ⟨rfl, rfl⟩⟩

/-- A buffer is gone through line by line. -/
theorem preprocessAt_buffer (some_line : lines ≠ []) (clean : ∀ line ∈ lines, '\n' ∉ line) :
    preprocessor.preprocessAt depth state path (buffer lines) = (.ok output, final) ↔
      ∃ chars, (expandLines preprocessor.options path (inclusionAt preprocessor.loader
        preprocessor.options path (preprocessor.options.maxDepth - depth)) 1 lines).Gives
          state chars final ∧ output = String.ofList chars := by
  rw [preprocessAt_eq_ok, expandText_eq, buffer, String.toList_ofList,
    Text.lines_joinLines some_line clean]

/-- Lines that were gone through somewhere can be preprocessed on their own. -/
theorem preprocessLines_of_gives (le : levels ≤ preprocessor.options.maxDepth)
    (clean : ∀ line ∈ lines, '\n' ∉ line) {number : Nat}
    (ran : (expandLines preprocessor.options path (inclusionAt preprocessor.loader
      preprocessor.options path levels) number lines).Gives state chars final)
    (alike : state.Alike start) :
    ∃ stop, preprocessor.preprocessLines start path lines = (.ok (String.ofList chars), stop) ∧
      final.Alike stop := by
  cases lines with
  | nil =>
    obtain ⟨rfl, rfl⟩ := gives_pure.mp ran
    exact ⟨start, rfl, alike⟩
  | cons line lines =>
    obtain ⟨stop, moved, alike⟩ := reproduces_expandLines
      (reproduces_inclusionAt le path path) path path number 1 (line :: lines) ran alike
    refine ⟨stop, ?_, alike⟩
    rw [preprocessLines, ← preprocessAt_zero]
    exact (preprocessAt_buffer (by simp) clean).mpr ⟨chars, moved, rfl⟩

/-- A buffer with some inclusions replaced is preprocessed as the buffer with the inclusions is. -/
theorem preprocessAt_spliced {spliced : List (List Char)}
    (some_line : lines ≠ []) (clean : ∀ line ∈ lines, '\n' ∉ line)
    (h : Spliced preprocessor.loader (preprocessor.options.maxDepth - depth) lines spliced)
    (done : preprocessor.preprocessAt depth state path (buffer lines) = (.ok output, final)) :
    ∃ stop, preprocessor.preprocessAt depth state path (buffer spliced) = (.ok output, stop) ∧
      final.Alike stop := by
  obtain ⟨chars, ran, rfl⟩ := (preprocessAt_buffer some_line clean).mp done
  obtain ⟨stop, moved, alike⟩ :=
    reproduces_spliced h (Nat.le_refl _) path path 1 1 ran (MacroState.Alike.refl state)
  exact ⟨stop, (preprocessAt_buffer (h.ne_nil some_line) (h.newline_not_mem clean)).mpr
    ⟨chars, moved, rfl⟩, alike⟩

/-- A text that succeeds with an inclusion in it has a level of inclusions left. -/
theorem exists_levels_of_gives {line target : List Char} {number : Nat}
    (inclusion : Directive.ofLine? line = some (.inclusion target))
    (ran : (expandOne options path (inclusionAt loader options path levels) number line).Gives
      state chars final) : ∃ fewer, levels = fewer + 1 := by
  cases levels with
  | zero =>
    simp only [expandOne, inclusion, inclusionAt] at ran
    exact absurd ran not_gives_throw
  | succ fewer => exact ⟨fewer, rfl⟩

/-- An inclusion stands for the lines of its target. A text with an inclusion, itself below any
number of inclusions, that is preprocessed without failure gives what the lines before, the target
and the lines behind give when they are preprocessed one after the other; and its output, the macros
left and the overflows but for their places stay the same when the inclusion is replaced by the
target's lines, and also when inclusions in these lines or elsewhere are replaced in turn. -/
theorem splice_inclusion (preprocessor : Preprocessor) (depth : Nat) (state final : MacroState)
    (path output : String) (before behind : List (List Char)) (line target : List Char)
    (included : String) (clean : ∀ other ∈ before ++ line :: behind, '\n' ∉ other)
    (inclusion : Directive.ofLine? line = some (.inclusion target))
    (loads : preprocessor.loader (String.ofList target) = .ok included)
    (done : preprocessor.preprocessAt depth state path (buffer (before ++ line :: behind)) =
      (.ok output, final)) :
    (∃ first second third afterFirst afterSecond afterThird,
      preprocessor.preprocessLines state path before = (.ok first, afterFirst) ∧
      preprocessor.preprocess afterFirst (String.ofList target) included =
        (.ok second, afterSecond) ∧
      preprocessor.preprocessLines afterSecond path behind = (.ok third, afterThird) ∧
      output = first ++ second ++ third ∧ final.Alike afterThird) ∧
    (∃ stop, preprocessor.preprocessAt depth state path
        (buffer (before ++ Text.lines included.toList ++ behind)) = (.ok output, stop) ∧
      final.Alike stop) ∧
    ∀ spliced, Spliced preprocessor.loader (preprocessor.options.maxDepth - depth)
        (before ++ line :: behind) spliced →
      ∃ stop, preprocessor.preprocessAt depth state path (buffer spliced) = (.ok output, stop) ∧
        final.Alike stop := by
  have some_line : before ++ line :: behind ≠ [] := by simp
  obtain ⟨chars, ran, made⟩ := (preprocessAt_buffer some_line clean).mp done
  rw [expandLines_append] at ran
  obtain ⟨first, rest, afterFirst, ran_before, ran_rest, rfl⟩ := gives_append.mp ran
  rw [expandLines] at ran_rest
  obtain ⟨second, third, afterSecond, ran_line, ran_behind, rfl⟩ := gives_append.mp ran_rest
  obtain ⟨fewer, level⟩ := exists_levels_of_gives inclusion ran_line
  refine ⟨?_, preprocessAt_spliced some_line clean ?_ done, fun spliced h =>
    preprocessAt_spliced some_line clean h done⟩
  · have ran_target : (expandText preprocessor.loader preprocessor.options fewer
        (String.ofList target) included.toList).Gives afterFirst second afterSecond := by
      simpa only [expandOne, inclusion, level, inclusionAt, loads] using ran_line
    have below : fewer ≤ preprocessor.options.maxDepth - 0 := by omega
    obtain ⟨stop, done_before, alike⟩ := preprocessLines_of_gives (Nat.sub_le _ _)
      (fun other mem => clean other (List.mem_append_left _ mem)) ran_before (.refl state)
    obtain ⟨stop', ran_target, alike⟩ := reproduces_expandText below (String.ofList target)
      (String.ofList target) included.toList ran_target alike
    obtain ⟨stop'', done_behind, alike⟩ := preprocessLines_of_gives (Nat.sub_le _ _)
      (fun other mem => clean other (List.mem_append_right _ (List.mem_cons_of_mem _ mem)))
      ran_behind alike
    refine ⟨String.ofList first, String.ofList second, String.ofList third, stop, stop', stop'',
      done_before, ?_, done_behind, ?_, alike⟩
    · rw [← preprocessAt_zero]
      exact preprocessAt_eq_ok.mpr ⟨second, ran_target, rfl⟩
    · rw [made, String.ofList_append, String.ofList_append, String.append_assoc]
  · rw [level, List.append_assoc]
    exact (Spliced.refl before).append (.splice inclusion loads (.refl _) (.refl behind))

/-- An outcome is known from its output and the state left. -/
theorem eq_ok_of_toOption {outcome : Except PreprocessError String × MacroState}
    (text : outcome.1.toOption = some output) (left : outcome.2 = final) :
    outcome = (.ok output, final) := by
  obtain ⟨error | found, after⟩ := outcome
  · simp [Except.toOption] at text
  · simp only [Except.toOption, Option.some.injEq] at text left
    rw [text, left]

/-- Two files, one of which includes the other. -/
def sampleFiles : SourceLoader := fun path =>
  if path = "outer.glsl" then .ok "#include 'inner.glsl'\n#define M N N\nM"
  else if path = "inner.glsl" then .ok "#define N 4\nfloat y;\n"
  else .error (.missing path)

/-- Both inclusions are replaced at once; the line with `M` runs into the limit of two passes, at
another place than before. -/
theorem splice_inclusion_nested :
    let preprocessor : Preprocessor := ⟨sampleFiles, ⟨2, 20, 2⟩⟩
    let before := ["int a = N;".toList]
    let line := "#include \"outer.glsl\"".toList
    let behind := ["int x = N;".toList]
    let spliced := ["int a = N;".toList, "#define N 4".toList, "float y;".toList, [],
      "#define M N N".toList, "M".toList, "int x = N;".toList]
    let output := "int a = N;\nfloat y;\n\n4 4\nint x = 4;\n"
    let final : MacroState := ⟨⟨[⟨"N".toList, "4".toList⟩, ⟨"M".toList, "N N".toList⟩]⟩,
      [⟨"outer.glsl", 3, 2, .passes⟩]⟩
    preprocessor.preprocessAt 0 .empty "main.glsl" (buffer (before ++ line :: behind)) =
        (.ok output, final) ∧
      ∃ stop, preprocessor.preprocessAt 0 .empty "main.glsl" (buffer spliced) =
        (.ok output, stop) ∧ final.Alike stop := by
  intro preprocessor before line behind spliced output final
  have done : preprocessor.preprocessAt 0 .empty "main.glsl" (buffer (before ++ line :: behind)) =
      (.ok output, final) := by
    have text : (preprocessor.preprocessAt 0 .empty "main.glsl"
        (buffer (before ++ line :: behind))).1.toOption = some output := by decide +kernel
    have left : (preprocessor.preprocessAt 0 .empty "main.glsl"
        (buffer (before ++ line :: behind))).2 = final := by decide +kernel
    exact eq_ok_of_toOption text left
  have loads : sampleFiles (String.ofList "outer.glsl".toList) =
      .ok "#include 'inner.glsl'\n#define M N N\nM" := rfl
  have loads_inner : sampleFiles (String.ofList "inner.glsl".toList) =
      .ok "#define N 4\nfloat y;\n" := rfl
  have inclusion : Directive.ofLine? line = some (.inclusion "outer.glsl".toList) := by
    decide +kernel
  have inclusion_inner : Directive.ofLine? "#include 'inner.glsl'".toList =
      some (.inclusion "inner.glsl".toList) := by decide +kernel
  have inner : Spliced sampleFiles 1
      (Text.lines "#include 'inner.glsl'\n#define M N N\nM".toList)
      ["#define N 4".toList, "float y;".toList, [], "#define M N N".toList, "M".toList] :=
    .splice inclusion_inner loads_inner (.refl _) (.refl ["#define M N N".toList, "M".toList])
  have both : Spliced sampleFiles 2 (before ++ line :: behind) spliced :=
    .keep _ (.splice inclusion loads inner (.refl behind))
  exact ⟨done, (splice_inclusion preprocessor 0 .empty final "main.glsl" output before behind line
    "outer.glsl".toList _ (by decide +kernel) inclusion loads done).2.2 spliced both⟩

end Preprocessor

end ShaderSyntax
