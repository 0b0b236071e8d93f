import ShaderSyntax.Proofs.Macro.Passes
import ShaderSyntax.Proofs.Preprocess.Splicing

/-!
# Lines without directives

A line that is no directive is written out with its macros expanded, and nothing else happens but
that a limit which stopped the expansion is recorded (`preprocess_plain`). So what is known of an
expansion holds of the text that preprocessing emits: where nothing is recorded this text is a fixed
point (`settled_of_preprocess`), and its length is bounded by the steps of a pass, whatever the
number of passes (`length_emitted_le`).
-/

set_option autoImplicit false

namespace ShaderSyntax

/-- A line is no directive if it does not begin with a hash sign when it is trimmed. -/
theorem Directive.ofLine?_eq_none_iff {line : List Char} :
    Directive.ofLine? line = none ↔ (Text.trim line).head? ≠ some '#' := by
  rw [Directive.ofLine?]
  split
  case h_1 rest same => simp [same]
  case h_2 other =>
    refine iff_of_true rfl fun hash => ?_
    obtain ⟨rest, whole⟩ := List.head?_eq_some_iff.mp hash
    exact other rest whole

namespace Preprocessor

open Preprocessing

variable {preprocessor : Preprocessor} {options : PreprocessOptions} {state : MacroState}
  {path line : String} {number : Nat} {chars : List Char}

/-- Behind a line the macros are the same, and at most one overflow has been added. -/
theorem changes_stateBehind :
    (stateBehind options path number state chars).macros = state.macros ∧
      ((stateBehind options path number state chars).overflows = state.overflows ∨
        ∃ overflow, (stateBehind options path number state chars).overflows =
          state.overflows ++ [overflow]) := by
  unfold stateBehind
  split
  · exact ⟨rfl, .inl rfl⟩
  · exact ⟨rfl, .inr ⟨_, rfl⟩⟩

/-- Nothing is recorded exactly if the line settled, and then the state is the one before. -/
theorem stateBehind_eq_iff :
    (stateBehind options path number state chars).overflows = state.overflows ↔
      (expansionOf options state chars).stopped = none ∧
        stateBehind options path number state chars = state := by
  unfold stateBehind
  cases (expansionOf options state chars).stopped with
  | none => simp
  | some limit => simp [MacroState.record]

/-- A line that is no directive is expanded, and a limit that stops this is recorded. -/
theorem preprocess_plain (plain : (Text.trim line.toList).head? ≠ some '#')
    (one_line : '\n' ∉ line.toList) :
    preprocessor.preprocess state path line =
      (.ok (String.ofList (expansionOf preprocessor.options state line.toList).text ++ "\n"),
        stateBehind preprocessor.options path 1 state line.toList) := by
  have no_directive := Directive.ofLine?_eq_none_iff.mpr plain
  have expanded : (expandLine preprocessor.options path 1 line.toList).Gives state
      (expansionOf preprocessor.options state line.toList).text
      (stateBehind preprocessor.options path 1 state line.toList) :=
    gives_expandLine.mpr ⟨rfl, rfl⟩
  rw [← preprocessAt_zero, preprocessAt_eq_ok]
  have whole (text : List Char) : String.ofList (text ++ ['\n']) = String.ofList text ++ "\n" :=
    String.ofList_append
  refine ⟨_, ?_, (whole _).symm⟩
  rw [expandText_eq, Text.lines_of_newline_not_mem one_line, expandLines, expandLines]
  refine gives_append.mpr ⟨_, [], _, ?_, gives_pure.mpr ⟨rfl, rfl⟩, (List.append_nil _).symm⟩
  rw [expandOne, no_directive]
  exact gives_bind.mpr ⟨_, _, expanded, gives_pure.mpr ⟨rfl, rfl⟩⟩

/-- A line that is no directive records at most one overflow and changes no macro. If it records
none, a further pass leaves what was emitted as it is, and so does preprocessing it again, unless it
has become a directive or more than one line. A line in which no macro has its name is emitted as
it is, whatever the limits are. -/
theorem settled_of_preprocess (preprocessor : Preprocessor) (state : MacroState)
    (path line : String) (plain : (Text.trim line.toList).head? ≠ some '#')
    (one_line : '\n' ∉ line.toList) :
    ∃ emitted final, preprocessor.preprocess state path line = (.ok (emitted ++ "\n"), final) ∧
      final.macros = state.macros ∧
      (final.overflows = state.overflows ∨
        ∃ overflow, final.overflows = state.overflows ++ [overflow]) ∧
      (final.overflows = state.overflows →
        (state.macros.pass preprocessor.options.maxSteps emitted.toList).text = emitted.toList ∧
        ∀ path' : String, (Text.trim emitted.toList).head? ≠ some '#' → '\n' ∉ emitted.toList →
          preprocessor.preprocess state path' emitted = (.ok (emitted ++ "\n"), state)) ∧
      ((∀ m ∈ state.macros.macros, m.name ≠ [] → ¬m.name <:+: line.toList) → emitted = line) := by
  obtain ⟨emitted, text⟩ : ∃ emitted : String, emitted.toList =
      (expansionOf preprocessor.options state line.toList).text := ⟨_, String.toList_ofList⟩
  have ran : preprocessor.preprocess state path line = _ := preprocess_plain plain one_line
  rw [← text, String.ofList_toList] at ran
  refine ⟨emitted, _, ran, changes_stateBehind.1, changes_stateBehind.2, fun nothing => ?_,
    fun free => ?_⟩
  · obtain ⟨settled, -⟩ := stateBehind_eq_iff.mp nothing
    have fixed : (state.macros.pass preprocessor.options.maxSteps emitted.toList).text =
        emitted.toList := by
      rw [text]
      exact MacroTable.text_pass_settled settled
    have again : expansionOf preprocessor.options state emitted.toList =
        ⟨emitted.toList, none⟩ := by
      rw [text]
      exact MacroTable.expandLine_settled settled
    refine ⟨fixed, fun path' plain' one_line' => ?_⟩
    have unchanged : stateBehind preprocessor.options path' 1 state emitted.toList = state := by
      rw [stateBehind, again]
    rw [preprocess_plain plain' one_line', unchanged, again, String.ofList_toList]
  · have same : emitted.toList = line.toList :=
      text.trans (MacroTable.text_expandLine_of_free free)
    rw [← String.ofList_toList (s := emitted), same, String.ofList_toList]

/-- A macro whose body names another one, a macro without a body and one without a name. The second
pass over the first line still changes it, and what is emitted is emitted again. No name occurs in
the second line, which has more characters than a pass has steps. -/
theorem settled_of_preprocess_erasing :
    let preprocessor : Preprocessor := ⟨fun path => .error (.missing path), ⟨3, 6, 0⟩⟩
    let state : MacroState := ⟨⟨[⟨"A".toList, "B+".toList⟩, ⟨"B".toList, []⟩,
      ⟨[], "c".toList⟩]⟩, [⟨"before", 7, 3, .passes⟩]⟩
    (Text.trim "A B;".toList).head? ≠ some '#' ∧ '\n' ∉ "A B;".toList ∧
      preprocessor.preprocess state "main" "A B;" = (.ok "+ ;\n", state) ∧
      (state.macros.pass 6 "+ ;".toList).text = "+ ;".toList ∧
      preprocessor.preprocess state "again" "+ ;" = (.ok "+ ;\n", state) ∧
      ∃ final, preprocessor.preprocess state "main" "a = b; // c" =
        (.ok "a = b; // c\n", final) := by
  intro preprocessor state
  have plain : (Text.trim "A B;".toList).head? ≠ some '#' := by decide +kernel
  have one_line : '\n' ∉ "A B;".toList := by decide +kernel
  have done : preprocessor.preprocess state "main" "A B;" = (.ok ("+ ;" ++ "\n"), state) :=
    eq_ok_of_toOption (by decide +kernel) (by decide +kernel)
  obtain ⟨emitted, final, ran, -, -, settled, -⟩ :=
    settled_of_preprocess preprocessor state "main" "A B;" plain one_line
  rw [done, Prod.mk.injEq, Except.ok.injEq, String.append_left_inj] at ran
  obtain ⟨rfl, rfl⟩ := ran
  obtain ⟨fixed, again⟩ := settled rfl
  have emitted_again := again "again" (by decide +kernel) (by decide +kernel)
  obtain ⟨other, final, other_ran, -, -, -, untouched⟩ :=
    settled_of_preprocess preprocessor state "main" "a = b; // c" (by decide +kernel)
      (by decide +kernel)
  obtain rfl := untouched (by decide +kernel)
  exact ⟨plain, one_line, done, fixed, emitted_again, final, other_ran⟩

/-- The text that a line is expanded to, anywhere in a file, and that preprocessing emits for it has
no more characters than the steps of a pass can write, and besides no more than the line has or
again than a pass can write. The number of passes does not matter. -/
theorem length_emitted_le (preprocessor : Preprocessor) (state : MacroState) (line : String) :
    ∃ emitted : String,
      emitted.length ≤ preprocessor.options.maxSteps * max 1 state.macros.longestBody +
        max line.length (preprocessor.options.maxSteps * max 1 state.macros.longestBody) ∧
      (∀ path number, ∃ final, (expandLine preprocessor.options path number line.toList).Gives
        state emitted.toList final) ∧
      ∀ path, (Text.trim line.toList).head? ≠ some '#' → '\n' ∉ line.toList →
        ∃ final, preprocessor.preprocess state path line = (.ok (emitted ++ "\n"), final) := by
  have short := MacroTable.length_expandLine_le state.macros preprocessor.options.maxSteps
    preprocessor.options.maxPasses line.toList
  rw [← expansionOf, String.length_toList, MacroTable.reach] at short
  refine ⟨String.ofList (expansionOf preprocessor.options state line.toList).text, ?_, ?_, ?_⟩
  · rwa [String.length_ofList]
  · intro path number
    rw [String.toList_ofList]
    exact ⟨_, gives_expandLine.mpr ⟨rfl, rfl⟩⟩
  · intro path plain one_line
    exact ⟨_, preprocess_plain plain one_line⟩

/-- A body that names its own macro three times: two passes make fifteen characters of three, and
the second one is cut short. -/
theorem length_emitted_le_runaway :
    let preprocessor : Preprocessor := ⟨fun path => .error (.missing path), ⟨50, 4, 0⟩⟩
    let state : MacroState := ⟨⟨[⟨"A".toList, "AAA".toList⟩]⟩, []⟩
    (Text.trim "AA;".toList).head? ≠ some '#' ∧ '\n' ∉ "AA;".toList ∧
      preprocessor.preprocess state "main" "AA;" =
        (.ok "AAAAAAAAAAAAAA;\n", state.record ⟨"main", 1, 4, .steps⟩) ∧
      "AAAAAAAAAAAAAA;".length ≤ 4 * max 1 3 + max 3 (4 * max 1 3) := by
  intro preprocessor state
  have plain : (Text.trim "AA;".toList).head? ≠ some '#' := by decide +kernel
  have one_line : '\n' ∉ "AA;".toList := by decide +kernel
  have done : preprocessor.preprocess state "main" "AA;" =
      (.ok ("AAAAAAAAAAAAAA;" ++ "\n"), state.record ⟨"main", 1, 4, .steps⟩) :=
    eq_ok_of_toOption (by decide +kernel) (by decide +kernel)
  obtain ⟨emitted, short, -, emits⟩ := length_emitted_le preprocessor state "AA;"
  obtain ⟨final, ran⟩ := emits "main" plain one_line
  rw [done, Prod.mk.injEq, Except.ok.injEq, String.append_left_inj] at ran
  obtain ⟨rfl, -⟩ := ran
  exact ⟨plain, one_line, done, short⟩

end Preprocessor

end ShaderSyntax
