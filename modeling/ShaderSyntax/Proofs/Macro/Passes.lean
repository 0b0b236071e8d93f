import ShaderSyntax.Macro.Expansion

/-!
# Passes over a line

A pass writes one piece for each of its steps, a body or a character, and leaves what it does not
reach as it is (`exists_written`). So a pass that comes to the end of its line writes no more than
its steps allow, however often a body names its own macro, and the passes behind it start from a
line that is no longer than this. Only the last pass over a line may be cut short, and what it adds
to its own pieces is a rest of such a line (`length_expandLine_le`).

A line that settled is a fixed point of a pass, so it settles again at once (`expandLine_settled`),
and higher limits do not change what it settles to (`expandLine_of_le`). Where no macro can apply,
each pass writes the line itself (`text_expandLine_of_free`).
-/

set_option autoImplicit false

namespace ShaderSyntax.MacroTable

variable {table : MacroTable} {steps passes : Nat} {line text : List Char} {m : Macro}

/-! ## The macro that applies -/

/-- The better of two macros is one of them. -/
theorem better_eq_or (found : Option Macro) (first : Macro) :
    better found first = found ∨ better found first = some first := by
  cases found with
  | none => exact .inr rfl
  | some best =>
    rw [better]
    split
    · exact .inr rfl
    · exact .inl rfl

/-- The best of some macros is one of them, or the one to begin with. -/
theorem eq_or_mem_of_foldl_better {found : Option Macro} {macros : List Macro}
    (best : macros.foldl better found = some m) : found = some m ∨ m ∈ macros := by
  induction macros generalizing found with
  | nil => exact .inl best
  | cons first macros ih =>
    rw [List.foldl_cons] at best
    obtain chosen | later := ih best
    · obtain kept | replaced := better_eq_or found first
      · exact .inl (kept.symm.trans chosen)
      · have same : first = m := Option.some.inj (replaced.symm.trans chosen)
        exact .inr (same ▸ List.mem_cons_self)
    · exact .inr (List.mem_cons_of_mem first later)

/-- The macro that is found at the start of a text is one of the table, and the text starts with
its name. -/
theorem of_longest? (found : table.longest? text = some m) :
    m ∈ table.macros ∧ m.name ≠ [] ∧ m.name <+: text := by
  have listed := (eq_or_mem_of_foldl_better found).resolve_left (by simp)
  obtain ⟨present, applies⟩ := List.mem_filter.mp listed
  rw [MacroTable.applies, Bool.and_eq_true, Bool.not_eq_true', List.isEmpty_eq_false_iff,
    List.isPrefixOf_iff_prefix] at applies
  exact ⟨present, applies⟩

/-! ## Lines without macros -/

/-- No macro can apply anywhere in a text. -/
def Free (table : MacroTable) (text : List Char) : Prop :=
  ∀ m ∈ table.macros, m.name ≠ [] → ¬m.name <:+: text

/-- No macro applies to a text that is free of names. -/
theorem Free.longest? (free : table.Free text) : table.longest? text = none := by
  cases found : table.longest? text with
  | none => rfl
  | some m =>
    obtain ⟨listed, named, here⟩ := of_longest? found
    exact absurd here.isInfix (free m listed named)

/-- The rest of a text that is free of names is free too. -/
theorem Free.tail {c : Char} {rest : List Char} (free : table.Free (c :: rest)) :
    table.Free rest := by
  intro m listed named inside
  apply free m listed named
  exact inside.trans (List.suffix_cons c rest).isInfix

/-- A pass writes a line without macros as it is, whether it comes to the end or not. -/
theorem text_pass_of_free (free : table.Free line) : (table.pass steps line).text = line := by
  induction line generalizing steps with
  | nil => cases steps <;> rfl
  | cons c rest ih =>
    cases steps with
    | zero => rfl
    | succ steps =>
      have written : (table.pass steps rest).text = rest := ih free.tail
      simp only [pass, free.longest?, Pass.after, written, List.singleton_append]

/-- A line that is free of names settles as it is. -/
theorem text_settle_of_free (free : table.Free line) :
    (table.settle steps passes line).text = line := by
  induction passes with
  | zero => rfl
  | succ passes ih =>
    have written : (table.pass steps line).text = line := text_pass_of_free free
    rw [settle, written, if_pos rfl]
    split <;> rfl

/-- A line in which no macro can apply stays as it is, whatever the limits are. -/
theorem text_expandLine_of_free (free : table.Free line) :
    (table.expandLine steps passes line).text = line := by
  unfold expandLine
  split
  · rfl
  · exact text_settle_of_free free

/-! ## Lines that settled -/

/-- A fixed point of a pass settles in the first pass over it. -/
theorem settle_of_fixed (fixed : table.pass steps line = ⟨line, true⟩) :
    table.settle steps (passes + 1) line = ⟨line, none⟩ := by
  rw [settle, fixed, if_pos rfl, if_pos rfl]

/-- A line that settled is left as it is by a further pass. -/
theorem text_pass_settled (settled : (table.expandLine steps passes line).stopped = none) :
    (table.pass steps (table.expandLine steps passes line).text).text =
      (table.expandLine steps passes line).text := by
  unfold expandLine at settled ⊢
  split
  case isTrue vacant =>
    apply text_pass_of_free
    intro m listed
    rw [List.isEmpty_iff.mp vacant] at listed
    exact absurd listed List.not_mem_nil
  case isFalse filled =>
    rw [if_neg filled] at settled
    rw [pass_of_settled settled]

/-- A line that settled settles again, with the same text. -/
theorem expandLine_settled (settled : (table.expandLine steps passes line).stopped = none) :
    table.expandLine steps passes (table.expandLine steps passes line).text =
      ⟨(table.expandLine steps passes line).text, none⟩ := by
  unfold expandLine at settled ⊢
  split
  case isTrue => rfl
  case isFalse filled =>
    rw [if_neg filled] at settled
    have fixed := pass_of_settled settled
    cases passes with
    | zero => simp [settle] at settled
    | succ passes => exact settle_of_fixed fixed

/-! ## Higher limits -/

/-- A pass that comes to the end of its line does so with more steps as well. -/
theorem pass_of_finished {more : Nat} (finished : (table.pass steps line).finished = true)
    (le : steps ≤ more) : table.pass more line = table.pass steps line := by
  induction steps generalizing line more with
  | zero =>
    cases line with
    | nil => cases more <;> rfl
    | cons c rest => exact absurd finished Bool.false_ne_true
  | succ steps ih =>
    cases more with
    | zero => exact absurd le (Nat.not_succ_le_zero steps)
    | succ more =>
      have fewer : steps ≤ more := Nat.le_of_succ_le_succ le
      cases line with
      | nil => rfl
      | cons c rest =>
        cases found : table.longest? (c :: rest) with
        | none =>
          simp only [pass, found, Pass.after] at finished ⊢
          rw [ih finished fewer]
        | some m =>
          simp only [pass, found, Pass.after] at finished ⊢
          rw [ih finished fewer]

/-- A line that settles does so, with the same text, when more steps and passes are allowed. -/
theorem settle_of_le {more again : Nat} (settled : (table.settle steps passes line).stopped = none)
    (steps_le : steps ≤ more) (passes_le : passes ≤ again) :
    table.settle more again line = table.settle steps passes line := by
  induction passes generalizing line again with
  | zero => simp [settle] at settled
  | succ passes ih =>
    cases again with
    | zero => exact absurd passes_le (Nat.not_succ_le_zero passes)
    | succ again =>
      by_cases finished : (table.pass steps line).finished = true
      · have same : table.pass more line = table.pass steps line :=
          pass_of_finished finished steps_le
        simp only [settle, same, finished, if_true] at settled ⊢
        split
        case isTrue => rfl
        case isFalse changed =>
          rw [if_neg changed] at settled
          exact ih settled (Nat.le_of_succ_le_succ passes_le)
      · simp [settle, finished] at settled

/-- A line that is not stopped is expanded to the same text when more steps and passes are
allowed. -/
theorem expandLine_of_le {more again : Nat}
    (settled : (table.expandLine steps passes line).stopped = none) (steps_le : steps ≤ more)
    (passes_le : passes ≤ again) :
    table.expandLine more again line = table.expandLine steps passes line := by
  unfold expandLine at settled ⊢
  split
  case isTrue => rfl
  case isFalse filled =>
    rw [if_neg filled] at settled
    exact settle_of_le settled steps_le passes_le

/-! ## Growth -/

/-- The length of the longest body. -/
def longestBody (table : MacroTable) : Nat :=
  (table.macros.map (·.body.length)).max?.getD 0

/-- No body of a table is longer than its longest. -/
theorem length_body_le (listed : m ∈ table.macros) : m.body.length ≤ table.longestBody :=
  List.le_max?_getD_of_mem (List.mem_map_of_mem listed)

/-- What a number of steps can write. -/
def reach (table : MacroTable) (steps : Nat) : Nat :=
  steps * max 1 table.longestBody

/-- A pass writes a piece in each step, and behind these pieces stands what it did not reach; this
is nothing if the pass came to the end. -/
theorem exists_written (table : MacroTable) (steps : Nat) (line : List Char) :
    ∃ written left, (table.pass steps line).text = written ++ left ∧
      written.length ≤ table.reach steps ∧ left <:+ line ∧
      ((table.pass steps line).finished = true → left = []) := by
  induction steps generalizing line with
  | zero =>
    cases line with
    | nil => exact ⟨[], [], rfl, Nat.zero_le _, List.suffix_refl _, fun _ => rfl⟩
    | cons c rest =>
      refine ⟨[], c :: rest, rfl, Nat.zero_le _, List.suffix_refl _, fun finished => ?_⟩
      exact absurd finished Bool.false_ne_true
  | succ steps ih =>
    -- a step puts one piece in front of what the steps behind it write
    have grows : table.reach (steps + 1) = table.reach steps + max 1 table.longestBody := by
      rw [reach, reach, Nat.succ_mul]
    have onward : ∀ (piece rest : List Char), piece.length ≤ max 1 table.longestBody →
        rest <:+ line → ∃ written left,
          ((table.pass steps rest).after piece).text = written ++ left ∧
            written.length ≤ table.reach (steps + 1) ∧ left <:+ line ∧
            (((table.pass steps rest).after piece).finished = true → left = []) := by
      intro piece rest small behind
      obtain ⟨written, left, whole, bound, unreached, ends⟩ := ih rest
      refine ⟨piece ++ written, left, ?_, ?_, unreached.trans behind, ends⟩
      · rw [Pass.after, whole, List.append_assoc]
      · rw [List.length_append]
        omega
    cases line with
    | nil => exact ⟨[], [], rfl, Nat.zero_le _, List.suffix_refl _, fun _ => rfl⟩
    | cons c rest =>
      cases found : table.longest? (c :: rest) with
      | none =>
        have small : [c].length ≤ max 1 table.longestBody := Nat.le_max_left _ _
        have step := onward [c] rest small (List.suffix_cons c rest)
        simpa only [pass, found] using step
      | some m =>
        have small : m.body.length ≤ max 1 table.longestBody :=
          Nat.le_trans (length_body_le (of_longest? found).1) (Nat.le_max_right _ _)
        have step := onward m.body ((c :: rest).drop m.name.length) small (List.drop_suffix _ _)
        simpa only [pass, found] using step

/-- What a pass makes of a line is bounded by its steps if it came to the end, and by its steps and
the line if it did not. -/
theorem length_pass_le (table : MacroTable) (steps : Nat) (line : List Char) :
    (table.pass steps line).text.length ≤ table.reach steps + line.length ∧
      ((table.pass steps line).finished = true →
        (table.pass steps line).text.length ≤ table.reach steps) := by
  obtain ⟨written, left, whole, bound, unreached, ends⟩ := exists_written table steps line
  have short := unreached.length_le
  rw [whole, List.length_append]
  refine ⟨by omega, fun finished => ?_⟩
  rw [ends finished, List.length_nil]
  omega

/-- The induction is on the passes: each starts from a line of at most `size` characters, the first
by assumption and the later ones because the pass before them came to its end. -/
theorem length_settle_le {size : Nat} (within : line.length ≤ size)
    (enough : table.reach steps ≤ size) :
    (table.settle steps passes line).text.length ≤ table.reach steps + size := by
  induction passes generalizing line with
  | zero => exact Nat.le_trans within (Nat.le_add_left _ _)
  | succ passes ih =>
    obtain ⟨bound, completed⟩ := length_pass_le table steps line
    rw [settle]
    split
    case isTrue finished =>
      split
      case isTrue => exact Nat.le_trans within (Nat.le_add_left _ _)
      case isFalse => exact ih (Nat.le_trans (completed finished) enough)
    case isFalse => exact Nat.le_trans bound (Nat.add_le_add_left within _)

/-- An expanded line is bounded by the line and by what the steps of one pass can write. -/
theorem length_expandLine_le (table : MacroTable) (steps passes : Nat) (line : List Char) :
    (table.expandLine steps passes line).text.length ≤
      table.reach steps + max line.length (table.reach steps) := by
  have first : line.length ≤ max line.length (table.reach steps) := Nat.le_max_left _ _
  unfold expandLine
  split
  · exact Nat.le_trans first (Nat.le_add_left _ _)
  · exact length_settle_le first (Nat.le_max_right _ _)

end ShaderSyntax.MacroTable
