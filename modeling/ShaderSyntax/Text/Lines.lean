/-!
# Lines of a text

A text is cut at its line feeds; the pieces, one more than there are line feeds, are its lines. The
main statements say that joining the lines gives the text back (`joinLines_lines`), that joined and
ended lines are found again (`lines_joinLines`, `lines_endLines_append`), that no line holds a line
feed (`newline_not_mem_lines`), and that there are as many lines as stated (`length_lines`).
-/

set_option autoImplicit false

namespace ShaderSyntax.Text

/-- Puts a character in front of the first line. -/
def onFirstLine (c : Char) : List (List Char) → List (List Char)
  | [] => [[c]]
  | line :: rest => (c :: line) :: rest

/-- The stretches between line feeds, in order; an empty text has one empty line. -/
def lines : List Char → List (List Char)
  | [] => [[]]
  | c :: rest => if c = '\n' then [] :: lines rest else onFirstLine c (lines rest)

/-- Lines with a line feed between each two of them. -/
def joinLines : List (List Char) → List Char
  | [] => []
  | [line] => line
  | line :: rest => line ++ '\n' :: joinLines rest

/-- Lines with a line feed behind each of them. -/
def endLines (lines : List (List Char)) : List Char :=
  lines.flatMap fun line => line ++ ['\n']

/-- Every text has a line, the empty one too. -/
theorem lines_ne_nil (text : List Char) : lines text ≠ [] := by
  cases text with
  | nil => simp [lines]
  | cons c rest =>
    rw [lines]
    split
    · simp
    · cases lines rest <;> simp [onFirstLine]

/-- Joining the lines of a text gives the text. -/
@[simp] theorem joinLines_lines (text : List Char) : joinLines (lines text) = text := by
  induction text with
  | nil => rfl
  | cons c rest ih =>
    have some_line := lines_ne_nil rest
    rw [lines]
    split
    case isTrue h =>
      subst h
      cases split : lines rest with
      | nil => exact absurd split some_line
      | cons line more => rw [split] at ih; rw [joinLines, ih] <;> simp
    case isFalse h =>
      cases split : lines rest with
      | nil => exact absurd split some_line
      | cons line more =>
        rw [split] at ih
        rw [← ih]
        cases more <;> simp [onFirstLine, joinLines]

/-- There is one more line than there are line feeds. -/
theorem length_lines (text : List Char) : (lines text).length = text.count '\n' + 1 := by
  induction text with
  | nil => rfl
  | cons c rest ih =>
    rw [lines]
    split
    case isTrue h => simp [h, ih]
    case isFalse h =>
      cases split : lines rest with
      | nil => exact absurd split (lines_ne_nil rest)
      | cons line more =>
        rw [split] at ih
        simp [onFirstLine, ← ih, h]

/-- No line holds a line feed. -/
theorem newline_not_mem_lines (text : List Char) : ∀ line ∈ lines text, '\n' ∉ line := by
  induction text with
  | nil => simp [lines]
  | cons c rest ih =>
    rw [lines]
    split
    case isTrue h => simpa using ih
    case isFalse h =>
      cases split : lines rest with
      | nil => exact absurd split (lines_ne_nil rest)
      | cons line more =>
        rw [split] at ih
        simp only [onFirstLine, List.mem_cons, forall_eq_or_imp] at ih ⊢
        exact ⟨by simp [ih.1, Ne.symm h], ih.2⟩

/-- A text without a line feed is one line. -/
theorem lines_of_newline_not_mem {text : List Char} (h : '\n' ∉ text) : lines text = [text] := by
  induction text with
  | nil => rfl
  | cons c rest ih =>
    rw [lines, if_neg fun same => h (by simp [same]), ih fun inside => h (by simp [inside])]
    rfl

/-- A text up to its first line feed is its first line. -/
theorem lines_append_newline {line : List Char} (h : '\n' ∉ line) (rest : List Char) :
    lines (line ++ '\n' :: rest) = line :: lines rest := by
  induction line with
  | nil => simp [lines]
  | cons c line ih =>
    rw [List.cons_append, lines, if_neg fun same => h (by simp [same]),
      ih fun inside => h (by simp [inside])]
    rfl

/-- Lines that were joined are found again. -/
theorem lines_joinLines {lines : List (List Char)} (some_line : lines ≠ [])
    (h : ∀ line ∈ lines, '\n' ∉ line) : Text.lines (joinLines lines) = lines := by
  induction lines with
  | nil => contradiction
  | cons line rest ih =>
    cases rest with
    | nil => exact lines_of_newline_not_mem (h line (by simp))
    | cons next rest =>
      rw [joinLines, lines_append_newline (h line (by simp)), ih (by simp)]
      · exact fun other mem => h other (List.mem_cons_of_mem _ mem)
      · simp

/-- The lines of a text are those up to a line feed and those behind it. -/
theorem lines_append (front back : List Char) :
    lines (front ++ '\n' :: back) = lines front ++ lines back := by
  induction front with
  | nil => simp [lines]
  | cons c front ih =>
    rw [List.cons_append, lines, lines, ih]
    split
    · rfl
    · cases split : lines front with
      | nil => exact absurd split (lines_ne_nil front)
      | cons line more => rfl

/-- Lines that were ended are found again in front of those that follow. -/
theorem lines_endLines_append {ended : List (List Char)} (h : ∀ line ∈ ended, '\n' ∉ line)
    (rest : List Char) : lines (endLines ended ++ rest) = ended ++ lines rest := by
  induction ended with
  | nil => rfl
  | cons line ended ih =>
    have first := lines_append_newline (h line (by simp)) (endLines ended ++ rest)
    rw [ih fun other mem => h other (List.mem_cons_of_mem _ mem)] at first
    simpa [endLines] using first

/-- A line can be told from what follows its line feed. -/
theorem append_newline_inj {line other rest more : List Char} (one_line : '\n' ∉ line)
    (other_one_line : '\n' ∉ other) (same : line ++ '\n' :: rest = other ++ '\n' :: more) :
    line = other ∧ rest = more := by
  have cut := congrArg lines same
  rw [lines_append_newline one_line, lines_append_newline other_one_line, List.cons.injEq] at cut
  obtain ⟨first, later⟩ := cut
  refine ⟨first, ?_⟩
  rw [← joinLines_lines rest, later, joinLines_lines]

end ShaderSyntax.Text
