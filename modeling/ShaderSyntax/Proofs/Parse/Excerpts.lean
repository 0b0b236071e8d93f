import Mathlib.Data.List.Forall2
import ShaderSyntax.Proofs.Parse.Places

/-!
# Excerpts point at the rejected character

An excerpt shows the lines around an error, each once and in order, behind numbers that are aligned
to one width, and below the line of the error a caret under its column (`SyntaxError.Pictures`). The
width is taken from the last number shown, which is the longest, so no number sticks out. The blanks
in front of the caret are as many as the characters above them, also where the line ends before the
column. Only the row below the error's line is a caret's row, since every other one holds a colon.

Whatever is shown is as it should be, but not always is something shown: the number of the last line
asked for has to be a word of 64 bits, and the caret's row no longer than a text can be. Otherwise
there is no excerpt at all (`SyntaxError.pointsAt_iff`). An error that was reported by a parse of a
source is at a line of this source (`SyntaxError.StandsIn`).
-/

set_option autoImplicit false

namespace ShaderSyntax

/-! ## Places of errors -/

/-- A place in a text is on one of its lines and at some column. -/
theorem Position.At.bounds {place : Position} {offset : Nat} {text : List Char}
    (there : place.At offset text) :
    1 ≤ place.line ∧ place.line ≤ (Text.lines text).length ∧ 1 ≤ place.column := by
  obtain ⟨front, short, -, rfl⟩ := there
  have feeds := short.sublist.count_le '\n'
  rw [Text.length_lines]
  simp only [endOf]
  omega

namespace SyntaxError

/-- The line of an error is one of a source's lines, and its column is one that characters have. -/
structure StandsIn (error : SyntaxError) (source : String) : Prop where
  line_pos : 1 ≤ error.line
  line_le : error.line ≤ (Text.lines source.toList).length
  column_pos : 1 ≤ error.column

/-- An error at a place of a source stands in it. -/
theorem standsIn_of_at {error : SyntaxError} {source : String} {offset : Nat}
    (there : Position.At ⟨error.line, error.column⟩ offset source.toList) :
    error.StandsIn source :=
  ⟨there.bounds.1, there.bounds.2.1, there.bounds.2.2⟩

end SyntaxError

namespace Engine

variable {C V L : Type} [StackValue V] {engine : Engine C V} {listen : L → SyntaxError → L}
  {log : L} {context : C} {source : String}

/-- Wherever a parse of a source stands, an error would be reported in the source. -/
theorem standsIn_of_trail (keeps : engine.lexer.KeepsPlaces) {c : Configuration C V L}
    {trail : List (Configuration C V L)}
    (before : Trail engine listen log context (engine.lexer.stream source) trail c) :
    (engine.errorAt c).StandsIn source := by
  rcases rejects_of_looks keeps (looks_of_trail before) with ⟨piece, at_token⟩ | at_end
  · exact SyntaxError.standsIn_of_at at_token.lies
  · cases last : (engine.lexer.read source.toList).kept.getLast? with
    | none => exact SyntaxError.standsIn_of_at (at_end.void (List.getLast?_eq_none_iff.mp last))
    | some piece =>
      obtain ⟨same, stop⟩ := at_end.place piece last
      exact SyntaxError.standsIn_of_at (same ▸ stop)

/-- The errors of a parse of a source are reported in the source. -/
theorem standsIn_of_parse (keeps : engine.lexer.KeepsPlaces) {limit : Nat} {outcome : Outcome C V L}
    (ended : engine.parse limit listen log context source = some outcome) :
    ∀ error ∈ outcome.errors, error.StandsIn source := by
  obtain ⟨trail, finished⟩ := exists_finishes ended
  obtain ⟨-, kept, -⟩ := told_of_finishes finished
  intro error mem
  rw [kept] at mem
  obtain ⟨c, reported, rfl⟩ := List.mem_map.mp mem
  obtain ⟨front, before⟩ :=
    exists_trail_of_finishes finished (List.mem_filter.mp reported).1
  exact standsIn_of_trail keeps before

end Engine

namespace SyntaxError

/-! ## What an excerpt should be -/

/-- A row that shows line `n`: blanks that fill its number up to a width, the number, a colon and a
blank, and the line. -/
def Shows (lines : List (List Char)) (width n : Nat) (row : List Char) : Prop :=
  ∃ blanks text, lines[n - 1]? = some text ∧ blanks + (digits n).length = width ∧
    row = List.replicate blanks ' ' ++ digits n ++ [':', ' '] ++ text

/-- A row with nothing but a caret behind blanks. -/
def IsCaret (row : List Char) : Prop :=
  ∃ blanks, row = List.replicate blanks ' ' ++ ['^']

/-- The rows of an excerpt are as they should be: those of the lines above the error's line, from
`context` lines above it or from the first line on; the row of the error's line; a caret at the
place where this row has, behind what stands in front of the line, the line's character with the
number of the error's column; and the rows of the lines below, down to `context` lines below or to
the last line. -/
structure Pictures (error : SyntaxError) (lines : List (List Char)) (context width : Nat)
    (above : List (List Char)) (marked caret : List Char) (below : List (List Char)) : Prop where
  rows_above : List.Forall₂ (Shows lines width)
    (List.range' (max 1 (error.line - context)) (error.line - max 1 (error.line - context))) above
  row_marked : Shows lines width error.line marked
  caret_under : ∃ label text, marked = label ++ text ∧ lines[error.line - 1]? = some text ∧
    caret = List.replicate (label.length + (error.column - 1)) ' ' ++ ['^']
  rows_below : List.Forall₂ (Shows lines width)
    (List.range' (error.line + 1) (min (error.line + context) lines.length - error.line)) below
  only_caret : ∀ row ∈ above ++ marked :: below, ¬IsCaret row

/-- What a text shows of a source behind the message and the expected labels consists of the rows
that it should consist of. -/
def PointsAt (error : SyntaxError) (source : String) (context : Nat) (text : String) : Prop :=
  ∃ shown width above marked caret below,
    text.toList = Text.endLines (error.message.toList :: error.expectation) ++ shown ∧
    Text.lines shown = above ++ marked :: caret :: below ++ [[]] ∧
    error.Pictures (Text.lines source.toList) context width above marked caret below

/-- The number of the last line that is shown. -/
def lastShown (error : SyntaxError) (source : String) (context : Nat) : Nat :=
  min (error.line + context) (Text.lines source.toList).length

/-- The blanks in front of the caret: as many as the characters in front of a line, which are the
number's, a colon and a blank, and as the characters of the line in front of the column. -/
def caretPlace (error : SyntaxError) (source : String) (context : Nat) : Nat :=
  numberWidth (error.lastShown source context) + 2 + (error.column - 1)

variable {lines : List (List Char)} {width n first last line : Nat} {row : List Char}

/-- A row of a line holds a colon. -/
theorem Shows.not_isCaret (shows : Shows lines width n row) : ¬IsCaret row := by
  obtain ⟨blanks, text, -, -, rfl⟩ := shows
  rintro ⟨more, same⟩
  have colon : ':' ∈ List.replicate more ' ' ++ ['^'] := by
    rw [← same]
    simp
  simp at colon

/-- A member of the second of two rows of things that belong together belongs to something. -/
theorem exists_of_mem_forall₂ {α β : Type} {R : α → β → Prop} {l : List α} {m : List β}
    (pairs : List.Forall₂ R l m) {b : β} (mem : b ∈ m) : ∃ a ∈ l, R a b := by
  induction pairs with
  | nil => contradiction
  | cons pair rest ih =>
    rcases List.mem_cons.mp mem with rfl | mem
    · exact ⟨_, List.mem_cons_self, pair⟩
    · obtain ⟨a, there, pair⟩ := ih mem
      exact ⟨a, List.mem_cons_of_mem _ there, pair⟩

/-- A row that shows a line has no line end. -/
theorem Shows.newline_not_mem (shows : Shows lines width n row)
    (clean : ∀ line ∈ lines, '\n' ∉ line) : '\n' ∉ row := by
  obtain ⟨blanks, text, there, -, rfl⟩ := shows
  have one_line := clean text (List.mem_of_getElem? there)
  have no_digit : '\n' ∉ digits n := by
    intro inside
    have digit := Nat.isDigit_of_mem_toDigits (by decide) (by decide) inside
    contradiction
  simp [one_line, no_digit]

/-- A row with a caret has no line end. -/
theorem IsCaret.newline_not_mem (caret : IsCaret row) : '\n' ∉ row := by
  obtain ⟨blanks, rfl⟩ := caret
  simp

/-! ## The rows of lines -/

/-- The lines numbered from one to another are lines of the text, each with its number. -/
theorem mem_numbered {shown : Nat × List Char} (mem : shown ∈ numbered lines first last) :
    lines[shown.1 - 1]? = some shown.2 ∧ first ≤ shown.1 ∧ shown.1 ≤ last := by
  obtain ⟨⟨text, number⟩, placed, chosen⟩ := List.mem_filterMap.mp mem
  obtain ⟨-, there⟩ := List.mk_mem_zipIdx_iff_le_and_getElem?_sub.mp placed
  split at chosen
  case isTrue inside =>
    obtain rfl := Option.some.inj chosen
    simp only [Bool.and_eq_true, decide_eq_true_eq] at inside
    exact ⟨there, inside⟩
  case isFalse outside => contradiction

/-- A greater number has no fewer digits. -/
theorem length_digits_le {m : Nat} (le : n ≤ m) : (digits n).length ≤ (digits m).length := by
  have some_digit : 0 < (digits m).length := List.length_pos_iff.mpr Nat.toDigits_ne_nil
  have bound := (Nat.length_toDigits_le_iff (by decide) some_digit).mp (Nat.le_refl _)
  exact (Nat.length_toDigits_le_iff (by decide) some_digit).mpr (Nat.lt_of_le_of_lt le bound)

/-- The label of a row is two wider than the numbers. -/
theorem length_label (fits : (digits n).length ≤ width) :
    (alignRight width n ++ [':', ' ']).length = width + 2 := by
  simp only [alignRight, List.length_append, List.length_replicate, List.length_cons,
    List.length_nil]
  omega

/-- A line of an excerpt stands behind its number, which is not longer than the last one. -/
theorem shows_of_mem_numbered {shown : Nat × List Char} (mem : shown ∈ numbered lines first last)
    (wide : (digits last).length ≤ width) :
    Shows lines width shown.1 (numberedRow width shown) := by
  obtain ⟨there, -, le⟩ := mem_numbered mem
  have fits := length_digits_le le
  exact ⟨width - (digits shown.1).length, shown.2, there, by omega,
    by simp [numberedRow, alignRight]⟩

/-- Rows made of numbered lines show them in order. -/
theorem forall₂_shows {part : List (Nat × List Char)}
    (each : ∀ shown ∈ part, Shows lines width shown.1 (numberedRow width shown)) :
    List.Forall₂ (Shows lines width) (part.map Prod.fst) (part.map (numberedRow width)) := by
  rw [List.forall₂_map_left_iff, List.forall₂_map_right_iff, List.forall₂_same]
  exact each

/-- A stretch of numbers is cut at one of them. -/
theorem range'_cut (low : first ≤ line) (high : line ≤ last) :
    List.range' first (last + 1 - first) =
      List.range' first (line - first) ++ line :: List.range' (line + 1) (last - line) := by
  have front := @List.range'_append_1 first (line - first) (last + 1 - line)
  rw [Nat.add_sub_cancel' low, Nat.succ_sub high, List.range'_succ] at front
  rw [front]
  congr 1
  omega

/-- None of the numbers in front of a stretch or behind it is kept. -/
theorem filter_range'_outside {start count : Nat}
    (outside : start + count ≤ first ∨ last < start) :
    ((List.range' start count).filter fun n => first ≤ n && n ≤ last) = [] := by
  rw [List.filter_eq_nil_iff]
  intro n mem
  rw [List.mem_range'_1] at mem
  simp only [Bool.and_eq_true, decide_eq_true_eq]
  omega

/-- The numbers of a stretch that are among those of the lines. -/
theorem filter_range' {count : Nat} (start : 1 ≤ first) (order : first ≤ last)
    (stop : last ≤ count) :
    ((List.range' 1 count).filter fun n => first ≤ n && n ≤ last) =
      List.range' first (last + 1 - first) := by
  have parts : List.range' 1 count = List.range' 1 (first - 1) ++
      (List.range' first (last + 1 - first) ++ List.range' (last + 1) (count - last)) := by
    have behind := @List.range'_append_1 first (last + 1 - first) (count - last)
    have whole := @List.range'_append_1 1 (first - 1) (last + 1 - first + (count - last))
    rw [Nat.add_sub_cancel' (Nat.le_succ_of_le order)] at behind
    rw [Nat.add_sub_cancel' start, ← behind] at whole
    rw [whole]
    congr 1
    omega
  have inside : (List.range' first (last + 1 - first)).filter (fun n => first ≤ n && n ≤ last) =
      List.range' first (last + 1 - first) := by
    rw [List.filter_eq_self]
    intro n mem
    rw [List.mem_range'_1] at mem
    simp only [Bool.and_eq_true, decide_eq_true_eq]
    omega
  rw [parts, List.filter_append, List.filter_append, filter_range'_outside (by omega), inside,
    filter_range'_outside (by omega), List.nil_append, List.append_nil]

/-- The lines of an excerpt are those above a line of it, this line, and those below. -/
theorem numbered_cut (start : 1 ≤ first) (low : first ≤ line) (high : line ≤ last)
    (stop : last ≤ lines.length) :
    ∃ above text below, numbered lines first last = above ++ (line, text) :: below ∧
      above.map Prod.fst = List.range' first (line - first) ∧
      below.map Prod.fst = List.range' (line + 1) (last - line) := by
  have numbers := map_fst_numbered lines first last
  rw [filter_range' start (Nat.le_trans low high) stop, range'_cut low high,
    List.map_eq_append_iff] at numbers
  obtain ⟨above, rest, cut, above_numbers, rest_numbers⟩ := numbers
  obtain ⟨⟨number, text⟩, below, rfl, rfl, below_numbers⟩ := List.map_eq_cons_iff.mp rest_numbers
  exact ⟨above, text, below, cut, above_numbers, below_numbers⟩

/-- A line in front of a stretch or behind it is none of the stretch. -/
theorem ne_of_mem_stretch {part : List (Nat × List Char)} {start count : Nat}
    (numbers : part.map Prod.fst = List.range' start count)
    (outside : line < start ∨ start + count ≤ line) : ∀ shown ∈ part, shown.1 ≠ line := by
  intro shown mem
  have number := List.mem_map_of_mem (f := Prod.fst) mem
  rw [numbers, List.mem_range'_1] at number
  omega

/-- Rows of other lines have no caret below them. -/
theorem mapM_rowsOf {part : List (Nat × List Char)} {column : Nat}
    (others : ∀ shown ∈ part, shown.1 ≠ line) :
    part.mapM (rowsOf width line column) =
      .ok (part.map fun shown => [numberedRow width shown]) := by
  induction part with
  | nil => rfl
  | cons shown part ih =>
    rw [List.forall_mem_cons] at others
    rw [List.mapM_cons, rowsOf, if_neg others.1, ih others.2]
    rfl

/-- A part of an excerpt without the error's line has a row for each line. -/
theorem flatten_rows (part : List (Nat × List Char)) :
    (part.map fun shown => [numberedRow width shown]).flatten = part.map (numberedRow width) := by
  rw [← List.flatMap_def, ← List.map_eq_flatMap]

/-- The caret's row, if there is one: a caret behind as many blanks as there should be. -/
theorem caretRow_eq_ok_iff {column : Nat} {caret : List Char} :
    (wordSum (width + 2) (column - 1) >>= caretRow) = .ok caret ↔
      width + 2 + (column - 1) ≤ Numeral.signedLimit ∧
        caret = List.replicate (width + 2 + (column - 1)) ' ' ++ ['^'] := by
  have words : Numeral.signedLimit ≤ Numeral.unsignedLimit := by decide
  by_cases word : width + 2 + (column - 1) ≤ Numeral.unsignedLimit
  · rw [wordSum_of_le word]
    change caretRow (width + 2 + (column - 1)) = .ok caret ↔ _
    rw [caretRow]
    split
    case isTrue fits => simp [fits, eq_comm]
    case isFalse long => simp [long]
  · rw [wordSum_of_lt (Nat.not_le.mp word)]
    refine iff_of_false nofun ?_
    rintro ⟨fits, -⟩
    exact word (Nat.le_trans fits words)

/-! ## Excerpts -/

variable {error : SyntaxError} {source text : String} {column context : Nat}

/-- An excerpt shows the lines above a line, this line, the caret's row and the lines below, if
there is a caret's row. -/
theorem excerpt_of_cut {above below : List (Nat × List Char)} {chars : List Char}
    (word : line + context ≤ Numeral.unsignedLimit)
    (shown : min (line + context) lines.length = last)
    (cut : numbered lines (max (line - context) 1) last = above ++ (line, chars) :: below)
    (above_others : ∀ shown ∈ above, shown.1 ≠ line)
    (below_others : ∀ shown ∈ below, shown.1 ≠ line) :
    excerpt lines line column context =
      (wordSum (numberWidth last + 2) (column - 1) >>= caretRow).map fun caret =>
        above.map (numberedRow (numberWidth last)) ++
          numberedRow (numberWidth last) (line, chars) :: caret ::
            below.map (numberedRow (numberWidth last)) := by
  have own : rowsOf (numberWidth last) line column (line, chars) =
      (wordSum (numberWidth last + 2) (column - 1) >>= caretRow).map fun caret =>
        [numberedRow (numberWidth last) (line, chars), caret] := by
    rw [rowsOf, if_pos rfl]
    cases wordSum (numberWidth last + 2) (column - 1) with
    | error fault => rfl
    | ok blanks => cases caretRow blanks <;> rfl
  rw [excerpt, wordSum_of_le word]
  change ((numbered lines (max (line - context) 1) (min (line + context) lines.length)).mapM
    (rowsOf (numberWidth (min (line + context) lines.length)) line column) >>= _) = _
  rw [shown, cut, List.mapM_append, List.mapM_cons, mapM_rowsOf above_others,
    mapM_rowsOf below_others, own]
  cases wordSum (numberWidth last + 2) (column - 1) >>= caretRow with
  | error fault => rfl
  | ok caret =>
    change Except.ok (List.flatten (_ ++ _ :: _)) = Except.ok _
    rw [List.flatten_append, List.flatten_cons, flatten_rows, flatten_rows]
    rfl

/-- There is an excerpt around a line exactly if the caret's row is no longer than a text can be. -/
theorem excerpt_eq_ok_iff {above below : List (Nat × List Char)} {chars : List Char}
    {rows : List (List Char)} (word : line + context ≤ Numeral.unsignedLimit)
    (shown : min (line + context) lines.length = last)
    (cut : numbered lines (max (line - context) 1) last = above ++ (line, chars) :: below)
    (above_others : ∀ shown ∈ above, shown.1 ≠ line)
    (below_others : ∀ shown ∈ below, shown.1 ≠ line) :
    excerpt lines line column context = .ok rows ↔
      numberWidth last + 2 + (column - 1) ≤ Numeral.signedLimit ∧
        rows = above.map (numberedRow (numberWidth last)) ++
          numberedRow (numberWidth last) (line, chars) ::
            (List.replicate (numberWidth last + 2 + (column - 1)) ' ' ++ ['^']) ::
              below.map (numberedRow (numberWidth last)) := by
  rw [excerpt_of_cut word shown cut above_others below_others]
  constructor
  · intro made
    cases row : wordSum (numberWidth last + 2) (column - 1) >>= caretRow with
    | error fault => rw [row] at made; contradiction
    | ok caret =>
      rw [row] at made
      obtain ⟨fits, rfl⟩ := caretRow_eq_ok_iff.mp row
      exact ⟨fits, (Except.ok.inj made).symm⟩
  · rintro ⟨fits, rfl⟩
    rw [caretRow_eq_ok_iff.mpr ⟨fits, rfl⟩]
    rfl

/-- There is no excerpt if the number of the last line asked for is no word. -/
theorem excerpt_of_exceeds (exceeds : Numeral.unsignedLimit < line + context) :
    excerpt lines line column context = .error .overflow := by
  rw [excerpt, wordSum_of_lt exceeds]
  rfl

/-- If the number of the last line asked for is a word, an excerpt consists of the rows that it
should consist of, and there is one exactly if the caret's row is no longer than a text can be. -/
theorem exists_pictures (line_pos : 1 ≤ error.line) (line_le : error.line ≤ lines.length)
    (word : error.line + context ≤ Numeral.unsignedLimit)
    (shown : min (error.line + context) lines.length = last) :
    ∃ above marked caret below, error.Pictures lines context (numberWidth last) above marked caret
        below ∧
      ∀ rows, excerpt lines error.line error.column context = .ok rows ↔
        numberWidth last + 2 + (error.column - 1) ≤ Numeral.signedLimit ∧
          rows = above ++ marked :: caret :: below := by
  obtain ⟨first, first_eq⟩ : ∃ first, first = max 1 (error.line - context) := ⟨_, rfl⟩
  obtain ⟨above, chars, below, cut, above_numbers, below_numbers⟩ :=
    @numbered_cut lines first last error.line (by omega) (by omega) (by omega) (by omega)
  have wide : (digits last).length ≤ numberWidth last := Nat.le_max_left _ 3
  have each : ∀ shown ∈ above ++ (error.line, chars) :: below,
      Shows lines (numberWidth last) shown.1 (numberedRow (numberWidth last) shown) :=
    fun shown mem => shows_of_mem_numbered (cut ▸ mem) wide
  have marked : (error.line, chars) ∈ numbered lines first last := by simp [cut]
  obtain ⟨there, -, -⟩ := mem_numbered marked
  refine ⟨above.map (numberedRow (numberWidth last)),
    numberedRow (numberWidth last) (error.line, chars),
    List.replicate (numberWidth last + 2 + (error.column - 1)) ' ' ++ ['^'],
    below.map (numberedRow (numberWidth last)),
    ⟨?_, each (error.line, chars) (by simp), ?_, ?_, ?_⟩, ?_⟩
  · rw [← first_eq, ← above_numbers]
    exact forall₂_shows fun shown mem => each shown (List.mem_append_left _ mem)
  · have label := length_label (Nat.le_trans (length_digits_le (mem_numbered marked).2.2) wide)
    exact ⟨alignRight (numberWidth last) error.line ++ [':', ' '], chars, by simp [numberedRow],
      there, by rw [label]⟩
  · rw [shown, ← below_numbers]
    exact forall₂_shows fun shown mem =>
      each shown (List.mem_append_right _ (List.mem_cons_of_mem _ mem))
  · intro row mem
    rw [← List.map_cons, ← List.map_append] at mem
    obtain ⟨shown, listed, rfl⟩ := List.mem_map.mp mem
    exact (each shown listed).not_isCaret
  · intro rows
    exact excerpt_eq_ok_iff word shown (by rw [Nat.max_comm, ← first_eq, cut])
      (ne_of_mem_stretch above_numbers (by omega)) (ne_of_mem_stretch below_numbers (by omega))

/-- The rows of an excerpt can be told from their text. -/
theorem Pictures.lines_endLines {above below : List (List Char)} {marked caret : List Char}
    (pictures : error.Pictures (Text.lines source.toList) context width above marked caret below) :
    Text.lines (Text.endLines (above ++ marked :: caret :: below)) =
      above ++ marked :: caret :: below ++ [[]] := by
  have clean_row {n : Nat} {row : List Char}
      (shows : Shows (Text.lines source.toList) width n row) : '\n' ∉ row :=
    shows.newline_not_mem (Text.newline_not_mem_lines _)
  obtain ⟨label, chars, -, -, caret_eq⟩ := pictures.caret_under
  have clean : ∀ row ∈ above ++ marked :: caret :: below, '\n' ∉ row := by
    intro row mem
    rcases List.mem_append.mp mem with in_above | mem
    · obtain ⟨n, -, shows⟩ := exists_of_mem_forall₂ pictures.rows_above in_above
      exact clean_row shows
    rcases List.mem_cons.mp mem with rfl | mem
    · exact clean_row pictures.row_marked
    rcases List.mem_cons.mp mem with rfl | in_below
    · exact IsCaret.newline_not_mem ⟨_, caret_eq⟩
    · obtain ⟨n, -, shows⟩ := exists_of_mem_forall₂ pictures.rows_below in_below
      exact clean_row shows
  have rows := Text.lines_endLines_append clean []
  rwa [List.append_nil] at rows

/-- A rendered error is its message, the expected labels and the excerpt. -/
theorem render_eq_ok_iff : error.render source context = .ok text ↔
    ∃ rows, excerpt (Text.lines source.toList) error.line error.column context = .ok rows ∧
      text.toList =
        Text.endLines (error.message.toList :: error.expectation) ++ Text.endLines rows := by
  rw [render]
  cases excerpt (Text.lines source.toList) error.line error.column context with
  | error fault => exact iff_of_false nofun (by rintro ⟨rows, made, -⟩; contradiction)
  | ok rows =>
    constructor
    · intro made
      obtain rfl := Except.ok.inj made
      exact ⟨rows, rfl, by simp [Text.endLines]⟩
    · rintro ⟨others, made, same⟩
      obtain rfl := Except.ok.inj made
      refine congrArg Except.ok (String.toList_injective ?_)
      rw [same, String.toList_ofList]
      simp [Text.endLines]

/-- What is rendered points at its error. -/
theorem pointsAt_of_render (stands : error.StandsIn source)
    (rendered : error.render source context = .ok text) : error.PointsAt source context text := by
  obtain ⟨rows, made, same⟩ := render_eq_ok_iff.mp rendered
  by_cases word : error.line + context ≤ Numeral.unsignedLimit
  · obtain ⟨above, marked, caret, below, pictures, made_iff⟩ :=
      exists_pictures stands.line_pos stands.line_le word rfl
    obtain ⟨-, rfl⟩ := (made_iff rows).mp made
    exact ⟨_, _, above, marked, caret, below, same, pictures.lines_endLines, pictures⟩
  · rw [excerpt_of_exceeds (Nat.not_le.mp word)] at made
    contradiction

/-- An error is rendered if the number of the last line asked for is a word and the caret's row no
longer than a text can be. -/
theorem exists_render_iff (stands : error.StandsIn source) :
    (∃ text, error.render source context = .ok text) ↔
      error.line + context ≤ Numeral.unsignedLimit ∧
        error.caretPlace source context ≤ Numeral.signedLimit := by
  constructor
  · rintro ⟨text, rendered⟩
    obtain ⟨rows, made, -⟩ := render_eq_ok_iff.mp rendered
    by_cases word : error.line + context ≤ Numeral.unsignedLimit
    · obtain ⟨above, marked, caret, below, -, made_iff⟩ :=
        exists_pictures stands.line_pos stands.line_le word rfl
      exact ⟨word, ((made_iff rows).mp made).1⟩
    · rw [excerpt_of_exceeds (Nat.not_le.mp word)] at made
      contradiction
  · rintro ⟨word, room⟩
    obtain ⟨above, marked, caret, below, -, made_iff⟩ :=
      exists_pictures stands.line_pos stands.line_le word rfl
    have made := (made_iff _).mpr ⟨room, rfl⟩
    exact ⟨_, render_eq_ok_iff.mpr ⟨_, made, String.toList_ofList⟩⟩

/-- Excerpts point at the rejected character. The errors of a parse of a source, as long as
recasting leaves the places of tokens, are at lines and columns of this source. What is rendered of
an error at one of a source's lines shows the lines from `context` lines above the error's line, or
from the first one, to `context` lines below it, or to the last one, in order, each behind its
number aligned to one width, and one caret, directly below the error's line and under its column. An
error is rendered exactly if the number of the last line asked for is a word of 64 bits and the
caret's row is no longer than a text can be. -/
theorem pointsAt_iff (source : String) :
    (∀ {C V L : Type} [StackValue V] (engine : Engine C V), engine.lexer.KeepsPlaces →
      ∀ limit (listen : L → SyntaxError → L) log (context : C) outcome,
      engine.parse limit listen log context source = some outcome →
      ∀ error ∈ outcome.errors, error.StandsIn source) ∧
    ∀ (error : SyntaxError) (context : Nat), error.StandsIn source →
      (∀ text, error.render source context = .ok text → error.PointsAt source context text) ∧
      ((∃ text, error.render source context = .ok text) ↔
        error.line + context ≤ Numeral.unsignedLimit ∧
          error.caretPlace source context ≤ Numeral.signedLimit) := by
  refine ⟨?_, ?_⟩
  · intro C V L stack_value engine keeps limit listen log context outcome ended
    exact Engine.standsIn_of_parse keeps ended
  · intro error context stands
    exact ⟨fun text rendered => pointsAt_of_render stands rendered, exists_render_iff stands⟩

/-- An error on the second line, reported by a parse. With the greatest number of context lines for
which the last line asked for is a word it is rendered, and what is rendered points at it; with one
more it is not rendered. -/
theorem pointsAt_iff_second_line :
    let source := "a;\na a;\na;"
    let error : SyntaxError := ⟨2, 3, 5, "x", "", [";"]⟩
    Engine.clearingEngine.lexer.KeepsPlaces ∧
    (∃ outcome, Engine.clearingEngine.parse 40 (fun log error => log ++ [error]) [] [] source =
      some outcome ∧ outcome.errors = [error]) ∧
    error.StandsIn source ∧
    (∃ text, error.render source (Numeral.unsignedLimit - 2) = .ok text ∧
      error.PointsAt source (Numeral.unsignedLimit - 2) text) ∧
    ¬∃ text, error.render source (Numeral.unsignedLimit - 1) = .ok text := by
  intro source error
  have facts : (Engine.clearingEngine.parse 40 (fun log error => log ++ [error]) [] [] source).map
      Outcome.errors = some [error] := by
    decide +kernel
  obtain ⟨outcome, ended, errors⟩ := Option.map_eq_some_iff.mp facts
  obtain ⟨reported, renders⟩ := pointsAt_iff source
  have stands : error.StandsIn source :=
    reported Engine.clearingEngine Engine.keepsPlaces_clearingEngine 40
      (fun log error => log ++ [error]) [] [] outcome ended error (by simp [errors])
  obtain ⟨points, rendered_iff⟩ := renders error (Numeral.unsignedLimit - 2) stands
  obtain ⟨text, rendered⟩ := rendered_iff.mpr (by decide +kernel)
  obtain ⟨-, more_iff⟩ := renders error (Numeral.unsignedLimit - 1) stands
  refine ⟨Engine.keepsPlaces_clearingEngine, ⟨outcome, ended, errors⟩, stands,
    ⟨text, rendered, points text rendered⟩, ?_⟩
  intro more
  exact absurd (more_iff.mp more).1 (by decide)

/-- With as many context lines as a word can count, an error on a second line is not rendered. -/
theorem not_pointsAt_greatest_context :
    let source := "a;\nb   c;\nd;"
    let error : SyntaxError := ⟨2, 5, 7, "ID", "c", ["SEMI"]⟩
    error.StandsIn source ∧ Numeral.unsignedLimit = 18446744073709551615 ∧
    error.render source Numeral.unsignedLimit = .error .overflow ∧
    ¬∃ text, error.render source Numeral.unsignedLimit = .ok text ∧
      error.PointsAt source Numeral.unsignedLimit text := by
  intro source error
  have stops : error.render source Numeral.unsignedLimit = .error .overflow := by
    rw [render, excerpt_of_exceeds (by decide)]
    rfl
  refine ⟨⟨by decide, by decide +kernel, by decide⟩, by decide, stops, ?_⟩
  rintro ⟨text, rendered, -⟩
  rw [stops] at rendered
  nomatch rendered

end SyntaxError

end ShaderSyntax
