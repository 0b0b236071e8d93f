/-!
# Positions in a text

Lines and columns count from one and in characters; offsets count UTF-8 bytes from zero. A cursor
walks over a text piece by piece and keeps the span of the piece it passed last. The main statements
say that walking over two pieces is walking over their concatenation (`Position.after_append`,
`utf8Length_append`), so a cursor's place depends only on the text behind it, and that this place
can be counted from the text (`Position.after_origin`).
-/

set_option autoImplicit false

namespace ShaderSyntax

/-- The number of bytes of a text in UTF-8. -/
def utf8Length (text : List Char) : Nat :=
  text.foldr (fun c bytes => c.utf8Size + bytes) 0

/-- The empty text takes no bytes. -/
@[simp] theorem utf8Length_nil : utf8Length [] = 0 := rfl

/-- A text takes the bytes of its first character and those of the rest. -/
@[simp] theorem utf8Length_cons (c : Char) (text : List Char) :
    utf8Length (c :: text) = c.utf8Size + utf8Length text := rfl

/-- Texts in a row take their bytes together. -/
@[simp] theorem utf8Length_append (first second : List Char) :
    utf8Length (first ++ second) = utf8Length first + utf8Length second := by
  induction first with
  | nil => simp
  | cons c rest ih => rw [List.cons_append, utf8Length_cons, utf8Length_cons, ih, Nat.add_assoc]

/-- A place in a text, both numbers counting from one. -/
structure Position where
  line : Nat
  column : Nat
  deriving DecidableEq, Repr

namespace Position

/-- The place of the first character of a text. -/
def origin : Position := ⟨1, 1⟩

/-- The place after one character: a line feed starts a line, any other takes one column. -/
def next (place : Position) (c : Char) : Position :=
  if c = '\n' then ⟨place.line + 1, 1⟩ else ⟨place.line, place.column + 1⟩

/-- The place after a whole text. -/
def after (place : Position) (text : List Char) : Position :=
  text.foldl next place

/-- The empty text leaves a position where it is. -/
@[simp] theorem after_nil (place : Position) : place.after [] = place := rfl

/-- A position moves over a text character by character. -/
@[simp] theorem after_cons (place : Position) (c : Char) (text : List Char) :
    place.after (c :: text) = (place.next c).after text := rfl

/-- A position moves over texts in a row one after the other. -/
@[simp] theorem after_append (place : Position) (first second : List Char) :
    place.after (first ++ second) = (place.after first).after second := by
  simp [after]

/-- The place behind a text that starts at the origin, counted from the text alone: the line feeds
in it, and the characters behind the last of them. -/
def endOf (text : List Char) : Position :=
  ⟨1 + text.count '\n', 1 + (text.reverse.takeWhile (· ≠ '\n')).length⟩

/-- Walking over a text ends at the place that is counted from it. -/
theorem after_origin (text : List Char) : origin.after text = endOf text := by
  -- the last character comes first in the reversed text
  suffices backwards : ∀ rev : List Char, origin.after rev.reverse = endOf rev.reverse by
    simpa using backwards text.reverse
  intro rev
  induction rev with
  | nil => rfl
  | cons c rev ih =>
    rw [List.reverse_cons, after_append, ih, after_cons, after_nil, next]
    by_cases feed : c = '\n'
    · simp [endOf, feed, Nat.add_assoc]
    · simp [endOf, feed, Nat.add_assoc]

end Position

/-- A place and a number of bytes belong to one point of a text: they are where some front of it
ends. -/
def Position.At (place : Position) (offset : Nat) (text : List Char) : Prop :=
  ∃ front, front <+: text ∧ utf8Length front = offset ∧ Position.endOf front = place

namespace Position

/-- Only the empty text ends where it starts. -/
theorem endOf_append_eq_left {front more : List Char} (same : endOf (front ++ more) = endOf front) :
    more = [] := by
  have lines := congrArg line same
  have columns := congrArg column same
  simp only [endOf, List.count_append] at lines
  have no_feed : ∀ c ∈ more.reverse, decide (c ≠ '\n') = true := by
    intro c there
    rw [List.mem_reverse] at there
    have none_counted : more.count '\n' = 0 := by omega
    have absent := List.count_eq_zero.mp none_counted
    simp only [decide_eq_true_eq]
    rintro rfl
    exact absent there
  simp only [endOf, List.reverse_append, List.takeWhile_append_of_pos no_feed, List.length_append,
    List.length_reverse] at columns
  exact List.length_eq_zero_iff.mp (by omega)

variable {place : Position} {offset other : Nat} {text : List Char}

/-- A place in a text is not behind its end. -/
theorem At.offset_le (at_place : place.At offset text) : offset ≤ utf8Length text := by
  obtain ⟨front, ⟨more, rfl⟩, rfl, -⟩ := at_place
  rw [utf8Length_append]
  exact Nat.le_add_right _ _

/-- A place of a text is behind a certain number of bytes. -/
theorem At.offset_eq (first : place.At offset text) (second : place.At other text) :
    offset = other := by
  obtain ⟨front, short, rfl, rfl⟩ := first
  obtain ⟨longer, long, rfl, same⟩ := second
  rcases List.prefix_or_prefix_of_prefix short long with ⟨more, rfl⟩ | ⟨more, rfl⟩
  · rw [endOf_append_eq_left same, List.append_nil]
  · rw [endOf_append_eq_left same.symm, List.append_nil]

end Position

/-- A stretch of a text: the place of its first character and the place just past its last one. -/
structure Span where
  start : Position
  stop : Position
  deriving DecidableEq, Repr

/-- A reader's place in a text: the bytes behind it and the span of the piece it passed last. -/
structure Cursor where
  offset : Nat
  span : Span
  deriving DecidableEq, Repr

namespace Cursor

/-- The cursor before the first character. -/
def origin : Cursor := ⟨0, ⟨Position.origin, Position.origin⟩⟩

/-- Passes over a piece of text; the span then covers exactly that piece. -/
def advance (cursor : Cursor) (text : List Char) : Cursor :=
  ⟨cursor.offset + utf8Length text, ⟨cursor.span.stop, cursor.span.stop.after text⟩⟩

/-- Advancing over a text adds its bytes to the offset. -/
@[simp] theorem offset_advance (cursor : Cursor) (text : List Char) :
    (cursor.advance text).offset = cursor.offset + utf8Length text := rfl

/-- The span of what is advanced over starts where the last one stopped. -/
@[simp] theorem start_advance (cursor : Cursor) (text : List Char) :
    (cursor.advance text).span.start = cursor.span.stop := rfl

/-- The span of what is advanced over stops behind it. -/
@[simp] theorem stop_advance (cursor : Cursor) (text : List Char) :
    (cursor.advance text).span.stop = cursor.span.stop.after text := rfl

end Cursor

end ShaderSyntax
