/-!
# Blank characters

The blanks of Unicode (property White_Space), and what is built on them: trimming a text and cutting
it into words. The main statements say that trimming takes off blanks only (`padded_trim`), and that
it takes off all blanks around a text that neither starts nor ends with one (`trim_of_padded`).
-/

set_option autoImplicit false

namespace ShaderSyntax.Text

/-- A character with the White_Space property; there are twenty-five of them. -/
def isBlank (c : Char) : Bool :=
  ('\t' ≤ c && c ≤ '\r') || c = ' ' || c = '\u0085' || c = '\u00a0' || c = '\u1680' ||
    ('\u2000' ≤ c && c ≤ '\u200a') || c = '\u2028' || c = '\u2029' || c = '\u202f' ||
    c = '\u205f' || c = '\u3000'

/-- The text without its leading blanks. -/
def trimLeft (text : List Char) : List Char :=
  text.dropWhile isBlank

/-- The text without its trailing blanks. -/
def trimRight (text : List Char) : List Char :=
  (text.reverse.dropWhile isBlank).reverse

/-- The text without the blanks at both ends. -/
def trim (text : List Char) : List Char :=
  trimRight (trimLeft text)

/-- Collects the words of a text; `word` holds, reversed, the characters of the word being read. -/
def wordsFrom (word : List Char) : List Char → List (List Char)
  | [] => if word.isEmpty then [] else [word.reverse]
  | c :: rest =>
    if isBlank c then
      if word.isEmpty then wordsFrom [] rest else word.reverse :: wordsFrom [] rest
    else wordsFrom (c :: word) rest

/-- The stretches between blanks, in order, none of them empty. -/
def words (text : List Char) : List (List Char) :=
  wordsFrom [] text

/-- A text with any blanks around it. -/
def Padded (inner text : List Char) : Prop :=
  ∃ before after, (∀ c ∈ before, isBlank c = true) ∧ (∀ c ∈ after, isBlank c = true) ∧
    text = before ++ inner ++ after

/-- A text is its trimmed form with blanks around it. -/
theorem padded_trim (text : List Char) : Padded (trim text) text := by
  let stripped := (trimLeft text).reverse
  refine ⟨text.takeWhile isBlank, (stripped.takeWhile isBlank).reverse, ?_, ?_, ?_⟩
  · exact List.all_eq_true.mp List.all_takeWhile
  · intro c mem
    exact List.all_eq_true.mp List.all_takeWhile c (List.mem_reverse.mp mem)
  · have front : text = text.takeWhile isBlank ++ trimLeft text :=
      List.takeWhile_append_dropWhile.symm
    have back : trimLeft text = trim text ++ (stripped.takeWhile isBlank).reverse := by
      rw [trim, trimRight, ← List.reverse_append, List.takeWhile_append_dropWhile,
        List.reverse_reverse]
    rw [List.append_assoc, ← back]
    exact front

/-- All blanks before a text are trimmed, and nothing of a text that starts otherwise. -/
theorem trimLeft_append {before text : List Char} (blank : ∀ c ∈ before, isBlank c = true)
    (starts : ∀ c, text.head? = some c → isBlank c = false) :
    trimLeft (before ++ text) = text := by
  rw [trimLeft, List.dropWhile_append_of_pos blank]
  cases text with
  | nil => rfl
  | cons c rest => rw [List.dropWhile_cons, starts c rfl, if_neg Bool.false_ne_true]

/-- A text that neither starts nor ends with a blank is found again between blanks. -/
theorem trim_of_padded {inner text : List Char} (padded : Padded inner text)
    (starts : ∀ c, inner.head? = some c → isBlank c = false)
    (ends : ∀ c, inner.getLast? = some c → isBlank c = false) (filled : inner ≠ []) :
    trim text = inner := by
  obtain ⟨before, after, blank_before, blank_after, rfl⟩ := padded
  have front : trimLeft (before ++ inner ++ after) = inner ++ after := by
    rw [List.append_assoc]
    refine trimLeft_append blank_before fun c first => starts c ?_
    cases inner with
    | nil => exact absurd rfl filled
    | cons first_char rest => exact first
  have back : trimLeft (after.reverse ++ inner.reverse) = inner.reverse := by
    refine trimLeft_append (fun c mem => blank_after c (List.mem_reverse.mp mem)) fun c last => ?_
    exact ends c (List.head?_reverse ▸ last)
  rw [trim, front, trimRight, List.reverse_append, ← trimLeft, back, List.reverse_reverse]

end ShaderSyntax.Text
