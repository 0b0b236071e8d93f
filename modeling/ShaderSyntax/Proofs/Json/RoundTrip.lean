import ShaderSyntax.Json.Reader
import ShaderSyntax.Json.Writer

/-!
# Written documents read back

A document whose numbers are natural and whose strings are texts is read back from its compact text
exactly as it was written (`read?_write`). The proof goes part by part: a number and a string are
read back in front of anything that cannot extend them, and a document in front of anything that may
follow a value. The reader bounds its depth by the length of the text; every call of it that does
not take a character is followed by one that does, so twice the characters ahead are always enough.
-/

set_option autoImplicit false

namespace ShaderSyntax.Json

/-! ## Numbers -/

/-- A text in front of which a number ends. -/
def EndsNumber (rest : List Char) : Prop :=
  ∀ c ∈ rest.head?, isDigit c = false ∧ c ≠ '.' ∧ c ≠ 'e' ∧ c ≠ 'E'

/-- Nothing extends a number. -/
theorem endsNumber_nil : EndsNumber [] := by
  intro c hc
  simp at hc

/-- A character that no number goes on with ends one. -/
theorem endsNumber_cons {c : Char} {rest : List Char} (digit : isDigit c = false)
    (point : c ≠ '.') (lower : c ≠ 'e') (upper : c ≠ 'E') : EndsNumber (c :: rest) := by
  intro d hd
  simp only [List.head?_cons, Option.mem_def, Option.some.injEq] at hd
  subst hd
  exact ⟨digit, point, lower, upper⟩

/-- The digits of a decimal number are digits to the reader. -/
theorem isDigit_of_mem_toDigits {n : Nat} {c : Char} (h : c ∈ Nat.toDigits 10 n) :
    isDigit c = true := by
  have digit := Nat.isDigit_of_mem_toDigits (by decide) (by decide) h
  simpa [isDigit, Char.isDigit, Char.le_def] using digit

/-- A positive number is not written with a leading zero. -/
theorem head?_toDigits_ne_zero {n : Nat} (positive : 0 < n) :
    (Nat.toDigits 10 n).head? ≠ some '0' := by
  induction n using Nat.strongRecOn with
  | ind n ih =>
    by_cases small : n < 10
    · rw [Nat.toDigits_of_lt_base small]
      have each : ∀ d, d < 10 → 0 < d → [Nat.digitChar d].head? ≠ some '0' := by decide
      exact each n small positive
    · rw [Nat.toDigits_of_base_le (by decide) (by omega)]
      have front := ih (n / 10) (by omega) (by omega)
      obtain ⟨d, ds, same⟩ := List.exists_cons_of_ne_nil
        (Nat.toDigits_ne_nil (n := n / 10) (b := 10))
      rw [same] at front ⊢
      exact front

/-- Digits are split off in front of anything that is no digit. -/
theorem readDigits_append {digits rest : List Char} (all : ∀ c ∈ digits, isDigit c = true)
    (stop : ∀ c ∈ rest.head?, isDigit c = false) :
    readDigits (digits ++ rest) = (digits, rest) := by
  have none_more : rest.takeWhile isDigit = [] ∧ rest.dropWhile isDigit = rest := by
    cases rest with
    | nil => simp
    | cons c rest => simp [stop c (by simp)]
  unfold readDigits
  rw [List.takeWhile_append_of_pos all, List.dropWhile_append_of_pos all]
  simp [none_more]

/-- The digits before the point of a natural number are all its digits. -/
theorem readWhole_toDigits {n : Nat} {rest : List Char} (ends : EndsNumber rest) :
    readWhole (Nat.toDigits 10 n ++ rest) = some (Nat.toDigits 10 n, rest) := by
  rcases Nat.eq_zero_or_pos n with rfl | positive
  · rw [Nat.toDigits_zero]
    rfl
  · have read := readDigits_append (fun c => isDigit_of_mem_toDigits (n := n))
      (fun c hc => (ends c hc).1)
    have leading := head?_toDigits_ne_zero positive
    have filled : Nat.toDigits 10 n ≠ [] := Nat.toDigits_ne_nil
    obtain ⟨d, ds, same⟩ := List.exists_cons_of_ne_nil filled
    rw [same] at read leading ⊢
    simp only [List.head?_cons, ne_eq, Option.some.injEq] at leading
    rw [List.cons_append] at read ⊢
    unfold readWhole
    split
    · rename_i heq
      simp only [List.cons.injEq] at heq
      exact absurd heq.1 leading
    · simp [read]

/-- A natural number is read back from its digits. -/
theorem readNumber_toDigits {n : Nat} {rest : List Char} (ends : EndsNumber rest) :
    readNumber (Nat.toDigits 10 n ++ rest) = some (Nat.toDigits 10 n, rest) := by
  have whole := readWhole_toDigits (n := n) ends
  have unsigned : readUnsigned (Nat.toDigits 10 n ++ rest) = some (Nat.toDigits 10 n, rest) := by
    unfold readUnsigned
    rw [whole]
    cases rest with
    | nil => simp [readFraction, readExponent]
    | cons c rest =>
      obtain ⟨-, point, lower, upper⟩ := ends c (by simp)
      have fraction : readFraction (c :: rest) = some ([], c :: rest) := by
        unfold readFraction
        split
        · simp_all
        · rfl
      simp [fraction, readExponent, lower, upper]
  obtain ⟨d, ds, same⟩ := List.exists_cons_of_ne_nil (Nat.toDigits_ne_nil (n := n) (b := 10))
  have digit : isDigit d = true := isDigit_of_mem_toDigits (n := n) (by simp [same])
  rw [same, List.cons_append] at unsigned ⊢
  unfold readNumber
  split
  · rename_i heq
    simp only [List.cons.injEq] at heq
    rw [heq.1] at digit
    simp [isDigit] at digit
  · exact unsigned

/-- A written number has its value, as far as machine words go. -/
theorem nat?_ofNat (n : Nat) : (ofNat n).nat? = if n < Nat.pow 2 64 then some n else none := by
  have all : (Nat.toDigits 10 n).all isDigit = true :=
    List.all_eq_true.mpr fun c => isDigit_of_mem_toDigits
  have filled : (Nat.toDigits 10 n).isEmpty = false := by
    simp [Nat.toDigits_ne_nil]
  have value : (Nat.toDigits 10 n).foldl (fun n c => 10 * n + (c.toNat - 48)) 0 = n := by
    have := Nat.ofDigitChars_ten_toDigits (n := n)
    rwa [Nat.ofDigitChars_eq_foldl] at this
  simp only [nat?, ofNat, Nat.toString_eq_ofList_toDigits, String.toList_ofList, all, filled, value,
    Bool.not_false, Bool.and_self, if_true]

/-! ## Strings -/

/-- The value of a written hexadecimal digit. -/
theorem hexValue?_hexDigit {d : Nat} (small : d < 16) : hexValue? (hexDigit d) = some d := by
  have each : ∀ d, d < 16 → hexValue? (hexDigit d) = some d := by decide
  exact each d small

/-- A control character is read back from its escape of four digits. -/
theorem unit?_control {c : Char} (control : c < ' ') :
    unit? '0' '0' (hexDigit (c.toNat / 16)) (hexDigit (c.toNat % 16)) = some c.toNat := by
  have bound : c.toNat < 32 := control
  have zero : hexValue? '0' = some 0 := by decide
  have high := hexValue?_hexDigit (d := c.toNat / 16) (by omega)
  have low := hexValue?_hexDigit (d := c.toNat % 16) (by omega)
  simp only [unit?, zero, high, low, Option.pure_def, Option.bind_eq_bind, Option.bind_some]
  congr 1
  omega

/-- A character that opens no escape and closes no string is taken as it is, unless it is a control
character. -/
theorem readText_plain {c : Char} (steps : Nat) (rest : List Char) (quote : c ≠ '"')
    (backslash : c ≠ '\\') :
    readText (steps + 1) (c :: rest) =
      if c < ' ' then none else (readText steps rest).map (push c) := by
  rw [readText.eq_def]
  split <;> simp_all

/-- One step of reading takes the written form of one character. -/
theorem readText_escape (steps : Nat) (c : Char) (rest : List Char) :
    readText (steps + 1) (escape c ++ rest) = (readText steps rest).map (push c) := by
  unfold escape
  split
  · subst_vars; simp [readText, shortEscape?]
  split
  · subst_vars; simp [readText, shortEscape?]
  split
  · subst_vars; simp [readText, shortEscape?]
  split
  · subst_vars; simp [readText, shortEscape?]
  split
  · subst_vars; simp [readText, shortEscape?]
  split
  · subst_vars; simp [readText, shortEscape?]
  split
  · subst_vars; simp [readText, shortEscape?]
  split
  · rename_i control
    have bound : c.toNat < 32 := control
    have high : ¬(0xD800 ≤ c.toNat) := by omega
    have low : ¬(0xDC00 ≤ c.toNat) := by omega
    simp [readText, unit?_control control, high, low]
  · rename_i quote backslash _ _ _ _ _ printable
    rw [List.singleton_append, readText_plain steps rest quote backslash, if_neg printable]

/-- A text is read back from its written form. -/
theorem readText_foldr (text rest : List Char) {steps : Nat} (enough : text.length < steps) :
    readText steps (text.foldr (fun c tail => escape c ++ tail) ('"' :: rest)) =
      some (some text, rest) := by
  induction text generalizing steps with
  | nil =>
    obtain ⟨steps, rfl⟩ := Nat.exists_eq_add_of_lt enough
    simp [readText]
  | cons c text ih =>
    obtain ⟨steps, rfl⟩ : ∃ more, steps = more + 1 := ⟨steps - 1, by omega⟩
    rw [List.foldr_cons, readText_escape, ih (by simpa using enough)]
    rfl

/-- A character is written with at least one. -/
theorem length_escape_pos (c : Char) : 0 < (escape c).length := by
  unfold escape
  repeat' split
  all_goals simp

/-- A written text is no shorter than the text. -/
theorem length_le_length_foldr (text rest : List Char) :
    text.length + rest.length ≤
      (text.foldr (fun c tail => escape c ++ tail) rest).length := by
  induction text with
  | nil => simp
  | cons c text ih =>
    have := length_escape_pos c
    simp only [List.foldr_cons, List.length_append, List.length_cons]
    omega

/-- A string is read back behind its opening quote. -/
theorem readContent_foldr (text : String) (rest : List Char) :
    readContent (text.toList.foldr (fun c tail => escape c ++ tail) ('"' :: rest)) =
      some (some text, rest) := by
  have written := length_le_length_foldr text.toList ('"' :: rest)
  simp only [List.length_cons] at written
  unfold readContent
  rw [readText_foldr text.toList rest (by omega)]
  simp

/-! ## Documents -/

/-- A document whose numbers are natural and whose strings, names included, are texts. -/
inductive Plain : Json → Prop where
  | null : Plain .null
  | bool (value : Bool) : Plain (.bool value)
  | number (n : Nat) : Plain (ofNat n)
  | string (text : String) : Plain (ofString text)
  | array {items : List Json} (each : ∀ item ∈ items, Plain item) : Plain (.array items)
  | object {fields : List (String × Json)} (each : ∀ field ∈ fields, Plain field.2) :
    Plain (ofFields fields)

/-- The document is read back in front of anything that may follow a value. -/
def ReadsBack (value : Json) : Prop :=
  ∀ depth rest, EndsNumber rest → 2 * (value.writeTo rest).length < depth →
    readValue depth (value.writeTo rest) = some (value, rest)

/-- A written document is no shorter than what it is written in front of. -/
theorem length_lt_length_writeText (text rest : List Char) :
    rest.length < (writeText text rest).length := by
  have written := length_le_length_foldr text ('"' :: rest)
  simp only [List.length_cons] at written
  simp only [writeText, List.length_cons]
  omega

mutual

/-- A document is written in front of the rest, which it does not shorten. -/
theorem length_le_length_writeTo (value : Json) (rest : List Char) :
    rest.length ≤ (value.writeTo rest).length := by
  match value with
  | .null =>
    simp only [writeTo, List.length_append]
    omega
  | .bool true =>
    simp only [writeTo, List.length_append]
    omega
  | .bool false =>
    simp only [writeTo, List.length_append]
    omega
  | .number spelling =>
    simp only [writeTo, List.length_append]
    omega
  | .string none =>
    simp only [writeTo, writeContent, List.length_append]
    omega
  | .string (some text) =>
    have := length_lt_length_writeText text.toList rest
    simp only [writeTo, writeContent]
    omega
  | .array [] =>
    simp only [writeTo, List.length_cons]
    omega
  | .array (item :: items) =>
    have first := length_le_length_writeTo item (writeItems items rest)
    have others := length_lt_length_writeItems items rest
    simp only [writeTo, List.length_cons]
    omega
  | .object [] =>
    simp only [writeTo, List.length_cons]
    omega
  | .object ((name, value) :: fields) =>
    have first := length_lt_length_writeField name value (writeFields fields rest)
    have others := length_lt_length_writeFields fields rest
    simp only [writeTo, List.length_cons]
    omega

/-- The items after the first one do not shorten the rest. -/
theorem length_lt_length_writeItems (items : List Json) (rest : List Char) :
    rest.length < (writeItems items rest).length := by
  match items with
  | [] => simp [writeItems]
  | item :: items =>
    have first := length_le_length_writeTo item (writeItems items rest)
    have others := length_lt_length_writeItems items rest
    simp only [writeItems, List.length_cons]
    omega

/-- A field does not shorten the rest. -/
theorem length_lt_length_writeField (name : Option String) (value : Json) (rest : List Char) :
    rest.length < (writeContent name (':' :: value.writeTo rest)).length := by
  have behind := length_le_length_writeTo value rest
  match name with
  | none =>
    simp only [writeContent, List.length_append, List.length_cons]
    omega
  | some text =>
    have := length_lt_length_writeText text.toList (':' :: value.writeTo rest)
    simp only [writeContent, List.length_cons] at this ⊢
    omega

/-- The fields after the first one do not shorten the rest. -/
theorem length_lt_length_writeFields (fields : List (Option String × Json)) (rest : List Char) :
    rest.length < (writeFields fields rest).length := by
  match fields with
  | [] => simp [writeFields]
  | (name, value) :: fields =>
    have first := length_lt_length_writeField name value (writeFields fields rest)
    have others := length_lt_length_writeFields fields rest
    simp only [writeFields, List.length_cons]
    omega

end

/-- Blanks are skipped in front of a character that is none: nothing. -/
theorem skipSpace_cons {c : Char} {rest : List Char} (h : isSpace c = false) :
    skipSpace (c :: rest) = c :: rest := by
  simp [skipSpace, h]

/-- A digit is no blank. -/
theorem isSpace_of_isDigit {c : Char} (digit : isDigit c = true) : isSpace c = false := by
  cases space : isSpace c with
  | false => rfl
  | true =>
    simp only [isSpace, Bool.or_eq_true, decide_eq_true_eq] at space
    rcases space with ((rfl | rfl) | rfl) | rfl <;> simp [isDigit] at digit

/-- A plain document starts with a character that is no blank and closes nothing. -/
theorem writeTo_eq_cons {value : Json} (plain : Plain value) (rest : List Char) :
    ∃ c tail, value.writeTo rest = c :: tail ∧ isSpace c = false ∧ c ≠ ']' := by
  cases plain with
  | null => exact ⟨_, _, rfl, by decide, by decide⟩
  | bool value => cases value <;> exact ⟨_, _, rfl, by decide, by decide⟩
  | number n =>
    obtain ⟨d, ds, same⟩ := List.exists_cons_of_ne_nil (Nat.toDigits_ne_nil (n := n) (b := 10))
    have digit : isDigit d = true := isDigit_of_mem_toDigits (n := n) (by simp [same])
    refine ⟨d, ds ++ rest, ?_, ?_, ?_⟩
    · simp [writeTo, ofNat, same]
    · exact isSpace_of_isDigit digit
    · rintro rfl
      simp [isDigit] at digit
  | string text => exact ⟨_, _, rfl, by decide, by decide⟩
  | @array items each => cases items <;> exact ⟨_, _, rfl, by decide, by decide⟩
  | @object fields each => cases fields <;> exact ⟨_, _, rfl, by decide, by decide⟩

/-- Items are read back as far as each of them is. -/
theorem readItems_writeItems {item : Json} {items : List Json} {rest : List Char} {depth : Nat}
    (each : ∀ value ∈ item :: items, ReadsBack value)
    (enough : 2 * (item.writeTo (writeItems items rest)).length + 1 < depth) :
    readItems depth (item.writeTo (writeItems items rest)) = some (item :: items, rest) := by
  induction items generalizing item depth with
  | nil =>
    obtain ⟨depth, rfl⟩ : ∃ more, depth = more + 1 := ⟨depth - 1, by omega⟩
    have first := each item (by simp) depth (writeItems [] rest)
      (endsNumber_cons (by decide) (by decide) (by decide) (by decide)) (by omega)
    rw [readItems, first]
    simp [writeItems, skipSpace_cons (show isSpace ']' = false by decide)]
  | cons next items ih =>
    obtain ⟨depth, rfl⟩ : ∃ more, depth = more + 1 := ⟨depth - 1, by omega⟩
    have first := each item (by simp) depth (writeItems (next :: items) rest)
      (endsNumber_cons (by decide) (by decide) (by decide) (by decide)) (by omega)
    have shorter := length_le_length_writeTo item (writeItems (next :: items) rest)
    simp only [writeItems, List.length_cons] at shorter enough
    have others := @ih next depth
      (fun value mem => each value (List.mem_cons_of_mem _ mem)) (by omega)
    rw [readItems, first]
    simp [writeItems, skipSpace_cons (show isSpace ',' = false by decide), others]

/-- Fields are read back as far as the value of each of them is. -/
theorem readFields_writeFields {field : String × Json} {fields : List (String × Json)}
    {rest : List Char} {depth : Nat} (each : ∀ entry ∈ field :: fields, ReadsBack entry.2)
    (enough : 2 * (writeContent (some field.1) (':' :: field.2.writeTo
      (writeFields (fields.map fun entry => (some entry.1, entry.2)) rest))).length + 1 < depth) :
    readFields depth (writeContent (some field.1) (':' :: field.2.writeTo
      (writeFields (fields.map fun entry => (some entry.1, entry.2)) rest))) =
      some ((field :: fields).map fun entry => (some entry.1, entry.2), rest) := by
  induction fields generalizing field depth with
  | nil =>
    obtain ⟨depth, rfl⟩ : ∃ more, depth = more + 1 := ⟨depth - 1, by omega⟩
    have named := length_lt_length_writeText field.1.toList
      (':' :: field.2.writeTo (writeFields [] rest))
    simp only [List.map_nil, writeContent, List.length_cons] at enough named
    have value := each field (by simp) depth (writeFields [] rest)
      (endsNumber_cons (by decide) (by decide) (by decide) (by decide)) (by omega)
    simp only [List.map_nil, writeContent, writeText]
    rw [readFields, skipSpace_cons (by decide)]
    simp only [readContent_foldr, skipSpace_cons (show isSpace ':' = false by decide), value]
    simp [writeFields, skipSpace_cons (show isSpace '\x7d' = false by decide)]
  | cons next fields ih =>
    obtain ⟨depth, rfl⟩ : ∃ more, depth = more + 1 := ⟨depth - 1, by omega⟩
    have named := length_lt_length_writeText field.1.toList
      (':' :: field.2.writeTo
        (writeFields ((next :: fields).map fun entry => (some entry.1, entry.2)) rest))
    have shorter := length_le_length_writeTo field.2
      (writeFields ((next :: fields).map fun entry => (some entry.1, entry.2)) rest)
    simp only [writeContent, List.length_cons] at enough named
    have value := each field (by simp) depth
      (writeFields ((next :: fields).map fun entry => (some entry.1, entry.2)) rest)
      (endsNumber_cons (by decide) (by decide) (by decide) (by decide)) (by omega)
    simp only [List.map_cons, writeFields, List.length_cons] at shorter enough named
    have others := @ih next depth
      (fun entry mem => each entry (List.mem_cons_of_mem _ mem)) (by omega)
    simp only [writeContent, writeText]
    rw [readFields, skipSpace_cons (by decide)]
    simp only [readContent_foldr, skipSpace_cons (show isSpace ':' = false by decide), value]
    simp [writeFields, skipSpace_cons (show isSpace ',' = false by decide), others]

/-- A plain document is read back in front of anything that may follow a value. -/
theorem readsBack_of_plain {value : Json} (plain : Plain value) : ReadsBack value := by
  induction plain with
  | null =>
    intro depth rest ends enough
    obtain ⟨depth, rfl⟩ : ∃ more, depth = more + 1 := ⟨depth - 1, by omega⟩
    simp [writeTo, readValue, skipSpace_cons (show isSpace 'n' = false by decide), expect?]
  | bool value =>
    intro depth rest ends enough
    obtain ⟨depth, rfl⟩ : ∃ more, depth = more + 1 := ⟨depth - 1, by omega⟩
    cases value with
    | true =>
      simp [writeTo, readValue, skipSpace_cons (show isSpace 't' = false by decide), expect?]
    | false =>
      simp [writeTo, readValue, skipSpace_cons (show isSpace 'f' = false by decide), expect?]
  | number n =>
    intro depth rest ends enough
    obtain ⟨depth, rfl⟩ : ∃ more, depth = more + 1 := ⟨depth - 1, by omega⟩
    have read := readNumber_toDigits (n := n) ends
    obtain ⟨d, ds, same⟩ := List.exists_cons_of_ne_nil (Nat.toDigits_ne_nil (n := n) (b := 10))
    have digit : isDigit d = true := isDigit_of_mem_toDigits (n := n) (by simp [same])
    have text : (ofNat n).writeTo rest = d :: (ds ++ rest) := by simp [writeTo, ofNat, same]
    rw [same, List.cons_append] at read
    have spelling : String.ofList (d :: ds) = toString n := by
      rw [← same, Nat.toString_eq_ofList_toDigits]
    rw [text, readValue, skipSpace_cons (isSpace_of_isDigit digit)]
    split
    case h_1 heq => simp at heq
    case h_8 =>
      rw [read, Option.map_some, spelling]
      rfl
    -- A digit opens no other kind of value.
    all_goals
      rename_i heq
      simp only [List.cons.injEq] at heq
      rw [heq.1] at digit
      simp [isDigit] at digit
  | string text =>
    intro depth rest ends enough
    obtain ⟨depth, rfl⟩ : ∃ more, depth = more + 1 := ⟨depth - 1, by omega⟩
    simp only [writeTo, ofString, writeContent, writeText]
    rw [readValue, skipSpace_cons (show isSpace '"' = false by decide)]
    simp only [readContent_foldr, Option.map_some]
  | @array items each ih =>
    intro depth rest ends enough
    obtain ⟨depth, rfl⟩ : ∃ more, depth = more + 1 := ⟨depth - 1, by omega⟩
    cases items with
    | nil =>
      simp [writeTo, readValue, skipSpace_cons (show isSpace '[' = false by decide),
        skipSpace_cons (show isSpace ']' = false by decide)]
    | cons item items =>
      simp only [writeTo, List.length_cons] at enough
      have read : readItems depth (item.writeTo (writeItems items rest)) =
          some (item :: items, rest) := readItems_writeItems ih (by omega)
      obtain ⟨c, tail, same, space, closing⟩ :=
        writeTo_eq_cons (each item (by simp)) (writeItems items rest)
      rw [same] at read
      simp only [writeTo, same]
      rw [readValue, skipSpace_cons (show isSpace '[' = false by decide)]
      simp only [skipSpace_cons space]
      split
      · rename_i heq
        simp only [List.cons.injEq] at heq
        exact absurd heq.1 closing
      · simp [read]
  | @object fields each ih =>
    intro depth rest ends enough
    obtain ⟨depth, rfl⟩ : ∃ more, depth = more + 1 := ⟨depth - 1, by omega⟩
    cases fields with
    | nil =>
      simp [ofFields, writeTo, readValue, skipSpace_cons (show isSpace '\x7b' = false by decide),
        skipSpace_cons (show isSpace '\x7d' = false by decide)]
    | cons field fields =>
      simp only [ofFields, List.map_cons, writeTo, List.length_cons] at enough
      have read := @readFields_writeFields field fields rest depth ih (by omega)
      simp only [ofFields, List.map_cons, writeTo, writeContent, writeText] at read ⊢
      rw [readValue, skipSpace_cons (show isSpace '\x7b' = false by decide)]
      simp only [skipSpace_cons (show isSpace '"' = false by decide)]
      split
      · rename_i heq
        simp at heq
      · rw [read]
        rfl

/-- A plain document is read back from its compact text. -/
theorem read?_write {value : Json} (plain : Plain value) : read? value.write = some value := by
  have read := readsBack_of_plain plain (2 * (value.writeTo []).length + 2) [] endsNumber_nil
    (by omega)
  simp [read?, write, read, skipSpace]

end ShaderSyntax.Json
