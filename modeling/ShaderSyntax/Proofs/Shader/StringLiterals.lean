import ShaderSyntax.Proofs.Shader.Spelling

/-!
# String literals

A string literal is taken apart in two passes, one for escaped quotes and one for escaped
backslashes. What the rule for string literals fits is made of single characters and of backslashes
with a character behind them (`Shader.IsBody`), so a quote is never bare and the two passes together
find what one pass from the left finds (`Shader.resolve_body`). Hence quoting is undone: the lexer
reads a quoted text as one string literal, which stands for the text
(`Shader.unquote_of_stream`).
-/

set_option autoImplicit false

namespace ShaderSyntax.Shader

open scoped Computability

variable {lexer : Lexer} {text rest : List Char} {c escaped : Char}

/-- One pass over a text from the left: a backslash before a quote or before a backslash stands for
what follows it, every other character stands for itself. -/
def decode : List Char → List Char
  | '\\' :: '"' :: rest => '"' :: decode rest
  | '\\' :: '\\' :: rest => '\\' :: decode rest
  | c :: rest => c :: decode rest
  | [] => []

/-- What stands between the quotes of a string literal: characters other than quotes, backslashes
and line feeds, and backslashes each with a character of the line behind it. -/
inductive IsBody : List Char → Prop
  | nil : IsBody []
  | plain {c : Char} {rest : List Char} (not_quote : c ≠ '"') (not_backslash : c ≠ '\\')
      (inline : c ≠ '\n') (body : IsBody rest) : IsBody (c :: rest)
  | escape {c : Char} {rest : List Char} (inline : c ≠ '\n') (body : IsBody rest) :
      IsBody ('\\' :: c :: rest)

/-! ## Two passes -/

/-- An escape at the start is resolved to the character it escapes. -/
theorem resolveEscape_escaped :
    resolveEscape escaped ('\\' :: escaped :: rest) = escaped :: resolveEscape escaped rest := by
  rw [resolveEscape, if_pos rfl]

/-- A character other than a backslash is kept. -/
theorem resolveEscape_plain (plain : c ≠ '\\') :
    resolveEscape escaped (c :: rest) = c :: resolveEscape escaped rest := by
  rw [resolveEscape]
  rintro _ _ rfl
  contradiction

/-- A backslash stands for itself if what is escaped does not follow it. -/
theorem resolveEscape_backslash (other : rest.head? ≠ some escaped) :
    resolveEscape escaped ('\\' :: rest) = '\\' :: resolveEscape escaped rest := by
  cases rest with
  | nil => simp [resolveEscape]
  | cons c rest => rw [resolveEscape, if_neg fun same => other (congrArg some same)]

/-- What stands between quotes does not start with one. -/
theorem IsBody.head_ne (body : IsBody text) : text.head? ≠ some '"' := by
  cases body with
  | nil => simp
  | plain not_quote => simpa using not_quote
  | escape => simp

/-- A character other than a backslash stands for itself. -/
theorem decode_plain (plain : c ≠ '\\') : decode (c :: rest) = c :: decode rest := by
  rw [decode]
  · rintro _ rfl
    contradiction
  · rintro _ rfl
    contradiction

/-- A backslash before a character that needs none stands for itself. -/
theorem decode_backslash (not_quote : c ≠ '"') (not_backslash : c ≠ '\\') :
    decode ('\\' :: c :: rest) = '\\' :: c :: decode rest := by
  rw [decode, decode_plain not_backslash]
  · rintro _ - same
    exact not_quote (List.cons.inj same).1
  · rintro _ - same
    exact not_backslash (List.cons.inj same).1

/-- Between the quotes of a string literal the two passes find what one pass finds. -/
theorem resolve_body (body : IsBody text) :
    resolveEscape '\\' (resolveEscape '"' text) = decode text := by
  induction body with
  | nil => simp [resolveEscape, decode]
  | plain not_quote not_backslash inline body ih =>
    rw [resolveEscape_plain not_backslash, resolveEscape_plain not_backslash, ih,
      decode_plain not_backslash]
  | @escape c rest inline body ih =>
    -- the character behind the backslash tells which of the passes resolves the escape
    by_cases quote : c = '"'
    · subst quote
      rw [resolveEscape_escaped, resolveEscape_plain (by decide), ih, decode]
    by_cases backslash : c = '\\'
    · -- the first pass leaves both, since what comes behind them begins with no quote
      subst backslash
      rw [resolveEscape_backslash (by simp), resolveEscape_backslash body.head_ne,
        resolveEscape_escaped, ih, decode]
    · have left : resolveEscape '"' ('\\' :: c :: rest) =
          '\\' :: c :: resolveEscape '"' rest := by
        rw [resolveEscape_backslash (by simpa using quote), resolveEscape_plain backslash]
      rw [left, resolveEscape_backslash (by simpa using backslash),
        resolveEscape_plain backslash, ih, decode_backslash quote backslash]

/-! ## The rule for string literals -/

/-- The characters that stand for themselves in a string literal. -/
def plainSet : CharSet :=
  .complement (.union (.union (.union .none (.single '"')) (.single '\\')) (.single '\n'))

/-- A character of a string literal, or a backslash with what it escapes. -/
def unitPattern : Pattern :=
  .alt (.set plainSet) (.seq (.set (.single '\\')) (.set .anyInLine))

/-- The pattern of string literals. -/
def stringPattern : Pattern :=
  .seq (.set (.single '"')) (.seq (.star true unitPattern) (.set (.single '"')))

/-- The plain characters are all but quotes, backslashes and line feeds. -/
theorem contains_plainSet :
    plainSet.contains c = true ↔ c ≠ '"' ∧ c ≠ '\\' ∧ c ≠ '\n' := by
  simp only [plainSet, CharSet.contains, Bool.not_eq_true', ← Bool.not_eq_true, Bool.or_eq_true,
    contains_single, Bool.false_eq_true, false_or, not_or, and_assoc]

/-- The characters of a line are all but line feeds. -/
theorem contains_anyInLine : CharSet.anyInLine.contains c = true ↔ c ≠ '\n' := by
  simp only [CharSet.anyInLine, CharSet.contains, Bool.not_eq_true', ← Bool.not_eq_true,
    contains_single]

/-- What the repetition in the rule for string literals fits is what may stand between quotes. -/
theorem mem_units_iff : text ∈ (Pattern.star true unitPattern).language ↔ IsBody text := by
  constructor
  · intro fits
    obtain ⟨units, rfl, all⟩ := Language.mem_kstar.mp fits
    clear fits
    induction units with
    | nil => exact .nil
    | cons unit units ih =>
      obtain ⟨first, later⟩ := List.forall_mem_cons.mp all
      obtain ⟨c, plain, rfl⟩ | escape := Pattern.mem_alt.mp first
      · obtain ⟨not_quote, not_backslash, inline⟩ := contains_plainSet.mp plain
        exact .plain not_quote not_backslash inline (ih later)
      · obtain ⟨_, ⟨backslash, is_backslash, rfl⟩, _, ⟨c, inline, rfl⟩, rfl⟩ :=
          Pattern.mem_seq.mp escape
        obtain rfl := contains_single.mp is_backslash
        exact .escape (contains_anyInLine.mp inline) (ih later)
  · intro body
    induction body with
    | nil => exact Language.nil_mem_kstar _
    | @plain c rest not_quote not_backslash inline body ih =>
      have unit : [c] ∈ unitPattern.language :=
        .inl ⟨c, contains_plainSet.mpr ⟨not_quote, not_backslash, inline⟩, rfl⟩
      exact Pattern.append_mem_star unit ih
    | @escape c rest inline body ih =>
      have unit : ['\\'] ++ [c] ∈ unitPattern.language :=
        .inr (Language.append_mem_mul ⟨'\\', by decide, rfl⟩
          ⟨c, contains_anyInLine.mpr inline, rfl⟩)
      exact Pattern.append_mem_star unit ih

/-- The rule for string literals fits quotes with a body between them. -/
theorem mem_stringPattern_iff :
    text ∈ stringPattern.language ↔ ∃ body, IsBody body ∧ text = '"' :: (body ++ ['"']) := by
  constructor
  · intro fits
    obtain ⟨_, ⟨opening, is_opening, rfl⟩, _, behind, rfl⟩ := Pattern.mem_seq.mp fits
    obtain ⟨body, units, _, ⟨closing, is_closing, rfl⟩, rfl⟩ := Pattern.mem_seq.mp behind
    obtain rfl := contains_single.mp is_opening
    obtain rfl := contains_single.mp is_closing
    exact ⟨body, mem_units_iff.mp units, rfl⟩
  · rintro ⟨body, units, rfl⟩
    refine Pattern.mem_seq.mpr ⟨['"'], ⟨'"', by decide, rfl⟩, body ++ ['"'], ?_, rfl⟩
    exact Pattern.mem_seq.mpr ⟨body, mem_units_iff.mpr units, ['"'], ⟨'"', by decide, rfl⟩, rfl⟩

/-- The rule for string literals has their pattern. -/
theorem read_stringRule :
    ∀ rule ∈ keptRules, rule.1 = "STRLIT" → Pattern.read? rule.2 = some stringPattern := by
  decide +kernel

/-! ## What a string literal stands for -/

/-- Between the quotes of a quoted text is the text. -/
theorem betweenQuotes_quoted (body : List Char) :
    betweenQuotes ('"' :: (body ++ ['"'])) = body := by
  simp [betweenQuotes]

/-- A string literal stands for what one pass over the text between its quotes finds. -/
theorem unquote_quoted {body : List Char} (is_body : IsBody body) {text : String}
    (whole : text.toList = '"' :: (body ++ ['"'])) :
    unquote text = String.ofList (decode body) := by
  rw [unquote, whole, betweenQuotes_quoted, resolve_body is_body]

/-! ## Quoting -/

/-- A character as it is written in a string literal. -/
def quoteChar (c : Char) : List Char :=
  if c = '\\' then ['\\', '\\'] else if c = '"' then ['\\', '"'] else [c]

/-- A text in quotes, with a backslash before each quote and each backslash in it. -/
def quote (text : String) : String :=
  String.ofList ('"' :: (text.toList.flatMap quoteChar ++ ['"']))

/-- A text on one line, quoted character by character, may stand between quotes. -/
theorem isBody_flatMap_quoteChar (inline : '\n' ∉ text) : IsBody (text.flatMap quoteChar) := by
  induction text with
  | nil => exact .nil
  | cons c rest ih =>
    obtain ⟨not_here, later⟩ := not_or.mp (mt List.mem_cons.mpr inline)
    rw [List.flatMap_cons, quoteChar]
    split
    case isTrue => exact .escape (by decide) (ih later)
    case isFalse not_backslash =>
      split
      case isTrue => exact .escape (by decide) (ih later)
      case isFalse not_quote => exact .plain not_quote not_backslash (Ne.symm not_here) (ih later)

/-- Escaping is undone by one pass. -/
theorem decode_flatMap_quoteChar (text : List Char) : decode (text.flatMap quoteChar) = text := by
  induction text with
  | nil => rfl
  | cons c rest ih =>
    rw [List.flatMap_cons, quoteChar]
    split
    case isTrue backslash =>
      show decode ('\\' :: '\\' :: rest.flatMap quoteChar) = c :: rest
      rw [decode, ih, backslash]
    case isFalse not_backslash =>
      split
      case isTrue quote =>
        show decode ('\\' :: '"' :: rest.flatMap quoteChar) = c :: rest
        rw [decode, ih, quote]
      case isFalse =>
        show decode (c :: rest.flatMap quoteChar) = c :: rest
        rw [decode_plain not_backslash, ih]

/-- A text that the lexer takes as one lexeme is read as the token of this lexeme. -/
theorem stream_of_one_lexeme {source : String} {lexeme : Lexeme}
    (kept : lexeme.rule.discard = false)
    (taken : lexer.lexeme? source.toList = some (lexeme, [])) :
    lexer.stream source = [.ok (lexeme.rule.finish ⟨lexeme.rule.kind, String.ofList lexeme.text, 0,
      (Cursor.origin.advance lexeme.text).span⟩)] := by
  have whole : lexer.read source.toList = _ :=
    @Scan.reading_of_lexeme? lexer (.start source.toList) lexeme [] rfl taken
  rw [Lexer.stream, whole, Scan.reading_of_none rfl lexer.lexeme?_nil]
  simp only [Reading.stream, Piece.token?, kept, List.filterMap_cons, List.filterMap_nil]
  rfl

/-- A text that a rule fits as a whole is taken as one lexeme: nothing is longer. -/
theorem lexeme?_of_fits (made : Shader.lexer = .ok lexer) {rule : TokenRule}
    (listed : rule ∈ tokenRules) (fits : rule.Fits text) (filled : text ≠ []) :
    lexer.lexeme? text = some (⟨rule, text⟩, []) := by
  refine (lexeme?_eq_some_iff made).mpr ⟨⟨listed, List.prefix_refl _, fits, ?_⟩, filled, ?_⟩
  · exact fun _ _ word ahead _ => ahead.length_le
  · exact List.append_nil _

/-- The rule for string literals keeps its tokens as they are. -/
theorem exists_stringRule : ∃ rule ∈ tokenRules, rule.kind = "STRLIT" ∧ rule.discard = false ∧
    rule.recast = none ∧ Pattern.read? rule.pattern = some stringPattern := by
  obtain ⟨rule, listed, kind⟩ : ∃ rule ∈ keptRules, rule.1 = "STRLIT" := by decide +kernel
  refine ⟨_, List.mem_append_right _ (List.mem_map_of_mem listed), kind, rfl, ?_,
    read_stringRule rule listed kind⟩
  rw [kind]
  rfl

/-- The lexer reads a text in quotes as one string literal. -/
theorem stream_quote (made : Shader.lexer = .ok lexer) {text : String}
    (inline : '\n' ∉ text.toList) :
    ∃ span, lexer.stream (quote text) = [.ok ⟨"STRLIT", quote text, 0, span⟩] := by
  obtain ⟨rule, listed, kind, kept, recast, reads⟩ := exists_stringRule
  have quoted : (quote text).toList = '"' :: (text.toList.flatMap quoteChar ++ ['"']) := by
    rw [quote, String.toList_ofList]
  have fits : rule.Fits (quote text).toList := by
    refine ⟨stringPattern, reads, mem_stringPattern_iff.mpr ⟨_, ?_, quoted⟩⟩
    exact isBody_flatMap_quoteChar inline
  have filled : (quote text).toList ≠ [] := by
    rw [quoted]
    exact List.cons_ne_nil _ _
  have taken := lexeme?_of_fits made listed fits filled
  have stream := stream_of_one_lexeme kept taken
  simp only [TokenRule.finish, recast, kind, String.ofList_toList] at stream
  exact ⟨_, stream⟩

/-- A string literal of the lexer stands for what one pass from the left over the text between its
quotes finds. A text without line feeds, put in quotes with a backslash before each quote and each
backslash in it, is read as one string literal, and this stands for the text. -/
theorem unquote_of_stream (made : Shader.lexer = .ok lexer) :
    (∀ (source : String) (token : Token), .ok token ∈ lexer.stream source →
      token.kind = "STRLIT" →
      ∃ body, token.text.toList = '"' :: (body ++ ['"']) ∧
        unquote token.text = String.ofList (decode body)) ∧
    ∀ text : String, '\n' ∉ text.toList →
      (∃ span, lexer.stream (quote text) = [.ok ⟨"STRLIT", quote text, 0, span⟩]) ∧
        unquote (quote text) = text := by
  constructor
  · intro source token read kind
    have fits := fits_of_kind made read (by decide +kernel) read_stringRule kind
    obtain ⟨body, is_body, whole⟩ := mem_stringPattern_iff.mp fits
    exact ⟨body, whole, unquote_quoted is_body whole⟩
  · intro text inline
    refine ⟨stream_quote made inline, ?_⟩
    have quoted := unquote_quoted (isBody_flatMap_quoteChar inline) String.toList_ofList
    rw [decode_flatMap_quoteChar, String.ofList_toList] at quoted
    exact quoted

/-- A literal with an escaped backslash, an escaped quote and a backslash that escapes nothing, one
next to the other; and a text of a backslash and a quote, put in quotes. -/
theorem unquote_of_stream_backslashes :
    ∃ lexer, Shader.lexer = .ok lexer ∧
      lexer.stream "\"\\\\\\\"\\q\"" =
        [.ok ⟨"STRLIT", "\"\\\\\\\"\\q\"", 0, ⟨⟨1, 1⟩, ⟨1, 9⟩⟩⟩] ∧
      unquote "\"\\\\\\\"\\q\"" = "\\\"\\q" ∧ '\n' ∉ "\\\"".toList ∧
      (∃ span, lexer.stream (quote "\\\"") = [.ok ⟨"STRLIT", quote "\\\"", 0, span⟩]) ∧
      unquote (quote "\\\"") = "\\\"" := by
  obtain ⟨lexer, made, stream⟩ := exists_stream_eq "\"\\\\\\\"\\q\""
    [⟨"STRLIT", "\"\\\\\\\"\\q\"", 0, ⟨⟨1, 1⟩, ⟨1, 9⟩⟩⟩] (by decide +kernel)
  obtain ⟨literals, quoted⟩ := unquote_of_stream made
  obtain ⟨body, whole, value⟩ := literals _ _ (by rw [stream]; exact List.mem_cons_self) rfl
  have between : "\"\\\\\\\"\\q\"".toList.tail.dropLast = body := by
    rw [whole, List.tail_cons, List.dropLast_concat]
  refine ⟨lexer, made, stream, ?_, by decide, quoted "\\\"" (by decide)⟩
  rw [value, ← between]
  decide

end ShaderSyntax.Shader
