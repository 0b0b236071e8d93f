import ShaderSyntax.Proofs.Shader.Spelling

/-!
# Layout

What separates the tokens of a shader text, blanks or comments, matters only in that it separates
them. No rule goes on over a blank from what a rule for tokens fits (`not_fits_over_blank`): but for
comments, blanks and string literals no lexeme holds a blank at all. So the text of a token is taken
again wherever blanks or the end of the text follow it, and blanks are taken together up to the next
token. Hence the texts of the tokens, laid out anew with blanks between them, are read as tokens of
the same kinds and texts (`tokenize_laidOut`).
-/

set_option autoImplicit false

namespace ShaderSyntax.Shader

variable {lexer : Lexer} {text rest gap laid : List Char} {texts : List (List Char)}
  {lexeme : Lexeme} {rule : TokenRule} {c : Char}

/-! ## Laid out texts -/

/-- The characters that part tokens. -/
def blanks : List Char := [' ', '\t', '\r', '\n']

/-- Texts stand in a row, with blanks between each two of them. -/
inductive LaidOut : List (List Char) → List Char → Prop
  | none : LaidOut [] []
  | last (text : List Char) : LaidOut [text] text
  | cons (text : List Char) {next : List Char} {texts : List (List Char)} {gap laid : List Char}
      (parted : gap ≠ []) (blank : ∀ c ∈ gap, c ∈ blanks) (rest : LaidOut (next :: texts) laid) :
      LaidOut (text :: next :: texts) (text ++ (gap ++ laid))

/-- Any texts can be laid out. -/
theorem exists_laidOut (texts : List (List Char)) : ∃ laid, LaidOut texts laid := by
  induction texts with
  | nil => exact ⟨[], .none⟩
  | cons text texts ih =>
    obtain ⟨laid, rest⟩ := ih
    cases texts with
    | nil => exact ⟨text, .last text⟩
    | cons next texts => exact ⟨_, .cons text (List.cons_ne_nil ' ' []) (by simp [blanks]) rest⟩

/-! ## Rules and blanks -/

/-- The set of the blanks. -/
def blankSet : CharSet :=
  .union (.union (.union (.union .none (.single ' ')) (.single '\t')) (.single '\r'))
    (.single '\n')

/-- The set of blanks has the blanks and nothing else. -/
theorem contains_blankSet : blankSet.contains c = true ↔ c ∈ blanks := by
  simp only [blankSet, CharSet.contains, Bool.or_eq_true, contains_single, Bool.false_eq_true,
    false_or, or_assoc, blanks, List.mem_cons, List.not_mem_nil, or_false]

/-- Any text with a blank behind it. -/
def upToBlank : Pattern :=
  .seq (.star true (.set (.complement .none))) (.set blankSet)

/-- The kinds of the rules whose lexemes may hold a blank. -/
def spaciousKinds : List String := ["COMMENT", "BLOCK_COMMENT", "WS", "STRLIT"]

/-- The kinds of the other rules. -/
def denseKinds : List String :=
  (keptRules.map Prod.fst).filter fun kind => !spaciousKinds.contains kind

/-- Beginnings of texts, each with the kinds of the rules that may fit a text with this beginning:
a blank, a text up to a blank, and what a rule for tokens fits up to a blank behind it. For the last
it is enough to look at rules whose lexemes may hold a blank. -/
def beginnings : List (Pattern × List String) :=
  (.set blankSet, ["WS"]) :: (upToBlank, spaciousKinds) ::
    keptRules.filterMap fun rule =>
      (Pattern.read? rule.2).map fun pattern => (.seq pattern (.set blankSet), denseKinds)

/-- The beginnings are reserved for their kinds in the rules of the shader language. -/
theorem reserves_beginnings (made : Shader.lexer = .ok lexer) :
    ∀ beginning ∈ beginnings, Lexer.Reserves tokenRules beginning.1 beginning.2 := by
  have checked : (Shader.lexer.toOption.all fun lexer =>
      beginnings.all fun beginning => lexer.reserves 300 beginning.1 beginning.2) = true := by
    decide +kernel
  rw [made] at checked
  intro beginning listed
  exact Lexer.reserves_of_check made (List.all_eq_true.mp checked beginning listed)

/-! ## Lexemes and blanks -/

/-- A beginning of the text that is longer than `word` goes on from it, with what stands behind. -/
theorem exists_more {word longer : List Char} (ahead : longer <+: word ++ rest)
    (exceeds : ¬longer.length ≤ word.length) :
    ∃ c more, longer = word ++ c :: more ∧ rest.head? = some c := by
  have below : word <+: longer :=
    List.prefix_of_prefix_length_le (List.prefix_append _ _) ahead (by omega)
  obtain ⟨more, rfl⟩ := below
  cases more with
  | nil => simp at exceeds
  | cons c more =>
    obtain ⟨behind, whole⟩ := (List.prefix_append_right_inj word).mp ahead
    exact ⟨c, more, rfl, by rw [← whole]; rfl⟩

/-- A lexeme that makes a token: its rule is kept and fits its text. -/
structure MakesToken (lexeme : Lexeme) : Prop where
  listed : lexeme.rule ∈ tokenRules
  kept : lexeme.rule.discard = false
  fits : lexeme.rule.Fits lexeme.text
  filled : lexeme.text ≠ []

/-- No rule fits a text that goes on over a blank from the text of a token. -/
theorem not_fits_over_blank (made : Shader.lexer = .ok lexer) (token : MakesToken lexeme)
    (blank : c ∈ blanks) (listed : rule ∈ tokenRules) (more : List Char) :
    ¬rule.Fits (lexeme.text ++ c :: more) := by
  have in_set : [c] ∈ (Pattern.set blankSet).language := ⟨c, contains_blankSet.mpr blank, rfl⟩
  have split : lexeme.text ++ c :: more = lexeme.text ++ [c] ++ more := by simp
  rw [split]
  by_cases spacious : rule.kind ∈ spaciousKinds
  · obtain ⟨pattern, reads, fits⟩ := token.fits
    obtain ⟨written, there, of_rule⟩ := exists_keptRule token.listed token.kept
    rw [of_rule] at reads
    have beginning : (Pattern.seq pattern (.set blankSet), denseKinds) ∈ beginnings :=
      List.mem_cons_of_mem _ (List.mem_cons_of_mem _
        (List.mem_filterMap.mpr ⟨written, there, by rw [reads, Option.map_some]⟩))
    have not_dense : rule.kind ∉ denseKinds := by
      intro dense
      have excluded := (List.mem_filter.mp dense).2
      simp [spacious] at excluded
    have fits := Pattern.mem_seq.mpr ⟨lexeme.text, fits, [c], in_set, rfl⟩
    exact reserves_beginnings made _ beginning rule listed not_dense _ fits more
  · have beginning : (upToBlank, spaciousKinds) ∈ beginnings :=
      List.mem_cons_of_mem _ List.mem_cons_self
    have anything : lexeme.text ∈ (Pattern.star true (.set (.complement .none))).language :=
      Pattern.mem_star_set.mpr fun _ _ => rfl
    have fits := Pattern.mem_seq.mpr ⟨lexeme.text, anything, [c], in_set, rfl⟩
    exact reserves_beginnings made _ beginning rule listed spacious _ fits more

/-- Only the rule for blanks fits a text that begins with a blank. -/
theorem kind_of_blank (made : Shader.lexer = .ok lexer) (listed : rule ∈ tokenRules)
    (blank : c ∈ blanks) (fits : rule.Fits (c :: rest)) : rule.kind = "WS" := by
  by_contra other
  have in_set : [c] ∈ (Pattern.set blankSet).language := ⟨c, contains_blankSet.mpr blank, rfl⟩
  have other : rule.kind ∉ ["WS"] := by simpa using other
  exact reserves_beginnings made _ List.mem_cons_self rule listed other [c] in_set rest fits

/-- The rule for blanks discards its lexemes and fits one blank or more. -/
theorem of_blankRule : ∀ rule ∈ tokenRules, rule.kind = "WS" →
    rule.discard = true ∧ Pattern.read? rule.pattern = some (.plus true (.set blankSet)) := by
  decide +kernel

/-- A token does not begin with a blank. -/
theorem MakesToken.head_not_blank (made : Shader.lexer = .ok lexer) (token : MakesToken lexeme)
    (first : lexeme.text.head? = some c) : c ∉ blanks := by
  intro blank
  obtain ⟨rest, whole⟩ := List.head?_eq_some_iff.mp first
  have kind := kind_of_blank made token.listed blank (whole ▸ token.fits)
  have discard := (of_blankRule _ token.listed kind).1
  rw [token.kept] at discard
  cases discard

/-- The text of a token is taken again if a blank follows it or nothing does. -/
theorem lexeme?_token (made : Shader.lexer = .ok lexer) (token : MakesToken lexeme)
    (parted : ∀ c, rest.head? = some c → c ∈ blanks) :
    lexer.lexeme? (lexeme.text ++ rest) = some (lexeme, rest) := by
  refine (lexeme?_eq_some_iff made).mpr
    ⟨⟨token.listed, List.prefix_append _ _, token.fits, ?_⟩, token.filled, rfl⟩
  intro rule listed word ahead fits
  by_contra exceeds
  obtain ⟨c, more, rfl, first⟩ := exists_more ahead exceeds
  exact not_fits_over_blank made token (parted c first) listed more fits

/-- Blanks are taken together, up to a character that is none. -/
theorem lexeme?_gap (made : Shader.lexer = .ok lexer) (parted : gap ≠ [])
    (blank : ∀ c ∈ gap, c ∈ blanks) (stop : ∀ c, rest.head? = some c → c ∉ blanks) :
    ∃ rule : TokenRule, rule.discard = true ∧
      lexer.lexeme? (gap ++ rest) = some (⟨rule, gap⟩, rest) := by
  obtain ⟨rule, listed, kind⟩ : ∃ rule ∈ tokenRules, rule.kind = "WS" := by decide +kernel
  obtain ⟨discard, reads⟩ := of_blankRule rule listed kind
  have all : ∀ c ∈ gap, blankSet.contains c = true := fun c mem =>
    contains_blankSet.mpr (blank c mem)
  have fits : rule.Fits gap := ⟨_, reads, Pattern.mem_plus_set.mpr ⟨parted, all⟩⟩
  refine ⟨rule, discard, (lexeme?_eq_some_iff made).mpr
    ⟨⟨listed, List.prefix_append _ _, fits, ?_⟩, parted, rfl⟩⟩
  intro other there word ahead fits
  change word.length ≤ gap.length
  by_contra exceeds
  obtain ⟨d, more, rfl, behind⟩ := exists_more ahead exceeds
  -- the rule is that for blanks, so the character behind the gap is a blank, too
  obtain ⟨first, gap, rfl⟩ := List.exists_cons_of_ne_nil parted
  have kind := kind_of_blank made there (blank first List.mem_cons_self) fits
  obtain ⟨pattern, other_reads, in_language⟩ := fits
  rw [(of_blankRule other there kind).2, Option.some.injEq] at other_reads
  obtain ⟨-, all⟩ := Pattern.mem_plus_set.mp (other_reads ▸ in_language)
  exact stop d behind (contains_blankSet.mp (all d (by simp)))

/-! ## Reading a laid out text -/

/-- The text of tokens that are laid out begins as the first of them does. -/
theorem LaidOut.head? {next : List Char} (filled : next ≠ [])
    (laid_out : LaidOut (next :: texts) laid) : laid.head? = next.head? := by
  cases laid_out with
  | last => rfl
  | cons => rw [List.head?_append_of_ne_nil _ filled]

/-- The lexemes of a laid out text that are kept are those whose texts were laid out. -/
theorem cut_laidOut (made : Shader.lexer = .ok lexer) {lexemes : List Lexeme}
    (tokens : ∀ lexeme ∈ lexemes, MakesToken lexeme)
    (laid_out : LaidOut (lexemes.map Lexeme.text) laid) :
    (lexer.cut laid).2 = [] ∧
      (lexer.cut laid).1.filter (fun lexeme => !lexeme.rule.discard) = lexemes := by
  induction lexemes generalizing laid with
  | nil =>
    cases laid_out
    rw [Lexer.cut_of_none lexer.lexeme?_nil]
    exact ⟨rfl, rfl⟩
  | cons lexeme lexemes ih =>
    obtain ⟨token, later⟩ := List.forall_mem_cons.mp tokens
    cases lexemes with
    | nil =>
      cases laid_out
      have nothing_behind : ∀ c, ([] : List Char).head? = some c → c ∈ blanks := by simp
      have taken := lexeme?_token made token nothing_behind
      rw [List.append_nil] at taken
      rw [Lexer.cut_of_lexeme? taken, Lexer.cut_of_none lexer.lexeme?_nil]
      simp [token.kept]
    | cons next lexemes =>
      cases laid_out with
      | @cons _ _ _ gap laid parted blank rest =>
        obtain ⟨next_token, -⟩ := List.forall_mem_cons.mp later
        have stop : ∀ c, laid.head? = some c → c ∉ blanks := by
          intro c first
          rw [rest.head? next_token.filled] at first
          exact next_token.head_not_blank made first
        obtain ⟨rule, discard, taken_gap⟩ := lexeme?_gap made parted blank stop
        have behind : ∀ c, (gap ++ laid).head? = some c → c ∈ blanks := by
          intro c first
          rw [List.head?_append_of_ne_nil _ parted] at first
          exact blank c (List.mem_of_head? first)
        have taken := lexeme?_token made token behind
        obtain ⟨nothing_left, kept⟩ := ih later rest
        rw [Lexer.cut_of_lexeme? taken, Lexer.cut_of_lexeme? taken_gap]
        refine ⟨nothing_left, ?_⟩
        simp [token.kept, discard, kept]

/-! ## Tokens and their texts -/

/-- What a token is apart from its place. -/
def label (token : Token) : String × String := (token.kind, token.text)

/-- What the token of a lexeme is apart from its place. -/
def Lexeme.label (lexeme : Lexeme) : String × String :=
  (kindOf lexeme.rule (String.ofList lexeme.text), String.ofList lexeme.text)

/-- The lexemes of a text that make tokens. -/
def keptLexemes (lexer : Lexer) (source : String) : List Lexeme :=
  (lexer.cut source.toList).1.filter fun lexeme => !lexeme.rule.discard

/-- A kept lexeme of a source makes a token. -/
theorem makesToken_of_mem (made : Shader.lexer = .ok lexer) {source : String}
    (kept : lexeme ∈ keptLexemes lexer source) : MakesToken lexeme := by
  obtain ⟨there, not_discarded⟩ := List.mem_filter.mp kept
  obtain ⟨i, at_i⟩ := List.getElem?_of_mem there
  obtain ⟨munches, filled, -⟩ := (lexeme?_eq_some_iff made).mp (Lexer.lexeme?_of_cut at_i)
  exact ⟨munches.listed, by simpa using not_discarded, munches.fits, filled⟩

/-- The tokens of a reading are, apart from their places, those of its kept lexemes. -/
theorem map_label_read (made : Shader.lexer = .ok lexer) (source : String) :
    ((lexer.read source.toList).pieces.filterMap Piece.token?).map label =
      (keptLexemes lexer source).map Lexeme.label := by
  have pieces : keptLexemes lexer source =
      (lexer.read source.toList).kept.map Piece.lexeme := by
    rw [keptLexemes, ← Lexer.lexemes_read, Reading.lexemes, List.filter_map]
    rfl
  rw [Reading.filterMap_token?, pieces, List.map_map, List.map_map]
  refine List.map_congr_left fun piece kept => ?_
  have there : piece.lexeme ∈ keptLexemes lexer source := by
    rw [pieces]
    exact List.mem_map_of_mem kept
  have token := makesToken_of_mem made there
  simp only [Function.comp, label, Lexeme.label, Reading.tokenOf,
    finish_of_kept token.listed token.kept]

/-- A text has tokens with the given kinds and texts exactly if the lexer takes all of it and its
kept lexemes have them. -/
theorem exists_tokens_iff (made : Shader.lexer = .ok lexer) {source : String}
    {labels : List (String × String)} :
    (∃ tokens, lexer.tokenize source = .ok tokens ∧ tokens.map label = labels) ↔
      (lexer.cut source.toList).2 = [] ∧
        (keptLexemes lexer source).map Lexeme.label = labels := by
  rw [← map_label_read made]
  have fault : (lexer.read source.toList).fault = none ↔ (lexer.cut source.toList).2 = [] := by
    change ((lexer.cut source.toList).2.head?.map _) = none ↔ _
    rw [Option.map_eq_none_iff, List.head?_eq_none_iff]
  rw [← fault, Lexer.tokenize, Reading.tokens]
  cases (lexer.read source.toList).fault with
  | none => simp
  | some fault => simp

/-- Texts of tokens that are laid out anew are read as tokens of the same kinds and texts. -/
theorem exists_tokens_of_laidOut (made : Shader.lexer = .ok lexer) {source relaid : String}
    {tokens : List Token} (read : lexer.tokenize source = .ok tokens)
    (laid_out : LaidOut (tokens.map fun token => token.text.toList) relaid.toList) :
    ∃ others, lexer.tokenize relaid = .ok others ∧ others.map label = tokens.map label := by
  obtain ⟨-, labels⟩ := (exists_tokens_iff made).mp ⟨tokens, read, rfl⟩
  have texts : (tokens.map fun token => token.text.toList) =
      (keptLexemes lexer source).map Lexeme.text := by
    have seconds := congrArg (List.map fun label => label.2.toList) labels
    simpa [Function.comp_def, label, Lexeme.label] using seconds.symm
  rw [texts] at laid_out
  obtain ⟨nothing_left, same⟩ :=
    cut_laidOut made (fun lexeme kept => makesToken_of_mem made kept) laid_out
  refine (exists_tokens_iff made).mpr ⟨nothing_left, ?_⟩
  rw [keptLexemes, same, labels]

/-- The texts of the tokens of a text, laid out anew with any blanks between each two of them, are
read without a fault, as tokens of the same kinds and texts. So texts that have the texts of their
tokens in common have the kinds in common, whatever separates the tokens. -/
theorem tokenize_laidOut (made : Shader.lexer = .ok lexer) (source : String) (tokens : List Token)
    (read : lexer.tokenize source = .ok tokens) :
    (∀ relaid : String, LaidOut (tokens.map fun token => token.text.toList) relaid.toList →
      ∃ others, lexer.tokenize relaid = .ok others ∧
        others.map (fun token => (token.kind, token.text)) =
          tokens.map fun token => (token.kind, token.text)) ∧
    ∀ (other : String) (others : List Token), lexer.tokenize other = .ok others →
      others.map Token.text = tokens.map Token.text →
      others.map Token.kind = tokens.map Token.kind := by
  refine ⟨fun relaid laid_out => exists_tokens_of_laidOut made read laid_out, ?_⟩
  intro other others other_read same
  have same_texts : (others.map fun token => token.text.toList) =
      tokens.map fun token => token.text.toList := by
    have chars := congrArg (List.map String.toList) same
    rwa [List.map_map, List.map_map] at chars
  -- both are read again from one text
  obtain ⟨laid, laid_out⟩ := exists_laidOut (tokens.map fun token => token.text.toList)
  rw [← String.toList_ofList (l := laid)] at laid_out
  obtain ⟨first, first_read, first_labels⟩ := exists_tokens_of_laidOut made read laid_out
  obtain ⟨second, second_read, second_labels⟩ :=
    exists_tokens_of_laidOut made other_read (same_texts ▸ laid_out)
  rw [first_read, Except.ok.injEq] at second_read
  have labels : others.map label = tokens.map label := by
    rw [← second_labels, ← second_read, first_labels]
  have kinds := congrArg (List.map Prod.fst) labels
  rwa [List.map_map, List.map_map] at kinds

/-- Tokens that only comments part or nothing at all, laid out anew; and another text with the same
tokens, in which comments stand elsewhere. -/
theorem tokenize_laidOut_crowded :
    ∃ lexer tokens others more, Shader.lexer = .ok lexer ∧
      lexer.tokenize "x/**/+++1.5f//\n\"b c\"" = .ok tokens ∧
      LaidOut (tokens.map fun token => token.text.toList) "x\t++ +\r\n1.5f \"b c\"".toList ∧
      lexer.tokenize "x\t++ +\r\n1.5f \"b c\"" = .ok others ∧
      others.map (fun token => (token.kind, token.text)) =
        tokens.map (fun token => (token.kind, token.text)) ∧
      lexer.tokenize "x++/*+*/+1.5f\"b c\"//" = .ok more ∧
      more.map Token.text = tokens.map Token.text ∧
      more.map Token.kind = tokens.map Token.kind := by
  have evaluated :
      (Shader.lexer.toOption.map fun lexer =>
        ((lexer.tokenize "x/**/+++1.5f//\n\"b c\"").toOption.map (List.map Token.text),
          (lexer.tokenize "x++/*+*/+1.5f\"b c\"//").toOption.map (List.map Token.text))) =
        some (some ["x", "++", "+", "1.5f", "\"b c\""],
          some ["x", "++", "+", "1.5f", "\"b c\""]) := by
    decide +kernel
  obtain ⟨lexer, made, evaluated⟩ := exists_ok_of_evaluated evaluated
  obtain ⟨evaluated, more_evaluated⟩ := Prod.mk.inj evaluated
  obtain ⟨tokens, read, texts⟩ := exists_ok_of_evaluated evaluated
  obtain ⟨more, more_read, more_texts⟩ := exists_ok_of_evaluated more_evaluated
  have laid_out : LaidOut (tokens.map fun token => token.text.toList)
      "x\t++ +\r\n1.5f \"b c\"".toList := by
    have chars : (tokens.map fun token => token.text.toList) =
        [['x'], ['+', '+'], ['+'], "1.5f".toList, "\"b c\"".toList] := by
      have same := congrArg (List.map String.toList) texts
      rw [List.map_map] at same
      exact same.trans (by decide +kernel)
    have parted : "x\t++ +\r\n1.5f \"b c\"".toList =
        ['x'] ++ (['\t'] ++ (['+', '+'] ++ ([' '] ++ (['+'] ++ (['\r', '\n'] ++
          ("1.5f".toList ++ ([' '] ++ "\"b c\"".toList))))))) := by
      decide +kernel
    rw [chars, parted]
    exact .cons _ (by simp) (by simp [blanks]) (.cons _ (by simp) (by simp [blanks])
      (.cons _ (by simp) (by simp [blanks]) (.cons _ (by simp) (by simp [blanks]) (.last _))))
  have same : more.map Token.text = tokens.map Token.text := more_texts.trans texts.symm
  obtain ⟨again, kinds⟩ := tokenize_laidOut made _ tokens read
  obtain ⟨others, others_read, labels⟩ := again _ laid_out
  exact ⟨lexer, tokens, others, more, made, read, laid_out, others_read, labels, more_read, same,
    kinds _ more more_read same⟩

end ShaderSyntax.Shader
