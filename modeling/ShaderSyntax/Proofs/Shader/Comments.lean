import ShaderSyntax.Proofs.Shader.Spelling

/-!
# Block comments

The pattern of block comments repeats characters that are no stars and runs of stars that no slash
follows, and ends with a run of stars and a slash. What stands between the opening and the last two
characters of such a text is exactly a text without a closer in it (`mem_commentPattern_iff`); so
only the first closer of a text can end a comment (`IsClosedBy.first`). Apart from block comments no
rule fits a text that begins with a slash and a star, but for the slash alone. Hence the lexer takes
a comment up to its first closer, over any lines and stars, and a slash if there is no closer
(`comment_of_read`).
-/

set_option autoImplicit false

namespace ShaderSyntax.Shader

variable {lexer : Lexer} {text rest body other behind more word : List Char} {c : Char} {k : Nat}

/-! ## Texts without a closer -/

/-- A star and a slash stand side by side nowhere in the text. -/
def Unclosed (text : List Char) : Prop :=
  ¬['*', '/'] <:+: text

/-- A text has no closer if none is at its start and none behind its first character. -/
theorem unclosed_cons :
    Unclosed (c :: rest) ↔ ¬(c = '*' ∧ rest.head? = some '/') ∧ Unclosed rest := by
  have slash : ['/'] <+: rest ↔ rest.head? = some '/' := by
    rw [List.head?_eq_some_iff]
    constructor
    · rintro ⟨more, rfl⟩
      exact ⟨more, rfl⟩
    · rintro ⟨more, rfl⟩
      exact ⟨more, rfl⟩
  rw [Unclosed, List.infix_cons_iff, List.cons_prefix_cons, slash, not_or, Unclosed,
    eq_comm (a := '*')]

/-- A text without a closer has none in any part at its end. -/
theorem Unclosed.of_suffix (unclosed : Unclosed text) (behind : rest <:+ text) : Unclosed rest :=
  fun inside => unclosed (inside.trans behind.isInfix)

/-- Stars in front make no closer unless a slash follows them. -/
theorem Unclosed.stars (unclosed : Unclosed rest) (no_slash : rest.head? ≠ some '/') :
    Unclosed (List.replicate k '*' ++ rest) := by
  induction k with
  | zero => exact unclosed
  | succ k ih =>
    rw [List.replicate_succ, List.cons_append, unclosed_cons]
    refine ⟨fun closes => ?_, ih⟩
    cases k with
    | zero => exact no_slash closes.2
    | succ k => simp [List.replicate_succ] at closes

/-- A text is divided by a closer, the first one in it. -/
structure IsClosedBy (text body behind : List Char) : Prop where
  whole : text = body ++ '*' :: '/' :: behind
  first : ∀ other more, text = other ++ '*' :: '/' :: more → body.length ≤ other.length

/-- In front of a closer is no other one if the text there is unclosed: the two would have to share
a character, but a closer does not begin with a slash. -/
theorem length_le_of_unclosed (unclosed : Unclosed body)
    (same : body ++ '*' :: '/' :: behind = other ++ '*' :: '/' :: more) :
    body.length ≤ other.length := by
  induction other generalizing body with
  | nil =>
    cases body with
    | nil => exact Nat.le_refl 0
    | cons c body =>
      obtain ⟨rfl, later⟩ := List.cons.inj same
      cases body with
      | nil => simp at later
      | cons d body =>
        obtain ⟨rfl, -⟩ := List.cons.inj later
        exact absurd ⟨rfl, rfl⟩ (unclosed_cons.mp unclosed).1
  | cons d other ih =>
    cases body with
    | nil => exact Nat.zero_le _
    | cons c body =>
      have later := (List.cons.inj same).2
      exact Nat.succ_le_succ (ih (unclosed_cons.mp unclosed).2 later)

/-- A closer is the first one exactly if there is none in the text before it. -/
theorem isClosedBy_iff :
    IsClosedBy text body behind ↔ Unclosed body ∧ text = body ++ '*' :: '/' :: behind := by
  constructor
  · rintro ⟨whole, first⟩
    refine ⟨?_, whole⟩
    rintro ⟨front, more, inside⟩
    have sooner := first front (more ++ '*' :: '/' :: behind) (by rw [whole, ← inside]; simp)
    have shorter := congrArg List.length inside
    simp only [List.length_append, List.length_cons] at shorter
    omega
  · rintro ⟨unclosed, rfl⟩
    exact ⟨rfl, fun _ _ same => length_le_of_unclosed unclosed same⟩

/-- A text with a closer in it has a first one. -/
theorem exists_isClosedBy (closed : ¬Unclosed text) :
    ∃ body behind, IsClosedBy text body behind := by
  simp only [isClosedBy_iff]
  induction text with
  | nil => exact absurd (by simp [Unclosed]) closed
  | cons c rest ih =>
    by_cases closes : c = '*' ∧ rest.head? = some '/'
    · obtain ⟨rfl, slash⟩ := closes
      obtain ⟨behind, rfl⟩ := List.head?_eq_some_iff.mp slash
      exact ⟨[], behind, by simp [Unclosed], rfl⟩
    · have later : ¬Unclosed rest := fun unclosed => closed (unclosed_cons.mpr ⟨closes, unclosed⟩)
      obtain ⟨body, behind, unclosed, rfl⟩ := ih later
      refine ⟨c :: body, behind, unclosed_cons.mpr ⟨?_, unclosed⟩, rfl⟩
      rintro ⟨rfl, slash⟩
      obtain ⟨more, rfl⟩ := List.head?_eq_some_iff.mp slash
      exact closes ⟨rfl, rfl⟩

/-! ## The rule for block comments -/

/-- A character that is no star, or stars with a character behind them that is neither a star nor a
slash. -/
def bodyUnit : Pattern :=
  .alt (.set (.complement (.union .none (.single '*'))))
    (.seq (.plus true (.set (.single '*')))
      (.set (.complement (.union (.union .none (.single '*')) (.single '/')))))

/-- What follows the opening of a block comment. -/
def closedPattern : Pattern :=
  .seq (.star true bodyUnit) (.seq (.plus true (.set (.single '*'))) (.set (.single '/')))

/-- The pattern of the opening of a block comment. -/
def openingPattern : Pattern := .seq (.set (.single '/')) (.set (.single '*'))

/-- The pattern of block comments. -/
def commentPattern : Pattern :=
  .seq (.set (.single '/')) (.seq (.set (.single '*')) closedPattern)

/-- The set of one character fits this character only. -/
theorem mem_single : word ∈ (Pattern.set (.single c)).language ↔ word = [c] := by
  rw [Pattern.mem_set]
  constructor
  · rintro ⟨d, within, rfl⟩
    rw [contains_single.mp within]
  · rintro rfl
    exact ⟨c, contains_single.mpr rfl, rfl⟩

/-- Repeated stars are one star or more. -/
theorem mem_stars_iff :
    word ∈ (Pattern.plus true (.set (.single '*'))).language ↔
      ∃ k, word = List.replicate (k + 1) '*' := by
  simp only [Pattern.mem_plus_set, contains_single]
  constructor
  · rintro ⟨filled, all⟩
    obtain ⟨k, size⟩ := Nat.exists_eq_succ_of_ne_zero (mt List.length_eq_zero_iff.mp filled)
    exact ⟨k, List.eq_replicate_iff.mpr ⟨size, all⟩⟩
  · rintro ⟨k, rfl⟩
    exact ⟨by simp [List.replicate_succ], fun d mem => (List.mem_replicate.mp mem).2⟩

/-- A unit ends with its only character that is no star; this is no slash if stars are before it. -/
theorem mem_bodyUnit_iff :
    word ∈ bodyUnit.language ↔
      ∃ k c, word = List.replicate k '*' ++ [c] ∧ c ≠ '*' ∧ (k ≠ 0 → c ≠ '/') := by
  have other : ∀ c : Char, (CharSet.complement (.union .none (.single '*'))).contains c = true ↔
      c ≠ '*' := by
    simp [CharSet.contains, ← Bool.not_eq_true, contains_single]
  have others : ∀ c : Char, (CharSet.complement (.union (.union .none (.single '*'))
      (.single '/'))).contains c = true ↔ c ≠ '*' ∧ c ≠ '/' := by
    simp [CharSet.contains, ← Bool.not_eq_true, contains_single]
  rw [bodyUnit, Pattern.mem_alt]
  constructor
  · rintro (⟨c, no_star, rfl⟩ | starred)
    · exact ⟨0, c, rfl, (other c).mp no_star, fun some_stars => absurd rfl some_stars⟩
    · obtain ⟨_, stars, _, ⟨c, neither, rfl⟩, rfl⟩ := Pattern.mem_seq.mp starred
      obtain ⟨k, rfl⟩ := mem_stars_iff.mp stars
      obtain ⟨no_star, no_slash⟩ := (others c).mp neither
      exact ⟨k + 1, c, rfl, no_star, fun _ => no_slash⟩
  · rintro ⟨k, c, rfl, no_star, no_slash⟩
    cases k with
    | zero => exact .inl ⟨c, (other c).mpr no_star, rfl⟩
    | succ k =>
      have neither := (others c).mpr ⟨no_star, no_slash (Nat.succ_ne_zero k)⟩
      exact .inr (Pattern.mem_seq.mpr ⟨_, mem_stars_iff.mpr ⟨k, rfl⟩, [c], ⟨c, neither, rfl⟩, rfl⟩)

/-- Units in a row hold no closer, and none together with stars behind them. -/
theorem unclosed_units {units : List (List Char)} (all : ∀ unit ∈ units, unit ∈ bodyUnit.language) :
    Unclosed (units.flatten ++ List.replicate k '*') := by
  induction units with
  | nil =>
    have nothing : Unclosed [] := by simp [Unclosed]
    simpa using nothing.stars (k := k) (by simp)
  | cons unit units ih =>
    obtain ⟨first, later⟩ := List.forall_mem_cons.mp all
    obtain ⟨j, c, rfl, no_star, no_slash⟩ := mem_bodyUnit_iff.mp first
    have behind : Unclosed (c :: (units.flatten ++ List.replicate k '*')) :=
      unclosed_cons.mpr ⟨fun closes => no_star closes.1, ih later⟩
    have whole : ((List.replicate j '*' ++ [c]) :: units).flatten ++ List.replicate k '*' =
        List.replicate j '*' ++ c :: (units.flatten ++ List.replicate k '*') := by
      simp
    rw [whole]
    cases j with
    | zero => exact behind
    | succ j => exact behind.stars (by simpa using no_slash (Nat.succ_ne_zero j))

/-- The induction is on the text behind the stars met last, which wait for the character that ends
their unit. -/
theorem mem_closed_of_unclosed (unclosed : Unclosed (List.replicate k '*' ++ body)) :
    List.replicate k '*' ++ (body ++ ['*', '/']) ∈ closedPattern.language := by
  induction body generalizing k with
  | nil =>
    have stars : List.replicate (k + 1) '*' ∈ (Pattern.plus true (.set (.single '*'))).language :=
      mem_stars_iff.mpr ⟨k, rfl⟩
    have ending := Pattern.mem_seq.mpr ⟨_, stars, ['/'], mem_single.mpr rfl, rfl⟩
    refine Pattern.mem_seq.mpr ⟨[], Language.nil_mem_kstar _, _, ending, ?_⟩
    rw [List.replicate_succ']
    simp
  | cons c body ih =>
    by_cases star : c = '*'
    · subst star
      have one_more : ∀ text, List.replicate k '*' ++ '*' :: text =
          List.replicate (k + 1) '*' ++ text := by
        intro text
        rw [List.replicate_succ', List.append_assoc, List.singleton_append]
      rw [one_more] at unclosed
      rw [List.cons_append, one_more]
      exact ih unclosed
    · have no_slash : k ≠ 0 → c ≠ '/' := by
        rintro some_stars rfl
        obtain ⟨j, rfl⟩ := Nat.exists_eq_succ_of_ne_zero some_stars
        refine unclosed ⟨List.replicate j '*', body, ?_⟩
        rw [List.replicate_succ']
        simp
      have unit := mem_bodyUnit_iff.mpr ⟨k, c, rfl, star, no_slash⟩
      have rest := unclosed.of_suffix ((List.suffix_cons c body).trans (List.suffix_append _ _))
      obtain ⟨front, units, back, ending, whole⟩ := Pattern.mem_seq.mp (ih (k := 0) rest)
      refine Pattern.mem_seq.mpr ⟨_, Pattern.append_mem_star unit units, back, ending, ?_⟩
      rw [List.append_assoc, whole]
      simp

/-- What follows the opening of a comment is a text without a closer, and then a closer. -/
theorem mem_closedPattern_iff :
    word ∈ closedPattern.language ↔ ∃ body, Unclosed body ∧ word = body ++ ['*', '/'] := by
  constructor
  · intro fits
    obtain ⟨_, in_star, _, ending, rfl⟩ := Pattern.mem_seq.mp fits
    obtain ⟨units, rfl, all⟩ := Language.mem_kstar.mp in_star
    obtain ⟨_, stars, _, slash, rfl⟩ := Pattern.mem_seq.mp ending
    obtain ⟨k, rfl⟩ := mem_stars_iff.mp stars
    obtain rfl := mem_single.mp slash
    refine ⟨units.flatten ++ List.replicate k '*', unclosed_units all, ?_⟩
    rw [List.replicate_succ']
    simp
  · rintro ⟨body, unclosed, rfl⟩
    exact mem_closed_of_unclosed (k := 0) unclosed

/-- The pattern of block comments fits an opening, a text without a closer, and a closer. -/
theorem mem_commentPattern_iff :
    word ∈ commentPattern.language ↔
      ∃ body, Unclosed body ∧ word = '/' :: '*' :: (body ++ ['*', '/']) := by
  constructor
  · intro fits
    obtain ⟨_, slash, _, behind, rfl⟩ := Pattern.mem_seq.mp fits
    obtain ⟨_, star, _, closed, rfl⟩ := Pattern.mem_seq.mp behind
    obtain rfl := mem_single.mp slash
    obtain rfl := mem_single.mp star
    obtain ⟨body, unclosed, rfl⟩ := mem_closedPattern_iff.mp closed
    exact ⟨body, unclosed, rfl⟩
  · rintro ⟨body, unclosed, rfl⟩
    have closed := mem_closedPattern_iff.mpr ⟨body, unclosed, rfl⟩
    have behind := Pattern.mem_seq.mpr ⟨['*'], mem_single.mpr rfl, _, closed, rfl⟩
    exact Pattern.mem_seq.mpr ⟨['/'], mem_single.mpr rfl, _, behind, rfl⟩

/-! ## What the lexer takes -/

/-- Only block comments fit a text that begins with their opening. -/
theorem reserves_opening (made : Shader.lexer = .ok lexer) :
    Lexer.Reserves tokenRules openingPattern ["BLOCK_COMMENT"] := by
  have checked : (Shader.lexer.toOption.all fun lexer =>
      lexer.reserves 300 openingPattern ["BLOCK_COMMENT"]) = true := by
    decide +kernel
  rw [made] at checked
  exact Lexer.reserves_of_check made checked

/-- The rule for block comments discards its lexemes and has their pattern. -/
theorem of_commentRule : ∀ rule ∈ tokenRules, rule.kind = "BLOCK_COMMENT" →
    rule.discard = true ∧ Pattern.read? rule.pattern = some commentPattern := by
  decide +kernel

/-- The rule for division keeps its lexemes, as they are, and fits a slash. -/
theorem of_divisionRule : ∀ rule ∈ tokenRules, rule.kind = "DIVIDE" →
    (rule.discard = false ∧ rule.recast.isNone) ∧
      Pattern.read? rule.pattern = some (.set (.single '/')) := by
  decide +kernel

/-- Where a text begins with a slash and a star, a rule fits the slash at most or it is the rule for
block comments. -/
theorem fits_at_opening (made : Shader.lexer = .ok lexer) {rule : TokenRule}
    (listed : rule ∈ tokenRules) (ahead : word <+: '/' :: '*' :: rest) (fits : rule.Fits word) :
    word.length ≤ 1 ∨ ∃ body, Unclosed body ∧ word = '/' :: '*' :: (body ++ ['*', '/']) := by
  obtain short | long := Nat.lt_or_ge word.length 2
  · exact .inl (Nat.le_of_lt_succ short)
  · right
    by_cases comment : rule.kind = "BLOCK_COMMENT"
    · obtain ⟨pattern, reads, in_language⟩ := fits
      rw [(of_commentRule rule listed comment).2, Option.some.injEq] at reads
      exact mem_commentPattern_iff.mp (reads ▸ in_language)
    · -- every other rule fits nothing that begins so
      have opened : ['/', '*'] <+: word :=
        List.prefix_of_prefix_length_le ⟨rest, rfl⟩ ahead long
      obtain ⟨more, rfl⟩ := opened
      have opening : ['/', '*'] ∈ openingPattern.language :=
        Pattern.mem_seq.mpr ⟨['/'], mem_single.mpr rfl, ['*'], mem_single.mpr rfl, rfl⟩
      exact absurd fits (reserves_opening made rule listed (by simpa using comment) _ opening more)

/-- A comment is taken up to its first closer. -/
theorem lexeme?_comment (made : Shader.lexer = .ok lexer) (closed : IsClosedBy rest body behind) :
    ∃ rule : TokenRule, rule.kind = "BLOCK_COMMENT" ∧ rule.discard = true ∧
      lexer.lexeme? ('/' :: '*' :: rest) =
        some (⟨rule, '/' :: '*' :: (body ++ ['*', '/'])⟩, behind) := by
  obtain ⟨unclosed, rfl⟩ := isClosedBy_iff.mp closed
  obtain ⟨rule, listed, kind⟩ : ∃ rule ∈ tokenRules, rule.kind = "BLOCK_COMMENT" := by
    decide +kernel
  obtain ⟨discard, reads⟩ := of_commentRule rule listed kind
  have fits : rule.Fits ('/' :: '*' :: (body ++ ['*', '/'])) :=
    ⟨_, reads, mem_commentPattern_iff.mpr ⟨body, unclosed, rfl⟩⟩
  have whole : '/' :: '*' :: (body ++ ['*', '/']) ++ behind =
      '/' :: '*' :: (body ++ '*' :: '/' :: behind) := by
    simp
  refine ⟨rule, kind, discard, (lexeme?_eq_some_iff made).mpr
    ⟨⟨listed, ⟨behind, whole⟩, fits, ?_⟩, List.cons_ne_nil _ _, whole⟩⟩
  intro other there word ahead fits
  obtain short | ⟨later, later_unclosed, rfl⟩ := fits_at_opening made there ahead fits
  · simp only [List.length_cons]
    omega
  · -- a longer comment would hold the first closer
    obtain ⟨more, same⟩ := ahead
    have same : later ++ '*' :: '/' :: more = body ++ '*' :: '/' :: behind := by
      simpa using same
    have bound := length_le_of_unclosed later_unclosed same
    simp only [List.length_cons, List.length_append]
    omega

/-- An opening without a closer behind it is taken as a division, which leaves the star. -/
theorem lexeme?_division (made : Shader.lexer = .ok lexer) (unclosed : Unclosed rest) :
    ∃ rule : TokenRule, rule.kind = "DIVIDE" ∧ rule.discard = false ∧ rule.recast = none ∧
      lexer.lexeme? ('/' :: '*' :: rest) = some (⟨rule, ['/']⟩, '*' :: rest) := by
  obtain ⟨rule, listed, kind⟩ : ∃ rule ∈ tokenRules, rule.kind = "DIVIDE" := by decide +kernel
  obtain ⟨⟨kept, no_recast⟩, reads⟩ := of_divisionRule rule listed kind
  have fits : rule.Fits ['/'] := ⟨_, reads, mem_single.mpr rfl⟩
  refine ⟨rule, kind, kept, Option.isNone_iff_eq_none.mp no_recast, (lexeme?_eq_some_iff made).mpr
    ⟨⟨listed, ⟨'*' :: rest, rfl⟩, fits, ?_⟩, List.cons_ne_nil _ _, rfl⟩⟩
  intro other there word ahead fits
  obtain short | ⟨body, -, rfl⟩ := fits_at_opening made there ahead fits
  · exact short
  · obtain ⟨more, same⟩ := ahead
    have same : body ++ ['*', '/'] ++ more = rest := by simpa using same
    exact absurd ⟨body, more, same⟩ unclosed

/-- Wherever the reading of a text has come to an opening, it goes on. If there is a closer behind
the opening, the next lexeme is a discarded comment up to the first one; if there is none, the next
token is a division. -/
theorem comment_of_read (made : Shader.lexer = .ok lexer) (text rest : List Char) (i : Nat)
    (reached : i ≤ (lexer.read text).pieces.length)
    (ahead : text.drop ((lexer.read text).before i).length = '/' :: '*' :: rest) :
    ∃ piece, (lexer.read text).pieces[i]? = some piece ∧
      (['*', '/'] <:+: rest → piece.lexeme.rule.kind = "BLOCK_COMMENT" ∧ piece.token? = none ∧
        ∃ body behind, IsClosedBy rest body behind ∧
          piece.lexeme.text = '/' :: '*' :: (body ++ ['*', '/'])) ∧
      (¬['*', '/'] <:+: rest →
        piece.token? = some ⟨"DIVIDE", "/", piece.offset, piece.span⟩) := by
  by_cases unclosed : Unclosed rest
  · obtain ⟨rule, kind, kept, no_recast, taken⟩ := lexeme?_division made unclosed
    rw [← ahead] at taken
    obtain ⟨piece, there, lexeme⟩ := Lexer.exists_piece reached taken
    refine ⟨piece, there, fun closed => absurd closed unclosed, fun _ => ?_⟩
    simp [Piece.token?, lexeme, TokenRule.finish, kind, kept, no_recast]
  · obtain ⟨body, behind, closed⟩ := exists_isClosedBy unclosed
    obtain ⟨rule, kind, discard, taken⟩ := lexeme?_comment made closed
    rw [← ahead] at taken
    obtain ⟨piece, there, lexeme⟩ := Lexer.exists_piece reached taken
    refine ⟨piece, there, fun _ => ⟨by rw [lexeme, kind], ?_, body, behind, closed, ?_⟩,
      fun none_closes => absurd none_closes unclosed⟩
    · simp [Piece.token?, lexeme, discard]
    · rw [lexeme]

/-- A comment over two lines that neither the slash behind its opening nor its stars close, with two
stars and a slash behind it; and an opening at the end of the text. -/
theorem comment_of_read_stars :
    ∃ lexer comment division, Shader.lexer = .ok lexer ∧
      (lexer.read "x/*/ **\n*/**/y/*".toList).pieces[1]? = some comment ∧
      comment.lexeme.rule.kind = "BLOCK_COMMENT" ∧ comment.token? = none ∧
      comment.lexeme.text = "/*/ **\n*/".toList ∧
      (∃ body behind, IsClosedBy "/ **\n*/**/y/*".toList body behind ∧
        comment.lexeme.text = '/' :: '*' :: (body ++ ['*', '/'])) ∧
      (lexer.read "x/*/ **\n*/**/y/*".toList).pieces[5]? = some division ∧
      division.token? = some ⟨"DIVIDE", "/", division.offset, division.span⟩ := by
  have evaluated :
      (Shader.lexer.toOption.map fun lexer =>
        let reading := lexer.read "x/*/ **\n*/**/y/*".toList
        ((reading.pieces.length, reading.pieces[1]?.map fun piece => piece.lexeme.text),
          "x/*/ **\n*/**/y/*".toList.drop (reading.before 1).length,
          "x/*/ **\n*/**/y/*".toList.drop (reading.before 5).length)) =
        some ((7, some "/*/ **\n*/".toList), '/' :: '*' :: "/ **\n*/**/y/*".toList,
          ['/', '*']) := by
    decide +kernel
  obtain ⟨lexer, made, evaluated⟩ := exists_ok_of_evaluated evaluated
  simp only [Prod.mk.injEq] at evaluated
  obtain ⟨⟨count, text⟩, at_comment, at_division⟩ := evaluated
  obtain ⟨comment, first, closes, -⟩ := comment_of_read made _ _ 1 (by omega) at_comment
  obtain ⟨division, last, -, divides⟩ := comment_of_read made _ _ 5 (by omega) at_division
  obtain ⟨kind, discarded, body⟩ := closes (by decide +kernel)
  rw [first, Option.map_some, Option.some.injEq] at text
  exact ⟨lexer, comment, division, made, first, kind, discarded, text, body, last,
    divides (by decide +kernel)⟩

end ShaderSyntax.Shader
