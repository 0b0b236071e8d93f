import Mathlib.Data.List.Induction
import ShaderSyntax.Grammar.Basic
import ShaderSyntax.Proofs.Cache.Consistency

/-!
# The rendered form identifies a grammar

Tables are kept by the digest of a rendered grammar, so two grammars may share tables only if they
say the same. They do (`Grammar.alike_of_render_eq`): a rendered form gives away the precedence
groups, the other tokens, and the lines of every rule, up to the blanks in front of them and apart
from blank lines. The text of a rule is free. It may hold markers, quotes, semicolons, and a line
like the one between tokens and rules.

Read from the front, the form never leaves a choice. A group starts with its sign or a blank, a
token without precedence with a quote, and the divider with a semicolon; a token's name ends at the
line feed. A rule's lines end in its marker, so none of them is empty, and the empty line behind
them is the first one. The marker holds the number of the rule, which is known from the number of
rules still to come; hence the induction on rules is from the last one, the one that is rendered
first.
-/

set_option autoImplicit false

namespace ShaderSyntax

/-- Lines that are not empty can be told from an empty line behind them. -/
theorem Text.endLines_append_inj {lines others : List (List Char)} {rest more : List Char}
    (filled : ∀ line ∈ lines, line ≠ [] ∧ '\n' ∉ line)
    (others_filled : ∀ line ∈ others, line ≠ [] ∧ '\n' ∉ line)
    (same : endLines lines ++ '\n' :: rest = endLines others ++ '\n' :: more) :
    lines = others ∧ rest = more := by
  have not_empty : ∀ {line text more : List Char}, line ≠ [] ∧ '\n' ∉ line →
      line ++ text ≠ '\n' :: more := by
    intro line text more ⟨some_char, one_line⟩ same
    cases line with
    | nil => exact some_char rfl
    | cons c line =>
      rw [List.cons_append, List.cons.injEq] at same
      exact one_line (same.1 ▸ List.mem_cons_self)
  induction lines generalizing others with
  | nil =>
    cases others with
    | nil => exact ⟨rfl, (List.cons.inj same).2⟩
    | cons other others =>
      simp only [endLines, List.flatMap_nil, List.nil_append, List.flatMap_cons,
        List.append_assoc] at same
      exact absurd same.symm (not_empty (others_filled other (by simp)))
  | cons line lines ih =>
    cases others with
    | nil =>
      simp only [endLines, List.flatMap_nil, List.nil_append, List.flatMap_cons,
        List.append_assoc] at same
      exact absurd same (not_empty (filled line (by simp)))
    | cons other others =>
      simp only [endLines, List.flatMap_cons, List.append_assoc, List.singleton_append] at same
      obtain ⟨first, later⟩ :=
        append_newline_inj (filled line (by simp)).2 (others_filled other (by simp)).2 same
      obtain ⟨lines_same, rest_same⟩ := ih
        (fun each mem => filled each (List.mem_cons_of_mem _ mem))
        (fun each mem => others_filled each (List.mem_cons_of_mem _ mem)) later
      exact ⟨by rw [first, lines_same], rest_same⟩

/-! ## Tokens -/

/-- The token lines of a group can be read back, along with what follows them. -/
theorem PrecedenceGroup.tokenLines_append_inj {level : Nat} {first : Bool}
    {tokens others : List String} {rest more : List Char}
    (one_line : ∀ token ∈ tokens, '\n' ∉ token.toList)
    (others_one_line : ∀ token ∈ others, '\n' ∉ token.toList)
    (same : tokenLines level first tokens ++ ';' :: rest =
      tokenLines level first others ++ ';' :: more) :
    tokens = others ∧ rest = more := by
  induction tokens generalizing level first others with
  | nil =>
    cases others with
    | nil => exact ⟨rfl, (List.cons.inj same).2⟩
    | cons other others => cases first <;> simp [tokenLines] at same
  | cons token tokens ih =>
    cases others with
    | nil => cases first <;> simp [tokenLines] at same
    | cons other others =>
      -- what stands in front of a token's name is the same on both sides
      simp only [tokenLines, List.append_assoc, List.cons_append, List.append_cancel_left_eq,
        List.cons.injEq, true_and] at same
      obtain ⟨names, later⟩ := Text.append_newline_inj (one_line token (by simp))
        (others_one_line other (by simp)) same
      obtain ⟨tokens_same, rest_same⟩ := ih
        (fun each mem => one_line each (List.mem_cons_of_mem _ mem))
        (fun each mem => others_one_line each (List.mem_cons_of_mem _ mem)) later
      exact ⟨by rw [String.toList_inj.mp names, tokens_same], rest_same⟩

/-- The sign of an associativity can be read back, along with what follows it. -/
theorem Associativity.sign_append_inj {first second : Associativity} {rest more : List Char}
    (same : first.sign ++ ' ' :: rest = second.sign ++ ' ' :: more) :
    first = second ∧ rest = more := by
  cases first <;> cases second <;> simp_all [sign]

/-- A rendered group can be read back, along with what follows it. -/
theorem PrecedenceGroup.render_append_inj {level : Nat} {group other : PrecedenceGroup}
    {rest more : List Char} (one_line : ∀ token ∈ group.tokens, '\n' ∉ token.toList)
    (other_one_line : ∀ token ∈ other.tokens, '\n' ∉ token.toList)
    (same : group.render level ++ rest = other.render level ++ more) :
    group = other ∧ rest = more := by
  simp only [render, List.append_assoc, List.cons_append, List.nil_append] at same
  obtain ⟨signs, lines⟩ := Associativity.sign_append_inj same
  obtain ⟨tokens, ends⟩ := tokenLines_append_inj one_line other_one_line lines
  obtain ⟨associativity, names⟩ := group
  obtain ⟨other_associativity, other_names⟩ := other
  exact ⟨by simp_all, (List.cons.inj ends).2⟩

/-- A group starts with its sign or a blank, unlike what follows the last group. -/
theorem PrecedenceGroup.head?_render (level : Nat) (group : PrecedenceGroup) (rest : List Char) :
    (group.render level ++ rest).head? ≠ some '\'' ∧
      (group.render level ++ rest).head? ≠ some ';' := by
  unfold render
  cases group.associativity <;> simp [Associativity.sign]

/-- Rendered groups can be read back, along with what follows them; where they end is told by the
first character behind. -/
theorem renderGroups_append_inj {level : Nat} {groups others : List PrecedenceGroup}
    {rest more : List Char}
    (one_line : ∀ group ∈ groups, ∀ token ∈ group.tokens, '\n' ∉ token.toList)
    (others_one_line : ∀ group ∈ others, ∀ token ∈ group.tokens, '\n' ∉ token.toList)
    (ends : rest.head? = some '\'' ∨ rest.head? = some ';')
    (others_end : more.head? = some '\'' ∨ more.head? = some ';')
    (same : renderGroups level groups ++ rest = renderGroups level others ++ more) :
    groups = others ∧ rest = more := by
  induction groups generalizing level others with
  | nil =>
    cases others with
    | nil => exact ⟨rfl, same⟩
    | cons other others =>
      rw [renderGroups, renderGroups, List.nil_append, List.append_assoc] at same
      have starts := other.head?_render level
        (renderGroups (level + other.tokens.length) others ++ more)
      rw [← same] at starts
      exact absurd ends (not_or.mpr starts)
  | cons group groups ih =>
    cases others with
    | nil =>
      rw [renderGroups, renderGroups, List.nil_append, List.append_assoc] at same
      have starts := group.head?_render level
        (renderGroups (level + group.tokens.length) groups ++ rest)
      rw [same] at starts
      exact absurd others_end (not_or.mpr starts)
    | cons other others =>
      rw [renderGroups, renderGroups, List.append_assoc, List.append_assoc] at same
      obtain ⟨rfl, later⟩ := PrecedenceGroup.render_append_inj (one_line group (by simp))
        (others_one_line other (by simp)) same
      obtain ⟨rfl, rest_same⟩ := ih (fun each mem => one_line each (List.mem_cons_of_mem _ mem))
        (fun each mem => others_one_line each (List.mem_cons_of_mem _ mem)) later
      exact ⟨rfl, rest_same⟩

/-- Rendered plain tokens can be read back, along with what follows them. -/
theorem renderTokens_append_inj {level : Nat} {tokens others : List String}
    {rest more : List Char} (one_line : ∀ token ∈ tokens, '\n' ∉ token.toList)
    (others_one_line : ∀ token ∈ others, '\n' ∉ token.toList)
    (same : renderTokens level tokens ++ ';' :: rest = renderTokens level others ++ ';' :: more) :
    tokens = others ∧ rest = more := by
  induction tokens generalizing level others with
  | nil =>
    cases others with
    | nil => exact ⟨rfl, (List.cons.inj same).2⟩
    | cons other others => simp [renderTokens, quoteLevel] at same
  | cons token tokens ih =>
    cases others with
    | nil => simp [renderTokens, quoteLevel] at same
    | cons other others =>
      simp only [renderTokens, List.append_assoc, List.cons_append, List.append_cancel_left_eq,
        List.cons.injEq, true_and] at same
      have ended : ∀ {name : String}, '\n' ∉ name.toList → '\n' ∉ name.toList ++ [' '] := by
        intro name clean
        simpa using clean
      rw [List.append_cons, List.append_cons other.toList] at same
      obtain ⟨names, later⟩ := Text.append_newline_inj (ended (one_line token (by simp)))
        (ended (others_one_line other (by simp))) same
      obtain ⟨tokens_same, rest_same⟩ := ih
        (fun each mem => one_line each (List.mem_cons_of_mem _ mem))
        (fun each mem => others_one_line each (List.mem_cons_of_mem _ mem)) later
      have name := String.toList_inj.mp (List.append_cancel_right names)
      exact ⟨by rw [name, tokens_same], rest_same⟩

/-! ## Rules -/

/-- The lines of a rule that its rendered form shows, with the blanks that it adds. -/
def ruleRows (text : String) : List (List Char) :=
  (Text.lines text.toList).zipIdx.filterMap fun line =>
    if isBlankLine line.1 then none
    else some ((if line.2 = 0 then ruleIndent else []) ++ line.1)

/-- The lines of a rule that are not blank, without the blanks in front of them. -/
def ruleLines (text : String) : List (List Char) :=
  ((Text.lines text.toList).filter fun line => !isBlankLine line).map Text.trimLeft

/-- A row of a rule with the rule's marker behind it. -/
def markedRow (id : Nat) (row : List Char) : List Char :=
  row ++ ([' ', '[', '*'] ++ ruleMarker id ++ ['*', ']'])

/-- A rendered rule is its marked rows, each with its line end, and the lines that close it. -/
theorem renderRule_eq (id : Nat) (text : String) :
    renderRule id text =
      Text.endLines ((ruleRows text).map (markedRow id)) ++ '\n' :: [';', '\n'] := by
  suffices rows : _ = Text.endLines ((ruleRows text).map (markedRow id)) by
    rw [← rows]
    rfl
  unfold ruleRows
  generalize (Text.lines text.toList).zipIdx = lines
  induction lines with
  | nil => rfl
  | cons line lines ih =>
    simp only [List.flatMap_cons, List.filterMap_cons, ih]
    by_cases blank : isBlankLine line.1 = true
    · simp [blank]
    · simp [blank, Text.endLines, markLine, markedRow]

/-- Up to blanks in front, the rows of a rule are its lines. -/
theorem map_trimLeft_ruleRows (text : String) :
    (ruleRows text).map Text.trimLeft = ruleLines text := by
  have indented : ∀ line : List Char × Nat,
      Text.trimLeft ((if line.2 = 0 then ruleIndent else []) ++ line.1) = Text.trimLeft line.1 := by
    intro line
    split
    · rw [Text.trimLeft, List.dropWhile_append_of_pos]
      · rfl
      · intro c mem
        rw [List.eq_of_mem_replicate mem]
        decide
    · rfl
  unfold ruleRows ruleLines
  generalize Text.lines text.toList = lines
  suffices numbered : ∀ start, ((lines.zipIdx start).filterMap fun line =>
      if isBlankLine line.1 then none
      else some ((if line.2 = 0 then ruleIndent else []) ++ line.1)).map Text.trimLeft =
        (lines.filter fun line => !isBlankLine line).map Text.trimLeft from numbered 0
  induction lines with
  | nil => intro start; rfl
  | cons line lines ih =>
    intro start
    rw [List.zipIdx_cons, List.filterMap_cons, List.filter_cons]
    by_cases blank : isBlankLine line = true
    · simp [blank, ih]
    · simp [blank, ih, indented (line, start)]

/-- No marked row is empty or goes over a line end. -/
theorem markedRow_filled {text : String} {id : Nat} :
    ∀ row ∈ (ruleRows text).map (markedRow id), row ≠ [] ∧ '\n' ∉ row := by
  intro marked mem
  obtain ⟨row, row_mem, rfl⟩ := List.mem_map.mp mem
  obtain ⟨line, line_mem, shown⟩ := List.mem_filterMap.mp row_mem
  have one_line : '\n' ∉ line.1 :=
    Text.newline_not_mem_lines _ _ (List.fst_mem_of_mem_zipIdx line_mem)
  have digits : '\n' ∉ Nat.toDigits 10 id := by
    intro inside
    have digit := Nat.isDigit_of_mem_toDigits (by decide) (by decide) inside
    contradiction
  refine ⟨by simp [markedRow], ?_⟩
  split at shown
  · contradiction
  · rw [← Option.some.inj shown]
    split <;> simp [markedRow, ruleMarker, ruleIndent, one_line, digits]

/-- The last rule of a grammar is rendered first. -/
theorem renderRules_concat (texts : List String) (text : String) :
    renderRules (texts ++ [text]) = renderRule texts.length text ++ renderRules texts := by
  simp [renderRules, List.zipIdx_append]

/-- Rules that are rendered alike are as many, and show the same rows one by one. -/
theorem map_ruleRows_of_renderRules {texts others : List String}
    (same : renderRules texts = renderRules others) :
    texts.map ruleRows = others.map ruleRows := by
  have not_empty : ∀ (texts : List String) (text : String), renderRules (texts ++ [text]) ≠ [] := by
    intro texts text
    simp [renderRules_concat, renderRule]
  induction texts using List.reverseRecOn generalizing others with
  | nil =>
    cases others using List.reverseRecOn with
    | nil => rfl
    | append_singleton others other => exact absurd same.symm (not_empty others other)
  | append_singleton texts text ih =>
    cases others using List.reverseRecOn with
    | nil => exact absurd same (not_empty texts text)
    | append_singleton others other =>
      rw [renderRules_concat, renderRules_concat, renderRule_eq, renderRule_eq, List.append_assoc,
        List.append_assoc, List.cons_append, List.cons_append] at same
      obtain ⟨rows, later⟩ := Text.endLines_append_inj markedRow_filled markedRow_filled same
      have earlier := ih (by simpa using later)
      -- as many rules are still to come, so the markers are the same
      have count : texts.length = others.length := by simpa using congrArg List.length earlier
      rw [count] at rows
      have last : ruleRows text = ruleRows other :=
        (List.map_inj_right fun _ _ => List.append_cancel_right).mp rows
      rw [List.map_append, List.map_append, earlier, List.map_singleton, List.map_singleton, last]

/-! ## Grammars -/

namespace Grammar

variable {C V D W : Type}

/-- No name of a token holds a line feed. -/
structure OneLine (grammar : Grammar C V) : Prop where
  tokens : ∀ token ∈ grammar.tokens, '\n' ∉ token.toList
  ranked : ∀ group ∈ grammar.precedence, ∀ token ∈ group.tokens, '\n' ∉ token.toList

/-- The grammars say the same to a compiler: they have the same precedence groups, the same tokens
outside of these, and as many rules, which have the same lines one by one. -/
structure Alike (first : Grammar C V) (second : Grammar D W) : Prop where
  precedence : first.precedence = second.precedence
  plainTokens : first.plainTokens = second.plainTokens
  count : first.rules.length = second.rules.length
  lines : ∀ (id : Nat) (rule : GrammarRule C V) (other : GrammarRule D W),
    first.rules[id]? = some rule → second.rules[id]? = some other →
    ruleLines rule.text = ruleLines other.text

/-- The plain tokens of a one-line grammar have no line ends. -/
theorem OneLine.plainTokens {grammar : Grammar C V} (one_line : grammar.OneLine) :
    ∀ token ∈ grammar.plainTokens, '\n' ∉ token.toList := by
  intro token mem
  exact one_line.tokens token (List.mem_filter.mp mem).1

/-- What follows the groups starts with a quote or with a semicolon. -/
theorem head?_renderTokens (level : Nat) (tokens : List String) (rest : List Char) :
    (renderTokens level tokens ++ (divider ++ rest)).head? = some '\'' ∨
      (renderTokens level tokens ++ (divider ++ rest)).head? = some ';' := by
  cases tokens with
  | nil => exact .inr rfl
  | cons token tokens => exact .inl rfl

/-- One-line grammars that are rendered the same are alike. -/
theorem alike_of_renderChars {first : Grammar C V} {second : Grammar D W}
    (first_one_line : first.OneLine) (second_one_line : second.OneLine)
    (same : first.renderChars = second.renderChars) : first.Alike second := by
  simp only [renderChars, List.append_assoc, List.append_cancel_left_eq] at same
  obtain ⟨precedence, others⟩ := renderGroups_append_inj first_one_line.ranked
    second_one_line.ranked (head?_renderTokens _ _ _) (head?_renderTokens _ _ _) same
  have count : first.rankedCount = second.rankedCount := by
    rw [rankedCount, rankedCount, precedence]
  rw [count] at others
  obtain ⟨tokens, rules⟩ := renderTokens_append_inj first_one_line.plainTokens
    second_one_line.plainTokens others
  have rows := map_ruleRows_of_renderRules (List.append_cancel_left rules)
  have lines := congrArg (List.map (List.map Text.trimLeft)) rows
  simp only [List.map_map, Function.comp_def, map_trimLeft_ruleRows] at lines
  refine ⟨precedence, tokens, by simpa using congrArg List.length lines, ?_⟩
  intro id rule other found found_other
  have at_id := congrArg (·[id]?) lines
  simpa [found, found_other] using at_id

/-- The rendered form identifies a grammar. Grammars with the same rendered form have the same
precedence groups, the same tokens without precedence and the same number of rules, and each rule
has the same lines in both, up to leading blanks and apart from blank lines. So unless two rendered
forms share a digest, a cache serves tables that carry the digest of one grammar for another only if
the two are alike. -/
theorem alike_of_render_eq {first : Grammar C V} {second : Grammar D W}
    (first_one_line : first.OneLine) (second_one_line : second.OneLine) :
    (first.render = second.render → first.Alike second) ∧
    ((first.hash = second.hash → first.render = second.render) →
      ∀ (σ : Type) (backend : Backend σ) (name : String) (state after : CacheState σ)
        (found : TableBundle),
        TableCache.tables backend second.render name state = (.ok found, after) →
        found.hash = first.hash → first.Alike second) := by
  have alike : first.render = second.render → first.Alike second := by
    intro same
    apply alike_of_renderChars first_one_line second_one_line
    exact String.ofList_injective same
  refine ⟨alike, ?_⟩
  intro no_collision σ backend name state after found served carried
  have current := (TableCache.memoized_of_served served).1
  exact alike (no_collision (carried.symm.trans current))

/-- Two rules. The first one is written over three lines, with semicolons, a divider and a marker in
its text; the other one is blank. -/
def spelledGrammar : Grammar Unit Unit :=
  { tokens := ["x", "y"], precedence := [⟨.left, ["x"]⟩, ⟨.none, []⟩],
    rules := [⟨"start : x ; 'y'\n##\n  | y [*_1*]", none⟩, ⟨" \n", none⟩] }

/-- The same rules, with the first line further down and another blank text. -/
def respelledGrammar : Grammar Unit Unit :=
  { spelledGrammar with
    tokens := ["y"]
    rules := [⟨"\n               start : x ; 'y'\n##\n\n  | y [*_1*]\n", none⟩, ⟨"", none⟩] }

/-- Both spellings render to the same text, so tables of the one are served for the other. -/
theorem alike_of_render_eq_respelled :
    spelledGrammar.OneLine ∧ respelledGrammar.OneLine ∧
    spelledGrammar.render = respelledGrammar.render ∧ spelledGrammar.Alike respelledGrammar ∧
    let kept := { TableCache.sampleTables "_0" with hash := spelledGrammar.hash }
    let state : CacheState (Named String) := ⟨Named.empty.put "p" kept, .empty⟩
    TableCache.tables TableCache.sampleBackend respelledGrammar.render "p" state =
      (.ok kept, state) ∧ kept.hash = spelledGrammar.hash ∧
    spelledGrammar.Alike respelledGrammar := by
  have one_line : spelledGrammar.OneLine := ⟨by decide +kernel, by decide +kernel⟩
  have other_one_line : respelledGrammar.OneLine := ⟨by decide +kernel, by decide +kernel⟩
  have same : spelledGrammar.render = respelledGrammar.render := by decide +kernel
  obtain ⟨alike, served_alike⟩ := alike_of_render_eq one_line other_one_line
  refine ⟨one_line, other_one_line, same, alike same, ?_⟩
  intro kept state
  have served : TableCache.tables TableCache.sampleBackend respelledGrammar.render "p" state =
      (.ok kept, state) := by
    apply TableCache.tables_of_memoized
    simp [TableCache.memoized?, state, kept, hash, same]
  exact ⟨served, rfl, served_alike (fun _ => same) _ _ _ _ _ _ served rfl⟩

end Grammar

end ShaderSyntax
