import ShaderSyntax.Grammar.Binding
import ShaderSyntax.Proofs.Grammar.Rendering
import ShaderSyntax.Proofs.Numeral.Whole

/-!
# Markers are read back

A rendered grammar puts a marker on each line of a rule, the compiler hands the markers back in the
records of a bundle, and binding finds the rules by them. The marker of a rule is read as the rule's
number, with any blanks around it (`ProductionRecord.ruleId?_of_padded`), so binding gives each
production the action of the rule it came from; and it fails at the first production whose marker
names no rule (`Grammar.bind_of_markers`).

What a marker names is said without the reader: between blanks an underscore, a plus sign or none,
and decimal digits of a number of 64 bits (`ProductionRecord.Names`). Neither an underscore nor a
digit is a blank, so trimming a code finds just these characters.
-/

set_option autoImplicit false

namespace ShaderSyntax

/-! ## Markers in the rendered form -/

/-- The lines of a rendered rule are its marked rows and the two that close it. -/
theorem lines_renderRule (id : Nat) (text : String) (rest : List Char) :
    Text.lines (renderRule id text ++ rest) =
      (ruleRows text).map (markedRow id) ++ [] :: [';'] :: Text.lines rest := by
  rw [renderRule_eq, List.append_assoc,
    Text.lines_endLines_append fun row mem => (markedRow_filled row mem).2]
  simp [Text.lines, Text.onFirstLine]

/-- Each row of a rule, marked with its number, is a line of the rendered rules. -/
theorem markedRow_mem_lines {rules : List (String × Nat)} {rule : String × Nat}
    (listed : rule ∈ rules) {row : List Char} (shown : row ∈ ruleRows rule.1) :
    markedRow rule.2 row ∈ Text.lines (rules.flatMap fun rule => renderRule rule.2 rule.1) := by
  induction rules with
  | nil => cases listed
  | cons other rules ih =>
    rw [List.flatMap_cons, lines_renderRule]
    rcases List.mem_cons.mp listed with rfl | later
    · exact List.mem_append_left _ (List.mem_map_of_mem shown)
    · exact List.mem_append_right _ (List.mem_cons_of_mem _ (List.mem_cons_of_mem _ (ih later)))

namespace Grammar

variable {C V : Type} {grammar : Grammar C V}

/-- The lines of a rule stand in the rendered form, with the rule's marker behind them. -/
theorem markedRow_mem_render {id : Nat} {rule : GrammarRule C V}
    (there : grammar.rules[id]? = some rule) {row : List Char} (shown : row ∈ ruleRows rule.text) :
    markedRow id row ∈ Text.lines grammar.render.toList := by
  have listed : (rule.text, id) ∈ (grammar.rules.map GrammarRule.text).zipIdx.reverse := by
    rw [List.mem_reverse, List.mem_zipIdx_iff_getElem?, List.getElem?_map, there]
    rfl
  have marked := markedRow_mem_lines listed shown
  have ended : divider = ";\n\n##\n".toList ++ ['\n'] := by decide
  rw [render, String.toList_ofList, renderChars, ended, ← List.append_assoc, List.append_assoc,
    List.singleton_append, Text.lines_append]
  exact List.mem_append_right _ marked

end Grammar

/-! ## What markers name -/

namespace ProductionRecord

/-- The code of a record names a number: between blanks an underscore, a plus sign or none, and the
decimal digits of a number of 64 bits. -/
def Names (record : ProductionRecord) (id : Nat) : Prop :=
  ∃ number digits, Text.Padded ('_' :: number) record.code.toList ∧
    (number = digits ∨ number = '+' :: digits) ∧
    Numeral.Spells 10 Numeral.unsignedLimit digits ∧ Numeral.positional 10 digits = id

variable {record : ProductionRecord} {id : Nat}

/-- A decimal digit is not a blank. -/
theorem not_blank_of_digit {c : Char} (digit : Numeral.digitValue c < 10) :
    Text.isBlank c = false := by
  by_cases ascii : c.toNat < 128
  · have listed : ∀ n < 128, Numeral.digitValue (Char.ofNat n) < 10 →
        Text.isBlank (Char.ofNat n) = false := by
      decide +kernel
    exact Numeral.of_ascii c ascii listed digit
  · rw [Numeral.digitValue_of_not_ascii ascii] at digit
    contradiction

/-- A marker is what remains of a code that is trimmed. -/
theorem trim_of_marker {number digits : List Char}
    (padded : Text.Padded ('_' :: number) record.code.toList)
    (signed : number = digits ∨ number = '+' :: digits) (filled : digits ≠ [])
    (all : Numeral.AllDigits 10 digits) : Text.trim record.code.toList = '_' :: number := by
  apply Text.trim_of_padded padded
  · intro c first
    obtain rfl := Option.some.inj first
    decide
  · intro c last
    have ends : digits.getLast? = some c := by
      rcases signed with rfl | rfl
      · rwa [List.getLast?_cons_of_ne_nil filled] at last
      · rwa [List.getLast?_cons_cons, List.getLast?_cons_of_ne_nil filled] at last
    exact not_blank_of_digit (all c (List.mem_of_getLast? ends))
  · simp

/-- A record's rule is the number that its code names. -/
theorem ruleId?_eq_some_iff : record.ruleId? = some id ↔ record.Names id := by
  have read_iff : ∀ number, Numeral.decimal? number = some id ↔ ∃ digits,
      (number = digits ∨ number = '+' :: digits) ∧
      Numeral.Spells 10 Numeral.unsignedLimit digits ∧ Numeral.positional 10 digits = id := by
    intro number
    rw [← Numeral.unsigned_eq_ok_iff (by decide) (by decide), Numeral.decimal?]
    cases Numeral.unsigned 10 number <;> simp [Except.toOption]
  constructor
  · intro read
    unfold ruleId? at read
    split at read
    case h_1 number trimmed =>
      obtain ⟨digits, signed, spells, spelled⟩ := (read_iff number).mp read
      exact ⟨number, digits, trimmed ▸ Text.padded_trim _, signed, spells, spelled⟩
    case h_2 => contradiction
  · rintro ⟨number, digits, padded, signed, spells, spelled⟩
    rw [ruleId?, trim_of_marker padded signed spells.filled spells.all]
    exact (read_iff number).mpr ⟨digits, signed, spells, spelled⟩

/-- The marker of a rule names the rule. -/
theorem ruleId?_of_padded (word : id ≤ Numeral.unsignedLimit)
    (padded : Text.Padded (ruleMarker id) record.code.toList) : record.ruleId? = some id :=
  ruleId?_eq_some_iff.mpr ⟨Nat.toDigits 10 id, Nat.toDigits 10 id, padded, .inl rfl,
    Numeral.spells_toDigits word, Numeral.positional_toDigits id⟩

end ProductionRecord

/-! ## Binding -/

namespace Grammar

variable {C V : Type}

/-- A record carries the marker of a rule, with any blanks around it. -/
structure Marks (grammar : Grammar C V) (record : ProductionRecord) (id : Nat) : Prop where
  rule : id < grammar.rules.length
  word : id ≤ Numeral.unsignedLimit
  code : Text.Padded (ruleMarker id) record.code.toList

/-- The code of a record names a rule. -/
def Resolves (grammar : Grammar C V) (record : ProductionRecord) : Prop :=
  ∃ id, record.Names id ∧ id < grammar.rules.length

/-- Two ways to name no rule: by a number behind those of the rules, of any size, or by a code that
does not start with an underscore. -/
inductive Strays (grammar : Grammar C V) (record : ProductionRecord) : Prop
  | beyond {number digits : List Char} (code : Text.Padded ('_' :: number) record.code.toList)
      (signed : number = digits ∨ number = '+' :: digits) (filled : digits ≠ [])
      (all : Numeral.AllDigits 10 digits)
      (exceeds : grammar.rules.length ≤ Numeral.positional 10 digits)
  | unmarked (code : ∀ marker, Text.Padded marker record.code.toList → marker.head? ≠ some '_')

variable {grammar : Grammar C V} {record : ProductionRecord}

/-- A code with the marker of a rule names that rule. -/
theorem ruleOf?_of_marks {id : Nat} (marks : grammar.Marks record id) :
    grammar.ruleOf? record = grammar.rules[id]? := by
  rw [ruleOf?, ProductionRecord.ruleId?_of_padded marks.word marks.code, Option.bind_some]

/-- No rule is found for a record exactly if its code names none. -/
theorem ruleOf?_eq_none_iff : grammar.ruleOf? record = none ↔ ¬grammar.Resolves record := by
  simp only [Resolves, ← ProductionRecord.ruleId?_eq_some_iff, ruleOf?]
  cases record.ruleId? <;> simp

/-- A code with the marker of a rule resolves. -/
theorem resolves_of_marks {id : Nat} (marks : grammar.Marks record id) :
    grammar.Resolves record :=
  ⟨id, ProductionRecord.ruleId?_eq_some_iff.mp
    (ProductionRecord.ruleId?_of_padded marks.word marks.code), marks.rule⟩

/-- A code with a marker of no rule, or without a marker, does not resolve. -/
theorem not_resolves_of_strays (strays : grammar.Strays record) : ¬grammar.Resolves record := by
  rintro ⟨id, ⟨number, digits, padded, signed, spells, rfl⟩, inside⟩
  cases strays with
  | @beyond other others code other_signed filled all exceeds =>
    -- the code is trimmed to one marker, which has its digits behind one sign
    have trimmed := ProductionRecord.trim_of_marker padded signed spells.filled spells.all
    rw [ProductionRecord.trim_of_marker code other_signed filled all, List.cons.injEq] at trimmed
    have same := Numeral.digits_unique all spells.all other_signed (trimmed.2 ▸ signed)
    rw [same] at exceeds
    exact Nat.not_lt.mpr exceeds inside
  | unmarked code => exact code _ padded rfl

/-- Records that name rules are bound. -/
theorem exists_bindFrom {records : List ProductionRecord} {production : Nat}
    (resolve : ∀ record ∈ records, grammar.Resolves record) :
    ∃ actions, grammar.bindFrom production records = .ok actions := by
  induction records generalizing production with
  | nil => exact ⟨[], rfl⟩
  | cons record rest ih =>
    obtain ⟨found, bound⟩ :=
      @ih (production + 1) fun later mem => resolve later (List.mem_cons_of_mem _ mem)
    cases named : grammar.ruleOf? record with
    | none => exact absurd (resolve record List.mem_cons_self) (ruleOf?_eq_none_iff.mp named)
    | some rule => exact ⟨rule.action :: found, by rw [bindFrom, named, bound]; rfl⟩

/-- The first record that names no rule is reported. -/
theorem bindFrom_of_not_resolves {front rest : List ProductionRecord} {production : Nat}
    (resolve : ∀ earlier ∈ front, grammar.Resolves earlier)
    (unresolved : ¬grammar.Resolves record) :
    grammar.bindFrom production (front ++ record :: rest) =
      .error (.unknownRule (production + front.length) record.code) := by
  induction front generalizing production with
  | nil =>
    rw [List.nil_append, bindFrom, ruleOf?_eq_none_iff.mpr unresolved]
    rfl
  | cons earlier front ih =>
    have failed := @ih (production + 1) fun other mem => resolve other (List.mem_cons_of_mem _ mem)
    cases named : grammar.ruleOf? earlier with
    | none => exact absurd (resolve earlier List.mem_cons_self) (ruleOf?_eq_none_iff.mp named)
    | some rule =>
      rw [List.cons_append, bindFrom, named, failed, List.length_cons, Nat.add_right_comm,
        Nat.add_assoc]
      rfl

/-- Among records of which one names no rule there is a first one. -/
theorem exists_first_unresolved {records : List ProductionRecord} (mem : record ∈ records)
    (unresolved : ¬grammar.Resolves record) : ∃ front bad rest, records = front ++ bad :: rest ∧
      (∀ earlier ∈ front, grammar.Resolves earlier) ∧ ¬grammar.Resolves bad := by
  have found : (records.find? fun other => (grammar.ruleOf? other).isNone).isSome := by
    rw [List.find?_isSome]
    exact ⟨record, mem, Option.isNone_iff_eq_none.mpr (ruleOf?_eq_none_iff.mpr unresolved)⟩
  obtain ⟨bad, first⟩ := Option.isSome_iff_exists.mp found
  obtain ⟨unnamed, front, rest, split, before⟩ := List.find?_eq_some_iff_append.mp first
  refine ⟨front, bad, rest, split, ?_, ?_⟩
  · intro earlier there
    by_contra none_named
    have named := before earlier there
    rw [ruleOf?_eq_none_iff.mpr none_named] at named
    contradiction
  · exact ruleOf?_eq_none_iff.mp (Option.isNone_iff_eq_none.mp unnamed)

/-- If the inner records carry markers of rules, each production gets the action of its rule. -/
theorem bind_of_marks {tables : TableBundle} (recorded : tables.records ≠ [])
    (marked : ∀ production record, production ≠ 0 → tables.records[production]? = some record →
      ∃ id, grammar.Marks record id) :
    ∃ actions, grammar.bind tables = .ok actions ∧ actions.length = tables.records.length ∧
      actions[0]? = some none ∧
      ∀ production record id, production ≠ 0 → tables.records[production]? = some record →
        grammar.Marks record id →
        ∃ rule, grammar.rules[id]? = some rule ∧ actions[production]? = some rule.action := by
  obtain ⟨goal, rest, same⟩ := List.exists_cons_of_ne_nil recorded
  have resolve : ∀ record ∈ rest, grammar.Resolves record := by
    intro record mem
    obtain ⟨place, there⟩ := List.getElem?_of_mem mem
    obtain ⟨id, marks⟩ := marked (place + 1) record (by simp) (by simpa [same] using there)
    exact resolves_of_marks marks
  obtain ⟨found, bound⟩ := @exists_bindFrom _ _ grammar rest 1 resolve
  have all_bound : grammar.bind tables = .ok (none :: found) := by
    rw [bind, same]
    simp [bound, Except.map]
  refine ⟨none :: found, all_bound, length_bind all_bound, rfl, ?_⟩
  intro production record id inner there marks
  obtain ⟨place, rfl⟩ := Nat.exists_eq_succ_of_ne_zero inner
  rw [same, List.getElem?_cons_succ] at there
  have inside := marks.rule
  refine ⟨grammar.rules[id], List.getElem?_eq_getElem inside, ?_⟩
  rw [List.getElem?_cons_succ, bindFrom_eq_map bound, List.getElem?_map, there, Option.map_some,
    ruleOf?_of_marks marks, List.getElem?_eq_getElem inside, Option.bind_some]

/-- If an inner record names no rule, the first such record is reported. -/
theorem bind_of_not_resolves {tables : TableBundle} {production : Nat} (inner : production ≠ 0)
    (there : tables.records[production]? = some record) (unresolved : ¬grammar.Resolves record) :
    ∃ first bad, first ≠ 0 ∧ first ≤ production ∧ tables.records[first]? = some bad ∧
      ¬grammar.Resolves bad ∧
      (∀ other earlier, other ≠ 0 → other < first → tables.records[other]? = some earlier →
        grammar.Resolves earlier) ∧
      grammar.bind tables = .error (.unknownRule first bad.code) := by
  cases same : tables.records with
  | nil => simp [same] at there
  | cons goal records =>
    obtain ⟨place, rfl⟩ := Nat.exists_eq_succ_of_ne_zero inner
    rw [same, List.getElem?_cons_succ] at there
    obtain ⟨front, bad, rest, rfl, resolve, bad_unresolved⟩ :=
      exists_first_unresolved (List.mem_of_getElem? there) unresolved
    have earlier_resolves : ∀ other earlier, other < front.length →
        (front ++ bad :: rest)[other]? = some earlier → grammar.Resolves earlier := by
      intro other earlier before at_other
      rw [List.getElem?_append_left before] at at_other
      exact resolve earlier (List.mem_of_getElem? at_other)
    refine ⟨front.length + 1, bad, by simp, ?_, by simp, bad_unresolved, ?_, ?_⟩
    · by_contra behind
      exact unresolved (earlier_resolves place record (by omega) there)
    · intro other earlier other_inner before at_other
      obtain ⟨other, rfl⟩ := Nat.exists_eq_succ_of_ne_zero other_inner
      exact earlier_resolves other earlier (by omega) at_other
    · rw [bind, same]
      simp [bindFrom_of_not_resolves resolve bad_unresolved, Except.map, Nat.add_comm]

/-- Markers are read back. A rendered grammar shows the lines of each rule with the rule's marker
behind them. If the records of all productions but the goal carry markers of rules, with any blanks
around them, binding gives an action for each record: none for the goal, whatever its marker, and
for each other production that of the rule whose marker it carries. If one of them carries a number
behind those of the rules, or no underscore at its start, binding fails and reports the first
production whose code names no rule. -/
theorem bind_of_markers (grammar : Grammar C V) (tables : TableBundle) :
    (∀ id rule, grammar.rules[id]? = some rule → ∀ row ∈ ruleRows rule.text,
      markedRow id row ∈ Text.lines grammar.render.toList) ∧
    (tables.records ≠ [] →
      (∀ production record, production ≠ 0 → tables.records[production]? = some record →
        ∃ id, grammar.Marks record id) →
      ∃ actions, grammar.bind tables = .ok actions ∧ actions.length = tables.records.length ∧
        actions[0]? = some none ∧
        ∀ production record id, production ≠ 0 → tables.records[production]? = some record →
          grammar.Marks record id →
          ∃ rule, grammar.rules[id]? = some rule ∧ actions[production]? = some rule.action) ∧
    ∀ production record, production ≠ 0 → tables.records[production]? = some record →
      grammar.Strays record →
      ∃ first bad, first ≠ 0 ∧ first ≤ production ∧ tables.records[first]? = some bad ∧
        ¬grammar.Resolves bad ∧
        (∀ other earlier, other ≠ 0 → other < first → tables.records[other]? = some earlier →
          grammar.Resolves earlier) ∧
        grammar.bind tables = .error (.unknownRule first bad.code) := by
  refine ⟨?_, bind_of_marks, ?_⟩
  · intro id rule there row shown
    exact markedRow_mem_render there shown
  · intro production record inner there strays
    exact bind_of_not_resolves inner there (not_resolves_of_strays strays)

/-- Eleven rules, the last of them without an action. -/
def elevenRules : Grammar Unit Unit :=
  { tokens := [], precedence := [],
    rules := List.replicate 10 ⟨"r : x", some fun context _ => (.ok (), context)⟩ ++
      [⟨"\nr : y", none⟩] }

/-- Tables whose records carry codes. -/
def codedTables (codes : List String) : TableBundle :=
  { TableCache.sampleTables "" with records := codes.map fun code => ⟨0, 0, [], code⟩ }

/-- A marker of two digits between blanks is read back, next to one of a single digit and a goal
with a code that is no marker. Where the number is one too great, binding stops, though a later code
has no underscore at all. -/
theorem bind_of_markers_eleven :
    markedRow 10 "r : y".toList ∈ Text.lines elevenRules.render.toList ∧
    (∃ actions, elevenRules.bind (codedTables ["goal", "\t_10 \n", "_9"]) = .ok actions ∧
      actions.length = 3 ∧ actions[0]? = some none ∧ actions[1]? = some none ∧
      ∃ rule, elevenRules.rules[9]? = some rule ∧ rule.action.isSome ∧
        actions[2]? = some rule.action) ∧
    elevenRules.bind (codedTables ["goal", " _9", "_+11", "r"]) =
      .error (.unknownRule 2 "_+11") := by
  have ten : elevenRules.Marks ⟨0, 0, [], "\t_10 \n"⟩ 10 :=
    ⟨by decide, by decide, ['\t'], [' ', '\n'], List.all_eq_true.mp (by decide),
      List.all_eq_true.mp (by decide), by decide⟩
  have nine : elevenRules.Marks ⟨0, 0, [], "_9"⟩ 9 :=
    ⟨by decide, by decide, [], [], nofun, nofun, by decide⟩
  have indented : elevenRules.Marks ⟨0, 0, [], " _9"⟩ 9 :=
    ⟨by decide, by decide, [' '], [], List.all_eq_true.mp (by decide), nofun, by decide⟩
  have eleven : elevenRules.Strays ⟨0, 0, [], "_+11"⟩ :=
    @Strays.beyond _ _ _ _ ['+', '1', '1'] ['1', '1']
      ⟨[], [], nofun, nofun, by decide⟩ (.inr rfl) (by decide)
      (Numeral.allDigits_toDigits 11) (by decide)
  have bare : elevenRules.Strays ⟨0, 0, [], "r"⟩ := by
    refine .unmarked ?_
    rintro marker ⟨before, after, blank, -, same⟩ starts
    cases before with
    | nil => cases marker <;> simp_all
    | cons c before =>
      have first : 'r' = c := by simpa using congrArg List.head? same
      have not_blank : Text.isBlank 'r' = false := by decide
      simp [← first, not_blank] at blank
  refine ⟨?_, ?_, ?_⟩
  · obtain ⟨rendered, -⟩ := bind_of_markers elevenRules (codedTables [])
    exact rendered 10 ⟨"\nr : y", none⟩ rfl _ (by decide +kernel)
  · obtain ⟨-, binds, -⟩ :=
      bind_of_markers elevenRules (codedTables ["goal", "\t_10 \n", "_9"])
    obtain ⟨actions, bound, length, goal, inner⟩ := binds (by simp [codedTables]) (by
      intro production record inner there
      obtain ⟨place, rfl⟩ := Nat.exists_eq_succ_of_ne_zero inner
      have mem : record ∈ [⟨0, 0, [], "\t_10 \n"⟩, ⟨0, 0, [], "_9"⟩] := List.mem_of_getElem? there
      rcases List.mem_pair.mp mem with rfl | rfl
      · exact ⟨10, ten⟩
      · exact ⟨9, nine⟩)
    obtain ⟨last, at_ten, passes⟩ := inner 1 _ 10 (by decide) rfl ten
    obtain ⟨rule, at_nine, acts⟩ := inner 2 _ 9 (by decide) rfl nine
    obtain rfl := Option.some.inj at_ten
    obtain rfl := Option.some.inj at_nine
    exact ⟨actions, bound, length, goal, passes, _, rfl, rfl, acts⟩
  · obtain ⟨-, -, strays⟩ :=
      bind_of_markers elevenRules (codedTables ["goal", " _9", "_+11", "r"])
    obtain ⟨first, bad, inner, le, there, unresolved, before, failed⟩ :=
      strays 3 ⟨0, 0, [], "r"⟩ (by decide) rfl bare
    obtain rfl | rfl | rfl : first = 1 ∨ first = 2 ∨ first = 3 := by omega
    · obtain rfl := Option.some.inj there
      exact absurd (resolves_of_marks indented) unresolved
    · obtain rfl := Option.some.inj there
      exact failed
    · exact absurd (before 2 _ (by decide) (by decide) rfl) (not_resolves_of_strays eleven)

end Grammar

end ShaderSyntax
