import ShaderSyntax.Proofs.Pattern.Exploration
import ShaderSyntax.Token.Lexer

/-!
# Maximal munch

A lexer takes the first rule of its list that matches, and of that rule the match it prefers. Where
each rule prefers its longest match, and no rule accepts anything that goes on from what an earlier
rule accepts, this is the longest beginning of the text that any rule accepts, and only one rule
accepts it (`Lexer.lexeme?_eq_some_iff`). What is longest does not depend on the order of the rules.

That only rules of some kinds fit texts with a given beginning is checked on the automata of the
other rules (`Lexer.reserves_of_check`).
-/

set_option autoImplicit false

namespace ShaderSyntax

/-- A rule fits a text if its pattern does. -/
def TokenRule.Fits (rule : TokenRule) (text : List Char) : Prop :=
  ∃ pattern, Pattern.read? rule.pattern = some pattern ∧ text ∈ pattern.language

/-- A lexeme is the longest beginning of a text that any of some rules fits. -/
structure Lexeme.Munches (lexeme : Lexeme) (rules : List TokenRule) (text : List Char) : Prop where
  listed : lexeme.rule ∈ rules
  ahead : lexeme.text <+: text
  fits : lexeme.rule.Fits lexeme.text
  longest : ∀ rule ∈ rules, ∀ word, word <+: text → rule.Fits word →
    word.length ≤ lexeme.text.length

/-- The order of the rules does not matter. -/
theorem Lexeme.Munches.of_perm {lexeme : Lexeme} {rules others : List TokenRule} {text : List Char}
    (munches : lexeme.Munches rules text) (same : rules.Perm others) :
    lexeme.Munches others text :=
  ⟨same.mem_iff.mp munches.listed, munches.ahead, munches.fits,
    fun rule listed => munches.longest rule (same.mem_iff.mpr listed)⟩

namespace Lexer

variable {lexer : Lexer} {rules : List TokenRule} {text word rest : List Char} {lexeme : Lexeme}

/-- Each rule prefers its longest match, and nothing that a rule accepts is gone on with by a later
one. -/
structure Orderly (lexer : Lexer) : Prop where
  patient : ∀ entry ∈ lexer.entries, entry.2.Patient [entry.2.start]
  guarded : lexer.entries.Pairwise fun first second => Automaton.Guards first.2 second.2

/-- Checks that rules are in order. -/
def areOrderly (steps : Nat) : List (TokenRule × Automaton) → Bool
  | [] => true
  | first :: others =>
    first.2.isPatient steps && others.all (fun other => Automaton.guards first.2 other.2 steps) &&
      areOrderly steps others

/-- A lexer that passes the check is orderly. -/
theorem orderly_of_check {steps : Nat} (checked : areOrderly steps lexer.entries = true) :
    lexer.Orderly := by
  obtain ⟨entries⟩ := lexer
  induction entries with
  | nil => exact ⟨by simp, .nil⟩
  | cons first others ih =>
    simp only [areOrderly, Bool.and_eq_true, List.all_eq_true] at checked
    obtain ⟨⟨patient, guarded⟩, later⟩ := checked
    obtain ⟨all_patient, all_guarded⟩ := ih later
    refine ⟨List.forall_mem_cons.mpr ⟨Automaton.patient_of_check patient, all_patient⟩, ?_⟩
    exact .cons (fun other listed => Automaton.guards_of_check (guarded other listed)) all_guarded

/-- In an orderly lexer the first rule that matches has the longest match of all rules, and no other
rule accepts it; if no rule is chosen, none accepts anything. -/
theorem Orderly.choose?_spec (orderly : lexer.Orderly) (text : List Char) :
    (∃ entry ∈ lexer.entries, ∃ length, lexer.choose? text = some (entry.1, length) ∧
      Automaton.Longest (entry.2.Accepts entry.2.start) text length ∧
      ∀ other ∈ lexer.entries, ∀ word, word <+: text → other.2.Accepts other.2.start word →
        word.length ≤ length ∧ (word.length = length → other = entry)) ∨
    (lexer.choose? text = none ∧ ∀ entry ∈ lexer.entries, ∀ word, word <+: text →
      ¬entry.2.Accepts entry.2.start word) := by
  obtain ⟨entries⟩ := lexer
  induction entries with
  | nil => exact .inr ⟨rfl, by simp⟩
  | cons first others ih =>
    obtain ⟨patient, guarded⟩ := orderly
    obtain ⟨first_guards, guarded⟩ := List.pairwise_cons.mp guarded
    obtain ⟨first_patient, patient⟩ := List.forall_mem_cons.mp patient
    obtain ⟨length, found, longest⟩ | ⟨none_found, none_fits⟩ :=
      Automaton.matchLength?_spec first_patient text
    · refine .inl ⟨first, List.mem_cons_self, length, by simp [choose?, found], longest, ?_⟩
      intro other listed word ahead accepts
      obtain rfl | later := List.mem_cons.mp listed
      · exact ⟨longest.longest word ahead accepts, fun _ => rfl⟩
      · -- a word of a later rule that is not shorter would go on from the match
        have shorter : word.length < length := by
          by_contra longer
          have below : text.take length <+: word :=
            List.prefix_of_prefix_length_le (List.take_prefix ..) ahead (by
              rw [List.length_take]
              omega)
          obtain ⟨more, rfl⟩ := below
          exact first_guards other later _ more longest.accepted accepts
        exact ⟨Nat.le_of_lt shorter, fun same => absurd same (Nat.ne_of_lt shorter)⟩
    · have skipped : choose? ⟨first :: others⟩ text = choose? ⟨others⟩ text := by
        simp [choose?, none_found]
      rw [skipped]
      obtain ⟨entry, listed, length, found, longest, best⟩ | ⟨none_chosen, none_later⟩ :=
        ih ⟨patient, guarded⟩
      · refine .inl ⟨entry, List.mem_cons_of_mem _ listed, length, found, longest, ?_⟩
        intro other there word ahead accepts
        obtain rfl | later := List.mem_cons.mp there
        · exact absurd accepts (none_fits word ahead)
        · exact best other later word ahead accepts
      · refine .inr ⟨none_chosen, ?_⟩
        intro entry there word ahead
        obtain rfl | later := List.mem_cons.mp there
        · exact none_fits word ahead
        · exact none_later entry later word ahead

/-- A rule of a lexer fits what its automaton accepts. -/
theorem fits_iff_accepts (made : ofRules rules = .ok lexer) {entry : TokenRule × Automaton}
    (listed : entry ∈ lexer.entries) :
    entry.1.Fits word ↔ entry.2.Accepts entry.2.start word := by
  obtain ⟨pattern, reads, same⟩ := (entries_of_ofRules made).2 entry listed
  rw [same, Automaton.accepts_ofPattern, TokenRule.Fits]
  constructor
  · rintro ⟨other, reads', fits⟩
    rw [reads, Option.some.injEq] at reads'
    exact reads' ▸ fits
  · exact fun fits => ⟨pattern, reads, fits⟩

/-- The rules a lexer is made of are those of its entries. -/
theorem mem_rules_iff (made : ofRules rules = .ok lexer) {rule : TokenRule} :
    rule ∈ rules ↔ ∃ entry ∈ lexer.entries, entry.1 = rule := by
  rw [← (entries_of_ofRules made).1, List.mem_map]

/-- The lexeme is cut off with the chosen rule and length, unless that is empty. -/
theorem lexeme?_of_choose? {rule : TokenRule} {length : Nat}
    (chosen : lexer.choose? text = some (rule, length)) :
    lexer.lexeme? text =
      if length = 0 then none else some (⟨rule, text.take length⟩, text.drop length) := by
  cases length <;> simp [lexeme?, chosen]

/-- The lexeme that an orderly lexer takes is accepted by its rule; no rule accepts a longer
beginning of the text, and no other rule one of the same length. -/
theorem Orderly.of_lexeme? (orderly : lexer.Orderly)
    (taken : lexer.lexeme? text = some (lexeme, rest)) :
    ∃ entry ∈ lexer.entries, entry.1 = lexeme.rule ∧
      entry.2.Accepts entry.2.start lexeme.text ∧
      ∀ other ∈ lexer.entries, ∀ word, word <+: text → other.2.Accepts other.2.start word →
        word.length ≤ lexeme.text.length ∧ (word.length = lexeme.text.length → other = entry) := by
  obtain ⟨entry, listed, length, chosen, longest, best⟩ | ⟨none_chosen, -⟩ :=
    orderly.choose?_spec text
  · rw [lexeme?_of_choose? chosen] at taken
    split at taken
    · simp at taken
    · obtain ⟨rfl, -⟩ := Prod.mk.inj (Option.some.inj taken)
      have size : (text.take length).length = length := List.length_take_of_le longest.within
      exact ⟨entry, listed, rfl, longest.accepted, by rwa [size]⟩
  · simp [lexeme?, none_chosen] at taken

/-- An orderly lexer takes the longest beginning of a text that any of its rules fits, unless this
is empty. -/
theorem lexeme?_eq_some_iff (made : ofRules rules = .ok lexer) (orderly : lexer.Orderly) :
    lexer.lexeme? text = some (lexeme, rest) ↔
      lexeme.Munches rules text ∧ lexeme.text ≠ [] ∧ lexeme.text ++ rest = text := by
  constructor
  · intro taken
    obtain ⟨whole, filled⟩ := lexeme?_eq_some taken
    obtain ⟨entry, listed, rule, accepted, best⟩ := orderly.of_lexeme? taken
    refine ⟨⟨?_, ⟨rest, whole⟩, ?_, ?_⟩, filled, whole⟩
    · exact (mem_rules_iff made).mpr ⟨entry, listed, rule⟩
    · rw [← rule]
      exact (fits_iff_accepts made listed).mpr accepted
    · intro other there word ahead fits
      obtain ⟨entry', listed', rfl⟩ := (mem_rules_iff made).mp there
      exact (best entry' listed' word ahead ((fits_iff_accepts made listed').mp fits)).1
  · rintro ⟨munches, filled, whole⟩
    obtain ⟨entry, listed, rule⟩ := (mem_rules_iff made).mp munches.listed
    have accepts : entry.2.Accepts entry.2.start lexeme.text :=
      (fits_iff_accepts made listed).mp (rule ▸ munches.fits)
    obtain ⟨chosen, there, length, found, longest, best⟩ | ⟨-, none_fits⟩ :=
      orderly.choose?_spec text
    · have size : (text.take length).length = length := List.length_take_of_le longest.within
      have not_longer : (text.take length).length ≤ lexeme.text.length :=
        munches.longest chosen.1 ((mem_rules_iff made).mpr ⟨chosen, there, rfl⟩) _
          (List.take_prefix ..) ((fits_iff_accepts made there).mpr longest.accepted)
      obtain ⟨not_shorter, only⟩ := best entry listed lexeme.text munches.ahead accepts
      have same : lexeme.text.length = length := by omega
      have not_empty : length ≠ 0 := by
        rw [← same]
        exact fun none_taken => filled (List.length_eq_zero_iff.mp none_taken)
      rw [lexeme?_of_choose? found, if_neg not_empty, ← only same, rule, ← same, ← whole,
        List.take_left, List.drop_left]
    · exact absurd accepts (none_fits entry listed lexeme.text munches.ahead)

/-- No other rule fits the lexeme that an orderly lexer takes. -/
theorem rule_eq_of_lexeme? (made : ofRules rules = .ok lexer) (orderly : lexer.Orderly)
    (taken : lexer.lexeme? text = some (lexeme, rest)) {rule : TokenRule} (listed : rule ∈ rules)
    (fits : rule.Fits lexeme.text) : rule = lexeme.rule := by
  obtain ⟨entry, -, of_lexeme, -, best⟩ := orderly.of_lexeme? taken
  obtain ⟨other, there, rfl⟩ := (mem_rules_iff made).mp listed
  have accepts := (fits_iff_accepts made there).mp fits
  have same := (best other there lexeme.text ⟨rest, (lexeme?_eq_some taken).1⟩ accepts).2 rfl
  rw [same, of_lexeme]

/-- No rule but those of some kinds fits a text whose beginning a pattern fits. -/
def Reserves (rules : List TokenRule) (front : Pattern) (kinds : List String) : Prop :=
  ∀ rule ∈ rules, rule.kind ∉ kinds → ∀ word ∈ front.language, ∀ more, ¬rule.Fits (word ++ more)

/-- Checks that the texts whose beginning a pattern fits are reserved for some kinds of rules. -/
def reserves (lexer : Lexer) (steps : Nat) (front : Pattern) (kinds : List String) : Bool :=
  lexer.entries.all fun entry =>
    kinds.contains entry.1.kind || Automaton.guards (.ofPattern front) entry.2 steps

/-- Rules that pass the check reserve a beginning for some kinds. -/
theorem reserves_of_check (made : ofRules rules = .ok lexer) {steps : Nat} {front : Pattern}
    {kinds : List String} (checked : lexer.reserves steps front kinds = true) :
    Reserves rules front kinds := by
  intro rule listed other word in_front more fits
  obtain ⟨entry, there, rfl⟩ := (mem_rules_iff made).mp listed
  have guarded := List.all_eq_true.mp checked entry there
  rw [Bool.or_eq_true, List.contains_iff_mem] at guarded
  have guards := Automaton.guards_of_check (guarded.resolve_left other)
  have accepts := (Automaton.accepts_ofPattern front word).mpr in_front
  exact guards word more accepts ((fits_iff_accepts made there).mp fits)

/-- Where an orderly lexer takes a lexeme, nothing else is the longest. -/
theorem eq_of_munches (made : ofRules rules = .ok lexer) (orderly : lexer.Orderly)
    (taken : lexer.lexeme? text = some (lexeme, rest)) {other : Lexeme}
    (longest : other.Munches rules text) : other = lexeme := by
  obtain ⟨munches, filled, -⟩ := (lexeme?_eq_some_iff made orderly).mp taken
  have not_shorter := longest.longest _ munches.listed _ munches.ahead munches.fits
  have other_filled : other.text ≠ [] := by
    intro none_taken
    rw [none_taken] at not_shorter
    exact filled (List.length_eq_zero_iff.mp (Nat.le_zero.mp not_shorter))
  obtain ⟨behind, whole⟩ := longest.ahead
  have also_taken := (lexeme?_eq_some_iff made orderly).mpr ⟨longest, other_filled, whole⟩
  rw [taken] at also_taken
  exact (Prod.mk.inj (Option.some.inj also_taken)).1.symm

end Lexer

end ShaderSyntax
