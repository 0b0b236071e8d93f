import ShaderSyntax.Proofs.Numeral.Decimal
import ShaderSyntax.Proofs.Numeral.Whole
import ShaderSyntax.Proofs.Shader.Tokens
import ShaderSyntax.Shader.Constant

/-!
# How constants are spelled

What the kind of a shader token says about its text. A token comes from a rule whose pattern fits
its text, and only names are given a kind other than their rule's (`Shader.rule_of_stream`); so the
text of a constant fits the pattern of the constant's kind (`Shader.fits_of_kind`). The patterns of
numbers are taken apart here: an integer is digits of the base that its beginning tells
(`Shader.IsInteger.split`), and what a suffix leaves of a floating-point constant is the text of a
decimal number (`Shader.float_suffixed`, `Shader.double_suffixed`).
-/

set_option autoImplicit false

namespace ShaderSyntax.Shader

open Numeral

variable {lexer : Lexer} {source : String} {token : Token} {text : List Char}

/-! ## Tokens and their rules -/

/-- The kinds that a name may get. -/
def nameKinds : List String := "ID" :: "BOOLCONSTANT" :: keywords

/-- A name gets one of the kinds that names may get. -/
theorem nameKind_mem (text : String) : nameKind "ID" text ∈ nameKinds := by
  unfold nameKind
  split
  case isTrue => simp [nameKinds]
  case isFalse =>
    split
    case isTrue keyword =>
      exact List.mem_cons_of_mem _ (List.mem_cons_of_mem _ (List.contains_iff_mem.mp keyword))
    case isFalse => simp [nameKinds]

/-- A rule that does not discard its lexemes is one of the rules for tokens. -/
theorem exists_keptRule {rule : TokenRule} (listed : rule ∈ tokenRules)
    (kept : rule.discard = false) : ∃ written ∈ keptRules,
      rule = ⟨written.1, written.2, false, if written.1 = "ID" then some rekind else none⟩ := by
  obtain discarded | kept_rule := List.mem_append.mp listed
  · obtain ⟨_, -, rfl⟩ := List.mem_map.mp discarded
    cases kept
  · obtain ⟨written, there, rfl⟩ := List.mem_map.mp kept_rule
    exact ⟨written, there, rfl⟩

/-- The kind that a rule gives to a token with the given text. -/
def kindOf (rule : TokenRule) (text : String) : String :=
  if rule.kind = "ID" then nameKind "ID" text else rule.kind

/-- A rule for tokens keeps the text, and only names get a kind of their own. -/
theorem finish_of_kept {rule : TokenRule} (listed : rule ∈ tokenRules)
    (kept : rule.discard = false) (text : String) (offset : Nat) (span : Span) :
    rule.finish ⟨rule.kind, text, offset, span⟩ = ⟨kindOf rule text, text, offset, span⟩ := by
  obtain ⟨written, -, rfl⟩ := exists_keptRule listed kept
  by_cases name : written.1 = "ID" <;> simp [TokenRule.finish, kindOf, name, rekind]

/-- A token comes from a rule that is kept and fits its text; it has the rule's kind or, if it is a
name, one that a name may get. -/
theorem rule_of_stream (made : Shader.lexer = .ok lexer) (read : .ok token ∈ lexer.stream source) :
    ∃ rule ∈ keptRules,
      (∃ pattern, Pattern.read? rule.2 = some pattern ∧ token.text.toList ∈ pattern.language) ∧
      token.kind = if rule.1 = "ID" then nameKind "ID" token.text else rule.1 := by
  rw [Lexer.stream, Reading.stream_eq] at read
  simp only [List.mem_append, List.mem_map, Option.mem_toList, Option.map_eq_some_iff,
    reduceCtorEq, and_false, exists_false, or_false] at read
  obtain ⟨piece, kept, same⟩ := read
  obtain rfl : Reading.tokenOf piece = token := Except.ok.inj same
  obtain ⟨there, not_discarded⟩ := List.mem_filter.mp kept
  have kept : piece.lexeme.rule.discard = false := by simpa using not_discarded
  obtain ⟨i, at_i⟩ := List.getElem?_of_mem there
  obtain ⟨taken, -⟩ := (lexer.partitions_read source.toList).taken i piece at_i
  obtain ⟨⟨listed, -, ⟨pattern, reads, fits⟩, -⟩, -⟩ := (lexeme?_eq_some_iff made).mp taken
  obtain ⟨rule, written, of_rule⟩ := exists_keptRule listed kept
  rw [Reading.tokenOf, finish_of_kept listed kept]
  refine ⟨rule, written, ⟨pattern, by simpa [of_rule] using reads, ?_⟩, ?_⟩
  · rwa [String.toList_ofList]
  · rw [kindOf, of_rule]

/-- The text of a token fits the pattern of the token's kind, unless names may get this kind. -/
theorem fits_of_kind (made : Shader.lexer = .ok lexer) (read : .ok token ∈ lexer.stream source)
    {kind : String} {pattern : Pattern} (own : kind ∉ nameKinds)
    (reads : ∀ rule ∈ keptRules, rule.1 = kind → Pattern.read? rule.2 = some pattern)
    (same : token.kind = kind) : token.text.toList ∈ pattern.language := by
  obtain ⟨rule, listed, ⟨other, reads', fits⟩, kinds⟩ := rule_of_stream made read
  rw [same] at kinds
  split at kinds
  case isTrue => exact absurd (kinds ▸ nameKind_mem token.text) own
  case isFalse =>
    have known := reads rule listed kinds.symm
    rw [reads', Option.some.injEq] at known
    exact known ▸ fits

/-- A Boolean constant is spelled in lower case. -/
theorem text_of_boolean (made : Shader.lexer = .ok lexer)
    (read : .ok token ∈ lexer.stream source) (kind : token.kind = "BOOLCONSTANT") :
    token.text = "true" ∨ token.text = "false" := by
  obtain ⟨rule, listed, -, kinds⟩ := rule_of_stream made read
  rw [kind] at kinds
  split at kinds
  case isTrue =>
    unfold nameKind at kinds
    split at kinds
    case isTrue name => simpa using name
    case isFalse =>
      split at kinds
      case isTrue keyword =>
        rw [← kinds] at keyword
        exact absurd keyword (by decide +kernel)
      case isFalse => exact absurd kinds (by decide)
  case isFalse =>
    have none_such : ∀ rule ∈ keptRules, rule.1 ≠ "BOOLCONSTANT" := by decide +kernel
    exact absurd kinds.symm (none_such rule listed)

/-- The lexer is made, and reads a text as it is evaluated to. -/
theorem exists_stream_eq (source : String) (tokens : List Token)
    (evaluated : (Shader.lexer.toOption.map fun lexer =>
      let reading := lexer.read source.toList
      (reading.pieces.filterMap Piece.token?, reading.fault)) = some (tokens, none)) :
    ∃ lexer, Shader.lexer = .ok lexer ∧ lexer.stream source = tokens.map .ok := by
  obtain ⟨lexer, made, evaluated⟩ := exists_ok_of_evaluated evaluated
  obtain ⟨kept, no_fault⟩ := Prod.mk.inj evaluated
  refine ⟨lexer, made, ?_⟩
  rw [Lexer.stream, Reading.stream, kept, no_fault, Option.map_none, Option.toList_none,
    List.append_nil]

/-! ## Suffixes -/

/-- A text without its suffix: behind it stand letters of suffixes only, and it does not end in one
itself. -/
structure Stripped (letters text body : List Char) : Prop where
  behind : ∃ suffix, text = body ++ suffix ∧ ∀ c ∈ suffix, c ∈ letters
  stop : ∀ c, body.getLast? = some c → c ∉ letters

/-- What is left of a text is the text without its suffix. -/
theorem stripped_iff {letters body : List Char} :
    Stripped letters text body ↔ dropSuffix letters text = body := by
  constructor
  · -- from the end, the letters of the suffix are dropped, and then nothing more
    rintro ⟨⟨suffix, rfl, marks⟩, stop⟩
    have none_more : body.reverse.dropWhile letters.contains = body.reverse := by
      cases reversed : body.reverse with
      | nil => rfl
      | cons c rest =>
        have last : body.getLast? = some c := by
          rw [List.getLast?_eq_head?_reverse, reversed]
          rfl
        exact List.dropWhile_cons_of_neg fun mark => stop c last (List.contains_iff_mem.mp mark)
    have all : ∀ c ∈ suffix.reverse, letters.contains c = true := fun c mem =>
      List.contains_iff_mem.mpr (marks c (List.mem_reverse.mp mem))
    rw [dropSuffix, List.reverse_append, List.dropWhile_append_of_pos all, none_more,
      List.reverse_reverse]
  · rintro rfl
    refine ⟨⟨(text.reverse.takeWhile letters.contains).reverse, ?_, ?_⟩, ?_⟩
    · rw [dropSuffix, ← List.reverse_append, List.takeWhile_append_dropWhile,
        List.reverse_reverse]
    · intro c mem
      have all := List.all_eq_true.mp
        (List.all_takeWhile (p := letters.contains) (l := text.reverse))
      exact List.contains_iff_mem.mp (all c (List.mem_reverse.mp mem))
    · intro c last mark
      rw [dropSuffix, List.getLast?_reverse] at last
      have stop := List.head?_dropWhile_not letters.contains text.reverse
      simp only [last, List.contains_iff_mem.mpr mark] at stop
      contradiction

/-! ## Integers -/

/-- Either of two characters. -/
def either (first second : Char) : CharSet :=
  .union (.union .none (.single first)) (.single second)

/-- The decimal digits. -/
def decimalSet : CharSet := .union .none (.range '0' '9')

/-- The digits of base sixteen. -/
def hexadecimalSet : CharSet := .union (.union decimalSet (.range 'a' 'f')) (.range 'A' 'F')

/-- Decimal digits, at least one. -/
def someDecimal : Pattern := .plus true (.set decimalSet)

/-- The pattern of integers. -/
def integerPattern : Pattern :=
  .alt (.seq (.set (.single '0'))
    (.seq (.set (either 'x' 'X')) (.plus true (.set hexadecimalSet)))) someDecimal

/-- The pattern of unsigned integers. -/
def unsignedPattern : Pattern := .seq integerPattern (.set (either 'u' 'U'))

/-- A set of one character has this character only. -/
theorem contains_single {c d : Char} : (CharSet.single c).contains d = true ↔ d = c := by
  simp only [CharSet.single, CharSet.contains, Bool.and_eq_true, decide_eq_true_eq]
  constructor
  · rintro ⟨low, high⟩
    exact Char.le_antisymm high low
  · rintro rfl
    exact ⟨Char.le_refl _, Char.le_refl _⟩

/-- A set of two characters has these only. -/
theorem contains_either {first second c : Char} :
    (either first second).contains c = true ↔ c = first ∨ c = second := by
  simp only [either, CharSet.contains, Bool.or_eq_true, contains_single, Bool.false_eq_true,
    false_or]

/-- What the sets of digits contain are digits. -/
theorem digitValue_lt_of_contains {c : Char} :
    (decimalSet.contains c = true → digitValue c < 10) ∧
      (hexadecimalSet.contains c = true → digitValue c < 16) := by
  by_cases ascii : c.toNat < 128
  · refine of_ascii c ascii ?_
    decide +kernel
  · have above : ∀ d : Char, d.toNat < 128 → ¬c ≤ d :=
      fun _ small below => ascii (ascii_of_le small below)
    simp [decimalSet, hexadecimalSet, CharSet.contains, above '9' (by decide),
      above 'f' (by decide), above 'F' (by decide)]

/-- The text of an integer: digits of base ten, or digits of base sixteen behind `0x` or `0X`. -/
inductive IsInteger : List Char → Prop
  | decimal {digits : List Char} (filled : digits ≠ []) (all : AllDigits 10 digits) :
      IsInteger digits
  | hexadecimal {mark : Char} {digits : List Char} (marked : mark = 'x' ∨ mark = 'X')
      (filled : digits ≠ []) (all : AllDigits 16 digits) : IsInteger ('0' :: mark :: digits)

/-- The number that the text of an integer spells: in base sixteen behind `0x` or `0X`, and in base
ten otherwise. -/
def integerValue : List Char → Nat
  | '0' :: 'x' :: digits => positional 16 digits
  | '0' :: 'X' :: digits => positional 16 digits
  | digits => positional 10 digits

/-- What the pattern of integers fits is an integer. -/
theorem isInteger_of_fits (fits : text ∈ integerPattern.language) : IsInteger text := by
  obtain fits | fits := Pattern.mem_alt.mp fits
  · obtain ⟨_, ⟨zero, is_zero, rfl⟩, _, behind, rfl⟩ := Pattern.mem_seq.mp fits
    obtain ⟨_, ⟨mark, marked, rfl⟩, digits, all, rfl⟩ := Pattern.mem_seq.mp behind
    obtain ⟨filled, all⟩ := Pattern.mem_plus_set.mp all
    obtain rfl := contains_single.mp is_zero
    exact .hexadecimal (contains_either.mp marked) filled fun c mem =>
      digitValue_lt_of_contains.2 (all c mem)
  · obtain ⟨filled, all⟩ := Pattern.mem_plus_set.mp fits
    exact .decimal filled fun c mem => digitValue_lt_of_contains.1 (all c mem)

/-- The value of an integer is that of its digits in its base. -/
theorem integerValue_eq (text : List Char) :
    integerValue text = positional (splitBase text).1 (splitBase text).2 := by
  unfold integerValue
  split
  case h_1 => rfl
  case h_2 => rfl
  case h_3 no_x no_X =>
    rw [splitBase]
    · exact no_x
    · exact no_X

/-- The mark of base sixteen is no digit of base ten. -/
theorem not_allDigits_mark {mark : Char} {digits : List Char} (marked : mark = 'x' ∨ mark = 'X') :
    ¬AllDigits 10 ('0' :: mark :: digits) := by
  refine not_allDigits_of_mem (by decide) (List.mem_cons_of_mem _ List.mem_cons_self) ?_
  rcases marked with rfl | rfl <;> decide

/-- The text of an integer is divided into its base and its digits. -/
theorem IsInteger.split (integer : IsInteger text) : ∃ base digits,
    splitBase text = (base, digits) ∧ 0 < base ∧ base ≤ 16 ∧ digits ≠ [] ∧
      AllDigits base digits ∧ integerValue text = positional base digits := by
  cases integer with
  | decimal filled all =>
    have divided : splitBase text = (10, text) := by
      unfold splitBase
      split
      case h_1 => exact absurd all (not_allDigits_mark (.inl rfl))
      case h_2 => exact absurd all (not_allDigits_mark (.inr rfl))
      case h_3 => rfl
    refine ⟨10, text, divided, by decide, by decide, filled, all, ?_⟩
    rw [integerValue_eq, divided]
  | hexadecimal marked filled all =>
    rcases marked with rfl | rfl
    · exact ⟨16, _, rfl, by decide, by decide, filled, all, rfl⟩
    · exact ⟨16, _, rfl, by decide, by decide, filled, all, rfl⟩

/-- An integer ends in a digit, in base sixteen at most. -/
theorem IsInteger.last (integer : IsInteger text) {c : Char} (last : text.getLast? = some c) :
    digitValue c < 16 := by
  cases integer with
  | decimal filled all =>
    exact Nat.lt_trans (all c (List.mem_of_getLast? last)) (by decide)
  | @hexadecimal mark digits marked filled all =>
    have whole : ('0' :: mark :: digits).getLast? = digits.getLast? :=
      List.getLast?_append_of_ne_nil ['0', mark] filled
    exact all c (List.mem_of_getLast? (whole.symm.trans last))

/-- An unsigned integer is an integer with a mark behind it, and this mark is dropped. -/
theorem unsigned_stripped (fits : text ∈ unsignedPattern.language) : ∃ integer mark,
    text = integer ++ [mark] ∧ (mark = 'u' ∨ mark = 'U') ∧ IsInteger integer ∧
      dropSuffix ['u', 'U'] text = integer := by
  obtain ⟨integer, front, _, ⟨mark, marked, rfl⟩, rfl⟩ := Pattern.mem_seq.mp fits
  have is_integer := isInteger_of_fits front
  have marked := contains_either.mp marked
  refine ⟨integer, mark, rfl, marked, is_integer, stripped_iff.mp ⟨⟨[mark], rfl, ?_⟩, ?_⟩⟩
  · intro c mem
    rw [List.mem_singleton.mp mem]
    rcases marked with rfl | rfl <;> decide
  · intro c last listed
    have digit := is_integer.last last
    have places : digitValue 'u' = 16 ∧ digitValue 'U' = 16 := by decide
    simp only [List.mem_cons, List.not_mem_nil, or_false] at listed
    rcases listed with rfl | rfl <;> omega

/-! ## Floating-point numbers -/

/-- The pattern of exponents. -/
def exponentPattern : Pattern :=
  .seq (.set (either 'e' 'E')) (.seq (.alt (.set (either '+' '-')) .empty) someDecimal)

/-- The pattern of floating-point constants of single precision. -/
def floatPattern : Pattern :=
  .seq someDecimal
    (.alt
      (.seq (.set (.single '.')) (.seq (.star true (.set decimalSet))
        (.seq (.alt exponentPattern .empty) (.alt (.set (either 'f' 'F')) .empty))))
      (.seq (.set (either 'e' 'E')) (.seq (.alt (.set (either '+' '-')) .empty)
        (.seq someDecimal (.alt (.set (either 'f' 'F')) .empty)))))

/-- The pattern of floating-point constants of double precision. -/
def doublePattern : Pattern :=
  .seq someDecimal
    (.seq (.alt (.seq (.set (.single '.')) (.star true (.set decimalSet))) .empty)
      (.seq (.alt exponentPattern .empty)
        (.alt (.seq (.set (.single 'l')) (.set (.single 'f')))
          (.alt (.seq (.set (.single 'L')) (.set (.single 'F'))) (.set (.single 'd'))))))

/-- Repeated decimal digits are all digits, and at least one. -/
theorem allDecimal_of_fits (fits : text ∈ someDecimal.language) : text ≠ [] ∧ AllDecimal text :=
  Pattern.mem_plus_set.mp fits

/-- What an optional sign fits is a sign or nothing. -/
theorem isSign_of_fits (fits : text ∈ (Pattern.alt (.set (either '+' '-')) .empty).language) :
    IsSign text := by
  obtain ⟨sign, listed, rfl⟩ | rfl := Pattern.mem_optional.mp fits
  · obtain rfl | rfl := contains_either.mp listed
    · exact .inr (.inl rfl)
    · exact .inr (.inr rfl)
  · exact .inl rfl

/-- What an optional exponent fits is an exponent or nothing. -/
theorem isExponent_of_fits (fits : text ∈ (Pattern.alt exponentPattern .empty).language) :
    IsExponent text := by
  obtain power | rfl := Pattern.mem_optional.mp fits
  · obtain ⟨_, ⟨mark, marked, rfl⟩, _, behind, rfl⟩ := Pattern.mem_seq.mp power
    obtain ⟨sign, sign_fits, digits, some_digits, rfl⟩ := Pattern.mem_seq.mp behind
    obtain ⟨filled, all⟩ := allDecimal_of_fits some_digits
    show IsExponent (mark :: (sign ++ digits))
    exact .power (contains_either.mp marked) (isSign_of_fits sign_fits) filled all
  · exact .none

/-- A text is a number with a suffix behind it, and dropping the letters of suffixes leaves the
number. -/
def IsSuffixed (letters : List Char) (suffixes : List (List Char)) (text : List Char) : Prop :=
  ∃ number suffix, text = number ++ suffix ∧ suffix ∈ suffixes ∧ IsFinite number ∧
    dropSuffix letters text = number

/-- A suffix is dropped, and no more, since no letter of a suffix ends a number. -/
theorem isSuffixed (letters : List Char) {number suffix : List Char}
    {suffixes : List (List Char)} (finite : IsFinite number) (listed : suffix ∈ suffixes)
    (marks : (suffixes.all fun suffix => suffix.all letters.contains) = true)
    (others : (letters.all fun c => !c.isDigit && c ≠ '.') = true) :
    IsSuffixed letters suffixes (number ++ suffix) := by
  simp only [List.all_eq_true, List.contains_iff_mem, Bool.and_eq_true, Bool.not_eq_true',
    decide_eq_true_eq] at marks others
  refine ⟨number, suffix, rfl, listed, finite, stripped_iff.mp ⟨⟨suffix, rfl, marks _ listed⟩, ?_⟩⟩
  intro c last mark
  obtain ⟨no_digit, no_point⟩ := others c mark
  rcases finite.last last with digit | point
  · rw [digit] at no_digit
    contradiction
  · exact no_point point

/-- The suffixes of constants of single precision. -/
def floatSuffixes : List (List Char) := [[], ['f'], ['F']]

/-- The suffixes of constants of double precision. -/
def doubleSuffixes : List (List Char) := [['l', 'f'], ['L', 'F'], ['d']]

/-- What an optional mark of single precision fits is one of the suffixes. -/
theorem suffix_of_fits (fits : text ∈ (Pattern.alt (.set (either 'f' 'F')) .empty).language) :
    text ∈ floatSuffixes := by
  obtain ⟨mark, marked, rfl⟩ | rfl := Pattern.mem_optional.mp fits
  · rcases contains_either.mp marked with rfl | rfl <;> decide
  · decide

/-- Without its suffix a constant of single precision is the text of a number. -/
theorem float_suffixed (fits : text ∈ floatPattern.language) :
    IsSuffixed ['f', 'F'] floatSuffixes text := by
  obtain ⟨digits, some_digits, _, rest, rfl⟩ := Pattern.mem_seq.mp fits
  obtain ⟨filled, all⟩ := allDecimal_of_fits some_digits
  obtain pointed | whole := Pattern.mem_alt.mp rest
  · obtain ⟨_, ⟨point, is_point, rfl⟩, _, behind, rfl⟩ := Pattern.mem_seq.mp pointed
    obtain ⟨fraction, more, _, last, rfl⟩ := Pattern.mem_seq.mp behind
    obtain ⟨exponent, power, suffix, marks, rfl⟩ := Pattern.mem_seq.mp last
    obtain rfl := contains_single.mp is_point
    have finite : IsFinite (digits ++ '.' :: (fraction ++ exponent)) :=
      .pointed (.inl filled) all (Pattern.mem_star_set.mp more) (isExponent_of_fits power)
    have suffixed := isSuffixed ['f', 'F'] finite (suffix_of_fits marks) (by decide) (by decide)
    simpa only [List.append_assoc, List.cons_append, List.nil_append] using suffixed
  · obtain ⟨_, ⟨mark, marked, rfl⟩, _, behind, rfl⟩ := Pattern.mem_seq.mp whole
    obtain ⟨sign, sign_fits, _, last, rfl⟩ := Pattern.mem_seq.mp behind
    obtain ⟨power, some_power, suffix, marks, rfl⟩ := Pattern.mem_seq.mp last
    obtain ⟨filled_power, all_power⟩ := allDecimal_of_fits some_power
    have finite : IsFinite (digits ++ (mark :: (sign ++ power))) :=
      .whole filled all (.power (contains_either.mp marked) (isSign_of_fits sign_fits)
        filled_power all_power)
    have suffixed := isSuffixed ['f', 'F'] finite (suffix_of_fits marks) (by decide) (by decide)
    simpa only [List.append_assoc, List.cons_append, List.nil_append] using suffixed

/-- Without its suffix a constant of double precision is the text of a number. -/
theorem double_suffixed (fits : text ∈ doublePattern.language) :
    IsSuffixed ['d', 'l', 'f', 'L', 'F'] doubleSuffixes text := by
  obtain ⟨digits, some_digits, _, rest, rfl⟩ := Pattern.mem_seq.mp fits
  obtain ⟨filled, all⟩ := allDecimal_of_fits some_digits
  obtain ⟨fraction, point_fits, _, behind, rfl⟩ := Pattern.mem_seq.mp rest
  obtain ⟨exponent, power_fits, suffix, marks, rfl⟩ := Pattern.mem_seq.mp behind
  have power := isExponent_of_fits power_fits
  have finite : IsFinite (digits ++ (fraction ++ exponent)) := by
    obtain pointed | rfl := Pattern.mem_optional.mp point_fits
    · obtain ⟨_, ⟨point, is_point, rfl⟩, fraction, more, rfl⟩ := Pattern.mem_seq.mp pointed
      obtain rfl := contains_single.mp is_point
      exact .pointed (.inl filled) all (Pattern.mem_star_set.mp more) power
    · exact .whole filled all power
  have listed : suffix ∈ doubleSuffixes := by
    obtain small | marks := Pattern.mem_alt.mp marks
    · obtain ⟨_, ⟨l, is_l, rfl⟩, _, ⟨f, is_f, rfl⟩, rfl⟩ := Pattern.mem_seq.mp small
      obtain rfl := contains_single.mp is_l
      obtain rfl := contains_single.mp is_f
      decide
    obtain large | ⟨d, is_d, rfl⟩ := Pattern.mem_alt.mp marks
    · obtain ⟨_, ⟨l, is_l, rfl⟩, _, ⟨f, is_f, rfl⟩, rfl⟩ := Pattern.mem_seq.mp large
      obtain rfl := contains_single.mp is_l
      obtain rfl := contains_single.mp is_f
      decide
    · obtain rfl := contains_single.mp is_d
      decide
  have suffixed := isSuffixed ['d', 'l', 'f', 'L', 'F'] finite listed (by decide) (by decide)
  simpa only [List.append_assoc] using suffixed

end ShaderSyntax.Shader
