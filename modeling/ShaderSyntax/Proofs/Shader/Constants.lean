import ShaderSyntax.Proofs.Shader.Spelling
import ShaderSyntax.Proofs.Tree.Edits
import ShaderSyntax.Shader.Actions

/-!
# The values of constants

The rules for tokens and the action for constants take texts apart in their own ways: the rules by
patterns, the action by what a text begins and ends with. They agree on every token that the lexer
makes: the action gives a leaf with the value that the text of the token spells, and fails only on
an integer of more than 64 bits (`Shader.converts_of_stream`).
-/

set_option autoImplicit false

namespace ShaderSyntax.Shader

open Numeral

variable {lexer : Lexer} {source : String} {token : Token}

/-- The action for constants makes a leaf of a token and gives it, whatever the tree is. -/
def MakesLeaf (token : Token) (kind : String) (value : Scalar) : Prop :=
  ∀ tree : SyntaxTree, (constant [StackValue.ofToken token]).run tree =
    (.ok (.node tree.size), (tree.leaf kind value).2)

/-- The action for constants fails on a token and leaves the tree as it was. -/
def FailsOn (token : Token) (error : ActionError) : Prop :=
  ∀ tree : SyntaxTree, (constant [StackValue.ofToken token]).run tree = (.error error, tree)

/-- The action for constants runs as its text is read. -/
theorem run_constant (kind text : String) (line : Nat) (tree : SyntaxTree) :
    (constant [.token kind text line]).run tree =
      match readConstant kind text with
      | .ok (leafKind, value) => (.ok (.node tree.size), (tree.leaf leafKind value).2)
      | .error error => (.error error, tree) := by
  cases read : readConstant kind text with
  | ok leaf =>
    obtain ⟨leafKind, value⟩ := leaf
    simp only [constant, asToken, create, run_bind, run_pure, run_get, run_set, run_liftM, read]
    rfl
  | error error =>
    simp only [constant, asToken, run_bind, run_pure, run_liftM, read]

/-- A constant that is read makes a leaf with its value. -/
theorem makesLeaf_of_read {kind : String} {value : Scalar}
    (read : readConstant token.kind token.text = .ok (kind, value)) :
    MakesLeaf token kind value := by
  intro tree
  refine (run_constant token.kind token.text token.span.start.line tree).trans ?_
  rw [read]

/-- A constant that cannot be read fails the action. -/
theorem failsOn_of_read {error : ActionError}
    (read : readConstant token.kind token.text = .error error) : FailsOn token error := by
  intro tree
  refine (run_constant token.kind token.text token.span.start.line tree).trans ?_
  rw [read]

/-- A constant that is read under a condition makes a leaf if the condition holds, and fails the
action otherwise. -/
theorem converts_of_read {p : Prop} [Decidable p] {kind : String} {value : Scalar}
    {error : ActionError} (read : readConstant token.kind token.text =
      if p then .ok (kind, value) else .error error) :
    if p then MakesLeaf token kind value else FailsOn token error := by
  split
  case isTrue within => exact makesLeaf_of_read (read.trans (if_pos within))
  case isFalse above => exact failsOn_of_read (read.trans (if_neg above))

/-! ## Reading what is spelled -/

/-- The text of an integer is read as its value, or reported to be too large. -/
theorem readInt_of_integer {text : String} (integer : IsInteger text.toList) :
    readInt text = if integerValue text.toList ≤ Nat.pow 2 63 - 1
      then .ok (integerValue text.toList) else .error (.badInteger text .tooLarge) := by
  obtain ⟨base, digits, divided, positive, small, filled, all, value⟩ := integer.split
  rw [readInt, divided, value]
  dsimp only
  rw [signed_of_digits small filled all, accumulate_of_digits positive small all, signedLimit]
  split <;> rfl

/-- An unsigned constant has the value that its integer spells, if this is within 64 bits. -/
theorem readUInt_of_integer {text : String} {integer : List Char} (is_integer : IsInteger integer)
    (stripped : dropSuffix ['u', 'U'] text.toList = integer) :
    readUInt text = if integerValue integer ≤ Nat.pow 2 64 - 1
      then .ok (integerValue integer) else .error (.badUnsigned text .tooLarge) := by
  obtain ⟨base, digits, divided, positive, small, filled, all, value⟩ := is_integer.split
  rw [readUInt, stripped, divided, value]
  dsimp only
  rw [unsigned_of_digits small filled all, accumulate_of_digits positive small all,
    unsignedLimit]
  split <;> rfl

/-- The text of a number without sign and name is read as a decimal number. -/
theorem exists_decimal_of_finite {text : List Char} (finite : IsFinite text) :
    ∃ decimal, readDecimal text = .ok decimal :=
  exists_decimal_iff.mpr ⟨[], text, rfl, .inl rfl, .inl finite⟩

/-- A floating-point constant has the value nearest to its decimal number. -/
theorem readFloat_of_decimal {letters : List Char} {text : String} {decimal : Decimal}
    (read : readDecimal (dropSuffix letters text.toList) = .ok decimal) :
    readFloat letters text = .ok decimal.toFloat := by
  rw [readFloat, Numeral.readFloat, read]
  rfl

/-! ## Texts that denote constants -/

/-- The text of a number in base ten, or in base sixteen behind `0x` or `0X`. Where a number may
have a sign, it stands behind this mark. -/
def IsPrefixed (number : Nat → List Char → Prop) (text : List Char) : Prop :=
  number 10 text ∨
    ∃ mark digits, (mark = 'x' ∨ mark = 'X') ∧ text = '0' :: mark :: digits ∧ number 16 digits

/-- A text denotes a value of a kind of constants: a number of 64 bits for integers, a decimal
number for the others, without the suffix that the kind has. Any text denotes a Boolean value and a
string. -/
def Denotes (kind text : String) : Prop :=
  match kind with
  | "INTCONSTANT" => IsPrefixed IsSigned text.toList
  | "UINTCONSTANT" => ∃ number, Stripped ['u', 'U'] text.toList number ∧
      IsPrefixed IsUnsigned number
  | "FLOATCONSTANT" => ∃ number, Stripped ['f', 'F'] text.toList number ∧ IsDecimal number
  | "DOUBLECONSTANT" => ∃ number, Stripped ['d', 'l', 'f', 'L', 'F'] text.toList number ∧
      IsDecimal number
  | "BOOLCONSTANT" => True
  | "STRLIT" => True
  | _ => False

/-- No number in base ten begins like one in base sixteen. -/
theorem isPrefixed_iff {number : Nat → List Char → Prop} {text : List Char}
    (plain : ∀ mark digits, mark = 'x' ∨ mark = 'X' → ¬number 10 ('0' :: mark :: digits)) :
    IsPrefixed number text ↔ number (splitBase text).1 (splitBase text).2 := by
  unfold IsPrefixed splitBase
  split
  case h_1 digits =>
    simp [plain 'x' digits (.inl rfl)]
  case h_2 digits =>
    simp [plain 'X' digits (.inr rfl)]
  case h_3 no_x no_X =>
    refine or_iff_left ?_
    rintro ⟨mark, digits, rfl | rfl, rfl, -⟩
    · exact no_x digits rfl
    · exact no_X digits rfl

/-- A text with the mark of base sixteen spells no number in base ten. -/
theorem not_spells_mark {limit : Nat} {mark : Char} {digits : List Char}
    (marked : mark = 'x' ∨ mark = 'X') : ¬Spells 10 limit ('0' :: mark :: digits) := by
  intro spells
  exact not_allDigits_mark marked spells.all

/-- The base of an integer is from one to sixteen. -/
theorem base_of_splitBase (text : List Char) :
    0 < (splitBase text).1 ∧ (splitBase text).1 ≤ 16 := by
  unfold splitBase
  split <;> simp

/-- A result with another error is a success exactly if the result is. -/
theorem exists_mapError_ok_iff {α ε ε' : Type} {result : Except ε α} {wrap : ε → ε'} :
    (∃ value, result.mapError wrap = .ok value) ↔ ∃ value, result = .ok value := by
  cases result <;> simp [Except.mapError]

/-- A signed integer is read from the texts of signed numbers, with a base or none, and from no
others. -/
theorem exists_readInt_iff {text : String} :
    (∃ value, readInt text = .ok value) ↔ IsPrefixed IsSigned text.toList := by
  obtain ⟨positive, small⟩ := base_of_splitBase text.toList
  rw [isPrefixed_iff, ← exists_signed_iff positive small]
  · exact exists_mapError_ok_iff
  · rintro mark digits marked ⟨_, ⟨rfl | same, spells⟩ | ⟨same, -⟩⟩
    · exact not_spells_mark marked spells
    · simp at same
    · simp at same

/-- An unsigned integer is read from the texts of unsigned numbers, with or without suffixes, and
from no others. -/
theorem exists_readUInt_iff {text : String} : (∃ value, readUInt text = .ok value) ↔
    ∃ number, Stripped ['u', 'U'] text.toList number ∧ IsPrefixed IsUnsigned number := by
  obtain ⟨positive, small⟩ := base_of_splitBase (dropSuffix ['u', 'U'] text.toList)
  simp only [stripped_iff, exists_eq_left']
  rw [isPrefixed_iff, ← exists_unsigned_iff positive small]
  · exact exists_mapError_ok_iff
  · rintro mark digits marked ⟨_, rfl | same, spells⟩
    · exact not_spells_mark marked spells
    · simp at same

/-- A floating-point number is read from the texts of decimal numbers, with or without suffixes, and
from no others. -/
theorem exists_readFloat_iff {letters : List Char} {text : String} :
    (∃ value, readFloat letters text = .ok value) ↔
      ∃ number, Stripped letters text.toList number ∧ IsDecimal number := by
  simp only [stripped_iff, exists_eq_left']
  rw [← exists_decimal_iff, readFloat, exists_mapError_ok_iff, Numeral.readFloat,
    exists_map_ok_iff]

/-- The action for constants reads a text exactly if it denotes a value. -/
theorem exists_readConstant_iff (kind text : String) :
    (∃ leaf, readConstant kind text = .ok leaf) ↔ Denotes kind text := by
  unfold readConstant
  split
  case h_1 => simp only [exists_map_ok_iff, exists_readInt_iff, Denotes]
  case h_2 => simp only [exists_map_ok_iff, exists_readUInt_iff, Denotes]
  case h_3 => simp only [exists_map_ok_iff, exists_readFloat_iff, Denotes]
  case h_4 => simp only [exists_map_ok_iff, exists_readFloat_iff, Denotes]
  case h_5 => simp [Denotes]
  case h_6 => simp [Denotes]
  case h_7 => simp [Denotes]

/-! ## Constants of the lexer -/

/-- A constant of single or double precision: its text is a number with a suffix, the number is read
as a decimal one, and the leaf has the number of binary64 nearest to it. -/
def IsFloating (token : Token) (letters : List Char) (suffixes : List (List Char)) (kind : String)
    (make : Float → Scalar) : Prop :=
  ∃ number suffix decimal, token.text.toList = number ++ suffix ∧ suffix ∈ suffixes ∧
    IsFinite number ∧ dropSuffix letters token.text.toList = number ∧
    readDecimal number = .ok decimal ∧ MakesLeaf token kind (make decimal.toFloat)

/-- What the action for constants makes of a token, kind by kind. -/
structure Converts (token : Token) : Prop where
  int : token.kind = "INTCONSTANT" →
    if integerValue token.text.toList ≤ Nat.pow 2 63 - 1
    then MakesLeaf token "IntConstant" (.int (integerValue token.text.toList))
    else FailsOn token (.badInteger token.text .tooLarge)
  uint : token.kind = "UINTCONSTANT" →
    ∃ integer mark, token.text.toList = integer ++ [mark] ∧ (mark = 'u' ∨ mark = 'U') ∧
      if integerValue integer ≤ Nat.pow 2 64 - 1
      then MakesLeaf token "UIntConstant" (.uint (integerValue integer))
      else FailsOn token (.badUnsigned token.text .tooLarge)
  float : token.kind = "FLOATCONSTANT" →
    IsFloating token ['f', 'F'] floatSuffixes "FloatConstant" .float
  double : token.kind = "DOUBLECONSTANT" →
    IsFloating token ['d', 'l', 'f', 'L', 'F'] doubleSuffixes "DoubleConstant" .double
  boolean : token.kind = "BOOLCONSTANT" →
    token.text = "true" ∧ MakesLeaf token "BoolConstant" (.bool true) ∨
      token.text = "false" ∧ MakesLeaf token "BoolConstant" (.bool false)
  string : token.kind = "STRLIT" →
    MakesLeaf token "StringLiteral" (.str (unquote token.text))

/-- A token for an integer makes a leaf with its value, or fails where this exceeds 63 bits. -/
theorem int_of_stream (made : Shader.lexer = .ok lexer) (read : .ok token ∈ lexer.stream source)
    (kind : token.kind = "INTCONSTANT") :
    if integerValue token.text.toList ≤ Nat.pow 2 63 - 1
    then MakesLeaf token "IntConstant" (.int (integerValue token.text.toList))
    else FailsOn token (.badInteger token.text .tooLarge) := by
  have reads : ∀ rule ∈ keptRules, rule.1 = "INTCONSTANT" →
      Pattern.read? rule.2 = some integerPattern := by decide +kernel
  have fits := fits_of_kind made read (by decide +kernel) reads kind
  refine converts_of_read ?_
  rw [kind, readConstant, readInt_of_integer (isInteger_of_fits fits)]
  split <;> rfl

/-- A token for an unsigned integer makes a leaf with its value, or fails where this exceeds 64
bits. -/
theorem uint_of_stream (made : Shader.lexer = .ok lexer) (read : .ok token ∈ lexer.stream source)
    (kind : token.kind = "UINTCONSTANT") :
    ∃ integer mark, token.text.toList = integer ++ [mark] ∧ (mark = 'u' ∨ mark = 'U') ∧
      if integerValue integer ≤ Nat.pow 2 64 - 1
      then MakesLeaf token "UIntConstant" (.uint (integerValue integer))
      else FailsOn token (.badUnsigned token.text .tooLarge) := by
  have reads : ∀ rule ∈ keptRules, rule.1 = "UINTCONSTANT" →
      Pattern.read? rule.2 = some unsignedPattern := by decide +kernel
  have fits := fits_of_kind made read (by decide +kernel) reads kind
  obtain ⟨integer, mark, whole, marked, is_integer, stripped⟩ := unsigned_stripped fits
  refine ⟨integer, mark, whole, marked, converts_of_read ?_⟩
  rw [kind, readConstant, readUInt_of_integer is_integer stripped]
  split <;> rfl

/-- A number with a suffix makes a floating-point constant, if the action drops the letters of the
suffix. -/
theorem isFloating_of_suffixed {letters : List Char} {suffixes : List (List Char)} {kind : String}
    {make : Float → Scalar}
    (action : readConstant token.kind token.text =
      (readFloat letters token.text).map fun value => (kind, make value))
    (suffixed : IsSuffixed letters suffixes token.text.toList) :
    IsFloating token letters suffixes kind make := by
  obtain ⟨number, suffix, whole, listed, finite, stripped⟩ := suffixed
  obtain ⟨decimal, read⟩ := exists_decimal_of_finite finite
  refine ⟨number, suffix, decimal, whole, listed, finite, stripped, read, makesLeaf_of_read ?_⟩
  rw [action, readFloat_of_decimal (stripped.symm ▸ read)]
  rfl

/-- The action for constants succeeds on every constant that the lexer makes, with a leaf that has
the value spelled by the constant's text, unless this is an integer of more than 64 bits: then the
action fails and adds nothing. -/
theorem converts_of_stream (made : Shader.lexer = .ok lexer)
    (read : .ok token ∈ lexer.stream source) : Converts token where
  int := int_of_stream made read
  uint := uint_of_stream made read
  float kind := by
    have reads : ∀ rule ∈ keptRules, rule.1 = "FLOATCONSTANT" →
        Pattern.read? rule.2 = some floatPattern := by decide +kernel
    have fits := fits_of_kind made read (by decide +kernel) reads kind
    refine isFloating_of_suffixed ?_ (float_suffixed fits)
    rw [kind, readConstant]
  double kind := by
    have reads : ∀ rule ∈ keptRules, rule.1 = "DOUBLECONSTANT" →
        Pattern.read? rule.2 = some doublePattern := by decide +kernel
    have fits := fits_of_kind made read (by decide +kernel) reads kind
    refine isFloating_of_suffixed ?_ (double_suffixed fits)
    rw [kind, readConstant]
  boolean kind := by
    have reads : readConstant token.kind token.text =
        .ok ("BoolConstant", .bool (token.text = "true")) := by
      rw [kind, readConstant]
    rcases text_of_boolean made read kind with text | text
    · refine .inl ⟨text, makesLeaf_of_read ?_⟩
      rw [reads, text]
      rfl
    · refine .inr ⟨text, makesLeaf_of_read ?_⟩
      rw [reads, text]
      rfl
  string kind := by
    refine makesLeaf_of_read ?_
    rw [kind, readConstant]

/-- A text of four constants, of which the second is too large. -/
def extremeSource : String :=
  "0x7fffffffffffffff 9223372036854775808 007U 1.e3lf"

/-- The greatest signed integer and the one above it, an unsigned one with zeros in front, and a
number whose point, exponent and suffix follow on each other. -/
theorem converts_of_stream_extreme :
    ∃ lexer greatest above unsigned double, Shader.lexer = .ok lexer ∧
      lexer.stream extremeSource =
        [.ok greatest, .ok above, .ok unsigned, .ok double] ∧
      MakesLeaf greatest "IntConstant" (.int 9223372036854775807) ∧
      FailsOn above (.badInteger "9223372036854775808" .tooLarge) ∧
      MakesLeaf unsigned "UIntConstant" (.uint 7) ∧
      IsFloating double ['d', 'l', 'f', 'L', 'F'] doubleSuffixes "DoubleConstant" .double := by
  obtain ⟨lexer, made, stream⟩ := exists_stream_eq extremeSource
    [⟨"INTCONSTANT", "0x7fffffffffffffff", 0, ⟨⟨1, 1⟩, ⟨1, 19⟩⟩⟩,
      ⟨"INTCONSTANT", "9223372036854775808", 19, ⟨⟨1, 20⟩, ⟨1, 39⟩⟩⟩,
      ⟨"UINTCONSTANT", "007U", 39, ⟨⟨1, 40⟩, ⟨1, 44⟩⟩⟩,
      ⟨"DOUBLECONSTANT", "1.e3lf", 44, ⟨⟨1, 45⟩, ⟨1, 51⟩⟩⟩] (by decide +kernel)
  have converts : ∀ token, .ok token ∈ lexer.stream extremeSource → Converts token :=
    fun _ read => converts_of_stream made read
  simp only [stream, List.map_cons, List.map_nil, List.mem_cons, List.not_mem_nil, or_false,
    Except.ok.injEq] at converts
  have greatest := converts _ (.inl rfl)
  have above := converts _ (.inr (.inl rfl))
  have unsigned := converts _ (.inr (.inr (.inl rfl)))
  have double := converts _ (.inr (.inr (.inr rfl)))
  refine ⟨lexer, _, _, _, _, made, stream, ?_, ?_, ?_, double.double rfl⟩
  · have int := greatest.int rfl
    have value : integerValue "0x7fffffffffffffff".toList = 9223372036854775807 := by
      decide +kernel
    rwa [value, if_pos (by decide)] at int
  · have int := above.int rfl
    have value : integerValue "9223372036854775808".toList = 9223372036854775808 := by
      decide +kernel
    rwa [value, if_neg (by decide)] at int
  · obtain ⟨integer, mark, whole, -, uint⟩ := unsigned.uint rfl
    have digits : "007U".toList.dropLast = integer := by
      rw [whole, List.dropLast_concat]
    have value : integerValue "007U".toList.dropLast = 7 := by decide
    rwa [← digits, value, if_pos (by decide)] at uint

end ShaderSyntax.Shader
