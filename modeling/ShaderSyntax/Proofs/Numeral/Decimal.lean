import Mathlib.Data.List.Basic
import ShaderSyntax.Numeral.Decimal

/-!
# The texts of decimal numbers

The grammar of decimal numbers, apart from how they are read: digits with a point among, before or
behind them or with none, and an exponent or none (`Numeral.IsFinite`); or a name; each with a sign
or none (`Numeral.IsDecimal`). The texts of the grammar are those that are read as numbers
(`Numeral.exists_decimal_iff`).
-/

set_option autoImplicit false

namespace ShaderSyntax.Numeral

/-- A sign, or nothing. -/
def IsSign (text : List Char) : Prop :=
  text = [] ∨ text = ['+'] ∨ text = ['-']

/-- Decimal digits only. -/
def AllDecimal (text : List Char) : Prop :=
  ∀ c ∈ text, c.isDigit = true

/-- An exponent, or nothing. -/
inductive IsExponent : List Char → Prop
  | none : IsExponent []
  | power {mark : Char} {sign digits : List Char} (marked : mark = 'e' ∨ mark = 'E')
      (signed : IsSign sign) (filled : digits ≠ []) (all : AllDecimal digits) :
      IsExponent (mark :: (sign ++ digits))

/-- Digits with an exponent: without a point, or with a point that has a digit on one side of it. -/
inductive IsFinite : List Char → Prop
  | whole {digits exponent : List Char} (filled : digits ≠ []) (all : AllDecimal digits)
      (behind : IsExponent exponent) : IsFinite (digits ++ exponent)
  | pointed {digits fraction exponent : List Char} (filled : digits ≠ [] ∨ fraction ≠ [])
      (all : AllDecimal digits) (all_behind : AllDecimal fraction)
      (behind : IsExponent exponent) : IsFinite (digits ++ '.' :: (fraction ++ exponent))

/-- A name of infinity or of what is no number, in letters of either case. -/
def IsName (text : List Char) : Prop :=
  text.map Char.toLower = ['i', 'n', 'f'] ∨
    text.map Char.toLower = ['i', 'n', 'f', 'i', 'n', 'i', 't', 'y'] ∨
    text.map Char.toLower = ['n', 'a', 'n']

/-- The text of a decimal number. -/
def IsDecimal (text : List Char) : Prop :=
  ∃ sign rest, text = sign ++ rest ∧ IsSign sign ∧ (IsFinite rest ∨ IsName rest)

variable {text sign digits rest : List Char}

/-! ## Signs and digits -/

/-- A sign is read off, and what is behind it begins with no further one. -/
theorem readSign_append (signed : IsSign sign) (plus : rest.head? ≠ some '+')
    (minus : rest.head? ≠ some '-') : (readSign (sign ++ rest)).2 = rest := by
  rcases signed with rfl | rfl | rfl
  · rw [List.nil_append]
    unfold readSign
    split
    case h_1 => simp at minus
    case h_2 => simp at plus
    case h_3 => rfl
  · rfl
  · rfl

/-- Every text is a sign, or nothing, and what is read behind it. -/
theorem exists_sign (text : List Char) :
    ∃ sign, IsSign sign ∧ text = sign ++ (readSign text).2 := by
  unfold readSign
  split
  case h_1 rest => exact ⟨['-'], .inr (.inr rfl), rfl⟩
  case h_2 rest => exact ⟨['+'], .inr (.inl rfl), rfl⟩
  case h_3 => exact ⟨[], .inl rfl, rfl⟩

/-- Decimal digits do not start with anything but a digit. -/
theorem AllDecimal.head_ne {c : Char} (all : AllDecimal text) (other : c.isDigit = false) :
    text.head? ≠ some c := by
  intro first
  rw [all c (List.mem_of_mem_head? first)] at other
  contradiction

/-- Digits are what a text is divided into before its first character that is none. -/
theorem span_digits (all : AllDecimal digits)
    (stop : ∀ c, rest.head? = some c → c.isDigit = false) :
    (digits ++ rest).takeWhile Char.isDigit = digits ∧
      (digits ++ rest).dropWhile Char.isDigit = rest := by
  have none_more : rest.takeWhile Char.isDigit = [] ∧ rest.dropWhile Char.isDigit = rest := by
    cases rest with
    | nil => simp
    | cons c rest => simp [stop c rfl]
  rw [List.takeWhile_append_of_pos all, List.dropWhile_append_of_pos all, none_more.1,
    none_more.2, List.append_nil]
  exact ⟨rfl, rfl⟩

/-- Every text is digits, maybe none, and what begins with no digit. -/
theorem exists_digits (text : List Char) : ∃ digits rest, text = digits ++ rest ∧
    AllDecimal digits ∧ ∀ c, rest.head? = some c → c.isDigit = false := by
  refine ⟨_, _, (List.takeWhile_append_dropWhile (p := Char.isDigit)).symm, ?_, ?_⟩
  · exact List.all_eq_true.mp List.all_takeWhile
  · intro c first
    have stop := List.head?_dropWhile_not Char.isDigit text
    simpa [first] using stop

/-! ## Exponents -/

/-- An exponent starts neither with a digit nor with a point. -/
theorem IsExponent.head (exponent : IsExponent text) {c : Char} (first : text.head? = some c) :
    c.isDigit = false ∧ c ≠ '.' := by
  cases exponent with
  | none => simp at first
  | power marked =>
    obtain rfl := Option.some.inj first
    rcases marked with rfl | rfl <;> decide

/-- An exponent is read exactly from the text of one. -/
theorem exists_exponent_iff : (∃ value, readExponent text = some value) ↔ IsExponent text := by
  cases text with
  | nil => exact ⟨fun _ => .none, fun _ => ⟨0, rfl⟩⟩
  | cons mark rest =>
    have condition : (∃ value, readExponent (mark :: rest) = some value) ↔
        (mark = 'e' ∨ mark = 'E') ∧ (readSign rest).2 ≠ [] ∧ AllDecimal (readSign rest).2 := by
      rcases read : readSign rest with ⟨negative, digits⟩
      simp [readExponent, read, AllDecimal, and_assoc]
    rw [condition]
    constructor
    · rintro ⟨marked, filled, all⟩
      obtain ⟨sign, signed, whole⟩ := exists_sign rest
      rw [whole]
      exact .power marked signed filled all
    · rintro (_ | ⟨marked, signed, filled, all⟩)
      have read := readSign_append signed (all.head_ne (by decide)) (all.head_ne (by decide))
      rw [read]
      exact ⟨marked, filled, all⟩

/-! ## Numbers -/

/-- Digits without a point are read with the exponent behind them. -/
theorem readFinite_whole (all : AllDecimal digits)
    (stop : ∀ c, rest.head? = some c → c.isDigit = false) (no_point : rest.head? ≠ some '.') :
    readFinite (digits ++ rest) = if digits = [] then none
      else (readExponent rest).map fun exponent => .finite (digitsValue digits) exponent := by
  obtain ⟨taken, left⟩ := span_digits all stop
  unfold readFinite
  rw [taken, left]
  dsimp only
  split
  case h_1 => simp at no_point
  case h_2 => simp

/-- Digits with a point are read with those behind it and the exponent behind them. -/
theorem readFinite_pointed {fraction : List Char} (all : AllDecimal digits)
    (all_behind : AllDecimal fraction) (stop : ∀ c, rest.head? = some c → c.isDigit = false) :
    readFinite (digits ++ '.' :: (fraction ++ rest)) =
      if digits = [] ∧ fraction = [] then none
      else (readExponent rest).map fun exponent =>
        .finite (digitsValue (digits ++ fraction)) (exponent - fraction.length) := by
  have point : ∀ c, ('.' :: (fraction ++ rest)).head? = some c → c.isDigit = false := by
    intro c first
    obtain rfl := Option.some.inj first
    decide
  obtain ⟨taken, left⟩ := span_digits all point
  obtain ⟨taken_behind, left_behind⟩ := span_digits all_behind stop
  unfold readFinite
  rw [taken, left]
  simp [taken_behind, left_behind]

/-- A changed result is there exactly if the result is. -/
theorem exists_map_some_iff {α β : Type} {result : Option α} {change : α → β} :
    (∃ b, result.map change = some b) ↔ ∃ a, result = some a := by
  cases result <;> simp

/-- A number without sign and name is read exactly from the text of one. -/
theorem exists_finite_iff : (∃ magnitude, readFinite text = some magnitude) ↔ IsFinite text := by
  constructor
  · -- the text is cut where its digits end, and once more behind a point
    intro read
    obtain ⟨digits, rest, rfl, all, stop⟩ := exists_digits text
    by_cases point : rest.head? = some '.'
    · obtain ⟨behind, rfl⟩ := List.head?_eq_some_iff.mp point
      obtain ⟨fraction, rest, rfl, all_behind, stop⟩ := exists_digits behind
      rw [readFinite_pointed all all_behind stop] at read
      split at read
      case isTrue => simp at read
      case isFalse filled =>
        rw [exists_map_some_iff, exists_exponent_iff] at read
        exact .pointed (not_and_or.mp filled) all all_behind read
    · rw [readFinite_whole all stop point] at read
      split at read
      case isTrue => simp at read
      case isFalse filled =>
        rw [exists_map_some_iff, exists_exponent_iff] at read
        exact .whole filled all read
  · intro number
    cases number with
    | whole filled all behind =>
      rw [readFinite_whole all (fun c first => (behind.head first).1)
        (fun first => (behind.head first).2 rfl), if_neg filled, exists_map_some_iff,
        exists_exponent_iff]
      exact behind
    | pointed filled all all_behind behind =>
      rw [readFinite_pointed all all_behind (fun c first => (behind.head first).1),
        if_neg (not_and_or.mpr filled), exists_map_some_iff, exists_exponent_iff]
      exact behind

/-- The names that are read are those of infinity and of what is not a number. -/
theorem exists_name_iff : (∃ magnitude, readName text = some magnitude) ↔ IsName text := by
  simp only [readName, IsName, Bool.or_eq_true, decide_eq_true_eq, ← or_assoc]
  split
  case isTrue infinite => simp [infinite]
  case isFalse other =>
    rw [or_iff_right other]
    split
    case isTrue nan => simp [nan]
    case isFalse unknown => simp [unknown]

/-- A finite number starts with a digit or a point. -/
theorem IsFinite.head (number : IsFinite text) :
    ∃ c, text.head? = some c ∧ (c.isDigit = true ∨ c = '.') := by
  cases number with
  | @whole digits _ filled all =>
    cases digits with
    | nil => contradiction
    | cons c rest => exact ⟨c, rfl, .inl (all c List.mem_cons_self)⟩
  | @pointed digits _ _ _ all =>
    cases digits with
    | nil => exact ⟨'.', rfl, .inr rfl⟩
    | cons c rest => exact ⟨c, rfl, .inl (all c List.mem_cons_self)⟩

/-- The last character of texts in a row is that of one of them. -/
theorem getLast?_append_cases {front back : List Char} {c : Char}
    (last : (front ++ back).getLast? = some c) :
    front.getLast? = some c ∨ back.getLast? = some c := by
  rw [List.getLast?_append, Option.or_eq_some_iff] at last
  exact last.symm.imp_left And.right

/-- An exponent ends in a digit. -/
theorem IsExponent.last (exponent : IsExponent text) {c : Char} (last : text.getLast? = some c) :
    c.isDigit = true := by
  cases exponent with
  | none => simp at last
  | @power mark sign digits marked signed filled all =>
    have whole : (mark :: (sign ++ digits)).getLast? = digits.getLast? :=
      List.getLast?_append_of_ne_nil (mark :: sign) filled
    exact all c (List.mem_of_getLast? (whole.symm.trans last))

/-- A finite number ends in a digit or a point. -/
theorem IsFinite.last (number : IsFinite text) {c : Char} (last : text.getLast? = some c) :
    c.isDigit = true ∨ c = '.' := by
  cases number with
  | whole filled all behind =>
    obtain last | last := getLast?_append_cases last
    · exact .inl (all c (List.mem_of_getLast? last))
    · exact .inl (behind.last last)
  | @pointed digits fraction exponent filled all all_behind behind =>
    have point : digits ++ '.' :: (fraction ++ exponent) =
      digits ++ (['.'] ++ (fraction ++ exponent)) := rfl
    rw [point] at last
    obtain last | last := getLast?_append_cases last
    · exact .inl (all c (List.mem_of_getLast? last))
    obtain last | last := getLast?_append_cases last
    · exact .inr (Option.some.inj last).symm
    obtain last | last := getLast?_append_cases last
    · exact .inl (all_behind c (List.mem_of_getLast? last))
    · exact .inl (behind.last last)

/-- Neither a number nor a name begins with a sign of its own. -/
theorem head_ne_sign (number : IsFinite text ∨ IsName text) {sign : Char}
    (listed : sign = '+' ∨ sign = '-') : text.head? ≠ some sign := by
  intro first
  obtain finite | name := number
  · obtain ⟨c, head, digit⟩ := finite.head
    obtain rfl := Option.some.inj (first.symm.trans head)
    rcases listed with rfl | rfl <;> simp +decide at digit
  · obtain ⟨rest, rfl⟩ := List.head?_eq_some_iff.mp first
    rcases listed with rfl | rfl <;> simp +decide [IsName] at name

/-- A text is read as a decimal number exactly if it is the text of one. -/
theorem exists_decimal_iff :
    (∃ decimal, readDecimal text = .ok decimal) ↔ IsDecimal text := by
  have parts : ∀ rest, (∃ magnitude, (readFinite rest).or (readName rest) = some magnitude) ↔
      IsFinite rest ∨ IsName rest := by
    intro rest
    rw [← exists_finite_iff, ← exists_name_iff]
    cases readFinite rest <;> simp
  have condition : (∃ decimal, readDecimal text = .ok decimal) ↔
      text ≠ [] ∧ (IsFinite (readSign text).2 ∨ IsName (readSign text).2) := by
    rw [← parts]
    cases text with
    | nil => simp [readDecimal]
    | cons c rest =>
      cases found : (readFinite (readSign (c :: rest)).2).or (readName (readSign (c :: rest)).2) <;>
        simp [readDecimal, found]
  rw [condition]
  constructor
  · rintro ⟨-, number⟩
    obtain ⟨sign, signed, whole⟩ := exists_sign text
    exact ⟨sign, _, whole, signed, number⟩
  · -- the sign in front is the only one, so reading it leaves the number or the name
    rintro ⟨sign, rest, rfl, signed, number⟩
    rw [readSign_append signed (head_ne_sign number (.inl rfl)) (head_ne_sign number (.inr rfl))]
    refine ⟨?_, number⟩
    intro nothing
    obtain ⟨-, rfl⟩ := List.append_eq_nil_iff.mp nothing
    rcases number with finite | name
    · obtain ⟨c, head, -⟩ := finite.head
      simp at head
    · simp [IsName] at name

end ShaderSyntax.Numeral
