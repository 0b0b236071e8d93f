import Mathlib.Data.Nat.Digits.Defs
import ShaderSyntax.Numeral.Whole

/-!
# The texts of whole numbers

What digits spell, apart from how they are read: each digit counts its place among the digits of
base sixteen, and the last one counts least (`Numeral.positional`). Digits of a base are read as the
number they spell, however many they are, unless it is above the limit
(`Numeral.accumulate_of_digits`), and the decimal digits of a number spell it
(`Numeral.positional_toDigits`). So the texts that are read as numbers of 64 bits are a sign, where
one may stand, and digits of a number in range (`Numeral.unsigned_eq_ok_iff`,
`Numeral.exists_signed_iff`).
-/

set_option autoImplicit false

namespace ShaderSyntax.Numeral

/-- The place of a character among the digits of base sixteen, in either case; behind all of them
for a character that is no digit. -/
def digitValue (c : Char) : Nat :=
  ['0', '1', '2', '3', '4', '5', '6', '7', '8', '9', 'a', 'b', 'c', 'd', 'e', 'f'].idxOf c.toLower

/-- The characters are digits of a base up to sixteen. -/
def AllDigits (base : Nat) (text : List Char) : Prop :=
  ∀ c ∈ text, digitValue c < base

/-- The number that digits spell in a base, the most significant one first. -/
def positional (base : Nat) (digits : List Char) : Nat :=
  Nat.ofDigits base (digits.reverse.map digitValue)

/-- Digits, at least one, that spell a number of a range. -/
structure Spells (base limit : Nat) (digits : List Char) : Prop where
  filled : digits ≠ []
  all : AllDigits base digits
  within : positional base digits ≤ limit

variable {base limit value n : Nat} {excess : WholeFault} {text digits : List Char}

/-- What holds of the ASCII characters one by one holds of each. -/
@[elab_as_elim]
theorem of_ascii {P : Char → Prop} (c : Char) (ascii : c.toNat < 128)
    (listed : ∀ n < 128, P (Char.ofNat n)) : P c := by
  have found := listed c.toNat ascii
  rwa [Char.ofNat_toNat] at found

/-- A character up to one of the first 128 is one of these. -/
theorem ascii_of_le {c d : Char} (ascii : d.toNat < 128) (below : c ≤ d) : c.toNat < 128 :=
  Nat.lt_of_le_of_lt (UInt32.le_iff_toNat_le.mp below) ascii

/-- A text with a character that is no digit in any base is not all digits. -/
theorem not_allDigits_of_mem (small : base ≤ 16) {c : Char} (mem : c ∈ text)
    (behind : digitValue c = 16) : ¬AllDigits base text := by
  intro all
  have digit := all c mem
  omega

/-- Beyond the first 128 characters none is a digit. -/
theorem digitValue_of_not_ascii {c : Char} (beyond : ¬c.toNat < 128) : digitValue c = 16 := by
  have same : c.toLower = c := by
    unfold Char.toLower
    rw [dif_neg]
    rintro ⟨-, upper⟩
    exact beyond (@ascii_of_le c 'Z' (by decide) upper)
  rw [digitValue, same]
  refine List.idxOf_eq_length ?_
  intro listed
  have ascii : (['0', '1', '2', '3', '4', '5', '6', '7', '8', '9', 'a', 'b', 'c', 'd', 'e',
      'f'].all fun d => d.toNat < 128) = true := by decide
  exact beyond (by simpa using List.all_eq_true.mp ascii c listed)

/-- Beyond the first 128 characters none is read as a digit. -/
theorem digit?_of_not_ascii {c : Char} (beyond : ¬c.toNat < 128) : digit? base c = none := by
  have above : ∀ d : Char, d.toNat < 128 → ¬c ≤ d :=
    fun _ ascii below => beyond (ascii_of_le ascii below)
  simp [digit?, above '9' (by decide), above 'z' (by decide), above 'Z' (by decide)]

/-- A character is read as a digit of a base if its place is below the base. -/
theorem digit?_eq (small : base ≤ 16) (c : Char) :
    digit? base c = if digitValue c < base then some (digitValue c) else none := by
  by_cases ascii : c.toNat < 128
  · -- the ASCII characters are checked one by one, in each of the bases
    have listed : ∀ base ≤ 16, ∀ n < 128, digit? base (Char.ofNat n) =
        if digitValue (Char.ofNat n) < base then some (digitValue (Char.ofNat n)) else none := by
      decide +kernel
    exact of_ascii c ascii (listed base small)
  · rw [digit?_of_not_ascii ascii, digitValue_of_not_ascii ascii, if_neg (Nat.not_lt.mpr small)]

/-- The digits of a text are the places of its characters if all are digits of the base. -/
theorem map_digit?_iff (small : base ≤ 16) {values : List Nat} :
    text.map (digit? base) = values.map some ↔
      AllDigits base text ∧ values = text.map digitValue := by
  induction text generalizing values with
  | nil => cases values <;> simp [AllDigits]
  | cons c rest ih =>
    cases values with
    | nil => simp
    | cons d more =>
      simp only [List.map_cons, List.cons.injEq, ih, digit?_eq small, AllDigits,
        List.forall_mem_cons]
      split
      case isTrue digit =>
        simp only [Option.some.injEq, digit, true_and]
        exact ⟨fun ⟨same, all, more⟩ => ⟨all, same.symm, more⟩,
          fun ⟨all, same, more⟩ => ⟨same.symm, all, more⟩⟩
      case isFalse none_found => simp [none_found]

/-- Reading on behind a number is reading all its digits. -/
theorem valueOf_ofDigits (front back : List Nat) :
    valueOf base (Nat.ofDigits base front) back = Nat.ofDigits base (back.reverse ++ front) := by
  induction back generalizing front with
  | nil => rfl
  | cons d rest ih =>
    have next : Nat.ofDigits base front * base + d = Nat.ofDigits base (d :: front) := by
      rw [Nat.ofDigits_cons, Nat.mul_comm, Nat.add_comm]
    rw [valueOf, next, ih, List.reverse_cons, List.append_assoc, List.singleton_append]

/-- The value of digits that are read one by one is their positional value. -/
theorem valueOf_digits (digits : List Char) :
    valueOf base 0 (digits.map digitValue) = positional base digits := by
  calc valueOf base 0 (digits.map digitValue)
    _ = Nat.ofDigits base ((digits.map digitValue).reverse ++ []) := valueOf_ofDigits [] _
    _ = positional base digits := by rw [List.append_nil, ← List.map_reverse, positional]

/-- A text is read as a number if it consists of digits of the base that spell this number, which is
within the limit. -/
theorem accumulate_eq_ok_iff (positive : 0 < base) (small : base ≤ 16) :
    accumulate base limit excess 0 text = .ok n ↔
      AllDigits base text ∧ positional base text = n ∧ n ≤ limit := by
  rw [accumulate_eq_ok positive (Nat.zero_le limit)]
  constructor
  · rintro ⟨values, same, spelled, within⟩
    obtain ⟨all, rfl⟩ := (map_digit?_iff small).mp same
    exact ⟨all, (valueOf_digits text).symm.trans spelled, within⟩
  · rintro ⟨all, spelled, within⟩
    exact ⟨_, (map_digit?_iff small).mpr ⟨all, rfl⟩, (valueOf_digits text).trans spelled, within⟩

/-- Digits alone can only exceed the limit. -/
theorem accumulate_fault (small : base ≤ 16) {fault : WholeFault} (all : AllDigits base text)
    (failed : accumulate base limit excess value text = .error fault) : fault = excess := by
  induction text generalizing value with
  | nil => simp [accumulate] at failed
  | cons c rest ih =>
    obtain ⟨digit, all⟩ := List.forall_mem_cons.mp all
    rw [accumulate, digit?_eq small, if_pos digit] at failed
    dsimp only at failed
    split at failed
    · exact (Except.error.inj failed).symm
    · exact ih all failed

/-- Digits are read as the number they spell, or are reported to exceed the limit if it does. -/
theorem accumulate_of_digits (positive : 0 < base) (small : base ≤ 16)
    (all : AllDigits base text) :
    accumulate base limit excess 0 text =
      if positional base text ≤ limit then .ok (positional base text) else .error excess := by
  split
  case isTrue within => exact (accumulate_eq_ok_iff positive small).mpr ⟨all, rfl, within⟩
  case isFalse above =>
    -- digits can fail in one way only, and they do fail since no number in range is spelled
    cases read : accumulate base limit excess 0 text with
    | error fault => rw [accumulate_fault small all read]
    | ok n =>
      obtain ⟨-, rfl, within⟩ := (accumulate_eq_ok_iff positive small).mp read
      exact absurd within above

/-- Characters are read to a number exactly if they spell one within the limit. -/
theorem exists_accumulate_iff (positive : 0 < base) (small : base ≤ 16) (filled : text ≠ []) :
    (∃ n, accumulate base limit excess 0 text = .ok n) ↔ Spells base limit text := by
  simp only [accumulate_eq_ok_iff positive small]
  constructor
  · rintro ⟨n, all, rfl, within⟩
    exact ⟨filled, all, within⟩
  · rintro ⟨-, all, within⟩
    exact ⟨_, all, rfl, within⟩

/-! ## Decimal digits -/

/-- The character that is written for a digit has the value of the digit. -/
theorem digitValue_digitChar {d : Nat} (digit : d < 10) : digitValue d.digitChar = d := by
  have listed : ∀ d < 10, digitValue d.digitChar = d := by decide
  exact listed d digit

/-- A digit behind others adds its value to the base times theirs. -/
theorem positional_concat (digits : List Char) (c : Char) :
    positional base (digits ++ [c]) = positional base digits * base + digitValue c := by
  rw [positional, positional, List.reverse_concat, List.map_cons, Nat.ofDigits_cons, Nat.mul_comm,
    Nat.add_comm]

/-- A number is written in decimal digits. -/
theorem allDigits_toDigits (n : Nat) : AllDigits 10 (Nat.toDigits 10 n) := by
  induction n using Nat.strongRecOn with
  | ind n ih =>
    by_cases small : n < 10
    · rw [Nat.toDigits_of_lt_base small, AllDigits, List.forall_mem_singleton,
        digitValue_digitChar small]
      exact small
    · have digit : n % 10 < 10 := Nat.mod_lt n (by decide)
      rw [Nat.toDigits_of_base_le (by decide) (Nat.not_lt.mp small), AllDigits,
        List.forall_mem_append, List.forall_mem_singleton, digitValue_digitChar digit]
      exact ⟨ih (n / 10) (by omega), digit⟩

/-- The decimal digits of a number spell it. -/
theorem positional_toDigits (n : Nat) : positional 10 (Nat.toDigits 10 n) = n := by
  induction n using Nat.strongRecOn with
  | ind n ih =>
    by_cases small : n < 10
    · rw [Nat.toDigits_of_lt_base small, ← List.nil_append [n.digitChar], positional_concat,
        digitValue_digitChar small]
      exact Nat.zero_add n
    · have digit : n % 10 < 10 := Nat.mod_lt n (by decide)
      rw [Nat.toDigits_of_base_le (by decide) (Nat.not_lt.mp small), positional_concat,
        ih (n / 10) (by omega), digitValue_digitChar digit]
      exact Nat.div_add_mod' n 10

/-- A number that is written in decimal spells itself. -/
theorem spells_toDigits (within : n ≤ limit) : Spells 10 limit (Nat.toDigits 10 n) :=
  ⟨Nat.toDigits_ne_nil, allDigits_toDigits n, by rwa [positional_toDigits]⟩

/-! ## Signs -/

/-- A text with a sign in front is not all digits. -/
theorem not_allDigits_sign (small : base ≤ 16) {sign : Char} (listed : sign = '+' ∨ sign = '-') :
    ¬AllDigits base (sign :: digits) := by
  refine not_allDigits_of_mem small List.mem_cons_self ?_
  rcases listed with rfl | rfl <;> decide

/-- Behind a plus sign or none, a text has only one reading as digits. -/
theorem digits_unique {others : List Char} (all : AllDigits 10 digits)
    (others_all : AllDigits 10 others) (signed : text = digits ∨ text = '+' :: digits)
    (others_signed : text = others ∨ text = '+' :: others) : digits = others := by
  rcases signed with rfl | rfl <;> rcases others_signed with same | same
  · exact same
  · exact absurd (same ▸ all) (not_allDigits_sign (by decide) (.inl rfl))
  · exact absurd (same ▸ others_all) (not_allDigits_sign (by decide) (.inl rfl))
  · exact (List.cons.inj same).2

/-- Without a sign an unsigned number is read from all its characters. -/
theorem unsigned_of_digits (small : base ≤ 16) (filled : text ≠ []) (all : AllDigits base text) :
    unsigned base text = accumulate base unsignedLimit .tooLarge 0 text := by
  unfold unsigned
  split
  case h_1 => contradiction
  case h_2 => exact absurd all (not_allDigits_sign small (.inl rfl))
  case h_3 => exact absurd all (not_allDigits_sign small (.inl rfl))
  case h_4 => rfl

/-- Without a sign a signed number is read from all its characters. -/
theorem signed_of_digits (small : base ≤ 16) (filled : text ≠ []) (all : AllDigits base text) :
    signed base text = (accumulate base signedLimit .tooLarge 0 text).map Int.ofNat := by
  unfold signed
  split
  case h_1 => contradiction
  case h_2 => exact absurd all (not_allDigits_sign small (.inl rfl))
  case h_3 => exact absurd all (not_allDigits_sign small (.inr rfl))
  case h_4 => exact absurd all (not_allDigits_sign small (.inl rfl))
  case h_5 => exact absurd all (not_allDigits_sign small (.inr rfl))
  case h_6 => rfl

/-- The texts of unsigned numbers: a plus sign or none, and digits of a number of 64 bits. -/
def IsUnsigned (base : Nat) (text : List Char) : Prop :=
  ∃ digits, (text = digits ∨ text = '+' :: digits) ∧ Spells base unsignedLimit digits

/-- The texts of signed numbers: a sign or none, and digits of a number of 64 bits with this
sign. -/
def IsSigned (base : Nat) (text : List Char) : Prop :=
  ∃ digits, (text = digits ∨ text = '+' :: digits) ∧ Spells base signedLimit digits ∨
    text = '-' :: digits ∧ Spells base (signedLimit + 1) digits

/-- Behind a plus sign an unsigned number is read like one without it. -/
theorem unsigned_plus (filled : digits ≠ []) :
    unsigned base ('+' :: digits) = accumulate base unsignedLimit .tooLarge 0 digits := by
  cases digits with
  | nil => contradiction
  | cons c rest => rfl

/-- Behind a plus sign a signed number is read like one without it. -/
theorem signed_plus (filled : digits ≠ []) : signed base ('+' :: digits) =
    (accumulate base signedLimit .tooLarge 0 digits).map Int.ofNat := by
  cases digits with
  | nil => contradiction
  | cons c rest => rfl

/-- Behind a minus sign the magnitude may be greater by one, and is negated. -/
theorem signed_minus (filled : digits ≠ []) : signed base ('-' :: digits) =
    (accumulate base (signedLimit + 1) .tooSmall 0 digits).map fun n => -Int.ofNat n := by
  cases digits with
  | nil => contradiction
  | cons c rest => rfl

/-- What a text is read as: the number that its digits spell, behind a plus sign or none. -/
theorem unsigned_eq_ok_iff (positive : 0 < base) (small : base ≤ 16) :
    unsigned base text = .ok n ↔ ∃ digits, (text = digits ∨ text = '+' :: digits) ∧
      Spells base unsignedLimit digits ∧ positional base digits = n := by
  have digits_iff : ∀ digits, digits ≠ [] →
      (accumulate base unsignedLimit .tooLarge 0 digits = .ok n ↔
        Spells base unsignedLimit digits ∧ positional base digits = n) := by
    intro digits filled
    rw [accumulate_eq_ok_iff positive small]
    constructor
    · rintro ⟨all, rfl, within⟩
      exact ⟨⟨filled, all, within⟩, rfl⟩
    · rintro ⟨spells, rfl⟩
      exact ⟨spells.all, rfl, spells.within⟩
  constructor
  · intro read
    unfold unsigned at read
    split at read
    case h_1 => simp at read
    case h_2 => simp at read
    case h_3 digits filled =>
      exact ⟨digits, .inr rfl, (digits_iff digits (by simpa using filled)).mp read⟩
    case h_4 filled _ _ =>
      exact ⟨text, .inl rfl, (digits_iff text (by simpa using filled)).mp read⟩
  · rintro ⟨digits, rfl | rfl, spells, spelled⟩
    · rw [unsigned_of_digits small spells.filled spells.all]
      exact (digits_iff text spells.filled).mpr ⟨spells, spelled⟩
    · rw [unsigned_plus spells.filled]
      exact (digits_iff digits spells.filled).mpr ⟨spells, spelled⟩

/-- A text is read as an unsigned number of 64 bits exactly if it is the text of one. -/
theorem exists_unsigned_iff (positive : 0 < base) (small : base ≤ 16) :
    (∃ n, unsigned base text = .ok n) ↔ IsUnsigned base text := by
  simp only [unsigned_eq_ok_iff positive small]
  constructor
  · rintro ⟨n, digits, signed, spells, -⟩
    exact ⟨digits, signed, spells⟩
  · rintro ⟨digits, signed, spells⟩
    exact ⟨_, digits, signed, spells, rfl⟩

/-- A changed result is a success exactly if the result is. -/
theorem exists_map_ok_iff {α β ε : Type} {result : Except ε α} {change : α → β} :
    (∃ b, result.map change = .ok b) ↔ ∃ a, result = .ok a := by
  cases result <;> simp [Except.map]

/-- A text is read as a signed number of 64 bits exactly if it is the text of one. -/
theorem exists_signed_iff (positive : 0 < base) (small : base ≤ 16) :
    (∃ n, signed base text = .ok n) ↔ IsSigned base text := by
  have digits_iff : ∀ limit excess digits, digits ≠ [] →
      ((∃ n, accumulate base limit excess 0 digits = .ok n) ↔ Spells base limit digits) :=
    fun _ _ _ filled => exists_accumulate_iff positive small filled
  constructor
  · intro read
    unfold signed at read
    split at read
    case h_1 => simp at read
    case h_2 => simp at read
    case h_3 => simp at read
    case h_4 digits filled =>
      rw [exists_map_ok_iff, digits_iff _ _ digits (by simpa using filled)] at read
      exact ⟨digits, .inl ⟨.inr rfl, read⟩⟩
    case h_5 digits filled =>
      rw [exists_map_ok_iff, digits_iff _ _ digits (by simpa using filled)] at read
      exact ⟨digits, .inr ⟨rfl, read⟩⟩
    case h_6 filled _ _ _ _ =>
      rw [exists_map_ok_iff, digits_iff _ _ text (by simpa using filled)] at read
      exact ⟨text, .inl ⟨.inl rfl, read⟩⟩
  · rintro ⟨digits, ⟨rfl | rfl, spells⟩ | ⟨rfl, spells⟩⟩
    · rw [signed_of_digits small spells.filled spells.all, exists_map_ok_iff,
        digits_iff _ _ _ spells.filled]
      exact spells
    · rw [signed_plus spells.filled, exists_map_ok_iff, digits_iff _ _ _ spells.filled]
      exact spells
    · rw [signed_minus spells.filled, exists_map_ok_iff, digits_iff _ _ _ spells.filled]
      exact spells

end ShaderSyntax.Numeral
