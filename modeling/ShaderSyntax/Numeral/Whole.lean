/-!
# Whole numbers from text

Reading a number of 64 bits from digits of a base up to sixteen, with an optional sign. Digits are
read from the left; the first fault met ends the reading, so a digit that no base has is reported
only if the number has not grown too large before. The main statement says what an accepted text
means (`accumulate_eq_ok`).
-/

set_option autoImplicit false

namespace ShaderSyntax.Numeral

/-- Why a text is no whole number of the wanted range. -/
inductive WholeFault where
  | empty
  | badDigit
  | tooLarge
  | tooSmall
  deriving DecidableEq, Repr

/-- The message of a fault. -/
def WholeFault.message : WholeFault → String
  | .empty => "cannot parse integer from empty string"
  | .badDigit => "invalid digit found in string"
  | .tooLarge => "number too large to fit in target type"
  | .tooSmall => "number too small to fit in target type"

/-- The value of a digit in a base. -/
def digit? (base : Nat) (c : Char) : Option Nat :=
  let value? :=
    if '0' ≤ c && c ≤ '9' then some (c.toNat - 48)
    else if 'a' ≤ c && c ≤ 'z' then some (c.toNat - 87)
    else if 'A' ≤ c && c ≤ 'Z' then some (c.toNat - 55)
    else none
  value?.filter (· < base)

/-- Reads digits behind those that make up `value`. A number above `limit` is the fault `excess`. -/
def accumulate (base limit : Nat) (excess : WholeFault) (value : Nat) :
    List Char → Except WholeFault Nat
  | [] => .ok value
  | c :: rest =>
    match digit? base c with
    | none => .error .badDigit
    | some d =>
      if limit < value * base + d then .error excess
      else accumulate base limit excess (value * base + d) rest

/-- The greatest unsigned number of 64 bits. -/
def unsignedLimit : Nat := Nat.pow 2 64 - 1

/-- The greatest signed number of 64 bits. -/
def signedLimit : Nat := Nat.pow 2 63 - 1

/-- An unsigned number of 64 bits, with an optional plus sign. -/
def unsigned (base : Nat) (text : List Char) : Except WholeFault Nat :=
  match text with
  | [] => .error .empty
  | ['+'] => .error .badDigit
  | '+' :: digits => accumulate base unsignedLimit .tooLarge 0 digits
  | digits => accumulate base unsignedLimit .tooLarge 0 digits

/-- A signed number of 64 bits, with an optional sign. -/
def signed (base : Nat) (text : List Char) : Except WholeFault Int :=
  match text with
  | [] => .error .empty
  | ['+'] => .error .badDigit
  | ['-'] => .error .badDigit
  | '+' :: digits => (accumulate base signedLimit .tooLarge 0 digits).map Int.ofNat
  | '-' :: digits =>
    (accumulate base (signedLimit + 1) .tooSmall 0 digits).map fun n => -Int.ofNat n
  | digits => (accumulate base signedLimit .tooLarge 0 digits).map Int.ofNat

/-- An unsigned decimal number, if the text is one. -/
def decimal? (text : List Char) : Option Nat :=
  (unsigned 10 text).toOption

/-- The number that digits spell in a base, behind those that make up `value`. -/
def valueOf (base value : Nat) : List Nat → Nat
  | [] => value
  | d :: rest => valueOf base (value * base + d) rest

/-- Reading on makes a value no smaller. -/
theorem le_valueOf {base value : Nat} (positive : 0 < base) (digits : List Nat) :
    value ≤ valueOf base value digits := by
  induction digits generalizing value with
  | nil => exact Nat.le_refl _
  | cons d rest ih =>
    have : value ≤ value * base := Nat.le_mul_of_pos_right value positive
    exact Nat.le_trans (by omega) ih

/-- Digits are accepted exactly when all of them belong to the base and their number is within the
limit, and that number is the result. -/
theorem accumulate_eq_ok {base limit value n : Nat} {excess : WholeFault} {text : List Char}
    (positive : 0 < base) (within : value ≤ limit) :
    accumulate base limit excess value text = .ok n ↔
      ∃ digits, text.map (digit? base) = digits.map some ∧ valueOf base value digits = n ∧
        n ≤ limit := by
  induction text generalizing value with
  | nil =>
    constructor
    · intro h
      obtain rfl : value = n := by simpa [accumulate] using h
      exact ⟨[], rfl, rfl, within⟩
    · rintro ⟨digits, same, rfl, -⟩
      cases digits with
      | nil => rfl
      | cons d rest => simp at same
  | cons c rest ih =>
    rw [accumulate]
    cases found : digit? base c with
    | none =>
      simp only [reduceCtorEq, List.map_cons, found, false_iff, not_exists]
      rintro digits ⟨same, -⟩
      cases digits <;> simp at same
    | some d =>
      by_cases over_limit : limit < value * base + d
      · simp only [over_limit, if_true, reduceCtorEq, false_iff, not_exists]
        rintro digits ⟨same, rfl, bound⟩
        cases digits with
        | nil => simp at same
        | cons e more =>
          simp only [List.map_cons, found, List.cons.injEq, Option.some.injEq] at same
          obtain ⟨rfl, -⟩ := same
          have := @le_valueOf base (value * base + d) positive more
          simp only [valueOf] at bound
          omega
      · simp only [over_limit, if_false, ih (Nat.le_of_not_lt over_limit)]
        constructor
        · rintro ⟨digits, same, result, bound⟩
          exact ⟨d :: digits, by simp [found, same], result, bound⟩
        · rintro ⟨digits, same, result, bound⟩
          cases digits with
          | nil => simp at same
          | cons e more =>
            simp only [List.map_cons, found, List.cons.injEq, Option.some.injEq] at same
            obtain ⟨rfl, same⟩ := same
            exact ⟨more, same, result, bound⟩

end ShaderSyntax.Numeral
