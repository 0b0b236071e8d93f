import Mathlib.Data.List.Induction
import ShaderSyntax.Proofs.Macro.Passes

/-!
# The order of definitions

A scan takes the longest macro that applies, and of equally long ones the first. Two macros that
apply at one place and are equally long have the same name, so the order of a table could matter
only where it holds a name twice, and there look-ups take the first one as well. Hence the bodies
that a table has for names decide which macro applies (`longest?_eq_some_iff`), and with it every
expansion (`Agrees.expandLine`). Definitions keep tables in agreement (`Agrees.define`).
-/

set_option autoImplicit false

namespace ShaderSyntax.MacroTable

variable {table other : MacroTable} {text : List Char} {m : Macro}

/-! ## The macro that applies -/

/-- Of some macros this is the first one with the longest name: those in front of it have shorter
names, and those behind it no longer ones. -/
structure IsBest (macros : List Macro) (best : Macro) (front back : List Macro) : Prop where
  split : macros = front ++ best :: back
  shorter : ∀ m ∈ front, m.name.length < best.name.length
  no_longer : ∀ m ∈ back, m.name.length ≤ best.name.length

/-- No listed macro has a longer name than the best one. -/
theorem IsBest.length_le {macros front back : List Macro} {best : Macro}
    (isBest : IsBest macros best front back) (listed : m ∈ macros) :
    m.name.length ≤ best.name.length := by
  rw [isBest.split] at listed
  rcases List.mem_append.mp listed with before | later
  · exact Nat.le_of_lt (isBest.shorter m before)
  · rcases List.mem_cons.mp later with rfl | behind
    · exact Nat.le_refl _
    · exact isBest.no_longer m behind

/-- Going through some macros finds the first one with the longest name. -/
theorem exists_isBest {macros : List Macro} (filled : macros ≠ []) :
    ∃ best front back, macros.foldl better none = some best ∧ IsBest macros best front back := by
  induction macros using List.reverseRecOn with
  | nil => exact absurd rfl filled
  | append_singleton macros last ih =>
    rw [List.foldl_append, List.foldl_cons, List.foldl_nil]
    by_cases first : macros = []
    · subst first
      exact ⟨last, [], [], rfl, rfl, by simp, by simp⟩
    · obtain ⟨best, front, back, found, isBest⟩ := ih first
      rw [found, better]
      split
      case isTrue longer =>
        -- the last macro is longer than the best of the others, and so than all of them
        refine ⟨last, macros, [], rfl, rfl, fun m listed => ?_, by simp⟩
        exact Nat.lt_of_le_of_lt (isBest.length_le listed) longer
      case isFalse no_longer =>
        refine ⟨best, front, back ++ [last], rfl, ?_, isBest.shorter, ?_⟩
        · rw [isBest.split, List.append_assoc, List.cons_append]
        · intro m listed
          rcases List.mem_append.mp listed with behind | same
          · exact isBest.no_longer m behind
          · rw [List.mem_singleton.mp same]
            exact Nat.le_of_not_lt no_longer

/-- A macro applies if its name is not empty and the text starts with it. -/
theorem applies_iff : applies text m = true ↔ m.name ≠ [] ∧ m.name <+: text := by
  rw [applies, Bool.and_eq_true, Bool.not_eq_true', List.isEmpty_eq_false_iff,
    List.isPrefixOf_iff_prefix]

/-- A name with a body is the name of a macro in the table. -/
theorem exists_of_get? {name body : List Char} (defined : table.get? name = some body) :
    ∃ m ∈ table.macros, m.name = name ∧ m.body = body := by
  obtain ⟨m, found, same⟩ := Option.map_eq_some_iff.mp defined
  have named := List.find?_some found
  exact ⟨m, List.mem_of_find?_eq_some found, by simpa using named, same⟩

/-- The best of the macros that apply has the body that the table gives for its name: a macro of
this name in front of it would apply as well and be as long. -/
theorem get?_of_isBest {front back : List Macro}
    (isBest : IsBest (table.macros.filter (applies text)) m front back) :
    table.get? m.name = some m.body := by
  have listed : m ∈ table.macros.filter (applies text) := by
    rw [isBest.split]
    simp
  have here := (List.mem_filter.mp listed).2
  have among : table.macros.find? (·.name = m.name) =
      (table.macros.filter (applies text)).find? (·.name = m.name) := by
    rw [List.find?_filter]
    congr 1
    funext one
    by_cases same : one.name = m.name
    · have applies_too : applies text one = true := by
        rw [applies_iff, same]
        exact applies_iff.mp here
      simp [same, applies_too]
    · simp [same]
  have none_before : front.find? (·.name = m.name) = none := by
    rw [List.find?_eq_none]
    intro one before same
    have shorter := isBest.shorter one before
    have same_name : one.name = m.name := by simpa using same
    rw [same_name] at shorter
    exact Nat.lt_irrefl _ shorter
  rw [get?, among, isBest.split, List.find?_append, none_before]
  simp

/-- The bodies that the table has for names decide which macro applies: the longest name that has a
body and that the text starts with. -/
theorem longest?_eq_some_iff : table.longest? text = some m ↔
    m.name ≠ [] ∧ m.name <+: text ∧ table.get? m.name = some m.body ∧
      ∀ name, name ≠ [] → name <+: text → (table.get? name).isSome →
        name.length ≤ m.name.length := by
  have forward : ∀ {m}, table.longest? text = some m → m.name ≠ [] ∧ m.name <+: text ∧
      table.get? m.name = some m.body ∧ ∀ name, name ≠ [] → name <+: text →
        (table.get? name).isSome → name.length ≤ m.name.length := by
    intro m found
    have filled : table.macros.filter (applies text) ≠ [] := by
      intro nothing
      rw [longest?, nothing] at found
      contradiction
    obtain ⟨best, front, back, same, isBest⟩ := exists_isBest filled
    obtain rfl : best = m := Option.some.inj (same.symm.trans found)
    obtain ⟨-, named, here⟩ := of_longest? found
    refine ⟨named, here, get?_of_isBest isBest, ?_⟩
    intro name named_too here_too defined
    obtain ⟨body, defined⟩ := Option.isSome_iff_exists.mp defined
    obtain ⟨one, listed, rfl, -⟩ := exists_of_get? defined
    exact isBest.length_le (List.mem_filter.mpr ⟨listed, applies_iff.mpr ⟨named_too, here_too⟩⟩)
  refine ⟨forward, ?_⟩
  rintro ⟨named, here, defined, longest⟩
  obtain ⟨one, listed, same, -⟩ := exists_of_get? defined
  have filled : table.macros.filter (applies text) ≠ [] := by
    have applies_here : applies text one = true := applies_iff.mpr (same ▸ ⟨named, here⟩)
    exact List.ne_nil_of_mem (List.mem_filter.mpr ⟨listed, applies_here⟩)
  obtain ⟨best, -, -, found, -⟩ := exists_isBest filled
  obtain ⟨best_named, best_here, best_defined, best_longest⟩ := forward found
  -- two names that the text starts with are equal if they are equally long
  have same_length : best.name.length = m.name.length := by
    apply Nat.le_antisymm
    · exact longest best.name best_named best_here (by simp [best_defined])
    · exact best_longest m.name named here (by simp [defined])
  have same_name : best.name = m.name := by
    have front := List.prefix_of_prefix_length_le best_here here (Nat.le_of_eq same_length)
    exact front.eq_of_length same_length
  have same_body : best.body = m.body := by
    rw [same_name, defined] at best_defined
    exact (Option.some.inj best_defined).symm
  have same_macro : best = m := by
    cases best
    cases m
    simp_all
  rw [longest?, found, same_macro]

/-- A table is empty exactly if no name has a body. -/
theorem isEmpty_iff : table.isEmpty = true ↔ ∀ name, table.get? name = none := by
  constructor
  · intro vacant name
    rw [get?, List.isEmpty_iff.mp vacant]
    rfl
  · intro undefined
    cases macros : table.macros with
    | nil => rw [isEmpty, macros, List.isEmpty_nil]
    | cons m rest =>
      have missing := undefined m.name
      simp [get?, macros] at missing

/-! ## Tables that agree -/

/-- The tables have the same body for every name, whatever the order of their macros. -/
def Agrees (table other : MacroTable) : Prop :=
  ∀ name, table.get? name = other.get? name

namespace Agrees

/-- Tables that agree apply the same macro to a text. -/
theorem longest? (agrees : table.Agrees other) (text : List Char) :
    table.longest? text = other.longest? text := by
  apply Option.ext
  intro m
  simp only [longest?_eq_some_iff, agrees _]

/-- Tables that agree make the same pass over a line. -/
theorem pass (agrees : table.Agrees other) (steps : Nat) (line : List Char) :
    table.pass steps line = other.pass steps line := by
  induction steps generalizing line with
  | zero => cases line <;> rfl
  | succ steps ih =>
    cases line with
    | nil => rfl
    | cons c rest => simp only [MacroTable.pass, agrees.longest?, ih]

/-- Tables that agree settle a line in the same way. -/
theorem settle (agrees : table.Agrees other) (steps passes : Nat) (line : List Char) :
    table.settle steps passes line = other.settle steps passes line := by
  induction passes generalizing line with
  | zero => rfl
  | succ passes ih => simp only [MacroTable.settle, agrees.pass, ih]

/-- Of tables that agree, both are empty or neither is. -/
theorem isEmpty (agrees : table.Agrees other) : table.isEmpty = other.isEmpty := by
  rw [Bool.eq_iff_iff, isEmpty_iff, isEmpty_iff]
  simp only [agrees _]

/-- Tables that agree expand every line in the same way. -/
theorem expandLine (agrees : table.Agrees other) (steps passes : Nat) (line : List Char) :
    table.expandLine steps passes line = other.expandLine steps passes line := by
  rw [MacroTable.expandLine, MacroTable.expandLine, agrees.isEmpty, agrees.settle]

/-- Tables that agree still do so after the same definition. -/
theorem define (agrees : table.Agrees other) (name body : List Char) :
    (table.define name body).Agrees (other.define name body) := by
  intro asked
  by_cases same : asked = name
  · rw [same, get?_define_self, get?_define_self]
  · rw [get?_define_of_ne table body same, get?_define_of_ne other body same, agrees asked]

end Agrees

/-- Definitions of two macros may be made in either order. -/
theorem agrees_define_comm (table : MacroTable) {name other : List Char}
    (body otherBody : List Char) (different : name ≠ other) :
    ((table.define name body).define other otherBody).Agrees
      ((table.define other otherBody).define name body) := by
  intro asked
  by_cases first : asked = name
  · rw [first, get?_define_self, get?_define_of_ne _ _ different, get?_define_self]
  · rw [get?_define_of_ne _ _ first]
    by_cases second : asked = other
    · rw [second, get?_define_self, get?_define_self]
    · rw [get?_define_of_ne _ _ second, get?_define_of_ne _ _ second, get?_define_of_ne _ _ first]

end ShaderSyntax.MacroTable
