/-!
# Macro tables

A macro is a name and the text that stands for it. A table keeps its macros in the order of their
first definition and no name twice; a later definition replaces the text and keeps the place. The
main statements say what a definition does to look-ups (`get?_define_self`, `get?_define_of_ne`) and
that it keeps names distinct (`nodup_names_define`).
-/

set_option autoImplicit false

namespace ShaderSyntax

/-- A textual substitution. -/
structure Macro where
  name : List Char
  body : List Char
  deriving DecidableEq, Repr

/-- Macros in the order in which their names were first defined. -/
structure MacroTable where
  macros : List Macro
  deriving DecidableEq, Repr

namespace MacroTable

/-- The table without macros. -/
def empty : MacroTable := ⟨[]⟩

/-- Replaces the body of the macro with the given name, or adds the macro at the end. -/
def defineIn (name body : List Char) : List Macro → List Macro
  | [] => [⟨name, body⟩]
  | m :: rest => if m.name = name then ⟨name, body⟩ :: rest else m :: defineIn name body rest

/-- Defines a macro; one that is defined already keeps its place. -/
def define (table : MacroTable) (name body : List Char) : MacroTable :=
  ⟨defineIn name body table.macros⟩

/-- The names of the macros, in order. -/
def names (table : MacroTable) : List (List Char) :=
  table.macros.map Macro.name

/-- The body of the macro with the given name. -/
def get? (table : MacroTable) (name : List Char) : Option (List Char) :=
  (table.macros.find? (·.name = name)).map Macro.body

/-- The number of macros. -/
def size (table : MacroTable) : Nat := table.macros.length

/-- Whether there is no macro. -/
def isEmpty (table : MacroTable) : Bool := table.macros.isEmpty

/-- Whether a macro applies at the start of a text; a macro without a name never does. -/
def applies (text : List Char) (m : Macro) : Bool :=
  !m.name.isEmpty && m.name.isPrefixOf text

/-- The better of a candidate found so far and a macro behind it in the table: the one with the
longer name, the earlier one if both are equally long. -/
def better (found : Option Macro) (m : Macro) : Option Macro :=
  match found with
  | none => some m
  | some best => if best.name.length < m.name.length then some m else some best

/-- The macro with the longest name that the text starts with. -/
def longest? (table : MacroTable) (text : List Char) : Option Macro :=
  (table.macros.filter (applies text)).foldl better none

/-- A defined name is found with its new body. -/
theorem find?_defineIn_self (name body : List Char) (macros : List Macro) :
    (defineIn name body macros).find? (·.name = name) = some ⟨name, body⟩ := by
  induction macros with
  | nil => simp [defineIn]
  | cons m rest ih => by_cases h : m.name = name <;> simp [defineIn, h, ih]

/-- Defining a name changes no other name. -/
theorem find?_defineIn_of_ne {name other : List Char} (body : List Char) (macros : List Macro)
    (h : other ≠ name) :
    (defineIn name body macros).find? (·.name = other) = macros.find? (·.name = other) := by
  induction macros with
  | nil => simp [defineIn, Ne.symm h]
  | cons m rest ih =>
    by_cases same : m.name = name
    · simp [defineIn, same, Ne.symm h]
    · rw [defineIn, if_neg same, List.find?_cons, List.find?_cons, ih]

/-- A macro just defined has the body it was given. -/
@[simp] theorem get?_define_self (table : MacroTable) (name body : List Char) :
    (table.define name body).get? name = some body := by
  simp [get?, define, find?_defineIn_self]

/-- A definition changes no other macro. -/
theorem get?_define_of_ne {name other : List Char} (table : MacroTable) (body : List Char)
    (h : other ≠ name) : (table.define name body).get? other = table.get? other := by
  simp [get?, define, find?_defineIn_of_ne body table.macros h]

/-- A definition adds its name at the end, unless it is there. -/
theorem map_name_defineIn (name body : List Char) (macros : List Macro) :
    (defineIn name body macros).map Macro.name =
      if name ∈ macros.map Macro.name then macros.map Macro.name
      else macros.map Macro.name ++ [name] := by
  induction macros with
  | nil => simp [defineIn]
  | cons m rest ih =>
    by_cases h : m.name = name
    · simp [defineIn, h]
    · rw [defineIn, if_neg h, List.map_cons, ih]
      by_cases more : name ∈ rest.map Macro.name <;> simp [more, Ne.symm h]

/-- A definition keeps the names distinct. -/
theorem nodup_names_define {table : MacroTable} (name body : List Char)
    (h : table.names.Nodup) : (table.define name body).names.Nodup := by
  simp only [names, define, map_name_defineIn] at h ⊢
  split
  · exact h
  · rename_i fresh
    rw [List.nodup_append]
    refine ⟨h, by simp, ?_⟩
    intro a ha b hb
    rw [List.mem_singleton] at hb
    subst hb
    exact fun same => fresh (same ▸ ha)

end MacroTable

end ShaderSyntax
