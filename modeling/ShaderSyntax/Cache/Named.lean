/-!
# Values by name

A finite map from names to values. The main statements say what an entry does to look-ups
(`get?_put_self`, `get?_put_of_ne`).
-/

set_option autoImplicit false

namespace ShaderSyntax

/-- Values by name; the first entry of a name counts. -/
structure Named (α : Type) where
  entries : List (String × α)
  deriving Repr

namespace Named

variable {α : Type}

/-- The map without entries. -/
def empty : Named α := ⟨[]⟩

/-- The value of a name. -/
def get? (named : Named α) (name : String) : Option α :=
  (named.entries.find? (·.1 = name)).map Prod.snd

/-- Gives a name a value, in place of the one it had. -/
def put (named : Named α) (name : String) (value : α) : Named α :=
  ⟨(name, value) :: named.entries.filter (·.1 ≠ name)⟩

/-- Forgets the value of a name. -/
def erase (named : Named α) (name : String) : Named α :=
  ⟨named.entries.filter (·.1 ≠ name)⟩

/-- Without entries no name has a value. -/
@[simp] theorem get?_empty (name : String) : (empty : Named α).get? name = none := rfl

/-- A name has the value it was given last. -/
@[simp] theorem get?_put_self (named : Named α) (name : String) (value : α) :
    (named.put name value).get? name = some value := by
  simp [get?, put]

/-- An entry changes the value of no other name. -/
theorem get?_put_of_ne {name other : String} (named : Named α) (value : α) (h : other ≠ name) :
    (named.put name value).get? other = named.get? other := by
  have kept : (named.entries.filter (·.1 ≠ name)).find? (·.1 = other) =
      named.entries.find? (·.1 = other) := by
    rw [List.find?_filter]
    congr 1
    funext entry
    by_cases same : entry.1 = other <;> simp [same, h]
  simp only [get?, put, List.find?_cons, Ne.symm h, decide_false, kept]

/-- What holds of all values, and of one that is put among them, holds of all values afterwards. -/
theorem forall_get?_put {p : α → Prop} {named : Named α} {name : String} {value : α}
    (old : ∀ other found, named.get? other = some found → p found) (new : p value)
    (other : String) (found : α) (there : (named.put name value).get? other = some found) :
    p found := by
  by_cases same : other = name
  · subst same
    rw [get?_put_self] at there
    exact Option.some.inj there ▸ new
  · rw [get?_put_of_ne _ _ same] at there
    exact old other found there

end Named

end ShaderSyntax
