/-!
# Label maps

The index from labels to symbols: pairs in the order of their labels, each label once. The order is
part of the type, so two maps with the same entries are the same map. The main statement is that the
index of any labels has entries (`isEmpty_ofLabels`).
-/

set_option autoImplicit false

namespace ShaderSyntax

/-- Puts an entry into a sorted list, in place of an entry with the same label. -/
def insertSorted (label : String) (symbol : Nat) : List (String × Nat) → List (String × Nat)
  | [] => [(label, symbol)]
  | entry :: rest =>
    if label < entry.1 then (label, symbol) :: entry :: rest
    else if entry.1 < label then entry :: insertSorted label symbol rest
    else (label, symbol) :: rest

/-- The labels of a map after an insertion are the inserted one and those before. -/
theorem fst_mem_insertSorted {label : String} {symbol : Nat} {entries : List (String × Nat)}
    {entry : String × Nat} (h : entry ∈ insertSorted label symbol entries) :
    entry.1 = label ∨ entry ∈ entries := by
  induction entries with
  | nil => simp_all [insertSorted]
  | cons first rest ih =>
    rw [insertSorted] at h
    split at h
    · rcases List.mem_cons.1 h with rfl | h
      · exact .inl rfl
      · exact .inr h
    · split at h
      · rcases List.mem_cons.1 h with rfl | h
        · exact .inr (List.mem_cons_self ..)
        · exact (ih h).imp_right (List.mem_cons_of_mem _)
      · rcases List.mem_cons.1 h with rfl | h
        · exact .inl rfl
        · exact .inr (List.mem_cons_of_mem _ h)

/-- An insertion keeps the labels sorted. -/
theorem pairwise_insertSorted {label : String} {symbol : Nat} {entries : List (String × Nat)}
    (sorted : entries.Pairwise fun a b => a.1 < b.1) :
    (insertSorted label symbol entries).Pairwise fun a b => a.1 < b.1 := by
  induction entries with
  | nil => simp [insertSorted]
  | cons first rest ih =>
    obtain ⟨before, sorted_rest⟩ := List.pairwise_cons.1 sorted
    rw [insertSorted]
    split
    case isTrue less =>
      refine List.pairwise_cons.2 ⟨?_, sorted⟩
      intro entry mem
      rcases List.mem_cons.1 mem with rfl | mem
      · exact less
      · exact String.lt_trans less (before _ mem)
    case isFalse not_less =>
      split
      case isTrue greater =>
        refine List.pairwise_cons.2 ⟨?_, ih sorted_rest⟩
        intro entry mem
        rcases fst_mem_insertSorted mem with same | mem
        · exact same ▸ greater
        · exact before _ mem
      case isFalse not_greater =>
        have same : first.1 = label :=
          String.le_antisymm (String.not_lt.1 not_less) (String.not_lt.1 not_greater)
        refine List.pairwise_cons.2 ⟨?_, sorted_rest⟩
        intro entry mem
        exact same ▸ before _ mem

/-- An index from labels to symbols. -/
structure LabelMap where
  entries : List (String × Nat)
  sorted : entries.Pairwise fun a b => a.1 < b.1
  deriving DecidableEq

namespace LabelMap

/-- The map without entries. -/
def empty : LabelMap := ⟨[], .nil⟩

/-- The map has no entries. -/
def isEmpty (map : LabelMap) : Bool := map.entries.isEmpty

/-- The symbol of a label. -/
def get? (map : LabelMap) (label : String) : Option Nat :=
  (map.entries.find? (·.1 == label)).map Prod.snd

/-- The map with an entry added; an entry with the same label is replaced. -/
def insert (map : LabelMap) (label : String) (symbol : Nat) : LabelMap :=
  ⟨insertSorted label symbol map.entries, pairwise_insertSorted map.sorted⟩

/-- The map with an entry added unless its label is taken. -/
def insertNew (map : LabelMap) (label : String) (symbol : Nat) : LabelMap :=
  if (map.get? label).isSome then map else map.insert label symbol

/-- The map of a list of pairs, where the last pair of a label counts. -/
def ofPairs (pairs : List (String × Nat)) : LabelMap :=
  pairs.foldl (fun map pair => map.insert pair.1 pair.2) empty

/-- The index of a list of labels by their places, where the first place of a label counts. -/
def ofLabels (labels : List String) : LabelMap :=
  labels.zipIdx.foldl (fun map label => map.insertNew label.1 label.2) empty

/-- A map with an entry put into it is not empty. -/
theorem isEmpty_insert (map : LabelMap) (label : String) (symbol : Nat) :
    (map.insert label symbol).isEmpty = false := by
  have filled : insertSorted label symbol map.entries ≠ [] := by
    cases map.entries with
    | nil => simp [insertSorted]
    | cons first rest =>
      rw [insertSorted]
      split
      · simp
      · split <;> simp
  simpa [isEmpty, insert] using filled

/-- A map with an entry added, or left alone for the one it has, is not empty. -/
theorem isEmpty_insertNew (map : LabelMap) (label : String) (symbol : Nat) :
    (map.insertNew label symbol).isEmpty = false := by
  unfold insertNew
  split
  case isTrue taken =>
    have filled : map.entries ≠ [] := by
      intro none_there
      simp [get?, none_there] at taken
    simpa [isEmpty] using filled
  case isFalse => exact isEmpty_insert map label symbol

/-- The index of any labels at all is not empty. -/
theorem isEmpty_ofLabels {labels : List String} (some_label : labels ≠ []) :
    (ofLabels labels).isEmpty = false := by
  have kept : ∀ (pairs : List (String × Nat)) (map : LabelMap), map.isEmpty = false →
      (pairs.foldl (fun map label => map.insertNew label.1 label.2) map).isEmpty = false := by
    intro pairs
    induction pairs with
    | nil => exact fun map filled => filled
    | cons pair pairs ih => exact fun map _ => ih _ (isEmpty_insertNew map pair.1 pair.2)
  obtain ⟨first, rest, rfl⟩ := List.exists_cons_of_ne_nil some_label
  rw [ofLabels, List.zipIdx_cons, List.foldl_cons]
  exact kept _ _ (isEmpty_insertNew empty first 0)

/-- Two maps with the same entries are the same. -/
theorem ext_entries {first second : LabelMap} (h : first.entries = second.entries) :
    first = second := by
  cases first; cases second; simp_all

end LabelMap

end ShaderSyntax
