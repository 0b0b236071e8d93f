import Mathlib.Data.List.Dedup
import ShaderSyntax.Proofs.Tree.Relinking

/-!
# What a branch gathers

A branch is a new node below which other nodes are pushed one by one. What has been gathered so far
is the invariant of these pushes (`SyntaxTree.Gathered`): the new node has no parent, so whatever
was a node before can be pushed below it, and nothing else can. Hence the nodes before the first
that was none are gathered, in the order in which they are named last, and nothing else changes
(`SyntaxTree.branch_gathers`). What has been gathered before a refusal is not given back
(`SyntaxTree.branch_keeps_gathered`).
-/

set_option autoImplicit false

namespace ShaderSyntax

/-- In a list in which only the last occurrence of each item is kept, a further item at the end
takes the place of its earlier occurrence. -/
theorem dedup_append_singleton (items : List NodeId) (item : NodeId) :
    (items ++ [item]).dedup = items.dedup.erase item ++ [item] := by
  induction items with
  | nil => rfl
  | cons first rest ih =>
    by_cases again : first ∈ rest
    · have later : first ∈ rest ++ [item] := List.mem_append_left _ again
      rw [List.cons_append, List.dedup_cons_of_mem later, List.dedup_cons_of_mem again, ih]
    · rw [List.cons_append, List.dedup_cons_of_notMem again]
      by_cases same : first = item
      · have fresh : item ∉ rest.dedup := by rwa [List.mem_dedup, ← same]
        rw [same, List.dedup_cons_of_mem (by simp), ih, List.erase_of_not_mem fresh,
          List.erase_cons_head]
      · rw [List.dedup_cons_of_notMem (by simp [again, same]), ih,
          List.erase_cons_tail (by simpa using same), List.cons_append]

/-- Losing some items and then one more is losing them all. -/
theorem erase_filter_notMem {items : List NodeId} (distinct : items.Nodup) (lost : List NodeId)
    (item : NodeId) :
    (items.filter (· ∉ lost)).erase item = items.filter (· ∉ lost ++ [item]) := by
  rw [(distinct.filter _).erase_eq_filter, List.filter_filter]
  apply List.filter_congr
  intro other _
  by_cases same : other = item <;> simp [same]

namespace SyntaxTree

/-- From one tree to another a node has been added, which has neither value nor operator nor parent,
and nodes have been gathered below it. It has them in the order in which they are named last; they
are missing where they were; and nothing else has changed. -/
structure Gathered (tree : SyntaxTree) (kind : String) (gathered : List NodeId)
    (later : SyntaxTree) : Prop where
  size : later.size = tree.size + 1
  made : later.content? tree.size = some (kind, none, none)
  top : later.parent? tree.size = none
  below : later.children tree.size = gathered.dedup
  content : ∀ id < tree.size, later.content? id = tree.content? id
  moved : ∀ id ∈ gathered, later.parent? id = some tree.size
  stays : ∀ id < tree.size, id ∉ gathered → later.parent? id = tree.parent? id
  others : ∀ id < tree.size, later.children id = (tree.children id).filter (· ∉ gathered)

variable {tree later : SyntaxTree} {kind : String} {front : List NodeId} {id child : NodeId}

/-- A new node has gathered nothing yet. -/
theorem gathered_newNode : tree.Gathered kind [] (tree.newNode kind).2 where
  size := size_add
  made := content?_add_self
  top := by
    rw [newNode, parent?_add, parent?, get?_eq_none_iff.mpr (Nat.le_refl _)]
    rfl
  below := by
    rw [newNode, children_add, children, get?_eq_none_iff.mpr (Nat.le_refl _)]
    rfl
  content id old := content?_add (Nat.ne_of_lt old)
  moved := nofun
  stays _ _ _ := parent?_add
  others id _ := by
    rw [newNode, children_add]
    simp

namespace Gathered

/-- A tree in which a node has been added to gather others is larger. -/
theorem size_lt (gathered : tree.Gathered kind front later) : tree.size < later.size := by
  rw [gathered.size]
  exact Nat.lt_succ_self _

/-- Below the new node each node can be pushed that was one before: there is nothing above the new
node. -/
theorem attachable (gathered : tree.Gathered kind front later) (known : child < tree.size) :
    later.Attachable tree.size child := by
  refine ⟨gathered.size_lt, Nat.lt_trans known gathered.size_lt, ?_⟩
  intro below
  cases below with
  | self => exact Nat.lt_irrefl _ known
  | step linked above => simp [gathered.top] at linked

/-- A node that is pushed below the new node is gathered after the others. -/
theorem push (gathered : tree.Gathered kind front later) (forest : tree.Forest)
    (kept : later.Forest) (known : child < tree.size) :
    tree.Gathered kind (front ++ [child]) (later.attached tree.size child (· ++ [child])) := by
  have fits := gathered.attachable known
  have parents (id : NodeId) : (later.attached tree.size child (· ++ [child])).parent? id =
      if id = child then some tree.size else later.parent? id := parent?_attached fits.child_known
  have lists (id : NodeId) : (later.attached tree.size child (· ++ [child])).children id =
      if id = tree.size then (later.children tree.size).erase child ++ [child]
      else (later.children id).erase child := kept.children_attached fits.parent_known
  constructor
  case size => rw [size_attached, gathered.size]
  case made => rw [content?_attached, gathered.made]
  case top => rw [parents, if_neg (Nat.ne_of_gt known), gathered.top]
  case below => rw [lists, if_pos rfl, gathered.below, dedup_append_singleton]
  case content =>
    intro id old
    rw [content?_attached, gathered.content id old]
  case moved =>
    intro id mem
    rw [parents]
    split
    case isTrue => rfl
    case isFalse apart =>
      apply gathered.moved
      simpa [apart] using mem
  case stays =>
    intro id old elsewhere
    have elsewhere : id ∉ front ∧ id ≠ child := by simpa using elsewhere
    rw [parents, if_neg elsewhere.2, gathered.stays id old elsewhere.1]
  case others =>
    intro id old
    rw [lists, if_neg (Nat.ne_of_lt old), gathered.others id old,
      erase_filter_notMem (forest.nodup id)]

end Gathered

/-! ## Making a branch -/

/-- Why a node that was none before cannot be pushed below the new node: it is the new node, or it
is not known. -/
def refusal (tree : SyntaxTree) (id : NodeId) : TreeError :=
  if id = tree.size then .cycle id id else .unknownNode id

/-- What nodes that are gathered below a new one come to: all are gathered if all were nodes before.
Otherwise those are that stand before the first that was none, which is refused. -/
inductive Branches {α : Type} (tree : SyntaxTree) (kind : String) (children : List NodeId)
    (outcome : α) : Except TreeError α → SyntaxTree → Prop
  | made {later : SyntaxTree} (known : ∀ id ∈ children, id < tree.size)
      (gathered : tree.Gathered kind children later) :
      Branches tree kind children outcome (.ok outcome) later
  | stopped {later : SyntaxTree} {front rest : List NodeId} {refused : NodeId}
      (split : children = front ++ refused :: rest) (known : ∀ id ∈ front, id < tree.size)
      (unknown : tree.size ≤ refused) (gathered : tree.Gathered kind front later) :
      Branches tree kind children outcome (.error (tree.refusal refused)) later

/-- What was no node before is refused. -/
theorem Gathered.run_push_of_unknown (gathered : tree.Gathered kind front later)
    (unknown : tree.size ≤ child) :
    (TreeBuilder.push tree.size child).run later = (.error (tree.refusal child), later) := by
  have checked : later.checkAttach tree.size child = .error (tree.refusal child) := by
    unfold checkAttach refusal
    by_cases new : child = tree.size
    · have known : child < later.size := new ▸ gathered.size_lt
      obtain ⟨node, found⟩ := exists_get?_iff.mpr known
      rw [node_of_get? found, climb, if_pos new.symm, if_pos new, new]
      rfl
    · have outside : later.size ≤ child := by
        rw [gathered.size]
        exact Nat.lt_of_le_of_ne unknown (Ne.symm new)
      rw [node_of_unknown (get?_eq_none_iff.mpr outside), if_neg new]
      rfl
  simp only [TreeBuilder.push, run_bind, run_get, run_liftM, checked]

/-- Pushing goes on where nodes have been gathered, until one is refused. -/
theorem Gathered.branches (gathered : tree.Gathered kind front later) (forest : tree.Forest)
    (kept : later.Forest) (known : ∀ id ∈ front, id < tree.size) (rest : List NodeId) :
    tree.Branches kind (front ++ rest) () ((TreeBuilder.pushAll tree.size rest).run later).1
      ((TreeBuilder.pushAll tree.size rest).run later).2 := by
  induction rest generalizing front later with
  | nil =>
    rw [List.append_nil]
    exact .made known gathered
  | cons child rest ih =>
    rw [TreeBuilder.pushAll, run_bind]
    -- a push either keeps the invariant or ends the loop with the tree as it is
    by_cases old : child < tree.size
    · have fits := gathered.attachable old
      rw [kept.push_atomic.done fits, List.append_cons front child rest]
      apply ih (gathered.push forest kept old) (kept.attached fits List.perm_append_comm)
      intro id mem
      rcases List.mem_append.mp mem with mem | mem
      · exact known id mem
      · exact List.mem_singleton.mp mem ▸ old
    · have unknown := Nat.not_lt.mp old
      rw [gathered.run_push_of_unknown unknown]
      exact .stopped rfl known unknown gathered

/-- A branch gathers the nodes it is given, in the order in which they are named last, each taken
off its former parent, exactly if all of them were nodes before. Otherwise it fails at the first
that was none: those before it have been gathered, and nothing else has changed. -/
theorem branch_gathers (edits : List Edit) (kind : String) (children : List NodeId) :
    (after edits).Branches kind children (after edits).size
      ((SyntaxTree.branch kind children).run (after edits)).1
      ((SyntaxTree.branch kind children).run (after edits)).2 := by
  have forest := forest_after edits
  have start : (after edits).Gathered kind [] ((after edits).newNode kind).2 := gathered_newNode
  have pushed := start.branches forest (forest.add kind none none) nofun children
  rw [List.nil_append] at pushed
  rcases run : (TreeBuilder.pushAll (after edits).size children).run ((after edits).newNode kind).2
    with ⟨result, later⟩
  rw [run] at pushed
  cases pushed with
  | made known gathered =>
    rw [run_branch_of_ok run]
    exact .made known gathered
  | stopped split known unknown gathered =>
    rw [run_branch_of_error run]
    exact .stopped split known unknown gathered

/-- A node that is named twice comes where it is named last. -/
example : (after [.newNode "Block", .newNode "A", .newNode "B",
    .branch "Call" [1, 2, 1]]).children 3 = [2, 1] := by
  decide +kernel

/-- A branch that fails at its second child has moved the first: the block has lost it. -/
theorem branch_keeps_gathered :
    let tree := after [.newNode "Block", .leaf "ID" (.str "a"), .push 0 1]
    ∃ later, (SyntaxTree.branch "Call" [1, 7]).run tree = (.error (.unknownNode 7), later) ∧
      tree.parent? 1 = some 0 ∧ tree.children 0 = [1] ∧
      later.parent? 1 = some 2 ∧ later.children 0 = [] :=
  ⟨_, rfl, by decide +kernel, by decide +kernel, by decide +kernel, by decide +kernel⟩

end SyntaxTree

end ShaderSyntax
