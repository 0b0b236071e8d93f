import ShaderSyntax.Tree.Basic

/-!
# Parents and children

A tree is seen through two functions, the parent of a node and the children of a node. Each change
of a tree is said here once in their terms: adding a node leaves them alone (`parent?_add`,
`children_add`), taking a child off its parent and giving a child to a parent change them at these
two nodes only (`parent?_unlinked`, `children_unlinked`, `parent?_adopt`, `children_adopt`). What a
node says apart from its links (`SyntaxTree.content?`) is left alone by all of these.
-/

set_option autoImplicit false

namespace ShaderSyntax

/-- What a node says, apart from its place in the tree: its kind, its value and its operator. -/
def Node.content (node : Node) : String × Option Scalar × Option String :=
  (node.kind, node.value, node.op)

namespace SyntaxTree

/-- What a node of a tree says, apart from its place there. -/
def content? (tree : SyntaxTree) (id : NodeId) : Option (String × Option Scalar × Option String) :=
  (tree.get? id).map Node.content

variable {tree : SyntaxTree} {id other parent child : NodeId} {change : Node → Node}

/-- The numbers below the size are those of the nodes. -/
theorem exists_get?_iff : (∃ node, tree.get? id = some node) ↔ id < tree.size := by
  rw [get?, size, ← Option.isSome_iff_exists, isSome_getElem?]

/-- There is no node at a number exactly if the tree is not larger than it. -/
theorem get?_eq_none_iff : tree.get? id = none ↔ tree.size ≤ id :=
  Array.getElem?_eq_none_iff

/-- A node that is there is found. -/
theorem node_of_get? {node : Node} (found : tree.get? id = some node) :
    tree.node id = .ok node := by
  rw [SyntaxTree.node, found]

/-- A node that is not there is reported as unknown. -/
theorem node_of_unknown (unknown : tree.get? id = none) :
    tree.node id = .error (.unknownNode id) := by
  rw [node, unknown]

/-- The parent of a node is the one it has noted. -/
theorem parent?_of_get? {node : Node} (found : tree.get? id = some node) :
    tree.parent? id = node.parent := by
  rw [parent?, found, Option.bind_some]

/-- The children of a node are those it has noted. -/
theorem children_of_get? {node : Node} (found : tree.get? id = some node) :
    tree.children id = node.children := by
  rw [children, found, Option.map_some, Option.getD_some]

/-- A node with a parent is known. -/
theorem lt_size_of_parent? (linked : tree.parent? child = some parent) : child < tree.size := by
  obtain ⟨node, found, -⟩ := Option.bind_eq_some_iff.mp linked
  exact exists_get?_iff.mp ⟨node, found⟩

/-- A node with children is known. -/
theorem lt_size_of_mem_children (mem : child ∈ tree.children parent) : parent < tree.size := by
  rw [← exists_get?_iff, ← Option.isSome_iff_exists]
  cases found : tree.get? parent with
  | none => simp [children, found] at mem
  | some node => rfl

/-! ## Changes of one node -/

/-- Changing a node adds none. -/
@[simp] theorem size_modify : (tree.modify id change).size = tree.size :=
  Array.size_modify

/-- Changing a node changes no other. -/
theorem get?_modify : (tree.modify id change).get? other =
    if id = other then (tree.get? other).map change else tree.get? other :=
  Array.getElem?_modify

/-- A change that keeps parents keeps them all. -/
theorem parent?_modify_of_eq (same : ∀ node, (change node).parent = node.parent) :
    (tree.modify id change).parent? other = tree.parent? other := by
  rw [parent?, get?_modify, parent?]
  split
  · cases tree.get? other with
    | none => rfl
    | some node => exact same node
  · rfl

/-- A change that keeps a view of nodes keeps it everywhere. -/
theorem map_get?_modify_of_eq {α : Type} {view : Node → α}
    (same : ∀ node, view (change node) = view node) :
    ((tree.modify id change).get? other).map view = (tree.get? other).map view := by
  rw [get?_modify]
  split
  · rw [Option.map_map]
    exact Option.map_congr fun node _ => same node
  · rfl

/-- A change that keeps children keeps them all. -/
theorem children_modify_of_eq (same : ∀ node, (change node).children = node.children) :
    (tree.modify id change).children other = tree.children other := by
  rw [children, map_get?_modify_of_eq same, children]

/-- A change that keeps what nodes say keeps it everywhere. -/
theorem content?_modify_of_eq (same : ∀ node, (change node).content = node.content) :
    (tree.modify id change).content? other = tree.content? other :=
  map_get?_modify_of_eq same

/-- A known node can be given a parent, or none. -/
theorem parent?_modify (up : Option NodeId) (known : id < tree.size)
    (given : ∀ node, (change node).parent = up) :
    (tree.modify id change).parent? other = if other = id then up else tree.parent? other := by
  rw [parent?, get?_modify]
  by_cases here : other = id
  · subst here
    obtain ⟨node, found⟩ := exists_get?_iff.mpr known
    rw [if_pos rfl, if_pos rfl, found]
    exact given node
  · rw [if_neg (Ne.symm here), if_neg here, parent?]

/-- A known node can have its children arranged anew. -/
theorem children_modify (arrange : List NodeId → List NodeId) (known : id < tree.size)
    (given : ∀ node, (change node).children = arrange node.children) :
    (tree.modify id change).children other =
      if other = id then arrange (tree.children id) else tree.children other := by
  rw [children, get?_modify]
  by_cases here : other = id
  · subst here
    obtain ⟨node, found⟩ := exists_get?_iff.mpr known
    rw [if_pos rfl, if_pos rfl, found, children_of_get? found]
    exact given node
  · rw [if_neg (Ne.symm here), if_neg here, children]

/-! ## A node more -/

variable {kind : String} {value : Option Scalar} {op : Option String}

/-- Adding a node makes the tree larger by one. -/
@[simp] theorem size_add : (tree.add kind value op).2.size = tree.size + 1 :=
  Array.size_push _

/-- An added node comes behind all others, without links, and changes none of them. -/
theorem get?_add : (tree.add kind value op).2.get? other =
    if other = tree.size then some ⟨kind, value, op, none, []⟩ else tree.get? other := by
  rw [get?, add, Array.getElem?_push]
  rfl

/-- A new node has no parent. -/
@[simp] theorem parent?_add : (tree.add kind value op).2.parent? other = tree.parent? other := by
  rw [parent?, get?_add, parent?]
  split
  case isTrue new =>
    rw [get?_eq_none_iff.mpr (Nat.le_of_eq new.symm)]
    rfl
  case isFalse => rfl

/-- A new node has no children. -/
@[simp] theorem children_add : (tree.add kind value op).2.children other = tree.children other := by
  rw [children, get?_add, children]
  split
  case isTrue new =>
    rw [get?_eq_none_iff.mpr (Nat.le_of_eq new.symm)]
    rfl
  case isFalse => rfl

/-- The nodes there were say what they said. -/
theorem content?_add (old : other ≠ tree.size) :
    (tree.add kind value op).2.content? other = tree.content? other := by
  rw [content?, get?_add, if_neg old, content?]

/-- A new node says what it was made with. -/
theorem content?_add_self :
    (tree.add kind value op).2.content? tree.size = some (kind, value, op) := by
  rw [content?, get?_add, if_pos rfl]
  rfl

/-! ## Links taken and made -/

/-- The tree with a child taken off its parent. -/
def unlinked (tree : SyntaxTree) (parent child : NodeId) : SyntaxTree :=
  (tree.modify parent fun node => { node with children := node.children.erase child }).modify
    child fun node => { node with parent := none }

/-- Taking a child off its parent removes no node. -/
@[simp] theorem size_unlinked : (tree.unlinked parent child).size = tree.size := by
  simp [unlinked]

/-- A child that is taken off has no parent; no other link upwards changes. -/
theorem parent?_unlinked (known : child < tree.size) :
    (tree.unlinked parent child).parent? other =
      if other = child then none else tree.parent? other := by
  refine Eq.trans (parent?_modify none (by simpa using known) fun _ => rfl) ?_
  rw [parent?_modify_of_eq]
  exact fun _ => rfl

/-- A child that is taken off is struck from the list of its parent, and from no other. -/
theorem children_unlinked (known : parent < tree.size) :
    (tree.unlinked parent child).children other =
      if other = parent then (tree.children parent).erase child else tree.children other := by
  refine Eq.trans (children_modify_of_eq fun _ => rfl) ?_
  exact children_modify (·.erase child) known fun _ => rfl

/-- Taking a child off changes the content of no node. -/
@[simp] theorem content?_unlinked :
    (tree.unlinked parent child).content? other = tree.content? other := by
  refine Eq.trans (content?_modify_of_eq fun _ => rfl) ?_
  exact content?_modify_of_eq fun _ => rfl

variable {arrange : List NodeId → List NodeId}

/-- Adopting a node adds none. -/
@[simp] theorem size_adopt : (tree.adopt parent child arrange).size = tree.size := by
  simp [adopt]

/-- An adopted node has its new parent; no other link upwards changes. -/
theorem parent?_adopt (known : child < tree.size) :
    (tree.adopt parent child arrange).parent? other =
      if other = child then some parent else tree.parent? other := by
  refine Eq.trans (parent?_modify (some parent) (by simpa using known) fun _ => rfl) ?_
  rw [parent?_modify_of_eq]
  exact fun _ => rfl

/-- Only the list of the adopting parent is arranged anew. -/
theorem children_adopt (known : parent < tree.size) :
    (tree.adopt parent child arrange).children other =
      if other = parent then arrange (tree.children parent) else tree.children other := by
  refine Eq.trans (children_modify_of_eq fun _ => rfl) ?_
  exact children_modify arrange known fun _ => rfl

/-- Adopting a node changes the content of none. -/
@[simp] theorem content?_adopt :
    (tree.adopt parent child arrange).content? other = tree.content? other := by
  refine Eq.trans (content?_modify_of_eq fun _ => rfl) ?_
  exact content?_modify_of_eq fun _ => rfl

end SyntaxTree

end ShaderSyntax
