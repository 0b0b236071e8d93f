import ShaderSyntax.Proofs.Tree.Edits

/-!
# What edits change, and what they leave alone

An edit of the links of a forest does all it says and nothing else, or it fails and does nothing
(`TreeBuilder.Exact`). A node that is moved has its new parent and its new place there, its former
parent loses just this node, and all else is as it was (`SyntaxTree.Frame`). So it is in every tree
that edits make, for pushing, inserting, removing and detaching (`SyntaxTree.links_exact`) and for
putting a node in the place of another (`SyntaxTree.replace_exact`). Of a node that is put in its
own place it is not asked whether it has a place there (`SyntaxTree.replace_unlisted_by_itself`).
-/

set_option autoImplicit false

namespace ShaderSyntax

open SyntaxTree

/-- An edit is exact on a tree if it is done exactly when it is allowed, with its effect, and
otherwise fails and leaves the tree as it was. -/
structure TreeBuilder.Exact (edit : TreeBuilder Unit) (tree : SyntaxTree) (allowed : Prop)
    (effect : SyntaxTree → Prop) : Prop where
  done : allowed → ∃ later, edit.run tree = (.ok (), later) ∧ effect later
  refused : ¬allowed → ∃ error, edit.run tree = (.error error, tree)

/-- An atomic edit is exact if its result shows the effect. -/
theorem TreeBuilder.Atomic.exact {edit : TreeBuilder Unit} {tree result : SyntaxTree}
    {allowed : Prop} {effect : SyntaxTree → Prop} (atomic : edit.Atomic tree allowed result)
    (shows : allowed → effect result) : edit.Exact tree allowed effect where
  done may := ⟨result, atomic.done may, shows may⟩
  refused := atomic.refused

namespace SyntaxTree

/-- What is left alone when a node moves: no node comes or goes, all say what they said, all but
those in `moved` have the parents they had, and of the nodes that are not in `rearranged` only the
former parent of the node has other children, and these are the others it had. -/
structure Frame (tree : SyntaxTree) (child : NodeId) (moved rearranged : List NodeId)
    (later : SyntaxTree) : Prop where
  size : later.size = tree.size
  content : ∀ id, later.content? id = tree.content? id
  parents : ∀ id ∉ moved, later.parent? id = tree.parent? id
  loses : ∀ id ∉ rearranged, tree.parent? child = some id →
    later.children id = (tree.children id).filter (· != child)
  keeps : ∀ id ∉ rearranged, tree.parent? child ≠ some id → later.children id = tree.children id

/-- A node has come to a parent, whose other children and the node have been arranged anew. -/
structure MovedBelow (tree : SyntaxTree) (parent child : NodeId)
    (arrange : List NodeId → List NodeId) (later : SyntaxTree) : Prop
    extends Frame tree child [child] [parent] later where
  linked : later.parent? child = some parent
  arranged : later.children parent = arrange ((tree.children parent).filter (· != child))

/-- A node has left its parent, if it had one. -/
structure Freed (tree : SyntaxTree) (child : NodeId) (later : SyntaxTree) : Prop
    extends Frame tree child [child] [] later where
  alone : later.parent? child = none

/-- A node has come into the place of a child, which has left. -/
structure Exchanged (tree : SyntaxTree) (parent old new : NodeId) (later : SyntaxTree) : Prop
    extends Frame tree new [old, new] [parent] later where
  linked : later.parent? new = some parent
  alone : later.parent? old = none
  placed : later.children parent =
    ((tree.children parent).filter (· != new)).map fun id => if id = old then new else id

variable {tree : SyntaxTree} {id other parent child old new : NodeId}
  {arrange : List NodeId → List NodeId}

/-! ## What nodes say -/

/-- Detaching a node changes the content of none. -/
@[simp] theorem content?_detached : (tree.detached id).content? other = tree.content? other := by
  unfold detached
  split
  · exact content?_unlinked
  · rfl

/-- Attaching a node changes the content of none. -/
@[simp] theorem content?_attached :
    (tree.attached parent child arrange).content? other = tree.content? other := by
  rw [attached, content?_adopt, content?_detached]

/-- Replacing a child changes the content of no node. -/
@[simp] theorem content?_replaced :
    (tree.replaced parent old new).content? other = tree.content? other := by
  refine Eq.trans (content?_modify_of_eq fun _ => rfl) ?_
  refine Eq.trans (content?_modify_of_eq fun _ => rfl) ?_
  exact Eq.trans (content?_modify_of_eq fun _ => rfl) content?_detached

/-! ## Lists that lose a node -/

/-- Children are listed once, so without a node they are those that are not this node. -/
theorem Forest.erase_children (forest : tree.Forest) :
    (tree.children parent).erase child = (tree.children parent).filter (· != child) :=
  (forest.nodup parent).erase_eq_filter child

/-- Only the parent of a node lists it. -/
theorem Forest.erase_children_of_ne (forest : tree.Forest)
    (apart : tree.parent? child ≠ some parent) :
    (tree.children parent).erase child = tree.children parent :=
  List.erase_of_not_mem fun mem => apart ((forest.linked parent child).mp mem)

/-- If lists other than those rearranged are without the node, only its former parent's list has
changed. -/
theorem Forest.frame (forest : tree.Forest) {later : SyntaxTree} {moved rearranged : List NodeId}
    (size : later.size = tree.size) (content : ∀ id, later.content? id = tree.content? id)
    (parents : ∀ id ∉ moved, later.parent? id = tree.parent? id)
    (without : ∀ id ∉ rearranged, later.children id = (tree.children id).erase child) :
    tree.Frame child moved rearranged later where
  size := size
  content := content
  parents := parents
  loses id elsewhere _ := (without id elsewhere).trans forest.erase_children
  keeps id elsewhere apart := (without id elsewhere).trans (forest.erase_children_of_ne apart)

/-! ## The effects of edits -/

/-- A detached node has left its parent, and nothing else has moved. -/
theorem Forest.freed_detached (forest : tree.Forest) : tree.Freed child (tree.detached child) where
  toFrame := by
    refine forest.frame size_detached (fun _ => content?_detached) ?_ ?_
    · intro id elsewhere
      rw [parent?_detached, if_neg (List.ne_of_not_mem_cons elsewhere)]
    · exact fun id _ => forest.children_detached
  alone := by rw [parent?_detached, if_pos rfl]

/-- An attached node has come to its parent, and nothing else has moved. -/
theorem Forest.movedBelow_attached (forest : tree.Forest) (fits : tree.Attachable parent child) :
    tree.MovedBelow parent child arrange (tree.attached parent child arrange) where
  toFrame := by
    refine forest.frame size_attached (fun _ => content?_attached) ?_ ?_
    · intro id elsewhere
      rw [parent?_attached fits.child_known, if_neg (List.ne_of_not_mem_cons elsewhere)]
    · intro id elsewhere
      rw [forest.children_attached fits.parent_known, if_neg (List.ne_of_not_mem_cons elsewhere)]
  linked := by rw [parent?_attached fits.child_known, if_pos rfl]
  arranged := by
    rw [forest.children_attached fits.parent_known, if_pos rfl, forest.erase_children]

/-- In a list without repetition an item is replaced at its one place. -/
theorem replaceFirst_eq_map {items : List NodeId} (distinct : items.Nodup) :
    replaceFirst old new items = items.map fun item => if item = old then new else item := by
  induction items with
  | nil => rfl
  | cons item rest ih =>
    obtain ⟨fresh, distinct⟩ := List.nodup_cons.mp distinct
    rw [replaceFirst, List.map_cons]
    by_cases here : item = old
    · have untouched : (rest.map fun item => if item = old then new else item) = rest.map id := by
        refine List.map_congr_left fun later mem => if_neg ?_
        rintro rfl
        exact fresh (here ▸ mem)
      rw [if_pos here, if_pos here, untouched, List.map_id]
    · rw [if_neg here, if_neg here, ih distinct]

/-- A node that replaces a child has come into its place, and nothing else has moved. -/
theorem Forest.exchanged_replaced (forest : tree.Forest) (apart : old ≠ new)
    (mem : old ∈ tree.children parent) (fits : tree.Attachable parent new) :
    tree.Exchanged parent old new (tree.replaced parent old new) := by
  have parents (id : NodeId) : (tree.replaced parent old new).parent? id =
      if id = new then some parent else if id = old then none else tree.parent? id :=
    parent?_replaced (forest.known parent old mem) fits.child_known
  refine ⟨forest.frame size_replaced (fun _ => content?_replaced) ?stays ?without,
    ?linked, ?alone, ?placed⟩
  case stays =>
    intro id elsewhere
    have elsewhere : id ≠ old ∧ id ≠ new := by simpa using elsewhere
    rw [parents, if_neg elsewhere.2, if_neg elsewhere.1]
  case without =>
    intro id elsewhere
    rw [forest.children_replaced fits.parent_known, if_neg (List.ne_of_not_mem_cons elsewhere)]
  case linked => rw [parents, if_pos rfl]
  case alone => rw [parents, if_neg apart, if_pos rfl]
  case placed =>
    -- the new node has left the list before the old one is looked for, which stands there once
    rw [forest.children_replaced fits.parent_known, if_pos rfl,
      replaceFirst_eq_map ((forest.nodup parent).erase new), forest.erase_children]

/-- Edits of links do exactly what they say or nothing. Whatever operations have made a tree, a node
can be pushed below a parent, or inserted at a place among its other children, exactly if both are
nodes and the node is neither the parent nor above it; it can be removed from its parent only, and
each node can be detached. -/
theorem links_exact (edits : List Edit) (parent index child : NodeId) :
    (TreeBuilder.push parent child).Exact (after edits) ((after edits).Attachable parent child)
      ((after edits).MovedBelow parent child (· ++ [child])) ∧
    (TreeBuilder.insert parent index child).Exact (after edits)
      ((after edits).Attachable parent child ∧
        index ≤ (((after edits).children parent).filter (· != child)).length)
      ((after edits).MovedBelow parent child
        fun others => others.take index ++ child :: others.drop index) ∧
    (TreeBuilder.remove parent child).Exact (after edits)
      (child ∈ (after edits).children parent) ((after edits).Freed child) ∧
    (TreeBuilder.detach child).Exact (after edits) (child < (after edits).size)
      ((after edits).Freed child) := by
  have forest := forest_after edits
  refine ⟨?push, ?insert, ?remove, ?detach⟩
  case push => exact forest.push_atomic.exact fun fits => forest.movedBelow_attached fits
  case insert =>
    rw [← forest.erase_children]
    exact forest.insert_atomic.exact fun may => forest.movedBelow_attached may.1
  case remove =>
    refine forest.remove_atomic.exact fun mem => ?_
    rw [forest.unlinked_eq_detached mem]
    exact forest.freed_detached
  case detach => exact forest.detach_atomic.exact fun _ => forest.freed_detached

/-- The place of an insertion counts without the node that moves. -/
example : (after [.newNode "Block", .newNode "A", .newNode "B", .push 0 1, .push 0 2,
    .insert 0 0 2, .insert 0 2 1]).children 0 = [2, 1] := by
  decide +kernel

/-- Replacing does exactly what it says or nothing, if one node is to be replaced by another: it is
done if the one is a child of the parent and the other can be attached there. A node is replaced by
itself without a change and without a condition. -/
theorem replace_exact (edits : List Edit) (parent old new : NodeId) :
    (TreeBuilder.replace parent old new).Exact (after edits)
      (old = new ∨ old ∈ (after edits).children parent ∧ (after edits).Attachable parent new)
      (fun later => (old = new → later = after edits) ∧
        (old ≠ new → (after edits).Exchanged parent old new later)) := by
  have forest := forest_after edits
  refine forest.replace_atomic.exact fun may => ⟨fun same => if_pos same, fun apart => ?_⟩
  obtain ⟨mem, fits⟩ := may.resolve_left apart
  rw [if_neg apart]
  exact forest.exchanged_replaced apart mem fits

/-- A node that is no child of a block is replaced there by itself, and the block has no children
afterwards either. -/
theorem replace_unlisted_by_itself :
    ∃ later, (TreeBuilder.replace 0 1 1).run (after [.newNode "Block", .leaf "ID" (.str "a")]) =
        (.ok (), later) ∧
      1 ∉ (after [.newNode "Block", .leaf "ID" (.str "a")]).children 0 ∧
      later.children 0 = [] ∧ later.parent? 1 = none :=
  ⟨_, rfl, by decide +kernel, by decide +kernel, by decide +kernel⟩

end SyntaxTree

end ShaderSyntax
