import ShaderSyntax.Proofs.Tree.Forest

/-!
# Edits of forests

Every edit of a forest is done exactly under a condition on the nodes it names, and is refused
without a trace otherwise (`TreeBuilder.Atomic`), although it changes the tree step by step and a
later step could fail. What an edit gives is a forest again; so is what a branch leaves behind that
fails half way. Hence every tree that edits make out of nothing is a forest, whatever nodes they
name and however they end (`SyntaxTree.forest_after`).
-/

set_option autoImplicit false

namespace ShaderSyntax

/-! ## Computations with a state that may fail -/

section Runs

variable {ε σ α β : Type} {state : σ}

/-- Steps in a row stop at the first that fails, and keep the state it left. -/
theorem run_bind (first : ExceptT ε (StateM σ) α) (next : α → ExceptT ε (StateM σ) β) :
    (first >>= next).run state =
      match first.run state with
      | (.ok outcome, later) => (next outcome).run later
      | (.error error, later) => (.error error, later) := by
  show (ExceptT.bindCont next (first.run state).1) (first.run state).2 = _
  rcases first.run state with ⟨result, later⟩
  cases result <;> rfl

/-- Returning an outcome keeps the state. -/
theorem run_pure (outcome : α) :
    (pure outcome : ExceptT ε (StateM σ) α).run state = (.ok outcome, state) :=
  rfl

/-- A failure keeps the state. -/
theorem run_throw (error : ε) :
    (throw error : ExceptT ε (StateM σ) α).run state = (.error error, state) :=
  rfl

/-- Reading the state keeps it. -/
theorem run_get : (get : ExceptT ε (StateM σ) σ).run state = (.ok state, state) :=
  rfl

/-- Setting the state forgets the earlier one. -/
theorem run_set (later : σ) :
    (set later : ExceptT ε (StateM σ) PUnit).run state = (.ok (), later) :=
  rfl

/-- Changing the state does not fail. -/
theorem run_modify (change : σ → σ) :
    (modify change : ExceptT ε (StateM σ) PUnit).run state = (.ok (), change state) :=
  rfl

/-- A result that needs no state keeps it, also if it is a failure. -/
theorem run_liftM (result : Except ε α) :
    (liftM result : ExceptT ε (StateM σ) α).run state = (result, state) :=
  rfl

end Runs

open SyntaxTree

/-- An edit is atomic on a tree if it is done exactly when it is allowed, with a known result, and
otherwise fails and leaves the tree as it was. -/
structure TreeBuilder.Atomic (edit : TreeBuilder Unit) (tree : SyntaxTree) (allowed : Prop)
    (result : SyntaxTree) : Prop where
  done : allowed → edit.run tree = (.ok (), result)
  refused : ¬allowed → ∃ error, edit.run tree = (.error error, tree)

variable {tree : SyntaxTree} {id other parent child old new : NodeId}

/-- An atomic edit keeps a forest if its result is one. -/
theorem TreeBuilder.Atomic.forest {edit : TreeBuilder Unit} {allowed : Prop} {result : SyntaxTree}
    (atomic : edit.Atomic tree allowed result) (forest : tree.Forest)
    (kept : allowed → result.Forest) : (edit.run tree).2.Forest := by
  by_cases may : allowed
  · rw [atomic.done may]
    exact kept may
  · obtain ⟨error, failed⟩ := atomic.refused may
    rwa [failed]

namespace SyntaxTree

/-- Looking up a node that is known succeeds and keeps the tree. -/
theorem run_node {node : Node} (found : tree.get? id = some node) :
    (TreeBuilder.node id).run tree = (.ok node, tree) := by
  simp only [TreeBuilder.node, run_bind, run_get, run_liftM, node_of_get? found]

/-- Looking up a node that is not known fails and keeps the tree. -/
theorem run_node_of_unknown (unknown : ¬id < tree.size) :
    (TreeBuilder.node id).run tree = (.error (.unknownNode id), tree) := by
  have nothing := get?_eq_none_iff.mpr (Nat.not_lt.mp unknown)
  simp only [TreeBuilder.node, run_bind, run_get, run_liftM, node_of_unknown nothing]

/-- A known node can be changed. -/
theorem change_atomic (change : Node → Node) :
    (TreeBuilder.change id change).Atomic tree (id < tree.size) (tree.modify id change) where
  done known := by
    obtain ⟨node, found⟩ := exists_get?_iff.mpr known
    simp only [TreeBuilder.change, run_bind, run_node found, run_modify]
  refused unknown := by
    simp only [TreeBuilder.change, run_bind, run_node_of_unknown unknown]
    exact ⟨_, rfl⟩

/-! ## Nodes taken off their parents -/

/-- In a forest what is listed can be removed: it is a node, so nothing fails once its parent's list
has been changed. -/
theorem Forest.remove_atomic (forest : tree.Forest) :
    (TreeBuilder.remove parent child).Atomic tree (child ∈ tree.children parent)
      (tree.unlinked parent child) where
  done mem := by
    obtain ⟨node, found⟩ := exists_get?_iff.mpr (lt_size_of_mem_children mem)
    have known := forest.known parent child mem
    rw [children_of_get? found, ← List.contains_iff_mem] at mem
    simp only [TreeBuilder.remove, run_bind, run_node found, if_pos mem, run_modify]
    exact (change_atomic _).done (by rwa [size_modify])
  refused fresh := by
    by_cases known : parent < tree.size
    · obtain ⟨node, found⟩ := exists_get?_iff.mpr known
      rw [children_of_get? found, ← List.contains_iff_mem] at fresh
      simp only [TreeBuilder.remove, run_bind, run_node found, if_neg fresh, run_throw]
      exact ⟨_, rfl⟩
    · simp only [TreeBuilder.remove, run_bind, run_node_of_unknown known]
      exact ⟨_, rfl⟩

/-- A child that is taken off its parent is detached. -/
theorem Forest.unlinked_eq_detached (forest : tree.Forest) (mem : child ∈ tree.children parent) :
    tree.unlinked parent child = tree.detached child := by
  rw [SyntaxTree.detached, (forest.linked parent child).mp mem]

/-- In a forest every node can be detached. -/
theorem Forest.detach_atomic (forest : tree.Forest) :
    (TreeBuilder.detach id).Atomic tree (id < tree.size) (tree.detached id) where
  done known := by
    obtain ⟨node, found⟩ := exists_get?_iff.mpr known
    have upwards := parent?_of_get? found
    simp only [TreeBuilder.detach, run_bind, run_node found]
    cases linked : node.parent with
    | none => rw [SyntaxTree.detached, upwards, linked, run_pure]
    | some parent =>
      rw [linked, ← forest.linked] at upwards
      rw [← forest.unlinked_eq_detached upwards]
      exact forest.remove_atomic.done upwards
  refused unknown := by
    simp only [TreeBuilder.detach, run_bind, run_node_of_unknown unknown]
    exact ⟨_, rfl⟩

/-! ## Nodes given to parents -/

/-- The tree with a node moved below a parent, whose other children and the node are arranged
anew. -/
def attached (tree : SyntaxTree) (parent child : NodeId) (arrange : List NodeId → List NodeId) :
    SyntaxTree :=
  (tree.detached child).adopt parent child arrange

variable {arrange : List NodeId → List NodeId}

/-- Attaching a node adds none. -/
@[simp] theorem size_attached : (tree.attached parent child arrange).size = tree.size := by
  rw [attached, size_adopt, size_detached]

/-- Attaching a node gives it its parent and changes no other link upwards. -/
theorem parent?_attached (known : child < tree.size) :
    (tree.attached parent child arrange).parent? other =
      if other = child then some parent else tree.parent? other := by
  rw [attached, parent?_adopt (by rwa [size_detached]), parent?_detached]
  split <;> rfl

/-- In a forest an attached node is among the children of its parent only. -/
theorem Forest.children_attached (forest : tree.Forest) (known : parent < tree.size) :
    (tree.attached parent child arrange).children other =
      if other = parent then arrange ((tree.children parent).erase child)
      else (tree.children other).erase child := by
  rw [attached, children_adopt (by rwa [size_detached]), forest.children_detached,
    forest.children_detached]

/-- A forest with an attachable node attached is a forest. -/
theorem Forest.attached (forest : tree.Forest) (fits : tree.Attachable parent child)
    (arranged : (arrange ((tree.children parent).erase child)).Perm
      (child :: (tree.children parent).erase child)) :
    (tree.attached parent child arrange).Forest := by
  refine (forest.detached child).adopt ?_ ?_ ?_ ?_ ?_
  · rw [size_detached]
    exact fits.parent_known
  · rw [size_detached]
    exact fits.child_known
  · rw [parent?_detached, if_pos rfl]
  · exact fun below => fits.acyclic (below_of_detached below)
  · rwa [forest.children_detached]

/-- In a forest what is attachable can be pushed. -/
theorem Forest.push_atomic (forest : tree.Forest) :
    (TreeBuilder.push parent child).Atomic tree (tree.Attachable parent child)
      (tree.attached parent child (· ++ [child])) where
  done fits := by
    simp only [TreeBuilder.push, run_bind, run_get, run_liftM,
      forest.checkAttach_eq_ok_iff.mpr fits, forest.detach_atomic.done fits.child_known, run_modify,
      SyntaxTree.attached]
  refused unfit := by
    cases checked : tree.checkAttach parent child with
    | ok => exact absurd (forest.checkAttach_eq_ok_iff.mp checked) unfit
    | error error =>
      simp only [TreeBuilder.push, run_bind, run_get, run_liftM, checked]
      exact ⟨_, rfl⟩

/-- The number of children other than a node is the length of the list without it. -/
theorem Forest.length_children_erase (forest : tree.Forest) :
    ((tree.children parent).erase child).length =
      (tree.children parent).length - if tree.parent? child = some parent then 1 else 0 := by
  rw [List.length_erase]
  simp only [forest.linked, apply_ite ((tree.children parent).length - ·), Nat.sub_zero]

/-- Putting an item at a place of a list adds just the item. -/
theorem insertAt_perm (items : List NodeId) (index : Nat) (item : NodeId) :
    (insertAt items index item).Perm (item :: items) := by
  have moved : (insertAt items index item).Perm
      (item :: (items.take index ++ items.drop index)) := List.perm_middle
  rwa [List.take_append_drop] at moved

/-- In a forest what is attachable can be inserted at each place between the other children. -/
theorem Forest.insert_atomic (forest : tree.Forest) {index : Nat} :
    (TreeBuilder.insert parent index child).Atomic tree
      (tree.Attachable parent child ∧ index ≤ ((tree.children parent).erase child).length)
      (tree.attached parent child (insertAt · index child)) where
  done := by
    rintro ⟨fits, inside⟩
    obtain ⟨above, above_found⟩ := exists_get?_iff.mpr fits.parent_known
    obtain ⟨below, below_found⟩ := exists_get?_iff.mpr fits.child_known
    rw [forest.length_children_erase, children_of_get? above_found,
      parent?_of_get? below_found, ← Nat.not_lt] at inside
    simp only [TreeBuilder.insert, run_bind, run_get, run_liftM,
      forest.checkAttach_eq_ok_iff.mpr fits, run_node above_found, run_node below_found,
      if_neg inside, forest.detach_atomic.done fits.child_known, run_modify,
      SyntaxTree.attached]
  refused barred := by
    cases checked : tree.checkAttach parent child with
    | ok =>
      have fits := forest.checkAttach_eq_ok_iff.mp checked
      obtain ⟨above, above_found⟩ := exists_get?_iff.mpr fits.parent_known
      obtain ⟨below, below_found⟩ := exists_get?_iff.mpr fits.child_known
      have outside : ¬index ≤ ((tree.children parent).erase child).length :=
        fun inside => barred ⟨fits, inside⟩
      rw [forest.length_children_erase, children_of_get? above_found,
        parent?_of_get? below_found, Nat.not_le] at outside
      simp only [TreeBuilder.insert, run_bind, run_get, run_liftM, checked, run_node above_found,
        run_node below_found, if_pos outside, run_throw]
      exact ⟨_, rfl⟩
    | error error =>
      simp only [TreeBuilder.insert, run_bind, run_get, run_liftM, checked]
      exact ⟨_, rfl⟩

/-! ## A node in the place of another -/

/-- The tree with a node moved into the place of a child. -/
def replaced (tree : SyntaxTree) (parent old new : NodeId) : SyntaxTree :=
  (((tree.detached new).modify parent fun node =>
    { node with children := replaceFirst old new node.children }).modify
      old fun node => { node with parent := none }).modify
      new fun node => { node with parent := some parent }

/-- Replacing a child adds no node. -/
@[simp] theorem size_replaced : (tree.replaced parent old new).size = tree.size := by
  simp [replaced]

/-- The node that replaces a child gets its parent, the child loses it, and no other link upwards
changes. -/
theorem parent?_replaced (known_old : old < tree.size) (known_new : new < tree.size) :
    (tree.replaced parent old new).parent? other =
      if other = new then some parent else if other = old then none else tree.parent? other := by
  refine Eq.trans (parent?_modify (some parent) (by simpa using known_new) fun _ => rfl) ?_
  split
  case isTrue => rfl
  case isFalse apart =>
    refine Eq.trans (parent?_modify none (by simpa using known_old) fun _ => rfl) ?_
    rw [parent?_modify_of_eq, parent?_detached, if_neg apart]
    exact fun _ => rfl

/-- In a forest the node that replaces a child stands in its place, and among no other children. -/
theorem Forest.children_replaced (forest : tree.Forest) (known : parent < tree.size) :
    (tree.replaced parent old new).children other =
      if other = parent then replaceFirst old new ((tree.children parent).erase new)
      else (tree.children other).erase new := by
  refine Eq.trans (children_modify_of_eq fun _ => rfl) ?_
  refine Eq.trans (children_modify_of_eq fun _ => rfl) ?_
  refine Eq.trans (children_modify (replaceFirst old new) (by simpa using known) fun _ => rfl) ?_
  rw [forest.children_detached, forest.children_detached]

/-- Replacing an item of a list puts one item in the place of another. -/
theorem replaceFirst_perm {items : List NodeId} (mem : old ∈ items) :
    (replaceFirst old new items).Perm (new :: items.erase old) := by
  induction items with
  | nil => contradiction
  | cons item rest ih =>
    by_cases here : item = old
    · rw [replaceFirst, if_pos here, here, List.erase_cons_head]
    · rw [replaceFirst, if_neg here, List.erase_cons_tail (by simpa using here)]
      have later := (List.mem_cons.mp mem).resolve_left (Ne.symm here)
      exact ((ih later).cons item).trans (.swap _ _ _)

/-- A forest with a child replaced by an attachable node is a forest: its links are those after the
child has been detached and the node attached. -/
theorem Forest.replaced (forest : tree.Forest) (apart : old ≠ new)
    (mem : old ∈ tree.children parent) (fits : tree.Attachable parent new) :
    (tree.replaced parent old new).Forest := by
  have known := forest.known parent old mem
  have freed := forest.detached old
  have stays : old ∈ (tree.children parent).erase new := (List.mem_erase_of_ne apart).mpr mem
  have attached : ((tree.detached old).attached parent new
      fun _ => replaceFirst old new ((tree.children parent).erase new)).Forest := by
    refine freed.attached ⟨?_, ?_, ?_⟩ ?_
    · rw [size_detached]
      exact fits.parent_known
    · rw [size_detached]
      exact fits.child_known
    · exact fun below => fits.acyclic (below_of_detached below)
    · rw [forest.children_detached, List.erase_comm]
      exact replaceFirst_perm stays
  refine attached.of_same_links ?_ ?_ ?_
  · intro id
    rw [parent?_replaced known fits.child_known,
      parent?_attached (by rw [size_detached]; exact fits.child_known), parent?_detached]
  · intro id
    rw [forest.children_replaced fits.parent_known,
      freed.children_attached (by rw [size_detached]; exact fits.parent_known),
      forest.children_detached]
    split
    case isTrue => rfl
    case isFalse elsewhere =>
      have unlisted : old ∉ tree.children id := by
        intro listed
        rw [forest.linked] at listed mem
        exact elsewhere (Option.some.inj (listed.symm.trans mem))
      rw [List.erase_of_not_mem unlisted]
  · exact Nat.le_of_eq (by rw [size_replaced, size_attached, size_detached])

/-- In a forest a child can be replaced by what is attachable; replacing a node by itself changes
nothing, be it a child or not. -/
theorem Forest.replace_atomic (forest : tree.Forest) :
    (TreeBuilder.replace parent old new).Atomic tree
      (old = new ∨ old ∈ tree.children parent ∧ tree.Attachable parent new)
      (if old = new then tree else tree.replaced parent old new) where
  done may := by
    by_cases same : old = new
    · simp only [TreeBuilder.replace, same, if_true, run_pure]
    · obtain ⟨mem, fits⟩ := may.resolve_left same
      obtain ⟨node, found⟩ := exists_get?_iff.mpr fits.parent_known
      rw [children_of_get? found, ← List.contains_iff_mem] at mem
      simp only [TreeBuilder.replace, same, if_false, run_bind, run_node found, if_pos mem,
        run_get, run_liftM, forest.checkAttach_eq_ok_iff.mpr fits,
        forest.detach_atomic.done fits.child_known, run_modify, SyntaxTree.replaced]
  refused barred := by
    obtain ⟨apart, barred⟩ := not_or.mp barred
    by_cases known : parent < tree.size
    case neg =>
      simp only [TreeBuilder.replace, apart, if_false, run_bind,
        run_node_of_unknown known]
      exact ⟨_, rfl⟩
    obtain ⟨node, found⟩ := exists_get?_iff.mpr known
    rw [children_of_get? found, ← List.contains_iff_mem] at barred
    by_cases mem : node.children.contains old = true
    · cases checked : tree.checkAttach parent new with
      | ok => exact absurd ⟨mem, forest.checkAttach_eq_ok_iff.mp checked⟩ barred
      | error error =>
        simp only [TreeBuilder.replace, apart, if_false, run_bind, run_node found,
          if_pos mem, run_get, run_liftM, checked]
        exact ⟨_, rfl⟩
    · simp only [TreeBuilder.replace, apart, if_false, run_bind, run_node found,
        if_neg mem, run_throw]
      exact ⟨_, rfl⟩

/-! ## Branches -/

/-- A forest with a node added is a forest. -/
theorem Forest.add (forest : tree.Forest) (kind : String) (value : Option Scalar)
    (op : Option String) : (tree.add kind value op).2.Forest :=
  forest.of_same_links (fun _ => parent?_add) (fun _ => children_add) (by simp)

/-- Pushing nodes one by one keeps a forest, also where it stops at a node that is refused. -/
theorem Forest.pushAll (forest : tree.Forest) (parent : NodeId) (children : List NodeId) :
    ((TreeBuilder.pushAll parent children).run tree).2.Forest := by
  induction children generalizing tree with
  | nil => exact forest
  | cons child rest ih =>
    rw [TreeBuilder.pushAll, run_bind]
    by_cases fits : tree.Attachable parent child
    · rw [forest.push_atomic.done fits]
      exact ih (forest.attached fits List.perm_append_comm)
    · obtain ⟨error, failed⟩ := forest.push_atomic.refused fits
      rwa [failed]

variable {kind : String} {children : List NodeId} {later : SyntaxTree}

/-- A branch is made if all its children can be pushed below a new node. -/
theorem run_branch_of_ok
    (pushed : (TreeBuilder.pushAll tree.size children).run (tree.newNode kind).2 =
      (.ok (), later)) :
    (SyntaxTree.branch kind children).run tree = (.ok tree.size, later) := by
  simp only [newNode, SyntaxTree.add] at pushed
  simp only [SyntaxTree.branch, run_bind, run_get, run_set, newNode, SyntaxTree.add, pushed,
    run_pure]

/-- A branch fails with the first of its children that is refused. -/
theorem run_branch_of_error {error : TreeError}
    (stopped : (TreeBuilder.pushAll tree.size children).run (tree.newNode kind).2 =
      (.error error, later)) :
    (SyntaxTree.branch kind children).run tree = (.error error, later) := by
  simp only [newNode, SyntaxTree.add] at stopped
  simp only [SyntaxTree.branch, run_bind, run_get, run_set, newNode, SyntaxTree.add, stopped]

/-- Making a branch keeps a forest, also where it fails half way. -/
theorem Forest.branch (forest : tree.Forest) (kind : String) (children : List NodeId) :
    ((SyntaxTree.branch kind children).run tree).2.Forest := by
  have kept := (forest.add kind none none).pushAll tree.size children
  rcases pushed : (TreeBuilder.pushAll tree.size children).run (tree.newNode kind).2 with
    ⟨result, later⟩
  rw [← newNode, pushed] at kept
  cases result with
  | ok => rwa [run_branch_of_ok pushed]
  | error error => rwa [run_branch_of_error pushed]

end SyntaxTree

/-! ## Whatever is edited -/

/-- An operation on a tree, with all it is given. -/
inductive Edit where
  | newNode (kind : String)
  | leaf (kind : String) (value : Scalar)
  | opNode (kind op : String)
  | branch (kind : String) (children : List NodeId)
  | setValue (id : NodeId) (value : Scalar)
  | push (parent child : NodeId)
  | insert (parent : NodeId) (index : Nat) (child : NodeId)
  | remove (parent child : NodeId)
  | replace (parent old new : NodeId)
  | detach (id : NodeId)

/-- The tree that an operation leaves behind, whether it succeeds or fails. -/
def Edit.apply (tree : SyntaxTree) : Edit → SyntaxTree
  | .newNode kind => (tree.newNode kind).2
  | .leaf kind value => (tree.leaf kind value).2
  | .opNode kind op => (tree.opNode kind op).2
  | .branch kind children => ((SyntaxTree.branch kind children).run tree).2
  | .setValue id value => ((TreeBuilder.setValue id value).run tree).2
  | .push parent child => ((TreeBuilder.push parent child).run tree).2
  | .insert parent index child => ((TreeBuilder.insert parent index child).run tree).2
  | .remove parent child => ((TreeBuilder.remove parent child).run tree).2
  | .replace parent old new => ((TreeBuilder.replace parent old new).run tree).2
  | .detach id => ((TreeBuilder.detach id).run tree).2

/-- The tree that operations make out of nothing, each on what the one before left behind. -/
def SyntaxTree.after (edits : List Edit) : SyntaxTree :=
  edits.foldl Edit.apply .empty

namespace SyntaxTree

/-- A forest with the value of a node changed is a forest. -/
theorem Forest.modify_value (forest : tree.Forest) (value : Scalar) :
    (tree.modify id fun node => { node with value := some value }).Forest := by
  refine forest.of_same_links ?_ ?_ ?_
  · intro other
    exact parent?_modify_of_eq fun _ => rfl
  · intro other
    exact children_modify_of_eq fun _ => rfl
  · exact Nat.le_of_eq size_modify.symm

/-- Every operation keeps a forest, whatever nodes it names and however it ends. -/
theorem Forest.apply (forest : tree.Forest) (edit : Edit) : (edit.apply tree).Forest := by
  cases edit with
  | newNode kind => exact forest.add kind none none
  | leaf kind value => exact forest.add kind (some value) none
  | opNode kind op => exact forest.add kind none (some op)
  | branch kind children => exact forest.branch kind children
  | setValue id value =>
    exact (change_atomic _).forest forest fun _ => forest.modify_value value
  | push parent child =>
    exact forest.push_atomic.forest forest fun fits => forest.attached fits List.perm_append_comm
  | insert parent index child =>
    exact forest.insert_atomic.forest forest fun may =>
      forest.attached may.1 (insertAt_perm _ _ _)
  | remove parent child =>
    refine forest.remove_atomic.forest forest fun mem => ?_
    rw [forest.unlinked_eq_detached mem]
    exact forest.detached child
  | replace parent old new =>
    refine forest.replace_atomic.forest forest fun may => ?_
    split
    case isTrue => exact forest
    case isFalse apart =>
      obtain ⟨mem, fits⟩ := may.resolve_left apart
      exact forest.replaced apart mem fits
  | detach id => exact forest.detach_atomic.forest forest fun _ => forest.detached id

/-- Whatever operations make out of nothing is a forest. -/
theorem forest_after (edits : List Edit) : (after edits).Forest := by
  have kept : ∀ tree : SyntaxTree, tree.Forest → (edits.foldl Edit.apply tree).Forest := by
    induction edits with
    | nil => exact fun _ forest => forest
    | cons edit rest ih => exact fun _ forest => ih _ (forest.apply edit)
  exact kept .empty .empty

end SyntaxTree

end ShaderSyntax
