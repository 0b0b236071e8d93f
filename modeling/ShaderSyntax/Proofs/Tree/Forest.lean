import Mathlib.Data.List.Nodup
import Mathlib.Data.List.Perm.Subperm
import ShaderSyntax.Proofs.Tree.Links

/-!
# Trees are forests

The links of a tree agree with each other and lead up to nodes without parent
(`SyntaxTree.Forest`). The way up from a node is a list (`SyntaxTree.Line`): it has no node twice,
so it is never longer than the tree, and the check for cycles always comes to its end
(`SyntaxTree.Forest.checkAttach_eq_ok_iff`). Taking a node off its parent and giving a node to a
parent that does not lie below it both keep a forest one (`SyntaxTree.Forest.detached`,
`SyntaxTree.Forest.adopt`); every edit that succeeds is made of these two.
-/

set_option autoImplicit false

namespace ShaderSyntax.SyntaxTree

/-- The way from a node up to a node without parent, both included. -/
inductive Line (tree : SyntaxTree) : NodeId → List NodeId → Prop
  | top {id : NodeId} (known : id < tree.size) (alone : tree.parent? id = none) :
      Line tree id [id]
  | up {id parent : NodeId} {line : List NodeId} (linked : tree.parent? id = some parent)
      (above : Line tree parent line) : Line tree id (id :: line)

/-- A node lies below another one, or is that one. -/
inductive Below (tree : SyntaxTree) (top : NodeId) : NodeId → Prop
  | self : Below tree top top
  | step {id parent : NodeId} (linked : tree.parent? id = some parent)
      (above : Below tree top parent) : Below tree top id

/-- A tree is a forest: children are nodes, they are the nodes whose parent lists them, each is
listed once, and the way up from a node ends, with no more nodes on it than there are. -/
structure Forest (tree : SyntaxTree) : Prop where
  known : ∀ parent child, child ∈ tree.children parent → child < tree.size
  linked : ∀ parent child, child ∈ tree.children parent ↔ tree.parent? child = some parent
  nodup : ∀ parent, (tree.children parent).Nodup
  rooted : ∀ id, id < tree.size → ∃ line, tree.Line id line ∧ line.length ≤ tree.size

variable {tree : SyntaxTree} {id other parent child goal : NodeId} {line : List NodeId}

/-! ## The way up -/

namespace Line

/-- The way up starts at its node. -/
theorem mem_self (way : tree.Line id line) : id ∈ line := by
  cases way <;> exact List.mem_cons_self

/-- There is one line upwards from a node. -/
theorem unique {first second : List NodeId} (one : tree.Line id first)
    (two : tree.Line id second) : first = second := by
  induction one generalizing second with
  | top known alone =>
    cases two with
    | top => rfl
    | up linked => simp [alone] at linked
  | up linked above ih =>
    cases two with
    | top known alone => simp [linked] at alone
    | up linked' above' =>
      rw [linked, Option.some.injEq] at linked'
      subst linked'
      rw [ih above']

/-- Only nodes lie on the way up. -/
theorem lt_size (way : tree.Line id line) (mem : other ∈ line) : other < tree.size := by
  induction way with
  | top known alone => exact List.mem_singleton.mp mem ▸ known
  | up linked above ih =>
    rcases List.mem_cons.mp mem with rfl | mem
    · exact lt_size_of_parent? linked
    · exact ih mem

/-- The way up from a node on the way is the rest of the way. -/
theorem of_mem (way : tree.Line id line) (mem : other ∈ line) :
    ∃ rest, tree.Line other rest ∧ rest <:+ line := by
  induction way with
  | top known alone =>
    rw [List.mem_singleton.mp mem]
    exact ⟨_, .top known alone, List.suffix_refl _⟩
  | @up id parent line linked above ih =>
    rcases List.mem_cons.mp mem with rfl | mem
    · exact ⟨_, .up linked above, List.suffix_refl _⟩
    · obtain ⟨rest, way, suffix⟩ := ih mem
      exact ⟨rest, way, suffix.trans (List.suffix_cons id line)⟩

/-- No node lies on the way up twice: the way from its second place would be the way from its first,
and yet be shorter. -/
theorem nodup (way : tree.Line id line) : line.Nodup := by
  induction way with
  | top known alone => exact List.nodup_singleton _
  | @up id parent line linked above ih =>
    refine List.nodup_cons.mpr ⟨?_, ih⟩
    intro again
    obtain ⟨rest, way, suffix⟩ := above.of_mem again
    have same := way.unique (.up linked above)
    have shorter := suffix.length_le
    rw [same, List.length_cons] at shorter
    omega

/-- The way up has no more nodes than the tree. -/
theorem length_le (way : tree.Line id line) : line.length ≤ tree.size := by
  have inside : line ⊆ List.range tree.size := fun node mem =>
    List.mem_range.mpr (way.lt_size mem)
  simpa using (way.nodup.subperm inside).length_le

/-- The nodes on the way up are those below which the node lies. -/
theorem mem_iff (way : tree.Line id line) : other ∈ line ↔ tree.Below other id := by
  constructor
  · intro mem
    induction way with
    | top known alone => exact List.mem_singleton.mp mem ▸ .self
    | up linked above ih =>
      rcases List.mem_cons.mp mem with rfl | mem
      · exact .self
      · exact .step linked (ih mem)
  · intro below
    induction below generalizing line with
    | self => exact way.mem_self
    | step linked above ih =>
      cases way with
      | top known alone => simp [linked] at alone
      | up linked' above' =>
        rw [linked, Option.some.injEq] at linked'
        subst linked'
        exact List.mem_cons_of_mem _ (ih above')

/-- The way up is the same in a tree in which its nodes have the same parents. -/
theorem transfer {new : SyntaxTree} (way : tree.Line id line) (size : tree.size ≤ new.size)
    (kept : ∀ node ∈ line, new.parent? node = tree.parent? node) : new.Line id line := by
  induction way with
  | top known alone =>
    refine .top (Nat.lt_of_lt_of_le known size) ?_
    rw [kept _ List.mem_cons_self, alone]
  | up linked above ih =>
    refine .up ?_ (ih fun node mem => kept node (List.mem_cons_of_mem _ mem))
    rw [kept _ List.mem_cons_self, linked]

end Line

/-- What lies below a node is the node and what lies below its children. -/
theorem below_iff : tree.Below parent id ↔
    id = parent ∨ ∃ child, tree.parent? child = some parent ∧ tree.Below child id := by
  constructor
  · intro below
    induction below with
    | self => exact .inl rfl
    | @step id up linked above ih =>
      right
      rcases ih with rfl | ⟨child, link, between⟩
      · exact ⟨id, linked, .self⟩
      · exact ⟨child, link, .step linked between⟩
  · rintro (rfl | ⟨child, link, below⟩)
    · exact .self
    · induction below with
      | self => exact .step link .self
      | step linked above ih => exact .step linked ih

/-- Of two nodes above a node one lies below the other. -/
theorem Below.total {first second : NodeId} (one : tree.Below first id)
    (two : tree.Below second id) : tree.Below first second ∨ tree.Below second first := by
  induction one with
  | self => exact .inr two
  | step linked above ih =>
    cases two with
    | self => exact .inl (.step linked above)
    | step linked' above' =>
      rw [linked, Option.some.injEq] at linked'
      subst linked'
      exact ih above'

/-- With fewer links less lies below a node. -/
theorem Below.mono {fewer : SyntaxTree} (below : fewer.Below parent id)
    (kept : ∀ child up, fewer.parent? child = some up → tree.parent? child = some up) :
    tree.Below parent id := by
  induction below with
  | self => exact .self
  | step linked above ih => exact .step (kept _ _ linked) ih

namespace Forest

/-- It is enough that the way up from every node ends. -/
theorem of_lines (linked : ∀ parent child,
      child ∈ tree.children parent ↔ tree.parent? child = some parent)
    (nodup : ∀ parent, (tree.children parent).Nodup)
    (lines : ∀ id, id < tree.size → ∃ line, tree.Line id line) : tree.Forest := by
  refine ⟨?_, linked, nodup, ?_⟩
  · intro parent child mem
    exact lt_size_of_parent? ((linked parent child).mp mem)
  · intro id known
    obtain ⟨line, way⟩ := lines id known
    exact ⟨line, way, way.length_le⟩

/-- A parent does not lie below its child. -/
theorem not_below_of_parent? (forest : tree.Forest) (linked : tree.parent? child = some parent) :
    ¬tree.Below child parent := by
  intro below
  obtain ⟨line, way, -⟩ := forest.rooted child (lt_size_of_parent? linked)
  cases way with
  | top known alone => simp [linked] at alone
  | up linked' above =>
    have whole := Line.up linked' above
    rw [linked, Option.some.injEq] at linked'
    subst linked'
    exact (List.nodup_cons.mp whole.nodup).1 (above.mem_iff.mpr below)

/-- A node with a parent is listed by a node of the tree. -/
theorem parent_lt_size (forest : tree.Forest) (linked : tree.parent? child = some parent) :
    parent < tree.size :=
  lt_size_of_mem_children ((forest.linked parent child).mpr linked)

/-- A forest with the same links, and no fewer nodes, is a forest as well. -/
theorem of_same_links {same : SyntaxTree} (forest : tree.Forest)
    (parents : ∀ id, same.parent? id = tree.parent? id)
    (children : ∀ id, same.children id = tree.children id) (size : tree.size ≤ same.size) :
    same.Forest := by
  refine of_lines ?_ ?_ ?_
  · intro parent child
    rw [children, parents, forest.linked]
  · intro parent
    rw [children]
    exact forest.nodup parent
  · intro id known
    by_cases old : id < tree.size
    · obtain ⟨line, way, -⟩ := forest.rooted id old
      exact ⟨line, way.transfer size fun node _ => parents node⟩
    · have alone : same.parent? id = none := by
        rw [parents, parent?, get?_eq_none_iff.mpr (Nat.not_lt.mp old)]
        rfl
      exact ⟨[id], .top known alone⟩

/-- The tree without nodes is a forest. -/
theorem empty : SyntaxTree.empty.Forest := by
  refine of_lines ?_ ?_ ?_
  · intro parent child
    simp [SyntaxTree.empty, SyntaxTree.children, parent?, get?]
  · intro parent
    simp [SyntaxTree.empty, SyntaxTree.children, get?]
  · intro id known
    exact absurd known (Nat.not_lt_zero id)

end Forest

/-! ## Taking a node off its parent -/

/-- The tree with a node taken off its parent, if it has one. -/
def detached (tree : SyntaxTree) (id : NodeId) : SyntaxTree :=
  match tree.parent? id with
  | some parent => tree.unlinked parent id
  | none => tree

/-- Detaching a node removes none. -/
@[simp] theorem size_detached : (tree.detached id).size = tree.size := by
  unfold detached
  split
  · exact size_unlinked
  · rfl

/-- A detached node has no parent; all others keep theirs. -/
theorem parent?_detached :
    (tree.detached id).parent? other = if other = id then none else tree.parent? other := by
  unfold detached
  split
  case h_1 parent linked => exact parent?_unlinked (lt_size_of_parent? linked)
  case h_2 alone =>
    split
    case isTrue same => rw [same, alone]
    case isFalse => rfl

/-- A detached node is no child; all other children stay in order. -/
theorem Forest.children_detached (forest : tree.Forest) :
    (tree.detached id).children other = (tree.children other).erase id := by
  have stays : tree.parent? id ≠ some other →
      tree.children other = (tree.children other).erase id := by
    intro apart
    rw [List.erase_of_not_mem fun mem => apart ((forest.linked other id).mp mem)]
  unfold detached
  split
  case h_1 parent linked =>
    rw [children_unlinked (forest.parent_lt_size linked)]
    split
    case isTrue same => rw [same]
    case isFalse apart =>
      exact stays fun linked' => apart (Option.some.inj (linked'.symm.trans linked))
  case h_2 alone => exact stays (by simp [alone])

/-- What lies below a node with a node detached lay there before. -/
theorem below_of_detached (below : (tree.detached other).Below parent id) :
    tree.Below parent id := by
  refine below.mono ?_
  intro child up linked
  rw [parent?_detached] at linked
  split at linked
  · contradiction
  · exact linked

/-- A forest with a node detached is a forest: the ways through that node end there. -/
theorem Forest.detached (forest : tree.Forest) (id : NodeId) : (tree.detached id).Forest := by
  refine .of_lines ?_ ?_ ?_
  · intro parent child
    rw [forest.children_detached, parent?_detached, (forest.nodup parent).mem_erase_iff,
      forest.linked]
    by_cases same : child = id <;> simp [same]
  · intro parent
    rw [forest.children_detached]
    exact (forest.nodup parent).erase id
  · intro node known
    rw [size_detached] at known
    obtain ⟨line, way, -⟩ := forest.rooted node known
    induction way with
    | @top node known alone =>
      refine ⟨[node], .top (by rwa [size_detached]) ?_⟩
      rw [parent?_detached, alone, ite_self]
    | @up node parent line linked above ih =>
      by_cases same : node = id
      · refine ⟨[node], .top (by rwa [size_detached]) ?_⟩
        rw [parent?_detached, if_pos same]
      · obtain ⟨line, way⟩ := ih (forest.parent_lt_size linked)
        refine ⟨node :: line, .up ?_ way⟩
        rw [parent?_detached, if_neg same, linked]

/-! ## Giving a node to a parent -/

/-- A forest in which a node without parent is given to a parent that does not lie below it is a
forest, however its children are arranged. -/
theorem Forest.adopt (forest : tree.Forest) {arrange : List NodeId → List NodeId}
    (known_parent : parent < tree.size) (known_child : child < tree.size)
    (alone : tree.parent? child = none) (acyclic : ¬tree.Below child parent)
    (arranged : (arrange (tree.children parent)).Perm (child :: tree.children parent)) :
    (tree.adopt parent child arrange).Forest := by
  have fresh : child ∉ tree.children parent := by simp [forest.linked, alone]
  -- The way up from the parent does not pass the child, so it is what it was.
  have above_child : ∃ line, (tree.adopt parent child arrange).Line child line := by
    obtain ⟨line, way, -⟩ := forest.rooted parent known_parent
    refine ⟨child :: line, .up (by rw [parent?_adopt known_child, if_pos rfl]) ?_⟩
    refine way.transfer (Nat.le_of_eq size_adopt.symm) ?_
    intro node mem
    have apart : node ≠ child := by
      rintro rfl
      exact acyclic (way.mem_iff.mp mem)
    rw [parent?_adopt known_child, if_neg apart]
  refine .of_lines ?_ ?_ ?_
  · intro up node
    rw [children_adopt known_parent, parent?_adopt known_child]
    by_cases here : up = parent <;> by_cases same : node = child
    · simp [here, same, arranged.mem_iff]
    · simp [here, same, arranged.mem_iff, forest.linked]
    · simp [here, same, forest.linked, alone, Ne.symm here]
    · simp [here, same, forest.linked]
  · intro up
    rw [children_adopt known_parent]
    split
    · exact arranged.nodup_iff.mpr (List.nodup_cons.mpr ⟨fresh, forest.nodup parent⟩)
    · exact forest.nodup up
  · intro node known
    rw [size_adopt] at known
    obtain ⟨line, way, -⟩ := forest.rooted node known
    induction way with
    | @top node known alone =>
      by_cases same : node = child
      · exact same ▸ above_child
      · refine ⟨[node], .top (by rwa [size_adopt]) ?_⟩
        rw [parent?_adopt known_child, if_neg same, alone]
    | @up node up line linked above ih =>
      obtain ⟨line, way⟩ := ih (forest.parent_lt_size linked)
      refine ⟨node :: line, .up ?_ way⟩
      have same : node ≠ child := by
        rintro rfl
        simp [linked] at alone
      rw [parent?_adopt known_child, if_neg same, linked]

/-! ## The check for cycles -/

/-- What following parents upwards from a node finds, however long it takes: the goal, an unknown
node, or a node without parent. -/
inductive Climbs (tree : SyntaxTree) (goal : NodeId) : NodeId → Except TreeError Bool → Prop
  | met : Climbs tree goal goal (.ok true)
  | lost {id : NodeId} (apart : id ≠ goal) (unknown : tree.get? id = none) :
      Climbs tree goal id (.error (.unknownNode id))
  | missed {id : NodeId} {node : Node} (apart : id ≠ goal) (found : tree.get? id = some node)
      (alone : node.parent = none) : Climbs tree goal id (.ok false)
  | up {id parent : NodeId} {node : Node} {result : Except TreeError Bool} (apart : id ≠ goal)
      (found : tree.get? id = some node) (linked : node.parent = some parent)
      (above : Climbs tree goal parent result) : Climbs tree goal id result

/-- Along a way up the goal is met if it lies on the way. -/
theorem climb_of_line (goal : NodeId) {steps : Nat} (way : tree.Line id line)
    (enough : line.length ≤ steps) :
    tree.climb goal steps id = .ok (decide (goal ∈ line)) ∧
      tree.Climbs goal id (.ok (decide (goal ∈ line))) := by
  induction way generalizing steps with
  | @top id known alone =>
    obtain ⟨steps, rfl⟩ := Nat.exists_eq_add_of_le' enough
    obtain ⟨node, found⟩ := exists_get?_iff.mpr known
    rw [parent?_of_get? found] at alone
    rw [List.length_singleton, climb, found]
    by_cases same : id = goal
    · subst same
      simpa using Climbs.met
    · simpa [same, Ne.symm same, alone] using Climbs.missed same found alone
  | @up id parent line linked above ih =>
    obtain ⟨steps, rfl⟩ := Nat.exists_eq_add_of_le' (Nat.le_trans (Nat.le_add_left 1 _) enough)
    obtain ⟨node, found⟩ := exists_get?_iff.mpr (lt_size_of_parent? linked)
    rw [parent?_of_get? found] at linked
    obtain ⟨bounded, unbounded⟩ := ih (Nat.le_of_succ_le_succ enough)
    rw [climb, found]
    by_cases same : id = goal
    · subst same
      simpa using Climbs.met
    · simp only [same, if_false, linked, bounded, List.mem_cons, Ne.symm same, false_or, true_and]
      exact .up same found linked unbounded

/-- In a forest, following parents upwards ends, and the bound on its steps is never what ends
it. -/
theorem Forest.climbs (forest : tree.Forest) (goal id : NodeId) :
    tree.Climbs goal id (tree.climb goal (tree.size + 1) id) := by
  by_cases known : id < tree.size
  · obtain ⟨line, way, short⟩ := forest.rooted id known
    obtain ⟨bounded, unbounded⟩ := climb_of_line goal way (Nat.le_succ_of_le short)
    rwa [bounded]
  · have unknown := get?_eq_none_iff.mpr (Nat.not_lt.mp known)
    rw [climb, unknown]
    by_cases same : id = goal
    · subst same
      simpa using Climbs.met
    · simpa [same] using Climbs.lost same unknown

/-- A node can become a child of another one: both are nodes of the tree, and the parent does not
lie below the child. -/
structure Attachable (tree : SyntaxTree) (parent child : NodeId) : Prop where
  parent_known : parent < tree.size
  child_known : child < tree.size
  acyclic : ¬tree.Below child parent

/-- The check passes exactly the nodes that can be attached. -/
theorem Forest.checkAttach_eq_ok_iff (forest : tree.Forest) :
    tree.checkAttach parent child = .ok () ↔ tree.Attachable parent child := by
  unfold checkAttach
  by_cases known : child < tree.size
  case neg =>
    rw [node_of_unknown (get?_eq_none_iff.mpr (Nat.not_lt.mp known))]
    exact ⟨nofun, fun fits => absurd fits.child_known known⟩
  obtain ⟨node, found⟩ := exists_get?_iff.mpr known
  rw [node_of_get? found]
  simp only [bind, Except.bind]
  by_cases known_parent : parent < tree.size
  case neg =>
    have unknown := get?_eq_none_iff.mpr (Nat.not_lt.mp known_parent)
    have apart : parent ≠ child := by
      rintro rfl
      exact known_parent known
    rw [climb, if_neg apart, unknown]
    exact ⟨nofun, fun fits => absurd fits.parent_known known_parent⟩
  obtain ⟨line, way, short⟩ := forest.rooted parent known_parent
  rw [(climb_of_line child way (Nat.le_succ_of_le short)).1]
  by_cases mem : child ∈ line
  · rw [decide_eq_true mem]
    exact ⟨nofun, fun fits => absurd (way.mem_iff.mp mem) fits.acyclic⟩
  · rw [decide_eq_false mem]
    exact ⟨fun _ => ⟨known_parent, known, fun below => mem (way.mem_iff.mpr below)⟩, fun _ => rfl⟩

end ShaderSyntax.SyntaxTree
