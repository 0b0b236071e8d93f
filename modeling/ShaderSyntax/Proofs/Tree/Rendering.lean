import ShaderSyntax.Proofs.Tree.Edits

/-!
# Rendering a forest

What rendering visits and writes is a relation (`SyntaxTree.Renders`) that knows no bound on the
depth. In a forest the bound never matters: the way up grows with each level, and no way up is
longer than the tree. The subtrees of siblings have no node in common, so rendering a node visits
what lies below it, each node once (`SyntaxTree.Forest.render`). The main statement puts this
together with what edits keep: whatever operations make out of nothing is a forest, on which the
check for cycles and rendering come to their end (`SyntaxTree.forest_of_edits`).
-/

set_option autoImplicit false

namespace ShaderSyntax.SyntaxTree

/-- What rendering nodes one after another visits, in order, and the lines it writes, each node at
its depth: for a known node an opening line, what its children give, and a closing line; nothing
for an unknown one. -/
inductive Renders (tree : SyntaxTree) :
    Nat → List NodeId → List NodeId → List String → Prop
  | nil {depth : Nat} : Renders tree depth [] [] []
  | skip {depth : Nat} {id : NodeId} {rest visited : List NodeId} {lines : List String}
      (unknown : tree.get? id = none) (further : Renders tree depth rest visited lines) :
      Renders tree depth (id :: rest) visited lines
  | node {depth : Nat} {id : NodeId} {rest inner outer : List NodeId} {node : Node}
      {body lines : List String} (found : tree.get? id = some node)
      (below : Renders tree (depth + 1) node.children inner body)
      (further : Renders tree depth rest outer lines) :
      Renders tree depth (id :: rest) (id :: inner ++ outer)
        ((String.ofList (List.replicate depth '-') ++ node.kind ++ annotation node ++ " \x7b") ::
          (body ++ [String.ofList (List.replicate depth '-') ++ "\x7d"]) ++ lines)

variable {tree : SyntaxTree} {id parent child first second root : NodeId} {depth levels : Nat}

/-- Rendering some nodes and then others is rendering them all. -/
theorem Renders.append {some others visited further : List NodeId} {lines rest : List String}
    (one : tree.Renders depth some visited lines) (two : tree.Renders depth others further rest) :
    tree.Renders depth (some ++ others) (visited ++ further) (lines ++ rest) := by
  induction one with
  | nil => exact two
  | skip unknown _ ih => exact .skip unknown (ih two)
  | node found below _ _ ih =>
    rw [List.append_assoc, List.append_assoc]
    exact .node found below (ih two)

/-- Nothing lies below two siblings. -/
theorem Forest.eq_of_below (forest : tree.Forest) (one : tree.parent? first = some parent)
    (two : tree.parent? second = some parent) (under_first : tree.Below first id)
    (under_second : tree.Below second id) : first = second := by
  rcases under_first.total under_second with below | below
  · cases below with
    | self => rfl
    | step linked above =>
      rw [two, Option.some.injEq] at linked
      exact absurd (linked ▸ above) (forest.not_below_of_parent? one)
  · cases below with
    | self => rfl
    | step linked above =>
      rw [one, Option.some.injEq] at linked
      exact absurd (linked ▸ above) (forest.not_below_of_parent? two)

/-- The lines written for a node come from visiting what lies below it, each node once. -/
def RendersBelow (tree : SyntaxTree) (depth levels : Nat) (id : NodeId) : Prop :=
  ∃ visited, tree.Renders depth [id] visited (tree.renderLines levels depth id) ∧
    visited.Nodup ∧ ∀ node, node ∈ visited ↔ tree.Below id node

/-- If this holds for each of some siblings, they are all rendered without visiting a node twice. -/
theorem Forest.renders_siblings (forest : tree.Forest) {siblings : List NodeId}
    (linked : ∀ id ∈ siblings, tree.parent? id = some parent) (distinct : siblings.Nodup)
    (each : ∀ id ∈ siblings, tree.RendersBelow depth levels id) :
    ∃ visited, tree.Renders depth siblings visited
        (siblings.flatMap (tree.renderLines levels depth)) ∧
      visited.Nodup ∧ ∀ node, node ∈ visited ↔ ∃ id ∈ siblings, tree.Below id node := by
  induction siblings with
  | nil => exact ⟨[], .nil, List.nodup_nil, by simp⟩
  | cons id rest ih =>
    obtain ⟨fresh, distinct⟩ := List.nodup_cons.mp distinct
    obtain ⟨own, here, once, mem_own⟩ := each id List.mem_cons_self
    obtain ⟨others, there, once', mem_others⟩ := ih
      (fun id mem => linked id (List.mem_cons_of_mem _ mem)) distinct
      (fun id mem => each id (List.mem_cons_of_mem _ mem))
    refine ⟨own ++ others, here.append there, ?_, ?_⟩
    · refine List.nodup_append.mpr ⟨once, once', ?_⟩
      rintro node in_own _ in_others rfl
      obtain ⟨sibling, mem, below⟩ := (mem_others node).mp in_others
      have same := forest.eq_of_below (linked id List.mem_cons_self)
        (linked sibling (List.mem_cons_of_mem _ mem)) ((mem_own node).mp in_own) below
      exact fresh (same ▸ mem)
    · intro node
      simp only [List.mem_append, mem_own, mem_others, List.mem_cons, exists_eq_or_imp]

/-- With as many levels as a way up can still grow, rendering is not cut off. -/
theorem Forest.renders_of_line (forest : tree.Forest) (depth : Nat) {line : List NodeId}
    (way : tree.Line id line) (enough : tree.size + 1 ≤ levels + line.length) :
    tree.RendersBelow depth levels id := by
  induction levels generalizing depth id line with
  | zero =>
    have short := way.length_le
    omega
  | succ levels ih =>
    obtain ⟨node, found⟩ := exists_get?_iff.mpr (way.lt_size way.mem_self)
    have up : ∀ child ∈ node.children, tree.parent? child = some id := by
      intro child mem
      rwa [← children_of_get? found, forest.linked] at mem
    obtain ⟨inner, below, once, mem_inner⟩ := forest.renders_siblings up
      (children_of_get? found ▸ forest.nodup id) fun child mem =>
        ih (depth + 1) (.up (up child mem) way) (by rw [List.length_cons]; omega)
    have mem_iff : ∀ node, node ∈ inner ↔
        ∃ child, tree.parent? child = some id ∧ tree.Below child node := by
      intro other
      simp only [mem_inner, ← children_of_get? found, forest.linked]
    refine ⟨id :: inner, ?_, ?_, ?_⟩
    · rw [renderLines, found]
      simpa using Renders.node found below .nil
    · refine List.nodup_cons.mpr ⟨?_, once⟩
      intro again
      obtain ⟨child, linked, under⟩ := (mem_iff id).mp again
      exact forest.not_below_of_parent? linked under
    · intro node
      rw [List.mem_cons, mem_iff, below_iff]

/-- Rendering a node of a forest comes to its end, and visits what lies below the node, each node
once. -/
theorem Forest.render (forest : tree.Forest) (known : root < tree.size) :
    ∃ visited lines, tree.Renders 0 [root] visited lines ∧
      tree.render root = String.join (lines.map (· ++ "\n")) ∧
      visited.Nodup ∧ ∀ id, id ∈ visited ↔ tree.Below root id := by
  obtain ⟨line, way, -⟩ := forest.rooted root known
  obtain ⟨visited, renders, once, mem_iff⟩ :=
    forest.renders_of_line 0 way (Nat.le_add_right (tree.size + 1) _)
  exact ⟨visited, _, renders, rfl, once, mem_iff⟩

/-- Whatever operations make out of nothing, with whatever nodes and whether they succeed, fail or
stop half way, is a forest: children are nodes, listed once by their parents and by nobody else, and
the way up from each node ends before it has gone through all nodes. So the check for cycles, which
goes up, and rendering, which goes down, end without a bound on their steps, and rendering a node
visits the nodes below it once each. -/
theorem forest_of_edits (edits : List Edit) :
    (after edits).Forest ∧
    (∀ goal id, (after edits).Climbs goal id
      ((after edits).climb goal ((after edits).size + 1) id)) ∧
    ∀ root, root < (after edits).size →
      ∃ visited lines, (after edits).Renders 0 [root] visited lines ∧
        (after edits).render root = String.join (lines.map (· ++ "\n")) ∧
        visited.Nodup ∧ ∀ id, id ∈ visited ↔ (after edits).Below root id := by
  have forest := forest_after edits
  exact ⟨forest, forest.climbs, fun _ => forest.render⟩

/-- A branch that fails at an unknown node keeps the child it has moved, and leaves a forest. -/
theorem forest_of_edits_half_way :
    (after [.newNode "Block", .leaf "ID" (.str "a"), .branch "Call" [1, 7, 0]]).parent? 1 = some 2 ∧
    (after [.newNode "Block", .leaf "ID" (.str "a"), .branch "Call" [1, 7, 0]]).parent? 0 = none ∧
    (after [.newNode "Block", .leaf "ID" (.str "a"), .branch "Call" [1, 7, 0]]).Forest :=
  ⟨by decide +kernel, by decide +kernel, (forest_of_edits _).1⟩

end ShaderSyntax.SyntaxTree
