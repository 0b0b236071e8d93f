import ShaderSyntax.Proofs.Shader.Ownership

/-!
# Computations that lose no node

A computation that is handed loose nodes of a forest gathers them if it succeeds, leaves a forest,
and gives loose nodes below which all those lie that it took (`Shader.Gathers`). It takes off no
child of its parent, so what lay below a node before still does. The rules follow the steps of which
actions are made: one for each step, one for steps in a row (`Shader.Gathers.bind`), and one for
nodes that a step leaves aside (`Shader.Gathers.beside`).
-/

set_option autoImplicit false

namespace ShaderSyntax

namespace SyntaxTree

variable {tree later last : SyntaxTree} {top middle id parent child : NodeId}
  {taken given final rest children : List NodeId}

/-- What lies below a node that lies below another lies below this one. -/
theorem Below.trans (upper : tree.Below top middle) (lower : tree.Below middle id) :
    tree.Below top id := by
  induction lower with
  | self => exact upper
  | step linked above ih => exact .step linked ih

/-- From one tree to another no link is lost. -/
def Extends (later tree : SyntaxTree) : Prop :=
  ∀ child up, tree.parent? child = some up → later.parent? child = some up

/-- Nodes lie below others. -/
def Covers (tree : SyntaxTree) (roots ids : List NodeId) : Prop :=
  ∀ id ∈ ids, ∃ root ∈ roots, tree.Below root id

/-- No link is lost over two steps if none is in each. -/
theorem Extends.trans (second : last.Extends later) (first : later.Extends tree) :
    last.Extends tree :=
  fun child up linked => second child up (first child up linked)

/-- Where no link is lost, what lay below other nodes still does. -/
theorem Extends.covers (extend : later.Extends tree) (covers : tree.Covers given taken) :
    later.Covers given taken := by
  intro id mem
  obtain ⟨root, among, below⟩ := covers id mem
  exact ⟨root, among, below.mono extend⟩

/-- What lies below nodes that lie below others lies below these. -/
theorem Covers.trans (upper : tree.Covers final given) (lower : tree.Covers given taken) :
    tree.Covers final taken := by
  intro id mem
  obtain ⟨middle, among, below⟩ := lower id mem
  obtain ⟨root, among, above⟩ := upper middle among
  exact ⟨root, among, above.trans below⟩

/-- Nodes lie below themselves. -/
theorem Covers.of_subset (subset : taken ⊆ given) : tree.Covers given taken :=
  fun id mem => ⟨id, subset mem, .self⟩

/-- Nodes that lie below others do so together. -/
theorem Covers.append {more : List NodeId} (one : tree.Covers given taken)
    (two : tree.Covers given more) : tree.Covers given (taken ++ more) := by
  intro id mem
  rcases List.mem_append.mp mem with mem | mem
  · exact one id mem
  · exact two id mem

/-- Adding a node loses no link. -/
theorem extends_add (kind : String) (value : Option Scalar) (op : Option String) :
    (tree.add kind value op).2.Extends tree := by
  intro child up linked
  rw [parent?_add, linked]

/-- A loose node that is attached lies below its parent, and nothing else moves. -/
theorem Loose.extends_attached (loose : tree.Loose (parent :: child :: rest))
    (arrange : List NodeId → List NodeId) :
    (tree.attached parent child arrange).Extends tree ∧
      (tree.attached parent child arrange).Covers [parent] [parent, child] := by
  have links : ∀ id, (tree.attached parent child arrange).parent? id =
      if id = child then some parent else tree.parent? id :=
    fun id => parent?_attached (loose.known child (by simp))
  constructor
  · intro id up linked
    have apart : id ≠ child := by
      rintro rfl
      rw [loose.alone id (by simp)] at linked
      contradiction
    rw [links, if_neg apart, linked]
  · intro id mem
    refine ⟨parent, List.mem_singleton_self parent, ?_⟩
    rcases List.mem_cons.mp mem with rfl | mem
    · exact .self
    · obtain rfl := List.mem_singleton.mp mem
      exact .step (by rw [links, if_pos rfl]) .self

/-- Loose nodes that are pushed one by one lie below their parent. -/
theorem Loose.pushAll_extends (forest : tree.Forest)
    (loose : tree.Loose (parent :: (children ++ rest)))
    (pushed : (TreeBuilder.pushAll parent children).run tree = (.ok (), later)) :
    later.Extends tree ∧ later.Covers [parent] children := by
  induction children generalizing tree with
  | nil =>
    obtain rfl : tree = later := congrArg Prod.snd pushed
    exact ⟨fun _ _ linked => linked, nofun⟩
  | cons child children ih =>
    have fits := loose.attachable
    obtain ⟨extend, covers⟩ := loose.extends_attached (· ++ [child])
    rw [TreeBuilder.pushAll, run_bind, forest.push_atomic.done fits] at pushed
    obtain ⟨extend', covers'⟩ := ih (forest.attached fits List.perm_append_comm)
      (loose.attached _) pushed
    refine ⟨extend'.trans extend, List.forall_mem_cons.mpr ⟨?_, covers'⟩⟩
    exact (extend'.covers covers) child (by simp)

end SyntaxTree

namespace Shader

open SyntaxTree

variable {α β : Type} {taken others children : List NodeId} {given : α → List NodeId}
  {final : β → List NodeId} {parent child : NodeId} {kind : String} {good : α → Prop}
  {fine : β → Prop}

/-- How a computation ends that gathers nodes: with success, an outcome of the wanted form, a forest
in which the nodes of the outcome are loose beside all the others, no link lost, and the nodes that
were taken below those of the outcome. -/
structure Gathered (tree : SyntaxTree) (taken rest : List NodeId) (given : α → List NodeId)
    (good : α → Prop) (outcome : α) (later : SyntaxTree) : Prop where
  good : good outcome
  forest : later.Forest
  loose : later.Loose (given outcome ++ rest)
  extend : later.Extends tree
  covers : later.Covers (given outcome) taken

/-- A computation gathers the nodes it takes, on each forest in which they are loose. -/
def Gathers (builder : Builder α) (taken : List NodeId) (given : α → List NodeId)
    (good : α → Prop) : Prop :=
  ∀ (tree : SyntaxTree) (rest : List NodeId), tree.Forest → tree.Loose (taken ++ rest) →
    ∃ outcome later, builder.run tree = (.ok outcome, later) ∧
      Gathered tree taken rest given good outcome later

namespace Gathers

/-- The nodes may be listed in another order. -/
theorem of_count {builder : Builder α} (order : List NodeId)
    (same : ∀ id, order.count id = taken.count id)
    (gathers : Gathers builder order given good) : Gathers builder taken given good := by
  intro tree rest forest loose
  have reordered : tree.Loose (order ++ rest) := by
    refine loose.of_count fun id => Nat.le_of_eq ?_
    rw [List.count_append, List.count_append, same]
  obtain ⟨outcome, later, run, gathered⟩ := gathers tree rest forest reordered
  refine ⟨outcome, later, run, { gathered with covers := fun id mem => gathered.covers id ?_ }⟩
  rw [← List.count_pos_iff, same]
  exact List.count_pos_iff.mpr mem

/-- What is not taken is left aside. -/
theorem beside {builder : Builder α} (gathers : Gathers builder taken given good) :
    Gathers builder (taken ++ others) (fun outcome => given outcome ++ others) good := by
  intro tree rest forest loose
  rw [List.append_assoc] at loose
  obtain ⟨outcome, later, run, gathered⟩ := gathers tree (others ++ rest) forest loose
  refine ⟨outcome, later, run, gathered.good, gathered.forest, ?_, gathered.extend, ?_⟩
  · rw [List.append_assoc]
    exact gathered.loose
  · refine .append ?_ (.of_subset (List.subset_append_right _ _))
    exact Covers.trans (.of_subset (List.subset_append_left _ _)) gathered.covers

/-- Steps in a row gather what the first one takes. -/
theorem bind {first : Builder α} {next : α → Builder β} (one : Gathers first taken given good)
    (two : ∀ outcome, good outcome → Gathers (next outcome) (given outcome) final fine) :
    Gathers (first >>= next) taken final fine := by
  intro tree rest forest loose
  obtain ⟨outcome, middle, run, one⟩ := one tree rest forest loose
  obtain ⟨result, later, run', two⟩ := two outcome one.good middle rest one.forest one.loose
  -- what lay below the nodes of the first outcome still does, and these lie below the second's
  refine ⟨result, later, ?_, two.good, two.forest, two.loose, two.extend.trans one.extend, ?_⟩
  · rw [run_bind, run]
    exact run'
  · exact two.covers.trans (two.extend.covers one.covers)

/-- Giving all that was taken loses nothing. -/
theorem pure {outcome : α} (same : given outcome = taken) (is_good : good outcome) :
    Gathers (Pure.pure outcome) taken given good := by
  intro tree rest forest loose
  refine ⟨outcome, tree, rfl, is_good, forest, same ▸ loose, fun _ _ linked => linked, ?_⟩
  rw [same]
  exact .of_subset (List.Subset.refl _)

/-! ## The steps of actions -/

/-- Reading a token from a token goes on with its kind and text. -/
theorem asToken {text : String} {line : Nat} {next : String × String → Builder β}
    (two : Gathers (next (kind, text)) taken final fine) :
    Gathers (asToken (.token kind text line) >>= next) taken final fine := by
  show Gathers (Pure.pure (kind, text) >>= next) taken final fine
  rwa [pure_bind]

/-- Reading a node from a node goes on with it. -/
theorem asNode {id : NodeId} {next : NodeId → Builder β}
    (two : Gathers (next id) taken final fine) :
    Gathers (asNode (.node id) >>= next) taken final fine := by
  show Gathers (Pure.pure id >>= next) taken final fine
  rwa [pure_bind]

/-- Reading a list from a list goes on with it. -/
theorem asList {ids : List NodeId} {next : List NodeId → Builder β}
    (two : Gathers (next ids) taken final fine) :
    Gathers (asList (.list ids) >>= next) taken final fine := by
  show Gathers (Pure.pure ids >>= next) taken final fine
  rwa [pure_bind]

/-- Looking at the tree gathers what is taken. -/
theorem get : Gathers MonadState.get taken (fun _ => taken) fun _ => True := by
  intro tree rest forest loose
  exact ⟨tree, tree, rfl, trivial, forest, loose, fun _ _ linked => linked,
    .of_subset (List.Subset.refl _)⟩

/-- A new node is given beside the others. -/
theorem create {make : SyntaxTree → NodeId × SyntaxTree}
    (adds : ∀ tree, ∃ kind value op, make tree = tree.add kind value op) :
    Gathers (create make) taken (fun id => id :: taken) fun _ => True := by
  intro tree rest forest loose
  obtain ⟨kind, value, op, same⟩ := adds tree
  refine ⟨tree.size, (tree.add kind value op).2, ?_, trivial, forest.add kind value op,
    loose.add kind value op, extends_add kind value op, .of_subset (List.subset_cons_self _ _)⟩
  simp only [Shader.create, run_bind, run_get, run_set, run_pure, same]
  rfl

/-- A leaf with the name of a token is given beside the others. -/
theorem nameLeaf {text : String} {line : Nat} :
    Gathers (nameLeaf (.token kind text line)) taken (fun id => id :: taken) fun _ => True :=
  .asToken (.create fun _ => ⟨_, _, _, rfl⟩)

/-- An edit gathers what it takes if it does so on every forest where that is loose. -/
theorem edit {change : TreeBuilder α}
    (done : ∀ tree rest, tree.Forest → tree.Loose (taken ++ rest) →
      ∃ outcome later, change.run tree = (.ok outcome, later) ∧
        Gathered tree taken rest given good outcome later) :
    Gathers (Shader.edit change) taken given good := by
  intro tree rest forest loose
  obtain ⟨outcome, later, changed, gathered⟩ := done tree rest forest loose
  refine ⟨outcome, later, ?_, gathered⟩
  simp only [Shader.edit, run_bind, run_get, run_set, run_pure, changed]

/-- A loose node is pushed below another, which is given. -/
theorem push : Gathers (Shader.edit (.push parent child)) (parent :: child :: others)
    (fun _ => parent :: others) fun _ => True := by
  have alone : Gathers (Shader.edit (.push parent child)) [parent, child] (fun _ => [parent])
      fun _ => True := by
    refine .edit fun tree rest forest loose => ?_
    have fits := loose.attachable
    obtain ⟨extend, covers⟩ := loose.extends_attached (· ++ [child])
    exact ⟨(), _, forest.push_atomic.done fits, trivial,
      forest.attached fits List.perm_append_comm, loose.attached _, extend, covers⟩
  exact alone.beside

/-- A loose node becomes the first child of another, which is given. -/
theorem insert : Gathers (Shader.edit (.insert parent 0 child)) [parent, child] (fun _ => [parent])
    fun _ => True := by
  refine .edit fun tree rest forest loose => ?_
  have fits := loose.attachable
  obtain ⟨extend, covers⟩ := loose.extends_attached (insertAt · 0 child)
  exact ⟨(), _, forest.insert_atomic.done ⟨fits, Nat.zero_le _⟩, trivial,
    forest.attached fits (insertAt_perm _ _ _), loose.attached _, extend, covers⟩

/-- Loose nodes become the children of a new one, which is given. -/
theorem branch : Gathers (branch kind children) (children ++ others) (fun id => id :: others)
    fun _ => True := by
  have alone : Gathers (Shader.branch kind children) children (fun id => [id]) fun _ => True := by
    refine .edit fun tree rest forest loose => ?_
    have loose := loose.add kind none none
    obtain ⟨later, pushed, kept, loose'⟩ := Loose.pushAll (forest.add kind none none) loose
    obtain ⟨extend, covers⟩ := Loose.pushAll_extends (forest.add kind none none) loose pushed
    exact ⟨tree.size, later, run_branch_of_ok pushed, trivial, kept, loose',
      extend.trans (extends_add kind none none), covers⟩
  exact alone.beside

end Gathers

end Shader

end ShaderSyntax
