import ShaderSyntax.Proofs.Tree.Edits
import ShaderSyntax.Shader.Grammar

/-!
# Who owns the nodes of a tree under construction

Values own nodes: each node is owned once, and none has a parent (`SyntaxTree.Loose`). A computation
takes some nodes and gives others; it may make nodes, and it may attach nodes it took to others of
them, but it leaves a forest and all other loose nodes alone (`Shader.Keeps`). Because what it
attaches is loose, no edit is refused. The rules for `Keeps` follow the steps of which actions are
made, each together with what comes after it.
-/

set_option autoImplicit false

namespace ShaderSyntax

namespace SyntaxTree

/-- Nodes of a tree that belong to nothing: each is listed once and has no parent. -/
structure Loose (tree : SyntaxTree) (ids : List NodeId) : Prop where
  distinct : ids.Nodup
  known : ∀ id ∈ ids, id < tree.size
  alone : ∀ id ∈ ids, tree.parent? id = none

variable {tree : SyntaxTree} {parent child : NodeId} {ids rest children : List NodeId}

namespace Loose

/-- The empty list is loose in every tree. -/
theorem nil : tree.Loose [] :=
  ⟨List.nodup_nil, nofun, nofun⟩

/-- Of loose nodes some, in any order, are loose. -/
theorem of_count (loose : tree.Loose ids) {fewer : List NodeId}
    (counts : ∀ id, fewer.count id ≤ ids.count id) : tree.Loose fewer := by
  have subset : ∀ id ∈ fewer, id ∈ ids := by
    intro id mem
    have once := List.count_pos_iff.mpr mem
    exact List.count_pos_iff.mp (Nat.lt_of_lt_of_le once (counts id))
  refine ⟨?_, fun id mem => loose.known id (subset id mem),
    fun id mem => loose.alone id (subset id mem)⟩
  rw [List.nodup_iff_count_le_one]
  intro id
  exact Nat.le_trans (counts id) (List.nodup_iff_count_le_one.mp loose.distinct id)

/-- A new node is loose beside the others. -/
theorem add (loose : tree.Loose ids) (kind : String) (value : Option Scalar) (op : Option String) :
    (tree.add kind value op).2.Loose (tree.size :: ids) := by
  refine ⟨?_, ?_, ?_⟩
  · refine List.nodup_cons.mpr ⟨?_, loose.distinct⟩
    intro mem
    exact Nat.lt_irrefl _ (loose.known _ mem)
  · intro id mem
    rw [size_add]
    rcases List.mem_cons.mp mem with rfl | mem
    · exact Nat.lt_succ_self _
    · exact Nat.lt_succ_of_lt (loose.known id mem)
  · intro id mem
    rw [parent?_add]
    rcases List.mem_cons.mp mem with rfl | mem
    · rw [parent?, get?_eq_none_iff.mpr (Nat.le_refl _)]
      rfl
    · exact loose.alone id mem

/-- Loose nodes can be attached to one another. -/
theorem attachable (loose : tree.Loose (parent :: child :: rest)) :
    tree.Attachable parent child := by
  refine ⟨loose.known _ (by simp), loose.known _ (by simp), ?_⟩
  intro below
  cases below with
  | self => simpa using loose.distinct
  | step linked above =>
    rw [loose.alone parent List.mem_cons_self] at linked
    contradiction

/-- What is attached is loose no more; all else stays so. -/
theorem attached (loose : tree.Loose (parent :: child :: rest))
    (arrange : List NodeId → List NodeId) :
    (tree.attached parent child arrange).Loose (parent :: rest) := by
  have others : (parent :: rest).Sublist (parent :: child :: rest) :=
    (List.sublist_cons_self child rest).cons_cons parent
  have apart : ∀ id ∈ parent :: rest, id ≠ child := by
    have fresh := (List.nodup_cons.mp ((List.Perm.swap child parent rest).nodup_iff.mp
      loose.distinct)).1
    rintro id mem rfl
    exact fresh mem
  refine ⟨loose.distinct.sublist others, ?_, ?_⟩
  · intro id mem
    rw [size_attached]
    exact loose.known id (others.subset mem)
  · intro id mem
    rw [parent?_attached (loose.known child (by simp)), if_neg (apart id mem)]
    exact loose.alone id (others.subset mem)

/-- Loose nodes can be pushed one by one. -/
theorem pushAll (forest : tree.Forest) (loose : tree.Loose (parent :: (children ++ rest))) :
    ∃ later, (TreeBuilder.pushAll parent children).run tree = (.ok (), later) ∧
      later.Forest ∧ later.Loose (parent :: rest) := by
  induction children generalizing tree with
  | nil => exact ⟨tree, rfl, forest, loose⟩
  | cons child children ih =>
    have fits := loose.attachable
    obtain ⟨later, pushed, kept, loose⟩ := ih (forest.attached fits List.perm_append_comm)
      (loose.attached (· ++ [child]))
    refine ⟨later, ?_, kept, loose⟩
    rw [TreeBuilder.pushAll, run_bind, forest.push_atomic.done fits]
    exact pushed

/-- Loose nodes can be made the children of a new one, which is loose then. -/
theorem branch (forest : tree.Forest) (loose : tree.Loose (children ++ rest)) (kind : String) :
    ∃ later, (SyntaxTree.branch kind children).run tree = (.ok tree.size, later) ∧
      later.Forest ∧ later.Loose (tree.size :: rest) := by
  obtain ⟨later, pushed, kept, loose⟩ :=
    pushAll (forest.add kind none none) (loose.add kind none none)
  exact ⟨later, run_branch_of_ok pushed, kept, loose⟩

end Loose

end SyntaxTree

namespace Shader

open SyntaxTree

/-- The nodes that a value owns. -/
def Value.ids : Value → List NodeId
  | .empty => []
  | .token .. => []
  | .node id => [id]
  | .list ids => ids

/-- The empty value owns no node. -/
@[simp, grind =] theorem Value.ids_empty : Value.empty.ids = [] := rfl

/-- A token owns no node. -/
@[simp, grind =] theorem Value.ids_token (kind text : String) (line : Nat) :
    (Value.token kind text line).ids = [] := rfl

/-- A node owns itself. -/
@[simp, grind =] theorem Value.ids_node (id : NodeId) : (Value.node id).ids = [id] := rfl

/-- A list owns its items. -/
@[simp, grind =] theorem Value.ids_list (ids : List NodeId) : (Value.list ids).ids = ids := rfl

variable {α β : Type} {taken dropped children : List NodeId} {given : α → List NodeId}
  {final : β → List NodeId} {parent child : NodeId} {kind : String} {value : Value}

/-- A computation takes loose nodes and gives others: on a forest in which the nodes it takes are
loose it leaves a forest, no edit is refused, and if it succeeds, the nodes it gives are loose
beside all the others that were so before. -/
def Keeps (builder : Builder α) (taken : List NodeId) (given : α → List NodeId) : Prop :=
  ∀ (tree : SyntaxTree) (rest : List NodeId), tree.Forest → tree.Loose (taken ++ rest) →
    (builder.run tree).2.Forest ∧
    (∀ outcome, (builder.run tree).1 = .ok outcome →
      (builder.run tree).2.Loose (given outcome ++ rest)) ∧
    ∀ refusal, (builder.run tree).1 ≠ .error (.tree refusal)

namespace Keeps

/-- A computation that is handed more nodes, or the same in another order, leaves the others
alone. -/
theorem of_count {builder : Builder α} (kept : List NodeId)
    (fewer : ∀ id, kept.count id ≤ taken.count id)
    (keeps : Keeps builder kept given) : Keeps builder taken given := by
  intro tree rest forest loose
  refine keeps tree rest forest (loose.of_count fun id => ?_)
  rw [List.count_append, List.count_append]
  exact Nat.add_le_add_right (fewer id) _

/-- A computation that succeeds and leaves the tree alone gives some of what it takes. -/
theorem pure {outcome : α} (fewer : ∀ id, (given outcome).count id ≤ taken.count id) :
    Keeps (Pure.pure outcome) taken given := by
  intro tree rest forest loose
  refine ⟨forest, ?_, nofun⟩
  intro same result
  rw [run_pure, Except.ok.injEq] at result
  subst result
  refine loose.of_count fun id => ?_
  rw [List.count_append, List.count_append]
  exact Nat.add_le_add_right (fewer id) _

/-- A value may be passed on. -/
theorem pass (value : Value) : Keeps (Pure.pure value) ([value].flatMap Value.ids) Value.ids :=
  .pure fun id => Nat.le_of_eq (by rw [List.flatMap_singleton])

/-- A node may be given that was taken. -/
theorem node {id : NodeId} : Keeps (Pure.pure (Value.node id)) (id :: dropped) Value.ids :=
  .pure fun other => by
    rw [Value.ids_node]
    exact (List.sublist_append_left [id] dropped).count_le other

/-- A computation that fails keeps everything, if it does not blame the tree. -/
theorem throw {error : ActionError} (other : ∀ refusal, error ≠ .tree refusal) :
    Keeps (MonadExcept.throw error : Builder α) taken given := by
  intro tree rest forest loose
  refine ⟨forest, nofun, ?_⟩
  intro refusal same
  rw [run_throw, Except.error.injEq] at same
  exact other refusal same

end Keeps

/-! ## The parts of actions, each with what follows it -/

/-- A number that cannot be read is not blamed on the tree. -/
theorem ne_tree_of_mapError {ε : Type} {number : Except ε α} {wrap : ε → ActionError} {make : α → β}
    (other : ∀ fault refusal, wrap fault ≠ .tree refusal) (refusal : TreeError) :
    (number.mapError wrap).map make ≠ .error (.tree refusal) := by
  cases number with
  | ok value => exact nofun
  | error fault => exact fun same => other fault refusal (Except.error.inj same)

/-- A constant that cannot be read is no refused edit. -/
theorem readConstant_ne_tree (kind text : String) (refusal : TreeError) :
    readConstant kind text ≠ .error (.tree refusal) := by
  unfold readConstant
  split
  · exact ne_tree_of_mapError nofun refusal
  · exact ne_tree_of_mapError nofun refusal
  · exact ne_tree_of_mapError nofun refusal
  · exact ne_tree_of_mapError nofun refusal
  · exact nofun
  · exact nofun
  · exact nofun

namespace Keeps

/-- A failure for the number of values changes nothing. -/
theorem wrongCount {expected : Nat} {values : List Value} :
    Keeps (Shader.wrongCount expected values) taken given :=
  .throw nofun

/-- What would follow a failure does not matter. -/
theorem throw_bind {error : ActionError} {next : α → Builder β}
    (other : ∀ refusal, error ≠ .tree refusal) :
    Keeps ((MonadExcept.throw error : Builder α) >>= next) taken final := by
  intro tree rest forest loose
  rw [run_bind, run_throw]
  refine ⟨forest, nofun, ?_⟩
  intro refusal same
  exact other refusal (Except.error.inj same)

/-- Reading a node goes on if the value is one, and otherwise changes nothing. -/
theorem asNode {next : NodeId → Builder β}
    (two : ∀ id, value = .node id → Keeps (next id) taken final) :
    Keeps (asNode value >>= next) taken final := by
  cases value with
  | node id =>
    show Keeps (Pure.pure id >>= next) taken final
    rw [pure_bind]
    exact two id rfl
  | _ => exact .throw_bind nofun

/-- Reading a list goes on if the value is one, and otherwise changes nothing. -/
theorem asList {next : List NodeId → Builder β}
    (two : ∀ ids, value = .list ids → Keeps (next ids) taken final) :
    Keeps (asList value >>= next) taken final := by
  cases value with
  | list ids =>
    show Keeps (Pure.pure ids >>= next) taken final
    rw [pure_bind]
    exact two ids rfl
  | _ => exact .throw_bind nofun

/-- Reading a token goes on if the value is one, and otherwise changes nothing. -/
theorem asToken {next : String × String → Builder β}
    (two : ∀ kind text line, value = .token kind text line →
      Keeps (next (kind, text)) taken final) :
    Keeps (asToken value >>= next) taken final := by
  cases value with
  | token kind text line =>
    show Keeps (Pure.pure (kind, text) >>= next) taken final
    rw [pure_bind]
    exact two kind text line rfl
  | _ => exact .throw_bind nofun

/-- Looking at the tree keeps everything. -/
theorem get {next : SyntaxTree → Builder β} (two : ∀ tree, Keeps (next tree) taken final) :
    Keeps (MonadState.get >>= next) taken final := by
  intro tree rest forest loose
  rw [run_bind, run_get]
  exact two tree tree rest forest loose

/-- Reading a constant goes on if it can be read, and otherwise changes nothing. -/
theorem readConstant {kind text : String} {next : String × Scalar → Builder β}
    (two : ∀ constant, Keeps (next constant) taken final) :
    Keeps (liftM (readConstant kind text) >>= next) taken final := by
  cases read : Shader.readConstant kind text with
  | ok constant =>
    show Keeps (Pure.pure constant >>= next) taken final
    rw [pure_bind]
    exact two constant
  | error error =>
    refine .throw_bind ?_
    rintro refusal rfl
    exact readConstant_ne_tree kind text refusal read

/-- A new node is loose. -/
theorem create {make : SyntaxTree → NodeId × SyntaxTree} {next : NodeId → Builder β}
    (adds : ∀ tree, ∃ kind value op, make tree = tree.add kind value op)
    (two : ∀ id, Keeps (next id) (id :: taken) final) :
    Keeps (create make >>= next) taken final := by
  intro tree rest forest loose
  obtain ⟨kind, value, op, same⟩ := adds tree
  have run : (Shader.create make).run tree = (.ok tree.size, (tree.add kind value op).2) := by
    simp only [Shader.create, run_bind, run_get, run_set, run_pure, same]
    rfl
  rw [run_bind, run]
  exact two _ _ rest (forest.add kind value op) (loose.add kind value op)

/-- A leaf with a name is given beside what was taken. -/
theorem nameLeaf {next : NodeId → Builder β}
    (two : ∀ id, Keeps (next id) (id :: taken) final) :
    Keeps (nameLeaf value >>= next) taken final := by
  rw [Shader.nameLeaf, bind_assoc]
  refine .asToken fun _ text _ _ => ?_
  exact .create (fun _ => ⟨_, _, _, rfl⟩) two

/-- An edit that is always done on loose nodes is not refused. -/
theorem edit {change : TreeBuilder α} {next : α → Builder β} (given : α → List NodeId)
    (done : ∀ tree rest, tree.Forest → tree.Loose (taken ++ rest) →
      ∃ outcome later, change.run tree = (.ok outcome, later) ∧ later.Forest ∧
        later.Loose (given outcome ++ rest))
    (two : ∀ outcome, Keeps (next outcome) (given outcome) final) :
    Keeps (edit change >>= next) taken final := by
  intro tree rest forest loose
  obtain ⟨outcome, later, changed, kept, loose⟩ := done tree rest forest loose
  have run : (Shader.edit change).run tree = (.ok outcome, later) := by
    simp only [Shader.edit, run_bind, run_get, run_set, run_pure, changed]
  rw [run_bind, run]
  exact two outcome later rest kept loose

/-- A loose node can be pushed below another. -/
theorem push {next : Unit → Builder β} (two : Keeps (next ()) (parent :: taken) final) :
    Keeps (Shader.edit (.push parent child) >>= next) (parent :: child :: taken) final := by
  refine .edit (fun _ => parent :: taken) ?_ fun _ => two
  intro tree rest forest loose
  have fits := loose.attachable
  exact ⟨(), _, forest.push_atomic.done fits, forest.attached fits List.perm_append_comm,
    loose.attached _⟩

/-- A loose node can become the first child of another. -/
theorem insert {next : Unit → Builder β} (two : Keeps (next ()) (parent :: taken) final) :
    Keeps (Shader.edit (.insert parent 0 child) >>= next) (parent :: child :: taken) final := by
  refine .edit (fun _ => parent :: taken) ?_ fun _ => two
  intro tree rest forest loose
  have fits := loose.attachable
  exact ⟨(), _, forest.insert_atomic.done ⟨fits, Nat.zero_le _⟩,
    forest.attached fits (insertAt_perm _ _ _), loose.attached _⟩

/-- Loose nodes can become the children of a new one. -/
theorem branch {next : NodeId → Builder β} (two : ∀ id, Keeps (next id) (id :: taken) final) :
    Keeps (branch kind children >>= next) (children ++ taken) final := by
  refine .edit (fun id => id :: taken) ?_ two
  intro tree rest forest loose
  rw [List.append_assoc] at loose
  obtain ⟨later, run, kept, loose⟩ := loose.branch forest kind
  exact ⟨tree.size, later, run, kept, loose⟩

end Keeps

end Shader

end ShaderSyntax
