import ShaderSyntax.Proofs.Cache.Serving

/-!
# Served tables are current and consistent

What a cache keeps and serves, whatever its store and its compiler answer. A record may hold any
text and a compiler may make any tables, with the digest of another grammar, without an index or
with an index that contradicts the labels; the store may fail, and its state may change between two
requests. None of this gets into the memo: tables enter it after their check, with an index
(`TableCache.Ready`). So all served tables have passed their check and carry the digest of the
grammar that they were asked for (`TableCache.served_of_reached`).

What a request can do is said once (`TableCache.tables_cases`, `TableCache.rebuild_cases`); the
invariant is about the memo alone (`TableCache.ready_of_reached`).
-/

set_option autoImplicit false

namespace ShaderSyntax

/-- The index of consistent tables leads to their labels. -/
theorem TableBundle.getElem?_of_validate {tables : TableBundle} (valid : tables.validate = .ok ())
    {entry : String × Nat} (mem : entry ∈ tables.labelMap.entries) :
    tables.labels[entry.2]? = some entry.1 :=
  List.getElem?_eq_some_iff.mpr ((consistent_of_validate valid).label_map entry mem)

namespace TableCache

/-- Tables as a cache keeps them: they have passed their check, and they have an index. -/
structure Ready (tables : TableBundle) : Prop where
  valid : tables.validate = .ok ()
  indexed : tables.labelMap.isEmpty = false

/-- Consistent tables that were indexed are ready. -/
theorem ready_ensureIndexed {tables : TableBundle}
    (valid : tables.ensureIndexed.validate = .ok ()) : Ready tables.ensureIndexed := by
  refine ⟨valid, TableBundle.isEmpty_ensureIndexed ?_⟩
  rw [← tables.labels_ensureIndexed]
  exact TableBundle.labels_ne_nil_of_validate valid

/-- The tables of a usable record are ready. -/
theorem ready_of_usable? {record : String} {found : TableBundle}
    (usable : usable? record = some found) : Ready found := by
  unfold usable? at usable
  split at usable
  · simp at usable
  · split at usable
    case h_1 valid =>
      rw [← Option.some.inj usable]
      exact ready_ensureIndexed valid
    case h_2 => simp at usable

/-- Finished tables are ready. -/
theorem ready_of_finish {hash : String} {compiled found : TableBundle}
    (finished : finish hash compiled = .ok found) : Ready found := by
  have valid := validate_of_finish finished
  have same := ensureIndexed_of_finish finished
  rw [← same] at valid ⊢
  exact ready_ensureIndexed valid

/-! ## What a request does -/

variable {σ : Type} {backend : Backend σ}

/-- A request is served from the memo, or from the store, or it comes to the compiler. -/
theorem tables_cases (backend : Backend σ) (rendered name : String) (state : CacheState σ) :
    (∃ found, memoized? state (contentHash rendered) name = some found ∧
      tables backend rendered name state = (.ok found, state)) ∨
    (∃ found world,
      stored? backend (contentHash rendered) name state.world = (some found, world) ∧
      tables backend rendered name state = (.ok found, ⟨state.memo.put name found, world⟩)) ∨
    ∃ world, stored? backend (contentHash rendered) name state.world = (none, world) ∧
      tables backend rendered name state =
        rebuild backend (contentHash rendered) rendered name { state with world } := by
  cases memo : memoized? state (contentHash rendered) name with
  | some found => exact .inl ⟨found, rfl, tables_of_memoized memo⟩
  | none =>
    right
    rcases stored : stored? backend (contentHash rendered) name state.world with ⟨reply, world⟩
    unfold tables
    simp only [memo, stored]
    cases reply with
    | some found => exact .inl ⟨found, world, rfl, rfl⟩
    | none => exact .inr ⟨world, rfl, rfl⟩

/-- A rebuild is refused and leaves the memo alone, or it memoizes what it finished. -/
theorem rebuild_cases (backend : Backend σ) (hash rendered name : String) (state : CacheState σ) :
    (∃ error world,
      rebuild backend hash rendered name state = (.error error, { state with world })) ∨
    ∃ compiled found world, finish hash compiled = .ok found ∧
      rebuild backend hash rendered name state =
        (.ok found, ⟨state.memo.put name found, world⟩) := by
  unfold rebuild
  rcases backend.compile rendered state.world with ⟨text | compiled, world⟩
  · exact .inl ⟨_, world, rfl⟩
  · cases finished : finish hash compiled with
    | error error =>
      simp only [finished]
      exact .inl ⟨_, world, rfl⟩
    | ok found =>
      simp only [finished]
      exact .inr ⟨compiled, found, _, finished, rfl⟩

/-- Served tables carry the digest of the grammar they were asked for, and are memoized. -/
theorem memoized_of_served {rendered name : String} {state after : CacheState σ}
    {found : TableBundle} (served : tables backend rendered name state = (.ok found, after)) :
    found.hash = contentHash rendered ∧ after.memo.get? name = some found := by
  rcases tables_cases backend rendered name state with
    ⟨kept, memo, same⟩ | ⟨kept, world, stored, same⟩ | ⟨world, -, same⟩
  · obtain ⟨rfl, rfl⟩ : kept = found ∧ state = after := by simpa [same] using served
    obtain ⟨there, current⟩ := Option.filter_eq_some_iff.mp memo
    exact ⟨by simpa using current, there⟩
  · obtain ⟨rfl, rfl⟩ : kept = found ∧ _ = after := by simpa [same] using served
    exact ⟨hash_of_stored? (congrArg Prod.fst stored), Named.get?_put_self ..⟩
  · rw [same] at served
    rcases rebuild_cases backend (contentHash rendered) rendered name { state with world } with
      ⟨error, later, refused⟩ | ⟨compiled, built, later, finished, rebuilt⟩
    · simp [refused] at served
    · obtain ⟨rfl, rfl⟩ : built = found ∧ _ = after := by simpa [rebuilt] using served
      exact ⟨hash_of_finish finished, Named.get?_put_self ..⟩

/-! ## Along all requests -/

/-- The states that a cache comes to. A new cache has memoized nothing; it is asked for tables, and
between two requests the state of what it works with may change in any way. -/
inductive Reached (backend : Backend σ) : CacheState σ → Prop
  | fresh (world : σ) : Reached backend (fresh world)
  | request {state : CacheState σ} (before : Reached backend state) (rendered name : String) :
      Reached backend (tables backend rendered name state).2
  | disturb {state : CacheState σ} (before : Reached backend state) (world : σ) :
      Reached backend { state with world }

/-- A request keeps all memoized tables ready. -/
theorem ready_of_tables {state : CacheState σ}
    (ready : ∀ name found, state.memo.get? name = some found → Ready found)
    (rendered name other : String) (found : TableBundle)
    (there : (tables backend rendered name state).2.memo.get? other = some found) :
    Ready found := by
  rcases tables_cases backend rendered name state with
    ⟨kept, -, same⟩ | ⟨kept, world, stored, same⟩ | ⟨world, -, same⟩
  · rw [same] at there
    exact ready other found there
  · rw [same] at there
    obtain ⟨record, -, usable⟩ := exists_record_of_stored? (congrArg Prod.fst stored)
    exact Named.forall_get?_put ready (ready_of_usable? usable) other found there
  · rw [same] at there
    rcases rebuild_cases backend (contentHash rendered) rendered name { state with world } with
      ⟨error, later, refused⟩ | ⟨compiled, built, later, finished, rebuilt⟩
    · rw [refused] at there
      exact ready other found there
    · rw [rebuilt] at there
      exact Named.forall_get?_put ready (ready_of_finish finished) other found there

/-- All tables ever memoized are ready. -/
theorem ready_of_reached {state : CacheState σ} (reached : Reached backend state) :
    ∀ name found, state.memo.get? name = some found → Ready found := by
  induction reached with
  | fresh world =>
    intro name found there
    simp [fresh] at there
  | request before rendered name ih => exact ready_of_tables ih rendered name
  | disturb before world ih => exact ih

/-- Served tables are current and consistent, whatever the store and the compiler answer. In every
state that a cache comes to, all memoized tables have passed their check; and tables that it serves
then carry the digest of the grammar, have passed their check, have an index that leads to their
labels, and are the ones memoized under the name afterwards. -/
theorem served_of_reached (backend : Backend σ) {state : CacheState σ}
    (reached : Reached backend state) :
    (∀ name found, state.memo.get? name = some found → found.validate = .ok ()) ∧
    ∀ rendered name found after, tables backend rendered name state = (.ok found, after) →
      found.hash = contentHash rendered ∧ found.validate = .ok () ∧
      found.labelMap.isEmpty = false ∧
      (∀ entry ∈ found.labelMap.entries, found.labels[entry.2]? = some entry.1) ∧
      after.memo.get? name = some found := by
  refine ⟨fun name found there => (ready_of_reached reached name found there).valid, ?_⟩
  intro rendered name found after served
  obtain ⟨current, there⟩ := memoized_of_served served
  have later : (tables backend rendered name state).2.memo.get? name = some found := by
    rw [served]
    exact there
  have ready := ready_of_reached (reached.request rendered name) name found later
  exact ⟨current, ready.valid, ready.indexed,
    fun entry mem => TableBundle.getElem?_of_validate ready.valid mem, there⟩

/-- A store that fails at every call, beside a compiler whose tables have no index and carry the
digest of no grammar. -/
def carelessBackend : Backend Unit where
  store := ⟨fun _ _ => (.failed, ()), fun _ _ _ => (false, ())⟩
  compile rendered _ := (CacheGroup.sampleAnswer rendered, ())

/-- A cache with a careless backend is asked for two grammars in turn under one name; to a third
request it serves tables with the digest of the grammar and an index. -/
theorem served_of_reached_careless :
    let state := (tables carelessBackend "y" "p" (tables carelessBackend "x" "p" (fresh ())).2).2
    (CacheGroup.sampleAnswer "x").map (fun compiled => (compiled.hash, compiled.labelMap.isEmpty)) =
      .ok ("", true) ∧
    ∃ found after, tables carelessBackend "x" "p" state = (.ok found, after) ∧
      found.hash = contentHash "x" ∧ found.validate = .ok () ∧
      found.labelMap.isEmpty = false ∧
      (∀ entry ∈ found.labelMap.entries, found.labels[entry.2]? = some entry.1) ∧
      after.memo.get? "p" = some found := by
  intro state
  have reached : Reached carelessBackend state :=
    ((Reached.fresh ()).request "x" "p").request "y" "p"
  have some_served : ∃ found after, tables carelessBackend "x" "p" state = (.ok found, after) := by
    rcases tables_cases carelessBackend "x" "p" state with
      ⟨found, -, served⟩ | ⟨found, world, -, served⟩ | ⟨world, -, asked⟩
    · exact ⟨found, _, served⟩
    · exact ⟨found, _, served⟩
    · obtain ⟨compiled, compiles, valid⟩ : ∃ compiled, CacheGroup.sampleAnswer "x" = .ok compiled ∧
          compiled.validate = .ok () := by
        refine ⟨_, rfl, ?_⟩
        rw [TableBundle.validate_eq_ok_iff]
        decide +kernel
      obtain ⟨found, finished, -⟩ := exists_finish sampleGrammar (contentHash "x") valid
      rw [asked]
      simp only [rebuild, carelessBackend, compiles, finished]
      exact ⟨found, _, rfl⟩
  obtain ⟨found, after, served⟩ := some_served
  exact ⟨rfl, found, after, served, (served_of_reached carelessBackend reached).2 _ _ _ _ served⟩

end TableCache

end ShaderSyntax
