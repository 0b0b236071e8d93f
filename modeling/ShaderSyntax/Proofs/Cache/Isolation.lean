import ShaderSyntax.Proofs.Cache.Calls

/-!
# Requests leave one another alone

What a request does not do. One that fails keeps no record and memoizes nothing, so what could be
served before it is served behind it; and one for a name touches neither the memo nor the record of
any other name. It follows that requests under different names can be interleaved in any way: if the
compiler goes by the grammar and the store by the name, the requests of one name get the answers
that they would get without the others (`CacheGroup.requests_isolated`).

The store may fail, as long as that is a matter of the name too. So what a store has under a name is
more than the record. It is a cell that holds whatever the store goes by when it is asked for this
name (`Backend.Separate`). Two groups of caches that agree on the memo and the cell of a name answer
a request under that name alike, and agree afterwards; a request under another name leaves them in
agreement. A store that fails at any time, for reasons that lie elsewhere, changes no answer of
sound caches, so for these the names need not be apart (`CacheGroup.answersUnder_of_sound`).
-/

set_option autoImplicit false

namespace ShaderSyntax

variable {σ κ : Type}

/-- The compiler goes by the grammar, and the store by the name: a call for a name is answered from
the cell of this name, and leaves the cells of all other names as they are. -/
structure Backend.Separate (backend : Backend σ) (answer : String → Except String TableBundle)
    (cell : σ → String → κ) (loads : String → κ → StoreReply × κ)
    (stores : String → String → κ → Bool × κ) : Prop where
  compile : ∀ rendered world, (backend.compile rendered world).1 = answer rendered
  cell_compile : ∀ rendered world, cell (backend.compile rendered world).2 = cell world
  load : ∀ name world, (backend.store.load name world).1 = (loads name (cell world name)).1
  cell_load : ∀ name world, cell (backend.store.load name world).2 =
    Function.update (cell world) name (loads name (cell world name)).2
  store : ∀ name text world, (backend.store.store name text world).1 =
    (stores name text (cell world name)).1
  cell_store : ∀ name text world, cell (backend.store.store name text world).2 =
    Function.update (cell world) name (stores name text (cell world name)).2

/-- The store with a cell for each name. -/
def TableStore.ofCells (loads : String → κ → StoreReply × κ)
    (stores : String → String → κ → Bool × κ) : TableStore (String → κ) where
  load name world :=
    ((loads name (world name)).1, Function.update world name (loads name (world name)).2)
  store name text world :=
    ((stores name text (world name)).1,
      Function.update world name (stores name text (world name)).2)

/-- A store that is made of one cell for each name keeps the names apart. -/
theorem TableStore.separate_ofCells (answer : String → Except String TableBundle)
    (loads : String → κ → StoreReply × κ) (stores : String → String → κ → Bool × κ) :
    Backend.Separate ⟨ofCells loads stores, fun rendered world => (answer rendered, world)⟩ answer
      id loads stores :=
  ⟨fun _ _ => rfl, fun _ _ => rfl, fun _ _ => rfl, fun _ _ => rfl, fun _ _ _ => rfl,
    fun _ _ _ => rfl⟩

namespace TableCache

variable {backend : Backend σ} {rendered name : String} {state : CacheState σ}

/-! ## Failures -/

/-- A request that fails memoizes nothing and keeps no record. -/
theorem unchanged_of_error {error : CacheError} {after : CacheState σ}
    (failed : tables backend rendered name state = (.error error, after)) :
    after.memo = state.memo ∧
      ∀ other text kept, .store other text kept ∉ calls backend rendered name state := by
  obtain ⟨made, same, answered⟩ := answered_of_tables failed
  rw [same]
  cases answered with
  | refused unkept loads compiles => exact ⟨rfl, by simp⟩
  | inconsistent unkept loads compiles finished => exact ⟨rfl, by simp⟩

/-- Tables at hand are served without the compiler, also from another state that has the same memo
and the same records, unless the record cannot be loaded there. -/
theorem served_of_kept {records : σ → String → Option String} (keeps : backend.Keeps records)
    {found : TableBundle} (kept : kept? backend rendered name state = some found)
    {after : CacheState σ} (memo : after.memo = state.memo)
    (same_records : records after.world = records state.world)
    (readable : memoized? state (contentHash rendered) name = none →
      (backend.store.load name after.world).1 ≠ .failed) :
    (tables backend rendered name after).1 = .ok found ∧
      BackendCall.compiled (calls backend rendered name after) = [] := by
  have same_memo : memoized? after (contentHash rendered) name =
      memoized? state (contentHash rendered) name := by
    rw [memoized?, memo, memoized?]
  have still : kept? backend rendered name after = some found := by
    rw [kept?, same_memo]
    cases memoized : memoized? state (contentHash rendered) name with
    | some first =>
      rw [kept?, memoized, Option.some_or] at kept
      rw [Option.some_or, kept]
    | none =>
      rw [kept?, memoized, Option.none_or] at kept
      obtain ⟨record, given, usable⟩ := exists_record_of_stored? kept
      -- the record was given before, so it is there; and it can be loaded
      have there := keeps.load name state.world
      have there_after := keeps.load name after.world
      rw [given] at there
      rw [same_records] at there_after
      have given_after : (backend.store.load name after.world).1 = .record record := by
        cases held : records state.world name <;> simp_all
      rw [Option.none_or, stored?_eq, given_after, ← kept, stored?_eq, given]
  refine ⟨tables_of_kept still, ?_⟩
  rw [compiled_calls, if_neg (by simp [still])]

/-! ## Other names -/

/-- A request leaves the memo of every other name. -/
theorem memo_of_foreign (state : CacheState σ) {other : String} (foreign : other ≠ name) :
    (tables backend rendered name state).2.memo.get? other = state.memo.get? other := by
  rcases served : tables backend rendered name state with ⟨answer, after⟩
  obtain ⟨made, -, answered⟩ := answered_of_tables served
  cases answered with
  | memoized memo => rfl
  | loaded memo loads usable current => exact Named.get?_put_of_ne _ _ foreign
  | refused unkept loads compiles => rfl
  | inconsistent unkept loads compiles finished => rfl
  | built unkept loads compiles finished stores => exact Named.get?_put_of_ne _ _ foreign

/-- A request leaves the record of every other name. -/
theorem records_of_foreign {records : σ → String → Option String} (keeps : backend.Keeps records)
    {other : String} (foreign : other ≠ name) :
    records (tables backend rendered name state).2.world other = records state.world other := by
  apply records_of_tables keeps
  intro text stored
  exact foreign (name_of_store stored)

variable {answer : String → Except String TableBundle} {cell : σ → String → κ}
  {loads : String → κ → StoreReply × κ} {stores : String → String → κ → Bool × κ}

/-- A request leaves the cell of every other name. -/
theorem cell_of_foreign (separate : backend.Separate answer cell loads stores) {other : String}
    (foreign : other ≠ name) :
    cell (tables backend rendered name state).2.world other = cell state.world other := by
  apply view_of_tables fun world => cell world other
  · intro world
    rw [separate.cell_load, Function.update_of_ne foreign]
  · intro world
    rw [separate.cell_compile]
  · intro text world _
    rw [separate.cell_store, Function.update_of_ne foreign]

/-- States agree on the memo and the cell of a name. -/
structure Agree (cell : σ → String → κ) (name : String) (state other : CacheState σ) : Prop where
  memo : state.memo.get? name = other.memo.get? name
  cell : cell state.world name = cell other.world name

variable {other : CacheState σ}

/-- A rebuild answers the same from states that agree on its name, and leaves them so. -/
theorem rebuild_of_agree (separate : backend.Separate answer cell loads stores)
    (agree : Agree cell name state other) (hash : String) :
    (rebuild backend hash rendered name state).1 = (rebuild backend hash rendered name other).1 ∧
      Agree cell name (rebuild backend hash rendered name state).2
        (rebuild backend hash rendered name other).2 := by
  have same_reply : (backend.compile rendered state.world).1 =
      (backend.compile rendered other.world).1 := by
    rw [separate.compile, separate.compile]
  have cells : cell (backend.compile rendered state.world).2 name =
      cell (backend.compile rendered other.world).2 name := by
    rw [separate.cell_compile, separate.cell_compile, agree.cell]
  unfold rebuild
  rcases compiles : backend.compile rendered state.world with ⟨reply, world⟩
  rcases other_compiles : backend.compile rendered other.world with ⟨other_reply, other_world⟩
  rw [compiles, other_compiles] at same_reply cells
  obtain rfl : reply = other_reply := same_reply
  cases reply with
  | error text => exact ⟨rfl, agree.memo, cells⟩
  | ok compiled =>
    cases finished : finish hash compiled with
    | error fault =>
      simp only [finished]
      exact ⟨trivial, agree.memo, cells⟩
    | ok found =>
      simp only [finished]
      refine ⟨trivial, ?_, ?_⟩
      · rw [Named.get?_put_self, Named.get?_put_self]
      · simp only [separate.cell_store, Function.update_self, cells]

/-- States that agree on a name answer a request under it alike, and agree on it afterwards. -/
theorem tables_of_agree (separate : backend.Separate answer cell loads stores) (rendered : String)
    (agree : Agree cell name state other) :
    (tables backend rendered name state).1 = (tables backend rendered name other).1 ∧
      Agree cell name (tables backend rendered name state).2
        (tables backend rendered name other).2 := by
  have same_memo : memoized? other (contentHash rendered) name =
      memoized? state (contentHash rendered) name := by
    rw [memoized?, memoized?, agree.memo]
  cases memoized : memoized? state (contentHash rendered) name with
  | some found =>
    rw [tables_of_memoized memoized, tables_of_memoized (same_memo.trans memoized)]
    exact ⟨rfl, agree⟩
  | none =>
    rw [tables_of_load memoized, tables_of_load (same_memo.trans memoized)]
    have same_reply : (backend.store.load name state.world).1 =
        (backend.store.load name other.world).1 := by
      rw [separate.load, separate.load, agree.cell]
    have cells : cell (backend.store.load name state.world).2 name =
        cell (backend.store.load name other.world).2 name := by
      rw [separate.cell_load, separate.cell_load, Function.update_self, Function.update_self,
        agree.cell]
    rw [same_reply]
    cases current? (contentHash rendered) (backend.store.load name other.world).1 with
    | some found =>
      refine ⟨rfl, ?_, cells⟩
      rw [Named.get?_put_self, Named.get?_put_self]
    | none =>
      have loaded : Agree cell name ⟨state.memo, (backend.store.load name state.world).2⟩
          ⟨other.memo, (backend.store.load name other.world).2⟩ := ⟨agree.memo, cells⟩
      exact rebuild_of_agree separate loaded _

end TableCache

/-! ## Interleaved requests -/

namespace CacheGroup

variable {τ ι : Type} [DecidableEq ι]

/-- The answers to the requests under a name, in order. -/
def answersUnder {α : Type} (name : String) (requests : List (TableRequest ι))
    (answers : List α) : List α :=
  ((requests.zip answers).filter fun served => served.1.name = name).map Prod.snd

variable {backend : Backend σ} {answer : String → Except String TableBundle}
  {cell : σ → String → κ} {loads : String → κ → StoreReply × κ}
  {stores : String → String → κ → Bool × κ} {name : String}

/-- A request under a name gets the same answer from caches that agree on the name, and these agree
on it afterwards. -/
theorem serve_of_agree (separate : backend.Separate answer cell loads stores)
    {group other : CacheGroup ι σ}
    (agree : ∀ cache, TableCache.Agree cell name (group.state cache) (other.state cache))
    (request : TableRequest ι) (own : request.name = name) :
    (group.serve backend request).1 = (other.serve backend request).1 ∧
      ∀ cache, TableCache.Agree cell name ((group.serve backend request).2.state cache)
        ((other.serve backend request).2.state cache) := by
  subst own
  obtain ⟨answers, after⟩ :=
    TableCache.tables_of_agree separate request.rendered (agree request.cache)
  refine ⟨answers, fun cache => ⟨?_, after.cell⟩⟩
  by_cases same : cache = request.cache
  · subst same
    simpa only [serve, state, Function.update_self] using after.memo
  · simpa only [serve, state, Function.update_of_ne same] using (agree cache).memo

/-- A request under another name leaves caches in agreement with how they were. -/
theorem agree_of_foreign (separate : backend.Separate answer cell loads stores)
    (group : CacheGroup ι σ) (request : TableRequest ι) (foreign : request.name ≠ name) :
    ∀ cache, TableCache.Agree cell name ((group.serve backend request).2.state cache)
      (group.state cache) := by
  intro cache
  refine ⟨?_, TableCache.cell_of_foreign separate (Ne.symm foreign)⟩
  by_cases same : cache = request.cache
  · subst same
    simp only [serve, state, Function.update_self]
    exact TableCache.memo_of_foreign (group.state request.cache) (Ne.symm foreign)
  · simp only [serve, state, Function.update_of_ne same]

/-- The requests of one name get the answers that they would get without the others. -/
theorem answersUnder_serveAll (separate : backend.Separate answer cell loads stores) (name : String)
    (requests : List (TableRequest ι)) {group other : CacheGroup ι σ}
    (agree : ∀ cache, TableCache.Agree cell name (group.state cache) (other.state cache)) :
    answersUnder name requests (serveAll backend requests group) =
      serveAll backend (requests.filter fun request => request.name = name) other := by
  induction requests generalizing group other with
  | nil => rfl
  | cons request later ih =>
    rw [serveAll, answersUnder, List.zip_cons_cons, List.filter_cons, List.filter_cons]
    by_cases own : request.name = name
    · obtain ⟨answers, after⟩ := serve_of_agree separate agree request own
      simp only [own, decide_true, if_true, List.map_cons, serveAll, answers]
      congr 1
      exact ih after
    · simp only [own, decide_false, Bool.false_eq_true, if_false]
      apply ih
      intro cache
      have before := agree cache
      have after := agree_of_foreign separate group request own cache
      exact ⟨after.memo.trans before.memo, after.cell.trans before.cell⟩

omit [DecidableEq ι] in
/-- Of the answers to requests, those under a name are the answers to its requests. -/
theorem answersUnder_map {α : Type} (name : String) (requests : List (TableRequest ι))
    (answer : TableRequest ι → α) :
    answersUnder name requests (requests.map answer) =
      (requests.filter fun request => request.name = name).map answer := by
  induction requests with
  | nil => rfl
  | cons request later ih =>
    rw [List.map_cons, answersUnder, List.zip_cons_cons, List.filter_cons, List.filter_cons]
    by_cases own : request.name = name
    · simp only [own, decide_true, if_true, List.map_cons]
      congr 1
    · simp only [own, decide_false, Bool.false_eq_true, if_false]
      exact ih

/-- Sound caches give the requests of one name the answers that other sound caches, on another store
with failures of its own, give them without the others. -/
theorem answersUnder_of_sound {answer : String → Except String TableBundle}
    {records : σ → String → Option String} (faithful : backend.Faithful answer records)
    {aside : Backend τ} {aside_records : τ → String → Option String}
    (aside_faithful : aside.Faithful answer aside_records) (name : String)
    (requests : List (TableRequest ι)) {inUse : List String}
    (used : ∀ request ∈ requests, request.rendered ∈ inUse)
    (apart : ∀ a ∈ inUse, ∀ b ∈ inUse, contentHash a = contentHash b → a = b)
    {group : CacheGroup ι σ} {other : CacheGroup ι τ}
    (sound : ∀ cache, TableCache.Sound answer records inUse (group.state cache))
    (other_sound : ∀ cache, TableCache.Sound answer aside_records inUse (other.state cache)) :
    answersUnder name requests (serveAll backend requests group) =
      serveAll aside (requests.filter fun request => request.name = name) other := by
  have still_used : ∀ request ∈ requests.filter fun request => request.name = name,
      request.rendered ∈ inUse := by
    intro request mem
    exact used request (List.mem_filter.mp mem).1
  rw [serveAll_of_sound faithful apart requests used sound, answersUnder_map,
    serveAll_of_sound aside_faithful apart _ still_used other_sound]

/-- Requests leave one another alone. One that fails leaves the memo and the records as they are and
keeps nothing, so tables at hand before are served behind it without the compiler, if a record that
is needed can be loaded. One under a name leaves the memo and the record of every other name. And
where the compiler goes by the grammar, the requests under a name get the answers that they would
get if the others were left out: from any caches, if the store goes by the name even where it fails;
and from sound caches whenever the store fails, with the others or without. -/
theorem requests_isolated (backend : Backend σ) {records : σ → String → Option String}
    (keeps : backend.Keeps records) :
    (∀ rendered name state error after,
      TableCache.tables backend rendered name state = (.error error, after) →
      after.memo = state.memo ∧ records after.world = records state.world ∧
      (∀ other text kept,
        .store other text kept ∉ TableCache.calls backend rendered name state) ∧
      ∀ other_grammar other found,
        TableCache.kept? backend other_grammar other state = some found →
        (TableCache.memoized? state (contentHash other_grammar) other = none →
          (backend.store.load other after.world).1 ≠ .failed) →
        (TableCache.tables backend other_grammar other after).1 = .ok found ∧
        BackendCall.compiled (TableCache.calls backend other_grammar other after) = []) ∧
    (∀ rendered name (state : CacheState σ) other, other ≠ name →
      (TableCache.tables backend rendered name state).2.memo.get? other = state.memo.get? other ∧
      records (TableCache.tables backend rendered name state).2.world other =
        records state.world other) ∧
    (∀ (κ : Type) answer (cell : σ → String → κ) loads stores,
      backend.Separate answer cell loads stores →
      ∀ (requests : List (TableRequest ι)) group name,
        answersUnder name requests (serveAll backend requests group) =
          serveAll backend (requests.filter fun request => request.name = name) group) ∧
    ∀ answer, backend.Faithful answer records →
      ∀ (τ : Type) (aside : Backend τ) aside_records, aside.Faithful answer aside_records →
      ∀ (requests : List (TableRequest ι)) inUse,
      (∀ request ∈ requests, request.rendered ∈ inUse) →
      (∀ a ∈ inUse, ∀ b ∈ inUse, contentHash a = contentHash b → a = b) →
      ∀ (group : CacheGroup ι σ) (other : CacheGroup ι τ),
      (∀ cache, TableCache.Sound answer records inUse (group.state cache)) →
      (∀ cache, TableCache.Sound answer aside_records inUse (other.state cache)) →
      ∀ name, answersUnder name requests (serveAll backend requests group) =
        serveAll aside (requests.filter fun request => request.name = name) other := by
  refine ⟨?_, ?_, ?_, ?_⟩
  · intro rendered name state error after failed
    obtain ⟨memo, unstored⟩ := TableCache.unchanged_of_error failed
    have same_records : records after.world = records state.world := by
      funext other
      have unrecorded : ∀ text,
          .store other text true ∉ TableCache.calls backend rendered name state :=
        fun text => unstored other text true
      have kept := TableCache.records_of_tables keeps unrecorded
      rwa [failed] at kept
    refine ⟨memo, same_records, unstored, ?_⟩
    intro other_grammar other found kept readable
    exact TableCache.served_of_kept keeps kept memo same_records readable
  · intro rendered name state other foreign
    exact ⟨TableCache.memo_of_foreign state foreign, TableCache.records_of_foreign keeps foreign⟩
  · intro κ answer cell loads stores separate requests group name
    exact answersUnder_serveAll separate name requests fun cache => ⟨rfl, rfl⟩
  · intro answer faithful τ aside aside_records aside_faithful requests inUse used apart group other
      sound other_sound name
    exact answersUnder_of_sound faithful aside_faithful name requests used apart sound other_sound

/-- A store that has, for each name, a plan of the failures to come and a record. -/
def plannedStore : TableStore (String → List Bool × Option String) :=
  .ofCells
    (fun _ cell => (if cell.1.head? = some true then .failed else cell.2.elim .absent .record,
      (cell.1.tail, cell.2)))
    fun _ text cell => if cell.1.head? = some true then (false, (cell.1.tail, cell.2))
      else (true, (cell.1.tail, some text))

/-- The store whose failures are planned in advance is faithful to its records. -/
theorem faithful_plannedStore (answer : String → Except String TableBundle) :
    Backend.Faithful ⟨plannedStore, fun rendered world => (answer rendered, world)⟩ answer
      fun world name => (world name).2 where
  compile _ _ := rfl
  load name world := by
    by_cases fails : (world name).1.head? = some true
    · left
      simp [plannedStore, TableStore.ofCells, fails]
    · right
      simp [plannedStore, TableStore.ofCells, fails]
  records_load name world := by
    funext other
    by_cases same : other = name
    · subst same
      simp [plannedStore, TableStore.ofCells]
    · simp [plannedStore, TableStore.ofCells, same]
  records_compile _ _ := rfl
  records_store name text world := by
    funext other
    by_cases fails : (world name).1.head? = some true
    all_goals
      by_cases same : other = name
      · subst same
        simp [plannedStore, TableStore.ofCells, fails]
      · simp [plannedStore, TableStore.ofCells, fails, same]

/-- That store beside a compiler that knows two grammars. -/
def plannedBackend : Backend (String → List Bool × Option String) :=
  ⟨plannedStore, fun rendered world => (sampleAnswer rendered, world)⟩

/-- The first load under one name is going to fail, and the other has a record that is no table. -/
def plannedWorld : String → List Bool × Option String
  | "p" => ([true], none)
  | "q" => ([], some "[]")
  | _ => ([], none)

/-- A fresh cache over the planned world is sound, whatever names are in use. -/
theorem sound_plannedWorld (inUse : List String) :
    TableCache.Sound sampleAnswer (fun world name => (world name).2) inUse
      (TableCache.fresh plannedWorld) := by
  apply TableCache.sound_fresh
  intro rendered _ name record found kept reads
  have only : record = "[]" := by
    unfold plannedWorld at kept
    split at kept <;> simp_all
  have unreadable : TableBundle.read? "[]" = none := by decide +kernel
  rw [only, unreadable] at reads
  contradiction

/-- A grammar that the compiler does not know is asked for under one name, behind a request under
the other one, and between requests under it. -/
theorem requests_isolated_planned :
    let state := (TableCache.tables plannedBackend "x" "p" (TableCache.fresh plannedWorld)).2
    let requests : List (TableRequest Bool) :=
      [⟨false, "x", "p"⟩, ⟨true, "z", "q"⟩, ⟨true, "x", "p"⟩, ⟨false, "y", "q"⟩]
    (∃ error after found, TableCache.tables plannedBackend "z" "q" state = (.error error, after) ∧
      after.memo = state.memo ∧
      TableCache.kept? plannedBackend "x" "p" state = some found ∧
      (TableCache.tables plannedBackend "x" "p" after).1 = .ok found ∧
      BackendCall.compiled (TableCache.calls plannedBackend "x" "p" after) = []) ∧
    "p" ≠ "q" ∧
    state.memo.get? "q" = (TableCache.fresh plannedWorld).memo.get? "q" ∧
    answersUnder "p" requests (serveAll plannedBackend requests (fresh plannedWorld)) =
      serveAll plannedBackend [⟨false, "x", "p"⟩, ⟨true, "x", "p"⟩] (fresh plannedWorld) ∧
    answersUnder "p" requests (serveAll plannedBackend requests (fresh plannedWorld)) =
      serveAll ⟨.memory, fun rendered world => (sampleAnswer rendered, world)⟩
        [⟨false, "x", "p"⟩, ⟨true, "x", "p"⟩] (fresh .empty) := by
  intro state requests
  have faithful := faithful_plannedStore sampleAnswer
  obtain ⟨failures, names, interleaved, failing⟩ :=
    requests_isolated (ι := Bool) plannedBackend faithful.keeps
  have separate := TableStore.separate_ofCells (κ := List Bool × Option String) sampleAnswer
  refine ⟨?_, by decide, (names "x" "p" _ "q" (by decide)).1, ?_, ?_⟩
  · have fails : (TableCache.tables plannedBackend "z" "q" state).1.toOption.isNone = true := by
      decide +kernel
    have memoized : (TableCache.memoized? state (contentHash "x") "p").isSome = true := by
      decide +kernel
    obtain ⟨found, there⟩ := Option.isSome_iff_exists.mp memoized
    have kept : TableCache.kept? plannedBackend "x" "p" state = some found := by
      rw [TableCache.kept?, there, Option.some_or]
    rcases served : TableCache.tables plannedBackend "z" "q" state with ⟨answer, after⟩
    cases answer with
    | ok other => simp [served, Except.toOption] at fails
    | error error =>
      obtain ⟨memo, -, -, still⟩ := failures "z" "q" state error after served
      have readable : TableCache.memoized? state (contentHash "x") "p" = none →
          (plannedBackend.store.load "p" after.world).1 ≠ .failed := by
        simp [there]
      obtain ⟨same, uncompiled⟩ := still "x" "p" found kept readable
      exact ⟨error, after, found, rfl, memo, kept, same, uncompiled⟩
  · have alone := interleaved _ _ _ _ _ (separate _ _) requests (fresh plannedWorld) "p"
    simpa [requests] using alone
  · have apart : ∀ a ∈ ["x", "y", "z"], ∀ b ∈ ["x", "y", "z"],
        contentHash a = contentHash b → a = b := by
      decide +kernel
    have void_sound : TableCache.Sound sampleAnswer Named.get? ["x", "y", "z"]
        (TableCache.fresh .empty) := by
      apply TableCache.sound_fresh
      intro rendered _ name record found kept
      simp at kept
    have alone := failing _ faithful _ _ _ (TableStore.faithful_memory sampleAnswer) requests
      ["x", "y", "z"] (by simp [requests]) apart (fresh plannedWorld) (fresh .empty)
      (fun _ => sound_plannedWorld _) (fun _ => void_sound) "p"
    simpa [requests] using alone

end CacheGroup

end ShaderSyntax
