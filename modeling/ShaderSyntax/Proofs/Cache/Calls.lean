import ShaderSyntax.Proofs.Cache.Consistency

/-!
# When a cache calls its compiler

What a cache asks of its backend. A backend that notes the calls made to it answers like the one it
stands for (`TableCache.tables_recording`), so the calls of a request can be read off its notes. All
that a request can do is said once, with its calls (`TableCache.Answered`); the compiler is among
them, once and with the grammar asked for, if neither the memo nor the record of the name is
current.

Histories are those of caches on one store, with requests to any of them and with changes from
outside in between (`CacheGroup.Later`). Behind a successful request the memo stays current until a
request for another grammar succeeds under the name, and a record that was kept or loaded stays
usable until it is replaced. In both cases nothing is compiled again
(`CacheGroup.compiles_when_needed`).
-/

set_option autoImplicit false

namespace ShaderSyntax

variable {σ : Type}

/-! ## Calls -/

/-- A call of a cache to its backend, with what the store answered. -/
inductive BackendCall where
  | load (name : String) (reply : StoreReply)
  | compile (rendered : String)
  | store (name text : String) (kept : Bool)
  deriving DecidableEq, Repr

/-- The grammars that calls have the compiler work on, in order. -/
def BackendCall.compiled (calls : List BackendCall) : List String :=
  calls.filterMap fun
    | .compile rendered => some rendered
    | _ => none

/-- The names under which calls have the store keep a record, in order. -/
def BackendCall.recorded (calls : List BackendCall) : List String :=
  calls.filterMap fun
    | .store name _ true => some name
    | _ => none

/-- A name is recorded by calls if one of them stored it with success. -/
theorem BackendCall.mem_recorded_iff {calls : List BackendCall} {name : String} :
    name ∈ recorded calls ↔ ∃ text, .store name text true ∈ calls := by
  unfold recorded
  rw [List.mem_filterMap]
  constructor
  · rintro ⟨call, mem, same⟩
    split at same
    case h_1 text =>
      obtain rfl := Option.some.inj same
      exact ⟨text, mem⟩
    case h_2 => simp at same
  · rintro ⟨text, mem⟩
    exact ⟨_, mem, rfl⟩

/-- The backend, with notes of the calls made to it. -/
def Backend.recording (backend : Backend σ) : Backend (σ × List BackendCall) where
  store :=
    { load := fun name world =>
        let answered := backend.store.load name world.1
        (answered.1, answered.2, world.2 ++ [.load name answered.1])
      store := fun name text world =>
        let answered := backend.store.store name text world.1
        (answered.1, answered.2, world.2 ++ [.store name text answered.1]) }
  compile rendered world :=
    let answered := backend.compile rendered world.1
    (answered.1, answered.2, world.2 ++ [.compile rendered])

namespace Backend

/-- The recording backend loads as the backend does, and notes the reply. -/
@[simp] theorem load_recording (backend : Backend σ) (name : String) (world : σ)
    (before : List BackendCall) :
    backend.recording.store.load name (world, before) =
      ((backend.store.load name world).1, (backend.store.load name world).2,
        before ++ [.load name (backend.store.load name world).1]) := rfl

/-- The recording backend compiles as the backend does, and notes the call. -/
@[simp] theorem compile_recording (backend : Backend σ) (rendered : String) (world : σ)
    (before : List BackendCall) :
    backend.recording.compile rendered (world, before) =
      ((backend.compile rendered world).1, (backend.compile rendered world).2,
        before ++ [.compile rendered]) := rfl

/-- The recording backend stores as the backend does, and notes whether it succeeded. -/
@[simp] theorem store_recording (backend : Backend σ) (name text : String) (world : σ)
    (before : List BackendCall) :
    backend.recording.store.store name text (world, before) =
      ((backend.store.store name text world).1, (backend.store.store name text world).2,
        before ++ [.store name text (backend.store.store name text world).1]) := rfl

end Backend

/-- A store keeps records by name. It gives the record that it kept last of a name, unless it fails,
and nothing but a record that it keeps changes what it has. -/
structure Backend.Keeps (backend : Backend σ) (records : σ → String → Option String) : Prop where
  load : ∀ name world, (backend.store.load name world).1 = .failed ∨
    (backend.store.load name world).1 = (records world name).elim .absent .record
  records_load : ∀ name world, records (backend.store.load name world).2 = records world
  records_compile : ∀ rendered world, records (backend.compile rendered world).2 = records world
  records_store : ∀ name text world, records (backend.store.store name text world).2 =
    if (backend.store.store name text world).1 then
      Function.update (records world) name (some text)
    else records world

/-- The store of a faithful backend keeps its records. -/
theorem Backend.Faithful.keeps {backend : Backend σ} {answer : String → Except String TableBundle}
    {records : σ → String → Option String} (faithful : backend.Faithful answer records) :
    backend.Keeps records :=
  ⟨faithful.load, faithful.records_load, faithful.records_compile, faithful.records_store⟩

namespace TableCache

/-- The calls that a request makes, in order. -/
def calls (backend : Backend σ) (rendered name : String) (state : CacheState σ) :
    List BackendCall :=
  (tables backend.recording rendered name ⟨state.memo, state.world, []⟩).2.world.2

/-- What a request can do: its answer, the state behind it, and the calls that it makes. -/
inductive Answered (backend : Backend σ) (rendered name : String) (state : CacheState σ) :
    Except CacheError TableBundle → CacheState σ → List BackendCall → Prop
  | memoized {found : TableBundle}
      (memo : memoized? state (contentHash rendered) name = some found) :
      Answered backend rendered name state (.ok found) state []
  | loaded {found : TableBundle} {text : String} {world : σ}
      (memo : memoized? state (contentHash rendered) name = none)
      (loads : backend.store.load name state.world = (.record text, world))
      (usable : usable? text = some found) (current : found.hash = contentHash rendered) :
      Answered backend rendered name state (.ok found) ⟨state.memo.put name found, world⟩
        [.load name (.record text)]
  | refused {text : String} {reply : StoreReply} {between world : σ}
      (unkept : kept? backend rendered name state = none)
      (loads : backend.store.load name state.world = (reply, between))
      (compiles : backend.compile rendered between = (.error text, world)) :
      Answered backend rendered name state (.error (.compile name text)) ⟨state.memo, world⟩
        [.load name reply, .compile rendered]
  | inconsistent {compiled : TableBundle} {fault : TableError} {reply : StoreReply}
      {between world : σ} (unkept : kept? backend rendered name state = none)
      (loads : backend.store.load name state.world = (reply, between))
      (compiles : backend.compile rendered between = (.ok compiled, world))
      (finished : finish (contentHash rendered) compiled = .error fault) :
      Answered backend rendered name state (.error (.invalid name fault)) ⟨state.memo, world⟩
        [.load name reply, .compile rendered]
  | built {compiled found : TableBundle} {reply : StoreReply} {kept : Bool}
      {between behind world : σ} (unkept : kept? backend rendered name state = none)
      (loads : backend.store.load name state.world = (reply, between))
      (compiles : backend.compile rendered between = (.ok compiled, behind))
      (finished : finish (contentHash rendered) compiled = .ok found)
      (stores : backend.store.store name found.write behind = (kept, world)) :
      Answered backend rendered name state (.ok found) ⟨state.memo.put name found, world⟩
        [.load name reply, .compile rendered, .store name found.write kept]

variable {backend : Backend σ} {rendered name : String} {state : CacheState σ}

/-- The tables of what a store answers, if they are current. -/
def current? (hash : String) : StoreReply → Option TableBundle
  | .record text => (usable? text).filter (·.hash = hash)
  | _ => none

/-- A reply is current if it is a record of a usable bundle with the wanted hash. -/
theorem current?_eq_some_iff {hash : String} {reply : StoreReply} {found : TableBundle} :
    current? hash reply = some found ↔
      ∃ text, reply = .record text ∧ usable? text = some found ∧ found.hash = hash := by
  cases reply <;> simp [current?, Option.filter_eq_some_iff]

/-- Looking for a stored bundle is loading the record and judging the reply. -/
theorem stored?_eq (backend : Backend σ) (hash name : String) (world : σ) :
    stored? backend hash name world =
      (current? hash (backend.store.load name world).1, (backend.store.load name world).2) := by
  unfold stored?
  rcases backend.store.load name world with ⟨text | _ | _, later⟩ <;> rfl

/-- What is not in the memo is served from the store, or comes to the compiler. -/
theorem tables_of_load (memo : memoized? state (contentHash rendered) name = none) :
    tables backend rendered name state =
      match current? (contentHash rendered) (backend.store.load name state.world).1 with
      | some found =>
        (.ok found, ⟨state.memo.put name found, (backend.store.load name state.world).2⟩)
      | none =>
        rebuild backend (contentHash rendered) rendered name
          ⟨state.memo, (backend.store.load name state.world).2⟩ := by
  simp only [tables, memo, stored?_eq]
  cases current? (contentHash rendered) (backend.store.load name state.world).1 <;> rfl

/-- A request does one of the things that a request can do; and with notes of the calls it does the
same, and notes the calls behind those noted before. -/
theorem exists_answered (backend : Backend σ) (rendered name : String) (state : CacheState σ) :
    ∃ answer after made, Answered backend rendered name state answer after made ∧
      tables backend rendered name state = (answer, after) ∧
      ∀ before, tables backend.recording rendered name ⟨state.memo, state.world, before⟩ =
        (answer, ⟨after.memo, after.world, before ++ made⟩) := by
  have same_memo : ∀ before, memoized? (⟨state.memo, state.world, before⟩ :
      CacheState (σ × List BackendCall)) (contentHash rendered) name =
        memoized? state (contentHash rendered) name := fun _ => rfl
  cases memo : memoized? state (contentHash rendered) name with
  | some found =>
    refine ⟨_, _, _, .memoized memo, tables_of_memoized memo, fun before => ?_⟩
    rw [tables_of_memoized ((same_memo before).trans memo), List.append_nil]
  | none =>
    have unmemoized := fun before => (same_memo before).trans memo
    simp only [tables_of_load memo, tables_of_load (unmemoized _), Backend.load_recording]
    rcases loads : backend.store.load name state.world with ⟨reply, between⟩
    cases current : current? (contentHash rendered) reply with
    | some found =>
      obtain ⟨text, rfl, usable, same_hash⟩ := current?_eq_some_iff.mp current
      exact ⟨_, _, _, .loaded memo loads usable same_hash, rfl, fun before => rfl⟩
    | none =>
      have unkept : kept? backend rendered name state = none := by
        rw [kept?, memo, Option.none_or, stored?_eq, loads, current]
      rcases compiles : backend.compile rendered between with ⟨text | compiled, behind⟩
      · refine ⟨_, _, _, .refused unkept loads compiles, ?_, fun before => ?_⟩
        all_goals simp [rebuild, compiles]
      · cases finished : finish (contentHash rendered) compiled with
        | error fault =>
          refine ⟨_, _, _, .inconsistent unkept loads compiles finished, ?_, fun before => ?_⟩
          all_goals simp [rebuild, compiles, finished]
        | ok found =>
          rcases stores : backend.store.store name found.write behind with ⟨kept, world⟩
          refine ⟨_, _, _, .built unkept loads compiles finished stores, ?_, fun before => ?_⟩
          all_goals simp [rebuild, compiles, finished, stores]

/-- A request answers, leaves a state and makes calls in one of these ways. -/
theorem answered_of_tables {answer : Except CacheError TableBundle} {after : CacheState σ}
    (served : tables backend rendered name state = (answer, after)) :
    ∃ made, calls backend rendered name state = made ∧
      Answered backend rendered name state answer after made := by
  obtain ⟨_, _, made, answered, same, noted⟩ := exists_answered backend rendered name state
  rw [served, Prod.mk.injEq] at same
  obtain ⟨rfl, rfl⟩ := same
  exact ⟨made, by rw [calls, noted, List.nil_append], answered⟩

/-- Notes of the calls change nothing else, and grow by the calls of the request. -/
theorem tables_recording (backend : Backend σ) (rendered name : String) (state : CacheState σ)
    (before : List BackendCall) :
    tables backend.recording rendered name ⟨state.memo, state.world, before⟩ =
      ((tables backend rendered name state).1, ⟨(tables backend rendered name state).2.memo,
        (tables backend rendered name state).2.world,
        before ++ calls backend rendered name state⟩) := by
  obtain ⟨answer, after, made, -, served, noted⟩ := exists_answered backend rendered name state
  rw [noted, served, calls, noted, List.nil_append]

/-! ## Calls to the compiler -/

/-- Neither the memo of a name nor its record has current tables: the memo may have others, or none;
the record may not be there or not be given, or be no record of tables, or of inconsistent ones, or
of tables for another grammar. -/
structure Uncached (backend : Backend σ) (rendered name : String) (state : CacheState σ) :
    Prop where
  memo : ∀ found, state.memo.get? name = some found → found.hash ≠ contentHash rendered
  record : ∀ record read, (backend.store.load name state.world).1 = .record record →
    TableBundle.read? record = some read → read.ensureIndexed.validate = .ok () →
    read.hash ≠ contentHash rendered

/-- Tables can be used if they are what a record reads as, indexed, and are consistent. -/
theorem usable?_eq_some_iff {record : String} {found : TableBundle} :
    usable? record = some found ↔ ∃ read, TableBundle.read? record = some read ∧
      read.ensureIndexed.validate = .ok () ∧ read.ensureIndexed = found := by
  unfold usable?
  cases TableBundle.read? record with
  | none => simp
  | some read => cases valid : read.ensureIndexed.validate <;> simp [valid]

/-- A request needs the compiler if neither the memo nor the store has its bundle. -/
theorem uncached_iff : Uncached backend rendered name state ↔
    kept? backend rendered name state = none := by
  rw [kept?_eq_none_iff, memoized?, Option.filter_eq_none_iff]
  have same_hash : ∀ read : TableBundle, read.ensureIndexed.hash = read.hash := by
    intro read
    unfold TableBundle.ensureIndexed TableBundle.indexLabels
    split <;> rfl
  constructor
  · rintro ⟨memo, record⟩
    refine ⟨by simpa using memo, ?_⟩
    intro text loads found usable
    obtain ⟨read, reads, valid, rfl⟩ := usable?_eq_some_iff.mp usable
    rw [same_hash]
    exact record text read loads reads valid
  · rintro ⟨memo, record⟩
    refine ⟨by simpa using memo, ?_⟩
    intro text read loads reads valid
    rw [← same_hash]
    exact record text loads _ (usable?_eq_some_iff.mpr ⟨read, reads, valid, rfl⟩)

/-- A request compiles once, the grammar that it is for, or not at all. -/
theorem compiled_calls (backend : Backend σ) (rendered name : String) (state : CacheState σ) :
    BackendCall.compiled (calls backend rendered name state) =
      if kept? backend rendered name state = none then [rendered] else [] := by
  rcases served : tables backend rendered name state with ⟨answer, after⟩
  obtain ⟨made, same, answered⟩ := answered_of_tables served
  rw [same]
  cases answered with
  | memoized memo => simp [BackendCall.compiled, kept?, memo]
  | loaded memo loads usable current =>
    simp [BackendCall.compiled, kept?, memo, stored?_eq, loads, current?, usable, current]
  | refused unkept loads compiles => simp [BackendCall.compiled, unkept]
  | inconsistent unkept loads compiles finished => simp [BackendCall.compiled, unkept]
  | built unkept loads compiles finished stores => simp [BackendCall.compiled, unkept]

/-- A request keeps a record under no name but its own. -/
theorem name_of_store {other text : String} {kept : Bool}
    (made : .store other text kept ∈ calls backend rendered name state) : other = name := by
  rcases served : tables backend rendered name state with ⟨answer, after⟩
  obtain ⟨calls, same, answered⟩ := answered_of_tables served
  rw [same] at made
  cases answered with
  | memoized memo => simp at made
  | loaded memo loads usable current => simp at made
  | refused unkept loads compiles => simp at made
  | inconsistent unkept loads compiles finished => simp at made
  | built unkept loads compiles finished stores =>
    obtain ⟨same_name, -⟩ : other = name ∧ _ := by simpa using made
    exact same_name

/-! ## What lasts -/

/-- Finished tables can be used from their record. -/
theorem usable?_write {hash : String} {compiled found : TableBundle}
    (finished : finish hash compiled = .ok found) (words : found.fits = true) :
    usable? found.write = some found := by
  rw [usable?, TableBundle.read?_write, if_pos words]
  simp only [ensureIndexed_of_finish finished, validate_of_finish finished]

/-- A request leaves a name's current tables in the memo, unless it gets others for the name. -/
theorem current_of_tables {other hash : String} {kept : TableBundle}
    (there : state.memo.get? other = some kept) (current : kept.hash = hash)
    (same_grammar : name = other → ∀ found,
      (tables backend rendered name state).1 = .ok found → found.hash = hash) :
    ∃ found, (tables backend rendered name state).2.memo.get? other = some found ∧
      found.hash = hash := by
  rcases served : tables backend rendered name state with ⟨answer, after⟩
  obtain ⟨made, -, answered⟩ := answered_of_tables served
  have put : ∀ {found : TableBundle}, answer = .ok found →
      ∃ later, (state.memo.put name found).get? other = some later ∧ later.hash = hash := by
    intro found gives
    by_cases same : name = other
    · subst same
      exact ⟨found, Named.get?_put_self .., same_grammar rfl found (by rw [served, gives])⟩
    · exact ⟨kept, by rw [Named.get?_put_of_ne _ _ (Ne.symm same), there], current⟩
  cases answered with
  | memoized memo => exact ⟨kept, there, current⟩
  | loaded memo loads usable fresh => exact put rfl
  | refused unkept loads compiles => exact ⟨kept, there, current⟩
  | inconsistent unkept loads compiles finished => exact ⟨kept, there, current⟩
  | built unkept loads compiles finished stores => exact put rfl

/-- A request leaves of the backend's state what each of its calls leaves. -/
theorem view_of_tables {ρ : Type} (view : σ → ρ)
    (loading : ∀ world, view (backend.store.load name world).2 = view world)
    (compiling : ∀ world, view (backend.compile rendered world).2 = view world)
    (storing : ∀ text world,
      .store name text (backend.store.store name text world).1 ∈ calls backend rendered name state →
      view (backend.store.store name text world).2 = view world) :
    view (tables backend rendered name state).2.world = view state.world := by
  rcases served : tables backend rendered name state with ⟨answer, after⟩
  obtain ⟨made, same, answered⟩ := answered_of_tables served
  rw [same] at storing
  have after_load : ∀ {reply : StoreReply} {world : σ},
      backend.store.load name state.world = (reply, world) → view world = view state.world := by
    intro reply world loads
    rw [← loading state.world, loads]
  have after_compile : ∀ {reply : Except String TableBundle} {between world : σ},
      backend.compile rendered between = (reply, world) → view world = view between := by
    intro reply between world compiles
    rw [← compiling between, compiles]
  cases answered with
  | memoized memo => rfl
  | loaded memo loads usable current => exact after_load loads
  | refused unkept loads compiles => exact (after_compile compiles).trans (after_load loads)
  | inconsistent unkept loads compiles finished =>
    exact (after_compile compiles).trans (after_load loads)
  | @built compiled found reply kept between behind world unkept loads compiles finished stores =>
    have after_store := storing found.write behind
    rw [stores] at after_store
    exact (after_store (by simp)).trans ((after_compile compiles).trans (after_load loads))

variable {records : σ → String → Option String}

/-- A request that keeps no record under a name leaves the record of this name. -/
theorem records_of_tables (keeps : backend.Keeps records) {other : String}
    (unstored : ∀ text, .store other text true ∉ calls backend rendered name state) :
    records (tables backend rendered name state).2.world other = records state.world other := by
  apply view_of_tables fun world => records world other
  · intro world
    rw [keeps.records_load]
  · intro world
    rw [keeps.records_compile]
  · intro text world made
    rw [keeps.records_store]
    split
    case isTrue kept =>
      rw [kept] at made
      have elsewhere : other ≠ name := by
        rintro rfl
        exact unstored text made
      rw [Function.update_of_ne elsewhere]
    case isFalse => rfl

/-- Behind a request whose tables were loaded, or built and kept, the record of the name is one of
these tables. -/
theorem record_of_served (keeps : backend.Keeps records) {found : TableBundle}
    (served : (tables backend rendered name state).1 = .ok found)
    (recorded :
      (∃ text, calls backend rendered name state = [.load name (.record text)]) ∨
      (found.fits = true ∧ ∃ text, .store name text true ∈ calls backend rendered name state)) :
    ∃ text, records (tables backend rendered name state).2.world name = some text ∧
      usable? text = some found ∧ found.hash = contentHash rendered := by
  rcases outcome : tables backend rendered name state with ⟨answer, after⟩
  obtain ⟨made, same, answered⟩ := answered_of_tables outcome
  rw [outcome] at served
  simp only at served
  subst served
  rw [same] at recorded
  cases answered with
  | memoized memo => simp at recorded
  | @loaded _ text world memo loads usable current =>
    refine ⟨text, ?_, usable, current⟩
    have after_load := keeps.records_load name state.world
    have given := keeps.load name state.world
    rw [loads] at after_load given
    rw [after_load]
    cases held : records state.world name <;> simp_all
  | @built compiled _ reply kept between behind world unkept loads compiles finished stores =>
    obtain ⟨words, text, stored⟩ : found.fits = true ∧ ∃ text,
        BackendCall.store name text true ∈ [.load name reply, .compile rendered,
          .store name found.write kept] := by simpa using recorded
    obtain ⟨rfl, rfl⟩ : text = found.write ∧ kept = true := by simpa using stored
    refine ⟨found.write, ?_, usable?_write finished words, hash_of_finish finished⟩
    have after_store := keeps.records_store name found.write behind
    rw [stores] at after_store
    rw [after_store, if_pos rfl, Function.update_self]

/-- Nothing is compiled where the record of the name has current tables and can be loaded. -/
theorem compiled_of_record (keeps : backend.Keeps records) {text : String} {found : TableBundle}
    (record : records state.world name = some text) (usable : usable? text = some found)
    (current : found.hash = contentHash rendered)
    (readable : (backend.store.load name state.world).1 ≠ .failed) :
    BackendCall.compiled (calls backend rendered name state) = [] := by
  have given : (backend.store.load name state.world).1 = .record text := by
    simpa [readable, record] using keeps.load name state.world
  have kept : kept? backend rendered name state ≠ none := by
    rw [kept?, stored?_eq, given]
    simp [current?, usable, current]
  rw [compiled_calls, if_neg kept]

/-- Nothing is compiled where the memo of the name is current. -/
theorem compiled_of_memo {found : TableBundle} (there : state.memo.get? name = some found)
    (current : found.hash = contentHash rendered) :
    BackendCall.compiled (calls backend rendered name state) = [] := by
  have kept : kept? backend rendered name state ≠ none := by
    rw [kept?, memoized?, there]
    simp [current]
  rw [compiled_calls, if_neg kept]

end TableCache

/-! ## Histories -/

namespace CacheGroup

variable {ι : Type} [DecidableEq ι]

/-- The calls that a request to one of several caches makes, in order. -/
def calls (backend : Backend σ) (request : TableRequest ι) (group : CacheGroup ι σ) :
    List BackendCall :=
  TableCache.calls backend request.rendered request.name (group.state request.cache)

/-- The caches at some later time. Requests have been served that were allowed when they came, and
between two of them the state of the backend may have changed in an allowed way. -/
inductive Later (backend : Backend σ) (requests : TableRequest ι → CacheGroup ι σ → Prop)
    (changes : σ → σ → Prop) (group : CacheGroup ι σ) : CacheGroup ι σ → Prop
  | now : Later backend requests changes group group
  | request {later : CacheGroup ι σ} (before : Later backend requests changes group later)
      (request : TableRequest ι) (allowed : requests request later) :
      Later backend requests changes group (later.serve backend request).2
  | change {later : CacheGroup ι σ} (before : Later backend requests changes group later)
      (world : σ) (allowed : changes later.world world) :
      Later backend requests changes group { later with world }

/-- A request to the same cache under the same name gets no tables of another grammar, if any. -/
def SameGrammar (backend : Backend σ) (first request : TableRequest ι) (group : CacheGroup ι σ) :
    Prop :=
  request.cache = first.cache → request.name = first.name → ∀ found,
    (group.serve backend request).1 = .ok found → found.hash = contentHash first.rendered

/-- A request keeps no record under a name. -/
def Unrecorded (backend : Backend σ) (name : String) (request : TableRequest ι)
    (group : CacheGroup ι σ) : Prop :=
  ∀ text, .store name text true ∉ group.calls backend request

variable {backend : Backend σ} {group later : CacheGroup ι σ} {first : TableRequest ι}

/-- Current tables stay in the memo until a request gets others. -/
theorem current_of_later {changes : σ → σ → Prop}
    (current : ∃ found, (group.memo first.cache).get? first.name = some found ∧
      found.hash = contentHash first.rendered)
    (history : Later backend (SameGrammar backend first) changes group later) :
    ∃ found, (later.memo first.cache).get? first.name = some found ∧
      found.hash = contentHash first.rendered := by
  induction history with
  | now => exact current
  | @request later before request allowed ih =>
    by_cases same : request.cache = first.cache
    · obtain ⟨kept, there, kept_current⟩ := ih
      rw [← same] at there
      change (later.state request.cache).memo.get? first.name = some kept at there
      have after := TableCache.current_of_tables there kept_current
        fun name found served => allowed same name found served
      simpa only [serve, ← same, Function.update_self] using after
    · simpa only [serve, Function.update_of_ne (Ne.symm same)] using ih
  | change before world allowed ih => exact ih

/-- A record stays until another one is kept under the name. -/
theorem record_of_later {records : σ → String → Option String} (keeps : backend.Keeps records)
    {name : String} {changes : σ → σ → Prop}
    (unchanged : ∀ before after, changes before after → records after name = records before name)
    (history : Later backend (Unrecorded backend name) changes group later) :
    records later.world name = records group.world name := by
  induction history with
  | now => rfl
  | @request later before request allowed ih =>
    rw [← ih]
    exact TableCache.records_of_tables keeps allowed
  | change before world allowed ih => rw [← ih, unchanged _ _ allowed]

/-- The compiler is called only when it is needed. A request calls it once, with the grammar asked
for, if neither the memo nor the record of the name has current tables, and otherwise not at all.
Behind a successful request, the same request to the same cache does not call it until one for
another grammar has succeeded there under the name. On a store that keeps records, if the tables
were loaded, or built and kept, the same request to any cache on the store does not call it as long
as the record has not been replaced, provided that it can be loaded. -/
theorem compiles_when_needed (backend : Backend σ) :
    (∀ rendered name (state : CacheState σ) before,
      TableCache.tables backend.recording rendered name ⟨state.memo, state.world, before⟩ =
        ((TableCache.tables backend rendered name state).1,
          ⟨(TableCache.tables backend rendered name state).2.memo,
          (TableCache.tables backend rendered name state).2.world,
          before ++ TableCache.calls backend rendered name state⟩) ∧
      (TableCache.Uncached backend rendered name state →
        BackendCall.compiled (TableCache.calls backend rendered name state) = [rendered]) ∧
      (¬TableCache.Uncached backend rendered name state →
        BackendCall.compiled (TableCache.calls backend rendered name state) = [])) ∧
    ∀ (group : CacheGroup ι σ) (first : TableRequest ι) found after,
      group.serve backend first = (.ok found, after) →
      (∀ later, Later backend (SameGrammar backend first) (fun _ _ => True) after later →
        BackendCall.compiled (later.calls backend first) = []) ∧
      ∀ records : σ → String → Option String, backend.Keeps records →
        (∃ text, group.calls backend first = [.load first.name (.record text)]) ∨
          (found.fits = true ∧ ∃ text, .store first.name text true ∈ group.calls backend first) →
        ∀ later, Later backend (Unrecorded backend first.name)
            (fun before after => records after first.name = records before first.name) after later →
          (backend.store.load first.name later.world).1 ≠ .failed →
          ∀ memo, BackendCall.compiled
            (TableCache.calls backend first.rendered first.name ⟨memo, later.world⟩) = [] := by
  refine ⟨?_, ?_⟩
  · intro rendered name state before
    refine ⟨TableCache.tables_recording backend rendered name state before, ?_, ?_⟩
    · intro uncached
      rw [TableCache.compiled_calls, if_pos (TableCache.uncached_iff.mp uncached)]
    · intro cached
      rw [TableCache.compiled_calls, if_neg]
      exact fun unkept => cached (TableCache.uncached_iff.mpr unkept)
  · intro group first found after served
    rw [serve, Prod.mk.injEq] at served
    obtain ⟨answer, rfl⟩ := served
    refine ⟨?_, ?_⟩
    · intro later history
      have memoized := TableCache.memoized_of_served (Prod.ext answer rfl)
      obtain ⟨kept, there, current⟩ := current_of_later
        ⟨found, by simpa only [Function.update_self] using memoized.2, memoized.1⟩ history
      change (later.state first.cache).memo.get? first.name = some kept at there
      exact TableCache.compiled_of_memo there current
    · intro records keeps recorded later history readable memo
      obtain ⟨text, record, usable, current⟩ :=
        TableCache.record_of_served keeps answer recorded
      have lasting : records (⟨memo, later.world⟩ : CacheState σ).world first.name = some text :=
        (record_of_later keeps (fun _ _ same => same) history).trans record
      exact TableCache.compiled_of_record keeps lasting usable current readable

/-- A store whose first call fails, beside a compiler that knows two grammars. -/
def sampleBackend : Backend (List Bool × Named String) :=
  ⟨.failing, fun rendered world => (sampleAnswer rendered, world)⟩

/-- Two new caches on that store, which has a record that is no table. -/
def sampleGroup : CacheGroup Bool (List Bool × Named String) :=
  fresh ([true], Named.empty.put "p" "[]")

/-- The record is not given, so the grammar is compiled. Behind a request for another grammar under
another name, neither the same cache nor the other one compiles it again. -/
theorem compiles_when_needed_failing :
    let first : TableRequest Bool := ⟨false, "x", "p"⟩
    TableCache.Uncached sampleBackend "x" "p" (sampleGroup.state false) ∧
    BackendCall.compiled (sampleGroup.calls sampleBackend first) = ["x"] ∧
    ∃ found after, sampleGroup.serve sampleBackend first = (.ok found, after) ∧
      found.fits = true ∧
      (∃ text, .store "p" text true ∈ sampleGroup.calls sampleBackend first) ∧
      let later := (after.serve sampleBackend ⟨true, "y", "q"⟩).2
      BackendCall.compiled (later.calls sampleBackend first) = [] ∧
      BackendCall.compiled (later.calls sampleBackend ⟨true, "x", "p"⟩) = [] := by
  intro first
  obtain ⟨one_request, histories⟩ := compiles_when_needed (ι := Bool) sampleBackend
  have keeps := (TableStore.faithful_failing sampleAnswer).keeps
  have uncached : TableCache.Uncached sampleBackend "x" "p" (sampleGroup.state false) := by
    constructor
    · intro found there
      simp [state, sampleGroup, fresh] at there
    · intro record read loads
      simp [state, sampleGroup, fresh, sampleBackend, TableStore.failing] at loads
  have served : (sampleGroup.serve sampleBackend first).1.toOption.map TableBundle.fits =
      some true := by
    decide +kernel
  obtain ⟨found, answer, words⟩ := Option.map_eq_some_iff.mp served
  have stored : ∃ text, .store "p" text true ∈ sampleGroup.calls sampleBackend first :=
    BackendCall.mem_recorded_iff.mp (by decide +kernel)
  rcases outcome : sampleGroup.serve sampleBackend first with ⟨reply, after⟩
  rw [outcome] at answer
  obtain rfl : reply = .ok found := by
    cases reply with
    | error error => simp [Except.toOption] at answer
    | ok other => simpa [Except.toOption] using answer
  obtain ⟨same_cache, any_cache⟩ := histories sampleGroup first found after outcome
  refine ⟨uncached, (one_request "x" "p" _ []).2.1 uncached, found, after, rfl, words, stored, ?_⟩
  intro later
  have elsewhere : Unrecorded sampleBackend "p" ⟨true, "y", "q"⟩ after := by
    intro text other_stored
    have same_name := TableCache.name_of_store other_stored
    simp at same_name
  have readable : (sampleBackend.store.load "p" later.world).1 ≠ .failed := by
    have same : after = (sampleGroup.serve sampleBackend first).2 := by rw [outcome]
    simp only [later, same]
    decide +kernel
  refine ⟨same_cache later (.request .now _ ?_), ?_⟩
  · intro same
    simp [first] at same
  · exact any_cache _ keeps (.inr ⟨words, stored⟩) later (.request .now _ elsewhere) readable _

end CacheGroup

end ShaderSyntax
