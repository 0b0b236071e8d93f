import Mathlib.Logic.Function.Basic
import ShaderSyntax.Cache.Basic
import ShaderSyntax.Proofs.Tables.Bounds
import ShaderSyntax.Proofs.Tables.RoundTrip

/-!
# Caching is transparent

Several table caches work on one store and are asked for tables, in any order and under any names.
What a cache answers comes from its memo, from a record in the store or from the compiler, and the
store may fail at every call. None of this can be seen in the answers: each of them is the one that
a new cache on an empty store gives (`serveAll_eq_fresh`).

The invariant is about the tables that are kept anywhere: those that carry the digest of a grammar
in use are what the compiler gives for that grammar, finished (`TableCache.Genuine`). A request
keeps it (`TableCache.sound_tables`), and so does a sequence of requests.
-/

set_option autoImplicit false

namespace ShaderSyntax

/-! ## Finished tables -/

namespace TableBundle

/-- Consistent tables have labels, since the symbol of the end of input has one. -/
theorem labels_ne_nil_of_validate {tables : TableBundle} (valid : tables.validate = .ok ()) :
    tables.labels ≠ [] :=
  List.ne_nil_of_length_pos (Nat.zero_lt_of_lt (consistent_of_validate valid).end_symbol)

/-- Tables with an index are left as they are. -/
theorem ensureIndexed_of_isEmpty {tables : TableBundle}
    (indexed : tables.labelMap.isEmpty = false) : tables.ensureIndexed = tables := by
  simp [ensureIndexed, indexed]

/-- Indexing leaves the labels alone. -/
theorem labels_ensureIndexed (tables : TableBundle) :
    tables.ensureIndexed.labels = tables.labels := by
  unfold ensureIndexed indexLabels
  split <;> rfl

/-- Tables with labels have an index afterwards. -/
theorem isEmpty_ensureIndexed {tables : TableBundle} (some_label : tables.labels ≠ []) :
    tables.ensureIndexed.labelMap.isEmpty = false := by
  unfold ensureIndexed indexLabels
  split
  · exact LabelMap.isEmpty_ofLabels some_label
  · simp_all

end TableBundle

namespace TableCache

/-- Finished tables are not indexed again. -/
theorem ensureIndexed_of_finish {hash : String} {compiled found : TableBundle}
    (finished : finish hash compiled = .ok found) : found.ensureIndexed = found := by
  have some_label := TableBundle.labels_ne_nil_of_validate (validate_of_finish finished)
  have made : found = { compiled.ensureIndexed with hash } := by
    rw [finish] at finished
    cases valid : ({ compiled.ensureIndexed with hash } : TableBundle).validate with
    | error fault => simp [valid, Except.map] at finished
    | ok _ => simpa [valid, Except.map] using finished.symm
  apply TableBundle.ensureIndexed_of_isEmpty
  rw [made] at some_label ⊢
  rw [TableBundle.labels_ensureIndexed] at some_label
  exact TableBundle.isEmpty_ensureIndexed some_label

/-- The record of finished tables is of use for nothing but these tables. -/
theorem eq_of_usable?_write {hash : String} {compiled found read : TableBundle}
    (finished : finish hash compiled = .ok found) (usable : usable? found.write = some read) :
    read = found := by
  rw [usable?, TableBundle.read?_write] at usable
  by_cases fits : found.fits = true
  · simpa [fits, ensureIndexed_of_finish finished, validate_of_finish finished] using usable.symm
  · simp [fits] at usable

/-- A usable record is one that reads as tables with the same digest. -/
theorem read?_of_usable? {record : String} {found : TableBundle}
    (usable : usable? record = some found) :
    ∃ read, TableBundle.read? record = some read ∧ read.hash = found.hash := by
  unfold usable? at usable
  split at usable
  · simp at usable
  case h_2 read reads =>
    refine ⟨read, reads, ?_⟩
    split at usable
    · rw [← Option.some.inj usable]
      unfold TableBundle.ensureIndexed TableBundle.indexLabels
      split <;> rfl
    · simp at usable

/-- Tables that a store serves come from a usable record that it gives. -/
theorem exists_record_of_stored? {σ : Type} {backend : Backend σ} {hash name : String} {world : σ}
    {found : TableBundle} (served : (stored? backend hash name world).1 = some found) :
    ∃ record, (backend.store.load name world).1 = .record record ∧ usable? record = some found := by
  unfold stored? at served
  split at served
  case h_1 record later loads =>
    exact ⟨record, by rw [loads], (Option.filter_eq_some_iff.mp served).1⟩
  case h_2 => simp at served

/-- What there is to answer to a request: what the compiler gives for the grammar, finished, or the
reason why there are no tables. -/
def built (answer : String → Except String TableBundle) (rendered name : String) :
    Except CacheError TableBundle :=
  match answer rendered with
  | .error text => .error (.compile name text)
  | .ok compiled =>
    match finish (contentHash rendered) compiled with
    | .error error => .error (.invalid name error)
    | .ok tables => .ok tables

end TableCache

/-! ## Backends that do what they should -/

/-- The compiler goes by the grammar alone, and the store gives the record that it kept last of a
name, unless it fails. The records are a view of the state; a failed attempt to keep one leaves them
as they are. -/
structure Backend.Faithful {σ : Type} (backend : Backend σ)
    (answer : String → Except String TableBundle) (records : σ → String → Option String) :
    Prop where
  compile : ∀ rendered world, (backend.compile rendered world).1 = answer rendered
  records_compile : ∀ rendered world, records (backend.compile rendered world).2 = records world
  load : ∀ name world, (backend.store.load name world).1 = .failed ∨
    (backend.store.load name world).1 = (records world name).elim .absent .record
  records_load : ∀ name world, records (backend.store.load name world).2 = records world
  records_store : ∀ name text world, records (backend.store.store name text world).2 =
    if (backend.store.store name text world).1 then
      Function.update (records world) name (some text)
    else records world

/-- The store in memory does what it should, with any compiler that goes by the grammar alone. -/
theorem TableStore.faithful_memory (answer : String → Except String TableBundle) :
    Backend.Faithful ⟨memory, fun rendered world => (answer rendered, world)⟩ answer
      Named.get? where
  compile _ _ := rfl
  records_compile _ _ := rfl
  load name records := by
    right
    cases kept : records.get? name <;> simp [memory, kept]
  records_load _ _ := rfl
  records_store name text records := by
    funext other
    by_cases same : other = name
    · simp [memory, same]
    · simp [memory, same, Named.get?_put_of_ne]

/-- A store in memory with a plan of its failures: the next call fails if the plan says so. -/
def TableStore.failing : TableStore (List Bool × Named String) where
  load name world :=
    (if world.1.head? = some true then .failed else (memory.load name world.2).1,
      (world.1.tail, world.2))
  store name text world :=
    if world.1.head? = some true then (false, (world.1.tail, world.2))
    else (true, (world.1.tail, world.2.put name text))

/-- A store that fails by a plan still does what it should. -/
theorem TableStore.faithful_failing (answer : String → Except String TableBundle) :
    Backend.Faithful ⟨failing, fun rendered world => (answer rendered, world)⟩ answer
      (fun world => world.2.get?) where
  compile _ _ := rfl
  records_compile _ _ := rfl
  load name world := by
    by_cases fails : world.1.head? = some true
    · left
      simp [failing, fails]
    · right
      cases kept : world.2.get? name <;> simp [failing, memory, fails, kept]
  records_load _ _ := rfl
  records_store name text world := by
    by_cases fails : world.1.head? = some true
    · simp [failing, fails]
    · funext other
      by_cases same : other = name
      · simp [failing, fails, same]
      · simp [failing, fails, same, Named.get?_put_of_ne]

/-! ## One request -/

namespace TableCache

variable {σ : Type} {backend : Backend σ} {answer : String → Except String TableBundle}
  {records : σ → String → Option String} {inUse : List String}

/-- Tables are genuine if they are the finished ones of every grammar in use whose digest they
carry. -/
def Genuine (answer : String → Except String TableBundle) (inUse : List String)
    (found : TableBundle) : Prop :=
  ∀ rendered ∈ inUse, found.hash = contentHash rendered →
    ∃ compiled, answer rendered = .ok compiled ∧ finish (contentHash rendered) compiled = .ok found

/-- All tables in a cache's memo and all usable records of its store are genuine. -/
structure Sound (answer : String → Except String TableBundle)
    (records : σ → String → Option String) (inUse : List String) (state : CacheState σ) :
    Prop where
  memo : ∀ name found, state.memo.get? name = some found → Genuine answer inUse found
  kept : ∀ name record found, records state.world name = some record →
    usable? record = some found → Genuine answer inUse found

/-- Genuine tables that are current are the answer. -/
theorem Genuine.built_eq {found : TableBundle} (genuine : Genuine answer inUse found)
    {rendered : String} (name : String) (used : rendered ∈ inUse)
    (current : found.hash = contentHash rendered) : built answer rendered name = .ok found := by
  obtain ⟨compiled, compiles, finished⟩ := genuine rendered used current
  simp only [built, compiles, finished]

/-- Finished tables are genuine, since no two grammars in use share a digest. -/
theorem genuine_of_finish
    (apart : ∀ a ∈ inUse, ∀ b ∈ inUse, contentHash a = contentHash b → a = b)
    {rendered : String} (used : rendered ∈ inUse) {compiled found : TableBundle}
    (compiles : answer rendered = .ok compiled)
    (finished : finish (contentHash rendered) compiled = .ok found) :
    Genuine answer inUse found := by
  intro other other_used current
  have same : rendered = other :=
    apart rendered used other other_used (hash_of_finish finished ▸ current)
  exact ⟨compiled, same ▸ compiles, same ▸ finished⟩

/-- Tables that a faithful store serves come from one of its records. -/
theorem exists_of_stored? (faithful : backend.Faithful answer records) {hash name : String}
    {world : σ} {found : TableBundle}
    (served : (stored? backend hash name world).1 = some found) :
    ∃ record, records world name = some record ∧ usable? record = some found := by
  obtain ⟨record, loaded, usable⟩ := exists_record_of_stored? served
  refine ⟨record, ?_, usable⟩
  have reply := faithful.load name world
  rw [loaded] at reply
  cases kept : records world name with
  | none => simp [kept] at reply
  | some text =>
    have same : record = text := by simpa [kept] using reply
    rw [same]

/-- Asking a faithful store leaves its records alone. -/
theorem records_stored? (faithful : backend.Faithful answer records) (hash name : String)
    (world : σ) : records (stored? backend hash name world).2 = records world := by
  rw [← faithful.records_load name world]
  unfold stored?
  split <;> simp_all

/-- Building gives the answer, and what it keeps is genuine. -/
theorem sound_rebuild (faithful : backend.Faithful answer records)
    (apart : ∀ a ∈ inUse, ∀ b ∈ inUse, contentHash a = contentHash b → a = b)
    {rendered : String} (name : String) (used : rendered ∈ inUse) {state : CacheState σ}
    (sound : Sound answer records inUse state) :
    (rebuild backend (contentHash rendered) rendered name state).1 = built answer rendered name ∧
      Sound answer records inUse
        (rebuild backend (contentHash rendered) rendered name state).2 := by
  have answers := faithful.compile rendered state.world
  have same_records := faithful.records_compile rendered state.world
  unfold rebuild built
  rcases compiles : backend.compile rendered state.world with ⟨outcome, world⟩
  simp only [compiles] at answers same_records
  rw [← answers]
  cases outcome with
  | error text =>
    refine ⟨rfl, sound.memo, ?_⟩
    simpa only [same_records] using sound.kept
  | ok compiled =>
    cases finished : finish (contentHash rendered) compiled with
    | error fault =>
      refine ⟨by simp only [finished], ?_, ?_⟩
      · simpa only [finished] using sound.memo
      · simpa only [finished, same_records] using sound.kept
    | ok found =>
      have genuine : Genuine answer inUse found :=
        genuine_of_finish apart used answers.symm finished
      simp only [finished]
      refine ⟨trivial, Named.forall_get?_put sound.memo genuine, ?_⟩
      intro other record read kept usable
      rw [faithful.records_store, same_records] at kept
      -- The record is either the one just kept or one that was there before.
      split at kept
      · by_cases same : other = name
        · subst same
          rw [Function.update_self] at kept
          rw [← Option.some.inj kept] at usable
          exact eq_of_usable?_write finished usable ▸ genuine
        · rw [Function.update_of_ne same] at kept
          exact sound.kept other record read kept usable
      · exact sound.kept other record read kept usable

/-- A request to a cache gives the answer, and the cache is sound afterwards. -/
theorem sound_tables (faithful : backend.Faithful answer records)
    (apart : ∀ a ∈ inUse, ∀ b ∈ inUse, contentHash a = contentHash b → a = b)
    {rendered : String} (name : String) (used : rendered ∈ inUse) {state : CacheState σ}
    (sound : Sound answer records inUse state) :
    (tables backend rendered name state).1 = built answer rendered name ∧
      Sound answer records inUse (tables backend rendered name state).2 := by
  cases memoized : memoized? state (contentHash rendered) name with
  | some found =>
    rw [tables_of_memoized memoized]
    obtain ⟨there, current⟩ := Option.filter_eq_some_iff.mp memoized
    have genuine := sound.memo name found there
    exact ⟨(genuine.built_eq name used (by simpa using current)).symm, sound⟩
  | none =>
    have same_records := records_stored? faithful (contentHash rendered) name state.world
    rcases served : stored? backend (contentHash rendered) name state.world with ⟨reply, world⟩
    simp only [served] at same_records
    unfold tables
    simp only [memoized, served]
    cases reply with
    | some found =>
      have from_store : (stored? backend (contentHash rendered) name state.world).1 =
          some found := by rw [served]
      obtain ⟨record, kept, usable⟩ := exists_of_stored? faithful from_store
      have genuine := sound.kept name record found kept usable
      have current := hash_of_stored? from_store
      have built := genuine.built_eq name used current
      refine ⟨built.symm, Named.forall_get?_put sound.memo genuine, ?_⟩
      simpa only [same_records] using sound.kept
    | none =>
      apply sound_rebuild faithful apart name used
      exact ⟨sound.memo, by simpa only [same_records] using sound.kept⟩

/-- A new cache is sound on a store where no record carries the digest of a grammar in use. -/
theorem sound_fresh {world : σ}
    (foreign : ∀ rendered ∈ inUse, ∀ name record found, records world name = some record →
      TableBundle.read? record = some found → found.hash ≠ contentHash rendered) :
    Sound answer records inUse (fresh world) := by
  refine ⟨?_, ?_⟩
  · intro name found there
    simp [fresh] at there
  · intro name record found kept usable rendered used current
    obtain ⟨read, reads, same_hash⟩ := read?_of_usable? usable
    exact absurd (same_hash.trans current) (foreign rendered used name record read kept reads)

end TableCache

/-! ## Many requests to many caches -/

/-- A request for tables, and the cache it goes to. -/
structure TableRequest (ι : Type) where
  cache : ι
  rendered : String
  name : String

/-- Caches that work on one store: the memo of each, and the state they have in common. -/
structure CacheGroup (ι σ : Type) where
  memo : ι → Named TableBundle
  world : σ

namespace CacheGroup

variable {ι σ τ : Type} [DecidableEq ι]

/-- New caches. -/
def fresh (world : σ) : CacheGroup ι σ := ⟨fun _ => .empty, world⟩

/-- The state of one of the caches. -/
def state (group : CacheGroup ι σ) (cache : ι) : CacheState σ := ⟨group.memo cache, group.world⟩

/-- The answer to a request, and the caches after it. -/
def serve (backend : Backend σ) (request : TableRequest ι) (group : CacheGroup ι σ) :
    Except CacheError TableBundle × CacheGroup ι σ :=
  let served := TableCache.tables backend request.rendered request.name (group.state request.cache)
  (served.1, ⟨Function.update group.memo request.cache served.2.memo, served.2.world⟩)

/-- The answers to requests that come one after the other. -/
def serveAll (backend : Backend σ) :
    List (TableRequest ι) → CacheGroup ι σ → List (Except CacheError TableBundle)
  | [], _ => []
  | request :: later, group =>
    let served := group.serve backend request
    served.1 :: serveAll backend later served.2

variable {backend : Backend σ} {answer : String → Except String TableBundle}
  {records : σ → String → Option String} {inUse : List String}

/-- A request to one of several sound caches gives the answer, and all of them are sound
afterwards. -/
theorem sound_serve (faithful : backend.Faithful answer records)
    (apart : ∀ a ∈ inUse, ∀ b ∈ inUse, contentHash a = contentHash b → a = b)
    {request : TableRequest ι} (used : request.rendered ∈ inUse) {group : CacheGroup ι σ}
    (sound : ∀ cache, TableCache.Sound answer records inUse (group.state cache)) :
    (group.serve backend request).1 = TableCache.built answer request.rendered request.name ∧
      ∀ cache, TableCache.Sound answer records inUse
        ((group.serve backend request).2.state cache) := by
  obtain ⟨answered, after⟩ :=
    TableCache.sound_tables faithful apart request.name used (sound request.cache)
  refine ⟨answered, fun cache => ⟨?_, after.kept⟩⟩
  intro name found there
  by_cases same : cache = request.cache
  · subst same
    simp only [serve, state, Function.update_self] at there
    exact after.memo name found there
  · simp only [serve, state, Function.update_of_ne same] at there
    exact (sound cache).memo name found there

/-- Sound caches give the answer to each of a sequence of requests. -/
theorem serveAll_of_sound (faithful : backend.Faithful answer records)
    (apart : ∀ a ∈ inUse, ∀ b ∈ inUse, contentHash a = contentHash b → a = b)
    (requests : List (TableRequest ι)) (used : ∀ request ∈ requests, request.rendered ∈ inUse)
    {group : CacheGroup ι σ}
    (sound : ∀ cache, TableCache.Sound answer records inUse (group.state cache)) :
    serveAll backend requests group = requests.map fun request =>
      TableCache.built answer request.rendered request.name := by
  induction requests generalizing group with
  | nil => rfl
  | cons request later ih =>
    obtain ⟨answered, after⟩ := sound_serve faithful apart (used request (by simp)) sound
    rw [serveAll, List.map_cons, answered]
    congr 1
    exact ih (fun other mem => used other (List.mem_cons_of_mem _ mem)) after

/-- Caching is transparent. Whatever faithful backend new caches share, whatever they are asked for
in whatever order, each answer is the one that a new cache on an empty store gives: the finished
tables of the grammar, or the reason why there are none. The store may hold any records to begin
with, except tables that carry the digest of a requested grammar. -/
theorem serveAll_eq_fresh {backend : Backend σ} {other : Backend τ}
    {answer : String → Except String TableBundle} {records : σ → String → Option String}
    {otherRecords : τ → String → Option String} (faithful : backend.Faithful answer records)
    (other_faithful : other.Faithful answer otherRecords) (requests : List (TableRequest ι))
    (apart : ∀ a ∈ requests, ∀ b ∈ requests,
      contentHash a.rendered = contentHash b.rendered → a.rendered = b.rendered)
    {world : σ} (foreign : ∀ request ∈ requests, ∀ name record found,
      records world name = some record → TableBundle.read? record = some found →
        found.hash ≠ contentHash request.rendered)
    {void : τ} (empty : ∀ name, otherRecords void name = none) :
    (serveAll backend requests (fresh world) = requests.map fun request =>
      (TableCache.tables other request.rendered request.name (TableCache.fresh void)).1) ∧
    serveAll backend requests (fresh world) = requests.map fun request =>
      TableCache.built answer request.rendered request.name := by
  have shared : serveAll backend requests (fresh world) = requests.map fun request =>
      TableCache.built answer request.rendered request.name := by
    have sound : ∀ cache, TableCache.Sound answer records (requests.map (·.rendered))
        ((fresh world : CacheGroup ι σ).state cache) := by
      intro cache
      apply TableCache.sound_fresh
      intro rendered used
      obtain ⟨request, mem, rfl⟩ := List.mem_map.mp used
      exact foreign request mem
    apply serveAll_of_sound faithful _ requests _ sound
    · simpa using apart
    · intro request mem
      exact List.mem_map_of_mem mem
  refine ⟨?_, shared⟩
  rw [shared]
  apply List.map_congr_left
  intro request _
  have sound : TableCache.Sound answer otherRecords [request.rendered] (TableCache.fresh void) := by
    apply TableCache.sound_fresh
    simp [empty]
  have used : request.rendered ∈ [request.rendered] := by simp
  have alone := TableCache.sound_tables other_faithful (by simp) request.name used sound
  exact alone.1.symm

/-- A compiler that knows two grammars and makes tables with one state of them. -/
def sampleAnswer (rendered : String) : Except String TableBundle :=
  if rendered = "x" ∨ rendered = "y" then
    .ok { productions := [⟨0, 1⟩], actions := [[(1, .shift 0), (2, .reduce 0)]],
          gotos := [[(0, 0)]], defaults := [none], labels := ["start", rendered, "end"],
          labelMap := .empty, endSymbol := 2, errorSymbol := 1, skipSymbol := none,
          records := [], hash := "" }
  else .error "unknown grammar"

/-- Two caches are asked for two grammars in turn, under one name, while every other call of the
store fails and a record that is no table lies in it from the start. -/
theorem serveAll_two_caches :
    let requests : List (TableRequest Bool) :=
      [⟨false, "x", "p"⟩, ⟨true, "y", "p"⟩, ⟨false, "x", "p"⟩, ⟨true, "z", "p"⟩, ⟨true, "x", "p"⟩]
    let world := ([true, false, false, true, true], (Named.empty.put "p" "[]"))
    contentHash "x" ≠ contentHash "y" ∧
    serveAll ⟨.failing, fun rendered world => (sampleAnswer rendered, world)⟩ requests
        (fresh world) = requests.map fun request =>
      (TableCache.tables ⟨.memory, fun rendered world => (sampleAnswer rendered, world)⟩
        request.rendered request.name (TableCache.fresh .empty)).1 := by
  intro requests world
  have distinct_xy : contentHash "x" ≠ contentHash "y" := by decide +kernel
  have distinct_xz : contentHash "x" ≠ contentHash "z" := by decide +kernel
  have distinct_yz : contentHash "y" ≠ contentHash "z" := by decide +kernel
  refine ⟨distinct_xy, (serveAll_eq_fresh (TableStore.faithful_failing sampleAnswer)
    (TableStore.faithful_memory sampleAnswer) requests ?_ ?_ ?_).1⟩
  · simp [requests, distinct_xy, distinct_xz, distinct_yz, distinct_xy.symm, distinct_xz.symm,
      distinct_yz.symm]
  · intro request _ name record found kept reads
    have unreadable : TableBundle.read? "[]" = none := by decide +kernel
    by_cases same : name = "p"
    · subst same
      rw [Named.get?_put_self] at kept
      rw [← Option.some.inj kept, unreadable] at reads
      simp at reads
    · rw [Named.get?_put_of_ne _ _ same] at kept
      simp at kept
  · intro name
    rfl

end CacheGroup

end ShaderSyntax
