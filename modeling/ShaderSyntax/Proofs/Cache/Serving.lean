import ShaderSyntax.Proofs.Cache.Transparency

/-!
# When a cache serves a parser

A request for a parser goes by the tables that the cache keeps, in its memo or as a record of the
store, as long as they are current; else the compiler is asked. Whether kept tables are current and
consistent is settled before they are taken, but whether the actions of the grammar bind to them
only afterwards. So with a compiler that answers well, a request is refused in one case: the tables
kept are current, and the actions do not bind to them (`TableCache.serves_parser_iff`). A record
that does not read, or whose tables are inconsistent or not current, is no obstacle: it is replaced
by a rebuilt one. Tables to which nothing binds are not rebuilt
(`TableCache.unbound_record_blocks`).
-/

set_option autoImplicit false

namespace ShaderSyntax

/-! ## Finishing consistent tables -/

namespace LabelMap

/-- What is in the list after an insertion was in it, or was inserted. -/
theorem eq_or_mem_of_mem_insertSorted {label : String} {symbol : Nat}
    {entries : List (String × Nat)} {entry : String × Nat}
    (h : entry ∈ insertSorted label symbol entries) :
    entry = (label, symbol) ∨ entry ∈ entries := by
  induction entries with
  | nil => simpa [insertSorted] using h
  | cons first rest ih =>
    rw [insertSorted] at h
    split at h
    · simpa using h
    · split at h
      · rcases List.mem_cons.mp h with rfl | h
        · exact .inr List.mem_cons_self
        · exact (ih h).imp_right (List.mem_cons_of_mem _)
      · rcases List.mem_cons.mp h with rfl | h
        · exact .inl rfl
        · exact .inr (List.mem_cons_of_mem _ h)

/-- An entry after a new label is inserted is the new one or was there before. -/
theorem eq_or_mem_of_mem_insertNew {map : LabelMap} {label : String} {symbol : Nat}
    {entry : String × Nat} (h : entry ∈ (map.insertNew label symbol).entries) :
    entry = (label, symbol) ∨ entry ∈ map.entries := by
  unfold insertNew at h
  split at h
  · exact .inr h
  · exact eq_or_mem_of_mem_insertSorted h

/-- The index of labels leads to the labels. -/
theorem getElem?_of_mem_ofLabels {labels : List String} {entry : String × Nat}
    (h : entry ∈ (ofLabels labels).entries) : labels[entry.2]? = some entry.1 := by
  have kept : ∀ (pairs : List (String × Nat)) (map : LabelMap),
      (∀ pair ∈ pairs, labels[pair.2]? = some pair.1) →
      (∀ entry ∈ map.entries, labels[entry.2]? = some entry.1) →
      ∀ entry ∈ (pairs.foldl (fun map label => map.insertNew label.1 label.2) map).entries,
        labels[entry.2]? = some entry.1 := by
    intro pairs
    induction pairs with
    | nil => exact fun map _ good => good
    | cons pair pairs ih =>
      intro map places good
      refine ih _ (fun other mem => places other (List.mem_cons_of_mem _ mem)) ?_
      intro entry mem
      rcases eq_or_mem_of_mem_insertNew mem with rfl | mem
      · exact places pair List.mem_cons_self
      · exact good entry mem
  refine kept labels.zipIdx empty ?_ nofun entry h
  intro pair mem
  exact List.mem_zipIdx_iff_getElem?.mp mem

end LabelMap

namespace TableBundle

/-- Consistent tables without an index are consistent with one. -/
theorem validate_ensureIndexed {tables : TableBundle} (valid : tables.validate = .ok ()) :
    tables.ensureIndexed.validate = .ok () := by
  unfold ensureIndexed
  split
  case isFalse => exact valid
  case isTrue =>
    apply validate_of_consistent
    exact { consistent_of_validate valid with
      label_map := fun _ mem =>
        List.getElem?_eq_some_iff.mp (LabelMap.getElem?_of_mem_ofLabels mem) }

/-- Indexing leaves the production records alone. -/
theorem records_ensureIndexed (tables : TableBundle) :
    tables.ensureIndexed.records = tables.records := by
  unfold ensureIndexed indexLabels
  split <;> rfl

end TableBundle

/-- Binding goes by the production records alone. -/
theorem Grammar.bind_congr {C V : Type} (grammar : Grammar C V) {first second : TableBundle}
    (same : first.records = second.records) : grammar.bind first = grammar.bind second := by
  unfold Grammar.bind
  rw [same]

namespace TableCache

/-- Consistent tables can be finished, and bind as they did. -/
theorem exists_finish {C V : Type} (grammar : Grammar C V) {compiled : TableBundle} (hash : String)
    (valid : compiled.validate = .ok ()) :
    ∃ tables, finish hash compiled = .ok tables ∧ grammar.bind tables = grammar.bind compiled := by
  refine ⟨{ compiled.ensureIndexed with hash }, ?_, ?_⟩
  · have indexed : ({ compiled.ensureIndexed with hash } : TableBundle).validate = .ok () :=
      TableBundle.validate_ensureIndexed valid
    simp only [finish, indexed, Except.map]
  · exact grammar.bind_congr compiled.records_ensureIndexed

/-! ## Kept tables -/

variable {σ : Type} {backend : Backend σ} {rendered name : String} {state : CacheState σ}

/-- The tables that a request meets before it comes to the compiler, if they are current: those in
the memo, or else those of the record in the store. -/
def kept? (backend : Backend σ) (rendered name : String) (state : CacheState σ) :
    Option TableBundle :=
  (memoized? state (contentHash rendered) name).or
    (stored? backend (contentHash rendered) name state.world).1

/-- Kept tables are served as they are. -/
theorem tables_of_kept {found : TableBundle}
    (kept : kept? backend rendered name state = some found) :
    (tables backend rendered name state).1 = .ok found := by
  unfold kept? at kept
  cases memo : memoized? state (contentHash rendered) name with
  | some first =>
    rw [memo, Option.some_or, Option.some.injEq] at kept
    rw [tables_of_memoized memo, kept]
  | none =>
    rw [memo, Option.none_or] at kept
    cases stored : stored? backend (contentHash rendered) name state.world with
    | mk record world =>
      rw [stored] at kept
      change record = some found at kept
      simp only [tables, memo, stored, kept]

/-- Without kept tables the compiler is asked, behind one question to the store. -/
theorem tables_of_not_kept (kept : kept? backend rendered name state = none) :
    tables backend rendered name state =
      rebuild backend (contentHash rendered) rendered name
        { state with world := (backend.store.load name state.world).2 } := by
  obtain ⟨memo, stored⟩ := Option.or_eq_none_iff.mp kept
  have world : (stored? backend (contentHash rendered) name state.world).2 =
      (backend.store.load name state.world).2 := by
    unfold stored?
    split
    case h_1 same => rw [same]
    case h_2 same => rw [same]
  cases found : stored? backend (contentHash rendered) name state.world with
  | mk record later =>
    rw [found] at stored world
    change record = none at stored
    change later = _ at world
    simp only [tables, memo, found, stored, world]

/-- No tables are kept when those in the memo are not current and neither are those of the record,
which may also be missing or of no use. -/
theorem kept?_eq_none_iff :
    kept? backend rendered name state = none ↔
      memoized? state (contentHash rendered) name = none ∧
      ∀ record, (backend.store.load name state.world).1 = .record record →
        ∀ found, usable? record = some found → found.hash ≠ contentHash rendered := by
  unfold kept?
  rw [Option.or_eq_none_iff, stored?]
  refine and_congr_right fun _ => ?_
  cases loaded : backend.store.load name state.world with
  | mk reply world =>
    cases reply with
    | record text => simp [Option.filter_eq_none_iff]
    | absent => simp
    | failed => simp

/-- A grammar whose actions bind to served tables gets its parser. -/
theorem parser_of_tables {C V : Type} {grammar : Grammar C V} {found : TableBundle}
    (served : (tables backend grammar.render name state).1 = .ok found) (options : EngineOptions)
    (lexer : Lexer) :
    parser backend options lexer grammar name state =
      (match grammar.bind found with
        | .error error => .error (.bind error)
        | .ok actions => .ok { lexer, tables := found, actions, options },
      (tables backend grammar.render name state).2) := by
  unfold parser
  cases asked : tables backend grammar.render name state with
  | mk outcome after =>
    rw [asked] at served
    change outcome = .ok found at served
    subst served
    cases bound : grammar.bind found <;> simp only [bound]

/-- With a compiler that answers well, a parser is served unless tables are kept to which the
actions do not bind. Without kept tables, whatever the store holds instead is replaced. -/
theorem serves_parser_iff {C V : Type} (backend : Backend σ) (options : EngineOptions)
    (lexer : Lexer) (grammar : Grammar C V) (name : String) (state : CacheState σ)
    (compiled : TableBundle) (actions : List (Option (SemanticAction C V)))
    (answers : (backend.compile grammar.render
      (backend.store.load name state.world).2).1 = .ok compiled)
    (valid : compiled.validate = .ok ()) (binds : grammar.bind compiled = .ok actions) :
    ((∃ engine, (parser backend options lexer grammar name state).1 = .ok engine) ↔
      ∀ found, kept? backend grammar.render name state = some found →
        ∃ bound, grammar.bind found = .ok bound) ∧
    (memoized? state (contentHash grammar.render) name = none →
      (∀ record, (backend.store.load name state.world).1 = .record record →
        ∀ found, usable? record = some found → found.hash ≠ contentHash grammar.render) →
      ∃ tables world, finish (contentHash grammar.render) compiled = .ok tables ∧
        parser backend options lexer grammar name state =
          (.ok { lexer, tables, actions, options },
            ⟨state.memo.put name tables, (backend.store.store name tables.write world).2⟩)) := by
  obtain ⟨tables, finished, same⟩ :=
    exists_finish grammar (contentHash grammar.render) valid
  have rebuilt : kept? backend grammar.render name state = none → ∃ world,
      parser backend options lexer grammar name state =
        (.ok { lexer, tables, actions, options },
          ⟨state.memo.put name tables, (backend.store.store name tables.write world).2⟩) := by
    intro none_kept
    refine ⟨(backend.compile grammar.render (backend.store.load name state.world).2).2, ?_⟩
    have served := tables_of_not_kept none_kept
    unfold rebuild at served
    cases asked : backend.compile grammar.render (backend.store.load name state.world).2 with
    | mk answer world =>
      rw [asked] at answers
      simp only at answers
      simp only [asked, answers, finished] at served
      rw [parser_of_tables (congrArg Prod.fst served), served, same, binds]
  refine ⟨?_, fun memo record => ?_⟩
  · constructor
    · rintro ⟨engine, served⟩ found kept
      rw [parser_of_tables (tables_of_kept kept)] at served
      cases bound : grammar.bind found with
      | error error => simp [bound] at served
      | ok found => exact ⟨found, rfl⟩
    · intro usable
      cases kept : kept? backend grammar.render name state with
      | none =>
        obtain ⟨world, served⟩ := rebuilt kept
        exact ⟨_, congrArg Prod.fst served⟩
      | some found =>
        obtain ⟨bound, done⟩ := usable found kept
        rw [parser_of_tables (tables_of_kept kept), done]
        exact ⟨_, rfl⟩
  · obtain ⟨world, served⟩ := rebuilt (kept?_eq_none_iff.mpr ⟨memo, record⟩)
    exact ⟨tables, world, finished, served⟩

/-- A grammar with one rule. -/
def sampleGrammar : Grammar Unit Unit :=
  { tokens := ["x"], precedence := [], rules := [⟨"start : x", none⟩] }

/-- Tables of the sample grammar; `marker` is the marker of its one production. -/
def sampleTables (marker : String) : TableBundle :=
  { productions := [⟨0, 1⟩, ⟨1, 1⟩], actions := [[(2, .shift 2)], [(3, .reduce 0)], []],
    gotos := [[(1, 1)], [], []], defaults := [none, none, some (.reduce 1)],
    labels := ["goal", "start", "x", "end"],
    labelMap := LabelMap.ofLabels ["goal", "start", "x", "end"], endSymbol := 3, errorSymbol := 0,
    skipSymbol := none, records := [⟨0, 0, [1], ""⟩, ⟨1, 1, [2], marker⟩], hash := "" }

/-- A store in memory, beside a compiler that makes good tables. -/
def sampleBackend : Backend (Named String) :=
  ⟨.memory, fun _ records => (.ok (sampleTables "_0"), records)⟩

/-- A new cache meets a record that is no table, and puts rebuilt tables in its place. -/
theorem serves_parser_unreadable :
    let state : CacheState (Named String) := fresh (Named.empty.put "p" "[]")
    (sampleTables "_0").validate = .ok () ∧
    sampleGrammar.bind (sampleTables "_0") = .ok [none, none] ∧
    (TableBundle.read? "[]").isNone ∧
    ∃ tables world, finish (contentHash sampleGrammar.render) (sampleTables "_0") = .ok tables ∧
      parser sampleBackend .standard ⟨[]⟩ sampleGrammar "p" state =
        (.ok { lexer := ⟨[]⟩, tables, actions := [none, none], options := .standard },
          ⟨state.memo.put "p" tables,
            (sampleBackend.store.store "p" tables.write world).2⟩) := by
  intro state
  have valid : (sampleTables "_0").validate = .ok () := by
    rw [TableBundle.validate_eq_ok_iff]
    decide +kernel
  have unreadable : TableBundle.read? "[]" = none := by decide +kernel
  refine ⟨valid, rfl, by simp [unreadable], (serves_parser_iff sampleBackend .standard ⟨[]⟩
    sampleGrammar "p" state (sampleTables "_0") [none, none] rfl valid rfl).2 rfl ?_⟩
  intro record loaded found usable
  obtain ⟨read, reads, -⟩ := read?_of_usable? usable
  have same : record = "[]" := by
    simpa [sampleBackend, TableStore.memory, state, fresh] using loaded.symm
  rw [same, unreadable] at reads
  contradiction

/-- A record of current and consistent tables whose marker names no rule: the new cache takes them
and serves no parser, though the compiler would make tables to which the actions bind. -/
theorem unbound_record_blocks :
    let stored : TableBundle :=
      { sampleTables "_9" with hash := contentHash sampleGrammar.render }
    let state : CacheState (Named String) := fresh (Named.empty.put "p" stored.write)
    (∀ records, (sampleBackend.compile sampleGrammar.render records).1 =
      .ok (sampleTables "_0")) ∧
    (sampleTables "_0").validate = .ok () ∧
    sampleGrammar.bind (sampleTables "_0") = .ok [none, none] ∧
    (parser sampleBackend .standard ⟨[]⟩ sampleGrammar "p" state).1 =
      .error (.bind (.unknownRule 1 "_9")) := by
  intro stored state
  have valid : (sampleTables "_0").validate = .ok () := by
    rw [TableBundle.validate_eq_ok_iff]
    decide +kernel
  have consistent : stored.validate = .ok () := by
    rw [TableBundle.validate_eq_ok_iff]
    change (sampleTables "_9").faults = []
    decide +kernel
  have fits : stored.fits = true := by
    change (sampleTables "_9").fits = true
    decide +kernel
  have some_label : stored.labels ≠ [] := TableBundle.labels_ne_nil_of_validate consistent
  have indexed : stored.ensureIndexed = stored :=
    TableBundle.ensureIndexed_of_isEmpty (LabelMap.isEmpty_ofLabels some_label)
  have usable : usable? stored.write = some stored := by
    rw [usable?, TableBundle.read?_write, if_pos fits]
    simp only [indexed, consistent]
  have kept : kept? sampleBackend sampleGrammar.render "p" state = some stored := by
    simp [kept?, memoized?, stored?, sampleBackend, TableStore.memory, state, fresh, usable, stored,
      Named.get?_empty]
  refine ⟨fun _ => rfl, valid, rfl, ?_⟩
  rw [parser_of_tables (tables_of_kept kept)]
  rfl

end TableCache

end ShaderSyntax
