import ShaderSyntax.Cache.Backend
import ShaderSyntax.Digest
import ShaderSyntax.Grammar.Binding
import ShaderSyntax.Tables.Record
import ShaderSyntax.Tables.Validity

/-!
# The table cache

Building tables is expensive, so the last bundle of every parser is kept: in the memo of the cache
itself, and as a record in a store. Both are keyed by the digest of the rendered grammar. A cache
looks into its memo first, then into the store, and calls the compiler only if neither has current
tables. A record that cannot be used counts as no record; a record that cannot be kept does no harm.

The main statements say what every served bundle is (`hash_of_finish`, `validate_of_finish`,
`hash_of_stored?`), that a parser on served tables has its grammar's actions
(`bind_eq_ok_of_served`), and that current tables are served without any change
(`tables_of_memoized`).
-/

set_option autoImplicit false

namespace ShaderSyntax

/-- Why a cache serves no tables or no parser. -/
inductive CacheError where
  | compile (name text : String)
  | invalid (name : String) (error : TableError)
  | bind (error : BindError)
  deriving DecidableEq, Repr

/-- The message of a failed request. -/
def CacheError.message : CacheError → String
  | .compile name text => s!"grammar compiler failed for parser {Text.quoted name}: {text}"
  | .invalid name error =>
    s!"compiled tables for parser {Text.quoted name} are inconsistent: {error.message}"
  | .bind error => error.message

/-- The memo of a cache and the state of what it works with. -/
structure CacheState (σ : Type) where
  memo : Named TableBundle
  world : σ

namespace TableCache

variable {σ : Type}

/-- The state of a new cache. -/
def fresh (world : σ) : CacheState σ := ⟨.empty, world⟩

/-- The tables of a name in the memo, if they are current. -/
def memoized? (state : CacheState σ) (hash name : String) : Option TableBundle :=
  (state.memo.get? name).filter (·.hash = hash)

/-- The tables of a record, if it can be used: it reads back, and its tables are consistent. -/
def usable? (record : String) : Option TableBundle :=
  match TableBundle.read? record with
  | none => none
  | some tables =>
    match tables.ensureIndexed.validate with
    | .ok _ => some tables.ensureIndexed
    | .error _ => none

/-- The tables of a name in the store, if they are current. -/
def stored? (backend : Backend σ) (hash name : String) (world : σ) : Option TableBundle × σ :=
  match backend.store.load name world with
  | (.record text, world) => ((usable? text).filter (·.hash = hash), world)
  | (_, world) => (none, world)

/-- Makes tables of what the compiler gave: labels indexed, digest noted, consistency checked. -/
def finish (hash : String) (compiled : TableBundle) : Except TableError TableBundle :=
  let tables := { compiled.ensureIndexed with hash }
  tables.validate.map fun _ => tables

/-- Compiles a grammar and keeps the tables in the store and in the memo. -/
def rebuild (backend : Backend σ) (hash rendered name : String) (state : CacheState σ) :
    Except CacheError TableBundle × CacheState σ :=
  match backend.compile rendered state.world with
  | (.error text, world) => (.error (.compile name text), { state with world })
  | (.ok compiled, world) =>
    match finish hash compiled with
    | .error error => (.error (.invalid name error), { state with world })
    | .ok tables =>
      let kept := backend.store.store name tables.write world
      (.ok tables, ⟨state.memo.put name tables, kept.2⟩)

/-- The tables of a rendered grammar for the parser with the given name. -/
def tables (backend : Backend σ) (rendered name : String) (state : CacheState σ) :
    Except CacheError TableBundle × CacheState σ :=
  let hash := contentHash rendered
  match memoized? state hash name with
  | some found => (.ok found, state)
  | none =>
    match stored? backend hash name state.world with
    | (some found, world) => (.ok found, ⟨state.memo.put name found, world⟩)
    | (none, world) => rebuild backend hash rendered name { state with world }

/-- A parser for a grammar, on tables that the cache serves under a name. -/
def parser {C V : Type} (backend : Backend σ) (options : EngineOptions) (lexer : Lexer)
    (grammar : Grammar C V) (name : String) (state : CacheState σ) :
    Except CacheError (Engine C V) × CacheState σ :=
  match tables backend grammar.render name state with
  | (.error error, state) => (.error error, state)
  | (.ok found, state) =>
    match grammar.bind found with
    | .error error => (.error (.bind error), state)
    | .ok actions => (.ok { lexer, tables := found, actions, options }, state)

/-- A parser on served tables has the actions of its grammar bound to them. -/
theorem bind_eq_ok_of_served {C V : Type} {backend : Backend σ} {options : EngineOptions}
    {lexer : Lexer} {grammar : Grammar C V} {name : String} {state : CacheState σ}
    {engine : Engine C V}
    (h : (parser backend options lexer grammar name state).1 = .ok engine) :
    grammar.bind engine.tables = .ok engine.actions := by
  unfold parser at h
  split at h
  · contradiction
  · rename_i found _ _
    cases bound : grammar.bind found with
    | error error => simp [bound] at h
    | ok actions =>
      simp only [bound, Except.ok.injEq] at h
      subst h
      exact bound

/-- Current tables in the memo are served, and nothing changes. -/
theorem tables_of_memoized {backend : Backend σ} {rendered name : String} {state : CacheState σ}
    {found : TableBundle} (h : memoized? state (contentHash rendered) name = some found) :
    tables backend rendered name state = (.ok found, state) := by
  simp only [tables, h]

/-- Finished tables carry the digest they were finished with. -/
theorem hash_of_finish {hash : String} {compiled found : TableBundle}
    (h : finish hash compiled = .ok found) : found.hash = hash := by
  rw [finish] at h
  cases valid : ({ compiled.ensureIndexed with hash } : TableBundle).validate with
  | error e => simp [valid, Except.map] at h
  | ok u =>
    simp only [valid, Except.map, Except.ok.injEq] at h
    simp [← h]

/-- Finished tables are consistent. -/
theorem validate_of_finish {hash : String} {compiled found : TableBundle}
    (h : finish hash compiled = .ok found) : found.validate = .ok () := by
  rw [finish] at h
  cases valid : ({ compiled.ensureIndexed with hash } : TableBundle).validate with
  | error e => simp [valid, Except.map] at h
  | ok u =>
    simp only [valid, Except.map, Except.ok.injEq] at h
    rw [← h, valid]

/-- Tables from the store are current and consistent. -/
theorem hash_of_stored? {backend : Backend σ} {hash name : String} {world : σ}
    {found : TableBundle} (h : (stored? backend hash name world).1 = some found) :
    found.hash = hash := by
  rw [stored?] at h
  split at h
  · simpa using (Option.filter_eq_some_iff.1 h).2
  · simp at h

end TableCache

end ShaderSyntax
