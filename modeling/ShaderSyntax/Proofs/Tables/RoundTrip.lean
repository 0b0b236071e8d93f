import ShaderSyntax.Proofs.Json.RoundTrip
import ShaderSyntax.Tables.Record

/-!
# Kept tables read back

A record of tables gives back exactly the tables it was written from, provided that their numbers
are machine words; a record with a greater number is refused (`read?_write`). So tables are not
changed by being kept, and no two tables share a record (`kept_unchanged`). Each kind of value in a
record has a reader beside its writer, and `Inverse` says of such a pair what it gives back; the
statements about lists, pairs, optional values and structures put together those of their parts.
-/

set_option autoImplicit false

namespace ShaderSyntax

open Json

namespace Json

variable {α β : Type}

/-- A guarded value is handed on under its guard. -/
theorem bind_guard {p : Prop} [Decidable p] (a : α) (next : α → Option β) :
    (if p then some a else none).bind next = if p then next a else none := by
  split <;> rfl

/-- A list of plain documents is plain. -/
theorem plain_map (write : α → Json) (items : List α) (each : ∀ a, Plain (write a)) :
    Plain (.array (items.map write)) := by
  refine .array fun item mem => ?_
  obtain ⟨a, -, rfl⟩ := List.mem_map.mp mem
  exact each a

/-- An optional part that is plain where it is there is plain. -/
theorem plain_ofOption {write : α → Json} (value : Option α) (each : ∀ a, Plain (write a)) :
    Plain (ofOption write value) := by
  cases value with
  | none => exact .null
  | some a => exact each a

/-- A pair of plain documents is plain. -/
theorem plain_pair {first second : Json} (fst : Plain first) (snd : Plain second) :
    Plain (.array [first, second]) := by
  refine .array fun item mem => ?_
  rcases List.mem_cons.mp mem with rfl | mem
  · exact fst
  · exact List.mem_singleton.mp mem ▸ snd

/-- Two guards in a row are one. -/
theorem guard_guard {p q : Prop} [Decidable p] [Decidable q] (a : Option α) :
    (if p then if q then a else none else none) = if p ∧ q then a else none := by
  by_cases hp : p <;> by_cases hq : q <;> simp [hp, hq]

/-- Reading what was written of a value gives that value back if it fits, and nothing otherwise. -/
def Inverse (write : α → Json) (read : Json → Option α) (fits : α → Bool) : Prop :=
  ∀ a, read (write a) = if fits a then some a else none

/-- A number that is a machine word. -/
def isWord (n : Nat) : Bool := n < Nat.pow 2 64

/-- Numbers are read back as far as they are machine words. -/
theorem inverse_nat : Inverse ofNat nat? isWord := by
  intro n
  rw [nat?_ofNat, isWord]
  simp only [decide_eq_true_eq]

/-- Texts are read back. -/
theorem inverse_text : Inverse ofString text? fun _ => true := by
  intro text
  rfl

/-- Lists are read back item by item. -/
theorem inverse_list {write : α → Json} {read : Json → Option α} {fits : α → Bool}
    (each : Inverse write read fits) :
    Inverse (fun items => .array (items.map write)) (listOf? read) (·.all fits) := by
  intro items
  simp only [listOf?]
  induction items with
  | nil => rfl
  | cons item items ih =>
    rw [List.map_cons, List.mapM_cons, ih, each item]
    by_cases front : fits item = true <;> by_cases others : items.all fits = true <;>
      simp [front, others]

/-- Pairs are read back part by part. -/
theorem inverse_pair {write : α → Json} {read : Json → Option α} {fits : α → Bool}
    {write' : β → Json} {read' : Json → Option β} {fits' : β → Bool}
    (first : Inverse write read fits) (second : Inverse write' read' fits') :
    Inverse (fun pair : α × β => .array [write pair.1, write' pair.2]) (pairOf? read read')
      (fun pair => fits pair.1 && fits' pair.2) := by
  intro pair
  simp only [pairOf?, first pair.1, second pair.2]
  by_cases fst : fits pair.1 = true <;> by_cases snd : fits' pair.2 = true <;> simp [fst, snd]

/-- Optional values are read back where no value is written as null. -/
theorem inverse_option {write : α → Json} {read : Json → Option α} {fits : α → Bool}
    (each : Inverse write read fits) (filled : ∀ a, write a ≠ .null) :
    Inverse (ofOption write) (optionOf? read) (·.all fits) := by
  intro value
  cases value with
  | none => rfl
  | some a =>
    have read_some : optionOf? read (write a) = (read (write a)).map some := by
      unfold optionOf?
      split
      · rename_i heq
        exact absurd heq (filled a)
      · rfl
    simp only [ofOption, read_some, each a, Option.all_some]
    by_cases fit : fits a = true <;> simp [fit]

/-- In an object whose fields are named in order, a name that does not occur twice has the value at
its place. -/
theorem find?_zip {names : List String} {values : List Json} (nodup : names.Nodup) {place : Nat}
    {name : String} {value : Json} (named : names[place]? = some name)
    (valued : values[place]? = some value) :
    (((names.zip values).map fun field => (some field.1, field.2)).find?
      fun field => field.1 == some name) = some (some name, value) := by
  induction names generalizing values place with
  | nil => simp at named
  | cons first names ih =>
    obtain ⟨fresh, nodup⟩ := List.nodup_cons.mp nodup
    cases values with
    | nil => simp at valued
    | cons front values =>
      cases place with
      | zero =>
        simp only [List.getElem?_cons_zero, Option.some.injEq] at named valued
        simp [named, valued]
      | succ place =>
        simp only [List.getElem?_cons_succ] at named valued
        have other : first ≠ name := by
          rintro rfl
          exact fresh (List.mem_of_getElem? named)
        rw [List.zip_cons_cons, List.map_cons, List.find?_cons_of_neg (by simpa using other)]
        exact ih nodup named valued

/-- An object whose fields are named in order, each name once, names nothing twice. -/
theorem distinct_zip {names : List String} {values : List Json} (nodup : names.Nodup)
    (same : names.length = values.length) :
    distinct names ((names.zip values).map fun field => (some field.1, field.2)) = true := by
  have once : ∀ name, (((names.zip values).map fun field => (some field.1, field.2)).filter
      fun field => field.1 == some name).length = names.count name := by
    intro name
    have fronts : (names.zip values).map Prod.fst = names := List.map_fst_zip (by omega)
    calc
      _ = (names.zip values).countP fun field => field.1 == name := by
        rw [← List.countP_eq_length_filter, List.countP_map]
        rfl
      _ = ((names.zip values).map Prod.fst).count name := by
        rw [List.count, List.countP_map]
        rfl
      _ = names.count name := by rw [fronts]
  simp only [distinct, Bool.and_eq_true, List.all_eq_true, decide_eq_true_eq, once]
  refine ⟨?_, fun name _ => List.nodup_iff_count.mp nodup name⟩
  intro field mem
  obtain ⟨pair, -, rfl⟩ := List.mem_map.mp mem
  rfl

/-- A structure written as an object with its fields in order has the value of each field at the
field's place. -/
theorem fields?_zip (names : List String) (values : List Json) (nodup : names.Nodup)
    (same : names.length = values.length) :
    (ofFields (names.zip values)).fields? names = some fun place => values[place]? := by
  simp only [ofFields, fields?, distinct_zip nodup same, if_true, Option.some.injEq]
  funext place
  cases named : names[place]? with
  | none =>
    rw [List.getElem?_eq_none_iff] at named
    simp [List.getElem?_eq_none (same ▸ named)]
  | some name =>
    have inside := (List.getElem?_eq_some_iff.mp named).1
    have valued : values[place]? = some values[place] := List.getElem?_eq_getElem (by omega)
    simp only [Option.bind_some, field?, find?_zip nodup named valued, Option.map_some, valued]

end Json

/-! ## The parts of tables -/

/-- The number of an action. -/
def Action.number : Action → Nat
  | .shift state => state
  | .reduce production => production

/-- Actions are read back as far as their numbers are machine words. -/
theorem Action.inverse_toJson : Inverse Action.toJson Action.ofJson? (isWord ·.number) := by
  intro action
  cases action with
  | shift state =>
    by_cases word : isWord state = true <;>
      simp [Action.toJson, Action.ofJson?, ofFields, inverse_nat state, Action.number, word]
  | reduce production =>
    by_cases word : isWord production = true <;>
      simp [Action.toJson, Action.ofJson?, ofFields, inverse_nat production, Action.number, word]

/-- A written action is plain. -/
theorem Action.plain_toJson (action : Action) : Plain action.toJson := by
  cases action with
  | shift state => exact .object (by simp [Plain.number])
  | reduce production => exact .object (by simp [Plain.number])

/-- The numbers of a production are machine words. -/
def Production.fits (production : Production) : Bool :=
  isWord production.lhs && isWord production.length

/-- Productions are read back as far as their numbers are machine words. -/
theorem Production.inverse_toJson :
    Inverse Production.toJson Production.ofJson? Production.fits := by
  intro production
  have fields := fields?_zip ["lhs", "rhs_len"]
    [ofNat production.lhs, ofNat production.length] (by decide) rfl
  simp only [List.zip_cons_cons, List.zip_nil_right] at fields
  simp only [Production.toJson, Production.ofJson?, fields, Option.bind_eq_bind, Option.bind_some,
    Fields.required, List.getElem?_cons_zero, List.getElem?_cons_succ, inverse_nat _]
  by_cases lhs : isWord production.lhs = true <;>
    by_cases length : isWord production.length = true <;> simp [Production.fits, lhs, length]

/-- The numbers of a production record are machine words. -/
def ProductionRecord.fits (record : ProductionRecord) : Bool :=
  isWord record.id && isWord record.lhs && record.rhs.all isWord

/-- Production records are read back as far as their numbers are machine words. -/
theorem ProductionRecord.inverse_toJson :
    Inverse ProductionRecord.toJson ProductionRecord.ofJson? ProductionRecord.fits := by
  intro record
  have fields := fields?_zip ["id", "lhs", "rhs", "code"]
    [ofNat record.id, ofNat record.lhs, .array (record.rhs.map ofNat), ofString record.code]
    (by decide) rfl
  simp only [List.zip_cons_cons, List.zip_nil_right] at fields
  simp only [ProductionRecord.toJson, ProductionRecord.ofJson?, fields, Option.bind_eq_bind,
    Option.bind_some, Fields.required, Fields.optional, List.getElem?_cons_zero,
    List.getElem?_cons_succ, inverse_nat _, inverse_list inverse_nat record.rhs,
    inverse_text record.code]
  by_cases id : isWord record.id = true <;> by_cases lhs : isWord record.lhs = true <;>
    by_cases rhs : record.rhs.all isWord = true <;> simp [ProductionRecord.fits, id, lhs, rhs]

/-! ## Label maps -/

/-- An entry behind all others in order goes to the end. -/
theorem insertSorted_of_forall_lt {label : String} {symbol : Nat} {entries : List (String × Nat)}
    (last : ∀ entry ∈ entries, entry.1 < label) :
    insertSorted label symbol entries = entries ++ [(label, symbol)] := by
  induction entries with
  | nil => rfl
  | cons first entries ih =>
    have before : first.1 < label := last first (by simp)
    have after : ¬label < first.1 := String.lt_asymm before
    rw [insertSorted, if_neg after, if_pos before,
      ih fun entry mem => last entry (List.mem_cons_of_mem _ mem)]
    rfl

namespace LabelMap

/-- Inserting entries in their order puts them behind those that are there. -/
theorem entries_foldl_insert (map : LabelMap) {entries : List (String × Nat)}
    (sorted : (map.entries ++ entries).Pairwise fun a b => a.1 < b.1) :
    (entries.foldl (fun map pair => map.insert pair.1 pair.2) map).entries =
      map.entries ++ entries := by
  induction entries generalizing map with
  | nil => simp
  | cons first entries ih =>
    have last : ∀ entry ∈ map.entries, entry.1 < first.1 := fun entry mem =>
      (List.pairwise_append.mp sorted).2.2 entry mem first (by simp)
    have inserted : (map.insert first.1 first.2).entries = map.entries ++ [first] :=
      insertSorted_of_forall_lt last
    rw [List.foldl_cons, ih (map.insert first.1 first.2)]
    · rw [inserted, List.append_assoc, List.singleton_append]
    · rwa [inserted, List.append_assoc, List.singleton_append]

/-- A label map is the map of its entries. -/
theorem ofPairs_entries (map : LabelMap) : ofPairs map.entries = map := by
  apply ext_entries
  exact entries_foldl_insert empty (by simpa [empty] using map.sorted)

/-- Label maps are read back as far as their symbols are machine words. -/
theorem inverse_toJson : Inverse toJson ofJson? (·.entries.all (isWord ·.2)) := by
  intro map
  have read : ((map.entries.map fun entry => (some entry.1, ofNat entry.2)).mapM labelled?) =
      if map.entries.all (isWord ·.2) then some map.entries else none := by
    induction map.entries with
    | nil => rfl
    | cons first entries ih =>
      rw [List.map_cons, List.mapM_cons, ih]
      by_cases word : isWord first.2 = true <;>
        by_cases others : (entries.all (isWord ·.2)) = true <;>
        simp [labelled?, inverse_nat first.2, word, others]
  simp only [toJson, ofFields, ofJson?, List.map_map, Function.comp_def, read]
  by_cases words : (map.entries.all (isWord ·.2)) = true <;> simp [words, ofPairs_entries]

end LabelMap

/-! ## Tables -/

namespace TableBundle

/-- All numbers of the tables are machine words. -/
def fits (tables : TableBundle) : Bool :=
  tables.productions.all Production.fits &&
    tables.actions.all (·.all fun entry => isWord entry.1 && isWord entry.2.number) &&
    tables.gotos.all (·.all fun entry => isWord entry.1 && isWord entry.2) &&
    tables.defaults.all (·.all (isWord ·.number)) &&
    tables.labelMap.entries.all (isWord ·.2) &&
    isWord tables.endSymbol && isWord tables.errorSymbol && tables.skipSymbol.all isWord &&
    tables.records.all ProductionRecord.fits

/-- The values of a bundle's fields, in order. -/
def fieldValues (tables : TableBundle) : List Json := [
  .array (tables.productions.map Production.toJson),
  .array (tables.actions.map fun row =>
    .array (row.map fun entry => .array [.ofNat entry.1, entry.2.toJson])),
  .array (tables.gotos.map fun row =>
    .array (row.map fun entry => .array [.ofNat entry.1, .ofNat entry.2])),
  .array (tables.defaults.map (.ofOption Action.toJson)),
  .array (tables.labels.map .ofString),
  tables.labelMap.toJson,
  .ofNat tables.endSymbol,
  .ofNat tables.errorSymbol,
  .ofOption .ofNat tables.skipSymbol,
  .array (tables.records.map ProductionRecord.toJson),
  .ofString tables.hash]

/-- Tables are read back as far as their numbers are machine words. -/
theorem inverse_toJson : Inverse toJson ofJson? fits := by
  intro tables
  have fields := fields?_zip fieldNames tables.fieldValues (by decide) rfl
  have written : tables.toJson = ofFields (fieldNames.zip tables.fieldValues) := rfl
  have actions := inverse_list (inverse_list (inverse_pair inverse_nat Action.inverse_toJson))
    tables.actions
  have gotos := inverse_list (inverse_list (inverse_pair inverse_nat inverse_nat)) tables.gotos
  have defaults := inverse_list (inverse_option Action.inverse_toJson
    (by intro action; cases action <;> simp [Action.toJson, ofFields])) tables.defaults
  have labels : listOf? text? (.array (tables.labels.map ofString)) = some tables.labels := by
    simpa using inverse_list inverse_text tables.labels
  have skip := inverse_option inverse_nat (by simp [ofNat]) tables.skipSymbol
  rw [written, ofJson?, fields]
  simp only [fieldValues, Option.bind_eq_bind, Option.bind_some, Fields.required, Fields.optional,
    List.getElem?_cons_zero, List.getElem?_cons_succ,
    inverse_list Production.inverse_toJson tables.productions, actions, gotos, defaults, labels,
    LabelMap.inverse_toJson tables.labelMap, inverse_nat _, skip,
    inverse_list ProductionRecord.inverse_toJson tables.records, inverse_text tables.hash]
  simp only [bind_guard, guard_guard, Option.bind_some, if_true, Option.pure_def, fits,
    Bool.and_eq_true, and_assoc]

/-- Written tables are plain. -/
theorem plain_toJson (tables : TableBundle) : Plain tables.toJson := by
  have productions := plain_map Production.toJson tables.productions
    fun production => .object (by simp [Plain.number])
  have actions := plain_map _ tables.actions fun row => plain_map _ row
    fun entry : Nat × Action => plain_pair (.number entry.1) entry.2.plain_toJson
  have gotos := plain_map _ tables.gotos fun row => plain_map _ row
    fun entry : Nat × Nat => plain_pair (.number entry.1) (.number entry.2)
  have defaults := plain_map _ tables.defaults fun action =>
    plain_ofOption action Action.plain_toJson
  have labels := plain_map _ tables.labels Plain.string
  have labelMap : Plain tables.labelMap.toJson := by
    refine .object fun field mem => ?_
    obtain ⟨entry, -, rfl⟩ := List.mem_map.mp mem
    exact .number entry.2
  have skip := plain_ofOption tables.skipSymbol Plain.number
  have records := plain_map ProductionRecord.toJson tables.records
    fun record => .object (by
      simp [Plain.number, Plain.string, plain_map _ record.rhs Plain.number])
  exact .object (by simp [Plain.number, Plain.string, productions, actions, gotos, defaults, labels,
    labelMap, skip, records])

/-- A record of tables is read back exactly if their numbers are machine words; nothing else is ever
read from it. -/
theorem read?_write (tables : TableBundle) :
    read? tables.write = if tables.fits then some tables else none := by
  rw [read?, write, Json.read?_write tables.plain_toJson, Option.bind_some, inverse_toJson tables]

/-- Tables whose numbers are machine words are not changed by being kept. Their record is read back,
as exactly these tables; no other tables have the same record; and what is read back answers every
question of a parser as the tables do. -/
theorem kept_unchanged (tables : TableBundle) (words : tables.fits = true) :
    read? tables.write = some tables ∧
    (∀ other : TableBundle, other.write = tables.write → other = tables) ∧
    ∃ kept, read? tables.write = some kept ∧
      (∀ state symbol, kept.lookup state symbol = tables.lookup state symbol) ∧
      (∀ state symbol, kept.goto state symbol = tables.goto state symbol) ∧
      (∀ symbol, kept.label symbol = tables.label symbol) ∧
      (∀ label, kept.symbol label = tables.symbol label) := by
  have read_back : read? tables.write = some tables := by rw [read?_write, if_pos words]
  refine ⟨read_back, ?_, tables, read_back, fun _ _ => rfl, fun _ _ => rfl, fun _ => rfl,
    fun _ => rfl⟩
  intro other same
  -- The record of the other tables is read back as well, and there is one answer only.
  have both := other.read?_write
  rw [same, read_back] at both
  split at both
  · exact (Option.some.inj both).symm
  · contradiction

/-- Tables with labels that have to be escaped, or are empty, with an empty row and with a number
that is the greatest machine word. -/
def awkwardTables : TableBundle where
  productions := [⟨0, 18446744073709551615⟩, ⟨2, 0⟩]
  actions := [[(1, .reduce 0), (1, .shift 7)], []]
  gotos := [[], [(2, 0), (0, 1)]]
  defaults := [none, some (.reduce 1)]
  labels := ["\"quoted\\", "\x01\t\x7f", "", "𝄞é"]
  labelMap := LabelMap.ofPairs [("𝄞é", 3), ("", 2), ("\x01\t\x7f", 1)]
  endSymbol := 1
  errorSymbol := 18446744073709551615
  skipSymbol := none
  records := [⟨0, 0, [], "_7\n"⟩]
  hash := "\r\x08\x0c/"

/-- They are read back from their record. -/
theorem kept_unchanged_awkward :
    awkwardTables.fits = true ∧ read? awkwardTables.write = some awkwardTables ∧
    ∀ other : TableBundle, other.write = awkwardTables.write → other = awkwardTables := by
  have words : awkwardTables.fits = true := by decide +kernel
  obtain ⟨read_back, alone, -⟩ := kept_unchanged awkwardTables words
  exact ⟨words, read_back, alone⟩

end TableBundle

end ShaderSyntax
