import ShaderSyntax.Proofs.Preprocess.Comparison
import ShaderSyntax.Proofs.Preprocess.Inclusions

/-!
# Where inclusions fail

The lexicographic order of places is the order in which preprocessing goes through the inclusions of
a text and of its files. An inclusion fails if it lies as deep as the limit, and above that if its
file is missing or cannot be read (`Inclusion.fault?`); preprocessing reaches the inclusions with no
failing one before them (`Reaches`).

The main statement is that preprocessing fails exactly if it reaches an inclusion that fails, and
with that failure (`Preprocessor.preprocess_fails_iff_reaches`). It reaches finitely many inclusions
even where files include themselves, and then it always fails.
-/

set_option autoImplicit false

namespace ShaderSyntax

/-! ## Inclusions that preprocessing reaches -/

/-- The failure of an inclusion when files may be included `limit` deep. At this depth it does not
matter what the loader would say. -/
def Inclusion.fault? (loader : SourceLoader) (limit : Nat) (inclusion : Inclusion) :
    Option PreprocessError :=
  if limit ≤ inclusion.depth then
    some (.tooDeep inclusion.target inclusion.source inclusion.line limit)
  else
    match loader inclusion.target with
    | .ok _ => none
    | .error (.missing _) =>
      some (.includeNotFound inclusion.target inclusion.source inclusion.line)
    | .error (.unreadable cause) => some (.unreadable inclusion.target cause)

namespace Inclusion

variable {loader : SourceLoader} {limit : Nat} {inclusion : Inclusion}

/-- An inclusion at the limit or deeper fails as too deep. -/
theorem fault?_of_le (deep : limit ≤ inclusion.depth) : inclusion.fault? loader limit =
    some (.tooDeep inclusion.target inclusion.source inclusion.line limit) :=
  if_pos deep

/-- An inclusion above the limit whose target loads does not fail. -/
theorem fault?_of_ok {text : String} (shallow : inclusion.depth < limit)
    (loads : loader inclusion.target = .ok text) : inclusion.fault? loader limit = none := by
  simp only [fault?, if_neg (Nat.not_le_of_lt shallow), loads]

/-- An inclusion above the limit whose target is missing fails at its line. -/
theorem fault?_of_missing {text : String} (shallow : inclusion.depth < limit)
    (loads : loader inclusion.target = .error (.missing text)) :
    inclusion.fault? loader limit =
      some (.includeNotFound inclusion.target inclusion.source inclusion.line) := by
  simp only [fault?, if_neg (Nat.not_le_of_lt shallow), loads]

/-- An inclusion above the limit whose target cannot be read fails with the cause. -/
theorem fault?_of_unreadable {cause : String} (shallow : inclusion.depth < limit)
    (loads : loader inclusion.target = .error (.unreadable cause)) :
    inclusion.fault? loader limit = some (.unreadable inclusion.target cause) := by
  simp only [fault?, if_neg (Nat.not_le_of_lt shallow), loads]

end Inclusion

/-- Of inclusions at their places, preprocessing reaches one if none at a place before it fails. -/
structure Reaches (loader : SourceLoader) (limit : Nat) (stands : List Nat → Inclusion → Prop)
    (place : List Nat) (inclusion : Inclusion) : Prop where
  standing : stands place inclusion
  unhindered : ∀ earlier other, stands earlier other → earlier < place →
    other.fault? loader limit = none

namespace Reaches

variable {loader : SourceLoader} {limit depth number : Nat} {path : String}
  {lines : List (List Char)} {line target : List Char} {place : List Nat} {inclusion : Inclusion}

/-- Places on the first line lie before those on the lines behind it. -/
theorem on_line (reaches : Reaches loader limit (Includes loader depth path number [line]) place
    inclusion) :
    Reaches loader limit (Includes loader depth path number (line :: lines)) place inclusion := by
  refine ⟨Includes.cons_iff.mpr (.inl reaches.standing), fun earlier other stands before => ?_⟩
  rcases Includes.cons_iff.mp stands with on_line | behind
  · exact reaches.unhindered earlier other on_line before
  · obtain ⟨i, -, inner, rfl⟩ := behind.exists_head
    obtain ⟨j, small, inner', rfl⟩ := reaches.standing.exists_head
    rw [List.length_singleton] at small
    rw [List.cons_lt_cons_iff] at before
    omega

/-- The lines behind a line are reached if nothing fails on it. -/
theorem behind (passes : ∀ place inclusion,
      Includes loader depth path number [line] place inclusion →
      inclusion.fault? loader limit = none)
    (reaches : Reaches loader limit (Includes loader depth path (number + 1) lines) place
      inclusion) :
    Reaches loader limit (Includes loader depth path number (line :: lines)) place inclusion := by
  refine ⟨Includes.cons_iff.mpr (.inr reaches.standing), fun earlier other stands before => ?_⟩
  rcases Includes.cons_iff.mp stands with on_line | behind
  · exact passes earlier other on_line
  · exact reaches.unhindered earlier other behind before

/-- The inclusion that a line asks for is reached before those in its file. -/
theorem direct (asks : IsInclusion line target) :
    Reaches loader limit (Includes loader depth path number [line]) [number]
      ⟨path, number, String.ofList target, depth⟩ := by
  refine ⟨(Includes.single_iff asks).mpr (.inl ⟨rfl, rfl⟩), fun earlier other stands before => ?_⟩
  obtain ⟨j, -, inner, rfl⟩ := stands.exists_head
  rw [List.cons_lt_cons_iff] at before
  rcases before with smaller | ⟨-, inside⟩
  · omega
  · exact absurd inside (List.not_lt_nil inner)

/-- The inclusions in a file are reached if the file can be included. -/
theorem nested {included : String} (asks : IsInclusion line target)
    (loads : loader (String.ofList target) = .ok included)
    (passes : Inclusion.fault? loader limit ⟨path, number, String.ofList target, depth⟩ = none)
    (inside : Reaches loader limit (Includes loader (depth + 1) (String.ofList target) 1
      (Text.lines included.toList)) place inclusion) :
    Reaches loader limit (Includes loader depth path number [line]) (number :: place)
      inclusion := by
  refine ⟨?_, fun earlier other stands before => ?_⟩
  · exact (Includes.single_iff asks).mpr (.inr ⟨included, place, rfl, loads, inside.standing⟩)
  · rcases (Includes.single_iff asks).mp stands with ⟨-, rfl⟩ | ⟨text, inner, rfl, loads', below⟩
    · exact passes
    · obtain rfl := Except.ok.inj (loads.symm.trans loads')
      rw [List.cons_lt_cons_iff] at before
      rcases before with smaller | ⟨-, inner_before⟩
      · exact absurd smaller (Nat.lt_irrefl number)
      · exact inside.unhindered inner other below inner_before

/-- All failing inclusions that are reached fail in the same way, since only one is reached. -/
theorem fault_unique {other_place : List Nat} {other : Inclusion} {error more : PreprocessError}
    (reaches : Reaches loader limit (Includes loader depth path number lines) place inclusion)
    (fails : inclusion.fault? loader limit = some error)
    (reaches_other : Reaches loader limit (Includes loader depth path number lines) other_place
      other)
    (fails_other : other.fault? loader limit = some more) : error = more := by
  rcases lt_trichotomy place other_place with before | rfl | after
  · rw [reaches_other.unhindered place inclusion reaches.standing before] at fails
    contradiction
  · obtain rfl := reaches.standing.unique reaches_other.standing
    exact Option.some.inj (fails.symm.trans fails_other)
  · rw [reaches.unhindered other_place other reaches_other.standing after] at fails_other
    contradiction

/-- No inclusion deeper than the limit is reached: the one that leads to it from the limit fails
before it. -/
theorem depth_le (reaches : Reaches loader limit (Includes loader depth path number lines) place
    inclusion) (top : depth ≤ limit) : inclusion.depth ≤ limit := by
  by_contra deep
  obtain ⟨above, upper, stands, before, at_limit⟩ :=
    reaches.standing.exists_above top (Nat.lt_of_not_le deep)
  have passes := reaches.unhindered above upper stands before
  rw [Inclusion.fault?_of_le at_limit.ge] at passes
  contradiction

end Reaches

/-- The loader is asked for a target: it is that of an inclusion above the limit that is reached. -/
def Asks (loader : SourceLoader) (limit : Nat) (stands : List Nat → Inclusion → Prop)
    (target : String) : Prop :=
  ∃ place inclusion, Reaches loader limit stands place inclusion ∧ inclusion.depth < limit ∧
    inclusion.target = target

namespace Asks

variable {loader : SourceLoader} {limit depth number : Nat} {path asked : String}
  {lines : List (List Char)} {line target : List Char}

/-- What the first line asks for, the lines do. -/
theorem on_line (asks : Asks loader limit (Includes loader depth path number [line]) asked) :
    Asks loader limit (Includes loader depth path number (line :: lines)) asked := by
  obtain ⟨place, inclusion, reaches, shallow, same⟩ := asks
  exact ⟨place, inclusion, reaches.on_line, shallow, same⟩

/-- What the lines behind the first ask for, all lines do, if nothing in the first fails. -/
theorem behind (passes : ∀ place inclusion,
      Includes loader depth path number [line] place inclusion →
      inclusion.fault? loader limit = none)
    (asks : Asks loader limit (Includes loader depth path (number + 1) lines) asked) :
    Asks loader limit (Includes loader depth path number (line :: lines)) asked := by
  obtain ⟨place, inclusion, reaches, shallow, same⟩ := asks
  exact ⟨place, inclusion, reaches.behind passes, shallow, same⟩

/-- An inclusion above the limit asks for its target. -/
theorem direct (asking : IsInclusion line target) (shallow : depth < limit) :
    Asks loader limit (Includes loader depth path number [line]) (String.ofList target) :=
  ⟨[number], _, .direct asking, shallow, rfl⟩

/-- An inclusion that passes asks for what its target asks for. -/
theorem nested {included : String} (asking : IsInclusion line target)
    (loads : loader (String.ofList target) = .ok included)
    (passes : Inclusion.fault? loader limit ⟨path, number, String.ofList target, depth⟩ = none)
    (asks : Asks loader limit (Includes loader (depth + 1) (String.ofList target) 1
      (Text.lines included.toList)) asked) :
    Asks loader limit (Includes loader depth path number [line]) asked := by
  obtain ⟨place, inclusion, reaches, shallow, same⟩ := asks
  exact ⟨number :: place, inclusion, reaches.nested asking loads passes, shallow, same⟩

end Asks

/-- Of inclusions at their places, the first one that fails is reached and fails in the given way;
where there is no failure, none of them fails. -/
def Blames (loader : SourceLoader) (limit : Nat) (stands : List Nat → Inclusion → Prop) :
    Option PreprocessError → Prop
  | none => ∀ place inclusion, stands place inclusion → inclusion.fault? loader limit = none
  | some error => ∃ place inclusion, Reaches loader limit stands place inclusion ∧
      inclusion.fault? loader limit = some error

namespace Blames

variable {loader : SourceLoader} {limit depth number : Nat} {path : String}
  {lines : List (List Char)} {line target : List Char} {fault more : Option PreprocessError}

/-- The first failure of lines is that of the first line, or else the first one behind it. -/
theorem cons (first : Blames loader limit (Includes loader depth path number [line]) fault)
    (rest : Blames loader limit (Includes loader depth path (number + 1) lines) more) :
    Blames loader limit (Includes loader depth path number (line :: lines)) (fault.or more) := by
  cases fault with
  | some error =>
    obtain ⟨place, inclusion, reaches, fails⟩ := first
    exact ⟨place, inclusion, reaches.on_line, fails⟩
  | none =>
    cases more with
    | none =>
      intro place inclusion stands
      rcases Includes.cons_iff.mp stands with on_line | behind
      · exact first place inclusion on_line
      · exact rest place inclusion behind
    | some error =>
      obtain ⟨place, inclusion, reaches, fails⟩ := rest
      exact ⟨place, inclusion, reaches.behind first, fails⟩

/-- For a line with an inclusion that passes, the inclusions in the file are to blame. -/
theorem single {included : String} (asks : IsInclusion line target)
    (loads : loader (String.ofList target) = .ok included)
    (passes : Inclusion.fault? loader limit ⟨path, number, String.ofList target, depth⟩ = none)
    (inside : Blames loader limit (Includes loader (depth + 1) (String.ofList target) 1
      (Text.lines included.toList)) fault) :
    Blames loader limit (Includes loader depth path number [line]) fault := by
  cases fault with
  | none =>
    intro place inclusion stands
    rcases (Includes.single_iff asks).mp stands with ⟨-, rfl⟩ | ⟨other, inner, -, loads', below⟩
    · exact passes
    · obtain rfl := Except.ok.inj (loads.symm.trans loads')
      exact inside inner inclusion below
  | some error =>
    obtain ⟨place, inclusion, reaches, fails⟩ := inside
    exact ⟨number :: place, inclusion, reaches.nested asks loads passes, fails⟩

/-- What fails is the failure of every failing inclusion that is reached, and there is one. -/
theorem eq_some_iff {error : PreprocessError}
    (blames : Blames loader limit (Includes loader depth path number lines) fault) :
    fault = some error ↔ ∃ place inclusion,
      Reaches loader limit (Includes loader depth path number lines) place inclusion ∧
      inclusion.fault? loader limit = some error := by
  constructor
  · rintro rfl
    exact blames
  · rintro ⟨place, inclusion, reaches, fails⟩
    cases fault with
    | none =>
      rw [blames place inclusion reaches.standing] at fails
      contradiction
    | some other =>
      obtain ⟨place', inclusion', reaches', fails'⟩ := blames
      rw [reaches'.fault_unique fails' reaches fails]

end Blames

/-! ## Runs that fail -/

namespace Preprocessing

/-- From every state the computation ends with this failure, or succeeds where there is none. -/
def FailsWith {α : Type} (computation : Preprocessing α) (fault : Option PreprocessError) : Prop :=
  ∀ state, PreprocessError.ofResult? (computation.run state).1 = fault

/-- Of computations in a row the first failure is that of the first, or else that of the second. -/
theorem FailsWith.append {first second : Preprocessing (List Char)}
    {fault more : Option PreprocessError} (front : first.FailsWith fault)
    (back : second.FailsWith more) :
    FailsWith
      (do
        let front ← first
        let back ← second
        return front ++ back : Preprocessing (List Char))
      (fault.or more) := by
  intro state
  have failed := front state
  rw [run_append]
  generalize first.run state = outcome at failed ⊢
  obtain ⟨error | text, between⟩ := outcome
  · rw [← failed]
    rfl
  · have failed_behind := back between
    simp only
    generalize second.run between = outcome at failed_behind ⊢
    rw [← failed, ← failed_behind]
    obtain ⟨error | text, final⟩ := outcome <;> rfl

end Preprocessing

namespace Preprocessor

open Preprocessing

variable {loader : SourceLoader} {options : PreprocessOptions} {depth levels number : Nat}
  {path : String}

/-- A line without an inclusion never fails, and there is nothing on it to blame. -/
theorem failsWith_of_not_inclusion {splice : Nat → String → Preprocessing (List Char)}
    {line : List Char} (other : ∀ target, ¬IsInclusion line target) :
    (expandOne options path splice number line).FailsWith none ∧
      Blames loader options.maxDepth (Includes loader depth path number [line]) none := by
  refine ⟨fun state => ?_, fun place inclusion stands => ?_⟩
  case refine_2 => exact absurd stands.exists_target (not_exists.mpr other)
  unfold expandOne
  cases read : Directive.ofLine? line with
  | none =>
    rw [run_bind, run_expandLine]
    rfl
  | some directive =>
    cases directive with
    | define name body => rfl
    | inclusion target => exact absurd (Directive.ofLine?_eq_inclusion_iff.mp read) (other target)
    | ignored => rfl

/-- Lines fail with the failure of the first line that fails. -/
theorem exists_failsWith_lines {splice : Nat → String → Preprocessing (List Char)}
    (one : ∀ number line, ∃ fault, (expandOne options path splice number line).FailsWith fault ∧
      Blames loader options.maxDepth (Includes loader depth path number [line]) fault)
    (number : Nat) (lines : List (List Char)) :
    ∃ fault, (expandLines options path splice number lines).FailsWith fault ∧
      Blames loader options.maxDepth (Includes loader depth path number lines) fault := by
  induction lines generalizing number with
  | nil =>
    refine ⟨none, fun state => rfl, fun place inclusion stands => ?_⟩
    obtain ⟨i, small, -⟩ := stands.exists_head
    exact absurd small (Nat.not_lt_zero i)
  | cons line lines ih =>
    obtain ⟨fault, fails, blames⟩ := one number line
    obtain ⟨more, fails_behind, blames_behind⟩ := ih (number + 1)
    exact ⟨fault.or more, fails.append fails_behind, blames.cons blames_behind⟩

/-- A line fails with the failure of the first inclusion on it or below it that fails, whatever the
macros are. The induction is on the levels that are left. -/
theorem exists_failsWith_one (loader : SourceLoader) (levels depth : Nat) (path : String)
    (together : depth + levels = options.maxDepth) (number : Nat) (line : List Char) :
    ∃ fault, (expandOne options path (inclusionAt loader options path levels) number
        line).FailsWith fault ∧
      Blames loader options.maxDepth (Includes loader depth path number [line]) fault := by
  induction levels generalizing depth path number line with
  | zero =>
    -- no level is left, so any inclusion on the line lies at the limit
    by_cases asking : ∃ target, IsInclusion line target
    · obtain ⟨target, asks⟩ := asking
      have read := Directive.ofLine?_eq_inclusion_iff.mpr asks
      have deep : options.maxDepth ≤ depth := Nat.le_of_eq together.symm
      refine ⟨some (.tooDeep (String.ofList target) path number options.maxDepth), ?_, ?_⟩
      · intro state
        simp only [expandOne, read]
        rfl
      · exact ⟨_, _, .direct asks, Inclusion.fault?_of_le deep⟩
    · exact ⟨none, failsWith_of_not_inclusion (not_exists.mp asking)⟩
  | succ levels ih =>
    by_cases asking : ∃ target, IsInclusion line target
    · obtain ⟨target, asks⟩ := asking
      have read := Directive.ofLine?_eq_inclusion_iff.mpr asks
      have shallow : depth < options.maxDepth := by omega
      simp only [expandOne, read, inclusionAt]
      cases loads : loader (String.ofList target) with
      | ok included =>
        -- the inclusion itself passes, so what is to blame stands in its file
        obtain ⟨fault, fails, blames⟩ := exists_failsWith_lines
          (ih (depth + 1) (String.ofList target) (by omega)) 1 (Text.lines included.toList)
        refine ⟨fault, ?_, Blames.single asks loads (Inclusion.fault?_of_ok shallow loads) blames⟩
        rw [← expandText_eq] at fails
        exact fails
      | error trouble =>
        cases trouble with
        | missing text =>
          refine ⟨some (.includeNotFound (String.ofList target) path number), fun state => rfl, ?_⟩
          exact ⟨_, _, .direct asks, Inclusion.fault?_of_missing shallow loads⟩
        | unreadable cause =>
          refine ⟨some (.unreadable (String.ofList target) cause), fun state => rfl, ?_⟩
          exact ⟨_, _, .direct asks, Inclusion.fault?_of_unreadable shallow loads⟩
    · exact ⟨none, failsWith_of_not_inclusion (not_exists.mp asking)⟩

/-- Another loader makes no difference to lines if it makes none to each line that is reached. -/
theorem run_expandLines_of_asks {splice splice' : Nat → String → Preprocessing (List Char)}
    {other : SourceLoader}
    (one : ∀ number line, ∃ fault, (expandOne options path splice number line).FailsWith fault ∧
      Blames loader options.maxDepth (Includes loader depth path number [line]) fault)
    (same_one : ∀ number line,
      (∀ target, Asks loader options.maxDepth (Includes loader depth path number [line]) target →
        other target = loader target) →
      ∀ state, (expandOne options path splice' number line).run state =
        (expandOne options path splice number line).run state)
    (number : Nat) (lines : List (List Char))
    (agree : ∀ target,
      Asks loader options.maxDepth (Includes loader depth path number lines) target →
      other target = loader target) (state : MacroState) :
    (expandLines options path splice' number lines).run state =
      (expandLines options path splice number lines).run state := by
  induction lines generalizing number state with
  | nil => rfl
  | cons line lines ih =>
    obtain ⟨fault, fails, blames⟩ := one number line
    have same := same_one number line fun target asks => agree target asks.on_line
    have failed := fails state
    rw [expandLines, expandLines, run_append, run_append, same]
    generalize (expandOne options path splice number line).run state = outcome at failed ⊢
    obtain ⟨error | front, between⟩ := outcome
    · rfl
    · -- the line did not fail, so nothing on it hinders those behind it
      obtain rfl : none = fault := failed
      have same_behind := ih (number + 1) fun target asks => agree target (asks.behind blames)
      simp only [same_behind]

/-- Only what the loader says to the questions it is asked matters to a line. -/
theorem run_expandOne_of_asks {other : SourceLoader} (levels depth : Nat) (path : String)
    (together : depth + levels = options.maxDepth) (number : Nat) (line : List Char)
    (agree : ∀ target,
      Asks loader options.maxDepth (Includes loader depth path number [line]) target →
      other target = loader target) (state : MacroState) :
    (expandOne options path (inclusionAt other options path levels) number line).run state =
      (expandOne options path (inclusionAt loader options path levels) number line).run state := by
  induction levels generalizing depth path number line state with
  | zero => rfl
  | succ levels ih =>
    unfold expandOne
    cases read : Directive.ofLine? line with
    | none => rfl
    | some directive =>
      cases directive with
      | define name body => rfl
      | ignored => rfl
      | inclusion target =>
        have asks := Directive.ofLine?_eq_inclusion_iff.mp read
        have shallow : depth < options.maxDepth := by omega
        have same := agree (String.ofList target) (.direct asks shallow)
        simp only [inclusionAt, same]
        cases loads : loader (String.ofList target) with
        | error trouble => cases trouble <;> rfl
        | ok included =>
          have passes : Inclusion.fault? loader options.maxDepth
              ⟨path, number, String.ofList target, depth⟩ = none :=
            Inclusion.fault?_of_ok shallow loads
          simp only [expandText_eq]
          exact run_expandLines_of_asks
            (exists_failsWith_one loader levels (depth + 1) (String.ofList target) (by omega))
            (ih (depth + 1) (String.ofList target) (by omega)) 1 (Text.lines included.toList)
            (fun target asked => agree target (asked.nested asks loads passes)) state

/-- Preprocessing fails with the failure of the first inclusion that fails. -/
theorem exists_blames (preprocessor : Preprocessor) (state : MacroState) (path text : String) :
    ∃ fault, PreprocessError.ofResult? (preprocessor.preprocess state path text).1 = fault ∧
      Blames preprocessor.loader preprocessor.options.maxDepth
        (Includes preprocessor.loader 0 path 1 (Text.lines text.toList)) fault := by
  obtain ⟨fault, fails, blames⟩ := exists_failsWith_lines
    (exists_failsWith_one preprocessor.loader preprocessor.options.maxDepth 0 path
      (Nat.zero_add _)) 1 (Text.lines text.toList)
  refine ⟨fault, ?_, blames⟩
  have failed := fails state
  rw [← expandText_eq] at failed
  rw [preprocess_eq, ← failed]
  generalize (expandText preprocessor.loader preprocessor.options preprocessor.options.maxDepth path
    text.toList).run state = outcome
  obtain ⟨error | chars, final⟩ := outcome <;> rfl

/-- Preprocessing terminates and blames the right inclusion, whatever the loader, the macros and the
limits are. It fails exactly if it reaches an inclusion that fails, and with the failure of that
inclusion. It reaches finitely many inclusions, none of them deeper than the limit. The loader is
asked for the targets of those above the limit, so what it would say to other questions makes no
difference. And if an inclusion in a file leads to another one of the same file, preprocessing
fails. -/
theorem preprocess_fails_iff_reaches (preprocessor : Preprocessor) (state : MacroState)
    (path text : String) :
    let loader := preprocessor.loader
    let limit := preprocessor.options.maxDepth
    let stands := Includes loader 0 path 1 (Text.lines text.toList)
    (∀ error, (preprocessor.preprocess state path text).1 = .error error ↔
      ∃ place inclusion, Reaches loader limit stands place inclusion ∧
        inclusion.fault? loader limit = some error) ∧
    {place | ∃ inclusion, Reaches loader limit stands place inclusion}.Finite ∧
    (∀ place inclusion, Reaches loader limit stands place inclusion → inclusion.depth ≤ limit) ∧
    (∀ other : SourceLoader,
      (∀ target, Asks loader limit stands target → other target = loader target) →
      (⟨other, preprocessor.options⟩ : Preprocessor).preprocess state path text =
        preprocessor.preprocess state path text) ∧
    (∀ place inner first last, stands place first → stands (place ++ inner) last → inner ≠ [] →
      last.target = first.target →
      ∃ error, (preprocessor.preprocess state path text).1 = .error error) := by
  intro loader limit stands
  obtain ⟨fault, failed, blames⟩ := exists_blames preprocessor state path text
  have shallow : ∀ place inclusion, Reaches loader limit stands place inclusion →
      inclusion.depth ≤ limit := fun place inclusion reaches => reaches.depth_le (Nat.zero_le _)
  refine ⟨fun error => ?_, ?_, shallow, fun other agree => ?_, ?_⟩
  · rw [← PreprocessError.ofResult?_eq_some, failed]
    exact blames.eq_some_iff
  · refine (Includes.finite_lines (Includes.finite_one loader (limit + 1) 0 path) 1
      (Text.lines text.toList)).subset ?_
    rintro place ⟨inclusion, reaches⟩
    have counted := reaches.standing.depth_eq
    have small := shallow place inclusion reaches
    exact ⟨by omega, inclusion, reaches.standing⟩
  · rw [preprocess_eq, preprocess_eq, expandText_eq, expandText_eq, run_expandLines_of_asks
      (exists_failsWith_one loader limit 0 path (Nat.zero_add limit))
      (run_expandOne_of_asks limit 0 path (Nat.zero_add limit)) 1 (Text.lines text.toList) agree]
  · intro place inner first last upper lower proper cycle
    obtain ⟨deep, inclusion, standing, -, enough⟩ := upper.exists_deep lower proper cycle limit
    cases fault with
    | some error => exact ⟨error, PreprocessError.ofResult?_eq_some.mp failed⟩
    | none =>
      have passes := blames deep inclusion standing
      rw [Inclusion.fault?_of_le enough] at passes
      contradiction

/-- Two files that include each other, and no others. -/
def cyclicFiles : SourceLoader := fun path =>
  if path = "a.glsl" then .ok "// a\n#include 'b.glsl'"
  else if path = "b.glsl" then .ok "#include \"a.glsl\""
  else .error (.missing path)

/-- Files that include each other lead from the second line of a text to an inclusion at each depth,
so preprocessing fails under every limit, and before it comes to the file that is missing. With no
level of inclusion it does not even ask the loader. -/
theorem preprocess_fails_iff_reaches_cycle :
    let text := "#define N 1\n#include a.glsl\n#include none.glsl"
    let stands := Includes cyclicFiles 0 "main.glsl" 1 (Text.lines text.toList)
    let limited (limit : Nat) : Preprocessor := ⟨cyclicFiles, ⟨4, 4, limit⟩⟩
    ((limited 3).preprocess .empty "main.glsl" text).1 =
        .error (.tooDeep "b.glsl" "a.glsl" 2 3) ∧
      (∃ place inclusion, Reaches cyclicFiles 3 stands place inclusion ∧
        inclusion.fault? cyclicFiles 3 = some (.tooDeep "b.glsl" "a.glsl" 2 3)) ∧
      stands [2] ⟨"main.glsl", 2, "a.glsl", 0⟩ ∧ stands [2, 2, 1] ⟨"b.glsl", 1, "a.glsl", 2⟩ ∧
      (∀ limit, ∃ error, ((limited limit).preprocess .empty "main.glsl" text).1 = .error error) ∧
      (∀ other : SourceLoader,
        (⟨other, ⟨4, 4, 0⟩⟩ : Preprocessor).preprocess .empty "main.glsl" text =
          (limited 0).preprocess .empty "main.glsl" text) := by
  intro text stands limited
  have failed : ((limited 3).preprocess .empty "main.glsl" text).1 =
      .error (.tooDeep "b.glsl" "a.glsl" 2 3) :=
    PreprocessError.ofResult?_eq_some.mp (by decide +kernel)
  have in_main : IsInclusion "#include a.glsl".toList "a.glsl".toList :=
    Directive.ofLine?_eq_inclusion_iff.mp (by decide +kernel)
  have in_a : IsInclusion "#include 'b.glsl'".toList "b.glsl".toList :=
    Directive.ofLine?_eq_inclusion_iff.mp (by decide +kernel)
  have in_b : IsInclusion "#include \"a.glsl\"".toList "a.glsl".toList :=
    Directive.ofLine?_eq_inclusion_iff.mp (by decide +kernel)
  have second_line : (Text.lines text.toList)[1]? = some "#include a.glsl".toList := by
    decide +kernel
  have loads_a : cyclicFiles (String.ofList "a.glsl".toList) = .ok "// a\n#include 'b.glsl'" := by
    decide +kernel
  have loads_b : cyclicFiles (String.ofList "b.glsl".toList) = .ok "#include \"a.glsl\"" := by
    decide +kernel
  have upper : stands [2] ⟨"main.glsl", 2, "a.glsl", 0⟩ := .direct second_line in_main
  have lower : stands ([2] ++ [2, 1]) ⟨"b.glsl", 1, "a.glsl", 2⟩ := by
    refine .nested second_line in_main loads_a ?_
    refine .nested (i := 1) (by decide +kernel) in_a loads_b ?_
    exact .direct (i := 0) (by decide +kernel) in_b
  have results := fun limit => preprocess_fails_iff_reaches (limited limit) .empty "main.glsl" text
  refine ⟨failed, ((results 3).1 _).mp failed, upper, lower, fun limit => ?_, fun other => ?_⟩
  · exact (results limit).2.2.2.2 [2] [2, 1] _ _ upper lower (by decide) rfl
  · refine (results 0).2.2.2.1 other fun target asks => ?_
    obtain ⟨place, inclusion, -, shallow, -⟩ := asks
    exact absurd shallow (Nat.not_lt_zero _)

end Preprocessor

end ShaderSyntax
