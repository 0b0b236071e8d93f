import Mathlib.Data.Set.Finite.Lattice
import ShaderSyntax.Preprocess.Directive
import ShaderSyntax.Preprocess.Error
import ShaderSyntax.Source.Loader
import ShaderSyntax.Text.Lines

/-!
# The tree of inclusions

The inclusions in a text, in the files it includes, and so on, form a tree that need not be finite:
files may include themselves. A place in it is the list of the line numbers that lead there
(`Includes`). Down to a depth there are finitely many places (`Includes.finite_one`), and if an
inclusion leads to another one of the same file, then to inclusions in every depth
(`Includes.exists_deep`).
-/

set_option autoImplicit false

namespace ShaderSyntax

/-! ## Lines that ask for inclusions -/

/-- A line asks for the inclusion of a target: behind the hash sign it has the word `include` and an
argument, which is the target apart from quotation marks. -/
def IsInclusion (line target : List Char) : Prop :=
  ∃ rest argument more, Text.trim line = '#' :: rest ∧
    Text.words rest = "include".toList :: argument :: more ∧
    target = argument.filter fun c => !Directive.isQuotationMark c

/-- A line is read as an inclusion exactly if it asks for one. -/
theorem Directive.ofLine?_eq_inclusion_iff {line target : List Char} :
    Directive.ofLine? line = some (.inclusion target) ↔ IsInclusion line target := by
  have not_define : "include".toList ≠ "define".toList := by decide
  constructor
  · intro read
    unfold Directive.ofLine? at read
    split at read
    case h_2 => simp at read
    case h_1 rest trimmed =>
      rw [Option.some.injEq] at read
      unfold Directive.ofWords at read
      split at read
      case h_1 => simp at read
      case h_2 => simp at read
      case h_3 head argument more words =>
        split at read
        case isTrue => simp at read
        case isFalse =>
          split at read
          case isFalse => simp at read
          case isTrue include_word =>
            rw [Directive.inclusion.injEq] at read
            exact ⟨rest, argument, more, trimmed, include_word ▸ words, read.symm⟩
  · rintro ⟨rest, argument, more, trimmed, words, rfl⟩
    simp only [Directive.ofLine?, trimmed, words, Directive.ofWords, if_neg not_define, if_true]

/-- A line asks for one target only. -/
theorem IsInclusion.unique {line target other : List Char} (asks : IsInclusion line target)
    (asks_too : IsInclusion line other) : target = other := by
  rw [← Directive.ofLine?_eq_inclusion_iff] at asks asks_too
  rw [asks] at asks_too
  exact Directive.inclusion.inj (Option.some.inj asks_too)

/-! ## The tree -/

/-- An inclusion as preprocessing meets it: the file and the line it stands on, its target, and the
number of inclusions that its file lies below. -/
structure Inclusion where
  source : String
  line : Nat
  target : String
  depth : Nat
  deriving DecidableEq, Repr

/-- The inclusions in lines of a file, the first of which has the given number, and in the files
that these include, and so on, with their places: the numbers of the lines that lead to them, the
outermost first. -/
inductive Includes (loader : SourceLoader) :
    Nat → String → Nat → List (List Char) → List Nat → Inclusion → Prop
  | direct {depth : Nat} {path : String} {number : Nat} {lines : List (List Char)} {i : Nat}
      {line target : List Char} (at_i : lines[i]? = some line) (asks : IsInclusion line target) :
      Includes loader depth path number lines [number + i]
        ⟨path, number + i, String.ofList target, depth⟩
  | nested {depth : Nat} {path : String} {number : Nat} {lines : List (List Char)} {i : Nat}
      {line target : List Char} {included : String} {place : List Nat} {inclusion : Inclusion}
      (at_i : lines[i]? = some line) (asks : IsInclusion line target)
      (loads : loader (String.ofList target) = .ok included)
      (inside : Includes loader (depth + 1) (String.ofList target) 1
        (Text.lines included.toList) place inclusion) :
      Includes loader depth path number lines ((number + i) :: place) inclusion

namespace Includes

variable {loader : SourceLoader} {depth number : Nat} {path : String} {lines : List (List Char)}
  {place : List Nat} {inclusion first last : Inclusion} {line target : List Char}

/-- A place begins with the number of one of the lines. -/
theorem exists_head (includes : Includes loader depth path number lines place inclusion) :
    ∃ i < lines.length, ∃ inner, place = (number + i) :: inner := by
  cases includes with
  | direct at_i asks => exact ⟨_, (List.getElem?_eq_some_iff.mp at_i).1, _, rfl⟩
  | nested at_i asks loads inside => exact ⟨_, (List.getElem?_eq_some_iff.mp at_i).1, _, rfl⟩

/-- The place of an inclusion is not empty: it ends in the number of a line. -/
theorem ne_nil (includes : Includes loader depth path number lines place inclusion) :
    place ≠ [] := by
  obtain ⟨i, -, inner, rfl⟩ := includes.exists_head
  exact List.cons_ne_nil _ _

/-- The depth of an inclusion is told by the length of its place. -/
theorem depth_eq (includes : Includes loader depth path number lines place inclusion) :
    inclusion.depth + 1 = depth + place.length := by
  induction includes with
  | direct at_i asks => rfl
  | nested at_i asks loads inside ih =>
    rw [ih, List.length_cons]
    omega

/-- An inclusion stands on one of the lines, or in a file that one of them includes. -/
theorem cases_iff : Includes loader depth path number lines place inclusion ↔
    ∃ i line target, lines[i]? = some line ∧ IsInclusion line target ∧
      (place = [number + i] ∧ inclusion = ⟨path, number + i, String.ofList target, depth⟩ ∨
        ∃ included inner, place = (number + i) :: inner ∧
          loader (String.ofList target) = .ok included ∧
          Includes loader (depth + 1) (String.ofList target) 1 (Text.lines included.toList) inner
            inclusion) := by
  constructor
  · intro includes
    cases includes with
    | direct at_i asks => exact ⟨_, _, _, at_i, asks, .inl ⟨rfl, rfl⟩⟩
    | nested at_i asks loads inside =>
      exact ⟨_, _, _, at_i, asks, .inr ⟨_, _, rfl, loads, inside⟩⟩
  · rintro ⟨i, line, target, at_i, asks, ⟨rfl, rfl⟩ | ⟨included, inner, rfl, loads, inside⟩⟩
    · exact .direct at_i asks
    · exact .nested at_i asks loads inside

/-- At a place that begins with a line stands the inclusion that the line asks for, or one in its
file. -/
theorem below_iff {i : Nat} (at_i : lines[i]? = some line) (asks : IsInclusion line target) :
    Includes loader depth path number lines ((number + i) :: place) inclusion ↔
      place = [] ∧ inclusion = ⟨path, number + i, String.ofList target, depth⟩ ∨
      ∃ included, loader (String.ofList target) = .ok included ∧
        Includes loader (depth + 1) (String.ofList target) 1 (Text.lines included.toList) place
          inclusion := by
  constructor
  · intro includes
    obtain ⟨j, line', target', at_j, asks', here | below⟩ := cases_iff.mp includes
    · obtain ⟨same, rfl⟩ := here
      obtain ⟨head, rfl⟩ := List.cons.inj same
      obtain rfl : i = j := Nat.add_left_cancel head
      obtain rfl := Option.some.inj (at_i.symm.trans at_j)
      rw [asks.unique asks']
      exact .inl ⟨rfl, rfl⟩
    · obtain ⟨included, inner, same, loads, inside⟩ := below
      obtain ⟨head, rfl⟩ := List.cons.inj same
      obtain rfl : i = j := Nat.add_left_cancel head
      obtain rfl := Option.some.inj (at_i.symm.trans at_j)
      obtain rfl := asks.unique asks'
      exact .inr ⟨included, loads, inside⟩
  · rintro (⟨rfl, rfl⟩ | ⟨included, loads, inside⟩)
    · exact .direct at_i asks
    · exact .nested at_i asks loads inside

/-- No two inclusions have the same place. -/
theorem unique (one : Includes loader depth path number lines place first)
    (other : Includes loader depth path number lines place last) : first = last := by
  induction one with
  | direct at_i asks =>
    rcases (below_iff at_i asks).mp other with ⟨-, rfl⟩ | ⟨included, loads, inside⟩
    · rfl
    · exact absurd rfl inside.ne_nil
  | nested at_i asks loads inside ih =>
    rcases (below_iff at_i asks).mp other with ⟨rfl, -⟩ | ⟨included, loads', inside'⟩
    · exact absurd rfl inside.ne_nil
    · obtain rfl := Except.ok.inj (loads.symm.trans loads')
      exact ih inside'

/-- Above an inclusion, at each depth from the outermost on, is one that leads to it. Its place is
the front of the other place, so it comes first. -/
theorem exists_above {upper_depth : Nat}
    (includes : Includes loader depth path number lines place inclusion)
    (outer : depth ≤ upper_depth) (above : upper_depth < inclusion.depth) :
    ∃ front upper, Includes loader depth path number lines front upper ∧ front < place ∧
      upper.depth = upper_depth := by
  induction includes with
  | direct at_i asks => exact absurd above (Nat.not_lt_of_le outer)
  | nested at_i asks loads inside ih =>
    rcases Nat.eq_or_lt_of_le outer with rfl | inner
    · obtain ⟨j, -, rest, rfl⟩ := inside.exists_head
      refine ⟨_, _, .direct at_i asks, ?_, rfl⟩
      exact List.cons_lt_cons_iff.mpr (.inr ⟨rfl, List.nil_lt_cons _ _⟩)
    · obtain ⟨front, upper, stands, before, same⟩ := ih inner above
      refine ⟨_, upper, .nested at_i asks loads stands, ?_, same⟩
      exact List.cons_lt_cons_iff.mpr (.inr ⟨rfl, before⟩)

/-- The inclusions in lines are those on the first line and those in the lines behind it. -/
theorem cons_iff : Includes loader depth path number (line :: lines) place inclusion ↔
    Includes loader depth path number [line] place inclusion ∨
      Includes loader depth path (number + 1) lines place inclusion := by
  have shift : ∀ i, number + 1 + i = number + (i + 1) := by
    intro i
    omega
  rw [cases_iff, cases_iff, cases_iff]
  constructor
  · rintro ⟨i, asking, target, at_i, rest⟩
    cases i with
    | zero => exact .inl ⟨0, asking, target, at_i, rest⟩
    | succ i =>
      refine .inr ⟨i, asking, target, at_i, ?_⟩
      rw [shift]
      exact rest
  · rintro (⟨i, asking, target, at_i, rest⟩ | ⟨i, asking, target, at_i, rest⟩)
    · cases i with
      | zero => exact ⟨0, asking, target, at_i, rest⟩
      | succ i => simp at at_i
    · rw [shift] at rest
      exact ⟨i + 1, asking, target, at_i, rest⟩

/-- On a line that asks for an inclusion stands this inclusion, with those in its file below it. -/
theorem single_iff (asks : IsInclusion line target) :
    Includes loader depth path number [line] place inclusion ↔
      place = [number] ∧ inclusion = ⟨path, number, String.ofList target, depth⟩ ∨
      ∃ included inner, place = number :: inner ∧ loader (String.ofList target) = .ok included ∧
        Includes loader (depth + 1) (String.ofList target) 1 (Text.lines included.toList) inner
          inclusion := by
  rw [cases_iff]
  constructor
  · rintro ⟨i, asking, other, at_i, asks', rest⟩
    cases i with
    | succ i => simp at at_i
    | zero =>
      obtain rfl : line = asking := Option.some.inj at_i
      obtain rfl := asks.unique asks'
      exact rest
  · intro rest
    exact ⟨0, line, target, rfl, asks, rest⟩

/-- On any other line stands none. -/
theorem exists_target (includes : Includes loader depth path number [line] place inclusion) :
    ∃ target, IsInclusion line target := by
  obtain ⟨i, asking, target, at_i, asks, -⟩ := cases_iff.mp includes
  cases i with
  | succ i => simp at at_i
  | zero =>
    obtain rfl : line = asking := Option.some.inj at_i
    exact ⟨target, asks⟩

/-! ### Finitely many places down to a depth -/

/-- Lines have finitely many inclusions at places up to a length, if each line has, whatever its
number. -/
theorem finite_lines {bound : Nat} (one : ∀ number line,
      {place | place.length ≤ bound ∧
        ∃ inclusion, Includes loader depth path number [line] place inclusion}.Finite)
    (number : Nat) (lines : List (List Char)) :
    {place | place.length ≤ bound ∧
      ∃ inclusion, Includes loader depth path number lines place inclusion}.Finite := by
  induction lines generalizing number with
  | nil =>
    refine Set.finite_empty.subset ?_
    rintro place ⟨-, inclusion, includes⟩
    obtain ⟨i, small, -⟩ := includes.exists_head
    exact absurd small (Nat.not_lt_zero i)
  | cons line lines ih =>
    refine ((one number line).union (ih (number + 1))).subset ?_
    rintro place ⟨short, inclusion, includes⟩
    exact (cons_iff.mp includes).imp (fun on_line => ⟨short, inclusion, on_line⟩)
      fun behind => ⟨short, inclusion, behind⟩

/-- Although files may include themselves, there are finitely many places down to a depth. -/
theorem finite_one (loader : SourceLoader) (bound depth : Nat) (path : String) (number : Nat)
    (line : List Char) :
    {place | place.length ≤ bound ∧
      ∃ inclusion, Includes loader depth path number [line] place inclusion}.Finite := by
  induction bound generalizing depth path number line with
  | zero =>
    refine Set.finite_empty.subset ?_
    rintro place ⟨short, inclusion, includes⟩
    exact absurd (List.length_eq_zero_iff.mp (Nat.le_zero.mp short)) includes.ne_nil
  | succ bound ih =>
    by_cases asking : ∃ target, IsInclusion line target
    · obtain ⟨target, asks⟩ := asking
      have below : {inner | inner.length ≤ bound ∧ ∃ included inclusion,
          loader (String.ofList target) = .ok included ∧
          Includes loader (depth + 1) (String.ofList target) 1 (Text.lines included.toList) inner
            inclusion}.Finite := by
        cases loads : loader (String.ofList target) with
        | error trouble =>
          refine Set.finite_empty.subset ?_
          rintro inner ⟨-, included, inclusion, loads', -⟩
          contradiction
        | ok text =>
          refine (finite_lines (ih (depth + 1) (String.ofList target)) 1
            (Text.lines text.toList)).subset ?_
          rintro inner ⟨short, included, inclusion, loads', inside⟩
          obtain rfl := Except.ok.inj loads'
          exact ⟨short, inclusion, inside⟩
      refine ((below.image (number :: ·)).insert [number]).subset ?_
      rintro place ⟨short, inclusion, includes⟩
      rcases (single_iff asks).mp includes with ⟨rfl, -⟩ | ⟨included, inner, rfl, loads, inside⟩
      · exact Set.mem_insert [number] _
      · have short_inner : inner.length ≤ bound := Nat.le_of_succ_le_succ short
        exact .inr ⟨inner, ⟨short_inner, included, inclusion, loads, inside⟩, rfl⟩
    · refine Set.finite_empty.subset ?_
      rintro place ⟨-, inclusion, includes⟩
      exact asking includes.exists_target

/-! ### Cycles -/

/-- What stands below an inclusion stands in its file. -/
theorem inside_of_append {inner : List Nat}
    (upper : Includes loader depth path number lines place first)
    (lower : Includes loader depth path number lines (place ++ inner) last) (proper : inner ≠ []) :
    ∃ text, loader first.target = .ok text ∧
      Includes loader (first.depth + 1) first.target 1 (Text.lines text.toList) inner last := by
  induction upper with
  | direct at_i asks =>
    rcases (below_iff at_i asks).mp lower with ⟨nothing, -⟩ | ⟨text, loads, inside⟩
    · exact absurd nothing proper
    · exact ⟨text, loads, inside⟩
  | nested at_i asks loads inside ih =>
    rcases (below_iff at_i asks).mp lower with ⟨nothing, -⟩ | ⟨text, loads', inside'⟩
    · exact absurd (List.append_eq_nil_iff.mp nothing).2 proper
    · obtain rfl := Except.ok.inj (loads.symm.trans loads')
      exact ih inside'

/-- What stands in the file of an inclusion stands below it. -/
theorem append {inner : List Nat} {text : String}
    (upper : Includes loader depth path number lines place first)
    (loads : loader first.target = .ok text)
    (inside : Includes loader (first.depth + 1) first.target 1 (Text.lines text.toList) inner
      last) :
    Includes loader depth path number lines (place ++ inner) last := by
  induction upper with
  | direct at_i asks => exact .nested at_i asks loads inside
  | nested at_i asks loads_outer outer ih => exact .nested at_i asks loads_outer (ih loads inside)

/-- The same inclusions stand in lines at any depth. -/
theorem exists_at_depth (includes : Includes loader depth path number lines place inclusion)
    (other : Nat) :
    ∃ copy, Includes loader other path number lines place copy ∧
      copy.target = inclusion.target := by
  induction includes generalizing other with
  | direct at_i asks => exact ⟨_, .direct at_i asks, rfl⟩
  | nested at_i asks loads inside ih =>
    obtain ⟨copy, stands, same⟩ := ih (other + 1)
    exact ⟨copy, .nested at_i asks loads stands, same⟩

/-- If an inclusion leads to another one of the same file, it leads to one in any depth. -/
theorem exists_deep {inner : List Nat} (upper : Includes loader depth path number lines place first)
    (lower : Includes loader depth path number lines (place ++ inner) last) (proper : inner ≠ [])
    (cycle : last.target = first.target) (bound : Nat) :
    ∃ deep inclusion, Includes loader depth path number lines deep inclusion ∧
      inclusion.target = first.target ∧ bound ≤ inclusion.depth := by
  obtain ⟨text, loads, inside⟩ := upper.inside_of_append lower proper
  induction bound with
  | zero => exact ⟨place, first, upper, rfl, Nat.zero_le _⟩
  | succ bound ih =>
    obtain ⟨deep, inclusion, stands, same, enough⟩ := ih
    obtain ⟨copy, stands_inside, same_copy⟩ := inside.exists_at_depth (inclusion.depth + 1)
    rw [← same] at loads stands_inside
    refine ⟨deep ++ inner, copy, stands.append loads stands_inside, same_copy.trans cycle, ?_⟩
    have counted := stands_inside.depth_eq
    have some_inner := List.length_pos_iff.mpr proper
    omega

end Includes

end ShaderSyntax
