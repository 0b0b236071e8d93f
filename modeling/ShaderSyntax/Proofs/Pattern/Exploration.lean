import ShaderSyntax.Proofs.Pattern.Matching

/-!
# Checking automata for all texts

Two facts about automata speak of every text: that stopping is always preferred least
(`Automaton.Patient`), and that an automaton, once another accepts, accepts nothing that goes on
from there (`Automaton.Guards`). Both are checked by going through all threads that some text leads
to (`explore`). There are too many characters to step over each; but the threads behind a character
depend only on how its code point lies to the ends of the ranges in the heads
(`CharSet.containsCode_congr`), so one code point between two neighbouring ends stands for all.
-/

set_option autoImplicit false

namespace ShaderSyntax

/-! ## Code points -/

namespace CharSet

/-- The ranges of the blanks. -/
def blankRanges : List (Nat × Nat) := [
  (0x9, 0xd), (0x20, 0x20), (0x85, 0x85), (0xa0, 0xa0), (0x1680, 0x1680), (0x2000, 0x200a),
  (0x2028, 0x2029), (0x202f, 0x202f), (0x205f, 0x205f), (0x3000, 0x3000)]

/-- Membership of a code point. -/
def containsCode : CharSet → Nat → Bool
  | .none, _ => false
  | .range low high, code => low.toNat ≤ code && code ≤ high.toNat
  | .blanks, code => blankRanges.any fun range => range.1 ≤ code && code ≤ range.2
  | .union first second, code => first.containsCode code || second.containsCode code
  | .complement set, code => !set.containsCode code

/-- The code points at which membership may change. -/
def edges : CharSet → List Nat
  | .none => []
  | .range low high => [low.toNat, high.toNat + 1]
  | .blanks => blankRanges.flatMap fun range => [range.1, range.2 + 1]
  | .union first second => first.edges ++ second.edges
  | .complement set => set.edges

/-- The set of blanks has the codes of the characters that are blank. -/
theorem containsCode_blanks (c : Char) : CharSet.blanks.containsCode c.toNat = Text.isBlank c := by
  have code : ∀ d : Char, c = d ↔ c.toNat = d.toNat := fun d => Char.toNat_inj.symm
  have order : ∀ d e : Char, d ≤ e ↔ d.toNat ≤ e.toNat := fun d e => Iff.rfl
  rw [Bool.eq_iff_iff]
  simp only [containsCode, blankRanges, List.any_cons, List.any_nil, Text.isBlank, Bool.or_eq_true,
    Bool.and_eq_true, decide_eq_true_eq, code, order]
  simp only [Char.reduceToNat, Bool.false_eq_true, or_false]
  omega

/-- A character is a member if its code point is. -/
theorem containsCode_toNat (set : CharSet) (c : Char) :
    set.containsCode c.toNat = set.contains c := by
  induction set with
  | none => rfl
  | range low high => rfl
  | blanks => exact containsCode_blanks c
  | union first second ihf ihs => rw [containsCode, contains, ihf, ihs]
  | complement set ih => rw [containsCode, contains, ih]

/-- Code points that lie alike to all edges are members of the same sets. -/
theorem containsCode_congr {set : CharSet} {m n : Nat} (alike : ∀ e ∈ set.edges, e ≤ m ↔ e ≤ n) :
    set.containsCode m = set.containsCode n := by
  induction set with
  | none => rfl
  | range low high =>
    have from_low := alike low.toNat (by simp [edges])
    have to_high := alike (high.toNat + 1) (by simp [edges])
    rw [Bool.eq_iff_iff]
    simp only [containsCode, Bool.and_eq_true, decide_eq_true_eq]
    omega
  | blanks =>
    rw [Bool.eq_iff_iff]
    simp only [containsCode, List.any_eq_true, Bool.and_eq_true, decide_eq_true_eq]
    refine exists_congr fun range => and_congr_right fun listed => ?_
    have ends : ∀ e ∈ [range.1, range.2 + 1], e ≤ m ↔ e ≤ n :=
      fun e of_range => alike e (List.mem_flatMap.mpr ⟨range, listed, of_range⟩)
    have from_low := ends range.1 (by simp)
    have to_high := ends (range.2 + 1) (by simp)
    omega
  | union first second ihf ihs =>
    simp only [edges, List.mem_append] at alike
    rw [containsCode, containsCode, ihf fun e listed => alike e (.inl listed),
      ihs fun e listed => alike e (.inr listed)]
  | complement set ih => rw [containsCode, containsCode, ih alike]

/-- Among zero and some edges one lies to all of them as a code point does. -/
theorem exists_alike (edges : List Nat) (code : Nat) :
    ∃ n ∈ 0 :: edges, ∀ e ∈ edges, e ≤ code ↔ e ≤ n := by
  have greatest : ∃ n ∈ 0 :: edges, n ≤ code ∧ ∀ e ∈ edges, e ≤ code → e ≤ n := by
    induction edges with
    | nil => exact ⟨0, by simp⟩
    | cons edge edges ih =>
      obtain ⟨n, listed, below, greatest⟩ := ih
      by_cases more : n < edge ∧ edge ≤ code
      · refine ⟨edge, by simp, more.2, ?_⟩
        intro e there within
        obtain rfl | there := List.mem_cons.mp there
        · exact Nat.le_refl _
        · exact Nat.le_trans (greatest e there within) (Nat.le_of_lt more.1)
      · refine ⟨n, by simp only [List.mem_cons] at listed ⊢; tauto, below, ?_⟩
        intro e there within
        obtain rfl | there := List.mem_cons.mp there
        · omega
        · exact greatest e there within
  obtain ⟨n, listed, below, greatest⟩ := greatest
  exact ⟨n, listed, fun e there => ⟨greatest e there, fun upto => Nat.le_trans upto below⟩⟩

end CharSet

/-! ## Exploration -/

section

variable {α : Type} [DecidableEq α] {next : α → List α} {good : α → Bool}

/-- Goes through all that can be reached; true if everything met is good and nothing is left when
the steps run out. -/
def explore (next : α → List α) (good : α → Bool) : Nat → List α → List α → Bool
  | _, [], _ => true
  | 0, _ :: _, _ => false
  | steps + 1, first :: todo, seen =>
    if first ∈ seen then explore next good steps todo seen
    else good first && explore next good steps (next first ++ todo) (first :: seen)

/-- A successful exploration ends with a closed collection of good things. -/
theorem exists_closed_of_explore {steps : Nat} {todo seen : List α}
    (explored : explore next good steps todo seen = true)
    (kept : ∀ x ∈ seen, good x = true ∧ next x ⊆ todo ++ seen) :
    ∃ closed : List α, todo ++ seen ⊆ closed ∧
      ∀ x ∈ closed, good x = true ∧ next x ⊆ closed := by
  fun_induction explore next good steps todo seen with
  | case1 steps seen => exact ⟨seen, List.Subset.refl _, kept⟩
  | case2 => simp at explored
  | case3 steps first todo seen known ih =>
    have same : first :: todo ++ seen ⊆ todo ++ seen :=
      List.cons_subset.mpr ⟨List.mem_append_right _ known, List.Subset.refl _⟩
    obtain ⟨closed, within, closes⟩ := ih explored
      fun x listed => ⟨(kept x listed).1, List.Subset.trans (kept x listed).2 same⟩
    exact ⟨closed, List.Subset.trans same within, closes⟩
  | case4 steps first todo seen fresh ih =>
    rw [Bool.and_eq_true] at explored
    have more : first :: todo ++ seen ⊆ next first ++ todo ++ first :: seen := by
      intro x listed
      simp only [List.mem_append, List.mem_cons] at listed ⊢
      tauto
    obtain ⟨closed, within, closes⟩ := ih explored.2 (by
      intro x listed
      obtain rfl | behind := List.mem_cons.mp listed
      · exact ⟨explored.1, fun y there => by simp [there]⟩
      · exact ⟨(kept x behind).1, List.Subset.trans (kept x behind).2 more⟩)
    exact ⟨closed, List.Subset.trans more within, closes⟩

end

/-! ## Checks of automata -/

namespace Automaton

variable {automaton first second : Automaton} {threads : List Nat}

/-- The thread of a head behind a character with code point `code`. -/
def Head.nextCode? (code : Nat) : Head → Option Nat
  | .stop => none
  | .take chars next => if chars.containsCode code then some next else none

/-- The code points at which what a head takes may change. -/
def Head.edges : Head → List Nat
  | .stop => []
  | .take chars _ => chars.edges

/-- The threads behind a character with code point `code`, nothing dropped. -/
def onwardCode (automaton : Automaton) (threads : List Nat) (code : Nat) : List Nat :=
  (automaton.heads threads).filterMap (Head.nextCode? code)

/-- The code points at which the threads behind a character may change. -/
def edges (automaton : Automaton) (threads : List Nat) : List Nat :=
  (automaton.heads threads).flatMap Head.edges

/-- Threads go on alike over a character and over a code between the same edges of their sets. -/
theorem onward_eq_onwardCode {c : Char} {code : Nat}
    (alike : ∀ e ∈ automaton.edges threads, e ≤ c.toNat ↔ e ≤ code) :
    automaton.onward threads c = automaton.onwardCode threads code := by
  refine List.filterMap_congr fun head listed => ?_
  cases head with
  | stop => rfl
  | take chars next =>
    have same : chars.containsCode c.toNat = chars.containsCode code :=
      CharSet.containsCode_congr fun e there => alike e (List.mem_flatMap.mpr ⟨_, listed, there⟩)
    rw [Head.next?, Head.nextCode?, ← same, CharSet.containsCode_toNat]

/-- Where there are no threads there are none behind any text. -/
@[simp] theorem after_nil_threads (automaton : Automaton) (text : List Char) :
    automaton.after [] text = [] := by
  induction text with
  | nil => rfl
  | cons c text ih =>
    have nowhere : automaton.onward [] c = [] := by simp [onward]
    change automaton.after (automaton.onward [] c) text = []
    rw [nowhere, ih]

/-! ### Stopping last -/

/-- All threads that one character may lead to. -/
def successors (automaton : Automaton) (threads : List Nat) : List (List Nat) :=
  (0 :: automaton.edges threads).map (automaton.onwardCode threads)

/-- Checks that stopping is always preferred least. -/
def isPatient (automaton : Automaton) (steps : Nat) : Bool :=
  explore automaton.successors (fun threads => .stop ∉ (automaton.heads threads).dropLast) steps
    [[automaton.start]] []

/-- An automaton that passes the check is patient. -/
theorem patient_of_check {steps : Nat} (checked : automaton.isPatient steps = true) :
    automaton.Patient [automaton.start] := by
  obtain ⟨closed, within, closes⟩ := exists_closed_of_explore checked (by simp)
  have along : ∀ text threads, threads ∈ closed →
      .stop ∉ (automaton.heads (automaton.after threads text)).dropLast := by
    intro text
    induction text with
    | nil => exact fun threads listed => of_decide_eq_true (closes threads listed).1
    | cons c text ih =>
      intro threads listed
      obtain ⟨code, at_edge, alike⟩ :=
        CharSet.exists_alike (automaton.edges threads) c.toNat
      refine ih _ ((closes threads listed).2 ?_)
      exact List.mem_map.mpr ⟨code, at_edge, (onward_eq_onwardCode alike).symm⟩
  exact fun text => along text _ (within (by simp))

/-! ### One before the other -/

/-- Once the first automaton accepts, the second accepts nothing that goes on from there. -/
def Guards (first second : Automaton) : Prop :=
  ∀ word more, first.Accepts first.start word → ¬second.Accepts second.start (word ++ more)

/-- All pairs of threads that one character may lead to, without those where one of the two is at
its end. -/
def successorPairs (first second : Automaton) (pair : List Nat × List Nat) :
    List (List Nat × List Nat) :=
  ((0 :: (first.edges pair.1 ++ second.edges pair.2)).map fun code =>
    (first.onwardCode pair.1 code, second.onwardCode pair.2 code)).filter fun pair =>
      !pair.1.isEmpty && !pair.2.isEmpty

/-- Checks that the second automaton is at its end once the first accepts. -/
def guards (first second : Automaton) (steps : Nat) : Bool :=
  explore (successorPairs first second)
    (fun pair => .stop ∉ first.heads pair.1 || (second.heads pair.2).isEmpty) steps
    [([first.start], [second.start])] []

/-- Of two automata that pass the check, the first guards the second. -/
theorem guards_of_check {steps : Nat} (checked : guards first second steps = true) :
    Guards first second := by
  obtain ⟨closed, within, closes⟩ := exists_closed_of_explore checked (by simp)
  have along : ∀ word pair, pair ∈ closed → .stop ∈ first.heads (first.after pair.1 word) →
      second.heads (second.after pair.2 word) = [] := by
    intro word
    induction word with
    | nil =>
      intro pair listed stops
      change .stop ∈ first.heads pair.1 at stops
      change second.heads pair.2 = []
      simpa [stops] using (closes pair listed).1
    | cons c word ih =>
      intro pair listed stops
      change .stop ∈ first.heads (first.after (first.onward pair.1 c) word) at stops
      change second.heads (second.after (second.onward pair.2 c) word) = []
      by_cases first_ends : first.onward pair.1 c = []
      · simp [first_ends] at stops
      by_cases second_ends : second.onward pair.2 c = []
      · simp [second_ends]
      obtain ⟨code, at_edge, alike⟩ :=
        CharSet.exists_alike (first.edges pair.1 ++ second.edges pair.2) c.toNat
      refine ih (first.onward pair.1 c, second.onward pair.2 c) ((closes pair listed).2 ?_) stops
      refine List.mem_filter.mpr ⟨List.mem_map.mpr ⟨code, at_edge, ?_⟩, by
        simp [first_ends, second_ends]⟩
      rw [onward_eq_onwardCode fun e there => alike e (List.mem_append_left _ there),
        onward_eq_onwardCode fun e there => alike e (List.mem_append_right _ there)]
  intro word more accepts goes_on
  rw [← acceptsAny_singleton, acceptsAny_iff_stop] at accepts
  have ends := along word ([first.start], [second.start]) (within (by simp)) accepts
  rw [← acceptsAny_singleton, acceptsAny_append] at goes_on
  cases more with
  | nil => simp [acceptsAny_nil, ends] at goes_on
  | cons c more =>
    have nowhere : second.onward (second.after [second.start] word) c = [] := by
      simp [onward, ends]
    rw [acceptsAny_cons, nowhere, acceptsAny_iff_stop] at goes_on
    simp at goes_on

end Automaton

end ShaderSyntax
