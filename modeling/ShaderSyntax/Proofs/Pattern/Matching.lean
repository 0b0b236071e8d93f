import ShaderSyntax.Proofs.Pattern.Language

/-!
# What matching finds

The threads of a match stand for the texts that their automaton accepts from any of them. Opened
into heads they tell whether the empty text is among these (`accepts_nil_iff`), and stepped over a
character they stand for what may follow it (`acceptsAny_cons`).

A match drops what it prefers less than stopping. Where stopping always comes last nothing is
dropped (`Patient`), and the preferred match is the longest one (`follow_spec`).
-/

set_option autoImplicit false

namespace ShaderSyntax.Automaton

variable {automaton : Automaton} {entered : Array Bool} {threads : List Nat} {head : Head}
  {state thread steps : Nat} {barred : Nat → Prop}

/-! ## Opening threads -/

/-- A state leads to a head without taking a character, past states that are not barred. -/
inductive Opens (automaton : Automaton) (barred : Nat → Prop) : Nat → Head → Prop
  | accept {state : Nat} (free : ¬barred state)
      (at_state : automaton.states[state]? = some .accept) : Opens automaton barred state .stop
  | take {state next : Nat} {chars : CharSet} (free : ¬barred state)
      (at_state : automaton.states[state]? = some (.take chars next)) :
      Opens automaton barred state (.take chars next)
  | fork {state preferred other next : Nat} {head : Head} (free : ¬barred state)
      (at_state : automaton.states[state]? = some (.fork preferred other))
      (choice : next = preferred ∨ next = other) (onward : Opens automaton barred next head) :
      Opens automaton barred state head

/-- A state that leads to a head is not barred. -/
theorem Opens.free (opens : automaton.Opens barred state head) : ¬barred state := by
  cases opens <;> assumption

/-- States that do not exist lead nowhere, so it does not matter whether they are barred. -/
theorem Opens.mono {fewer : Nat → Prop}
    (less : ∀ state, state < automaton.states.size → fewer state → barred state)
    (opens : automaton.Opens barred state head) : automaton.Opens fewer state head := by
  have kept : ∀ {state : Nat} {found : State}, automaton.states[state]? = some found →
      ¬barred state → ¬fewer state := by
    intro state found at_state free taken
    exact free (less state (Array.getElem?_eq_some_iff.mp at_state).1 taken)
  induction opens with
  | accept free at_state => exact .accept (kept at_state free) at_state
  | take free at_state => exact .take (kept at_state free) at_state
  | fork free at_state choice _ ih => exact .fork (kept at_state free) at_state choice ih

/-- What a state itself has to do with a head that it leads to: it is the head, or it has a way on
that does not come back. -/
def Offers (automaton : Automaton) (barred : Nat → Prop) (state : Nat) (head : Head) : Prop :=
  match automaton.states[state]? with
  | none => False
  | some .accept => head = .stop
  | some (.take chars next) => head = .take chars next
  | some (.fork preferred other) => ∃ next, (next = preferred ∨ next = other) ∧
      automaton.Opens (fun s => barred s ∨ s = state) next head

/-- A way to a head keeps away from a state, or goes on from its last visit there. -/
theorem Opens.avoids_or_offers (thread : Nat) (opens : automaton.Opens barred state head) :
    automaton.Opens (fun s => barred s ∨ s = thread) state head ∨
      automaton.Offers barred thread head := by
  induction opens with
  | @accept state free at_state =>
    by_cases here : state = thread
    · subst here
      exact .inr (by simp [Offers, at_state])
    · exact .inl (.accept (by simp [free, here]) at_state)
  | @take state next chars free at_state =>
    by_cases here : state = thread
    · subst here
      exact .inr (by simp [Offers, at_state])
    · exact .inl (.take (by simp [free, here]) at_state)
  | @fork state preferred other next head free at_state choice _ ih =>
    obtain avoids | offers := ih
    · by_cases here : state = thread
      · subst here
        refine .inr ?_
        simp only [Offers, at_state]
        exact ⟨next, choice, avoids⟩
      · exact .inl (.fork (by simp [free, here]) at_state choice avoids)
    · exact .inr offers

/-- Where threads are opened, a state is barred once it has been entered. -/
def IsEntered (entered : Array Bool) (state : Nat) : Prop :=
  entered.getD state true = true

/-- Entering a thread adds it to the states that were entered. -/
theorem isEntered_set (entered : Array Bool) (thread : Nat) :
    IsEntered (entered.setIfInBounds thread true) =
      fun state => IsEntered entered state ∨ state = thread := by
  funext state
  simp only [IsEntered, Array.getD_eq_getD_getElem?, Array.getElem?_setIfInBounds]
  by_cases same : thread = state
  · subst same
    by_cases within : thread < entered.size <;> simp [within]
  · simp [same, Ne.symm same]

/-- One state less is fresh when a fresh one is entered. -/
theorem count_set (fresh : ¬IsEntered entered thread) :
    (entered.setIfInBounds thread true).count false + 1 = entered.count false := by
  have within : thread < entered.size := by
    by_contra outside
    exact fresh (by simp [IsEntered, Array.getD_eq_getD_getElem?, Nat.le_of_not_lt outside])
  have at_thread : entered[thread] = false := by
    simpa [IsEntered, Array.getD_eq_getD_getElem?, within] using fresh
  have counted : 0 < entered.count false :=
    Array.count_pos_iff.mpr (at_thread ▸ Array.getElem_mem within)
  rw [Array.setIfInBounds_def, dif_pos within, Array.count_set within]
  simp only [at_thread, beq_self_eq_true, if_true, Bool.true_eq_false, beq_iff_eq, if_false]
  omega

/-- Each head that comes out is one that a thread leads to. -/
theorem opens_of_mem_openAll (found : head ∈ automaton.openAll steps threads entered) :
    ∃ thread ∈ threads, automaton.Opens (fun _ => False) thread head := by
  fun_induction openAll automaton steps threads entered with
  | case1 => simp at found
  | case2 => simp at found
  | case3 entered steps thread threads known ih =>
    obtain ⟨state, listed, opens⟩ := ih found
    exact ⟨state, List.mem_cons_of_mem _ listed, opens⟩
  | case4 entered steps thread threads fresh entered' at_thread ih =>
    obtain ⟨state, listed, opens⟩ := ih found
    exact ⟨state, List.mem_cons_of_mem _ listed, opens⟩
  | case5 entered steps thread threads fresh entered' at_thread ih =>
    obtain rfl | found := List.mem_cons.mp found
    · exact ⟨thread, List.mem_cons_self, .accept not_false at_thread⟩
    · obtain ⟨state, listed, opens⟩ := ih found
      exact ⟨state, List.mem_cons_of_mem _ listed, opens⟩
  | case6 entered steps thread threads fresh entered' chars next at_thread ih =>
    obtain rfl | found := List.mem_cons.mp found
    · exact ⟨thread, List.mem_cons_self, .take not_false at_thread⟩
    · obtain ⟨state, listed, opens⟩ := ih found
      exact ⟨state, List.mem_cons_of_mem _ listed, opens⟩
  | case7 entered steps thread threads fresh entered' preferred other at_thread ih =>
    obtain ⟨state, listed, opens⟩ := ih found
    simp only [List.mem_cons] at listed
    obtain rfl | rfl | listed := listed
    · exact ⟨thread, List.mem_cons_self, .fork not_false at_thread (.inl rfl) opens⟩
    · exact ⟨thread, List.mem_cons_self, .fork not_false at_thread (.inr rfl) opens⟩
    · exact ⟨state, List.mem_cons_of_mem _ listed, opens⟩

/-- With the first thread entered, a head that threads lead to is one of the later threads, or the
first one offers it. -/
theorem Opens.later_or_offers {first : Nat}
    (led : ∃ thread ∈ first :: threads, automaton.Opens (IsEntered entered) thread head) :
    (∃ thread ∈ threads,
      automaton.Opens (IsEntered (entered.setIfInBounds first true)) thread head) ∨
      automaton.Offers (IsEntered entered) first head := by
  obtain ⟨thread, listed, opens⟩ := led
  rw [isEntered_set]
  obtain avoids | offers := opens.avoids_or_offers first
  · obtain rfl | later := List.mem_cons.mp listed
    · exact absurd (.inr rfl) avoids.free
    · exact .inl ⟨thread, later, avoids⟩
  · exact .inr offers

/-- Each head that a thread leads to past states not yet entered comes out, if there are steps
enough: each step takes a thread away, or enters a state and puts two threads in its place. -/
theorem mem_openAll_of_opens (enough : threads.length + 2 * entered.count false ≤ steps)
    (led : ∃ thread ∈ threads, automaton.Opens (IsEntered entered) thread head) :
    head ∈ automaton.openAll steps threads entered := by
  fun_induction openAll automaton steps threads entered with
  | case1 threads entered =>
    obtain ⟨thread, listed, -⟩ := led
    have := List.length_pos_of_mem listed
    omega
  | case2 => simp at led
  | case3 entered steps first threads known ih =>
    obtain ⟨thread, listed, opens⟩ := led
    obtain rfl | later := List.mem_cons.mp listed
    · exact absurd known opens.free
    · exact ih (by simp only [List.length_cons] at enough; omega) ⟨thread, later, opens⟩
  | case4 entered steps first threads fresh entered' at_first ih =>
    have fewer : entered'.count false + 1 = entered.count false := count_set fresh
    rw [List.length_cons] at enough
    obtain later | offers := Opens.later_or_offers led
    · exact ih (by omega) later
    · simp [Offers, at_first] at offers
  | case5 entered steps first threads fresh entered' at_first ih =>
    have fewer : entered'.count false + 1 = entered.count false := count_set fresh
    rw [List.length_cons] at enough
    obtain later | offers := Opens.later_or_offers led
    · exact List.mem_cons_of_mem _ (ih (by omega) later)
    · simp only [Offers, at_first] at offers
      exact List.mem_cons.mpr (.inl offers)
  | case6 entered steps first threads fresh entered' chars next at_first ih =>
    have fewer : entered'.count false + 1 = entered.count false := count_set fresh
    rw [List.length_cons] at enough
    obtain later | offers := Opens.later_or_offers led
    · exact List.mem_cons_of_mem _ (ih (by omega) later)
    · simp only [Offers, at_first] at offers
      exact List.mem_cons.mpr (.inl offers)
  | case7 entered steps first threads fresh entered' preferred other at_first ih =>
    have fewer : entered'.count false + 1 = entered.count false := count_set fresh
    simp only [List.length_cons] at enough ih
    obtain ⟨thread, later, opens⟩ | offers := Opens.later_or_offers led
    · exact ih (by omega) ⟨thread, by simp [later], opens⟩
    · simp only [Offers, at_first] at offers
      obtain ⟨next, choice, onward⟩ := offers
      rw [← isEntered_set] at onward
      exact ih (by omega) ⟨next, by obtain rfl | rfl := choice <;> simp, onward⟩

/-- The heads of threads are the heads that the threads lead to. -/
theorem mem_heads_iff :
    head ∈ automaton.heads threads ↔
      ∃ thread ∈ threads, automaton.Opens (fun _ => False) thread head := by
  constructor
  · exact opens_of_mem_openAll
  · rintro ⟨thread, listed, opens⟩
    refine mem_openAll_of_opens (by simp) ⟨thread, listed, opens.mono ?_⟩
    intro state within known
    simp [IsEntered, Array.getD_eq_getD_getElem?, within] at known

/-- Where there are no threads there are no heads. -/
@[simp] theorem heads_nil (automaton : Automaton) : automaton.heads [] = [] := by
  rw [List.eq_nil_iff_forall_not_mem]
  simp [mem_heads_iff]

/-! ## What threads accept -/

/-- Some of the threads accepts a text. -/
def AcceptsAny (automaton : Automaton) (threads : List Nat) (text : List Char) : Prop :=
  ∃ thread ∈ threads, automaton.Accepts thread text

/-- The threads behind a character, nothing dropped. -/
def onward (automaton : Automaton) (threads : List Nat) (c : Char) : List Nat :=
  (automaton.heads threads).filterMap (Head.next? c)

/-- The threads behind a text, nothing dropped. -/
def after (automaton : Automaton) (threads : List Nat) (text : List Char) : List Nat :=
  text.foldl automaton.onward threads

/-- A state accepts the empty text if it leads to a stop. -/
theorem accepts_nil_iff :
    automaton.Accepts state [] ↔ automaton.Opens (fun _ => False) state .stop := by
  constructor
  · rintro ⟨steps, run⟩
    generalize nothing : [] = text at run
    induction run with
    | accept at_state => exact .accept not_false at_state
    | take => cases nothing
    | fork at_state choice _ ih => exact .fork not_false at_state choice (ih nothing)
  · intro opens
    generalize stops : Head.stop = head at opens
    induction opens with
    | accept _ at_state => exact ⟨0, .accept at_state⟩
    | take => cases stops
    | fork _ at_state choice _ ih =>
      obtain ⟨steps, run⟩ := ih stops
      exact ⟨steps + 1, .fork at_state choice run⟩

/-- A state accepts a text if it leads to a set with the first character, whose next state accepts
the rest. -/
theorem accepts_cons_iff {c : Char} {text : List Char} :
    automaton.Accepts state (c :: text) ↔ ∃ chars next,
      automaton.Opens (fun _ => False) state (.take chars next) ∧ chars.contains c = true ∧
        automaton.Accepts next text := by
  constructor
  · rintro ⟨steps, run⟩
    generalize whole : c :: text = whole at run
    induction run with
    | accept => cases whole
    | take at_state within onward =>
      obtain ⟨rfl, rfl⟩ := List.cons.inj whole
      exact ⟨_, _, .take not_false at_state, within, _, onward⟩
    | fork at_state choice _ ih =>
      obtain ⟨chars, next, opens, found⟩ := ih whole
      exact ⟨chars, next, .fork not_false at_state choice opens, found⟩
  · rintro ⟨chars, next, opens, within, steps, run⟩
    generalize takes : Head.take chars next = head at opens
    induction opens with
    | accept => cases takes
    | take _ at_state =>
      obtain ⟨rfl, rfl⟩ := Head.take.inj takes
      exact ⟨steps + 1, .take at_state within run⟩
    | fork _ at_state choice _ ih =>
      obtain ⟨steps, run⟩ := ih takes
      exact ⟨steps + 1, .fork at_state choice run⟩

/-- One thread accepts what its state does. -/
@[simp] theorem acceptsAny_singleton {text : List Char} :
    automaton.AcceptsAny [state] text ↔ automaton.Accepts state text := by
  simp [AcceptsAny]

/-- Threads accept the empty text if a stop is among their heads. -/
theorem acceptsAny_nil : automaton.AcceptsAny threads [] ↔ .stop ∈ automaton.heads threads := by
  simp only [AcceptsAny, mem_heads_iff, accepts_nil_iff]

/-- Threads accept a text if the threads behind its first character accept the rest. -/
theorem acceptsAny_cons {c : Char} {text : List Char} :
    automaton.AcceptsAny threads (c :: text) ↔
      automaton.AcceptsAny (automaton.onward threads c) text := by
  simp only [AcceptsAny, onward, List.mem_filterMap, mem_heads_iff, accepts_cons_iff]
  constructor
  · rintro ⟨thread, listed, chars, next, opens, within, accepts⟩
    exact ⟨next, ⟨.take chars next, ⟨thread, listed, opens⟩, by simp [Head.next?, within]⟩, accepts⟩
  · rintro ⟨next, ⟨head, ⟨thread, listed, opens⟩, steps⟩, accepts⟩
    cases head with
    | stop => simp [Head.next?] at steps
    | take chars target =>
      simp only [Head.next?, Option.ite_none_right_eq_some, Option.some.injEq] at steps
      obtain ⟨within, rfl⟩ := steps
      exact ⟨thread, listed, chars, target, opens, within, accepts⟩

/-- Threads accept texts in a row if the threads behind the first accept the second. -/
theorem acceptsAny_append {front back : List Char} :
    automaton.AcceptsAny threads (front ++ back) ↔
      automaton.AcceptsAny (automaton.after threads front) back := by
  induction front generalizing threads with
  | nil => rfl
  | cons c front ih => exact acceptsAny_cons.trans ih

/-- Threads accept a text if the threads behind it have a stop among their heads. -/
theorem acceptsAny_iff_stop {text : List Char} :
    automaton.AcceptsAny threads text ↔ .stop ∈ automaton.heads (automaton.after threads text) := by
  rw [← acceptsAny_nil, ← acceptsAny_append, List.append_nil]

/-! ## The longest match -/

/-- The first characters of a text, so many, are its longest beginning that is accepted. -/
structure Longest (accepts : List Char → Prop) (text : List Char) (length : Nat) : Prop where
  within : length ≤ text.length
  accepted : accepts (text.take length)
  longest : ∀ word, word <+: text → accepts word → word.length ≤ length

/-- Along every text, nothing is preferred less than stopping. -/
def Patient (automaton : Automaton) (threads : List Nat) : Prop :=
  ∀ text, .stop ∉ (automaton.heads (automaton.after threads text)).dropLast

/-- Patient threads are patient behind each character. -/
theorem Patient.onward (patient : automaton.Patient threads) (c : Char) :
    automaton.Patient (automaton.onward threads c) :=
  fun text => patient (c :: text)

/-- Where stopping comes last, no head that takes a character is dropped. -/
theorem filterMap_untilStop {c : Char} {heads : List Head} (last : .stop ∉ heads.dropLast) :
    (untilStop heads).filterMap (Head.next? c) = heads.filterMap (Head.next? c) := by
  induction heads with
  | nil => rfl
  | cons first heads ih =>
    cases heads with
    | nil => cases first <;> simp [untilStop, Head.next?]
    | cons second heads =>
      rw [List.dropLast_cons_cons, List.mem_cons, not_or] at last
      have kept : untilStop (first :: second :: heads) = first :: untilStop (second :: heads) :=
        List.takeWhile_cons_of_pos (by simpa using Ne.symm last.1)
      rw [kept, List.filterMap_cons, List.filterMap_cons, ih last.2]

/-- Without threads the best length so far is the result. -/
theorem follow_no_threads (passed : Nat) (best : Option Nat) (text : List Char) :
    automaton.follow [] passed best text = best := by
  cases text with
  | nil => simp [follow]
  | cons c rest => simp [follow, untilStop]

/-- Patient threads are followed over a character: a stop among the heads makes the length so far
the best, and all other threads go on. -/
theorem follow_cons (patient : automaton.Patient threads) (passed : Nat) (best : Option Nat)
    (c : Char) (rest : List Char) :
    automaton.follow threads passed best (c :: rest) =
      automaton.follow (automaton.onward threads c) (passed + 1)
        (if .stop ∈ automaton.heads threads then some passed else best) rest := by
  have all := filterMap_untilStop (c := c) (patient [])
  change (untilStop (automaton.heads threads)).filterMap (Head.next? c) =
    automaton.onward threads c at all
  simp only [follow, all]
  split
  case h_1 none_left => rw [none_left, follow_no_threads]
  case h_2 => rfl

/-- The match is the longest beginning of the text that the threads accept; if they accept none, it
is the best one found before. -/
theorem follow_spec (patient : automaton.Patient threads) (passed : Nat) (best : Option Nat)
    (text : List Char) :
    (∃ length, automaton.follow threads passed best text = some (passed + length) ∧
      Longest (automaton.AcceptsAny threads) text length) ∨
    (automaton.follow threads passed best text = best ∧
      ∀ word, word <+: text → ¬automaton.AcceptsAny threads word) := by
  induction text generalizing threads passed best with
  | nil =>
    simp only [List.prefix_nil, forall_eq, follow, acceptsAny_nil]
    by_cases stops : .stop ∈ automaton.heads threads
    · rw [if_pos stops]
      exact .inl ⟨0, rfl, Nat.le_refl _, acceptsAny_nil.mpr stops, by simp [List.prefix_nil]⟩
    · rw [if_neg stops]
      exact .inr ⟨rfl, stops⟩
  | cons c rest ih =>
    rw [follow_cons patient]
    obtain ⟨length, found, within, accepted, longest⟩ | ⟨found, none_fits⟩ :=
      ih (patient.onward c) (passed + 1)
        (if .stop ∈ automaton.heads threads then some passed else best)
    · refine .inl ⟨length + 1, by rw [found, Nat.add_assoc, Nat.add_comm 1], ?_⟩
      refine ⟨Nat.succ_le_succ within, acceptsAny_cons.mpr accepted, ?_⟩
      intro word here fits
      obtain rfl | ⟨word', rfl, ahead⟩ := List.prefix_cons_iff.mp here
      · exact Nat.zero_le _
      · exact Nat.succ_le_succ (longest word' ahead (acceptsAny_cons.mp fits))
    · -- behind the character nothing is accepted, so the empty beginning is all that may be
      have only : ∀ word, word <+: c :: rest → automaton.AcceptsAny threads word → word = [] := by
        intro word here fits
        obtain rfl | ⟨word', rfl, ahead⟩ := List.prefix_cons_iff.mp here
        · rfl
        · exact absurd (acceptsAny_cons.mp fits) (none_fits word' ahead)
      rw [found]
      by_cases stops : .stop ∈ automaton.heads threads
      · rw [if_pos stops]
        refine .inl ⟨0, rfl, Nat.zero_le _, acceptsAny_nil.mpr stops, ?_⟩
        intro word here fits
        rw [only word here fits]
        exact Nat.le_refl _
      · rw [if_neg stops]
        refine .inr ⟨rfl, fun word here fits => stops ?_⟩
        rw [only word here fits] at fits
        exact acceptsAny_nil.mp fits

/-- A patient automaton matches the longest beginning of a text that it accepts, and fails if it
accepts none. -/
theorem matchLength?_spec (patient : automaton.Patient [automaton.start]) (text : List Char) :
    (∃ length, automaton.matchLength? text = some length ∧
      Longest (automaton.Accepts automaton.start) text length) ∨
    (automaton.matchLength? text = none ∧
      ∀ word, word <+: text → ¬automaton.Accepts automaton.start word) := by
  have spec := follow_spec patient 0 none text
  have same : automaton.AcceptsAny [automaton.start] = automaton.Accepts automaton.start := by
    funext word
    exact propext acceptsAny_singleton
  rw [same] at spec
  simpa [matchLength?] using spec

end ShaderSyntax.Automaton
