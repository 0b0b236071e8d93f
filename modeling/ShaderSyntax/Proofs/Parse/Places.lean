import ShaderSyntax.Proofs.Parse.Reports
import ShaderSyntax.Proofs.Token.Partition

/-!
# Where errors are reported

A report gives a place twice, as a number of bytes and as line and column. Both come with the
rejected token, and as long as recasting leaves the places of tokens they belong to one point of the
source (`SyntaxError.LiesIn`).

At the end of input there is no token. The feed makes up a lookahead that stands just past the last
token taken: line and column are where this token's span stops, but the bytes are counted from its
text as it has been recast. So the two agree exactly if recasting left the length of the last
token's text (`Engine.places_of_parse`). The invariant says which tokens have been taken, and that
the feed stands just past the last of them (`TableBundle.Looks`).
-/

set_option autoImplicit false

namespace ShaderSyntax

/-- The number of bytes and the line and column belong to one point of a text. -/
def SyntaxError.LiesIn (error : SyntaxError) (text : List Char) : Prop :=
  Position.At ⟨error.line, error.column⟩ error.offset text

/-! ## The feed -/

/-- The bytes up to the end of the last token's text, and the place where its span stops. -/
def pastTokens (tokens : List Token) : Nat × Position :=
  match tokens.getLast? with
  | none => (0, Position.origin)
  | some token => (token.offset + utf8Length token.text.toList, token.span.stop)

/-- Past tokens with one more behind is past that one. -/
@[simp] theorem pastTokens_append (tokens : List Token) (token : Token) :
    pastTokens (tokens ++ [token]) =
      (token.offset + utf8Length token.text.toList, token.span.stop) := by
  simp [pastTokens]

/-- The tokens were taken from the front of an input, skipped ones included, and the feed stands
just past the last of them. -/
structure Feed.Behind (feed : Feed) (input : List (Except Unmatched Token)) (tokens : List Token) :
    Prop where
  split : input = tokens.map .ok ++ feed.input
  offset : feed.offset = (pastTokens tokens).1
  place : feed.place = (pastTokens tokens).2

namespace TableBundle

/-- A lookahead with the feed behind it: a token of the input just past which the feed stands, or
the end where the feed stands when nothing is ahead. -/
inductive Looks (tables : TableBundle) (input : List (Except Unmatched Token)) :
    Lookahead → Feed → Prop
  | token {tokens : List Token} {token : Token} {feed : Feed}
      (behind : feed.Behind input (tokens ++ [token])) :
      Looks tables input ⟨tables.symbol token.kind, token⟩ feed
  | atEnd {tokens : List Token} {feed : Feed} (behind : feed.Behind input tokens)
      (ended : feed.input = []) :
      Looks tables input (tables.endLookahead feed.offset feed.place) feed

variable {tables : TableBundle} {input : List (Except Unmatched Token)}
  {lookahead first last new : Lookahead} {feed rest : Feed} {count : Nat}

/-- A lookahead that is taken from what is ahead of the taken tokens looks at the input behind them.
-/
theorem looks_of_nextFrom {tokens : List Token} {taken offset : Nat} {place : Position}
    {ahead : List (Except Unmatched Token)} (split : input = tokens.map .ok ++ ahead)
    (past : pastTokens tokens = (offset, place))
    (next : Feed.nextFrom tables taken offset place ahead = .ok (lookahead, feed)) :
    tables.Looks input lookahead feed := by
  induction ahead generalizing tokens offset place with
  | nil =>
    simp only [Feed.nextFrom, Except.ok.injEq, Prod.mk.injEq] at next
    obtain ⟨rfl, rfl⟩ := next
    have behind : Feed.Behind ⟨[], offset, place, taken⟩ input tokens :=
      ⟨split, by rw [past], by rw [past]⟩
    exact .atEnd behind rfl
  | cons item ahead ih =>
    cases item with
    | error fault => simp [Feed.nextFrom] at next
    | ok token =>
      have one_more : input = (tokens ++ [token]).map .ok ++ ahead := by
        rw [split, List.map_append, List.append_assoc]
        rfl
      simp only [Feed.nextFrom] at next
      split at next
      case isTrue skipped => exact ih one_more (pastTokens_append tokens token) next
      case isFalse wanted =>
        simp only [Except.ok.injEq, Prod.mk.injEq] at next
        obtain ⟨rfl, rfl⟩ := next
        exact .token ⟨one_more, by rw [pastTokens_append], by rw [pastTokens_append]⟩

/-- The first lookahead of an input. -/
theorem looks_of_ofInput (taken : (Feed.ofInput input).next tables = .ok (lookahead, feed)) :
    tables.Looks input lookahead feed := by
  have split : input = ([] : List Token).map .ok ++ input := rfl
  exact looks_of_nextFrom split rfl taken

/-- Behind a lookahead stands another one. -/
theorem Looks.next (looks : tables.Looks input lookahead feed)
    (taken : feed.next tables = .ok (new, rest)) : tables.Looks input new rest := by
  have onward : ∀ {tokens : List Token}, feed.Behind input tokens →
      tables.Looks input new rest := by
    intro tokens behind
    exact looks_of_nextFrom behind.split (Prod.ext behind.offset.symm behind.place.symm) taken
  cases looks with
  | token behind => exact onward behind
  | atEnd behind ended => exact onward behind

/-- Dropping lookaheads ends at one that looks at the input further on. -/
theorem Looks.drops (looks : tables.Looks input first feed)
    (dropped : tables.Drops first feed count last rest) : tables.Looks input last rest := by
  induction dropped with
  | none => exact looks
  | drop open_ended taken others ih => exact ih (looks.next taken)

end TableBundle

/-! ## Places in the source -/

/-- Recasting leaves the places of tokens. -/
def Lexer.KeepsPlaces (lexer : Lexer) : Prop :=
  ∀ entry ∈ lexer.entries, ∀ recast, entry.1.recast = some recast →
    ∀ token, (recast token).offset = token.offset ∧ (recast token).span = token.span

/-- A lexer leaves places if its rules do. -/
theorem Lexer.keepsPlaces_of_rules {rules : List TokenRule} {lexer : Lexer}
    (made : ofRules rules = .ok lexer)
    (keeps : ∀ rule ∈ rules, ∀ recast, rule.recast = some recast →
      ∀ token, (recast token).offset = token.offset ∧ (recast token).span = token.span) :
    lexer.KeepsPlaces := by
  intro entry listed
  apply keeps
  rw [← (entries_of_ofRules made).1]
  exact List.mem_map_of_mem listed

/-- What lies before a piece is a front of the text. -/
theorem Lexer.before_isPrefix (lexer : Lexer) (text : List Char) (i : Nat) :
    (lexer.read text).before i <+: text := by
  have front : (lexer.read text).before i <+: (lexer.read text).consumed := by
    refine ⟨covered ((lexer.read text).lexemes.drop i), ?_⟩
    rw [Reading.before, Reading.consumed, covered, covered, ← List.flatten_append,
      ← List.map_append, List.take_append_drop, covered]
  exact front.trans (lexer.partitions_read text).consumed

/-- A piece starts and stops at points of the text. -/
theorem Lexer.at_of_read {lexer : Lexer} {text : List Char} {piece : Piece}
    (read : piece ∈ (lexer.read text).pieces) :
    piece.span.start.At piece.offset text ∧
      piece.span.stop.At (piece.offset + utf8Length piece.lexeme.text) text := by
  obtain ⟨i, at_i⟩ := List.getElem?_of_mem read
  obtain ⟨offset, span⟩ := (lexer.partitions_read text).placed i piece at_i
  rw [offset, span]
  refine ⟨⟨_, lexer.before_isPrefix text i, rfl, rfl⟩, ⟨_, lexer.before_isPrefix text (i + 1), ?_,
    rfl⟩⟩
  rw [Lexer.before_succ at_i, utf8Length_append]

namespace Reading

variable {reading : Reading} {feed : Feed} {tokens : List Token}

/-- The tokens taken from a reading are those of its first kept pieces; when nothing is ahead there
was no fault and they are those of all of them. -/
theorem tokens_of_behind (behind : feed.Behind reading.stream tokens) :
    tokens <+: reading.kept.map tokenOf ∧
      (feed.input = [] → tokens = reading.kept.map tokenOf ∧ reading.fault = none) := by
  have split := behind.split
  rw [stream_eq] at split
  have same := congrArg (List.filterMap Except.toOption) split
  have taken : tokens ++ feed.input.filterMap Except.toOption = reading.kept.map tokenOf := by
    have no_fault : (reading.fault.map (Except.error (α := Token))).toList.filterMap
        Except.toOption = [] := by
      cases reading.fault <;> rfl
    simpa [List.filterMap_append, List.filterMap_map, no_fault, Function.comp_def,
      Except.toOption] using same.symm
  refine ⟨⟨_, taken⟩, ?_⟩
  intro ended
  rw [ended, List.filterMap_nil, List.append_nil] at taken
  refine ⟨taken, ?_⟩
  have lengths := congrArg List.length split
  cases failed : reading.fault with
  | none => rfl
  | some fault => simp [failed, ended, taken] at lengths

end Reading

/-! ## Reports -/

variable {C V L : Type}

namespace Engine

/-- What a report at a configuration says: the kind and the text of the lookahead, for which the
state has no action, neither its own nor by default, and the labels of the state's row in order. -/
structure Rejects (engine : Engine C V) (c : Configuration C V L) : Prop where
  action : ∀ symbol, c.lookahead.symbol = some symbol → engine.tables.action c.top symbol = none
  default : engine.tables.defaultAction c.top = none
  kind : (engine.errorAt c).kind = c.lookahead.token.kind
  text : (engine.errorAt c).text = c.lookahead.token.text
  expected : (engine.errorAt c).expected =
    ((engine.tables.actions[c.top]?).getD []).map fun entry => engine.tables.label entry.1

/-- A configuration that reports an error rejects its lookahead. -/
theorem rejects_of_reporting {engine : Engine C V} {c : Configuration C V L}
    (reports : engine.reporting c = true) : engine.Rejects c := by
  rw [reporting, Bool.and_eq_true, Option.isNone_iff_eq_none, TableBundle.lookup,
    Option.or_eq_none_iff] at reports
  obtain ⟨-, row, default⟩ := reports
  refine ⟨?_, default, rfl, rfl, rfl⟩
  intro symbol same
  rwa [same, Option.bind_some] at row

/-- The lookahead is a token of the source, and the report lies in the source. -/
structure RejectsToken (engine : Engine C V) (reading : Reading) (text : List Char)
    (c : Configuration C V L) (piece : Piece) : Prop where
  kept : piece ∈ reading.kept
  token : c.lookahead = ⟨engine.tables.symbol (Reading.tokenOf piece).kind, Reading.tokenOf piece⟩
  lies : (engine.errorAt c).LiesIn text
  within : (engine.errorAt c).offset ≤ utf8Length text

/-- The lookahead is the end of the source. Line and column are where its last token stops, or the
origin if there is none; the bytes are counted from the token's text as recast, and so the report
lies in the source exactly if that text is as long as the lexeme. -/
structure RejectsEnd (engine : Engine C V) (reading : Reading) (text : List Char)
    (c : Configuration C V L) : Prop where
  whole : reading.fault = none
  ended : c.lookahead = engine.tables.endLookahead c.feed.offset c.feed.place
  void : reading.kept = [] → (engine.errorAt c).LiesIn text
  place : ∀ piece, reading.kept.getLast? = some piece →
    (⟨(engine.errorAt c).line, (engine.errorAt c).column⟩ : Position) = piece.span.stop ∧
    piece.span.stop.At (piece.offset + utf8Length piece.lexeme.text) text
  offset : ∀ piece, reading.kept.getLast? = some piece → (engine.errorAt c).offset =
    piece.offset + utf8Length (Reading.tokenOf piece).text.toList
  lies_iff : ∀ piece, reading.kept.getLast? = some piece → ((engine.errorAt c).LiesIn text ↔
    utf8Length (Reading.tokenOf piece).text.toList = utf8Length piece.lexeme.text)

variable {engine : Engine C V} {c next : Configuration C V L} {source : String}

/-- A lookahead that is a token of the source. -/
theorem rejectsToken_of_behind (keeps : engine.lexer.KeepsPlaces) {tokens : List Token}
    {token : Token} (behind : c.feed.Behind (engine.lexer.stream source) (tokens ++ [token]))
    (same : c.lookahead = ⟨engine.tables.symbol token.kind, token⟩) :
    ∃ piece, engine.RejectsToken (engine.lexer.read source.toList) source.toList c piece := by
  obtain ⟨front, -⟩ := Reading.tokens_of_behind behind
  have listed : token ∈ (engine.lexer.read source.toList).kept.map Reading.tokenOf :=
    front.subset (by simp)
  obtain ⟨piece, kept, rfl⟩ := List.mem_map.mp listed
  have read := (List.mem_filter.mp kept).1
  obtain ⟨offset, span, -⟩ := Lexer.tokenOf_of_read keeps read
  have lies : (engine.errorAt c).LiesIn source.toList := by
    rw [SyntaxError.LiesIn, errorAt, same]
    simp only [TableBundle.syntaxError, offset, span]
    exact (Lexer.at_of_read read).1
  exact ⟨piece, kept, same, lies, lies.offset_le⟩

/-- A lookahead that stands for the end of the source. -/
theorem rejectsEnd_of_behind (keeps : engine.lexer.KeepsPlaces) {tokens : List Token}
    (behind : c.feed.Behind (engine.lexer.stream source) tokens) (ended : c.feed.input = [])
    (same : c.lookahead = engine.tables.endLookahead c.feed.offset c.feed.place) :
    engine.RejectsEnd (engine.lexer.read source.toList) source.toList c := by
  obtain ⟨-, all⟩ := Reading.tokens_of_behind behind
  obtain ⟨rfl, whole⟩ := all ended
  have offset : (engine.errorAt c).offset = c.feed.offset := by
    rw [errorAt, same]
    rfl
  have place : (⟨(engine.errorAt c).line, (engine.errorAt c).column⟩ : Position) =
      c.feed.place := by
    rw [errorAt, same]
    rfl
  have at_end : ∀ piece, (engine.lexer.read source.toList).kept.getLast? = some piece →
      (c.feed.offset = piece.offset + utf8Length (Reading.tokenOf piece).text.toList ∧
        c.feed.place = piece.span.stop) ∧
      piece.span.stop.At (piece.offset + utf8Length piece.lexeme.text) source.toList := by
    intro piece last
    have read := (List.mem_filter.mp (List.mem_of_getLast? last)).1
    obtain ⟨same_offset, span, -⟩ := Lexer.tokenOf_of_read keeps read
    refine ⟨?_, (Lexer.at_of_read read).2⟩
    rw [behind.offset, behind.place, pastTokens, List.getLast?_map, last]
    simp only [Option.map_some, same_offset, span, and_self]
  refine ⟨whole, same, ?_, ?_, ?_, ?_⟩
  · intro none_kept
    rw [SyntaxError.LiesIn, offset, place, behind.offset, behind.place, none_kept]
    exact ⟨[], List.nil_prefix, rfl, rfl⟩
  · intro piece last
    obtain ⟨⟨-, stop⟩, there⟩ := at_end piece last
    exact ⟨place.trans stop, there⟩
  · intro piece last
    exact offset.trans (at_end piece last).1.1
  · intro piece last
    obtain ⟨⟨bytes, stop⟩, there⟩ := at_end piece last
    rw [SyntaxError.LiesIn, offset, place, bytes, stop]
    constructor
    · intro lies
      have same_offset := lies.offset_eq there
      omega
    · intro same_length
      rw [same_length]
      exact there

/-- The lookahead of a configuration is a token of the source or stands for its end. -/
theorem rejects_of_looks (keeps : engine.lexer.KeepsPlaces)
    (looks : engine.tables.Looks (engine.lexer.stream source) c.lookahead c.feed) :
    (∃ piece, engine.RejectsToken (engine.lexer.read source.toList) source.toList c piece) ∨
      engine.RejectsEnd (engine.lexer.read source.toList) source.toList c := by
  generalize lookahead_eq : c.lookahead = lookahead at looks
  generalize feed_eq : c.feed = feed at looks
  cases looks with
  | token behind =>
    rw [← feed_eq] at behind
    exact .inl (rejectsToken_of_behind keeps behind lookahead_eq)
  | atEnd behind ended =>
    rw [← feed_eq] at behind ended lookahead_eq
    exact .inr (rejectsEnd_of_behind keeps behind ended lookahead_eq)

variable [StackValue V] {listen : L → SyntaxError → L} {log : L} {context : C}
  {input : List (Except Unmatched Token)} {trail : List (Configuration C V L)}

/-- Each move leaves a lookahead that looks at the input. -/
theorem looks_of_moved (looks : engine.tables.Looks input c.lookahead c.feed)
    (moved : Moved engine listen c next) :
    engine.tables.Looks input next.lookahead next.feed := by
  cases moved with
  | shift looked taken => exact looks.next taken
  | reduce looked inner known deep acted target => exact looks
  | recover looked reported unwound dropped given_up acceptable => exact looks.drops dropped

/-- The lookahead is a token of the input or its end along every trail. -/
theorem looks_of_trail (before : Trail engine listen log context input trail c) :
    engine.tables.Looks input c.lookahead c.feed := by
  induction before with
  | start started =>
    obtain ⟨lookahead, feed, taken, rfl⟩ := started_eq started
    exact TableBundle.looks_of_ofInput taken
  | move before stepped ih => exact looks_of_moved ih (moved_of_step stepped)

/-- Where errors are reported. Wherever a parse of a source reports, the state has no action for the
lookahead, the report names the lookahead and what the state's row has instead, and it lies in the
source, except that at the end of the source it does so exactly if recasting has left the length of
the last token's text. Every error of a parse is reported at such a configuration. -/
theorem places_of_parse (engine : Engine C V) (keeps : engine.lexer.KeepsPlaces)
    (listen : L → SyntaxError → L) (log : L) (context : C) (source : String) :
    (∀ trail c, Trail engine listen log context (engine.lexer.stream source) trail c →
      engine.reporting c = true → engine.Rejects c ∧
      ((∃ piece, engine.RejectsToken (engine.lexer.read source.toList) source.toList c piece) ∨
        engine.RejectsEnd (engine.lexer.read source.toList) source.toList c)) ∧
    ∀ limit outcome, engine.parse limit listen log context source = some outcome →
      outcome.log = outcome.errors.foldl listen log ∧
      (∀ error, outcome.verdict = .error (.rejected error) → error ∈ outcome.errors) ∧
      ∀ error ∈ outcome.errors, ∃ trail c,
        Trail engine listen log context (engine.lexer.stream source) trail c ∧
        engine.reporting c = true ∧ error = engine.errorAt c := by
  refine ⟨?_, ?_⟩
  · intro trail c before reports
    exact ⟨rejects_of_reporting reports, rejects_of_looks keeps (looks_of_trail before)⟩
  · intro limit outcome ended
    obtain ⟨trail, finished⟩ := exists_finishes ended
    obtain ⟨told, kept, -⟩ := told_of_finishes finished
    obtain ⟨-, blames, -⟩ := blames_of_finishes finished
    refine ⟨told, ?_, ?_⟩
    · intro error failed
      exact List.mem_of_head? (blames error failed)
    · intro error mem
      rw [kept] at mem
      obtain ⟨c, reported, rfl⟩ := List.mem_map.mp mem
      obtain ⟨through, reports⟩ := List.mem_filter.mp reported
      obtain ⟨front, before⟩ := exists_trail_of_finishes finished through
      exact ⟨front, c, before, reports, rfl⟩

/-- Names lose their text. -/
def clearingRules : List TokenRule := [
  ⟨"x", "[a-z]+", false, some fun token => { token with text := "" }⟩,
  ⟨";", ";", false, none⟩,
  ⟨"BLANK", "[ \\n]+", true, none⟩]

/-- An engine whose lexer has a hook that empties texts. -/
def clearingEngine : Engine (List Nat) ParseTree :=
  treeEngine ((Lexer.ofRules clearingRules).toOption.getD ⟨[]⟩) statementTables .standard

/-- Emptying a text keeps its place. -/
theorem keepsPlaces_clearingEngine : clearingEngine.lexer.KeepsPlaces := by
  cases made : Lexer.ofRules clearingRules with
  | error fault =>
    have reads : (Lexer.ofRules clearingRules).isOk = true := by decide +kernel
    simp [made, Except.isOk, Except.toBool] at reads
  | ok lexer =>
    have same : clearingEngine.lexer = lexer := by
      simp [clearingEngine, treeEngine, made, Except.toOption]
    rw [same]
    apply Lexer.keepsPlaces_of_rules made
    intro rule listed recast hook token
    simp only [clearingRules, List.mem_cons, List.not_mem_nil, or_false] at listed
    obtain rfl | rfl | rfl := listed
    · obtain rfl := Option.some.inj hook
      exact ⟨rfl, rfl⟩
    · cases hook
    · cases hook

/-- Behind a name that has lost its text, the end is reported at the second column, and at the
bytes in front of the name. -/
theorem misplaced_end :
    clearingEngine.lexer.KeepsPlaces ∧
    ∃ outcome error, clearingEngine.parse 40 (fun log error => log ++ [error]) [] [] "a" =
        some outcome ∧ outcome.verdict = .error (.rejected error) ∧ outcome.log = [error] ∧
      (error.line, error.column, error.offset) = (1, 2, 0) ∧ ¬error.LiesIn "a".toList := by
  have facts : (clearingEngine.parse 40 (fun log error => log ++ [error]) [] [] "a").map
      (fun outcome => (outcome.failure?, outcome.log)) =
        some (some (.rejected ⟨1, 2, 0, "end", "", [";"]⟩), [⟨1, 2, 0, "end", "", [";"]⟩]) := by
    decide +kernel
  obtain ⟨outcome, ended, same⟩ := Option.map_eq_some_iff.mp facts
  simp only [Prod.mk.injEq] at same
  refine ⟨keepsPlaces_clearingEngine, outcome, _, ended,
    Outcome.failure?_eq_some.mp same.1, same.2, rfl, ?_⟩
  intro lies
  -- the second column of the text is behind one byte
  have column : Position.At ⟨1, 2⟩ 1 "a".toList := ⟨"a".toList, List.prefix_rfl, rfl, rfl⟩
  have := lies.offset_eq column
  contradiction

/-- Two errors of a source whose names have lost their text: the first, at a name, is where it
should be, and the second, at the end, is not. -/
theorem places_of_parse_clearing :
    clearingEngine.lexer.KeepsPlaces ∧
    (∃ trail, ∃ c : Configuration (List Nat) ParseTree (List SyntaxError),
      Trail clearingEngine (fun log error => log ++ [error]) [] []
        (clearingEngine.lexer.stream "a a; a; a") trail c ∧
      clearingEngine.reporting c = true ∧ clearingEngine.Rejects c ∧
      (clearingEngine.errorAt c).LiesIn "a a; a; a".toList) ∧
    (∃ trail, ∃ c : Configuration (List Nat) ParseTree (List SyntaxError),
      Trail clearingEngine (fun log error => log ++ [error]) [] []
        (clearingEngine.lexer.stream "a a; a; a") trail c ∧
      clearingEngine.reporting c = true ∧ clearingEngine.Rejects c ∧
      clearingEngine.RejectsEnd (clearingEngine.lexer.read "a a; a; a".toList)
        "a a; a; a".toList c ∧
      ¬(clearingEngine.errorAt c).LiesIn "a a; a; a".toList) ∧
    ∃ outcome, clearingEngine.parse 40 (fun log error => log ++ [error]) [] [] "a a; a; a" =
        some outcome ∧
      outcome.errors.length = 2 ∧
      outcome.log = outcome.errors.foldl (fun log error => log ++ [error]) [] ∧
      outcome.verdict = .error (.rejected ⟨1, 3, 2, "x", "", [";"]⟩) ∧
      ⟨1, 3, 2, "x", "", [";"]⟩ ∈ outcome.errors := by
  obtain ⟨along, ends⟩ := places_of_parse clearingEngine keepsPlaces_clearingEngine
    (fun log error => log ++ [error]) [] [] "a a; a; a"
  have comes_to : ∀ moves report,
      (clearingEngine.trail? (fun log error => log ++ [error]) [] []
        (clearingEngine.lexer.stream "a a; a; a") moves).map
        (fun found => (clearingEngine.reporting found.2, clearingEngine.errorAt found.2)) =
          some (true, report) →
      ∃ trail, ∃ c : Configuration (List Nat) ParseTree (List SyntaxError),
        Trail clearingEngine (fun log error => log ++ [error]) [] []
          (clearingEngine.lexer.stream "a a; a; a") trail c ∧
        clearingEngine.reporting c = true ∧ clearingEngine.errorAt c = report := by
    intro moves report facts
    obtain ⟨⟨trail, c⟩, found, same⟩ := Option.map_eq_some_iff.mp facts
    simp only [Prod.mk.injEq] at same
    exact ⟨trail, c, trail_iff.mpr ⟨moves, found⟩, same⟩
  refine ⟨keepsPlaces_clearingEngine, ?_, ?_, ?_⟩
  · obtain ⟨trail, c, before, reports, same⟩ :=
      comes_to 1 ⟨1, 3, 2, "x", "", [";"]⟩ (by decide +kernel)
    obtain ⟨rejects, ⟨piece, at_token⟩ | at_end⟩ := along trail c before reports
    · exact ⟨trail, c, before, reports, rejects, at_token.lies⟩
    · have kind := rejects.kind
      rw [same, at_end.ended] at kind
      change "x" = "end" at kind
      contradiction
  · obtain ⟨trail, c, before, reports, same⟩ :=
      comes_to 8 ⟨1, 10, 8, "end", "", [";"]⟩ (by decide +kernel)
    have outside : ¬(clearingEngine.errorAt c).LiesIn "a a; a; a".toList := by
      rw [same]
      intro lies
      have column : Position.At ⟨1, 10⟩ 9 "a a; a; a".toList :=
        ⟨"a a; a; a".toList, List.prefix_rfl, by decide, by decide⟩
      have := lies.offset_eq column
      contradiction
    obtain ⟨rejects, ⟨piece, at_token⟩ | at_end⟩ := along trail c before reports
    · exact absurd at_token.lies outside
    · exact ⟨trail, c, before, reports, rejects, at_end, outside⟩
  · have facts : (clearingEngine.parse 40 (fun log error => log ++ [error]) [] []
        "a a; a; a").map (fun outcome => (outcome.failure?, outcome.errors.length)) =
          some (some (.rejected ⟨1, 3, 2, "x", "", [";"]⟩), 2) := by
      decide +kernel
    obtain ⟨outcome, ended, same⟩ := Option.map_eq_some_iff.mp facts
    simp only [Prod.mk.injEq] at same
    have failed := Outcome.failure?_eq_some.mp same.1
    obtain ⟨told, blamed, -⟩ := ends 40 outcome ended
    exact ⟨outcome, ended, same.2, told, failed, blamed _ failed⟩

end Engine

end ShaderSyntax
