import ShaderSyntax.Token.Lexer

/-!
# Lexing is a partition of the text

The lexemes of a text, kept and discarded, lie in it one behind the other from its start on; what is
not covered is left because no rule applies there. Everything that is said about a lexeme, its place
and the counts up to it, is what the text before it and the lexeme itself say
(`Reading.Partitions`).

A lexer is also read item by item, as a parser does it (`Scan.next`). The items are those of the
whole reading, in order, and nothing comes behind a fault; after each item the counts are those of
the lexemes passed so far (`Lexer.read_partitions`).
-/

set_option autoImplicit false

namespace ShaderSyntax

/-! ## Lexemes in a row -/

/-- The text that lexemes cover. -/
def covered (lexemes : List Lexeme) : List Char :=
  (lexemes.map Lexeme.text).flatten

/-- Without lexemes nothing is covered. -/
@[simp] theorem covered_nil : covered [] = [] := rfl

/-- Lexemes cover the first text and what the others cover. -/
@[simp] theorem covered_cons (lexeme : Lexeme) (lexemes : List Lexeme) :
    covered (lexeme :: lexemes) = lexeme.text ++ covered lexemes := rfl

/-- The counts over lexemes: their characters, their number, and how many of them are discarded. -/
def LexStats.ofLexemes (lexemes : List Lexeme) : LexStats :=
  ⟨(covered lexemes).length, lexemes.length, lexemes.countP (·.rule.discard)⟩

/-- The counts behind more lexemes. -/
def LexStats.countAll (stats : LexStats) (lexemes : List Lexeme) : LexStats :=
  lexemes.foldl LexStats.count stats

/-- Counting lexemes adds their characters, their number, and that of the discarded ones. -/
theorem LexStats.countAll_eq (stats : LexStats) (lexemes : List Lexeme) :
    stats.countAll lexemes =
      ⟨stats.chars + (covered lexemes).length, stats.lexemes + lexemes.length,
        stats.discarded + lexemes.countP (·.rule.discard)⟩ := by
  induction lexemes generalizing stats with
  | nil => rfl
  | cons lexeme lexemes ih =>
    change (stats.count lexeme).countAll lexemes = _
    rw [ih]
    simp only [LexStats.count, covered_cons, List.length_append, List.length_cons,
      List.countP_cons]
    cases lexeme.rule.discard <;> simp [Nat.add_assoc, Nat.add_comm 1]

/-- A lexeme is placed by the lexemes before it. -/
theorem getElem?_place (cursor : Cursor) (stats : LexStats) (lexemes : List Lexeme) (i : Nat) :
    (place cursor stats lexemes)[i]? = lexemes[i]?.map fun lexeme =>
      ⟨lexeme, cursor.offset + utf8Length (covered (lexemes.take i)),
        ⟨cursor.span.stop.after (covered (lexemes.take i)),
          cursor.span.stop.after (covered (lexemes.take (i + 1)))⟩,
        stats.countAll (lexemes.take (i + 1))⟩ := by
  induction lexemes generalizing cursor stats i with
  | nil => rfl
  | cons lexeme lexemes ih =>
    cases i with
    | zero => simp [place, LexStats.countAll, Cursor.advance]
    | succ i =>
      rw [place, List.getElem?_cons_succ, ih, List.getElem?_cons_succ]
      simp [LexStats.countAll, Nat.add_assoc]

/-- Placing leaves the lexemes as they are. -/
theorem map_lexeme_place (cursor : Cursor) (stats : LexStats) (lexemes : List Lexeme) :
    (place cursor stats lexemes).map Piece.lexeme = lexemes := by
  induction lexemes generalizing cursor stats with
  | nil => rfl
  | cons lexeme lexemes ih => rw [place, List.map_cons, ih]

/-- A lexeme that the lexer takes is cut off first. -/
theorem Lexer.cut_of_lexeme? {lexer : Lexer} {text rest : List Char} {lexeme : Lexeme}
    (taken : lexer.lexeme? text = some (lexeme, rest)) :
    lexer.cut text = (lexeme :: (lexer.cut rest).1, (lexer.cut rest).2) := by
  rw [cut]
  split
  case h_1 none_fits => simp [none_fits] at taken
  case h_2 first more also_taken =>
    rw [also_taken, Option.some.injEq, Prod.mk.injEq] at taken
    obtain ⟨rfl, rfl⟩ := taken
    rfl

/-- Where the lexer takes nothing, nothing is cut off. -/
theorem Lexer.cut_of_none {lexer : Lexer} {text : List Char}
    (none_fits : lexer.lexeme? text = none) : lexer.cut text = ([], text) := by
  rw [cut]
  split
  case h_1 => rfl
  case h_2 first more taken => simp [taken] at none_fits

/-- An empty text has no lexeme. -/
theorem Lexer.lexeme?_nil (lexer : Lexer) : lexer.lexeme? [] = none := by
  cases fits : lexer.lexeme? [] with
  | none => rfl
  | some found => exact absurd (length_lt_of_lexeme? fits) (Nat.not_lt_zero _)

/-- Each lexeme that was cut off is the one that the lexer takes behind the lexemes before it. -/
theorem Lexer.lexeme?_of_cut {lexer : Lexer} {text : List Char} {lexeme : Lexeme} {i : Nat}
    (h : (lexer.cut text).1[i]? = some lexeme) :
    lexer.lexeme? (text.drop (covered ((lexer.cut text).1.take i)).length) =
      some (lexeme, text.drop (covered ((lexer.cut text).1.take (i + 1))).length) := by
  fun_induction Lexer.cut lexer text generalizing i with
  | case1 text none_fits => simp at h
  | case2 text first rest fits _ lexemes left same ih =>
    rw [same] at ih
    obtain ⟨whole, -⟩ := lexeme?_eq_some fits
    have behind : ∀ n, text.drop (first.text.length + n) = rest.drop n := by
      intro n
      rw [← whole, ← List.drop_drop, List.drop_left]
    cases i with
    | zero =>
      simp only [List.getElem?_cons_zero, Option.some.injEq] at h
      subst h
      have start := behind 0
      simp only [Nat.add_zero, List.drop_zero] at start
      simpa [start] using fits
    | succ i =>
      simpa [behind] using ih h

/-! ## The reading of a text -/

namespace Reading

/-- The lexemes of a text. -/
def lexemes (reading : Reading) : List Lexeme :=
  reading.pieces.map Piece.lexeme

/-- The text before the piece with the given number. -/
def before (reading : Reading) (i : Nat) : List Char :=
  covered (reading.lexemes.take i)

/-- The text that the pieces cover. -/
def consumed (reading : Reading) : List Char :=
  covered reading.lexemes

/-- The pieces whose lexemes make tokens. -/
def kept (reading : Reading) : List Piece :=
  reading.pieces.filter fun piece => !piece.lexeme.rule.discard

/-- The reading cuts up the text, each of its pieces knows its place in the text and the counts up
to it, and the fault, if there is one, lies where no rule applies. -/
structure Partitions (reading : Reading) (lexer : Lexer) (text : List Char) : Prop where
  consumed : reading.consumed <+: text
  /-- A lexeme is what the lexer takes there, and it is not empty. -/
  taken : ∀ i piece, reading.pieces[i]? = some piece →
    lexer.lexeme? (text.drop (reading.before i).length) =
      some (piece.lexeme, text.drop (reading.before (i + 1)).length) ∧
    piece.lexeme.text ≠ [] ∧ reading.before (i + 1) = reading.before i ++ piece.lexeme.text
  placed : ∀ i piece, reading.pieces[i]? = some piece →
    piece.offset = utf8Length (reading.before i) ∧
    piece.span = ⟨Position.endOf (reading.before i), Position.endOf (reading.before (i + 1))⟩
  counted : ∀ i piece, reading.pieces[i]? = some piece →
    piece.stats = LexStats.ofLexemes (reading.lexemes.take (i + 1))
  total : reading.stats = LexStats.ofLexemes reading.lexemes
  /-- Without a fault the text is used up. -/
  whole : reading.fault = none ↔ reading.consumed = text
  fault : ∀ fault, reading.fault = some fault →
    fault.place = Position.endOf reading.consumed ∧
    (text.drop reading.consumed.length).head? = some fault.char ∧
    lexer.lexeme? (text.drop reading.consumed.length) = none

end Reading

namespace Lexer

variable {lexer : Lexer} {text : List Char} {i : Nat} {piece : Piece}

/-- The lexemes of a reading are those the text is cut into. -/
theorem lexemes_read (lexer : Lexer) (text : List Char) :
    (lexer.read text).lexemes = (lexer.cut text).1 :=
  map_lexeme_place _ _ _

/-- What a reading consumed and what is left behind are the text. -/
theorem consumed_append_left (lexer : Lexer) (text : List Char) :
    (lexer.read text).consumed ++ (lexer.cut text).2 = text := by
  rw [Reading.consumed, lexemes_read]
  exact lexer.flatten_cut text

/-- What is not consumed is what was left uncut. -/
theorem drop_consumed (lexer : Lexer) (text : List Char) :
    text.drop (lexer.read text).consumed.length = (lexer.cut text).2 := by
  have dropped := congrArg (List.drop (lexer.read text).consumed.length)
    (consumed_append_left lexer text)
  rw [List.drop_left] at dropped
  exact dropped.symm

/-- A piece that was read is a lexeme that was cut off, with its place and counts computed from the
text before it and from itself. -/
theorem piece_of_read (read : (lexer.read text).pieces[i]? = some piece) :
    (lexer.cut text).1[i]? = some piece.lexeme ∧
      piece = ⟨piece.lexeme, utf8Length ((lexer.read text).before i),
        ⟨Position.endOf ((lexer.read text).before i),
          Position.endOf ((lexer.read text).before (i + 1))⟩,
        LexStats.ofLexemes ((lexer.read text).lexemes.take (i + 1))⟩ := by
  change (place Cursor.origin LexStats.zero (lexer.cut text).1)[i]? = some piece at read
  rw [getElem?_place] at read
  obtain ⟨lexeme, cut_off, rfl⟩ := Option.map_eq_some_iff.mp read
  refine ⟨cut_off, ?_⟩
  simp only [Reading.before, lexemes_read, ← Position.after_origin, LexStats.countAll_eq,
    LexStats.ofLexemes, LexStats.zero, Cursor.origin, Nat.zero_add]

/-- Before the next piece are the text before a piece and its own. -/
theorem before_succ (read : (lexer.read text).pieces[i]? = some piece) :
    (lexer.read text).before (i + 1) = (lexer.read text).before i ++ piece.lexeme.text := by
  simp [Reading.before, lexemes_read, List.take_add_one, (piece_of_read read).1, covered]

/-- The last piece has counted all lexemes. -/
theorem stats_read (lexer : Lexer) (text : List Char) :
    (lexer.read text).stats = LexStats.ofLexemes (lexer.read text).lexemes := by
  have count : (lexer.read text).pieces.length = (lexer.read text).lexemes.length := by
    simp [Reading.lexemes]
  rw [Reading.stats, List.getLast?_eq_getElem?]
  cases last : (lexer.read text).pieces[(lexer.read text).pieces.length - 1]? with
  | none =>
    have none_there : (lexer.read text).lexemes = [] := by
      rw [List.getElem?_eq_none_iff] at last
      exact List.length_eq_zero_iff.mp (by omega)
    simp [none_there, LexStats.ofLexemes, LexStats.zero]
  | some piece =>
    obtain ⟨bound, -⟩ := List.getElem?_eq_some_iff.mp last
    have all : (lexer.read text).lexemes.length ≤ (lexer.read text).pieces.length - 1 + 1 := by
      omega
    rw [Option.map_some, Option.getD_some, (piece_of_read last).2, List.take_of_length_le all]

/-- A text is partitioned by its reading. -/
theorem partitions_read (lexer : Lexer) (text : List Char) :
    (lexer.read text).Partitions lexer text := by
  have whole := consumed_append_left lexer text
  refine ⟨⟨_, whole⟩, ?_, ?_, ?_, stats_read lexer text, ?_, ?_⟩
  · intro i piece read
    have taken := lexeme?_of_cut (piece_of_read read).1
    refine ⟨?_, (lexeme?_eq_some taken).2, before_succ read⟩
    rw [Reading.before, Reading.before, lexemes_read]
    exact taken
  · intro i piece read
    rw [(piece_of_read read).2]
    exact ⟨rfl, rfl⟩
  · intro i piece read
    rw [(piece_of_read read).2]
  · change ((lexer.cut text).2.head?.map _) = none ↔ _
    rw [Option.map_eq_none_iff, List.head?_eq_none_iff]
    constructor
    · intro none_left
      rw [none_left, List.append_nil] at whole
      exact whole
    · intro all
      rw [all] at whole
      exact List.append_right_eq_self.mp whole
  · intro fault failed
    change ((lexer.cut text).2.head?.map _) = some fault at failed
    obtain ⟨c, first, rfl⟩ := Option.map_eq_some_iff.mp failed
    rw [drop_consumed]
    refine ⟨?_, first, lexer.cut_left text⟩
    rw [Reading.consumed, lexemes_read, ← Position.after_origin]
    rfl

/-- Where the reading has come to, a lexeme that the lexer takes is the next piece. -/
theorem exists_piece {rest : List Char} {lexeme : Lexeme}
    (reached : i ≤ (lexer.read text).pieces.length)
    (taken : lexer.lexeme? (text.drop ((lexer.read text).before i).length) = some (lexeme, rest)) :
    ∃ piece, (lexer.read text).pieces[i]? = some piece ∧ piece.lexeme = lexeme := by
  obtain further | at_end := Nat.lt_or_eq_of_le reached
  · have there := List.getElem?_eq_getElem further
    obtain ⟨also_taken, -⟩ := (partitions_read lexer text).taken i _ there
    rw [taken, Option.some.injEq, Prod.mk.injEq] at also_taken
    exact ⟨_, there, also_taken.1.symm⟩
  · -- behind the last piece the lexer takes nothing
    have all : (lexer.read text).before i = (lexer.read text).consumed := by
      rw [Reading.before, Reading.consumed, List.take_of_length_le]
      simp [Reading.lexemes, at_end]
    rw [all, drop_consumed, lexer.cut_left text] at taken
    cases taken

end Lexer

/-! ## Item by item -/

/-- A lexer's way through a text, as far as it has come. -/
structure Scan where
  /-- The text ahead. -/
  rest : List Char
  cursor : Cursor
  stats : LexStats
  /-- There is nothing more to come. -/
  ended : Bool

namespace Scan

/-- The way before its first step. -/
def start (text : List Char) : Scan := ⟨text, .origin, .zero, false⟩

/-- Goes on to the next token, past discarded lexemes, or to the fault. -/
def next (lexer : Lexer) (scan : Scan) : Option (Except Unmatched Token) × Scan :=
  if scan.ended then (none, scan)
  else
    match ahead : scan.rest with
    | [] => (none, { scan with ended := true })
    | c :: more =>
      match fits : lexer.lexeme? (c :: more) with
      | none => (some (.error ⟨scan.cursor.span.stop, c⟩), { scan with ended := true })
      | some (lexeme, rest) =>
        have : rest.length < scan.rest.length := ahead ▸ Lexer.length_lt_of_lexeme? fits
        let passed : Scan :=
          ⟨rest, scan.cursor.advance lexeme.text, scan.stats.count lexeme, false⟩
        if lexeme.rule.discard then next lexer passed
        else
          (some (.ok (lexeme.rule.finish ⟨lexeme.rule.kind, String.ofList lexeme.text,
            scan.cursor.offset, passed.cursor.span⟩)), passed)
termination_by scan.rest.length

/-- What a lexer reads from where it has come to. -/
def reading (lexer : Lexer) (scan : Scan) : Reading :=
  if scan.ended then ⟨[], none⟩
  else
    ⟨place scan.cursor scan.stats (lexer.cut scan.rest).1,
      (lexer.cut scan.rest).2.head?.map fun c =>
        ⟨scan.cursor.span.stop.after (covered (lexer.cut scan.rest).1), c⟩⟩

/-- The counts at the end of the way. -/
def closing (lexer : Lexer) (scan : Scan) : LexStats :=
  ((scan.reading lexer).pieces.getLast?.map Piece.stats).getD scan.stats

/-- Behind its end there is nothing to read. -/
theorem reading_ended (lexer : Lexer) {scan : Scan} (ended : scan.ended = true) :
    scan.reading lexer = ⟨[], none⟩ := by
  simp [reading, ended]

/-- A scan that starts has the reading of the text before it. -/
theorem reading_start (lexer : Lexer) (text : List Char) :
    (start text).reading lexer = lexer.read text := rfl

/-- A scan that starts closes with the statistics of the reading. -/
theorem closing_start (lexer : Lexer) (text : List Char) :
    (start text).closing lexer = (lexer.read text).stats := rfl

/-- One call of `next` on the way through a text: it gives what the reading of the text ahead has
first, and leaves the rest. -/
structure Steps (lexer : Lexer) (scan : Scan) (item : Option (Except Unmatched Token))
    (after : Scan) : Prop where
  item : item = (scan.reading lexer).stream.head?
  stream : (after.reading lexer).stream = (scan.reading lexer).stream.tail
  kept : (after.reading lexer).kept = (scan.reading lexer).kept.tail
  stats : after.stats =
    ((scan.reading lexer).kept.head?.map Piece.stats).getD (scan.closing lexer)
  closing : after.closing lexer = scan.closing lexer

variable {lexer : Lexer} {scan : Scan} {lexeme : Lexeme} {rest : List Char}

/-- The reading of the text ahead starts with the lexeme there. -/
theorem reading_of_lexeme? (going : scan.ended = false)
    (fits : lexer.lexeme? scan.rest = some (lexeme, rest)) :
    let passed : Scan := ⟨rest, scan.cursor.advance lexeme.text, scan.stats.count lexeme, false⟩
    scan.reading lexer =
      ⟨⟨lexeme, scan.cursor.offset, passed.cursor.span, passed.stats⟩ ::
        (passed.reading lexer).pieces, (passed.reading lexer).fault⟩ := by
  simp [reading, going, Lexer.cut_of_lexeme? fits, place, Position.after_append, Cursor.advance]

/-- Where nothing fits, the reading of the text ahead is a fault or nothing at all. -/
theorem reading_of_none (going : scan.ended = false) (none_fits : lexer.lexeme? scan.rest = none) :
    scan.reading lexer = ⟨[], scan.rest.head?.map fun c => ⟨scan.cursor.span.stop, c⟩⟩ := by
  simp [reading, going, Lexer.cut_of_none none_fits, place]

/-- A call of `next` gives the first item that the reading of the text ahead has. -/
theorem steps_next (lexer : Lexer) (scan : Scan) :
    Steps lexer scan (scan.next lexer).1 (scan.next lexer).2 := by
  fun_induction next lexer scan with
  | case1 scan ended =>
    have nothing := reading_ended lexer ended
    constructor <;> simp [nothing, Reading.stream, Reading.kept, closing]
  | case2 scan going ahead =>
    have none_fits : lexer.lexeme? scan.rest = none := by
      rw [ahead]
      exact lexer.lexeme?_nil
    have nothing := reading_of_none (by simpa using going) none_fits
    rw [ahead] at nothing
    have behind : Scan.reading lexer { scan with ended := true } = _ := reading_ended lexer rfl
    constructor <;> simp [nothing, behind, Reading.stream, Reading.kept, closing]
  | case3 scan going c more ahead none_fits =>
    have fault := reading_of_none (by simpa using going) (ahead ▸ none_fits)
    rw [ahead] at fault
    have behind : Scan.reading lexer { scan with ended := true } = _ := reading_ended lexer rfl
    constructor <;> simp [fault, behind, Reading.stream, Reading.kept, closing]
  | case4 scan going c more ahead lexeme rest fits _ passed discard ih =>
    have first := reading_of_lexeme? (by simpa using going) (ahead ▸ fits)
    have stream : (scan.reading lexer).stream = (passed.reading lexer).stream := by
      simp [first, Reading.stream, Piece.token?, discard, passed]
    have kept : (scan.reading lexer).kept = (passed.reading lexer).kept := by
      simp [first, Reading.kept, discard, passed]
    have closes : scan.closing lexer = passed.closing lexer := by
      simp only [closing, first, List.getLast?_cons]
      cases (passed.reading lexer).pieces.getLast? <;> rfl
    obtain ⟨item, later, more_kept, stats, end_stats⟩ := ih
    exact ⟨stream ▸ item, stream ▸ later, kept ▸ more_kept, by rw [kept, closes]; exact stats,
      closes ▸ end_stats⟩
  | case5 scan going c more ahead lexeme rest fits _ passed keep =>
    have first := reading_of_lexeme? (by simpa using going) (ahead ▸ fits)
    have keep : lexeme.rule.discard = false := by simpa using keep
    constructor
    · simp [first, Reading.stream, Piece.token?, keep, passed]
    · simp [first, Reading.stream, Piece.token?, keep, passed]
    · simp [first, Reading.kept, keep, passed]
    · simp [first, Reading.kept, keep, passed]
    · simp only [closing, first, List.getLast?_cons]
      cases (passed.reading lexer).pieces.getLast? <;> rfl

/-! ### Call after call -/

/-- The way after a number of calls of `next`. -/
def after (lexer : Lexer) : Nat → Scan → Scan
  | 0, scan => scan
  | n + 1, scan => after lexer n (scan.next lexer).2

/-- What the call of `next` with the given number returns. -/
def item (lexer : Lexer) (n : Nat) (scan : Scan) : Option (Except Unmatched Token) :=
  ((scan.after lexer n).next lexer).1

/-- One step more is a step behind the others. -/
theorem after_succ (lexer : Lexer) (n : Nat) (scan : Scan) :
    scan.after lexer (n + 1) = ((scan.after lexer n).next lexer).2 := by
  induction n generalizing scan with
  | zero => rfl
  | succ n ih => exact ih (scan.next lexer).2

/-- Behind some steps the stream is the rest of the stream. -/
theorem stream_after (lexer : Lexer) (n : Nat) (scan : Scan) :
    ((scan.after lexer n).reading lexer).stream = (scan.reading lexer).stream.drop n := by
  induction n generalizing scan with
  | zero => rfl
  | succ n ih => rw [after, ih, (steps_next lexer scan).stream, List.drop_tail]

/-- Behind some steps the kept pieces are the rest of them. -/
theorem kept_after (lexer : Lexer) (n : Nat) (scan : Scan) :
    ((scan.after lexer n).reading lexer).kept = (scan.reading lexer).kept.drop n := by
  induction n generalizing scan with
  | zero => rfl
  | succ n ih => rw [after, ih, (steps_next lexer scan).kept, List.drop_tail]

/-- The closing statistics stay the same along a scan. -/
theorem closing_after (lexer : Lexer) (n : Nat) (scan : Scan) :
    (scan.after lexer n).closing lexer = scan.closing lexer := by
  induction n generalizing scan with
  | zero => rfl
  | succ n ih => rw [after, ih, (steps_next lexer scan).closing]

/-- The calls return the items of the reading in their order, and then nothing. -/
theorem item_eq (lexer : Lexer) (n : Nat) (scan : Scan) :
    scan.item lexer n = (scan.reading lexer).stream[n]? := by
  rw [item, (steps_next lexer _).item, stream_after, List.head?_drop]

/-- After a token the counts are those up to its lexeme; after the last token a call counts what
is left. -/
theorem stats_after (lexer : Lexer) (n : Nat) (scan : Scan) :
    (scan.after lexer (n + 1)).stats =
      ((scan.reading lexer).kept[n]?.map Piece.stats).getD (scan.closing lexer) := by
  rw [after_succ, (steps_next lexer _).stats, kept_after, closing_after, List.head?_drop]

end Scan

/-! ## The items of a whole text -/

namespace Reading

/-- The token that the lexeme of a piece makes, whether it is discarded or not. -/
def tokenOf (piece : Piece) : Token :=
  piece.lexeme.rule.finish
    ⟨piece.lexeme.rule.kind, String.ofList piece.lexeme.text, piece.offset, piece.span⟩

/-- The tokens of the pieces are those of the kept ones. -/
theorem filterMap_token? (reading : Reading) :
    reading.pieces.filterMap Piece.token? = reading.kept.map tokenOf := by
  rw [kept, ← List.filterMap_eq_map, List.filterMap_filter]
  congr 1
  funext piece
  cases discard : piece.lexeme.rule.discard <;> simp [Piece.token?, tokenOf, discard]

/-- What the calls of `next` on a text return, in terms of its reading. -/
structure Itemized (reading : Reading) (lexer : Lexer) (text : List Char) : Prop where
  /-- A kept lexeme makes a token with its place and, unless it is recast, its kind and text. -/
  token : ∀ n piece, reading.kept[n]? = some piece →
    ∃ token, (Scan.start text).item lexer n = some (.ok token) ∧
      token.offset = piece.offset ∧ token.span = piece.span ∧
      (piece.lexeme.rule.recast = none →
        token.kind = piece.lexeme.rule.kind ∧ token.text = String.ofList piece.lexeme.text)
  fault : (Scan.start text).item lexer reading.kept.length = reading.fault.map .error
  ended : ∀ n, reading.kept.length < n → (Scan.start text).item lexer n = none
  stats : ∀ n, ((Scan.start text).after lexer (n + 1)).stats =
    (reading.kept[n]?.map Piece.stats).getD reading.stats
  /-- The tokens of the whole text are there if no call returns a fault. -/
  succeeds : (∃ tokens, reading.tokens = .ok tokens) ↔
    ∀ n fault, (Scan.start text).item lexer n ≠ some (.error fault)
  tokens : ∀ tokens, reading.tokens = .ok tokens ↔
    ∀ n, (Scan.start text).item lexer n = tokens[n]?.map .ok

/-- The stream is the kept tokens and then the fault, if there is one. -/
theorem stream_eq (reading : Reading) :
    reading.stream =
      reading.kept.map (fun piece => .ok (tokenOf piece)) ++
        (reading.fault.map Except.error).toList := by
  rw [stream, filterMap_token?, List.map_map]
  rfl

/-- A stream without fault is the stream of the tokens only. -/
theorem tokens_eq_ok_iff (reading : Reading) (tokens : List Token) :
    reading.tokens = .ok tokens ↔ reading.stream = tokens.map .ok := by
  cases failed : reading.fault with
  | some fault =>
    simp only [Reading.tokens, stream, failed, reduceCtorEq, false_iff]
    intro same
    have there : Except.error fault ∈ (tokens.map .ok : List (Except Unmatched Token)) := by
      rw [← same]
      simp
    simp at there
  | none =>
    have inj : Function.Injective (Except.ok : Token → Except Unmatched Token) :=
      fun _ _ => Except.ok.inj
    simp [Reading.tokens, stream, failed, List.map_inj_right inj]

/-- A reading gives all tokens at once exactly if it has no fault. -/
theorem exists_tokens_iff (reading : Reading) :
    (∃ tokens, reading.tokens = .ok tokens) ↔ reading.fault = none := by
  cases failed : reading.fault <;> simp [Reading.tokens, failed]

end Reading

/-- The rule of a lexeme is one of the lexer's rules. -/
theorem Lexer.rule_of_lexeme? {lexer : Lexer} {text rest : List Char} {lexeme : Lexeme}
    (h : lexer.lexeme? text = some (lexeme, rest)) :
    ∃ entry ∈ lexer.entries, entry.1 = lexeme.rule := by
  unfold lexeme? at h
  split at h
  case h_1 rule length chosen =>
    obtain ⟨rfl, -⟩ := Prod.mk.inj (Option.some.inj h)
    obtain ⟨entry, listed, found⟩ := List.exists_of_findSome?_eq_some chosen
    obtain ⟨_, _, same⟩ := Option.map_eq_some_iff.1 found
    exact ⟨entry, listed, congrArg Prod.fst same⟩
  case h_2 => simp at h

/-- The token of a lexeme has the lexeme's place, and its rule's kind and its text unless it is
recast; recasting leaves the place. -/
theorem Lexer.tokenOf_of_read {lexer : Lexer} {text : List Char} {piece : Piece}
    (keeps : ∀ entry ∈ lexer.entries, ∀ recast, entry.1.recast = some recast →
      ∀ token, (recast token).offset = token.offset ∧ (recast token).span = token.span)
    (read : piece ∈ (lexer.read text).pieces) :
    (Reading.tokenOf piece).offset = piece.offset ∧ (Reading.tokenOf piece).span = piece.span ∧
      (piece.lexeme.rule.recast = none →
        (Reading.tokenOf piece).kind = piece.lexeme.rule.kind ∧
          (Reading.tokenOf piece).text = String.ofList piece.lexeme.text) := by
  obtain ⟨i, at_i⟩ := List.getElem?_of_mem read
  obtain ⟨taken, -⟩ := (lexer.partitions_read text).taken i piece at_i
  obtain ⟨entry, listed, rule⟩ := rule_of_lexeme? taken
  cases recast : piece.lexeme.rule.recast with
  | none => simp [Reading.tokenOf, TokenRule.finish, recast]
  | some change =>
    have kept := keeps entry listed change (rule ▸ recast)
    simp [Reading.tokenOf, TokenRule.finish, recast, kept]

/-- The lexemes of a text, discarded ones included, partition what is consumed of it, and the calls
of `next` return its kept lexemes one by one, then the fault, then nothing. -/
theorem Lexer.read_partitions (lexer : Lexer) (text : List Char)
    (keeps : ∀ entry ∈ lexer.entries, ∀ recast, entry.1.recast = some recast →
      ∀ token, (recast token).offset = token.offset ∧ (recast token).span = token.span) :
    (lexer.read text).Partitions lexer text ∧ (lexer.read text).Itemized lexer text := by
  have items : ∀ n, (Scan.start text).item lexer n = (lexer.read text).stream[n]? :=
    fun n => Scan.item_eq lexer n (Scan.start text)
  rw [Reading.stream_eq] at items
  refine ⟨lexer.partitions_read text, ?_, ?_, ?_, ?_, ?_, ?_⟩
  · intro n piece at_n
    refine ⟨Reading.tokenOf piece, ?_, ?_⟩
    · rw [items, List.getElem?_append_left (by simpa using (List.getElem?_eq_some_iff.mp at_n).1)]
      simp [at_n]
    · exact tokenOf_of_read keeps (List.mem_filter.mp (List.mem_of_getElem? at_n)).1
  · rw [items]
    cases (lexer.read text).fault <;> simp
  · intro n behind
    rw [items, List.getElem?_eq_none_iff]
    cases (lexer.read text).fault <;> simp <;> omega
  · intro n
    rw [Scan.stats_after, Scan.reading_start, Scan.closing_start]
  · rw [Reading.exists_tokens_iff]
    simp only [items]
    constructor
    · intro whole n fault failed
      simp [whole] at failed
    · intro no_fault
      cases failed : (lexer.read text).fault with
      | none => rfl
      | some fault => exact absurd (by simp [failed]) (no_fault (lexer.read text).kept.length fault)
  · intro tokens
    rw [Reading.tokens_eq_ok_iff, Reading.stream_eq]
    simp only [items]
    constructor
    · intro same n
      rw [same, List.getElem?_map]
    · intro same
      apply List.ext_getElem?
      intro n
      rw [same, List.getElem?_map]

/-- Names, which are spelled anew, and numbers; blanks and line ends separate them. -/
def sampleRules : List TokenRule := [
  ⟨"NAME", "[a-zé]+", false, some fun token => { token with kind := "WORD", text := "é" }⟩,
  ⟨"NUMBER", "[0-9]+", false, none⟩,
  ⟨"BLANK", "[ \\n]+", true, none⟩]

/-- The lexer that the sample rules make. -/
def sampleLexer : Lexer :=
  (Lexer.ofRules sampleRules).toOption.getD ⟨[]⟩

/-- A text on two lines with a discarded line end, characters of two bytes, and a fault. -/
theorem Lexer.read_partitions_sample :
    (∀ entry ∈ sampleLexer.entries, ∀ recast, entry.1.recast = some recast →
      ∀ token, (recast token).offset = token.offset ∧ (recast token).span = token.span) ∧
    (sampleLexer.read "é 7\n éa#".toList).Partitions sampleLexer "é 7\n éa#".toList ∧
    (sampleLexer.read "é 7\n éa#".toList).Itemized sampleLexer "é 7\n éa#".toList ∧
    (sampleLexer.read "é 7\n éa#".toList).pieces.filterMap Piece.token? =
      [⟨"WORD", "é", 0, ⟨⟨1, 1⟩, ⟨1, 2⟩⟩⟩, ⟨"NUMBER", "7", 3, ⟨⟨1, 3⟩, ⟨1, 4⟩⟩⟩,
        ⟨"WORD", "é", 6, ⟨⟨2, 2⟩, ⟨2, 4⟩⟩⟩] ∧
    (sampleLexer.read "é 7\n éa#".toList).fault = some ⟨⟨2, 4⟩, '#'⟩ ∧
    (sampleLexer.read "é 7\n éa#".toList).stats = ⟨7, 5, 2⟩ := by
  have keeps : ∀ entry ∈ sampleLexer.entries, ∀ recast, entry.1.recast = some recast →
      ∀ token, (recast token).offset = token.offset ∧ (recast token).span = token.span := by
    intro entry listed recast hook token
    have rule : entry.1 ∈ sampleRules := by
      unfold sampleLexer at listed
      cases made : Lexer.ofRules sampleRules with
      | error fault => simp [made, Except.toOption] at listed
      | ok lexer =>
        rw [← (Lexer.entries_of_ofRules made).1]
        exact List.mem_map_of_mem (by simpa [made, Except.toOption] using listed)
    generalize entry.1 = of_entry at rule hook
    simp only [sampleRules, List.mem_cons, List.not_mem_nil, or_false] at rule
    obtain rfl | rfl | rfl := rule
    · obtain rfl := Option.some.inj hook
      exact ⟨rfl, rfl⟩
    · cases hook
    · cases hook
  obtain ⟨partition, items⟩ := Lexer.read_partitions sampleLexer "é 7\n éa#".toList keeps
  exact ⟨keeps, partition, items, by decide +kernel, by decide +kernel, by decide +kernel⟩

end ShaderSyntax
