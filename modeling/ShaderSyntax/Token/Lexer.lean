import ShaderSyntax.Pattern.Automaton
import ShaderSyntax.Pattern.Reader
import ShaderSyntax.Token.Basic

/-!
# The lexer

A text is cut into lexemes: at each place the first rule of the list whose pattern matches takes its
preferred match, which must not be empty. Lexemes of rules that discard separate tokens; every other
lexeme makes a token, placed by a cursor that walks over all lexemes.

The main statement is that nothing is lost: the lexemes and what is left behind them are the text
(`flatten_cut`), and nothing is left unless no rule applies there (`cut_left`).
-/

set_option autoImplicit false

namespace ShaderSyntax

/-- Token rules with the automata of their patterns. -/
structure Lexer where
  entries : List (TokenRule × Automaton)

/-- A piece of text and the rule that took it. -/
structure Lexeme where
  rule : TokenRule
  text : List Char

/-- Counts over the lexemes passed so far: characters, lexemes, discarded lexemes. -/
structure LexStats where
  chars : Nat
  lexemes : Nat
  discarded : Nat
  deriving DecidableEq, Repr

/-- The counts before the first lexeme. -/
def LexStats.zero : LexStats := ⟨0, 0, 0⟩

/-- The counts after one more lexeme. -/
def LexStats.count (stats : LexStats) (lexeme : Lexeme) : LexStats :=
  ⟨stats.chars + lexeme.text.length, stats.lexemes + 1,
    if lexeme.rule.discard then stats.discarded + 1 else stats.discarded⟩

/-- A lexeme in its place, with the counts up to and including it. -/
structure Piece where
  lexeme : Lexeme
  /-- Where the lexeme starts. -/
  offset : Nat
  span : Span
  stats : LexStats

/-- The token of a lexeme that is not discarded. -/
def Piece.token? (piece : Piece) : Option Token :=
  if piece.lexeme.rule.discard then none
  else some (piece.lexeme.rule.finish
    ⟨piece.lexeme.rule.kind, String.ofList piece.lexeme.text, piece.offset, piece.span⟩)

/-- Walks a cursor over lexemes. -/
def place (cursor : Cursor) (stats : LexStats) : List Lexeme → List Piece
  | [] => []
  | lexeme :: rest =>
    let next := cursor.advance lexeme.text
    let stats := stats.count lexeme
    ⟨lexeme, cursor.offset, next.span, stats⟩ :: place next stats rest

/-- A text read by a lexer: its lexemes in place and, if no rule applied somewhere, the fault that
ended the reading. -/
structure Reading where
  pieces : List Piece
  fault : Option Unmatched

namespace Reading

/-- The counts at the end. -/
def stats (reading : Reading) : LexStats :=
  (reading.pieces.getLast?.map Piece.stats).getD LexStats.zero

/-- The tokens in order, and the fault behind them if there is one. -/
def stream (reading : Reading) : List (Except Unmatched Token) :=
  (reading.pieces.filterMap Piece.token?).map .ok ++ (reading.fault.map .error).toList

/-- All tokens of a text without fault. -/
def tokens (reading : Reading) : Except Unmatched (List Token) :=
  match reading.fault with
  | some fault => .error fault
  | none => .ok (reading.pieces.filterMap Piece.token?)

end Reading

namespace Lexer

/-- Reads the patterns of rules; the first that is no pattern is reported. -/
def ofRules : List TokenRule → Except BadPattern Lexer
  | [] => .ok ⟨[]⟩
  | rule :: rules =>
    match Pattern.read? rule.pattern with
    | none => .error ⟨rule.pattern⟩
    | some pattern => (ofRules rules).map fun lexer =>
      ⟨(rule, Automaton.ofPattern pattern) :: lexer.entries⟩

/-- A lexer has the rules it was made of, each with the automaton of its pattern. -/
theorem entries_of_ofRules {rules : List TokenRule} {lexer : Lexer}
    (h : ofRules rules = .ok lexer) :
    lexer.entries.map Prod.fst = rules ∧ ∀ entry ∈ lexer.entries, ∃ pattern,
      Pattern.read? entry.1.pattern = some pattern ∧ entry.2 = Automaton.ofPattern pattern := by
  induction rules generalizing lexer with
  | nil =>
    obtain rfl := Except.ok.inj h
    simp
  | cons rule rules ih =>
    rw [ofRules] at h
    split at h
    case h_1 => simp at h
    case h_2 pattern read =>
      cases more : ofRules rules with
      | error fault => simp [more, Except.map] at h
      | ok tail =>
        obtain ⟨listed, patterns⟩ := ih more
        obtain rfl : _ = lexer := Except.ok.inj (by simpa only [more, Except.map] using h)
        refine ⟨by simp [listed], ?_⟩
        intro entry present
        obtain rfl | later := List.mem_cons.mp present
        · exact ⟨pattern, read, rfl⟩
        · exact patterns entry later

/-- The first rule that matches at the start of a text, and the length of its match. -/
def choose? (lexer : Lexer) (text : List Char) : Option (TokenRule × Nat) :=
  lexer.entries.findSome? fun entry => (entry.2.matchLength? text).map (entry.1, ·)

/-- The lexeme at the start of a text and what follows it; an empty match makes none. -/
def lexeme? (lexer : Lexer) (text : List Char) : Option (Lexeme × List Char) :=
  match lexer.choose? text with
  | some (rule, length + 1) => some (⟨rule, text.take (length + 1)⟩, text.drop (length + 1))
  | _ => none

/-- The length of a chosen lexeme does not go past the text. -/
theorem choose?_le {lexer : Lexer} {text : List Char} {rule : TokenRule} {n : Nat}
    (h : lexer.choose? text = some (rule, n)) : n ≤ text.length := by
  obtain ⟨entry, -, found⟩ := List.exists_of_findSome?_eq_some h
  obtain ⟨m, hm, same⟩ := Option.map_eq_some_iff.1 found
  obtain ⟨-, rfl⟩ := Prod.mk.inj same
  exact Automaton.matchLength?_le hm

/-- A lexeme is not empty, and with what follows it makes up the text. -/
theorem lexeme?_eq_some {lexer : Lexer} {text rest : List Char} {lexeme : Lexeme}
    (h : lexer.lexeme? text = some (lexeme, rest)) :
    lexeme.text ++ rest = text ∧ lexeme.text ≠ [] := by
  unfold lexeme? at h
  split at h
  case h_1 rule length chosen =>
    have bound := choose?_le chosen
    obtain ⟨rfl, rfl⟩ := Prod.mk.inj (Option.some.inj h)
    refine ⟨List.take_append_drop _ _, ?_⟩
    intro none_taken
    have := congrArg List.length none_taken
    simp only [List.length_take, List.length_nil] at this
    omega
  case h_2 => simp at h

/-- Behind a lexeme less text is left. -/
theorem length_lt_of_lexeme? {lexer : Lexer} {text rest : List Char} {lexeme : Lexeme}
    (h : lexer.lexeme? text = some (lexeme, rest)) : rest.length < text.length := by
  obtain ⟨whole, filled⟩ := lexeme?_eq_some h
  have := congrArg List.length whole
  have := List.length_pos_iff.2 filled
  simp only [List.length_append] at *
  omega

/-- Cuts a text into lexemes as far as rules apply; the second part is what is left. -/
def cut (lexer : Lexer) (text : List Char) : List Lexeme × List Char :=
  match h : lexer.lexeme? text with
  | none => ([], text)
  | some (lexeme, rest) =>
    have := length_lt_of_lexeme? h
    let (lexemes, left) := cut lexer rest
    (lexeme :: lexemes, left)
termination_by text.length

/-- Reads a text: the lexemes in place, and a fault where something is left. -/
def read (lexer : Lexer) (text : List Char) : Reading :=
  let (lexemes, left) := lexer.cut text
  let passed := (lexemes.map Lexeme.text).flatten
  ⟨place Cursor.origin LexStats.zero lexemes,
    left.head?.map fun c => ⟨Position.origin.after passed, c⟩⟩

/-- The tokens of a text in order, ended by a fault where no rule applies. -/
def stream (lexer : Lexer) (text : String) : List (Except Unmatched Token) :=
  (lexer.read text.toList).stream

/-- All tokens of a text, or its fault. -/
def tokenize (lexer : Lexer) (text : String) : Except Unmatched (List Token) :=
  (lexer.read text.toList).tokens

/-- The lexemes and what is left behind them are the text. -/
theorem flatten_cut (lexer : Lexer) (text : List Char) :
    ((lexer.cut text).1.map Lexeme.text).flatten ++ (lexer.cut text).2 = text := by
  fun_induction cut lexer text with
  | case1 text h => simp
  | case2 text lexeme rest h _ lexemes left same ih =>
    rw [same] at ih
    simp only [List.map_cons, List.flatten_cons, List.append_assoc, ih]
    exact (lexeme?_eq_some h).1

/-- At what is left no rule applies. -/
theorem cut_left (lexer : Lexer) (text : List Char) :
    lexer.lexeme? (lexer.cut text).2 = none := by
  fun_induction cut lexer text with
  | case1 text h => exact h
  | case2 text lexeme rest h _ lexemes left same ih => simpa [same] using ih

end Lexer

end ShaderSyntax
