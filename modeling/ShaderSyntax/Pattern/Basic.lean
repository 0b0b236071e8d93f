import ShaderSyntax.Text.Blank

/-!
# Patterns

Regular expressions with an order of preference: a choice prefers its first branch, a repetition
prefers to go on when it is greedy and to stop when it is lazy. A counted repetition needs no form
of its own.
-/

set_option autoImplicit false

namespace ShaderSyntax

/-- A set of characters. -/
inductive CharSet where
  | none
  | range (low high : Char)
  | blanks
  | union (first second : CharSet)
  | complement (set : CharSet)
  deriving DecidableEq, Repr

namespace CharSet

/-- Membership of a character. -/
def contains : CharSet → Char → Bool
  | .none, _ => false
  | .range low high, c => low ≤ c && c ≤ high
  | .blanks, c => Text.isBlank c
  | .union first second, c => first.contains c || second.contains c
  | .complement set, c => !set.contains c

/-- The set of one character. -/
def single (c : Char) : CharSet := .range c c

/-- All characters but the line feed. -/
def anyInLine : CharSet := .complement (single '\n')

end CharSet

/-- A regular expression. -/
inductive Pattern where
  | empty
  | set (chars : CharSet)
  | seq (first second : Pattern)
  | alt (preferred other : Pattern)
  | star (greedy : Bool) (body : Pattern)
  | plus (greedy : Bool) (body : Pattern)
  deriving DecidableEq, Repr

namespace Pattern

/-- None or one of a pattern; greedy prefers one. -/
def opt (greedy : Bool) (body : Pattern) : Pattern :=
  if greedy then .alt body .empty else .alt .empty body

/-- `least` repetitions and up to `extra` more. -/
def repeated (greedy : Bool) (body : Pattern) : Nat → Nat → Pattern
  | 0, 0 => .empty
  | 0, extra + 1 => opt greedy (.seq body (repeated greedy body 0 extra))
  | least + 1, extra => .seq body (repeated greedy body least extra)

/-- `least` repetitions or more. -/
def atLeast (greedy : Bool) (body : Pattern) : Nat → Pattern
  | 0 => .star greedy body
  | 1 => .plus greedy body
  | least + 2 => .seq body (atLeast greedy body (least + 1))

/-- Whether a pattern fits the empty text. -/
def canBeEmpty : Pattern → Bool
  | .empty => true
  | .set _ => false
  | .seq first second => first.canBeEmpty && second.canBeEmpty
  | .alt preferred other => preferred.canBeEmpty || other.canBeEmpty
  | .star _ _ => true
  | .plus _ body => body.canBeEmpty

end Pattern

end ShaderSyntax
