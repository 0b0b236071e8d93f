import ShaderSyntax.Text.Position
import ShaderSyntax.Text.Quoted

/-!
# Tokens

What the lexer hands to a parser, the rules that make tokens, and the one way in which lexing
fails: a place where no rule applies.
-/

set_option autoImplicit false

namespace ShaderSyntax

/-- A token: the name of its kind, its text and its place. -/
structure Token where
  kind : String
  text : String
  /-- The bytes before its first character. -/
  offset : Nat
  span : Span
  deriving DecidableEq, Repr

/-- A place at which no token rule applies, with the character found there. -/
structure Unmatched where
  place : Position
  char : Char
  deriving DecidableEq, Repr

/-- The message of a lexing failure. -/
def Unmatched.message (fault : Unmatched) : String :=
  let quoted := String.ofList (Text.quoteOne fault.char)
  s!"no token rule matches {quoted} at line {fault.place.line}, column {fault.place.column}"

/-- A rule that makes tokens of one kind from the texts its pattern matches. -/
structure TokenRule where
  kind : String
  /-- The written form of the pattern. -/
  pattern : String
  /-- Its lexemes separate tokens and make none. -/
  discard : Bool
  /-- What is done to a token right after it has been made. -/
  recast : Option (Token → Token)

/-- The token a rule makes, recast if the rule asks for it. -/
def TokenRule.finish (rule : TokenRule) (token : Token) : Token :=
  match rule.recast with
  | none => token
  | some recast => recast token

/-- A rule whose pattern cannot be read. -/
structure BadPattern where
  pattern : String
  deriving DecidableEq, Repr

/-- The message about a rule whose pattern cannot be read. -/
def BadPattern.message (fault : BadPattern) : String :=
  s!"invalid token rule set: {fault.pattern}"

end ShaderSyntax
