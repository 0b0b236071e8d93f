import ShaderSyntax.Digest
import ShaderSyntax.Parse.Engine
import ShaderSyntax.Text.Lines

/-!
# Grammars

What a language hands to the grammar compiler: its tokens, its precedence groups, and its rules,
each the text of one nonterminal with the action that its alternatives share. The rendered form is
the compiler's input, and its digest is the key under which tables are kept.

Every line of a rule that is not blank ends in the rule's marker, which the compiler hands back with
each production; that is how productions find their actions. Rules are rendered last one first, so
the last rule is the goal.
-/

set_option autoImplicit false

namespace ShaderSyntax

/-- How operators of one precedence group associate. -/
inductive Associativity where
  | left
  | right
  | none
  deriving DecidableEq, Repr

/-- The sign of an associativity at the start of its group. -/
def Associativity.sign : Associativity → List Char
  | .left => ['<']
  | .right => ['>']
  | .none => []

/-- Tokens of one precedence; groups are listed from the lowest precedence up. -/
structure PrecedenceGroup where
  associativity : Associativity
  tokens : List String
  deriving DecidableEq, Repr

/-- A rule: its text, and the action of its alternatives; without one they pass on their first
value. -/
structure GrammarRule (C V : Type) where
  text : String
  action : Option (SemanticAction C V)

/-- A grammar with its semantic actions. -/
structure Grammar (C V : Type) where
  tokens : List String
  precedence : List PrecedenceGroup
  rules : List (GrammarRule C V)

variable {C V : Type}

/-- The marker of a rule: an underscore and its number. -/
def ruleMarker (id : Nat) : List Char :=
  '_' :: Nat.toDigits 10 id

/-- A line of a rule's text with the rule's marker behind it. -/
def markLine (id : Nat) (line : List Char) : List Char :=
  line ++ [' ', '[', '*'] ++ ruleMarker id ++ ['*', ']', '\n']

/-- A number between single quotes. -/
def quoteLevel (level : Nat) : List Char :=
  '\'' :: Nat.toDigits 10 level ++ ['\'']

namespace PrecedenceGroup

/-- The lines of a group's tokens, numbered on from `level`; `first` is true before the first. -/
def tokenLines (level : Nat) (first : Bool) : List String → List Char
  | [] => []
  | token :: rest =>
    (if first then [] else [' ', ' ']) ++
      ' ' :: quoteLevel level ++ ' ' :: token.toList ++ '\n' :: tokenLines (level + 1) false rest

/-- A group, its tokens numbered on from `level`. -/
def render (level : Nat) (group : PrecedenceGroup) : List Char :=
  group.associativity.sign ++ ' ' :: tokenLines level true group.tokens ++ [';', '\n']

end PrecedenceGroup

/-- The precedence groups, their tokens numbered on from `level`. -/
def renderGroups (level : Nat) : List PrecedenceGroup → List Char
  | [] => []
  | group :: rest => group.render level ++ renderGroups (level + group.tokens.length) rest

/-- The tokens without precedence, numbered on from `level`. -/
def renderTokens (level : Nat) : List String → List Char
  | [] => []
  | token :: rest =>
    quoteLevel level ++ ' ' :: ' ' :: token.toList ++ ' ' :: '\n' :: renderTokens (level + 1) rest

/-- A line that holds blanks only. -/
def isBlankLine (line : List Char) : Bool :=
  line.all Text.isBlank

/-- The blanks in front of a rule's first line. -/
def ruleIndent : List Char := List.replicate 15 ' '

/-- The text of a rule: its lines marked, blank ones left out, the first one indented. -/
def renderRule (id : Nat) (text : String) : List Char :=
  let lines := (Text.lines text.toList).zipIdx
  (lines.flatMap fun line =>
    if isBlankLine line.1 then []
    else (if line.2 = 0 then ruleIndent else []) ++ markLine id line.1) ++ ['\n', ';', '\n']

/-- The rules with their numbers, the last one first. -/
def renderRules (texts : List String) : List Char :=
  texts.zipIdx.reverse.flatMap fun rule => renderRule rule.2 rule.1

namespace Grammar

/-- The tokens that belong to no precedence group, in order. -/
def plainTokens (grammar : Grammar C V) : List String :=
  grammar.tokens.filter fun token =>
    !(grammar.precedence.any fun group => group.tokens.contains token)

/-- The number of places in precedence groups. -/
def rankedCount (grammar : Grammar C V) : Nat :=
  grammar.precedence.foldr (fun group count => group.tokens.length + count) 0

/-- The first line of every rendered grammar. -/
def headerLine : List Char := "/~ We use our own lexical scanner ~/\n".toList

/-- The line between the tokens and the rules, with the lines around it. -/
def divider : List Char := ";\n\n##\n\n".toList

/-- The characters of the rendered form. -/
def renderChars (grammar : Grammar C V) : List Char :=
  headerLine ++ renderGroups 0 grammar.precedence ++
    renderTokens grammar.rankedCount grammar.plainTokens ++ divider ++
    renderRules (grammar.rules.map GrammarRule.text)

/-- The input for the grammar compiler. -/
def render (grammar : Grammar C V) : String :=
  String.ofList grammar.renderChars

/-- The digest of the rendered form. -/
def hash (grammar : Grammar C V) : String :=
  contentHash grammar.render

end Grammar

end ShaderSyntax
