/-!
# Scripts

A script is a row of lines, each a statement. Statements are commands with their words and
redirections, joined by sequence, condition and pipe; words are rows of fragments, some of which are
filled in when the command runs.
-/

set_option autoImplicit false

namespace ShaderSyntax.Host

/-- A character that may stand in a variable's name. -/
def isNameChar (c : Char) : Bool := c.isAlphanum || c = '_'

/-- Whether a text is the name of a variable. -/
def isName (text : List Char) : Bool :=
  match text with
  | [] => false
  | c :: rest => (c.isAlpha || c = '_') && rest.all isNameChar

/-- A part of a word. What is quoted is not split into several words. -/
inductive Fragment where
  | text (content : String) (quoted : Bool)
  /-- The value of a parameter. -/
  | parameter (name : String) (quoted : Bool)
  /-- The value of a parameter, changed or replaced as an operator says. -/
  | adjusted (name operator operand : String) (quoted : Bool)
  /-- What a script writes; `line` is the line it starts on, if it counts lines of its own. -/
  | substitution (line : Option Nat) (script : String) (quoted : Bool)
  /-- The value of an expression of numbers. -/
  | arithmetic (expression : String)
  /-- What cannot be filled in, with the message for it. -/
  | faulty (text : String)
  deriving DecidableEq, Repr

/-- A word as it is written. -/
abbrev Word := List Fragment

/-- What a redirection does to a descriptor. -/
inductive Redirection where
  /-- Reads a file; one that is missing is made, if that is asked for. -/
  | read (descriptor : Nat) (path : Word) (makes : Bool)
  /-- Reads a text that stands in the script. -/
  | text (descriptor : Nat) (content : Word)
  /-- Writes a file; `force` says that one that is there may be written over in any case. -/
  | write (descriptor : Nat) (path : Word) (force : Bool)
  /-- Writes behind what a file holds. -/
  | append (descriptor : Nat) (path : Word)
  /-- Makes a descriptor the same as the one that a word names, or closes it for a hyphen. -/
  | copy (descriptor : Nat) (source : Word)
  deriving DecidableEq, Repr

/-- What a script does. A `line` is the one that a statement starts on. -/
inductive Statement where
  | nothing
  /-- Runs a command, or only sets variables. -/
  | command (line : Nat) (assignments : List (String × Word)) (words : List Word)
    (redirections : List Redirection)
  | group (line : Nat) (body : Statement) (redirections : List Redirection)
  /-- Runs a body that cannot change the shell. -/
  | isolated (line : Nat) (body : Statement) (redirections : List Redirection)
  /-- Runs a body apart, with nothing to read, and does not ask how it went. -/
  | background (body : Statement)
  | pipe (first second : Statement)
  | sequence (first second : Statement)
  /-- The second runs if the first went well. -/
  | both (first second : Statement)
  /-- The second runs if the first did not go well. -/
  | either (first second : Statement)
  | negation (body : Statement)
  | choice (condition yes no : Statement)
  /-- Runs the body as long as the condition goes well, or does not. -/
  | loop (whileFails : Bool) (condition body : Statement)
  | each (line : Nat) (name : String) (words : List Word) (body : Statement)
  /-- Runs the first branch in the body with a pattern that a word matches. -/
  | select (line : Nat) (word : Word) (body : Statement)
  /-- Runs the body if the word of the choice matches one of the patterns, else what comes next. -/
  | branch (patterns : List Word) (body next : Statement)
  /-- Gives a name to a body, which then runs as a command. -/
  | define (name : String) (body : Statement)
  deriving Repr

/-- Why a script cannot be read on. -/
structure ScriptFault where
  line : Nat
  text : String
  deriving DecidableEq, Repr

/-- A script: the lines that could be read, and the fault that ended the reading. -/
structure Script where
  lines : List Statement
  fault : Option ScriptFault
  deriving Repr

/-- Whether a script has no statements, and nothing that cannot be read. -/
def Script.isEmpty (script : Script) : Bool := script.lines.isEmpty && script.fault.isNone

end ShaderSyntax.Host
