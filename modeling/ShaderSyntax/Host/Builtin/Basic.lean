import ShaderSyntax.Host.Options
import ShaderSyntax.Host.Session
import ShaderSyntax.Host.Tool
import ShaderSyntax.Numeral.Decimal

/-!
# Commands that act on a session

What the commands that a shell runs itself have in common: how they write, how they read options and
numbers, and how they refuse what they are given.
-/

set_option autoImplicit false

namespace ShaderSyntax.Host

/-- A command that acts on a session. -/
abbrev Builtin := List String → Session → Session

/-- Writes what a tool wrote, each thing where it belongs. -/
def Session.writeAll (session : Session) (writes : List ToolWrite) : Session :=
  writes.foldl (fun session write => match write with
    | .output stream => session.print stream
    | .complaint text => session.report text) session

/-- Runs a tool in a session. -/
def Session.runTool (session : Session) (tool : Tool) (arguments : List String) : Session :=
  let result := tool arguments session.tree session.input
  ({ session with input := result.rest }.writeAll result.writes).withCode result.code

/-- Does nothing and has a code. -/
def doNothing (code : Nat) : Builtin := fun _ session => session.withCode code

/-- The greatest number that commands take. -/
def greatestNumber : Nat := 2147483647

/-- The number that a word spells; blanks around it and a sign in front do not matter. -/
def smallNumber? (word : String) : Option Nat :=
  let (negative, text) := Numeral.readSign (word.toList.dropWhile isLeadingBlank)
  let digits := text.takeWhile Char.isDigit
  let value := Numeral.digitsValue digits
  if digits.isEmpty || !(text.drop digits.length).all isLeadingBlank then none
  else if negative && value ≠ 0 then none
  else if value ≤ greatestNumber then some value
  else none

/-- What is wrong with a word that is no number. -/
def noNumber (word : String) : String := s!"Illegal number: {word}"

/-- A rule for an option that is only a letter. -/
def letterRule (takesValue : Bool) (letter : Char) : OptionRule := ⟨letter, "=", takesValue⟩

/-- Reads the options in front of a command's other words. -/
def withOptions (rules : List OptionRule) (refuse : Session → String → Session)
    (run : OptionWords → Session → Session) : Builtin := fun arguments session =>
  match readOptionWords rules false arguments with
  | .ok words => run words session
  | .error fault => refuse session fault.shellMessage

/-- A text between quotation marks, as scripts can read it back. -/
def quotedForScripts (text : String) : String :=
  "'" ++ String.intercalate "'\"'\"'" (text.splitOn "'") ++ "'"

end ShaderSyntax.Host
