import ShaderSyntax.Host.Format
import ShaderSyntax.Files.Tree

/-!
# Conditions

What scripts test: words, numbers and files, with negation, conjunction, disjunction and brackets.
Which words are operators depends on how many words there are: three words with an operator for two
in the middle compare the others, whatever these are.
-/

set_option autoImplicit false

namespace ShaderSyntax.Host

/-- Why words are no condition. -/
inductive ConditionFault where
  | unexpectedBehind (word : String)
  | noArgument (operator : String)
  | noNumber (word : String)
  | noBracket
  deriving DecidableEq, Repr

/-- The message of a fault. -/
def ConditionFault.message : ConditionFault → String
  | .unexpectedBehind word => word ++ ": unexpected operator"
  | .noArgument operator => operator ++ ": argument expected"
  | .noNumber word => "Illegal number: " ++ word
  | .noBracket => "closing paren expected"

namespace Condition

/-- The operators with one operand. -/
def unaryOperators : List String :=
  ["-n", "-z", "-e", "-d", "-f", "-s", "-r", "-w", "-x", "-c", "-b", "-p", "-h", "-L", "-S", "-u",
    "-g", "-k", "-t", "-O", "-G"]

/-- The operators with two operands. -/
def binaryOperators : List String :=
  ["=", "!=", "<", ">", "-eq", "-ne", "-lt", "-le", "-gt", "-ge", "-nt", "-ot", "-ef"]

/-- A whole number to base ten with blanks around it. -/
def number? (word : String) : Except ConditionFault Int :=
  let (negative, text) := Numeral.readSign (word.toList.dropWhile isLeadingBlank)
  let digits := text.takeWhile Char.isDigit
  let value : Int := if negative then -Numeral.digitsValue digits else Numeral.digitsValue digits
  let isWhole := (text.drop digits.length).all isLeadingBlank
  if digits.isEmpty || !isWhole || (wordWithin true value).2 then .error (.noNumber word)
  else .ok value

/-- What an operator says of two words. -/
def compareWords (operator a b : String) : Except ConditionFault Bool :=
  if operator = "=" then .ok (a = b)
  else if operator = "!=" then .ok (a ≠ b)
  else if operator = "<" then .ok (a < b)
  else if operator = ">" then .ok (b < a)
  else if operator = "-nt" || operator = "-ot" || operator = "-ef" then .ok false
  else do
    let a ← number? a
    let b ← number? b
    return match operator with
      | "-eq" => a = b
      | "-ne" => a ≠ b
      | "-lt" => a < b
      | "-le" => a ≤ b
      | "-gt" => a > b
      | _ => a ≥ b

/-- What an operator says of a word. -/
def examine (tree : FileTree) (operator word : String) : Bool :=
  let entry := (tree.find word).toOption
  match operator with
  | "-n" => !word.isEmpty
  | "-z" => word.isEmpty
  | "-e" => entry.isSome
  | "-r" => entry.isSome
  | "-w" => entry.isSome
  | "-x" => entry.any FileEntry.isFolder
  | "-d" => entry.any FileEntry.isFolder
  | "-f" => match entry with
    | some (.file _) => true
    | _ => false
  | "-c" => match entry with
    | some .void => true
    | some .zeros => true
    | _ => false
  | "-s" => match entry with
    | some (.file bytes) => 0 < bytes.size
    | some .folder => true
    | _ => false
  | _ => false

/-- Whether the first of some words is an operator for the second, and not an operand itself. -/
def startsUnary : List String → Bool
  | [] => false
  | [_] => false
  | [first, _] => unaryOperators.contains first
  | first :: _ :: third :: _ => unaryOperators.contains first && !binaryOperators.contains third

mutual

/-- Reads conditions joined by `-o`, and gives the words behind them. -/
def anyOf (tree : FileTree) (steps : Nat) (words : List String) :
    Except ConditionFault (Bool × List String) :=
  match steps with
  | 0 => .ok (false, words)
  | steps + 1 => do
    let (first, rest) ← allOf tree steps words
    match rest with
    | "-o" :: rest =>
      let (others, rest) ← anyOf tree steps rest
      return (first || others, rest)
    | rest => return (first, rest)

/-- Reads conditions joined by `-a`. -/
def allOf (tree : FileTree) (steps : Nat) (words : List String) :
    Except ConditionFault (Bool × List String) :=
  match steps with
  | 0 => .ok (false, words)
  | steps + 1 => do
    let (first, rest) ← single tree steps words
    match rest with
    | "-a" :: rest =>
      let (others, rest) ← allOf tree steps rest
      return (first && others, rest)
    | rest => return (first, rest)

/-- Reads one condition. -/
def single (tree : FileTree) (steps : Nat) (words : List String) :
    Except ConditionFault (Bool × List String) :=
  match steps with
  | 0 => .ok (false, words)
  | steps + 1 =>
    match words with
    | [] => .ok (false, [])
    | "!" :: rest => do
      let (inner, rest) ← single tree steps rest
      return (!inner, rest)
    | "(" :: next :: rest =>
      if next = ")" then .ok (false, rest)
      else do
        let (inner, rest) ← anyOf tree steps (next :: rest)
        match rest with
        | ")" :: rest => return (inner, rest)
        | _ => throw .noBracket
    | first :: rest =>
      if startsUnary words then
        .ok (examine tree first (rest.head?.getD ""), rest.drop 1)
      else match rest with
        | operator :: rest' =>
          if binaryOperators.contains operator then
            match rest' with
            | [] => .error (.noArgument operator)
            | second :: rest' => (compareWords operator first second).map (·, rest')
          else .ok (!first.isEmpty, rest)
        | [] => .ok (!first.isEmpty, [])

end

/-- What a row of words says as a whole. -/
def holdsAll (tree : FileTree) (words : List String) : Except ConditionFault Bool := do
  let (result, rest) ← anyOf tree (4 * words.length + 4) words
  if rest.isEmpty then return result
  else throw (.unexpectedBehind ((words[words.length - rest.length - 1]?).getD ""))

/-- What three words say: an operator in the middle compares the others, and brackets enclose one.
-/
def holdsThree (tree : FileTree) (a operator b : String) : Except ConditionFault Bool :=
  if binaryOperators.contains operator then compareWords operator a b
  else if a = "(" && b = ")" then holdsAll tree [operator]
  else holdsAll tree [a, operator, b]

/-- Whether a condition holds. -/
def holds (tree : FileTree) : List String → Except ConditionFault Bool
  | [] => .ok false
  | [word] => .ok (!word.isEmpty)
  | [a, operator, b] => holdsThree tree a operator b
  | ["!", a, operator, b] => (holdsThree tree a operator b).map (!·)
  | words => holdsAll tree words

end Condition

end ShaderSyntax.Host
