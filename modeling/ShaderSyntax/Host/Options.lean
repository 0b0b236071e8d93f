/-!
# Options of programs

The words behind a program's name are options or operands. An option is a letter behind a hyphen or
a name behind two. Letters may share a word; a value stands behind the letter in the same word, or
is the next word. A name may be cut short as long as no other name starts that way. Behind two
hyphens alone all words are operands; a single hyphen is an operand.
-/

set_option autoImplicit false

namespace ShaderSyntax.Host

/-- An option that a program knows: its letter, its name, and whether a value belongs to it. -/
structure OptionRule where
  letter : Char
  name : String
  takesValue : Bool
  deriving DecidableEq, Repr

/-- An option that was given. -/
structure GivenOption where
  letter : Char
  value : String
  deriving DecidableEq, Repr

/-- Why words cannot be read. -/
inductive OptionFault where
  | unknownLetter (letter : Char)
  | unknownName (word : String)
  | unclearName (word : String) (names : List String)
  | noValue (letter : Char)
  | noValueFor (name : String)
  | extraValue (name : String)
  deriving DecidableEq, Repr

/-- The message of a fault. -/
def OptionFault.message : OptionFault → String
  | .unknownLetter letter => s!"invalid option -- '{letter}'"
  | .unknownName word => s!"unrecognized option '{word}'"
  | .unclearName word names =>
    s!"option '{word}' is ambiguous; possibilities:" ++
      String.join (names.map fun name => s!" '--{name}'")
  | .noValue letter => s!"option requires an argument -- '{letter}'"
  | .noValueFor name => s!"option '--{name}' requires an argument"
  | .extraValue name => s!"option '--{name}' doesn't allow an argument"

/-- How commands that a shell runs itself say what is wrong with options. -/
def OptionFault.shellMessage : OptionFault → String
  | .unknownLetter letter => s!"Illegal option -{letter}"
  | .noValue letter => s!"No arg for -{letter} option"
  | _ => "Illegal option --"

/-- The options among words, and the words that are none. -/
structure OptionWords where
  options : List GivenOption
  operands : List String
  deriving DecidableEq, Repr

/-- Whether an option was given. -/
def OptionWords.has (words : OptionWords) (letter : Char) : Bool :=
  words.options.any (·.letter = letter)

/-- Reads the letters of a word; `next` is the word behind it. Gives also whether that word was
used. -/
def readOptionLetters (rules : List OptionRule) (next : Option String) :
    List Char → Except OptionFault (List GivenOption × Bool)
  | [] => .ok ([], false)
  | letter :: rest =>
    match rules.find? (·.letter = letter) with
    | none => .error (.unknownLetter letter)
    | some rule =>
      if !rule.takesValue then
        (readOptionLetters rules next rest).map fun more => (⟨letter, ""⟩ :: more.1, more.2)
      else if !rest.isEmpty then .ok ([⟨letter, String.ofList rest⟩], false)
      else match next with
        | some value => .ok ([⟨letter, value⟩], true)
        | none => .error (.noValue letter)

/-- The rule that a name, or the start of one, stands for; `word` is what was written. -/
def findOptionName (rules : List OptionRule) (word name : String) :
    Except OptionFault OptionRule :=
  match rules.find? (·.name = name) with
  | some rule => .ok rule
  | none =>
    match rules.filter fun rule => rule.name.startsWith name with
    | [] => .error (.unknownName word)
    | rule :: others =>
      if others.all (·.letter = rule.letter) then .ok rule
      else .error (.unclearName word ((rule :: others).map OptionRule.name))

/-- Reads the name of an option, behind its hyphens, with or without a value. -/
def readOptionName (rules : List OptionRule) (next : Option String) (text : List Char) :
    Except OptionFault (GivenOption × Bool) := do
  let name := text.takeWhile (· ≠ '=')
  let word := String.ofList ('-' :: '-' :: text)
  let rule ← findOptionName rules word (String.ofList name)
  match text.drop name.length with
  | _ :: value =>
    if rule.takesValue then return (⟨rule.letter, String.ofList value⟩, false)
    else throw (.extraValue rule.name)
  | [] =>
    if !rule.takesValue then return (⟨rule.letter, ""⟩, false)
    else match next with
      | some value => return (⟨rule.letter, value⟩, true)
      | none => throw (.noValueFor rule.name)

/-- Reads words. Operands may stand in front of options if `mixed` holds. -/
def readOptionWords (rules : List OptionRule) (mixed : Bool) (words : List String) :
    Except OptionFault OptionWords :=
  match words with
  | [] => .ok ⟨[], []⟩
  | word :: rest =>
    match word.toList with
    | ['-', '-'] => .ok ⟨[], rest⟩
    | '-' :: '-' :: name => do
      let (option, used) ← readOptionName rules rest.head? name
      let more ← readOptionWords rules mixed (rest.drop (if used then 1 else 0))
      return { more with options := option :: more.options }
    | '-' :: letter :: letters => do
      let (options, used) ← readOptionLetters rules rest.head? (letter :: letters)
      let more ← readOptionWords rules mixed (rest.drop (if used then 1 else 0))
      return { more with options := options ++ more.options }
    | _ =>
      if mixed then do
        let more ← readOptionWords rules mixed rest
        return { more with operands := word :: more.operands }
      else .ok ⟨[], word :: rest⟩
termination_by words.length
decreasing_by
  · simp only [List.length_drop, List.length_cons]
    omega
  · simp only [List.length_drop, List.length_cons]
    omega
  · exact Nat.lt_succ_self _

end ShaderSyntax.Host
