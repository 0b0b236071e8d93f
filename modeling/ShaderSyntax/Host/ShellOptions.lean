/-!
# Options of shells

What a shell is asked to do besides running its script. Options are switched by letters behind a
hyphen, or off behind a plus sign, or by their names.
-/

set_option autoImplicit false

namespace ShaderSyntax.Host

/-- An option: its letter, if it has one, and its name. -/
structure ShellOption where
  letter : Option Char
  name : String
  deriving DecidableEq, Repr

/-- The options in the order in which they are listed. -/
def knownShellOptions : List ShellOption := [
  ⟨some 'e', "errexit"⟩, ⟨some 'f', "noglob"⟩, ⟨some 'I', "ignoreeof"⟩, ⟨some 'i', "interactive"⟩,
  ⟨some 'm', "monitor"⟩, ⟨some 'n', "noexec"⟩, ⟨some 's', "stdin"⟩, ⟨some 'x', "xtrace"⟩,
  ⟨some 'v', "verbose"⟩, ⟨some 'V', "vi"⟩, ⟨some 'E', "emacs"⟩, ⟨some 'C', "noclobber"⟩,
  ⟨some 'a', "allexport"⟩, ⟨some 'b', "notify"⟩, ⟨some 'u', "nounset"⟩, ⟨some 'p', "privileged"⟩,
  ⟨none, "nolog"⟩, ⟨none, "debug"⟩]

/-- The options that are switched on, by their names. -/
structure ShellOptions where
  names : List String
  deriving DecidableEq, Repr

namespace ShellOptions

/-- The options of a shell that is asked for nothing. -/
def plain : ShellOptions := ⟨[]⟩

/-- Whether an option is switched on. -/
def has (options : ShellOptions) (name : String) : Bool := options.names.contains name

/-- Options with one of them switched on or off. -/
def switch (options : ShellOptions) (on : Bool) (name : String) : ShellOptions :=
  let others := options.names.filter (· ≠ name)
  ⟨if on then name :: others else others⟩

/-- Whether the script ends when a command fails that is not tested. -/
def stopOnFailure (options : ShellOptions) : Bool := options.has "errexit"

/-- Whether the script ends when a parameter without a value is used. -/
def needValues (options : ShellOptions) : Bool := options.has "nounset"

/-- Whether the commands that are run are reported. -/
def traces (options : ShellOptions) : Bool := options.has "xtrace"

/-- Whether patterns stand for themselves. -/
def keepsPatterns (options : ShellOptions) : Bool := options.has "noglob"

/-- Whether commands are read and not run. -/
def onlyReads (options : ShellOptions) : Bool := options.has "noexec"

/-- Whether files that are there are not written over. -/
def keepsFiles (options : ShellOptions) : Bool := options.has "noclobber"

/-- Whether programs are given every variable that is set. -/
def exportsAll (options : ShellOptions) : Bool := options.has "allexport"

/-- The letters of the options that are switched on. -/
def letters (options : ShellOptions) : String :=
  String.ofList (((knownShellOptions.filter fun option => options.has option.name).filterMap
    ShellOption.letter).reverse)

/-- The list of all options: how they stand, or the commands that would switch them so. -/
def listing (options : ShellOptions) (readable : Bool) : String :=
  if readable then
    "Current option settings\n" ++ String.join (knownShellOptions.map fun option =>
      let gap := String.ofList (List.replicate (16 - option.name.length) ' ')
      option.name ++ gap ++ (if options.has option.name then "on" else "off") ++ "\n")
  else
    String.join (knownShellOptions.map fun option =>
      let sign := if options.has option.name then "-" else "+"
      "set " ++ sign ++ "o " ++ option.name ++ "\n")

end ShellOptions

/-- What words that switch options ask for. -/
structure SwitchWords where
  options : ShellOptions
  /-- Whether the first word behind them is a script. -/
  hasScript : Bool
  /-- Whether the words behind them are arguments even if there are none. -/
  replaces : Bool
  /-- The lists of options that are asked for: one to be read, or one of commands. -/
  lists : List Bool
  words : List String
  deriving DecidableEq, Repr

/-- Reads the letters of a word that switches options; names stand in the words behind it. The
letters that say what the script is are read only where a shell starts. -/
def switchLetters (starts on : Bool) : List Char → SwitchWords → Except String SwitchWords
  | [], read => .ok read
  | letter :: rest, read =>
    if starts && letter = 'c' then switchLetters starts on rest { read with hasScript := true }
    else if starts && letter = 'l' then switchLetters starts on rest read
    else if letter = 'o' then
      match read.words with
      | [] => switchLetters starts on rest { read with lists := read.lists ++ [on] }
      | name :: words =>
        if knownShellOptions.any (·.name = name) then
          switchLetters starts on rest
            { read with options := read.options.switch on name, words }
        else .error s!"Illegal option -o {name}"
    else
      match knownShellOptions.find? (·.letter = some letter) with
      | some option =>
        switchLetters starts on rest { read with options := read.options.switch on option.name }
      | none => .error s!"Illegal option -{letter}"

/-- Reads words that switch options, in at most so many steps. -/
def readSwitches (starts : Bool) : Nat → SwitchWords → Except String SwitchWords
  | 0, read => .ok read
  | steps + 1, read =>
    match read.words with
    | [] => .ok read
    | word :: words =>
      if word = "--" then .ok { read with replaces := true, words }
      else if word = "-" then
        let options := (read.options.switch false "xtrace").switch false "verbose"
        .ok { read with options, words }
      else
        match word.toList with
        | '-' :: letters => do
          readSwitches starts steps (← switchLetters starts true letters { read with words })
        | '+' :: letters => do
          readSwitches starts steps (← switchLetters starts false letters { read with words })
        | _ => .ok read

/-- Reads the words that switch options in front of others. -/
def SwitchWords.ofWords (starts : Bool) (options : ShellOptions) (words : List String) :
    Except String SwitchWords :=
  readSwitches starts (words.length + 1) ⟨options, false, false, [], words⟩

end ShaderSyntax.Host
