import ShaderSyntax.Host.Builtin.Basic

/-!
# Commands for variables

Commands that set variables and forget them, and those that say who else sees a variable, and
whether it may change.
-/

set_option autoImplicit false

namespace ShaderSyntax.Host

/-- The characters of a line up to its end, whether the end was found, and how many characters were
passed. A backslash keeps the character behind it, or joins the next line, unless `plain` holds. -/
def lineChars (plain : Bool) : List Char → List LineChar × Bool × Nat
  | [] => ([], false, 0)
  | '\n' :: _ => ([], true, 1)
  | '\\' :: c :: rest =>
    if plain then
      let (chars, found, passed) := lineChars plain (c :: rest)
      (('\\', false) :: chars, found, passed + 1)
    else
      let (chars, found, passed) := lineChars plain rest
      (if c = '\n' then chars else (c, true) :: chars, found, passed + 2)
  | c :: rest =>
    let (chars, found, passed) := lineChars plain rest
    (if c = '\\' && !plain then chars else (c, false) :: chars, found, passed + 1)

/-- The words of a line that names are given. -/
def wordsFor (separators : Separators) (names : List String) (line : List LineChar) :
    List String :=
  separators.cutLine names.length line

/-- Gives variables values one after the other, up to one that takes none. -/
def Session.putAll (session : Session) : List (String × String) → Except (String × Session) Session
  | [] => .ok session
  | (name, value) :: rest =>
    match session.put name value with
    | .ok session => session.putAll rest
    | .error fault => .error (fault, session)

/-- Takes a line of input as the values of variables. -/
def readVariables : Builtin :=
  withOptions [letterRule true 'p', letterRule false 'r'] Session.refuse fun read session =>
    if read.operands.isEmpty then session.refuse "arg count"
    else
      let text := (textOf session.input.bytes).toList
      let (chars, found, passed) := lineChars (read.has 'r') text
      let chars := chars.filter fun c => c.1 ≠ '\x00'
      let taken := (bytesOf (String.ofList (text.take passed))).length
      let session := { session with input := session.input.drop taken }
      let words := wordsFor session.separators read.operands chars
      match session.putAll (read.operands.zip words) with
      | .ok session => session.withCode (if found then 0 else 1)
      | .error (fault, session) => session.refuse fault

/-- The name and the value of an assignment, if a word is one. -/
def splitAssignment (word : String) : String × Option String :=
  let name := word.toList.takeWhile (· ≠ '=')
  match word.toList.drop name.length with
  | _ :: value => (String.ofList name, some (String.ofList value))
  | [] => (word, none)

/-- Sets the variable that a word assigns a value to, and does more to the variable. -/
def Session.declare (mark : String → Session → Session) (session : Session) (word : String) :
    Session :=
  if session.stops then session
  else
    let (name, value) := splitAssignment word
    if !isName name.toList then session.abort s!"{name}: bad variable name"
    else match value with
      | none => mark name session
      | some value =>
        let session := session.putOrAbort name value
        if session.stops then session else mark name session

/-- Takes variables for the running function. -/
def hideVariables : Builtin := fun arguments session =>
  let hide (name : String) (value : Option String) (session : Session) : Session :=
    { session with
      hidden := session.hidden.map ((name, value) :: ·) }
  if session.hidden.isNone then session.abort "not in a function"
  else arguments.foldl (fun session word =>
    let old := session.settings.get? (splitAssignment word).1
    session.declare (fun name => hide name old) word) (session.withCode 0)

/-- The lines that set the variables with some names. -/
def Session.declarations (session : Session) (command : String) (names : List String) : String :=
  let names := (names.mergeSort fun a b => decide (a ≤ b)).eraseDups
  String.join (names.map fun name =>
    let value := match session.settings.get? name with
      | some value => "=" ++ quotedForScripts value
      | none => ""
    command ++ " " ++ name ++ value ++ "\n")

/-- Does something to variables, or lists those to which it was done. -/
def declareVariables (command : String) (marked : Session → List String)
    (mark : String → Session → Session) : Builtin :=
  withOptions [letterRule false 'p'] Session.abort fun read session =>
    if read.has 'p' || read.operands.isEmpty then
      (session.print (.ofText (session.declarations command (marked session)))).withCode 0
    else read.operands.foldl (Session.declare mark) (session.withCode 0)

/-- Sets variables, for programs as well. -/
def exportVariables : Builtin :=
  declareVariables "export" Session.exported fun name session =>
    { session with exported := name :: session.exported }

/-- Sets variables for good. -/
def fixVariables : Builtin :=
  declareVariables "readonly" Session.fixed fun name session =>
    { session with fixed := name :: session.fixed }

/-- Forgets a variable. -/
def Session.forget (session : Session) (name : String) : Session :=
  if session.stops then session
  else if !isName name.toList then session.abort s!"{name}: bad variable name"
  else if session.fixed.contains name then session.abort s!"{name}: is read only"
  else { session with
    settings := session.settings.erase name
    exported := session.exported.filter (· ≠ name) }

/-- Forgets variables or functions. -/
def unsetNames : Builtin :=
  withOptions [letterRule false 'f', letterRule false 'v'] Session.abort fun read session =>
    let session := session.withCode 0
    if (read.options.getLast?.map GivenOption.letter) = some 'f' then
      { session with functions := read.operands.foldl Named.erase session.functions }
    else read.operands.foldl Session.forget session

/-- Drops the first arguments of the session. -/
def shiftArguments : Builtin := fun arguments session =>
  let word := arguments.head?.getD "1"
  match smallNumber? word with
  | none => session.abort (noNumber word)
  | some count =>
    if session.arguments.length < count then session.abort "can't shift that many"
    else { session with arguments := session.arguments.drop count, code := 0 }

/-- Sets the options and the arguments of the session. -/
def setArguments : Builtin := fun arguments session =>
  match SwitchWords.ofWords false session.options arguments with
  | .error fault => session.abort fault
  | .ok read =>
    let session := { session with options := read.options, code := 0 }
    let lists := String.join (read.lists.map session.options.listing)
    let session := session.print (.ofText lists)
    if read.words.isEmpty && !read.replaces then session
    else { session with arguments := read.words }

end ShaderSyntax.Host
