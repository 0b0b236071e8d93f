import ShaderSyntax.Host.Script.Token

/-!
# Reading scripts

Statements are read from tokens by what can stand where: a line is a row of conditional chains, a
chain a row of pipes, a pipe a row of commands. Statements within others end before a keyword, and
whoever reads the outer one says which keyword has to come. A script is read line by line, so that a
line that cannot be read does not keep those before it from running.
-/

set_option autoImplicit false

namespace ShaderSyntax.Host

/-- Something that was read, and the tokens behind it. -/
abbrev Behind (α : Type) := α × List PlacedToken

/-- The keyword that a token is: a word without quotes or parameters. -/
def keyword (tokens : List PlacedToken) : String :=
  match tokens with
  | ⟨.word [.text content false], _⟩ :: _ => content
  | ⟨.operator ")", _⟩ :: _ => ")"
  | ⟨.operator ";;", _⟩ :: _ => ";;"
  | _ => ""

/-- The words that open or close a part of a statement. -/
def reservedWords : List String :=
  ["if", "then", "elif", "else", "fi", "while", "until", "for", "do", "done", "in", "!", "\x7b",
    "\x7d", "case", "esac"]

/-- How messages name the token ahead. -/
def tokenName (tokens : List PlacedToken) : String :=
  match tokens with
  | [] => "end of file"
  | token :: _ =>
    match token.token with
    | .word _ =>
      if reservedWords.contains (keyword tokens) then "\"" ++ keyword tokens ++ "\"" else "word"
    | .operator text => "\"" ++ text ++ "\""
    | .redirection .. => "redirection"
    | .lineEnd => "newline"
    | .fault text => text

/-- What a message says was expected. -/
inductive Expected where
  | nothing
  | someWord
  | word (text : String)
  deriving DecidableEq, Repr

/-- What a message says behind the token that was not expected. -/
def Expected.message : Expected → String
  | .nothing => ""
  | .someWord => " (expecting word)"
  | .word text => " (expecting \"" ++ text ++ "\")"

/-- The fault of a token that cannot stand where it does; `last` is the line where the script
ends. -/
def unexpected (last : Nat) (tokens : List PlacedToken) (expected : Expected) : ScriptFault :=
  match tokens with
  | ⟨.fault text, line⟩ :: _ => ⟨line, text⟩
  | _ =>
    ⟨(tokens.head?.map PlacedToken.line).getD last,
      "Syntax error: " ++ tokenName tokens ++ " unexpected" ++ expected.message⟩

/-- The fault of a script at the token ahead. -/
def syntaxFault (last : Nat) (tokens : List PlacedToken) (text : String) : ScriptFault :=
  ⟨(tokens.head?.map PlacedToken.line).getD last, "Syntax error: " ++ text⟩

/-- The tokens behind line ends. -/
def skipLineEnds : List PlacedToken → List PlacedToken
  | ⟨.lineEnd, _⟩ :: rest => skipLineEnds rest
  | tokens => tokens

/-- The tokens behind a keyword that has to come next. -/
def expectKeyword (last : Nat) (word : String) (tokens : List PlacedToken) :
    Except ScriptFault (List PlacedToken) :=
  if keyword tokens = word then .ok (tokens.drop 1)
  else .error (unexpected last tokens (.word word))

/-- The keywords that end a row of statements within another one. -/
def endingWords : List String :=
  ["do", "done", "elif", "else", "esac", "fi", "then", "\x7d", ")", ";;"]

/-- Reads a redirection whose operator is behind us. -/
def readRedirection (last : Nat) (descriptor : Option Nat) (operator : String)
    (tokens : List PlacedToken) : Except ScriptFault (Behind Redirection) :=
  match tokens with
  | ⟨.word path, _⟩ :: rest =>
    let input := descriptor.getD 0
    let output := descriptor.getD 1
    .ok (match operator with
      | "<" => .read input path false
      | "<>" => .read input path true
      | "<<" => .text input path
      | "<<-" => .text input path
      | ">" => .write output path false
      | ">|" => .write output path true
      | ">>" => .append output path
      | ">&" => .copy output path
      | _ => .copy input path, rest)
  | _ => .error (unexpected last tokens .nothing)

/-- Reads redirections. -/
def readRedirections (last : Nat) :
    Nat → List PlacedToken → Except ScriptFault (Behind (List Redirection))
  | 0, tokens => .ok ([], tokens)
  | steps + 1, ⟨.redirection descriptor operator, _⟩ :: rest => do
    let (first, rest) ← readRedirection last descriptor operator rest
    let (more, rest) ← readRedirections last steps rest
    return (first :: more, rest)
  | _, tokens => .ok ([], tokens)

/-- The assignment that a word in front of a command makes. -/
def assignment? : Word → Option (String × Word)
  | .text content false :: rest =>
    let name := content.toList.takeWhile (· ≠ '=')
    match content.toList.drop name.length with
    | _ :: value =>
      if isName name then
        some (String.ofList name, if value.isEmpty then rest
          else .text (String.ofList value) false :: rest)
      else none
    | [] => none
  | _ => none

/-- The parts of a plain command. -/
structure PlainCommand where
  assignments : List (String × Word)
  words : List Word
  redirections : List Redirection

/-- Reads the words, assignments and redirections of a plain command; `started` says that a word has
come. -/
def readPlain (last : Nat) :
    Nat → Bool → List PlacedToken → Except ScriptFault (Behind PlainCommand)
  | 0, _, tokens => .ok (⟨[], [], []⟩, tokens)
  | steps + 1, started, ⟨.redirection descriptor operator, _⟩ :: rest => do
    let (first, rest) ← readRedirection last descriptor operator rest
    let (more, rest) ← readPlain last steps started rest
    return ({ more with redirections := first :: more.redirections }, rest)
  | steps + 1, started, ⟨.word word, _⟩ :: rest => do
    match if started then none else assignment? word with
    | some assignment =>
      let (more, rest) ← readPlain last steps false rest
      return ({ more with assignments := assignment :: more.assignments }, rest)
    | none =>
      let (more, rest) ← readPlain last steps true rest
      return ({ more with words := word :: more.words }, rest)
  | _, _, tokens => .ok (⟨[], [], []⟩, tokens)

/-- Reads the patterns of a branch, up to the parenthesis behind them. -/
def readPatterns (last : Nat) : List PlacedToken → Except ScriptFault (Behind (List Word))
  | ⟨.word word, _⟩ :: ⟨.operator "|", _⟩ :: rest =>
    (readPatterns last rest).map fun read => (word :: read.1, read.2)
  | ⟨.word word, _⟩ :: ⟨.operator ")", _⟩ :: rest => .ok ([word], rest)
  | tokens => .error (unexpected last (tokens.drop 1) (.word ")"))

/-- A statement with redirections in force, if there are any. -/
def Statement.under (line : Nat) (body : Statement) (redirections : List Redirection) : Statement :=
  if redirections.isEmpty then body else .group line body redirections

/-- Reads the redirections behind a statement. -/
def withRedirectionsBehind (last line steps : Nat)
    (read : Except ScriptFault (Behind Statement)) : Except ScriptFault (Behind Statement) := do
  let (body, rest) ← read
  let (redirections, rest) ← readRedirections last steps rest
  return (.under line body redirections, rest)

/-- Reads words. -/
def readWords : List PlacedToken → List Word × List PlacedToken
  | ⟨.word word, _⟩ :: rest =>
    let read := readWords rest
    (word :: read.1, read.2)
  | tokens => ([], tokens)

/-- Reads the words of a loop over words, up to what has to follow them; without words it goes over
the arguments. -/
def readLoopWords (last : Nat) (tokens : List PlacedToken) :
    Except ScriptFault (Behind (List Word)) :=
  if keyword (skipLineEnds tokens) = "in" then
    match readWords ((skipLineEnds tokens).drop 1) with
    | (words, ⟨.lineEnd, _⟩ :: rest) => .ok (words, rest)
    | (words, ⟨.operator ";", _⟩ :: rest) => .ok (words, rest)
    | (_, rest) => .error (unexpected last rest .nothing)
  else
    match tokens with
    | ⟨.operator ";", _⟩ :: rest => .ok ([[.parameter "@" true]], rest)
    | rest => .ok ([[.parameter "@" true]], rest)

/-- The built-in commands whose names no function can take, and whose faults end a script. -/
def specialCommands : List String := [
  ".", ":", "break", "continue", "eval", "exec", "exit", "export", "local", "readonly", "return",
  "set", "shift", "times", "trap", "unset"]

mutual

/-- Reads one command. -/
def readCommand (last steps : Nat) (tokens : List PlacedToken) :
    Except ScriptFault (Behind Statement) :=
  match steps with
  | 0 => .error (unexpected last tokens .nothing)
  | steps + 1 =>
    match tokens with
    | ⟨.operator "(", line⟩ :: rest => do
      let (body, rest) ← readList last steps true rest
      let rest ← expectKeyword last ")" rest
      let (redirections, rest) ← readRedirections last steps rest
      return (.isolated line body redirections, rest)
    | ⟨.word first, line⟩ :: rest =>
      match keyword tokens with
      | "\x7b" => do
        let (body, rest) ← readList last steps true rest
        let rest ← expectKeyword last "\x7d" rest
        let (redirections, rest) ← readRedirections last steps rest
        return (.group line body redirections, rest)
      | "if" => withRedirectionsBehind last line steps (readChoice last steps rest)
      | "while" => withRedirectionsBehind last line steps (readLoop last steps false rest)
      | "until" => withRedirectionsBehind last line steps (readLoop last steps true rest)
      | "for" => withRedirectionsBehind last line steps (readEach last steps line rest)
      | "case" => withRedirectionsBehind last line steps (readSelection last steps line rest)
      | word =>
        if reservedWords.contains word then .error (unexpected last tokens .nothing)
        else match rest with
        | ⟨.operator "(", _⟩ :: behind =>
          if (assignment? first).isSome then .error (unexpected last rest .nothing)
          else do
            let rest ← expectKeyword last ")" behind
            if !isName word.toList || specialCommands.contains word then
              throw (syntaxFault last behind "Bad function name")
            let (body, rest) ← readCommand last steps (skipLineEnds rest)
            return (.define word body, rest)
        | _ => do
          let (plain, rest) ← readPlain last steps false tokens
          return (.command line plain.assignments plain.words plain.redirections, rest)
    | ⟨.redirection .., line⟩ :: _ => do
      let (plain, rest) ← readPlain last steps false tokens
      return (.command line plain.assignments plain.words plain.redirections, rest)
    | _ => .error (unexpected last tokens .nothing)

/-- Reads a choice behind its first keyword. -/
def readChoice (last steps : Nat) (tokens : List PlacedToken) :
    Except ScriptFault (Behind Statement) :=
  match steps with
  | 0 => .error (unexpected last tokens .nothing)
  | steps + 1 => do
    let (condition, rest) ← readList last steps true tokens
    let rest ← expectKeyword last "then" rest
    let (yes, rest) ← readList last steps true rest
    match keyword rest with
    | "elif" =>
      let (no, rest) ← readChoice last steps (rest.drop 1)
      return (.choice condition yes no, rest)
    | "else" =>
      let (no, rest) ← readList last steps true (rest.drop 1)
      let rest ← expectKeyword last "fi" rest
      return (.choice condition yes no, rest)
    | _ =>
      let rest ← expectKeyword last "fi" rest
      return (.choice condition yes .nothing, rest)

/-- Reads a loop behind its first keyword. -/
def readLoop (last steps : Nat) (whileFails : Bool) (tokens : List PlacedToken) :
    Except ScriptFault (Behind Statement) :=
  match steps with
  | 0 => .error (unexpected last tokens .nothing)
  | steps + 1 => do
    let (condition, rest) ← readList last steps true tokens
    let rest ← expectKeyword last "do" rest
    let (body, rest) ← readList last steps true rest
    let rest ← expectKeyword last "done" rest
    return (.loop whileFails condition body, rest)

/-- Reads a loop over words behind its first keyword, which is on a line. -/
def readEach (last steps line : Nat) (tokens : List PlacedToken) :
    Except ScriptFault (Behind Statement) :=
  match steps with
  | 0 => .error (unexpected last tokens .nothing)
  | steps + 1 => do
    let name := keyword tokens
    if !isName name.toList then throw (syntaxFault last tokens "Bad for loop variable")
    let (words, rest) ← readLoopWords last (tokens.drop 1)
    let rest ← expectKeyword last "do" (skipLineEnds rest)
    let (body, rest) ← readList last steps true rest
    let rest ← expectKeyword last "done" rest
    return (.each line name words body, rest)

/-- Reads a choice by patterns behind its first keyword, which is on a line. -/
def readSelection (last steps line : Nat) (tokens : List PlacedToken) :
    Except ScriptFault (Behind Statement) :=
  match steps with
  | 0 => .error (unexpected last tokens .nothing)
  | steps + 1 =>
    match tokens with
    | ⟨.word word, _⟩ :: rest => do
      let rest ← expectKeyword last "in" (skipLineEnds rest)
      let (body, rest) ← readBranches last steps rest
      return (.select line word body, rest)
    | tokens => .error (unexpected last tokens .someWord)

/-- Reads the branches of a choice by patterns, and the keyword behind them. -/
def readBranches (last steps : Nat) (tokens : List PlacedToken) :
    Except ScriptFault (Behind Statement) :=
  match steps with
  | 0 => .error (unexpected last tokens .nothing)
  | steps + 1 =>
    let tokens := skipLineEnds tokens
    if keyword tokens = "esac" then .ok (.nothing, tokens.drop 1)
    else do
      let tokens := match tokens with
        | ⟨.operator "(", _⟩ :: rest => rest
        | tokens => tokens
      let (patterns, rest) ← readPatterns last tokens
      let (body, rest) ← readList last steps false rest
      let rest ← if keyword rest = "esac" then pure rest else expectKeyword last ";;" rest
      let (next, rest) ← readBranches last steps rest
      return (.branch patterns body next, rest)

/-- Reads commands joined by pipes. -/
def readPipe (last steps : Nat) (tokens : List PlacedToken) :
    Except ScriptFault (Behind Statement) :=
  match steps with
  | 0 => .error (unexpected last tokens .nothing)
  | steps + 1 => do
    let (first, rest) ← readCommand last steps tokens
    match rest with
    | ⟨.operator "|", _⟩ :: rest =>
      let (second, rest) ← readPipe last steps (skipLineEnds rest)
      return (.pipe first second, rest)
    | rest => return (first, rest)

/-- Reads commands joined by pipes, with or without a negation in front. -/
def readNegation (last steps : Nat) (tokens : List PlacedToken) :
    Except ScriptFault (Behind Statement) :=
  match steps with
  | 0 => .error (unexpected last tokens .nothing)
  | steps + 1 =>
    if keyword tokens = "!" then do
      let (body, rest) ← readPipe last steps (tokens.drop 1)
      return (.negation body, rest)
    else readPipe last steps tokens

/-- Reads what is joined by conditions to the statement in front. -/
def readChain (last steps : Nat) (first : Statement) (tokens : List PlacedToken) :
    Except ScriptFault (Behind Statement) :=
  match steps with
  | 0 => .error (unexpected last tokens .nothing)
  | steps + 1 =>
    match tokens with
    | ⟨.operator "&&", _⟩ :: rest => do
      let (second, rest) ← readNegation last steps (skipLineEnds rest)
      readChain last steps (.both first second) rest
    | ⟨.operator "||", _⟩ :: rest => do
      let (second, rest) ← readNegation last steps (skipLineEnds rest)
      readChain last steps (.either first second) rest
    | tokens => .ok (first, tokens)

/-- Reads statements within another one, up to what ends them; `needed` says that one has to
come. -/
def readList (last steps : Nat) (needed : Bool) (tokens : List PlacedToken) :
    Except ScriptFault (Behind Statement) :=
  match steps with
  | 0 => .error (unexpected last tokens .nothing)
  | steps + 1 =>
    let tokens := skipLineEnds tokens
    if tokens.isEmpty || !needed && endingWords.contains (keyword tokens) then
      .ok (.nothing, tokens)
    else do
      let (first, rest) ← readNegation last steps tokens
      let (first, rest) ← readChain last steps first rest
      match rest with
      | ⟨.operator ";", _⟩ :: rest =>
        let (more, rest) ← readList last steps false rest
        return (.sequence first more, rest)
      | ⟨.operator "&", _⟩ :: rest =>
        let (more, rest) ← readList last steps false rest
        return (.sequence (.background first) more, rest)
      | ⟨.lineEnd, _⟩ :: rest =>
        let (more, rest) ← readList last steps false rest
        return (.sequence first more, rest)
      | rest => return (first, rest)

end

/-- Reads a line of a script. -/
def readLine (last steps : Nat) (tokens : List PlacedToken) :
    Except ScriptFault (Behind Statement) :=
  match steps with
  | 0 => .error (unexpected last tokens .nothing)
  | steps + 1 => do
    let (first, rest) ← readNegation last steps tokens
    let (first, rest) ← readChain last steps first rest
    match rest with
    | [] => return (first, [])
    | ⟨.lineEnd, _⟩ :: rest => return (first, rest)
    | ⟨.operator text, line⟩ :: rest =>
      if text = ";" || text = "&" then
        let first := if text = "&" then .background first else first
        match rest with
        | [] => return (first, [])
        | ⟨.lineEnd, _⟩ :: rest => return (first, rest)
        | _ =>
          let (more, rest) ← readLine last steps rest
          return (.sequence first more, rest)
      else throw (unexpected last (⟨.operator text, line⟩ :: rest) .nothing)
    | rest => throw (unexpected last rest .nothing)

/-- Reads the lines of a script. -/
def readLines (last steps : Nat) : Nat → List PlacedToken → Script
  | 0, _ => ⟨[], none⟩
  | lines + 1, tokens =>
    match skipLineEnds tokens with
    | [] => ⟨[], none⟩
    | token :: rest =>
      match readLine last steps (token :: rest) with
      | .error fault => ⟨[], some fault⟩
      | .ok (first, rest) =>
        let more := readLines last steps lines rest
        { more with lines := first :: more.lines }

/-- Reads a script that starts on some line. -/
def Script.ofText (line : Nat) (text : String) : Script :=
  let tokens := tokensOf line text
  readLines (lastLine line text) (9 * tokens.length + 18) (tokens.length + 1) tokens

end ShaderSyntax.Host
