import ShaderSyntax.Host.Script.Basic

/-!
# Tokens of scripts

A script is cut into words, operators and line ends. Single quotes keep everything, double quotes
keep all but the dollar sign, the backquote and the backslash, and a backslash keeps one character.
A text for a command to read stands in the lines behind the command, up to a line that the command
names; it is quoted like text between double quotes, or kept as it is if any of the name is quoted.
-/

set_option autoImplicit false

namespace ShaderSyntax.Host

/-- A token of a script. -/
inductive ScriptToken where
  | word (fragments : Word)
  | operator (text : String)
  /-- A redirection operator with the descriptor in front of it. -/
  | redirection (descriptor : Option Nat) (text : String)
  | lineEnd
  /-- The rest of the script cannot be cut. -/
  | fault (text : String)
  deriving DecidableEq, Repr

/-- A token and the line that it is on. -/
structure PlacedToken where
  token : ScriptToken
  line : Nat
  deriving Repr

/-- The text up to the parenthesis that closes the one behind us, and the text behind it. `depth`
counts the parentheses that are open, `quote` is the quotation mark of the text we are in, and
`steps` bounds the characters read. -/
def untilClosed : Nat → Nat → Option Char → List Char → Option (List Char × List Char)
  | 0, _, _, _ => none
  | _ + 1, _, _, [] => none
  | steps + 1, depth, quote, c :: rest =>
    let keep (depth : Nat) (quote : Option Char) :=
      (untilClosed steps depth quote rest).map fun read => (c :: read.1, read.2)
    if c = '\\' && quote ≠ some '\'' then
      match rest with
      | [] => none
      | next :: rest =>
        (untilClosed steps depth quote rest).map fun read => (c :: next :: read.1, read.2)
    else if quote.isSome then keep depth (if quote = some c then none else quote)
    else if c = '\'' || c = '"' then keep depth (some c)
    else if c = ')' && depth = 0 then some ([], rest)
    else keep (if c = '(' then depth + 1 else if c = ')' then depth - 1 else depth) none

/-- The text of an expression up to the two parentheses that close those behind us, and the text
behind them. A single one that closes nothing belongs to the expression. -/
def untilExpressionEnd (depth : Nat) : List Char → Option (List Char × List Char)
  | [] => none
  | c :: rest =>
    if c = ')' && depth = 0 && rest.head? = some ')' then some ([], rest.drop 1)
    else
      let depth := if c = '(' then depth + 1 else if c = ')' then depth - 1 else depth
      (untilExpressionEnd depth rest).map fun read => (c :: read.1, read.2)

/-- The script up to the backquote that closes the one behind us, and the text behind it. A
backslash keeps what would be read otherwise. -/
def untilBackquote (quoted : Bool) : List Char → Option (List Char × List Char)
  | [] => none
  | '\\' :: c :: rest =>
    let kept := if ['\\', '\x60', '$'].contains c || quoted && c = '"' then [c] else ['\\', c]
    (untilBackquote quoted rest).map fun read => (kept ++ read.1, read.2)
  | c :: rest =>
    if c = '\x60' then some ([], rest)
    else (untilBackquote quoted rest).map fun read => (c :: read.1, read.2)

/-- The text up to the brace that closes the one behind us, and the text behind it. `depth` counts
the braces that are open, `quote` is the quotation mark of the text we are in, and `steps` bounds
the characters read. Between double quotes, single ones are no quotation marks. -/
def untilBrace (quoted : Bool) :
    Nat → Nat → Option Char → List Char → Option (List Char × List Char)
  | 0, _, _, _ => none
  | _ + 1, _, _, [] => none
  | steps + 1, depth, quote, c :: rest =>
    let keep (depth : Nat) (quote : Option Char) :=
      (untilBrace quoted steps depth quote rest).map fun read => (c :: read.1, read.2)
    if c = '\\' && quote ≠ some '\'' then
      match rest with
      | [] => none
      | next :: rest =>
        (untilBrace quoted steps depth quote rest).map fun read => (c :: next :: read.1, read.2)
    else if quote.isSome then keep depth (if quote = some c then none else quote)
    else if c = '"' || c = '\'' && !quoted then keep depth (some c)
    else if c = '\x7d' && depth = 0 then some ([], rest)
    else if c = '$' && rest.head? = some '\x7b' then
      (untilBrace quoted steps (depth + 1) none (rest.drop 1)).map fun read =>
        (c :: '\x7b' :: read.1, read.2)
    else keep (if c = '\x7d' then depth - 1 else depth) none

/-- A parameter with a name of one character. -/
def isSpecialParameter (c : Char) : Bool :=
  c.isDigit || ['@', '*', '#', '?', '$', '!', '-'].contains c

/-- The operators behind a parameter's name, longer ones before those they start with. -/
def parameterOperators : List String :=
  [":-", ":+", ":=", ":?", "-", "+", "=", "?", "%%", "%", "##", "#"]

/-- The parameter's name that a text starts with. -/
def nameNext (text : List Char) : List Char :=
  match text with
  | [] => []
  | c :: _ =>
    if c.isDigit then text.takeWhile Char.isDigit
    else if c.isAlpha || c = '_' then text.takeWhile isNameChar
    else if isSpecialParameter c then [c]
    else []

/-- The message about what cannot be filled in. -/
def badSubstitution : String := "Bad substitution"

/-- The fragment that the content of braces behind a dollar sign stands for. -/
def bracedFragment (quoted : Bool) (content : List Char) : Fragment :=
  let behindMark := content.drop 1
  let name := nameNext content
  let rest := content.drop name.length
  if content.head? = some '#' && !behindMark.isEmpty && nameNext behindMark = behindMark then
    .adjusted (String.ofList behindMark) "length" "" quoted
  else if name.isEmpty then .faulty badSubstitution
  else if rest.isEmpty then .parameter (String.ofList name) quoted
  else
    match parameterOperators.find? fun operator => operator.toList.isPrefixOf rest with
    | some operator =>
      .adjusted (String.ofList name) operator (String.ofList (rest.drop operator.length)) quoted
    | none => .faulty badSubstitution

/-- The fault of a quotation that does not end. -/
def openQuote : String := "Syntax error: Unterminated quoted string"

/-- The fault of a script between backquotes that does not end. -/
def openBackquote : String := "Syntax error: EOF in backquote substitution"

/-- Reads what stands behind a dollar sign: a fragment and the text behind it, nothing if the sign
stands for itself, or a fault. -/
def readDollar (quoted : Bool) (text : List Char) :
    Except String (Option (Fragment × List Char)) :=
  match text with
  | '(' :: '(' :: rest =>
    match untilExpressionEnd 0 rest with
    | some (expression, rest) => .ok (some (.arithmetic (String.ofList expression), rest))
    | none => .error "Syntax error: Missing '))'"
  | '(' :: rest =>
    match untilClosed (rest.length + 1) 0 none rest with
    | some (script, rest) => .ok (some (.substitution none (String.ofList script) quoted, rest))
    | none => .error "Syntax error: end of file unexpected (expecting \")\")"
  | '\x7b' :: rest =>
    match untilBrace quoted (rest.length + 1) 0 none rest with
    | some (content, rest) => .ok (some (bracedFragment quoted content, rest))
    | none => .error (if quoted then openQuote else "Syntax error: Missing '\x7d'")
  | text =>
    let name := match text with
      | c :: _ => if c.isDigit then [c] else nameNext text
      | [] => []
    if name.isEmpty then .ok none
    else .ok (some (.parameter (String.ofList name) quoted, text.drop name.length))

/-- Puts a character in front of fragments, into the first one if it is quoted in the same way. -/
def pushChar (c : Char) (quoted : Bool) : Word → Word
  | .text content same :: rest =>
    if same = quoted then .text (String.singleton c ++ content) quoted :: rest
    else .text (String.singleton c) quoted :: .text content same :: rest
  | rest => .text (String.singleton c) quoted :: rest

/-- Reads quoted text in which parameters are filled in: up to a double quote, or to the end of the
text for a text that commands read. Gives its fragments and the text behind it. -/
def readFilled (toEnd : Bool) : Nat → List Char → Except String (Word × List Char)
  | 0, _ => .error openQuote
  | _ + 1, [] => if toEnd then .ok ([], []) else .error openQuote
  | steps + 1, '\\' :: c :: rest =>
    if c = '\n' then readFilled toEnd steps rest
    else if ['$', '\\', '\x60'].contains c || c = '"' && !toEnd then
      (readFilled toEnd steps rest).map fun read => (pushChar c true read.1, read.2)
    else
      (readFilled toEnd steps rest).map fun read =>
        (pushChar '\\' true (pushChar c true read.1), read.2)
  | steps + 1, '$' :: rest =>
    match readDollar true rest with
    | .error fault => .error fault
    | .ok (some (fragment, rest)) =>
      (readFilled toEnd steps rest).map fun read => (fragment :: read.1, read.2)
    | .ok none => (readFilled toEnd steps rest).map fun read => (pushChar '$' true read.1, read.2)
  | steps + 1, c :: rest =>
    if c = '"' && !toEnd then .ok ([], rest)
    else if c = '\x60' then
      match untilBackquote (!toEnd) rest with
      | some (script, rest) => (readFilled toEnd steps rest).map fun read =>
        (.substitution (some 1) (String.ofList script) true :: read.1, read.2)
      | none => .error openBackquote
    else (readFilled toEnd steps rest).map fun read => (pushChar c true read.1, read.2)

/-- A character that ends a word. -/
def endsWord (c : Char) : Bool :=
  [' ', '\t', '\n', ';', '&', '|', '<', '>', '(', ')'].contains c

/-- Reads a word: up to a character that ends words, or to the end of the text. -/
def readWord (toEnd : Bool) : Nat → List Char → Except String (Word × List Char)
  | 0, text => .ok ([], text)
  | _ + 1, [] => .ok ([], [])
  | steps + 1, c :: rest =>
    if !toEnd && endsWord c then .ok ([], c :: rest)
    else if c = '\\' then
      match rest with
      | [] => .ok ([.text "\\" false], [])
      | '\n' :: rest => readWord toEnd steps rest
      | c :: rest => (readWord toEnd steps rest).map fun read => (pushChar c true read.1, read.2)
    else if c = '\'' then
      let content := rest.takeWhile (· ≠ '\'')
      match rest.drop content.length with
      | _ :: rest => (readWord toEnd steps rest).map fun read =>
        (.text (String.ofList content) true :: read.1, read.2)
      | [] => .error openQuote
    else if c = '"' then
      match readFilled false (rest.length + 1) rest with
      | .error fault => .error fault
      | .ok (inside, rest) =>
        let inside := if inside.isEmpty then [.text "" true] else inside
        (readWord toEnd steps rest).map fun read => (inside ++ read.1, read.2)
    else if c = '\x60' then
      match untilBackquote false rest with
      | some (script, rest) => (readWord toEnd steps rest).map fun read =>
        (.substitution (some 1) (String.ofList script) false :: read.1, read.2)
      | none => .error openBackquote
    else if c = '$' then
      match readDollar false rest with
      | .error fault => .error fault
      | .ok (some (fragment, rest)) =>
        (readWord toEnd steps rest).map fun read => (fragment :: read.1, read.2)
      | .ok none => (readWord toEnd steps rest).map fun read => (pushChar '$' false read.1, read.2)
    else (readWord toEnd steps rest).map fun read => (pushChar c false read.1, read.2)

/-- Text between quotation marks without those within it; a backslash keeps them, and braces. -/
def withoutQuotes : List Char → List Char
  | [] => []
  | '\\' :: '"' :: rest => '"' :: withoutQuotes rest
  | '\\' :: '\x7d' :: rest => '\x7d' :: withoutQuotes rest
  | '\\' :: c :: rest => '\\' :: c :: withoutQuotes rest
  | c :: rest => if c = '"' then withoutQuotes rest else c :: withoutQuotes rest

/-- The word that the operand of a parameter's operator stands for. Between quotation marks, further
ones change nothing. -/
def operandWord (quoted : Bool) (operand : String) : Except String Word :=
  let text := operand.toList
  if quoted then
    (readFilled true (text.length + 1) (withoutQuotes text)).map Prod.fst
  else (readWord true (text.length + 1) text).map Prod.fst

/-- The operators, longer ones before those they start with. -/
def operators : List String := ["&&", "||", ";;", "&", "|", ";", "(", ")"]

/-- The redirection operators, longer ones before those they start with. -/
def redirectionOperators : List String :=
  ["<<-", "<<", "<&", "<>", "<", ">>", ">&", ">|", ">"]

/-- The first of some operators that a text starts with. -/
def startsWith? (operators : List String) (text : List Char) : Option String :=
  operators.find? fun operator => operator.toList.isPrefixOf text

/-- The number of line feeds in a text that has been read off the front of another. -/
def linesBetween (text rest : List Char) : Nat :=
  (text.take (text.length - rest.length)).count '\n'

/-- The lines up to the one that is `last`, the text behind it, and how many lines were read. Tabs
at the start of lines are dropped if `dropTabs` holds. -/
def readBody (last : List Char) (dropTabs : Bool) : Nat → List Char → List Char × List Char × Nat
  | 0, text => ([], text, 0)
  | _ + 1, [] => ([], [], 0)
  | steps + 1, c :: text =>
    let whole := (c :: text).takeWhile (· ≠ '\n')
    let rest := (c :: text).drop (whole.length + 1)
    let line := if dropTabs then whole.dropWhile (· = '\t') else whole
    if line = last then ([], rest, 1)
    else
      let (body, rest, count) := readBody last dropTabs steps rest
      (line ++ '\n' :: body, rest, count + 1)

/-- The literal text of a fragment. -/
def Fragment.literal : Fragment → String
  | .text content _ => content
  | _ => ""

/-- Whether a fragment is quoted text. -/
def Fragment.isQuotedText : Fragment → Bool
  | .text _ quoted => quoted
  | _ => false

/-- Reads the name of a text's last line, and takes the text out of the lines below: its token, what
is left of the script, and how many lines were taken out. There is no token without a name. -/
def readTextBelow (operator : String) (text : List Char) :
    Except String (Option ScriptToken × List Char × Nat) :=
  let text := text.dropWhile fun c => c = ' ' || c = '\t'
  match readWord false (text.length + 1) text with
  | .error fault => .error fault
  | .ok ([], rest) => .ok (none, rest, 0)
  | .ok (name, rest) =>
    let last := (String.join (name.map Fragment.literal)).toList
    let line := rest.takeWhile (· ≠ '\n')
    let below := rest.drop (line.length + 1)
    let (body, below, count) := readBody last (operator = "<<-") (below.length + 1) below
    let rest := if line.length < rest.length then line ++ '\n' :: below else line
    if name.any Fragment.isQuotedText then
      .ok (some (.word [.text (String.ofList body) true]), rest, count)
    else
      (readFilled true (body.length + 1) body).map fun read => (some (.word read.1), rest, count)

/-- Cuts a script into tokens; `line` is the number of the line ahead, and `taken` counts the lines
below it that were taken out. -/
def scriptTokens : Nat → Nat → Nat → List Char → List PlacedToken
  | 0, _, _, _ => []
  | _ + 1, _, _, [] => []
  | steps + 1, line, taken, c :: rest =>
    if c = ' ' || c = '\t' then scriptTokens steps line taken rest
    else if c = '\n' then ⟨.lineEnd, line⟩ :: scriptTokens steps (line + 1 + taken) 0 rest
    else if c = '\\' && rest.head? = some '\n' then
      scriptTokens steps (line + 1) taken (rest.drop 1)
    else if c = '#' then scriptTokens steps line taken (rest.dropWhile (· ≠ '\n'))
    else
      let digits := [c].filter Char.isDigit
      match startsWith? redirectionOperators ((c :: rest).drop digits.length) with
      | some operator =>
        let descriptor := if digits.isEmpty then none else (String.ofList digits).toNat?
        let after := (c :: rest).drop (digits.length + operator.length)
        ⟨.redirection descriptor operator, line⟩ ::
          if operator = "<<" || operator = "<<-" then
            match readTextBelow operator after with
            | .error fault => [⟨.fault fault, line⟩]
            | .ok (token, after, count) =>
              token.toList.map (⟨·, line⟩) ++ scriptTokens steps line (taken + count) after
          else scriptTokens steps line taken after
      | none =>
        match startsWith? operators (c :: rest) with
        | some operator =>
          ⟨.operator operator, line⟩ ::
            scriptTokens steps line taken ((c :: rest).drop operator.length)
        | none =>
          match readWord false (rest.length + 2) (c :: rest) with
          | .error fault => [⟨.fault fault, line⟩]
          | .ok (word, after) =>
            ⟨.word word, line⟩ ::
              scriptTokens steps (line + linesBetween (c :: rest) after) taken after

/-- The line on which a script that starts on some line ends. -/
def lastLine (line : Nat) (script : String) : Nat :=
  line + script.toList.count '\n'

/-- The tokens of a script that starts on some line. What cannot be cut shows only where the script
ends. -/
def tokensOf (line : Nat) (script : String) : List PlacedToken :=
  (scriptTokens (script.length + 1) line 0 script.toList).map fun token =>
    match token.token with
    | .fault _ => { token with line := lastLine line script }
    | _ => token

end ShaderSyntax.Host
