import ShaderSyntax.Host.Arithmetic
import ShaderSyntax.Host.PathPattern
import ShaderSyntax.Host.Session

/-!
# Filling in words

Parameters, scripts and expressions in words are filled in from the left to the right, each in the
session that the ones before it left. Values that are not quoted are cut into words, and words that
are patterns stand for the paths that match them; where one text is wanted nothing is cut.
-/

set_option autoImplicit false

namespace ShaderSyntax.Host

/-- How a session runs what is not at hand in the statement: scripts that are given as texts, the
bodies of functions, and the operands of parameters, quoted or not, that are filled in. -/
structure Runner where
  script : String → Session → Session
  body : Statement → Session → Session
  fill : Bool → String → Session → List WordPiece × Session

/-- Runs what is kept for the end of a session, with its code; the session then ends with that code,
unless what was run ends it otherwise. -/
def Session.depart (run : Runner) (session : Session) : Session :=
  match session.ended, session.traps.get? "0" with
  | some (.signal _), _ => session
  | _, none => session
  | _, some action =>
    let code := session.code
    let traps := session.traps.erase "0"
    let after := run.script action
      { session with
        ended := none, leaving := none, caller := none, tested := false, line := 1, traps }
    if after.ended.isSome then after else after.finish (.code code)

/-- Runs a part of the script apart, and what it keeps for its end. -/
def Session.runApart (run : Runner) (body : Session → Session) (session : Session) : Session :=
  session.isolate fun session => (body { session with traps := .empty }).depart run

/-- The output of a script that starts on some line, without the line ends at its end, and the
session after it. -/
def capture (run : Runner) (line : Nat) (script : String) (session : Session) : String × Session :=
  let inside := session.runApart run fun session =>
    run.script script
      { session with output := .empty, outputSink := .output, tested := false, line }
  let text := textOf ((inside.output.bytes.reverse.dropWhile (· = lineFeed)).reverse)
  (text, { inside with output := session.output, code := session.code, captured := inside.code })

/-- What stands between values that become one. -/
def Session.joint (session : Session) : String := Separators.joint (session.settings.get? "IFS")

/-- The text of pieces that are not split; `joint` stands between several values. -/
def textOfPieces (joint : String) (pieces : List WordPiece) : String :=
  String.intercalate joint ((joinPieces none false pieces).map JoinedWord.text)

/-- The pattern of pieces that are not split. -/
def patternOfPieces (pieces : List WordPiece) : String :=
  String.intercalate " " ((joinPieces none false pieces).map JoinedWord.pattern)

/-- The text that quoted text of a script stands for. -/
def fillIn (run : Runner) (text : String) (session : Session) : String × Session :=
  let (pieces, session) := run.fill true text session
  (textOfPieces session.joint pieces, session)

/-- A text without an end that matches a pattern: the shortest one, or the longest. -/
def cutEnd (longest : Bool) (pattern : String) (text : String) : String :=
  let cuts := (List.range (text.length + 1)).map fun count => (text.take count).toString
  let fits (kept : String) := globMatches pattern (text.drop kept.length).toString
  ((if longest then cuts else cuts.reverse).find? fits).getD text

/-- A text without a start that matches a pattern: the shortest one, or the longest. -/
def cutStart (longest : Bool) (pattern : String) (text : String) : String :=
  let cuts := (List.range (text.length + 1)).map fun count => (text.drop count).toString
  let fits (kept : String) :=
    globMatches pattern (text.take (text.length - kept.length)).toString
  ((if longest then cuts.reverse else cuts).find? fits).getD text

/-- The pieces of text that was filled in: what is not quoted in it is split. -/
def splitFilled (separators : Separators) (quoted : Bool) (pieces : List WordPiece) :
    List WordPiece :=
  pieces.flatMap fun piece => match piece with
    | .part text solid => valuePieces separators (quoted || solid) text
    | piece => [piece]

/-- The session that ends because a parameter has no value. -/
def Session.withoutValue (session : Session) (name : String) : Session :=
  session.abort s!"{name}: parameter not set"

/-- Whether a parameter has to have a value and has none. -/
def Session.lacks (session : Session) (name : String) : Bool :=
  session.options.needValues && !session.isSet name && name ≠ "@" && name ≠ "*"

/-- What an operator makes of a parameter's value. An operand is filled in only if it is used. -/
def adjust (run : Runner) (separators : Separators) (session : Session)
    (name operator operand : String) (quoted : Bool) : List WordPiece × Session :=
  let value := String.intercalate " " (session.parameter name)
  let present := if operator.startsWith ":" then !value.isEmpty else session.isSet name
  let pieces (text : String) := valuePieces separators quoted text
  let replaced :=
    let (filled, session) := run.fill quoted operand session
    (splitFilled separators quoted filled, session)
  let assigned :=
    let (filled, session) := run.fill quoted operand session
    let text := textOfPieces session.joint filled
    (pieces text, if session.ended.isSome then session else session.putOrAbort name text)
  let refused (reason : String) :=
    let (filled, session) := run.fill quoted operand session
    let reason := if operand.isEmpty then reason else textOfPieces session.joint filled
    ([], if session.ended.isSome then session else session.abort s!"{name}: {reason}")
  match operator with
  | ":-" => if present then (pieces value, session) else replaced
  | "-" => if present then (pieces value, session) else replaced
  | ":+" => if present then replaced else (pieces "", session)
  | "+" => if present then replaced else (pieces "", session)
  | ":=" => if present then (pieces value, session) else assigned
  | "=" => if present then (pieces value, session) else assigned
  | ":?" => if present then (pieces value, session) else refused "parameter not set or null"
  | "?" => if present then (pieces value, session) else refused "parameter not set"
  | _ =>
    if session.lacks name then ([], session.withoutValue name)
    else if operator = "length" then (pieces (toString value.utf8ByteSize), session)
    else
      let (filled, session) := run.fill false operand session
      let pattern := patternOfPieces filled
      let longest := operator.length = 2
      let cut := if operator.startsWith "%" then cutEnd longest pattern value
        else cutStart longest pattern value
      (pieces cut, session)

/-- The first of some settings that a session does not allow. -/
def Session.fixedChange? (session : Session) (settings : Named String) : Option String :=
  (settings.entries.find? fun entry =>
    session.fixed.contains entry.1 && session.settings.get? entry.1 ≠ some entry.2).map Prod.fst

/-- The value of an expression of numbers. -/
def calculate (run : Runner) (session : Session) (expression : String) :
    String × Session :=
  let (text, session) := fillIn run expression session
  if session.ended.isSome then ("", session)
  else match evaluateArithmetic text session.settings with
    | .ok (result, settings) =>
      match session.fixedChange? settings with
      | some name => ("", session.abort s!"{name}: is read only")
      | none => (toString result, { session with settings })
    | .error fault => ("", session.abort (fault.message text))

/-- The pieces of a fragment, cut at separators, and the session after it was filled in. -/
def expandFragment (run : Runner) (separators : Separators) (session : Session) :
    Fragment → List WordPiece × Session
  | .text content quoted => ([.part content quoted], session)
  | .parameter name quoted =>
    let values := session.parameter name
    if session.lacks name then ([], session.withoutValue name)
    else if quoted && name = "*" then
      ([.part (String.intercalate session.joint values) true], session)
    else (separate (values.map (valuePieces separators quoted)), session)
  | .adjusted name operator operand quoted =>
    adjust run separators session name operator operand quoted
  | .substitution line script quoted =>
    let (text, session) := capture run (line.getD session.line) script session
    (valuePieces separators quoted text, session)
  | .arithmetic expression =>
    let (text, session) := calculate run session expression
    ([.part text true], session)
  | .faulty text => ([], session.abort text)

/-- The pieces of a word, cut at separators, and the session after it was filled in. -/
def expandPieces (run : Runner) (separators : Separators) (session : Session) (word : Word) :
    List WordPiece × Session :=
  word.foldl (fun (acc : List WordPiece × Session) fragment =>
    if acc.2.ended.isSome then acc
    else
      let (pieces, session) := expandFragment run separators acc.2 fragment
      (acc.1 ++ pieces, session)) ([], session)

/-- The words that words stand for. One that is a pattern stands for the paths that match it, if
there are any. -/
def expandWords (run : Runner) (session : Session) (words : List Word) :
    List String × Session :=
  words.foldl (fun (acc : List String × Session) word =>
    let (pieces, session) := expandPieces run acc.2.separators acc.2 word
    let fields := joinPieces none false pieces
    let pathsOf (field : JoinedWord) :=
      if session.options.keepsPatterns then [] else matchingPaths session.tree field.pattern
    let paths := fields.flatMap fun field =>
      match pathsOf field with
      | [] => [field.text]
      | paths => paths
    (acc.1 ++ paths, session)) ([], session)

/-- The text that a word stands for where one word is wanted. -/
def expandText (run : Runner) (session : Session) (word : Word) : String × Session :=
  let (pieces, session) := expandPieces run .empty session word
  (textOfPieces session.joint pieces, session)

/-- The pattern that a word stands for where a pattern is wanted: what is quoted in it stands for
itself. -/
def expandPattern (run : Runner) (session : Session) (word : Word) : String × Session :=
  let (pieces, session) := expandPieces run .empty session word
  (patternOfPieces pieces, session)

end ShaderSyntax.Host
