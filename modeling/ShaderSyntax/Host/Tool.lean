import ShaderSyntax.Host.Format
import ShaderSyntax.Host.Tool.Copy
import ShaderSyntax.Host.Tool.Count
import ShaderSyntax.Host.Tool.Exchange
import ShaderSyntax.Host.Tool.Excerpt

/-!
# The tools by name

The tools that are programs of their own, and the smallest of them.
-/

set_option autoImplicit false

namespace ShaderSyntax.Host

/-- Whether a word asks for something and is not to be written. -/
def isEchoOption (word : String) : Bool :=
  match word.toList with
  | '-' :: letter :: letters => (letter :: letters).all fun c => ['n', 'e', 'E'].contains c
  | _ => false

/-- Writes its arguments in a line; escapes are read only if that is asked for. -/
def echoPlain : Tool := fun arguments _ input =>
  let letters := (arguments.takeWhile isEchoOption).flatMap fun word => word.toList.drop 1
  let text := String.intercalate " " (arguments.dropWhile isEchoOption)
  let escaped := (letters.filter (· ≠ 'n')).getLast? = some 'e'
  let (bytes, stop) := if escaped then unescape text.toList else (bytesOf text, false)
  .written (.ofBytes (bytes ++ if stop || letters.contains 'n' then [] else [lineFeed])) input

/-- Writes its arguments under a format; `name` stands in front of complaints, which come first. -/
def format (name : String) : Tool := fun arguments _ input =>
  let complain (text : String) := ToolWrite.complaint (name ++ ": " ++ text ++ "\n")
  match readOptionWords [] false arguments with
  | .error fault => ⟨[complain fault.shellMessage], 2, input⟩
  | .ok read =>
    match read.operands with
    | [] => ⟨[complain "usage: printf format [arg ...]"], 2, input⟩
    | format :: arguments =>
      let writing := writeFormat format arguments
      ⟨writing.faults.map complain ++ [.output (.ofBytes writing.bytes)], writing.code, input⟩

/-- Writes a line over and over. -/
def repeatLine : Tool := fun arguments _ input =>
  let line := if arguments.isEmpty then "y" else String.intercalate " " arguments
  .written ⟨[], bytesOf (line ++ "\n")⟩ input

/-- Does nothing and ends with a code. -/
def endWith (code : Nat) : Tool := fun _ _ input => ⟨[], code, input⟩

/-- The tools that are programs of their own, by name. -/
def tools : List (String × Tool) := [
  ("cat", concatenate), ("head", writeFirst), ("tail", writeLast), ("wc", countInputs),
  ("tr", exchangeBytes), ("echo", echoPlain), ("printf", format "printf"), ("yes", repeatLine),
  ("true", endWith 0), ("false", endWith 1), ("sleep", endWith 0)]

end ShaderSyntax.Host
