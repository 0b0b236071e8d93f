import ShaderSyntax.Host.ByteStream
import ShaderSyntax.Host.Options
import ShaderSyntax.Files.Tree

/-!
# Tools

The small programs that scripts are made of: each reads files or its input, writes output and
complaints in some order, and ends with a code. A tool takes from its input what it needs, so that
what runs after it in the same script finds the rest.
-/

set_option autoImplicit false

namespace ShaderSyntax.Host

/-- Something that a tool writes. -/
inductive ToolWrite where
  | output (stream : ByteStream)
  | complaint (text : String)

/-- What a tool did: what it wrote, in order, how it ended, and what it left of its input. -/
structure ToolResult where
  writes : List ToolWrite
  code : Nat
  rest : ByteStream

/-- A program that reads files and input. -/
abbrev Tool := List String → FileTree → ByteStream → ToolResult

/-- Whether something that was written is a complaint. -/
def ToolWrite.isComplaint : ToolWrite → Bool
  | .output _ => false
  | .complaint _ => true

/-- A tool that wrote some things; it fails if there is a complaint among them. -/
def ToolResult.ofWrites (writes : List ToolWrite) (rest : ByteStream) : ToolResult :=
  ⟨writes, if writes.any ToolWrite.isComplaint then 1 else 0, rest⟩

/-- A tool that writes bytes and leaves its input alone. -/
def ToolResult.written (stream : ByteStream) (input : ByteStream) : ToolResult :=
  ⟨[.output stream], 0, input⟩

/-- A tool that complains and does nothing else. -/
def ToolResult.refused (tool text : String) (input : ByteStream) : ToolResult :=
  ⟨[.complaint s!"{tool}: {text}\n"], 1, input⟩

/-- A tool that complains and tells where help is to be had. -/
def ToolResult.misused (tool text : String) (input : ByteStream) : ToolResult :=
  .refused tool (text ++ s!"\nTry '{tool} --help' for more information.") input

/-- The system's words for a fault, without its number. -/
def shortMessage (fault : FileFault) : String :=
  ((fault.message.splitOn " (os error").head?).getD ""

/-- The stream of a file. -/
def openFile (tree : FileTree) (path : String) : Except FileFault ByteStream := do
  match ← tree.find path with
  | .folder => throw .isAFolder
  | .file bytes => return .ofBytes bytes.toList
  | .void => return .empty
  | .zeros => return ⟨[], [0]⟩

/-- Whether a path stands for the input of the program that is given it. -/
def isOwnInput (path : String) : Bool :=
  ["-", "/dev/stdin", "/dev/fd/0"].contains path

/-- Goes through files in turn. `visit` is given the path and what is there, or why it cannot be
read, and gives the next state and what it left of the stream; what it leaves of the tool's own
input is there for the next file that stands for it. -/
def visitFiles {State : Type} (tree : FileTree)
    (visit : State → String → Except FileFault ByteStream → State × ByteStream) :
    List String → State → ByteStream → State × ByteStream
  | [], state, input => (state, input)
  | path :: rest, state, input =>
    if isOwnInput path then
      let (state, input) := visit state path (.ok input)
      visitFiles tree visit rest state input
    else visitFiles tree visit rest (visit state path (openFile tree path)).1 input

/-- The files that a tool is to read, or its input. -/
def inputsOr (paths : List String) : List String :=
  if paths.isEmpty then ["-"] else paths

/-- The characters that a shell would not read as a part of a name. -/
def unsafeInNames : List Char :=
  [' ', '!', '"', '$', '&', '(', ')', '*', ';', '<', '=', '>', '?', '[', '\\', '^', '\x60', '|',
    '\'', '\t', '\n']

/-- A name between quotation marks. -/
def quotedName (name : String) : String := "'" ++ name ++ "'"

/-- A name as messages show it: between quotation marks if a shell would not read it as it is. -/
def shownName (name : String) : String :=
  if name.isEmpty then "''"
  else if !name.toList.any unsafeInNames.contains then name
  else if name.toList.contains '\'' then "\"" ++ name ++ "\""
  else quotedName name

/-- A word between curved quotation marks. -/
def curvedQuotes (word : String) : String := "‘" ++ word ++ "’"

/-- A complaint about a file, with the name of the tool and the path. -/
def plainComplaint (tool path : String) (fault : FileFault) : ToolWrite :=
  .complaint (tool ++ ": " ++ shownName path ++ ": " ++ shortMessage fault ++ "\n")

end ShaderSyntax.Host
