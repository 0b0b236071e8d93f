import ShaderSyntax.CommandLine.Run
import ShaderSyntax.Host.Shell

/-!
# The program

The command line on the files of the system. A run works on a tree of files, and no run reads files
that neither it nor a source names, so the tree is filled before the run: with the files that the
request names, and from there along the inclusions, each file once. In the end the files that the
run changed are written.
-/

set_option autoImplicit false

namespace ShaderSyntax.CommandLine

/-- The path of the source that a request names, if it names one, and those of other files that it
may read. -/
def Request.paths (request : Request) : Option String × List String :=
  match request with
  | .preprocess path => (some path, [])
  | .grammar _ => (none, [])
  | .parse request => (some request.path, [FolderStore.path request.cacheFolder Shader.parserName])

/-- The paths of the sources that a source includes. -/
def inclusions (source : String) : List String :=
  (Text.lines source.toList).filterMap fun line =>
    match Directive.ofLine? line with
    | some (.inclusion target) => some (String.ofList target)
    | _ => none

/-- Adds a file of the system to a tree, if it can be read. -/
def addFile (tree : FileTree) (path : String) : IO FileTree := do
  try
    let bytes ← IO.FS.readBinFile path
    return tree.add path (some bytes)
  catch _ => return tree

/-- Adds sources below a folder, and those that they include, each of them once. -/
partial def gather (base : String) (seen paths : List String) (tree : FileTree) : IO FileTree := do
  match paths with
  | [] => return tree
  | path :: rest =>
    if seen.contains path then gather base seen rest tree
    else
      let tree ← addFile tree (Path.join base path)
      let targets := match tree.loader base path with
        | .ok source => inclusions source
        | .error _ => []
      gather base (path :: seen) (targets ++ rest) tree

/-- The path of a place: from where one stands if it lies below, and otherwise from the root. -/
def pathOf (tree : FileTree) (place : Place) : String :=
  if tree.home.isPrefixOf place then Path.ofNames (place.drop tree.home.length)
  else "/" ++ Path.ofNames place

/-- Whether a file with some bytes stands at a place. -/
def holdsBytes (tree : FileTree) (place : Place) (bytes : ByteArray) : Bool :=
  match tree.lookup? place with
  | some (.file old) => old.toList = bytes.toList
  | _ => false

/-- Writes the files that a run changed. -/
def writeChanges (before after : FileTree) : IO Unit := do
  for (place, entry) in after.entries do
    match entry with
    | .file bytes =>
      if !holdsBytes before place bytes then
        let path := pathOf after place
        let folder := Path.ofNames (Path.names path).dropLast
        if folder ≠ "" then IO.FS.createDirAll folder
        IO.FS.writeBinFile path bytes
    | _ => pure ()

/-- Carries out the words of a command line. -/
def runWords (words : List String) : IO UInt32 := do
  match Arguments.ofWords words with
  | none =>
    IO.eprintln "usage: [-b DIR] preprocess PATH | grammar [--hash] | parse PATH [options]"
    return 2
  | some arguments =>
    let (source, others) := arguments.request.paths
    let mut tree := FileTree.empty
    for path in others do
      tree ← addFile tree path
    tree ← gather arguments.base [] source.toList tree
    match run Engine.standardLimit Host.programs arguments tree with
    | none => return 1
    | some report =>
      IO.print report.output
      IO.eprint report.errors
      writeChanges tree report.tree
      return report.code.toUInt32

end ShaderSyntax.CommandLine

/-- The program. -/
def main (words : List String) : IO UInt32 :=
  ShaderSyntax.CommandLine.runWords words
