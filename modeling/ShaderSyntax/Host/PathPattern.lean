import ShaderSyntax.Host.Glob
import ShaderSyntax.Files.Tree

/-!
# Patterns of paths

A pattern of a path is matched name by name; a name that starts with a dot is matched only by a dot.
The paths that match are given in order.
-/

set_option autoImplicit false

namespace ShaderSyntax.Host

/-- Whether a pattern has a piece that may match several names. -/
def isWildcard (pattern : String) : Bool :=
  (globPieces pattern.toList).any fun piece => match piece with
    | .char _ => false
    | _ => true

/-- The text that a pattern without such pieces stands for. -/
def literalText (pattern : String) : String :=
  String.ofList ((globPieces pattern.toList).filterMap fun piece => match piece with
    | .char c => some c
    | _ => none)

/-- A pattern in which backslashes keep no slashes. -/
def freeSlashes : List Char → List Char
  | '\\' :: '/' :: rest => '/' :: freeSlashes rest
  | '\\' :: c :: rest => '\\' :: c :: freeSlashes rest
  | c :: rest => c :: freeSlashes rest
  | [] => []

/-- The names in a folder. -/
def namesIn (tree : FileTree) (folder : String) : List String :=
  match tree.resolve (if folder.isEmpty then "." else folder) with
  | .error _ => []
  | .ok place => tree.entries.filterMap fun entry =>
    if entry.1.dropLast = place then entry.1.getLast? else none

/-- The paths that go on from some paths by a name that matches a pattern. -/
def extendPaths (tree : FileTree) (folders : List String) (pattern : String) : List String :=
  if isWildcard pattern then
    let startsWithDot := (globPieces pattern.toList).head? = some (.char '.')
    folders.flatMap fun folder =>
      let fits (name : String) :=
        globMatches pattern name && (!name.startsWith "." || startsWithDot)
      ((namesIn tree folder).filter fits).map (folder ++ ·)
  else folders.map (· ++ literalText pattern)

/-- The paths that match a pattern, in order; none if it is no pattern. -/
def matchingPaths (tree : FileTree) (pattern : String) : List String :=
  if isWildcard pattern then
    let names := (String.ofList (freeSlashes pattern.toList)).splitOn "/"
    let paths := names.dropLast.foldl (fun folders name =>
      (extendPaths tree folders name).map (· ++ "/")) [""]
    let paths := extendPaths tree paths (names.getLast?.getD "")
    (paths.filter fun path => (tree.find path).toOption.isSome).mergeSort fun a b =>
      decide (a ≤ b)
  else []

end ShaderSyntax.Host
