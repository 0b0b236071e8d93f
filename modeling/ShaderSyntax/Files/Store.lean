import ShaderSyntax.Cache.Backend
import ShaderSyntax.Files.Tree
import ShaderSyntax.Source.Loader

/-!
# Sources and records in files

A loader that reads sources below a base folder, and a store that keeps every record in a file of
its own, named for the record, in one folder.
-/

set_option autoImplicit false

namespace ShaderSyntax

/-- The folder of shader sources if no other is given. -/
def defaultBase : String := "./shaders"

/-- The loader that reads files by their path from a base folder. -/
def FileTree.loader (tree : FileTree) (base : String) : SourceLoader := fun path =>
  (tree.readText (Path.join base path)).mapError fun fault =>
    match fault with
    | .missing => .missing fault.message
    | _ => .unreadable fault.message

namespace FolderStore

/-- The file of a record. -/
def path (folder name : String) : String :=
  Path.join folder (name ++ ".json")

/-- Reads a record. -/
def load (folder name : String) (tree : FileTree) : StoreReply :=
  match tree.readText (path folder name) with
  | .ok text => .record text
  | .error .missing => .absent
  | .error _ => .failed

/-- Writes a record, having made the folder if it was missing; says whether it could. -/
def store (folder name text : String) (tree : FileTree) : Bool × FileTree :=
  match tree.makeFolders folder with
  | .error _ => (false, tree)
  | .ok tree =>
    match tree.writeBytes (path folder name) (Utf8.encode text) with
    | .error _ => (false, tree)
    | .ok tree => (true, tree)

end FolderStore

/-- The store that keeps records in the files of a folder. -/
def TableStore.folder (folder : String) : TableStore FileTree where
  load name tree := (FolderStore.load folder name tree, tree)
  store name text tree := FolderStore.store folder name text tree

end ShaderSyntax
