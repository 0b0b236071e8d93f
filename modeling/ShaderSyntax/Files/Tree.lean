import ShaderSyntax.Files.Fault
import ShaderSyntax.Files.Path

/-!
# File trees

The files that a program sees: folders and files by their place below the root, and the folder where
the program stands. A path is walked name by name: every name but the last has to be a folder's, a
single dot stays, and two dots go up. Two devices are always there: `/dev/null`, which holds nothing
and keeps nothing, and `/dev/zero`, which never ends.
-/

set_option autoImplicit false

namespace ShaderSyntax

/-- The place of a file or folder: the names from the root down. -/
abbrev Place := List String

/-- What stands at a place. -/
inductive FileEntry where
  | folder
  | file (bytes : ByteArray)
  /-- Holds nothing, and keeps nothing. -/
  | void
  /-- Holds zero bytes without end. -/
  | zeros

/-- Whether an entry is a folder. -/
def FileEntry.isFolder : FileEntry → Bool
  | .folder => true
  | _ => false

/-- Whether an entry keeps nothing of what is written to it. -/
def FileEntry.isVoid : FileEntry → Bool
  | .void => true
  | _ => false

/-- Folders and files, and the folder where one stands. -/
structure FileTree where
  home : Place
  entries : List (Place × FileEntry)

namespace FileTree

/-- What stands at a place. The folders from the root to where one stands are always there. -/
def lookup? (tree : FileTree) (place : Place) : Option FileEntry :=
  if place.isPrefixOf tree.home then some .folder
  else if place = ["dev"] then some .folder
  else if place = ["dev", "null"] then some .void
  else if place = ["dev", "zero"] then some .zeros
  else (tree.entries.find? (·.1 = place)).map Prod.snd

/-- Whether a folder stands at a place. -/
def isFolder (tree : FileTree) (place : Place) : Bool :=
  (tree.lookup? place).any FileEntry.isFolder

/-- Puts an entry at a place, instead of the one that was there. -/
def put (tree : FileTree) (place : Place) (entry : FileEntry) : FileTree :=
  { tree with entries := (place, entry) :: tree.entries.filter (·.1 ≠ place) }

/-- Goes from a place along one name. -/
def walkName (tree : FileTree) (place : Place) (name : String) : Except FileFault Place :=
  if !tree.isFolder place then .error .notAFolder
  else if name = "" || name = "." then .ok place
  else if name = ".." then .ok place.dropLast
  else if Path.nameLimit < name.utf8ByteSize then .error .nameTooLong
  else
    match tree.lookup? (place ++ [name]) with
    | none => .error .missing
    | some _ => .ok (place ++ [name])

/-- Goes from a place along names. -/
def walk (tree : FileTree) (place : Place) : List String → Except FileFault Place
  | [] => .ok place
  | name :: rest =>
    match tree.walkName place name with
    | .error fault => .error fault
    | .ok next => tree.walk next rest

/-- Where a path starts. -/
def start (tree : FileTree) (path : String) : Place :=
  if Path.isAbsolute path then [] else tree.home

/-- Refuses what is no path at all. -/
def checkPath (path : String) : Except FileFault Unit :=
  if path.toList.contains '\x00' then .error .nullInPath
  else if path.isEmpty then .error .missing
  else if Path.lengthLimit < path.utf8ByteSize then .error .nameTooLong
  else .ok ()

/-- The place that a path leads to, if something stands there. -/
def resolve (tree : FileTree) (path : String) : Except FileFault Place := do
  checkPath path
  tree.walk (tree.start path) (Path.names path)

/-- What stands at the end of a path. -/
def find (tree : FileTree) (path : String) : Except FileFault FileEntry := do
  match tree.lookup? (← tree.resolve path) with
  | some entry => return entry
  | none => throw .missing

/-- The bytes of a file. A device that never ends has no bytes to give as a whole. -/
def readBytes (tree : FileTree) (path : String) : Except FileFault ByteArray := do
  match ← tree.find path with
  | .folder => throw .isAFolder
  | .file bytes => return bytes
  | .void => return ByteArray.empty
  | .zeros => return ByteArray.empty

/-- The text of a file. -/
def readText (tree : FileTree) (path : String) : Except FileFault String := do
  match Utf8.decode? (← tree.readBytes path) with
  | some text => return text
  | none => throw .notText

/-- The folder of a path and the last name in it. -/
def resolveNew (tree : FileTree) (path : String) : Except FileFault (Place × String) := do
  checkPath path
  let names := Path.names path
  let folder ← tree.walk (tree.start path) names.dropLast
  if tree.isFolder folder then return (folder, names.getLast?.getD "") else throw .notAFolder

/-- Writes a file, in place of the one that was there. -/
def writeBytes (tree : FileTree) (path : String) (bytes : ByteArray) :
    Except FileFault FileTree := do
  let (folder, name) ← tree.resolveNew path
  if name = "" || name = "." || name = ".." then throw .isAFolder
  if Path.nameLimit < name.utf8ByteSize then throw .nameTooLong
  match tree.lookup? (folder ++ [name]) with
  | some .folder => throw .isAFolder
  | some .void => return tree
  | some .zeros => return tree
  | _ => return tree.put (folder ++ [name]) (.file bytes)

/-- Goes from a place along names and makes the folders that are missing. -/
def makeFoldersFrom (tree : FileTree) (place : Place) : List String → Except FileFault FileTree
  | [] => .ok tree
  | name :: rest =>
    match tree.walkName place name with
    | .ok next => if tree.isFolder next then tree.makeFoldersFrom next rest else .error .present
    | .error .missing => (tree.put (place ++ [name]) .folder).makeFoldersFrom (place ++ [name]) rest
    | .error fault => .error fault

/-- Makes the folder at the end of a path, and those on the way to it. -/
def makeFolders (tree : FileTree) (path : String) : Except FileFault FileTree :=
  if path.isEmpty then .ok tree
  else
    match checkPath path with
    | .error fault => .error fault
    | .ok _ => tree.makeFoldersFrom (tree.start path) (Path.names path)

/-- The files below the folder where one stands, by their path from there, in order. -/
def files (tree : FileTree) : List (String × ByteArray) :=
  let found := tree.entries.filterMap fun entry =>
    match entry.2 with
    | .file bytes =>
      if tree.home.isPrefixOf entry.1 then
        some (Path.ofNames (entry.1.drop tree.home.length), bytes)
      else none
    | _ => none
  found.mergeSort fun a b => decide (a.1 ≤ b.1)

/-- Where programs stand that are not told otherwise. -/
def defaultHome : Place := ["tmp", "work"]

/-- The tree with nothing in the folder where one stands. -/
def empty : FileTree := ⟨defaultHome, []⟩

/-- Adds a file, or an empty folder, with the folders on the way to it; what cannot be added is left
out. -/
def add (tree : FileTree) (path : String) (content : Option ByteArray) : FileTree :=
  match content with
  | none => (tree.makeFolders path).toOption.getD tree
  | some bytes =>
    let folder := Path.ofNames (Path.names path).dropLast
    let tree := (tree.makeFolders folder).toOption.getD tree
    (tree.writeBytes path bytes).toOption.getD tree

end FileTree

end ShaderSyntax
