import ShaderSyntax.Text.Utf8

/-!
# Paths

A path is a text: names with slashes between them, from the root if the first character is a slash,
and otherwise from the place where one stands.
-/

set_option autoImplicit false

namespace ShaderSyntax.Path

/-- A path that starts at the root. -/
def isAbsolute (path : String) : Bool :=
  path.toList.head? == some '/'

/-- A path seen from another one: an absolute path is itself, and any other stands behind the base
and a slash. -/
def join (base path : String) : String :=
  if isAbsolute path || base.isEmpty then path
  else if base.toList.getLast? == some '/' then base ++ path
  else base ++ "/" ++ path

/-- Splits a text at slashes; a text without slashes is one piece. -/
def splitSlashes : List Char → List (List Char)
  | [] => [[]]
  | c :: rest =>
    if c = '/' then [] :: splitSlashes rest
    else
      match splitSlashes rest with
      | [] => [[c]]
      | name :: more => (c :: name) :: more

/-- The names of a path in order; what stands between two slashes in a row, or before the first or
behind the last one, is an empty name. -/
def names (path : String) : List String :=
  (splitSlashes path.toList).map String.ofList

/-- The names of a path without empty ones and single dots at its start. -/
def trimStart : List String → List String
  | [] => []
  | name :: rest => if name = "" || name = "." then trimStart rest else name :: rest

/-- Names with a slash between each two. -/
def ofNames (names : List String) : String :=
  String.intercalate "/" names

/-- The most bytes that a name may have. -/
def nameLimit : Nat := 255

/-- The most bytes that a path may have. -/
def lengthLimit : Nat := 4095

end ShaderSyntax.Path
