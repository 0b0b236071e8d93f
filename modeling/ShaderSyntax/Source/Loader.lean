/-!
# Source loaders

A loader gives the text of a file by its path. It answers the same question the same way throughout
a run, so it is a function.
-/

set_option autoImplicit false

namespace ShaderSyntax

/-- Why a loader gives no text. -/
inductive LoadFault where
  /-- There is no such file; `text` is the loader's word for it. -/
  | missing (text : String)
  /-- The file is there but cannot be read. -/
  | unreadable (text : String)
  deriving DecidableEq, Repr

/-- What the loader says. -/
def LoadFault.text : LoadFault → String
  | .missing text => text
  | .unreadable text => text

/-- Read access to source files by path. -/
abbrev SourceLoader := String → Except LoadFault String

end ShaderSyntax
