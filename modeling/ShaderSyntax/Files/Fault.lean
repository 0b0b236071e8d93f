/-!
# File faults

Why a file is not read or written, with the system's words for it.
-/

set_option autoImplicit false

namespace ShaderSyntax

/-- Why an operation on a file fails. -/
inductive FileFault where
  | missing
  | argumentsTooLong
  | denied
  | present
  | notAFolder
  | isAFolder
  | nameTooLong
  /-- A path holds the null character. -/
  | nullInPath
  /-- An argument of a program holds the null character. -/
  | nullInArgument
  /-- The bytes of a file are no text. -/
  | notText
  deriving DecidableEq, Repr

/-- The system's words for a fault. -/
def FileFault.message : FileFault → String
  | .missing => "No such file or directory (os error 2)"
  | .argumentsTooLong => "Argument list too long (os error 7)"
  | .denied => "Permission denied (os error 13)"
  | .present => "File exists (os error 17)"
  | .notAFolder => "Not a directory (os error 20)"
  | .isAFolder => "Is a directory (os error 21)"
  | .nameTooLong => "File name too long (os error 36)"
  | .nullInPath => "file name contained an unexpected NUL byte"
  | .nullInArgument => "nul byte found in provided data"
  | .notText => "stream did not contain valid UTF-8"

end ShaderSyntax
