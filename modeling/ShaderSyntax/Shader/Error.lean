import ShaderSyntax.Cache.Basic
import ShaderSyntax.Parse.Error
import ShaderSyntax.Preprocess.Error

/-!
# Failures of the shader front end

Why a shader is not parsed. Every failure has a message, and the messages of what caused it; a
failure that only passes on another one has the other's message and causes.
-/

set_option autoImplicit false

namespace ShaderSyntax

/-- The messages of what caused a failure of preprocessing. -/
def PreprocessError.causes : PreprocessError → List String
  | .unreadable _ cause => [cause]
  | _ => []

/-- The messages of what caused a failed request to a cache. -/
def CacheError.causes : CacheError → List String
  | .invalid _ error => [error.message]
  | _ => []

namespace Shader

/-- Why the front end gives no shader. -/
inductive ShaderError where
  | preprocess (error : PreprocessError)
  | cache (error : CacheError)
  | rules (fault : BadPattern)
  /-- A syntax error that ended the parse, with the lines around it. -/
  | rejected (path rendered : String) (error : SyntaxError)
  /-- The lines around a syntax error could not be made, which stops the program. -/
  | stopped (fault : ExcerptFault)
  | parse (error : ParseError)

namespace ShaderError

/-- The message of a failure. -/
def message : ShaderError → String
  | .preprocess error => "preprocessing failed: " ++ error.message
  | .cache error => "cannot load shader parser: " ++ error.message
  | .rules fault => "invalid token rules: " ++ fault.message
  | .rejected path rendered error => path ++ ": " ++ error.message ++ "\n" ++ rendered
  | .stopped fault => fault.message
  | .parse error => error.message

/-- The messages of what caused a failure, the outermost first. -/
def causes : ShaderError → List String
  | .preprocess error => error.message :: error.causes
  | .cache error => error.message :: error.causes
  | .rules fault => [fault.message]
  | .rejected _ _ error => [error.message]
  | .stopped _ => []
  | .parse _ => []

/-- The failure of a parse; a syntax error gets the lines of the source around it. -/
def ofParse (path source : String) (contextLines : Nat) : ParseError → ShaderError
  | .rejected error =>
    match error.render source contextLines with
    | .ok rendered => .rejected path rendered error
    | .error fault => .stopped fault
  | other => .parse other

end ShaderError

end Shader

end ShaderSyntax
