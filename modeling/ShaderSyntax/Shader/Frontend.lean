import ShaderSyntax.Preprocess.Basic
import ShaderSyntax.Shader.Error
import ShaderSyntax.Shader.Grammar

/-!
# The shader front end

A front end reads a file, preprocesses it, and parses the outcome into a syntax tree, with a parser
whose tables come from a cache.
-/

set_option autoImplicit false

namespace ShaderSyntax.Shader

/-- A parsed shader. -/
structure ParsedShader where
  tree : SyntaxTree
  /-- The node of the whole shader. -/
  root : NodeId
  /-- The preprocessed source. -/
  source : String
  /-- The syntax errors that were recovered from. -/
  errors : List SyntaxError
  overflows : List ExpansionOverflow
  stats : ParseStats

/-- The indented text of the tree. -/
def ParsedShader.render (shader : ParsedShader) : String :=
  shader.tree.render shader.root

/-- A preprocessor and a parser for shaders. -/
structure Frontend where
  preprocessor : Preprocessor
  engine : Engine SyntaxTree Value

namespace Frontend

/-- A front end whose parser uses the tables that a cache serves. -/
def ofCache {σ : Type} (backend : Backend σ) (options : EngineOptions)
    (preprocessor : Preprocessor) (state : CacheState σ) :
    Except ShaderError Frontend × CacheState σ :=
  match lexer with
  | .error fault => (.error (.rules fault), state)
  | .ok lexer =>
    let (parser, state) := TableCache.parser backend options lexer grammar parserName state
    (match parser with
      | .ok engine => .ok ⟨preprocessor, engine⟩
      | .error error => .error (.cache error), state)

/-- Reads a file and preprocesses it without macros from elsewhere. -/
def preprocessFile (frontend : Frontend) (path : String) :
    Except ShaderError (String × MacroState) :=
  match frontend.preprocessor.load path with
  | .error error => .error (.preprocess error)
  | .ok text =>
    match frontend.preprocessor.preprocess .empty path text with
    | (.ok source, state) => .ok (source, state)
    | (.error error, _) => .error (.preprocess error)

/-- The node of the whole shader, and the tree with it: the node that the parse gave, or an empty
unit if it gave none. -/
def rootOf (value : Value) (tree : SyntaxTree) : NodeId × SyntaxTree :=
  match value with
  | .node id => (id, tree)
  | _ => tree.newNode "TranslationUnit"

/-- Parses a preprocessed source within `limit` moves; `path` names it in messages. -/
def parseSource (frontend : Frontend) (limit : Nat) (path source : String) :
    Option (Except ShaderError ParsedShader) :=
  (frontend.engine.parse limit (fun _ _ => ()) () SyntaxTree.empty source).map fun outcome =>
    match outcome.verdict with
    | .error error =>
      .error (.ofParse path source frontend.engine.options.contextLines error)
    | .ok value =>
      let (root, tree) := rootOf value outcome.context
      .ok { tree, root, source, errors := outcome.errors, overflows := [], stats := outcome.stats }

/-- Reads, preprocesses and parses a file within `limit` moves. -/
def parseFile (frontend : Frontend) (limit : Nat) (path : String) :
    Option (Except ShaderError ParsedShader) :=
  match frontend.preprocessFile path with
  | .error error => some (.error error)
  | .ok (source, state) =>
    (frontend.parseSource limit path source).map fun parsed =>
      parsed.map fun shader => { shader with overflows := state.overflows }

/-- A parse that ends within a limit ends in the same way within a larger one. -/
theorem parseSource_mono {frontend : Frontend} {limit : Nat} (more : Nat) {path source : String}
    {parsed : Except ShaderError ParsedShader}
    (h : frontend.parseSource limit path source = some parsed) :
    frontend.parseSource (limit + more) path source = some parsed := by
  rw [parseSource, Option.map_eq_some_iff] at h ⊢
  obtain ⟨outcome, found, same⟩ := h
  refine ⟨outcome, ?_, same⟩
  rw [Engine.parse, Engine.parseTokens] at found ⊢
  split at found
  · exact found
  · exact Engine.run_mono found

end Frontend

end ShaderSyntax.Shader
