import ShaderSyntax.Token.Lexer

/-!
# Shader tokens

The token rules of the shader language, in the order in which they are tried: comments and blanks,
which are discarded, then names, constants, and operators with the longer ones first. A name whose
upper-case spelling is a keyword becomes that keyword, and `true` and `false` become Boolean
constants.
-/

set_option autoImplicit false

namespace ShaderSyntax.Shader

/-- The keywords, which are also the kinds of their tokens. -/
def keywords : List String := [
  "CONST", "BOOL", "FLOAT", "DOUBLE", "INT", "UINT", "BREAK", "CONTINUE", "DO", "ELSE", "FOR",
  "IF", "DISCARD", "RETURN", "SWITCH", "CASE", "DEFAULT", "SUBROUTINE", "BVEC2", "BVEC3", "BVEC4",
  "IVEC2", "IVEC3", "IVEC4", "UVEC2", "UVEC3", "UVEC4", "VEC2", "VEC3", "VEC4", "MAT2", "MAT3",
  "MAT4", "CENTROID", "IN", "OUT", "INOUT", "UNIFORM", "PATCH", "SAMPLE", "BUFFER", "SHARED",
  "COHERENT", "VOLATILE", "RESTRICT", "READONLY", "WRITEONLY", "DVEC2", "DVEC3", "DVEC4", "DMAT2",
  "DMAT3", "DMAT4", "NOPERSPECTIVE", "FLAT", "SMOOTH", "LAYOUT", "MAT2X2", "MAT2X3", "MAT2X4",
  "MAT3X2", "MAT3X3", "MAT3X4", "MAT4X2", "MAT4X3", "MAT4X4", "DMAT2X2", "DMAT2X3", "DMAT2X4",
  "DMAT3X2", "DMAT3X3", "DMAT3X4", "DMAT4X2", "DMAT4X3", "DMAT4X4", "ATOMIC_UINT", "SAMPLER1D",
  "SAMPLER2D", "SAMPLER3D", "SAMPLERCUBE", "SAMPLER1DSHADOW", "SAMPLER2DSHADOW",
  "SAMPLERCUBESHADOW", "SAMPLER1DARRAY", "SAMPLER2DARRAY", "SAMPLER1DARRAYSHADOW",
  "SAMPLER2DARRAYSHADOW", "ISAMPLER1D", "ISAMPLER2D", "ISAMPLER3D", "ISAMPLERCUBE",
  "ISAMPLER1DARRAY", "ISAMPLER2DARRAY", "USAMPLER1D", "USAMPLER2D", "USAMPLER3D", "USAMPLERCUBE",
  "USAMPLER1DARRAY", "USAMPLER2DARRAY", "SAMPLER2DRECT", "SAMPLER2DRECTSHADOW", "ISAMPLER2DRECT",
  "USAMPLER2DRECT", "SAMPLERBUFFER", "ISAMPLERBUFFER", "USAMPLERBUFFER", "SAMPLERCUBEARRAY",
  "SAMPLERCUBEARRAYSHADOW", "ISAMPLERCUBEARRAY", "USAMPLERCUBEARRAY", "SAMPLER2DMS",
  "ISAMPLER2DMS", "USAMPLER2DMS", "SAMPLER2DMSARRAY", "ISAMPLER2DMSARRAY", "USAMPLER2DMSARRAY",
  "IMAGE1D", "IIMAGE1D", "UIMAGE1D", "IMAGE2D", "IIMAGE2D", "UIMAGE2D", "IMAGE3D", "IIMAGE3D",
  "UIMAGE3D", "IMAGE2DRECT", "IIMAGE2DRECT", "UIMAGE2DRECT", "IMAGECUBE", "IIMAGECUBE",
  "UIMAGECUBE", "IMAGEBUFFER", "IIMAGEBUFFER", "UIMAGEBUFFER", "IMAGE1DARRAY", "IIMAGE1DARRAY",
  "UIMAGE1DARRAY", "IMAGE2DARRAY", "IIMAGE2DARRAY", "UIMAGE2DARRAY", "IMAGECUBEARRAY",
  "IIMAGECUBEARRAY", "UIMAGECUBEARRAY", "IMAGE2DMS", "IIMAGE2DMS", "UIMAGE2DMS", "IMAGE2DMSARRAY",
  "IIMAGE2DMSARRAY", "UIMAGE2DMSARRAY", "STRUCT", "VOID", "WHILE", "INVARIANT", "PRECISE",
  "HIGHP", "MEDIUMP", "LOWP", "PRECISION"]

/-- The kinds and patterns of the rules that make tokens, in the order in which they are tried. -/
def keptRules : List (String × String) := [
  ("ID", "[a-zA-Z$_][a-zA-Z0-9$_]*"),
  ("DOUBLECONSTANT", "[0-9]+(\\.[0-9]*)?([eE][+-]?[0-9]+)?(lf|LF|d)"),
  ("FLOATCONSTANT", "[0-9]+\\.[0-9]*([eE][+-]?[0-9]+)?[fF]?|[0-9]+[eE][+-]?[0-9]+[fF]?"),
  ("UINTCONSTANT", "(0[xX][0-9a-fA-F]+|[0-9]+)[uU]"),
  ("INTCONSTANT", "0[xX][0-9a-fA-F]+|[0-9]+"),
  ("STRLIT", "\"([^\"\\\\\\n]|\\\\.)*\""),
  ("INC", "\\+\\+"),
  ("DEC", "--"),
  ("EXP", "\\*\\*"),
  ("LAND", "&&"),
  ("LOR", "\\|\\|"),
  ("EQUALS", "=="),
  ("NEQUALS", "!="),
  ("LEQUALS", "<="),
  ("GEQUALS", ">="),
  ("LPAREN", "\\("),
  ("RPAREN", "\\)"),
  ("LSBRACKET", "\\["),
  ("RSBRACKET", "\\]"),
  ("LBRACKET", "\\\x7b"),
  ("RBRACKET", "\\\x7d"),
  ("COMMA", ","),
  ("COLON", ":"),
  ("SEMICOLON", ";"),
  ("QUESTION", "\\?"),
  ("DOT", "\\."),
  ("PLUS", "\\+"),
  ("MINUS", "-"),
  ("TIMES", "\\*"),
  ("DIVIDE", "/"),
  ("MOD", "%"),
  ("BITAND", "&"),
  ("BITOR", "\\|"),
  ("XOR", "\\^"),
  ("BITINV", "~"),
  ("BANG", "!"),
  ("ASSIGN", "="),
  ("LTHAN", "<"),
  ("GTHAN", ">")]

/-- A letter of the Latin alphabet in upper case; any other character is kept. -/
def upperCase (text : String) : String :=
  String.ofList (text.toList.map Char.toUpper)

/-- The kind of a name: a Boolean constant, a keyword in any case, or a plain name. -/
def nameKind (kind text : String) : String :=
  if text = "true" || text = "false" then "BOOLCONSTANT"
  else if keywords.contains (upperCase text) then upperCase text
  else kind

/-- Gives a name its kind. -/
def rekind (token : Token) : Token :=
  { token with kind := nameKind token.kind token.text }

/-- The rules that separate tokens: line comments, block comments and blanks. -/
def discardedRules : List (String × String) := [
  ("COMMENT", "//[^\\n]*"),
  ("BLOCK_COMMENT", "/\\*([^*]|\\*+[^*/])*\\*+/"),
  ("WS", "[ \\t\\r\\n]+")]

/-- The token rules of the shader language. -/
def tokenRules : List TokenRule :=
  (discardedRules.map fun rule => ⟨rule.1, rule.2, true, none⟩) ++
    keptRules.map fun rule =>
      ⟨rule.1, rule.2, false, if rule.1 = "ID" then some rekind else none⟩

/-- The lexer of the shader language. -/
def lexer : Except BadPattern Lexer :=
  Lexer.ofRules tokenRules

/-- Every kind of token that the lexer makes, in the order of the kinds' names, each once. -/
def tokenKinds : List String :=
  ((keywords ++ "BOOLCONSTANT" :: keptRules.map Prod.fst).mergeSort
    fun a b => decide (a ≤ b)).eraseDups

end ShaderSyntax.Shader
