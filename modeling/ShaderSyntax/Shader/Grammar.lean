import ShaderSyntax.Grammar.Basic
import ShaderSyntax.Shader.Actions
import ShaderSyntax.Shader.Tokens

/-!
# The shader grammar

The rules of the shader language, each with its alternatives as lists of symbols and the action that
they share. The last rule, `translation_unit`, is the goal.
-/

set_option autoImplicit false

namespace ShaderSyntax.Shader

/-- The name under which the tables of the shader parser are kept. -/
def parserName : String := "glsl"

/-- The keywords that name types. -/
def typeKeywords : List String := [
  "VOID", "BOOL", "INT", "UINT", "FLOAT", "DOUBLE", "VEC2", "VEC3", "VEC4", "BVEC2", "BVEC3",
  "BVEC4", "IVEC2", "IVEC3", "IVEC4", "UVEC2", "UVEC3", "UVEC4", "DVEC2", "DVEC3", "DVEC4",
  "MAT2", "MAT3", "MAT4", "DMAT2", "DMAT3", "DMAT4", "SAMPLER2D", "SAMPLER3D", "SAMPLERCUBE"]

/-- The keywords that qualify types. -/
def qualifiers : List String := [
  "CONST", "IN", "OUT", "INOUT", "UNIFORM", "FLAT", "SMOOTH", "CENTROID", "NOPERSPECTIVE",
  "HIGHP", "MEDIUMP", "LOWP"]

/-- The kinds of the binary operators. -/
def binaryOperators : List String := [
  "ASSIGN", "LOR", "LAND", "LTHAN", "GTHAN", "LEQUALS", "GEQUALS", "EQUALS", "NEQUALS",
  "BITAND", "BITOR", "XOR", "PLUS", "MINUS", "TIMES", "DIVIDE", "MOD", "EXP", "DOT"]

/-- The kinds of the unary operators. -/
def unaryOperators : List String := ["MINUS", "PLUS", "BANG", "BITINV", "INC", "DEC"]

/-- A rule of the shader language. -/
structure Rule where
  lhs : String
  /-- The symbols of each alternative. -/
  alternatives : List (List String)
  /-- The action of every alternative; without one they pass on their first value. -/
  action : Option BuildAction

/-- The symbols of an alternative, separated by blanks. -/
def alternativeText (symbols : List String) : String :=
  String.intercalate " " symbols

/-- The lines of the alternatives after the first, behind blanks as wide as the left-hand side. -/
def furtherText (lhs : String) (alternatives : List (List String)) : String :=
  String.join (alternatives.map fun symbols =>
    "\n" ++ String.ofList (List.replicate lhs.length ' ') ++ "| " ++ alternativeText symbols)

/-- The text of a rule, an alternative on each line. -/
def Rule.text (rule : Rule) : String :=
  match rule.alternatives with
  | [] => ""
  | first :: rest => rule.lhs ++ ": " ++ alternativeText first ++ furtherText rule.lhs rest

/-- The rules of the shader language. -/
def rules : List Rule := [
  ⟨"var_expr", [["ID"]], some varExpr⟩,
  ⟨"constant",
    [["INTCONSTANT"], ["UINTCONSTANT"], ["FLOATCONSTANT"], ["DOUBLECONSTANT"],
      ["BOOLCONSTANT"], ["STRLIT"]],
    some constant⟩,
  ⟨"primary_expression", [["var_expr"], ["constant"], ["LPAREN", "expression", "RPAREN"]],
    some primaryExpression⟩,
  ⟨"type_specifier", typeKeywords.map fun keyword => [keyword], some (keywordLeaf "Type")⟩,
  ⟨"postfix_expression",
    [["primary_expression"],
      ["postfix_expression", "LSBRACKET", "expression", "RSBRACKET"],
      ["postfix_expression", "LPAREN", "RPAREN"],
      ["postfix_expression", "LPAREN", "argument_list", "RPAREN"],
      ["type_specifier", "LPAREN", "argument_list", "RPAREN"],
      ["postfix_expression", "INC"],
      ["postfix_expression", "DEC"]],
    some postfixExpression⟩,
  ⟨"argument_list", [["expression"], ["argument_list", "COMMA", "expression"]], some listRule⟩,
  ⟨"unary_expression",
    ["postfix_expression"] :: unaryOperators.map fun op => [op, "unary_expression"],
    some unaryExpression⟩,
  ⟨"expression",
    ["unary_expression"] :: binaryOperators.map fun op => ["expression", op, "expression"],
    some expression⟩,
  ⟨"type_qualifier", qualifiers.map fun keyword => [keyword], some (keywordLeaf "Qualifier")⟩,
  ⟨"fully_specified_type", [["type_specifier"], ["type_qualifier", "type_specifier"]],
    some fullySpecifiedType⟩,
  ⟨"declaration",
    [["fully_specified_type", "ID", "SEMICOLON"],
      ["fully_specified_type", "ID", "ASSIGN", "expression", "SEMICOLON"],
      ["fully_specified_type", "ID", "LSBRACKET", "expression", "RSBRACKET", "SEMICOLON"]],
    some declaration⟩,
  ⟨"parameter", [["fully_specified_type", "ID"]], some parameter⟩,
  ⟨"parameter_list", [["parameter"], ["parameter_list", "COMMA", "parameter"]], some listRule⟩,
  ⟨"statement_list", [["statement"], ["statement_list", "statement"]], some listRule⟩,
  ⟨"compound_statement",
    [["LBRACKET", "RBRACKET"], ["LBRACKET", "statement_list", "RBRACKET"]],
    some compoundStatement⟩,
  ⟨"statement",
    [["declaration"], ["expression", "SEMICOLON"], ["compound_statement"],
      ["RETURN", "SEMICOLON"], ["RETURN", "expression", "SEMICOLON"], ["error", "SEMICOLON"]],
    some statement⟩,
  ⟨"function_definition",
    [["fully_specified_type", "ID", "LPAREN", "RPAREN", "compound_statement"],
      ["fully_specified_type", "ID", "LPAREN", "parameter_list", "RPAREN",
        "compound_statement"]],
    some functionDefinition⟩,
  ⟨"external_declaration", [["function_definition"], ["statement"]], none⟩,
  ⟨"translation_unit",
    [["external_declaration"], ["translation_unit", "external_declaration"]],
    some translationUnit⟩]

/-- The precedence of the operators, lowest first. -/
def precedence : List PrecedenceGroup := [
  ⟨.right, ["ASSIGN"]⟩,
  ⟨.left, ["LOR", "LAND"]⟩,
  ⟨.left, ["LTHAN", "GTHAN", "LEQUALS", "GEQUALS"]⟩,
  ⟨.left, ["EQUALS", "NEQUALS"]⟩,
  ⟨.left, ["BITAND", "BITOR", "XOR"]⟩,
  ⟨.left, ["PLUS", "MINUS"]⟩,
  ⟨.left, ["TIMES", "DIVIDE", "MOD", "EXP"]⟩,
  ⟨.left, ["DOT"]⟩]

/-- The grammar of the shader language. -/
def grammar : Grammar SyntaxTree Value where
  tokens := tokenKinds
  precedence := precedence
  rules := rules.map fun rule => ⟨rule.text, rule.action.map BuildAction.toSemantic⟩

end ShaderSyntax.Shader
