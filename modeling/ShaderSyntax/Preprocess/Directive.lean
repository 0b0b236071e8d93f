import ShaderSyntax.Text.Blank

/-!
# Directives

A line whose first character other than a blank is a hash sign is a directive. Two are understood:
a definition, whose body is its words with a blank between each two, and an inclusion, whose target
is written with or without quotation marks. Every other directive, and one of the two without its
first word, says nothing.
-/

set_option autoImplicit false

namespace ShaderSyntax

/-- What a directive line says. -/
inductive Directive where
  | define (name body : List Char)
  | inclusion (target : List Char)
  | ignored
  deriving DecidableEq, Repr

namespace Directive

/-- The three marks that may stand around the target of an inclusion. -/
def isQuotationMark (c : Char) : Bool :=
  c = '"' || c = '\'' || c = '\x60'

/-- The directive that the words behind the hash sign make. -/
def ofWords : List (List Char) → Directive
  | [] => .ignored
  | [_] => .ignored
  | head :: argument :: more =>
    if head = "define".toList then .define argument (List.intercalate [' '] more)
    else if head = "include".toList then
      .inclusion (argument.filter fun c => !isQuotationMark c)
    else .ignored

/-- The directive on a line, if the line is one. -/
def ofLine? (line : List Char) : Option Directive :=
  match Text.trim line with
  | '#' :: rest => some (ofWords (Text.words rest))
  | _ => none

end Directive

end ShaderSyntax
