import ShaderSyntax.Files.Store
import ShaderSyntax.Numeral.Whole

/-!
# Command-line arguments

What the words of a command line ask for. An option's value is the next word or stands behind an
equals sign; options come in any order; a double hyphen ends them.
-/

set_option autoImplicit false

namespace ShaderSyntax.CommandLine

/-- How a shader is to be parsed. -/
structure ParseRequest where
  path : String
  cacheFolder : String
  compiler : String
  compilerArguments : List String
  recover : Bool
  contextLines : Nat
  deriving DecidableEq, Repr

/-- What a command line asks for. -/
inductive Request where
  | preprocess (path : String)
  | grammar (hashOnly : Bool)
  | parse (request : ParseRequest)
  deriving DecidableEq, Repr

/-- A request and the folder of sources. -/
structure Arguments where
  base : String
  request : Request
  deriving DecidableEq, Repr

/-- An option with its value, if it has one, and the words that stand for themselves. -/
inductive Item where
  | option (name : String) (value : String)
  | flag (name : String)
  | plain (word : String)
  deriving DecidableEq, Repr

/-- The options that have no value. -/
def flagNames : List String := ["hash"]

/-- The item of a word behind its two hyphens, and the words behind the item. -/
def longItem (word : List Char) (rest : List String) : Item × List String :=
  let name := word.takeWhile (· ≠ '=')
  match word.drop name.length with
  | _ :: value => (.option (String.ofList name) (String.ofList value), rest)
  | [] =>
    if flagNames.contains (String.ofList name) then (.flag (String.ofList name), rest)
    else (.option (String.ofList name) (rest.head?.getD ""), rest.drop 1)

/-- The items of a command line. `steps` bounds the words. -/
def items : Nat → List String → List Item
  | 0, _ => []
  | _ + 1, [] => []
  | steps + 1, word :: rest =>
    match word.toList with
    | ['-', '-'] => rest.map .plain
    | '-' :: '-' :: name =>
      let (item, rest) := longItem name rest
      item :: items steps rest
    | ['-', 'b'] => .option "base" (rest.head?.getD "") :: items steps (rest.drop 1)
    | '-' :: 'b' :: '=' :: value => .option "base" (String.ofList value) :: items steps rest
    | '-' :: 'b' :: value => .option "base" (String.ofList value) :: items steps rest
    | _ => .plain word :: items steps rest

/-- The values of an option, in order. -/
def valuesOf (name : String) (items : List Item) : List String :=
  items.filterMap fun item =>
    match item with
    | .option other value => if other = name then some value else none
    | _ => none

/-- The last value of an option, or what holds without it. -/
def valueOf (name default : String) (items : List Item) : String :=
  (valuesOf name items).getLast?.getD default

/-- The words that are no options. -/
def plainWords (items : List Item) : List String :=
  items.filterMap fun item =>
    match item with
    | .plain word => some word
    | _ => none

/-- The request that items make, if they make one. -/
def requestOf (items : List Item) : Option Request :=
  match plainWords items with
  | ["preprocess", path] => some (.preprocess path)
  | ["grammar"] => some (.grammar (items.contains (.flag "hash")))
  | ["parse", path] => some (.parse {
      path
      cacheFolder := valueOf "cache-dir" ".shadeparse-cache" items
      compiler := valueOf "compiler" "shadeparse-compile" items
      compilerArguments := valuesOf "compiler-arg" items
      recover := valueOf "recover" "true" items = "true"
      contextLines := (Numeral.decimal? (valueOf "context-lines" "2" items).toList).getD 2 })
  | _ => none

/-- What the words of a command line ask for, if they ask for something. -/
def Arguments.ofWords (words : List String) : Option Arguments :=
  let items := items (words.length + 1) words
  (requestOf items).map fun request => ⟨valueOf "base" defaultBase items, request⟩

end ShaderSyntax.CommandLine
