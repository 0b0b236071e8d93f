import ShaderSyntax.Host.Tool.Basic
import ShaderSyntax.Host.Tool.ByteSet

/-!
# Exchanging bytes

An exchange replaces the bytes of one set by those of another, in order, the last one filling up; or
it drops the bytes of a set; and it may squeeze runs of a byte into one.
-/

set_option autoImplicit false

namespace ShaderSyntax.Host

open Command

/-- An exchange. -/
structure Exchange where
  drop : Bytes
  source : Bytes
  target : Bytes
  squeeze : Bytes

/-- What an exchange makes of a byte. A byte that stands more than once in the source goes by its
last place. -/
def Exchange.change (exchange : Exchange) (byte : UInt8) : Bytes :=
  if exchange.drop.contains byte then []
  else
    let fromEnd := exchange.source.reverse.idxOf? byte
    match fromEnd, exchange.target.getLast? with
    | some place, some last =>
      [(exchange.target[exchange.source.length - 1 - place]?).getD last]
    | _, _ => [byte]

/-- Leaves one of each run of a byte that is squeezed. -/
def squeezeRuns (set : Bytes) : Bytes → Bytes
  | [] => []
  | [byte] => [byte]
  | byte :: next :: rest =>
    if byte = next && set.contains byte then squeezeRuns set (next :: rest)
    else byte :: squeezeRuns set (next :: rest)

/-- Exchanges a stream. -/
def Exchange.apply (exchange : Exchange) (stream : ByteStream) : ByteStream :=
  let changed := stream.mapBytes exchange.change
  if exchange.squeeze.isEmpty then changed
  else ⟨squeezeRuns exchange.squeeze changed.bytes, changed.cycle⟩

/-- Why sets do not go together. -/
inductive ExchangeFault where
  | set (fault : SetFault)
  | fillInFirst
  | fillTwice
  | fillWithoutTarget
  | sameInSecond
  | classInSecond
  | misaligned
  | classAtEnd
  | noTarget
  | manyForComplement
  deriving DecidableEq, Repr

/-- The message of a fault. -/
def ExchangeFault.message : ExchangeFault → String
  | .set fault => fault.message
  | .fillInFirst => "the [c*] repeat construct may not appear in string1"
  | .fillTwice => "only one [c*] repeat construct may appear in string2"
  | .fillWithoutTarget => "the [c*] construct may appear in string2 only when translating"
  | .sameInSecond => "[=c=] expressions may not appear in string2 when translating"
  | .classInSecond =>
    "when translating, the only character classes that may appear in\n" ++
      "string2 are 'upper' and 'lower'"
  | .misaligned => "misaligned [:upper:] and/or [:lower:] construct"
  | .classAtEnd =>
    "when translating with string1 longer than string2,\n" ++
      "the latter string must not end with a character class"
  | .noTarget => "when not truncating set1, string2 must be non-empty"
  | .manyForComplement =>
    "when translating with complemented character classes,\n" ++
      "string2 must map all characters in the domain to one"

/-- What an exchange is asked for. -/
structure ExchangeStyle where
  complements : Bool
  drops : Bool
  squeezes : Bool
  truncates : Bool

namespace ExchangeStyle

/-- The options of exchanging. -/
def rules : List OptionRule := [
  ⟨'c', "complement", false⟩, ⟨'C', "", false⟩, ⟨'d', "delete", false⟩,
  ⟨'s', "squeeze-repeats", false⟩, ⟨'t', "truncate-set1", false⟩]

/-- The style that options ask for. -/
def ofOptions (words : OptionWords) : ExchangeStyle where
  complements := words.has 'c' || words.has 'C'
  drops := words.has 'd'
  squeezes := words.has 's'
  truncates := words.has 't'

end ExchangeStyle

/-- Whether a piece is a class that changes case. -/
def SetPiece.isCase : SetPiece → Bool
  | .class_ name _ => name = "upper" || name = "lower"
  | _ => false

/-- Whether a piece is a class. -/
def SetPiece.isClass : SetPiece → Bool
  | .class_ .. => true
  | _ => false

/-- Whether a piece fills what is missing. -/
def SetPiece.fills : SetPiece → Bool
  | .repeated _ none => true
  | _ => false

/-- Whether a piece stands for all bytes that count as the same. -/
def SetPiece.isSame : SetPiece → Bool
  | .same _ => true
  | _ => false

/-- The places of a set: one for each byte, but only one for a class that changes case. -/
def setPlaces (missing : Nat) (pieces : List SetPiece) : List SetPiece :=
  pieces.flatMap fun piece =>
    if piece.isCase then [piece] else (piece.bytes missing).map .byte

/-- Whether each class of the second set has one that changes case at its place in the first. -/
def casesAlign : List SetPiece → List SetPiece → Bool
  | first :: firsts, second :: seconds =>
    (!second.isCase || first.isCase) && casesAlign firsts seconds
  | [], second :: _ => !second.isCase
  | _, [] => true

/-- The bytes of pieces. -/
def piecesBytes (missing : Nat) (pieces : List SetPiece) : Bytes :=
  pieces.flatMap (SetPiece.bytes missing)

/-- The exchange of one set into another. -/
def Exchange.between (style : ExchangeStyle) (first second : List SetPiece) :
    Except ExchangeFault Exchange := do
  let source := piecesBytes 0 first
  let source := if style.complements then complementSet source else source
  let missing := source.length - (piecesBytes 0 second).length
  let target := piecesBytes missing second
  let squeeze := if style.squeezes then target else []
  if 1 < (second.filter SetPiece.fills).length then throw .fillTwice
  if second.any SetPiece.isSame then throw .sameInSecond
  if second.any fun piece => piece.isClass && !piece.isCase then throw .classInSecond
  let firstPlaces := if style.complements then source.map .byte else setPlaces 0 first
  let secondPlaces := setPlaces missing second
  if !style.complements && !casesAlign firstPlaces secondPlaces then throw .misaligned
  if secondPlaces.length < firstPlaces.length && !style.truncates then
    if target.isEmpty then throw .noTarget
    if (second.getLast?).any SetPiece.isClass then throw .classAtEnd
  if style.complements && first.any SetPiece.isClass && (target.eraseDups).length ≠ 1 then
    throw .manyForComplement
  let source := if style.truncates then source.take target.length else source
  return ⟨[], source, target, squeeze⟩

/-- The exchange that sets ask for. -/
def Exchange.ofSets (style : ExchangeStyle) (first : List SetPiece)
    (second : Option (List SetPiece)) : Except ExchangeFault Exchange := do
  if first.any SetPiece.fills then throw .fillInFirst
  let source := piecesBytes 0 first
  let source := if style.complements then complementSet source else source
  match second with
  | none =>
    return if style.drops then ⟨source, [], [], []⟩ else ⟨[], [], [], source⟩
  | some second =>
    if style.drops then
      if second.any SetPiece.fills then throw .fillWithoutTarget
      return ⟨source, [], [], piecesBytes 0 second⟩
    else Exchange.between style first second

/-- What is wrong with the count of sets, if it is. -/
def setCountFault? (style : ExchangeStyle) (sets : List String) : Option String :=
  let least := if style.drops = style.squeezes then 2 else 1
  let most := if style.drops && !style.squeezes then 1 else 2
  match sets.getLast?, (sets[most]?) with
  | none, _ => some "missing operand"
  | some last, none =>
    if least ≤ sets.length then none
    else
      let reason := if style.drops then "both deleting and squeezing repeats" else "translating"
      some ("missing operand after " ++ curvedQuotes last ++
        "\nTwo strings must be given when " ++ reason ++ ".")
  | _, some extra =>
    some ("extra operand " ++ curvedQuotes extra ++
      if sets.length = 2 then
        "\nOnly one string may be given when deleting without squeezing repeats."
      else "")

/-- Reads the pieces of a set; gives also what is to be said of its escapes. -/
def readPieceSet (set : String) : Except SetFault (List SetPiece) × List String :=
  let (bytes, said) := setBytes (set.length + 1) set.toList
  (readSet (bytes.length + 1) bytes, said)

/-- Writes its input with bytes exchanged. -/
def exchangeBytes : Tool := fun arguments _ input =>
  match readOptionWords ExchangeStyle.rules false arguments with
  | .error fault => .misused "tr" fault.message input
  | .ok words =>
    let style := ExchangeStyle.ofOptions words
    match setCountFault? style words.operands with
    | some text => .misused "tr" text input
    | none =>
      let sets := words.operands.map readPieceSet
      let said := (sets.flatMap Prod.snd).map fun text =>
        ToolWrite.complaint ("tr: " ++ text ++ "\n")
      let result : Except ExchangeFault Exchange := do
        let pieces ← (sets.mapM Prod.fst).mapError .set
        Exchange.ofSets style (pieces.head?.getD []) (pieces[1]?)
      match result with
      | .error fault => ⟨said ++ [.complaint ("tr: " ++ fault.message ++ "\n")], 1, input⟩
      | .ok exchange => ⟨said ++ [.output (exchange.apply input)], 0, .empty⟩

end ShaderSyntax.Host
