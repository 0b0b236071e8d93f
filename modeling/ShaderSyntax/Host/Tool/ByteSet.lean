import ShaderSyntax.Host.Escape

/-!
# Sets of bytes

How an exchange of bytes names them: in a row, with escapes, ranges, classes, and bytes that are
repeated. What a set is written as is read into pieces, of which the bytes are then taken in order.
-/

set_option autoImplicit false

namespace ShaderSyntax.Host

open Command

/-- The bytes from one to another. -/
def byteRange (first last : Nat) : Bytes :=
  (List.range (last + 1 - first)).map fun n => (first + n).toUInt8

/-- The bytes of a class by its name. -/
def byteClass? (name : String) : Option Bytes :=
  let digits := byteRange 48 57
  let uppers := byteRange 65 90
  let lowers := byteRange 97 122
  match name with
  | "digit" => some digits
  | "upper" => some uppers
  | "lower" => some lowers
  | "alpha" => some (uppers ++ lowers)
  | "alnum" => some (digits ++ uppers ++ lowers)
  | "blank" => some [9, 32]
  | "space" => some (byteRange 9 13 ++ [32])
  | "cntrl" => some (byteRange 0 31 ++ [127])
  | "print" => some (byteRange 32 126)
  | "graph" => some (byteRange 33 126)
  | "punct" => some (byteRange 33 47 ++ byteRange 58 64 ++ byteRange 91 96 ++ byteRange 123 126)
  | "xdigit" => some (digits ++ byteRange 65 70 ++ byteRange 97 102)
  | _ => none

/-- A piece of a set. -/
inductive SetPiece where
  | byte (value : UInt8)
  | range (first last : UInt8)
  | class_ (name : String) (members : Bytes)
  /-- All bytes that count as the same as one; that is the byte alone. -/
  | same (value : UInt8)
  /-- A byte that is repeated; without a count, as often as is asked for. -/
  | repeated (value : UInt8) (count : Option Nat)
  deriving DecidableEq, Repr

/-- Why a set cannot be read. -/
inductive SetFault where
  | reversed (first last : UInt8)
  | unknownClass (name : String)
  | noClass
  | noSame
  | longSame (text : String)
  | badCount (text : String)
  deriving DecidableEq, Repr

/-- A byte as messages show it. -/
def shownByte (byte : UInt8) : String :=
  if byte = 92 then "\\\\"
  else if 32 ≤ byte && byte < 127 then textOf [byte]
  else
    let digits := Nat.toDigits 8 byte.toNat
    "\\" ++ String.ofList (List.replicate (3 - digits.length) '0' ++ digits)

/-- The message of a fault. -/
def SetFault.message : SetFault → String
  | .reversed first last =>
    "range-endpoints of '" ++ shownByte first ++ "-" ++ shownByte last ++
      "' are in reverse collating sequence order"
  | .unknownClass name => "invalid character class ‘" ++ name ++ "’"
  | .noClass => "missing character class name '[::]'"
  | .noSame => "missing equivalence class character '[==]'"
  | .longSame text => text ++ ": equivalence class operand must be a single character"
  | .badCount text => "invalid repeat count ‘" ++ text ++ "’ in [c*n] construct"

/-- A byte of a set as it is written, and whether a backslash stands in front of it. One behind a
backslash is no part of a range or a class. -/
abbrev SetByte := UInt8 × Bool

/-- What is said of a set that ends in a backslash. -/
def endingBackslash : String := "warning: an unescaped backslash at end of string is not portable"

/-- What is said of three digits that are too many for a byte. -/
def longEscape (digits : List Char) : String :=
  let digits := String.ofList digits
  "warning: the ambiguous octal escape \\" ++ digits ++
    " is being\n\tinterpreted as the 2-byte sequence \\0" ++ (digits.take 2).toString ++ ", " ++
    (digits.drop 2).toString

/-- Resolves the escapes of a set; gives also what is to be said of them. `steps` bounds the
characters read. -/
def setBytes : Nat → List Char → List SetByte × List String
  | 0, _ => ([], [])
  | _ + 1, [] => ([], [])
  | _ + 1, ['\\'] => ([(92, false)], [endingBackslash])
  | steps + 1, '\\' :: c :: rest =>
    let digits := ((c :: rest).take 3).takeWhile isOctal
    if digits.isEmpty then
      let bytes := ((letterEscape? c).map ([·])).getD (bytesOf (String.singleton c))
      let (more, said) := setBytes steps rest
      (bytes.map (·, true) ++ more, said)
    else
      let isLong := digits.length = 3 && '3' < c
      let used := if isLong then digits.take 2 else digits
      let (more, said) := setBytes steps ((c :: rest).drop used.length)
      ((octalByte used, true) :: more, if isLong then longEscape digits :: said else said)
  | steps + 1, c :: rest =>
    let (more, said) := setBytes steps rest
    ((bytesOf (String.singleton c)).map (·, false) ++ more, said)

/-- The bytes up to a mark with a closing bracket behind it, and what stands behind both. -/
def upToClosing (mark : UInt8) : List SetByte → Option (List SetByte × List SetByte)
  | [] => none
  | byte :: rest =>
    if byte = (mark, false) && rest.head? = some (93, false) then some ([], rest.drop 1)
    else (upToClosing mark rest).map fun found => (byte :: found.1, found.2)

/-- The text of bytes of a set. -/
def setText (bytes : List SetByte) : String := textOf (bytes.map Prod.fst)

/-- Whether bytes are a star with digits and a closing bracket. -/
def isRepetition (bytes : List SetByte) : Bool :=
  bytes.head? = some (42, false) &&
    ((bytes.drop 1).dropWhile fun byte => 48 ≤ byte.1 && byte.1 ≤ 57).head? = some (93, false)

/-- The piece between brackets that bytes behind an opening one are, and what stands behind it. -/
def bracketPiece? (bytes : List SetByte) :
    Except SetFault (Option (SetPiece × List SetByte)) :=
  let repetition : Except SetFault (Option (SetPiece × List SetByte)) :=
    match bytes with
    | byte :: (42, false) :: rest =>
      let digits := rest.takeWhile fun byte => !byte.2 && byte.1 ≠ 93
      match rest.drop digits.length with
      | (93, false) :: behind =>
        let text := (setText digits).toList
        let base := if text.head? = some '0' then 8 else 10
        let isCount := text.all fun c => c.isDigit && (base = 10 || isOctal c)
        let count := text.foldl (fun n c => base * n + (c.toNat - 48)) 0
        if !isCount then .error (.badCount (setText digits))
        else .ok (some (.repeated byte.1 (if count = 0 then none else some count), behind))
      | _ => .ok none
    | _ => .ok none
  match bytes with
  | (58, false) :: rest =>
    match upToClosing 58 rest with
    | none => repetition
    | some (name, behind) =>
      if name.isEmpty then .error .noClass
      else match byteClass? (setText name) with
        | some members => .ok (some (.class_ (setText name) members, behind))
        | none =>
          if isRepetition rest then repetition else .error (.unknownClass (setText name))
  | (61, false) :: rest =>
    match upToClosing 61 rest with
    | none => repetition
    | some (operand, behind) =>
      match operand with
      | [] => .error .noSame
      | [byte] => .ok (some (.same byte.1, behind))
      | _ => if isRepetition rest then repetition else .error (.longSame (setText operand))
  | _ => repetition

/-- Reads the pieces of a set. The last two bytes stand for themselves. `steps` bounds the bytes
read. -/
def readSet : Nat → List SetByte → Except SetFault (List SetPiece)
  | 0, _ => .ok []
  | steps + 1, first :: second :: third :: rest => do
    let bracket ← if first = (91, false) then bracketPiece? (second :: third :: rest) else .ok none
    match bracket with
    | some (piece, behind) => return piece :: (← readSet steps behind)
    | none =>
      if second = (45, false) then
        if third.1 < first.1 then throw (.reversed first.1 third.1)
        return .range first.1 third.1 :: (← readSet steps rest)
      else return .byte first.1 :: (← readSet steps (second :: third :: rest))
  | _ + 1, bytes => .ok (bytes.map fun byte => .byte byte.1)

/-- The bytes of a piece; one that is repeated without a count fills `missing` places. -/
def SetPiece.bytes (missing : Nat) : SetPiece → Bytes
  | .byte b => [b]
  | .range first last => byteRange first.toNat last.toNat
  | .class_ _ members => members
  | .same b => [b]
  | .repeated b count => List.replicate (count.getD missing) b

/-- The bytes that are in no set given. -/
def complementSet (set : Bytes) : Bytes :=
  (byteRange 0 255).filter fun byte => !set.contains byte

end ShaderSyntax.Host
