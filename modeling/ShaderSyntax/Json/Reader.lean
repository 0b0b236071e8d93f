import ShaderSyntax.Json.Basic

/-!
# Reading JSON

A document is read from its standard text: only space, tab, line feed and carriage return are
blank, nothing but blanks follows the document, strings hold no control character, and numbers have
no leading zero. Each reader takes the characters ahead and gives what it read with the characters
behind it, or nothing when the text is no document.
-/

set_option autoImplicit false

namespace ShaderSyntax.Json

/-- A character that may stand between the parts of a document. -/
def isSpace (c : Char) : Bool :=
  c = ' ' || c = '\t' || c = '\n' || c = '\r'

/-- The characters ahead without leading blanks. -/
def skipSpace (text : List Char) : List Char :=
  text.dropWhile isSpace

/-- The value of a hexadecimal digit. -/
def hexValue? (c : Char) : Option Nat :=
  if '0' ≤ c && c ≤ '9' then some (c.toNat - 48)
  else if 'a' ≤ c && c ≤ 'f' then some (c.toNat - 87)
  else if 'A' ≤ c && c ≤ 'F' then some (c.toNat - 55)
  else none

/-- The value of four hexadecimal digits. -/
def unit? (a b c d : Char) : Option Nat := do
  let a ← hexValue? a
  let b ← hexValue? b
  let c ← hexValue? c
  let d ← hexValue? d
  return ((a * 16 + b) * 16 + c) * 16 + d

/-- The character of an escape that is one letter long. -/
def shortEscape? (c : Char) : Option Char :=
  if c = '"' || c = '\\' || c = '/' then some c
  else if c = 'n' then some '\n'
  else if c = 'r' then some '\r'
  else if c = 't' then some '\t'
  else if c = 'b' then some '\x08'
  else if c = 'f' then some '\x0c'
  else none

/-- The second half of a surrogate pair that starts with the escape behind us. -/
def lowHalf? : List Char → Option (Nat × List Char)
  | '\\' :: 'u' :: a :: b :: c :: d :: rest => do
    let unit ← unit? a b c d
    if 0xDC00 ≤ unit && unit < 0xE000 then some (unit, rest) else none
  | _ => none

/-- Puts a character in front of the content of a string that has been read. -/
def push (c : Char) (read : Option (List Char) × List Char) : Option (List Char) × List Char :=
  (read.1.map (c :: ·), read.2)

/-- Reads the rest of a string behind its opening quote. `steps` bounds the characters read. -/
def readText (steps : Nat) (text : List Char) : Option (Option (List Char) × List Char) :=
  match steps, text with
  | 0, _ => none
  | _, [] => none
  | _ + 1, '"' :: rest => some (some [], rest)
  | steps + 1, '\\' :: rest =>
    match rest with
    | 'u' :: a :: b :: c :: d :: tail =>
      match unit? a b c d with
      | none => none
      | some unit =>
        if 0xD800 ≤ unit && unit < 0xDC00 then
          match lowHalf? tail with
          | some (low, tail) =>
            (readText steps tail).map
              (push (Char.ofNat (0x10000 + (unit - 0xD800) * 1024 + (low - 0xDC00))))
          | none => (readText steps tail).map fun read => (none, read.2)
        else if 0xDC00 ≤ unit && unit < 0xE000 then
          (readText steps tail).map fun read => (none, read.2)
        else (readText steps tail).map (push (Char.ofNat unit))
    | c :: tail =>
      match shortEscape? c with
      | none => none
      | some c => (readText steps tail).map (push c)
    | [] => none
  | steps + 1, c :: rest =>
    if c < ' ' then none else (readText steps rest).map (push c)

/-- Reads a string behind its opening quote. -/
def readContent (text : List Char) : Option (Option String × List Char) :=
  (readText (text.length + 1) text).map fun read => (read.1.map String.ofList, read.2)

/-- A decimal digit. -/
def isDigit (c : Char) : Bool := '0' ≤ c && c ≤ '9'

/-- Splits digits off the front. -/
def readDigits (text : List Char) : List Char × List Char :=
  (text.takeWhile isDigit, text.dropWhile isDigit)

/-- Splits a fraction off the front: nothing, or a point and at least one digit. -/
def readFraction : List Char → Option (List Char × List Char)
  | '.' :: rest =>
    let (digits, rest) := readDigits rest
    if digits.isEmpty then none else some ('.' :: digits, rest)
  | text => some ([], text)

/-- Splits an exponent off the front: nothing, or the letter, an optional sign and at least one
digit. -/
def readExponent : List Char → Option (List Char × List Char)
  | [] => some ([], [])
  | e :: rest =>
    if e = 'e' || e = 'E' then
      let sign := (rest.take 1).filter fun c => c = '+' || c = '-'
      let (digits, rest) := readDigits (rest.drop sign.length)
      if digits.isEmpty then none else some (e :: sign ++ digits, rest)
    else some ([], e :: rest)

/-- Splits the digits before the point off the front: a single zero, or digits that start with
another one. -/
def readWhole : List Char → Option (List Char × List Char)
  | '0' :: rest => some (['0'], rest)
  | text =>
    let (digits, rest) := readDigits text
    if digits.isEmpty then none else some (digits, rest)

/-- Splits a number without its sign off the front. -/
def readUnsigned (text : List Char) : Option (List Char × List Char) := do
  let (digits, rest) ← readWhole text
  let (fraction, rest) ← readFraction rest
  let (exponent, rest) ← readExponent rest
  return (digits ++ fraction ++ exponent, rest)

/-- Splits a number off the front, as it is spelled. -/
def readNumber : List Char → Option (List Char × List Char)
  | '-' :: rest => (readUnsigned rest).map fun read => ('-' :: read.1, read.2)
  | text => readUnsigned text

/-- The characters behind a word that has to come next. -/
def expect? (word : List Char) (text : List Char) : Option (List Char) :=
  if word.isPrefixOf text then some (text.drop word.length) else none

mutual

/-- Reads a document; `depth` bounds the number of nested calls. -/
def readValue (depth : Nat) (text : List Char) : Option (Json × List Char) :=
  match depth with
  | 0 => none
  | depth + 1 =>
    match skipSpace text with
    | [] => none
    | '"' :: rest => (readContent rest).map fun read => (.string read.1, read.2)
    | '[' :: rest =>
      match skipSpace rest with
      | ']' :: rest => some (.array [], rest)
      | rest => (readItems depth rest).map fun read => (.array read.1, read.2)
    | '\x7b' :: rest =>
      match skipSpace rest with
      | '\x7d' :: rest => some (.object [], rest)
      | rest => (readFields depth rest).map fun read => (.object read.1, read.2)
    | 'n' :: rest => (expect? ['u', 'l', 'l'] rest).map (.null, ·)
    | 't' :: rest => (expect? ['r', 'u', 'e'] rest).map (.bool true, ·)
    | 'f' :: rest => (expect? ['a', 'l', 's', 'e'] rest).map (.bool false, ·)
    | rest => (readNumber rest).map fun read => (.number (String.ofList read.1), read.2)

/-- Reads the items of an array, at least one, and the closing bracket. -/
def readItems (depth : Nat) (text : List Char) : Option (List Json × List Char) :=
  match depth with
  | 0 => none
  | depth + 1 =>
    match readValue depth text with
    | none => none
    | some (item, rest) =>
      match skipSpace rest with
      | ']' :: rest => some ([item], rest)
      | ',' :: rest => (readItems depth rest).map fun read => (item :: read.1, read.2)
      | _ => none

/-- Reads the fields of an object, at least one, and the closing brace. -/
def readFields (depth : Nat) (text : List Char) :
    Option (List (Option String × Json) × List Char) :=
  match depth with
  | 0 => none
  | depth + 1 =>
    match skipSpace text with
    | '"' :: rest =>
      match readContent rest with
      | none => none
      | some (name, rest) =>
        match skipSpace rest with
        | ':' :: rest =>
          match readValue depth rest with
          | none => none
          | some (value, rest) =>
            match skipSpace rest with
            | '\x7d' :: rest => some ([(name, value)], rest)
            | ',' :: rest =>
              (readFields depth rest).map fun read => ((name, value) :: read.1, read.2)
            | _ => none
        | _ => none
    | _ => none

end

/-- The document that a whole text spells, if it spells one. -/
def read? (text : String) : Option Json :=
  let chars := text.toList
  match readValue (2 * chars.length + 2) chars with
  | some (value, rest) => if (skipSpace rest).isEmpty then some value else none
  | none => none

/-- A number spelled as a natural number below 2^64, without sign, point or exponent. -/
def nat? : Json → Option Nat
  | .number spelling =>
    let digits := spelling.toList
    if digits.all isDigit && !digits.isEmpty then
      let n := digits.foldl (fun n c => 10 * n + (c.toNat - 48)) 0
      if n < Nat.pow 2 64 then some n else none
    else none
  | _ => none

end ShaderSyntax.Json
