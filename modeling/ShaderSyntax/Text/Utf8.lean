/-!
# Bytes and text

Reading bytes as UTF-8. `decode?` accepts well-formed UTF-8 only; `decodeLossy` reads any bytes and
puts one replacement character for every maximal ill-formed piece, which is how diagnostics show
the output of a foreign program.
-/

set_option autoImplicit false

namespace ShaderSyntax.Utf8

/-- The text of well-formed bytes. -/
def decode? (bytes : ByteArray) : Option String :=
  String.fromUTF8? bytes

/-- The bytes of a text. -/
def encode (text : String) : ByteArray :=
  text.toUTF8

/-- How many bytes a character with first byte `lead` has, and the range of its second byte;
`none` for a byte that starts no character. -/
def shape? (lead : UInt8) : Option (Nat × UInt8 × UInt8) :=
  if lead ≤ 0x7F then some (1, 0x80, 0xBF)
  else if 0xC2 ≤ lead && lead ≤ 0xDF then some (2, 0x80, 0xBF)
  else if lead == 0xE0 then some (3, 0xA0, 0xBF)
  else if lead == 0xED then some (3, 0x80, 0x9F)
  else if 0xE1 ≤ lead && lead ≤ 0xEF then some (3, 0x80, 0xBF)
  else if lead == 0xF0 then some (4, 0x90, 0xBF)
  else if 0xF1 ≤ lead && lead ≤ 0xF3 then some (4, 0x80, 0xBF)
  else if lead == 0xF4 then some (4, 0x80, 0x8F)
  else none

/-- The bits of the first byte of a character of the given length that belong to its code point. -/
def leadBits (lead : UInt8) : Nat → Nat
  | 1 => lead.toNat
  | 2 => lead.toNat % 32
  | 3 => lead.toNat % 16
  | _ => lead.toNat % 8

/-- Reads the bytes of one character after its first: the code point if all of them fit, and the
bytes that follow the last one that fits. -/
def continuation (code : Nat) : Nat → UInt8 → UInt8 → List UInt8 → Option Nat × List UInt8
  | 0, _, _, rest => (some code, rest)
  | _ + 1, _, _, [] => (none, [])
  | more + 1, low, high, b :: rest =>
    if low ≤ b && b ≤ high then
      continuation (code * 64 + b.toNat % 64) more 0x80 0xBF rest
    else (none, b :: rest)

/-- Reading the rest of a character leaves no more bytes than there were. -/
theorem length_continuation_le (code more : Nat) (low high : UInt8) (bytes : List UInt8) :
    (continuation code more low high bytes).2.length ≤ bytes.length := by
  induction bytes generalizing code more low high with
  | nil => cases more <;> simp [continuation]
  | cons b rest ih =>
    cases more with
    | zero => simp [continuation]
    | succ more =>
      rw [continuation]
      split
      · exact Nat.le_succ_of_le (ih _ _ _ _)
      · exact Nat.le_refl _

/-- The character that stands for an ill-formed piece. -/
def replacement : Char := '\ufffd'

/-- Reads any bytes: a character, or nothing for each maximal piece that starts like a character but
does not end as one, and for each byte that starts none. -/
def decodeParts : List UInt8 → List (Option Char)
  | [] => []
  | lead :: rest =>
    match shape? lead with
    | none => none :: decodeParts rest
    | some (size, low, high) =>
      let tail := continuation (leadBits lead size) (size - 1) low high rest
      tail.1.map Char.ofNat :: decodeParts tail.2
termination_by bytes => bytes.length
decreasing_by
  · exact Nat.lt_succ_self _
  · exact Nat.lt_succ_of_le (length_continuation_le ..)

/-- The first ill-formed piece of bytes: the bytes before it, and its length unless it is the end of
the bytes that cuts it short. `index` counts the bytes before. -/
def firstFault? (index : Nat) : List UInt8 → Option (Nat × Option Nat)
  | [] => none
  | lead :: rest =>
    match shape? lead with
    | none => some (index, some 1)
    | some (size, low, high) =>
      let tail := continuation (leadBits lead size) (size - 1) low high rest
      let used := rest.length + 1 - tail.2.length
      if tail.1.isSome then firstFault? (index + used) tail.2
      else some (index, if tail.2.isEmpty then none else some used)
termination_by bytes => bytes.length
decreasing_by exact Nat.lt_succ_of_le (length_continuation_le ..)

/-- The message about the first ill-formed piece of bytes. -/
def faultMessage (bytes : List UInt8) : String :=
  match firstFault? 0 bytes with
  | none => ""
  | some (index, none) => s!"incomplete utf-8 byte sequence from index {index}"
  | some (index, some length) =>
    s!"invalid utf-8 sequence of {length} bytes from index {index}"

/-- The text of any bytes, ill-formed pieces replaced. -/
def decodeLossy (bytes : ByteArray) : String :=
  (decode? bytes).getD
    (String.ofList ((decodeParts bytes.toList).map fun part => part.getD replacement))

end ShaderSyntax.Utf8
