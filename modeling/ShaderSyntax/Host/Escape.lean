import ShaderSyntax.Host.ByteStream

/-!
# Escapes

A backslash and what follows it: a letter for a control character, or up to three digits to base
eight for any byte. The main statement says that reading an escape leaves no more text than there
was (`length_readEscape_le`).
-/

set_option autoImplicit false

namespace ShaderSyntax.Host

open Command

/-- The byte of a one-letter escape. -/
def letterEscape? (c : Char) : Option UInt8 :=
  if c = 'a' then some 7
  else if c = 'b' then some 8
  else if c = 'f' then some 12
  else if c = 'n' then some 10
  else if c = 'r' then some 13
  else if c = 't' then some 9
  else if c = 'v' then some 11
  else if c = '\\' then some 92
  else none

/-- A digit to base eight. -/
def isOctal (c : Char) : Bool := '0' ≤ c && c ≤ '7'

/-- The byte that digits to base eight spell. -/
def octalByte (digits : List Char) : UInt8 :=
  Nat.toUInt8 (digits.foldl (fun n c => 8 * n + (c.toNat - 48)) 0)

/-- Reads an escape behind its backslash: the bytes it stands for and the characters behind it. An
unknown escape stands for itself. With `skipZero`, a zero in front of digits to base eight is none
of them. -/
def readEscape (skipZero : Bool) : List Char → Bytes × List Char
  | [] => ([92], [])
  | c :: rest =>
    match letterEscape? c with
    | some byte => ([byte], rest)
    | none =>
      if isOctal c then
        let text := if skipZero && c = '0' && rest.head?.any isOctal then rest else c :: rest
        let digits := (text.take 3).takeWhile isOctal
        ([octalByte digits], text.drop digits.length)
      else if c = 'e' then ([27], rest)
      else (92 :: bytesOf (String.singleton c), rest)

/-- Reading an escape adds no characters to what is left to read. -/
theorem length_readEscape_le (skipZero : Bool) (text : List Char) :
    (readEscape skipZero text).2.length ≤ text.length := by
  cases text with
  | nil => simp [readEscape]
  | cons c rest =>
    rw [readEscape]
    split
    · simp
    · split
      · simp only [List.length_drop]
        split <;> simp only [List.length_cons] <;> omega
      · split <;> simp

/-- The bytes of a text with escapes, and whether an escape asked to stop there. -/
def unescape (text : List Char) : Bytes × Bool :=
  match text with
  | [] => ([], false)
  | '\\' :: 'c' :: _ => ([], true)
  | '\\' :: rest =>
    let read := readEscape true rest
    let more := unescape read.2
    (read.1 ++ more.1, more.2)
  | c :: rest =>
    let more := unescape rest
    (bytesOf (String.singleton c) ++ more.1, more.2)
termination_by text.length
decreasing_by
  · exact Nat.lt_succ_of_le (length_readEscape_le true rest)
  · exact Nat.lt_succ_self _

end ShaderSyntax.Host
