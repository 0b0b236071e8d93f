import ShaderSyntax.Command.Program
import ShaderSyntax.Text.Utf8

/-!
# Byte streams

What a program reads: finitely many bytes, and behind them, in a stream without end, one stretch of
bytes over and over. Cutting a stream is what makes it finite.
-/

set_option autoImplicit false

namespace ShaderSyntax.Host

open Command

/-- The bytes of a text. -/
def bytesOf (text : String) : Bytes :=
  (Utf8.encode text).toList

/-- The text of bytes, ill-formed pieces replaced. -/
def textOf (bytes : Bytes) : String :=
  Utf8.decodeLossy ⟨bytes.toArray⟩

/-- The byte that ends a line. -/
def lineFeed : UInt8 := 10

/-- A finite stretch of bytes and, unless it is empty, a stretch that repeats behind it forever. -/
structure ByteStream where
  bytes : Bytes
  cycle : Bytes
  deriving DecidableEq, Repr

namespace ByteStream

/-- The stream without bytes. -/
def empty : ByteStream := ⟨[], []⟩

/-- The stream of finitely many bytes. -/
def ofBytes (bytes : Bytes) : ByteStream := ⟨bytes, []⟩

/-- The stream of a text. -/
def ofText (text : String) : ByteStream := .ofBytes (bytesOf text)

/-- The stream with its cycle unrolled until it has at least `count` bytes in front, if it can. -/
def unroll (stream : ByteStream) (count : Nat) : Bytes :=
  if stream.cycle.isEmpty then stream.bytes
  else
    let rounds := (count - stream.bytes.length) / stream.cycle.length + 1
    stream.bytes ++ (List.replicate rounds stream.cycle).flatten

/-- The first bytes of a stream, fewer if it ends before. -/
def take (stream : ByteStream) (count : Nat) : Bytes :=
  (stream.unroll count).take count

/-- The stream behind its first bytes. -/
def drop (stream : ByteStream) (count : Nat) : ByteStream :=
  ⟨(stream.unroll count).drop count, stream.cycle⟩

/-- One stream behind another; nothing comes behind a stream without end. -/
def append (first second : ByteStream) : ByteStream :=
  if first.cycle.isEmpty then ⟨first.bytes ++ second.bytes, second.cycle⟩ else first

/-- The stream with every byte changed, or dropped. -/
def mapBytes (change : UInt8 → Bytes) (stream : ByteStream) : ByteStream :=
  ⟨stream.bytes.flatMap change, stream.cycle.flatMap change⟩

end ByteStream

end ShaderSyntax.Host
