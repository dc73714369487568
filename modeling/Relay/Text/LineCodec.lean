import Relay.Text.Utf8

/-!
# Lines as bytes

A program receives lines, each followed by a line feed, and what it prints is read as lines again.
Reading cuts the bytes at the line feeds, drops one carriage return at the end of each piece and
decodes the rest lossily; a last piece without a line feed counts if it is not empty.
-/

namespace Relay

namespace Text

/-- The byte that ends a line. -/
def lineFeed : UInt8 := 10

/-- The byte that may stand before the end of a line. -/
def carriageReturn : UInt8 := 13

/-- Lines as bytes, each followed by a line feed. -/
def encodeLines (ls : List Text) : Bytes := ls.flatMap fun l => utf8 l ++ [lineFeed]

/-- The pieces of some bytes that a line feed ends, without it, and what follows the last one. -/
def cutLines (b : Bytes) : List Bytes × Bytes :=
  let ps := pieces (· == lineFeed) b
  (ps.dropLast, ps.getLastD [])

/-- Drops one carriage return at the end. -/
def stripReturn (raw : Bytes) : Bytes :=
  if raw.getLast? = some carriageReturn then raw.dropLast else raw

/-- One line from its bytes, which hold no line feed. -/
def decodeLine (raw : Bytes) : Text := ofUtf8Lossy (stripReturn raw)

/-- The line of an unfinished piece: none if the piece is empty. -/
def decodeRest (raw : Bytes) : List Text := if raw.isEmpty then [] else [decodeLine raw]

/-- The lines of all bytes that a program printed. -/
def decodeLines (b : Bytes) : List Text :=
  let (finished, rest) := cutLines b
  finished.map decodeLine ++ decodeRest rest

end Text

end Relay
