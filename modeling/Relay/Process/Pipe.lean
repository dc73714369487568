import Relay.Text.LineCodec

/-!
# Pipes

A pipe keeps bytes in the order in which they were written until they are read.  It holds so many
bytes at once and takes no more as long as it is full; a pipe without a limit takes everything.
-/

namespace Relay

structure Pipe where
  /-- The bytes that are read first. -/
  front : Bytes := []
  /-- The bytes behind them in parts, latest part first. -/
  back : List Bytes := []
  /-- How many bytes there are. -/
  size : Nat := 0
  /-- How many bytes there can be at once. -/
  limit : Option Nat := some 65536
  deriving Repr

namespace Pipe

/-- A pipe that holds some bytes and takes any number of further ones. -/
def holding (b : Bytes) : Pipe := { front := b, size := b.length, limit := none }

/-- How many of so many bytes a pipe takes now. -/
def room (p : Pipe) (wanted : Nat) : Nat :=
  match p.limit with
  | none => wanted
  | some limit => min wanted (limit - p.size)

def bytes (p : Pipe) : Bytes :=
  match p.back with
  | [] => p.front
  | parts => p.front ++ parts.reverse.flatten

def push (p : Pipe) (b : Bytes) : Pipe :=
  { p with back := b :: p.back, size := p.size + b.length }

/-- A pipe without its first bytes. -/
def drop (p : Pipe) (n : Nat) : Pipe :=
  { p with front := p.bytes.drop n, back := [], size := p.size - n }

def giveBack (p : Pipe) (b : Bytes) : Pipe :=
  { p with front := b ++ p.front, size := p.size + b.length }

end Pipe

end Relay
