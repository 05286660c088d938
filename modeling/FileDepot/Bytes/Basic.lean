/-!
# Bytes

File contents are lists of bytes. Numbers in them are stored with their lowest byte first.
-/

namespace FileDepot

/-- The contents of a file, or of a part of one. -/
abbrev Bytes := List UInt8

namespace Bytes

/-- The number that bytes spell, lowest byte first. -/
def toNat : Bytes → Nat
  | [] => 0
  | b :: rest => b.toNat + 256 * toNat rest

/-- The number in the `size` bytes at place `start`. -/
def natAt (data : Bytes) (start size : Nat) : Nat :=
  toNat ((data.drop start).take size)

/-- The bytes from place `start` on, at most `size` of them. -/
def slice (data : Bytes) (start size : Nat) : Bytes :=
  (data.drop start).take size

/-- The first place at which `word` occurs in `data`, counted from `start`. -/
def findFrom (word : Bytes) (start : Nat) : Bytes → Option Nat
  | [] => if word.isEmpty then some start else none
  | b :: rest => if word.isPrefixOf (b :: rest) then some start else findFrom word (start + 1) rest

/-- The last place at which `word` occurs in `data`. -/
def findLast? (word data : Bytes) : Option Nat :=
  (findFrom word.reverse 0 data.reverse).map fun i => data.length - word.length - i

end FileDepot.Bytes
