import FileDepot.Bytes.Basic

/-!
# Bits

Compressed data is read bit by bit. Some formats take the lowest bit of each byte first, and some the
highest.
-/

namespace FileDepot.Compression

/-- What compressed data holds. -/
structure Unpacked where
  /-- the contents, up to where the data ends -/
  contents : Bytes
  /-- what follows the compressed data, unless it ends too early -/
  rest : Option Bytes
  deriving DecidableEq, Repr

/-- The bits of some bytes, lowest bit of each byte first. -/
def bitsUpward (data : Bytes) : List Bool :=
  data.flatMap fun b => (List.range 8).map fun i => b.toNat.testBit i

/-- The bits of some bytes, highest bit of each byte first. -/
def bitsDownward (data : Bytes) : List Bool :=
  data.flatMap fun b => (List.range 8).map fun i => b.toNat.testBit (7 - i)

/-- The number that bits spell, lowest bit first. -/
def bitsToNat : List Bool → Nat
  | [] => 0
  | b :: rest => b.toNat + 2 * bitsToNat rest

/-- Take `n` bits as a number, lowest bit first, if there are as many. -/
def takeUpward? (n : Nat) (s : List Bool) : Option (Nat × List Bool) :=
  let head := s.take n
  if head.length < n then none else some (bitsToNat head, s.drop n)

/-- Take `n` bits as a number, highest bit first, if there are as many. -/
def takeDownward? (n : Nat) (s : List Bool) : Option (Nat × List Bool) :=
  let head := s.take n
  if head.length < n then none else some (bitsToNat head.reverse, s.drop n)

/-- The whole bytes at the front of some bits, lowest bit first: at most `n` of them, and the bits after
them. -/
def takeBytes : Nat → List Bool → Bytes × List Bool
  | 0, s => ([], s)
  | n + 1, s =>
    match takeUpward? 8 s with
    | some (b, rest) => let (bs, rest) := takeBytes n rest; (UInt8.ofNat b :: bs, rest)
    | none => ([], s)

end FileDepot.Compression
