/-!
# Prefix codes

A symbol is written as a word of bits, and no word begins another one. Codes are canonical, so the
lengths of their words tell them: shorter words come first, and among words of one length the order is
that of their symbols.
-/

namespace FileDepot.Compression

/-- A canonical prefix code. -/
structure PrefixCode where
  /-- the number of words of each length, from one bit on -/
  counts : List Nat
  /-- the symbols in the order of their words -/
  symbols : List Nat
  deriving DecidableEq, Repr

namespace PrefixCode

/-- The code whose words have the given lengths, where length zero means no word; `longest` is the
greatest length that is looked at. -/
def ofLengths (longest : Nat) (lengths : List Nat) : PrefixCode :=
  let sizes := (List.range longest).map (· + 1)
  let numbered := lengths.zipIdx
  ⟨sizes.map fun n => lengths.count n,
    sizes.flatMap fun n => (numbered.filter fun p => p.1 = n).map (·.2)⟩

/-- The length of the longest word, but one at least. -/
def longest (lengths : List Nat) : Nat := max 1 (lengths.foldl max 0)

/-- The room that is left in the space of words of one more bit than the last length, or `none` if
there are too many words. -/
def room (free : Nat) : List Nat → Option Nat
  | [] => some free
  | n :: rest => if 2 * free < n then none else room (2 * free - n) rest

/-- Whether the words fill their space. Where `partly` is set, one word of one bit, or no word at
all, will do as well. -/
def isWhole (c : PrefixCode) (partly : Bool) : Bool :=
  match room 1 c.counts with
  | none => false
  | some 0 => true
  | some _ => partly && c.counts.length = 1

/-- What stands at the front of some bits. -/
inductive Found where
  /-- the word of a symbol -/
  | symbol (s : Nat) (rest : List Bool)
  /-- no word of the code -/
  | nothing
  /-- too few bits to tell -/
  | short
  deriving DecidableEq, Repr

/-- Read a word. `word` is the number of the bits read so far, `first` the number of the first word of
the next length less its last bit, and `symbols` the symbols from that word on. -/
def readFrom (word first : Nat) (symbols : List Nat) : List Nat → List Bool → Found
  | [], _ => .nothing
  | _ :: _, [] => .short
  | n :: counts, b :: rest =>
    let word := 2 * word + b.toNat
    if word < first + n then
      match (symbols.drop (word - first)).head? with
      | some s => .symbol s rest
      | none => .nothing
    else readFrom word (2 * (first + n)) (symbols.drop n) counts rest

/-- Read a word. -/
def read (c : PrefixCode) (s : List Bool) : Found :=
  readFrom 0 0 c.symbols c.counts s

end PrefixCode

end FileDepot.Compression
