import FileDepot.Compression.Bits
import FileDepot.Compression.PrefixCode

/-!
# Inflating compressed data

Compressed data is a row of blocks: plain copies, or symbols of a prefix code that stand for a byte
or for a piece of the last 32768 bytes. A code is told by the lengths of its words. Data may end
inside a block; what it told up to there then counts.
-/

namespace FileDepot.Compression.Inflate

/-- Why data is not compressed data. -/
inductive Fault where
  /-- a block of an unknown kind -/
  | blockKind
  /-- the two lengths of a plain block disagree -/
  | plainLengths
  /-- more words than there are symbols -/
  | tooManySymbols
  /-- the lengths of the words for lengths make no code -/
  | lengthCode
  /-- a repetition without anything before it, or beyond the end -/
  | repetition
  /-- no word for the end of a block -/
  | noEnd
  /-- the lengths of the words for bytes and lengths make no code -/
  | literalCode
  /-- the lengths of the words for distances make no code -/
  | distanceCode
  /-- no byte or length has this word -/
  | literalWord
  /-- no distance has this word -/
  | distanceWord
  /-- a distance beyond the start of the data -/
  | tooFar
  deriving DecidableEq, Repr

/-- What is wrong with the data, in words. -/
def Fault.reason : Fault → String
  | .blockKind => "invalid block type"
  | .plainLengths => "invalid stored block lengths"
  | .tooManySymbols => "too many length or distance symbols"
  | .lengthCode => "invalid code lengths set"
  | .repetition => "invalid bit length repeat"
  | .noEnd => "invalid code -- missing end-of-block"
  | .literalCode => "invalid literal/lengths set"
  | .distanceCode => "invalid distances set"
  | .literalWord => "invalid literal/length code"
  | .distanceWord => "invalid distance code"
  | .tooFar => "invalid distance too far back"

/-! ## Codes -/

/-- The code of blocks that bring no code of their own, for bytes and lengths. -/
def fixedLiterals : PrefixCode :=
  .ofLengths 9 (List.replicate 144 8 ++ List.replicate 112 9 ++ List.replicate 24 7 ++
    List.replicate 8 8)

/-- The code of blocks that bring no code of their own, for distances. -/
def fixedDistances : PrefixCode := .ofLengths 5 (List.replicate 32 5)

/-- The code whose words have the given lengths. -/
def codeOf (lengths : List Nat) : PrefixCode := .ofLengths (PrefixCode.longest lengths) lengths

/-! ## Blocks -/

/-- How reading a part of the data ends. -/
inductive Outcome where
  /-- the part is read; the bytes so far and the bits after it -/
  | done (out : Array UInt8) (rest : List Bool)
  /-- the data ends inside the part -/
  | short (out : Array UInt8)
  /-- the part is faulty -/
  | bad (f : Fault)

/-- The shortest length, and the number of further bits, of each symbol from 257 on. -/
def lengthSymbols : List (Nat × Nat) :=
  [(3, 0), (4, 0), (5, 0), (6, 0), (7, 0), (8, 0), (9, 0), (10, 0), (11, 1), (13, 1), (15, 1),
    (17, 1), (19, 2), (23, 2), (27, 2), (31, 2), (35, 3), (43, 3), (51, 3), (59, 3), (67, 4),
    (83, 4), (99, 4), (115, 4), (131, 5), (163, 5), (195, 5), (227, 5), (258, 0)]

/-- The shortest distance, and the number of further bits, of each symbol. -/
def distanceSymbols : List (Nat × Nat) :=
  [(1, 0), (2, 0), (3, 0), (4, 0), (5, 1), (7, 1), (9, 2), (13, 2), (17, 3), (25, 3), (33, 4),
    (49, 4), (65, 5), (97, 5), (129, 6), (193, 6), (257, 7), (385, 7), (513, 8), (769, 8),
    (1025, 9), (1537, 9), (2049, 10), (3073, 10), (4097, 11), (6145, 11), (8193, 12), (12289, 12),
    (16385, 13), (24577, 13)]

/-- Append `n` bytes, each a copy of the one `distance` bytes before it. -/
def copyBack (distance : Nat) : Nat → Array UInt8 → Array UInt8
  | 0, out => out
  | n + 1, out => copyBack distance n (out.push (out[out.size - distance]?.getD 0))

/-- Read the symbols of a block. Each symbol takes a bit at least, so the number of bits is enough
`fuel`. -/
def readSymbols (literals distances : PrefixCode) : Nat → List Bool → Array UInt8 → Outcome
  | 0, _, out => .short out
  | fuel + 1, s, out =>
    match literals.read s with
    | .short => .short out
    | .nothing => .bad .literalWord
    | .symbol n rest =>
      if n < 256 then readSymbols literals distances fuel rest (out.push (UInt8.ofNat n))
      else if n = 256 then .done out rest
      else match lengthSymbols[n - 257]? with
        | none => .bad .literalWord
        | some (length, more) =>
          match takeUpward? more rest with
          | none => .short out
          | some (add, rest) =>
            match distances.read rest with
            | .short => .short out
            | .nothing => .bad .distanceWord
            | .symbol d rest =>
              match distanceSymbols[d]? with
              | none => .bad .distanceWord
              | some (distance, more) =>
                match takeUpward? more rest with
                | none => .short out
                | some (addDistance, rest) =>
                  if out.size < distance + addDistance then .bad .tooFar
                  else
                    readSymbols literals distances fuel rest
                      (copyBack (distance + addDistance) (length + add) out)

/-- Read a plain block. -/
def readPlain (s : List Bool) (out : Array UInt8) : Outcome :=
  match takeUpward? 32 (s.drop (s.length % 8)) with
  | none => .short out
  | some (n, rest) =>
    let size := n % 65536
    if n / 65536 ≠ 65535 - size then .bad .plainLengths
    else
      let (data, rest) := takeBytes size rest
      let out := out ++ data.toArray
      if data.length < size then .short out else .done out rest

/-- How reading the lengths of words ends. -/
inductive Lengths where
  /-- the lengths and the bits after them -/
  | done (lengths : List Nat) (rest : List Bool)
  /-- the data ends inside them -/
  | short
  /-- they are faulty -/
  | bad (f : Fault)

/-- Read lengths of words until there are `total`. `got` holds those read, latest first. -/
def readLengths (code : PrefixCode) (total : Nat) : Nat → List Nat → List Bool → Lengths
  | 0, _, _ => .short
  | fuel + 1, got, s =>
    if total ≤ got.length then .done got.reverse s
    else match code.read s with
      | .short => .short
      | .nothing => .bad .lengthCode
      | .symbol n rest =>
        if n < 16 then readLengths code total fuel (n :: got) rest
        else
          let (more, base) := if n = 16 then (2, 3) else if n = 17 then (3, 3) else (7, 11)
          match takeUpward? more rest with
          | none => .short
          | some (add, rest) =>
            if n = 16 && got.isEmpty then .bad .repetition
            else
              let again := base + add
              if total < got.length + again then .bad .repetition
              else
                let value := if n = 16 then got.headD 0 else 0
                readLengths code total fuel (List.replicate again value ++ got) rest

/-- The order in which the lengths of the words for lengths are listed. -/
def lengthOrder : List Nat := [16, 17, 18, 0, 8, 7, 9, 6, 10, 5, 11, 4, 12, 3, 13, 2, 14, 1, 15]

/-- Take `n` numbers of three bits. -/
def takeTriples? : Nat → List Bool → Option (List Nat × List Bool)
  | 0, s => some ([], s)
  | n + 1, s => do
    let (a, s) ← takeUpward? 3 s
    let (rest, s) ← takeTriples? n s
    some (a :: rest, s)

/-- The code for lengths, from its listed lengths. A code without words reads every bit as zero. -/
def lengthCode? (listed : List Nat) : Option PrefixCode :=
  let lengths := (List.range 19).map fun i => ((lengthOrder.zip listed).lookup i).getD 0
  if lengths.all (· = 0) then some ⟨[2], [0, 0]⟩
  else
    let code := codeOf lengths
    if code.isWhole false then some code else none

/-- Read a block that brings its own codes. -/
def readCoded (fuel : Nat) (s : List Bool) (out : Array UInt8) : Outcome :=
  match takeUpward? 14 s with
  | none => .short out
  | some (n, s) =>
    let literals := n % 32 + 257
    let distances := n / 32 % 32 + 1
    if 286 < literals || 30 < distances then .bad .tooManySymbols
    else match takeTriples? (n / 1024 + 4) s with
      | none => .short out
      | some (listed, s) =>
        match lengthCode? listed with
        | none => .bad .lengthCode
        | some code =>
          match readLengths code (literals + distances) fuel [] s with
          | .short => .short out
          | .bad f => .bad f
          | .done lengths s =>
            let literalCode := codeOf (lengths.take literals)
            let distanceCode := codeOf (lengths.drop literals)
            if lengths[256]?.getD 0 = 0 then .bad .noEnd
            else if !literalCode.isWhole true then .bad .literalCode
            else if !distanceCode.isWhole true then .bad .distanceCode
            else readSymbols literalCode distanceCode fuel s out

/-- Read blocks up to the last one. -/
def readBlocks (fuel : Nat) : Nat → List Bool → Array UInt8 → Outcome
  | 0, _, out => .short out
  | n + 1, s, out =>
    match takeUpward? 3 s with
    | none => .short out
    | some (head, rest) =>
      let outcome :=
        match head / 2 with
        | 0 => readPlain rest out
        | 1 => readSymbols fixedLiterals fixedDistances fuel rest out
        | 2 => readCoded fuel rest out
        | _ => .bad .blockKind
      match outcome with
      | .done out rest => if head % 2 = 1 then .done out rest else readBlocks fuel n rest out
      | other => other

end FileDepot.Compression.Inflate

namespace FileDepot.Compression

/-- Inflate compressed data. -/
def inflate (data : Bytes) : Except Inflate.Fault Unpacked :=
  let s := bitsUpward data
  match Inflate.readBlocks (s.length + 1) (s.length + 1) s #[] with
  | .done out rest => .ok ⟨out.toList, some (data.drop (data.length - rest.length / 8))⟩
  | .short out => .ok ⟨out.toList, none⟩
  | .bad f => .error f

end FileDepot.Compression
