import FileDepot.Bytes.Crc32
import FileDepot.Compression.Inflate

/-!
# Wrapped compressed data

Compressed data can stand between a header and checksums. There are two such wrappers: a short one, of
two bytes in front and one checksum behind, and a long one, whose header can name a file. What is
missing at the end of the data is not held against it.
-/

namespace FileDepot.Compression

/-- Why data cannot be unwrapped. -/
inductive WrapFault where
  /-- the header has the wrong mark -/
  | header
  /-- the data is compressed in another way -/
  | method
  /-- the data looks back too far -/
  | window
  /-- a flag without a meaning is set -/
  | flags
  /-- the header does not fit its checksum -/
  | headerChecksum
  /-- the data needs a text to begin with -/
  | dictionary
  /-- the contents do not fit their checksum -/
  | checksum
  /-- the contents have another length -/
  | length
  /-- the data itself is faulty -/
  | inflate (e : Inflate.Fault)
  deriving DecidableEq, Repr

/-- The report on data that is at fault. -/
def faultReport (reason : String) : String := "Error -3 while decompressing data: " ++ reason

/-- The wording of a fault. -/
def WrapFault.message : WrapFault → String
  | .header => faultReport "incorrect header check"
  | .method => faultReport "unknown compression method"
  | .window => faultReport "invalid window size"
  | .flags => faultReport "unknown header flags set"
  | .headerChecksum => faultReport "header crc mismatch"
  | .dictionary => "Error 2 while decompressing data"
  | .checksum => faultReport "incorrect data check"
  | .length => faultReport "incorrect length check"
  | .inflate e => faultReport e.reason

/-! ## The short wrapper -/

/-- The checksum of the short wrapper: the sum of the bytes, and the sum of all sums on the way. -/
def sumChecksum (data : Bytes) : Nat :=
  let (low, high) := data.foldl (fun (low, high) b =>
    let low := (low + b.toNat) % 65521
    (low, (high + low) % 65521)) (1, 0)
  high * 65536 + low

/-- Compressed data as it is. -/
def unwrapNone (data : Bytes) : Except WrapFault Bytes :=
  match inflate data with
  | .ok u => .ok u.contents
  | .error e => .error (.inflate e)

/-- Compressed data in the short wrapper. -/
def unwrapShort (data : Bytes) : Except WrapFault Bytes :=
  match data with
  | first :: second :: rest =>
    let first := first.toNat
    let second := second.toNat
    if (first * 256 + second) % 31 ≠ 0 then .error .header
    else if first % 16 ≠ 8 then .error .method
    else if 7 < first / 16 then .error .window
    else if second.testBit 5 then
      if rest.length < 4 then .ok [] else .error .dictionary
    else match inflate rest with
      | .error e => .error (.inflate e)
      | .ok ⟨contents, none⟩ => .ok contents
      | .ok ⟨contents, some rest⟩ =>
        if 4 ≤ rest.length && Bytes.toNat (rest.take 4).reverse ≠ sumChecksum contents then
          .error .checksum
        else .ok contents
  | _ => .ok []

/-! ## The long wrapper -/

/-- The length of a text that a zero byte ends, with that byte, if it is there. -/
def zeroEnded? (data : Bytes) : Option Nat :=
  (data.findIdx? (· = 0)).map (· + 1)

/-- The length of the header of a long wrapper, up to its checksum. No answer means that the data ends
in the header. -/
def headerLength? (flags : Nat) (data : Bytes) : Option Nat := do
  let fixed := 10
  guard (fixed ≤ data.length)
  let extra ← if flags.testBit 2 then do
      guard (fixed + 2 ≤ data.length)
      some (2 + data.natAt fixed 2)
    else some 0
  let named := fixed + extra
  guard (named ≤ data.length)
  let name ← if flags.testBit 3 then zeroEnded? (data.drop named) else some 0
  let noted := named + name
  let note ← if flags.testBit 4 then zeroEnded? (data.drop noted) else some 0
  some (noted + note)

/-- What stands behind the header of a long wrapper. No answer means that the data ends in the header. -/
def afterHeader? (flags : Nat) (data : Bytes) : Except WrapFault (Option Bytes) :=
  match headerLength? flags data with
  | none => .ok none
  | some n =>
    if flags.testBit 1 then
      let found := data.slice n 2
      if found.length < 2 then .ok none
      else if found.toNat ≠ (Bytes.Crc32.checksum (data.take n)).toNat % 65536 then
        .error .headerChecksum
      else .ok (some (data.drop (n + 2)))
    else .ok (some (data.drop n))

/-- Hold contents against the checksum and the length that follow them. -/
def checkTrailer (contents rest : Bytes) : Except WrapFault Bytes :=
  if rest.length < 4 then .ok contents
  else if rest.natAt 0 4 ≠ (Bytes.Crc32.checksum contents).toNat then .error .checksum
  else if rest.length < 8 then .ok contents
  else if rest.natAt 4 4 ≠ contents.length % 4294967296 then .error .length
  else .ok contents

/-- Compressed data in the long wrapper. -/
def unwrapLong (data : Bytes) : Except WrapFault Bytes :=
  if data.length < 2 then .ok []
  else if data.take 2 ≠ [0x1f, 0x8b] then .error .header
  else if data.length < 4 then .ok []
  else if data.natAt 2 1 ≠ 8 then .error .method
  else
    let flags := data.natAt 3 1
    if 32 ≤ flags then .error .flags
    else do
      match ← afterHeader? flags data with
      | none => .ok []
      | some packed =>
        match inflate packed with
        | .error e => .error (.inflate e)
        | .ok ⟨contents, none⟩ => .ok contents
        | .ok ⟨contents, some rest⟩ => checkTrailer contents rest

end FileDepot.Compression
