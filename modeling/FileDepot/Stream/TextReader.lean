import FileDepot.Encoding.Newline
import FileDepot.Number.Binary64
import FileDepot.Stream.Supply

/-!
# Reading text

A `TextReader` gives out a text piece by piece. The text is at hand, or it is decoded from bytes as it
is asked for: bytes are decoded in chunks, line ends become line feeds, and code points that are
decoded but not asked for yet wait. Either may fail where it would end.
-/

namespace FileDepot

open Encoding

/-- Bytes being read as text. -/
structure Decoding where
  /-- the bytes that are not read yet -/
  bytes : Bytes
  /-- the decoder -/
  decoder : Decoder
  /-- whether a carriage return waits for the next chunk -/
  returnWaits : Bool
  /-- the code points that are decoded and not given out -/
  ready : List Point
  /-- the size of the last chunk in bytes and in code points -/
  lastChunk : Option (Nat × Nat)
  /-- the fault that reading beyond the bytes meets; none at a plain end -/
  fault? : Option FileDepot.Fault
  deriving DecidableEq, Repr

namespace Decoding

/-- Begin to read what a stream gives out as text. -/
def ofSupply (codec : Codec) (s : Supply) : Decoding :=
  ⟨s.bytes, .start codec, false, [], none, s.fault?⟩

/-- Begin to read bytes as text. -/
def start (codec : Codec) (bytes : Bytes) : Decoding := ofSupply codec (.whole bytes)

/-- The least number of bytes in a chunk. -/
def leastChunk : Nat := 8192

/-- The first number of bytes that is too large to count with. -/
def largestChunk : Nat := 0x8000000000000000

/-- The number of bytes in the next chunk when `wanted` code points are missing: as many as the last
chunk had for so many code points, computed in binary64. A number that is too large to count with does
not count. -/
def chunkSize (d : Decoding) (wanted : Nat) : Nat :=
  let wanted := (Number.Magnitude.ofQuotient wanted 1).floor
  let size := match d.lastChunk with
    | some (bytes, chars) =>
      if bytes ≤ chars then wanted
      else match Number.Magnitude.ofQuotient bytes chars with
        | .finite m q =>
          let (num, den) := Number.Magnitude.scaled (m * wanted) 1 (-q)
          (Number.Magnitude.ofQuotient num den).floor
        | _ => wanted
    | none => wanted
  if largestChunk ≤ size then leastChunk else max leastChunk size

/-- Decode some bytes; `final` tells that they are the last ones. -/
def decode (d : Decoding) (piece : Bytes) (final : Bool) :
    Except Encoding.Fault (List Point) × Decoding :=
  match d.decoder.feed piece final with
  | (.ok s, decoder) =>
    let (s, waits) := Newline.feed d.returnWaits s final
    (.ok s, { d with decoder := decoder, returnWaits := waits })
  | (.error f, decoder) => (.error f, { d with decoder := decoder })

/-- The fault that reading a chunk meets: a chunk without bytes is the end of them. -/
def faultAt? (d : Decoding) (chunk : Bytes) : Option FileDepot.Fault :=
  if chunk.isEmpty then d.fault? else none

/-- Decode the next chunk into the waiting code points. The answer tells whether there may be more. -/
def fill (d : Decoding) (wanted : Nat) : Except FileDepot.Fault Bool × Decoding :=
  let size := d.chunkSize wanted
  let chunk := d.bytes.take size
  let d := { d with bytes := d.bytes.drop size }
  match d.faultAt? chunk with
  | some f => (.error f, d)
  | none =>
    match d.decode chunk chunk.isEmpty with
    | (.error e, d) => (.error (.coding e), d)
    | (.ok s, d) =>
      (.ok (!chunk.isEmpty || !s.isEmpty),
        { d with
          ready := s
          lastChunk := if s.isEmpty then none else some (chunk.length, s.length) })

/-- Read until `wanted` code points are there or the text ends. `out` holds what was taken so far. -/
def readMore :
    Nat → Decoding → Nat → List Point → Except FileDepot.Fault (List Point) × Decoding
  | 0, d, _, out => (.ok out, d)
  | fuel + 1, d, wanted, out =>
    if wanted = 0 then (.ok out, d)
    else match d.fill wanted with
      | (.error f, d) => (.error f, d)
      | (.ok false, d) => (.ok out, d)
      | (.ok true, d) =>
        let taken := d.ready.take wanted
        readMore fuel { d with ready := d.ready.drop wanted } (wanted - taken.length)
          (out ++ taken)

/-- Read `n` code points, or fewer at the end of the text. -/
def read (d : Decoding) (n : Nat) : Except FileDepot.Fault (List Point) × Decoding :=
  let taken := d.ready.take n
  readMore (d.bytes.length + 2) { d with ready := d.ready.drop n } (n - taken.length) taken

/-- Read all that is left. -/
def readAll (d : Decoding) : Except FileDepot.Fault (List Point) × Decoding :=
  match d.fault? with
  | some f => (.error f, { d with bytes := [] })
  | none =>
    match { d with bytes := [] }.decode d.bytes true with
    | (.error e, d) => (.error (.coding e), d)
    | (.ok s, after) => (.ok (d.ready ++ s), { after with ready := [] })

end Decoding

/-- A text that is given out piece by piece. -/
inductive TextReader where
  /-- a text at hand, as it is -/
  | chars (rest : List Point)
  /-- a text that is decoded from bytes -/
  | decoded (d : Decoding)
  /-- a text that somebody else gives out, and the fault that reading beyond it meets -/
  | failing (rest : List Point) (why : FileDepot.Fault)
  deriving DecidableEq, Repr

namespace TextReader

/-- Read `n` code points, or fewer at the end of the text; a negative number reads all that is left. -/
def read (r : TextReader) (n : Int) : Except FileDepot.Fault (List Point) × TextReader :=
  match r with
  | .chars rest =>
    if n < 0 then (.ok rest, .chars []) else (.ok (rest.take n.toNat), .chars (rest.drop n.toNat))
  | .decoded d =>
    let (result, d) := if n < 0 then d.readAll else d.read n.toNat
    (result, .decoded d)
  | .failing rest why =>
    if n < 0 || rest.isEmpty then (.error why, .failing [] why)
    else (.ok (rest.take n.toNat), .failing (rest.drop n.toNat) why)

/-- How many bytes are read at once when `n` code points are asked for. -/
def nextChunk (r : TextReader) (n : Int) : Nat :=
  match r with
  | .chars _ | .failing .. => 0
  | .decoded d => if n ≤ d.ready.length then 0 else d.chunkSize (n.toNat - d.ready.length)

/-- Forget the code points that are decoded and not given out. -/
def forgetReady : TextReader → TextReader
  | .chars rest => .chars rest
  | .decoded d => .decoded { d with ready := [] }
  | .failing rest why => .failing rest why

/-- A number that is at least the number of code points left. -/
def bound : TextReader → Nat
  | .chars rest | .failing rest _ => rest.length
  | .decoded d => d.bytes.length + d.decoder.held.length + d.ready.length + 1

end TextReader

end FileDepot
