import FileDepot.Stream.TextReader

/-!
# Reading bytes

A `ByteReader` gives out bytes piece by piece. The bytes are at hand, or they are the encoded form of
a text: the text is taken in chunks of characters and encoded chunk by chunk, and a buffer in front
lets readers ask for any number of bytes. Bytes that somebody else gives out come in pieces of any sizes,
and may fail where they would end.
-/

namespace FileDepot

open Encoding

/-- A text being read as bytes. -/
structure EncodedText where
  /-- the text that is not encoded yet -/
  text : TextReader
  /-- the encoder -/
  encoder : Encoder
  /-- how many characters are taken at a time -/
  chunk : Int
  /-- the bytes that are encoded and not given out -/
  pending : Bytes
  /-- whether the end of the text is passed -/
  ended : Bool
  /-- whether text is pending where bytes are needed, so that no read can go on -/
  stuck : Bool
  deriving DecidableEq, Repr

namespace EncodedText

/-- How many characters are taken at a time when nothing else is asked for. -/
def usualChunk : Int := 8192

/-- Begin to read a text as bytes. -/
def start (codec : Codec) (text : TextReader) (chunk : Int) : EncodedText :=
  ⟨text, .start codec, chunk, [], false, false⟩

/-- The fault of a read while text is pending. -/
def stuckFault : Encoding.Fault := .textMade false

/-- Encode chunks until bytes are pending or the text has ended. A chunk may give no bytes, when it
waits for the next one. Each chunk takes a code point at least, so their number is enough fuel. -/
def fillFrom : Nat → EncodedText → Except FileDepot.Fault Unit × EncodedText
  | 0, r => (.ok (), r)
  | fuel + 1, r =>
    if r.stuck then (.error (.coding stuckFault), r)
    else if !r.pending.isEmpty || r.ended then (.ok (), r)
    else match r.text.read r.chunk with
      | (.error f, text) => (.error f, { r with text := text })
      | (.ok s, text) =>
        match r.encoder.feed s s.isEmpty with
        | (.error e, encoder) =>
          (.error (.coding e), { r with text := text, encoder := encoder, stuck := e == stuckFault })
        | (.ok data, encoder) =>
          fillFrom fuel
            { r with text := text, encoder := encoder, pending := data, ended := s.isEmpty }

/-- Encode chunks until bytes are pending or the text has ended. -/
def fill (r : EncodedText) : Except FileDepot.Fault Unit × EncodedText :=
  fillFrom (r.text.bound + 3) r

/-- Read at most `n` bytes of the current chunk. No bytes means that the text has ended. -/
def readSome (r : EncodedText) (n : Nat) : Except FileDepot.Fault Bytes × EncodedText :=
  match r.fill with
  | (.error f, r) => (.error f, r)
  | (.ok (), r) => (.ok (r.pending.take n), { r with pending := r.pending.drop n })

/-- The size of the buffer in front of an encoded text, and of its reads when all is asked for. -/
def bufferSize : Nat := 8192

/-- Read until the text has ended. `out` holds the pieces read so far, latest first. -/
def readOn : Nat → EncodedText → List Bytes → Except FileDepot.Fault Bytes × EncodedText
  | 0, r, out => (.ok out.reverse.flatten, r)
  | fuel + 1, r, out =>
    match r.readSome bufferSize with
    | (.error f, r) => (.error f, r)
    | (.ok [], r) => (.ok out.reverse.flatten, r)
    | (.ok data, r) => readOn fuel r (data :: out)

/-- The most bytes that an encoding writes for a code point, with what may go before and after it. -/
def mostBytes : Nat := 64

/-- A number of reads that is enough to reach the end: each read takes a byte at least. -/
def readsLeft (r : EncodedText) : Nat :=
  r.pending.length + mostBytes * (r.encoder.held.length + r.text.bound + 1)

/-- Read all that is left. -/
def readAll (r : EncodedText) : Except FileDepot.Fault Bytes × EncodedText :=
  readOn r.readsLeft r []

/-- Read at most `n` bytes of the current chunk; a negative number reads all that is left. The number of
characters in a chunk must be one to count with, too. There is room for `room` bytes. -/
def read (room : Nat) (r : EncodedText) (n : Int) : Except FileDepot.Fault Bytes × EncodedText :=
  match ReadLength.unbuffered room n with
  | .error e => (.error (.length e), r)
  | .ok asked =>
    if !ReadLength.isCountable r.chunk then (.error (.length .uncountable), r)
    else match asked with
      | none => r.readAll
      | some n => r.readSome n

end EncodedText

/-- An encoded text behind a buffer. -/
structure BufferedText where
  /-- the encoded text -/
  source : EncodedText
  /-- the bytes in the buffer -/
  ahead : Bytes
  deriving DecidableEq, Repr

namespace BufferedText

open EncodedText (bufferSize)

/-- Read whole buffers past the buffer while at least one is wanted. The answer is the bytes so far,
what is still wanted, and whether the text has ended. -/
def readBlocks : Nat → EncodedText → Nat → Bytes →
    Except FileDepot.Fault (Bytes × Nat × Bool) × EncodedText
  | 0, r, wanted, out => (.ok (out, wanted, false), r)
  | fuel + 1, r, wanted, out =>
    if wanted < bufferSize then (.ok (out, wanted, false), r)
    else match r.readSome (wanted / bufferSize * bufferSize) with
      | (.error f, r) => (.error f, r)
      | (.ok [], r) => (.ok (out, wanted, true), r)
      | (.ok data, r) => readBlocks fuel r (wanted - data.length) (out ++ data)

/-- Fill the buffer until it holds what is wanted, is full, or the text has ended. -/
def fillBuffer : Nat → EncodedText → Nat → Bytes → Except FileDepot.Fault Bytes × EncodedText
  | 0, r, _, ahead => (.ok ahead, r)
  | fuel + 1, r, wanted, ahead =>
    if wanted ≤ ahead.length || bufferSize ≤ ahead.length then (.ok ahead, r)
    else match r.readSome (bufferSize - ahead.length) with
      | (.error f, r) => (.error f, r)
      | (.ok [], r) => (.ok ahead, r)
      | (.ok data, r) => fillBuffer fuel r wanted (ahead ++ data)

/-- A fault of a read whose bytes go to a place that others see. -/
def sharedFault : FileDepot.Fault → FileDepot.Fault
  | .coding (.textMade _) => .coding (.textMade true)
  | f => f

/-- Read `n` bytes, or fewer at the end. What a failing read had taken is lost. -/
def readExactly (b : BufferedText) (n : Nat) : Except FileDepot.Fault Bytes × BufferedText :=
  if n ≤ b.ahead.length then (.ok (b.ahead.take n), { b with ahead := b.ahead.drop n })
  else match readBlocks (n + 1) b.source (n - b.ahead.length) b.ahead with
    | (.error f, source) => (.error (sharedFault f), ⟨source, []⟩)
    | (.ok (out, _, true), source) => (.ok out, ⟨source, []⟩)
    | (.ok (out, wanted, false), source) =>
      match fillBuffer (bufferSize + 1) source wanted [] with
      | (.error f, source) => (.error (sharedFault f), ⟨source, []⟩)
      | (.ok ahead, source) => (.ok (out ++ ahead.take wanted), ⟨source, ahead.drop wanted⟩)

/-- Read all that is left. -/
def readAll (b : BufferedText) : Except FileDepot.Fault Bytes × BufferedText :=
  match b.source.readAll with
  | (.ok data, source) => (.ok (b.ahead ++ data), ⟨source, []⟩)
  | (.error f, source) => (.error f, ⟨source, []⟩)

end BufferedText

/-- Bytes that are given out piece by piece. -/
inductive ByteReader where
  /-- bytes at hand -/
  | bytes (rest : Bytes)
  /-- bytes that come in pieces: a read gives no more than the next one -/
  | pieces (rest : List Bytes)
  /-- the encoded form of a text -/
  | encoded (b : BufferedText)
  /-- bytes that come in pieces, and the fault that reading beyond them meets -/
  | failing (rest : List Bytes) (why : FileDepot.Fault)
  /-- a stream that is closed -/
  | closed
  deriving DecidableEq, Repr

namespace ByteReader

/-- The encoded form of a text. -/
def ofText (codec : Codec) (text : TextReader) : ByteReader :=
  .encoded ⟨.start codec text EncodedText.usualChunk, []⟩

/-- What a stream gives out. -/
def ofSupply (s : Supply) : ByteReader :=
  if s.isClosed then .closed
  else match s.fault? with
    | none => .bytes s.bytes
    | some f => .failing [s.bytes] f

/-- Whether it is a stream that is closed. -/
def isClosed : ByteReader → Bool
  | .closed => true
  | .bytes _ | .pieces _ | .encoded _ | .failing .. => false

/-- Begin to read a stream, which a closed one refuses. -/
def enter (r : ByteReader) : Except FileDepot.Fault ByteReader :=
  if r.isClosed then .error (.value .closed) else .ok r

@[simp] theorem enter_bytes (data : Bytes) : (bytes data).enter = .ok (.bytes data) := rfl

/-- Read at most `n` bytes of the first piece that has any: its bytes, and the pieces after that; nothing if
no piece has any. -/
def takePiece? (n : Nat) (pieces : List Bytes) : Option (Bytes × List Bytes) :=
  match pieces.dropWhile List.isEmpty with
  | [] => none
  | piece :: more => some (piece.take n, piece.drop n :: more)

/-- Read a number of bytes, or fewer at the end or where a piece ends, or all that is left. No bytes means
that nothing is left. -/
def give (r : ByteReader) (asked : Option Nat) : Except FileDepot.Fault Bytes × ByteReader :=
  match r, asked with
  | .bytes rest, none => (.ok rest, .bytes [])
  | .bytes rest, some n => (.ok (rest.take n), .bytes (rest.drop n))
  | .pieces rest, none => (.ok rest.flatten, .pieces [])
  | .pieces rest, some n =>
    match takePiece? n rest with
    | none => (.ok [], .pieces [])
    | some (data, more) => (.ok data, .pieces more)
  | .encoded b, none => let (result, b) := b.readAll; (result, .encoded b)
  | .encoded b, some n => let (result, b) := b.readExactly n; (result, .encoded b)
  | .failing _ why, none => (.error why, .failing [] why)
  | .failing rest why, some n =>
    match takePiece? n rest with
    | none => (.error why, .failing [] why)
    | some (data, more) => (.ok data, .failing more why)
  | .closed, _ => (.error (.value .closed), .closed)

/-- What is asked for by a number, where minus one asks for all that is left. -/
def asked (room : Nat) (r : ByteReader) (n : Int) : ReadLength.Asked :=
  match r with
  | .encoded _ => ReadLength.buffered room n
  | .bytes _ | .pieces _ | .failing .. | .closed => ReadLength.inMemory n

/-- Read `n` bytes, or fewer at the end or where a piece ends; minus one reads all that is left. There is room
for `room` bytes. -/
def read (room : Nat) (r : ByteReader) (n : Int) : Except FileDepot.Fault Bytes × ByteReader :=
  match r.asked room n with
  | .error e => (.error (.length e), r)
  | .ok asked => r.give asked

/-- All bytes that are left, or the fault that reading them ends with. -/
def drain (r : ByteReader) : Except FileDepot.Fault Bytes := (r.give none).1

/-- The size of the blocks in which bytes are copied. -/
def blockSize : Nat := 65536

/-- Read block by block up to an empty one. `out` holds the blocks read so far, latest first. -/
def copyBlocks : Nat → ByteReader → List Bytes → Except FileDepot.Fault Bytes
  | 0, _, out => .ok out.reverse.flatten
  | fuel + 1, r, out =>
    match r.give (some blockSize) with
    | (.error f, _) => .error f
    | (.ok [], _) => .ok out.reverse.flatten
    | (.ok data, r) => copyBlocks fuel r (data :: out)

/-- A number of blocks that is enough to reach the end: each takes a byte at least. -/
def blocksLeft : ByteReader → Nat
  | .bytes rest => rest.length
  | .pieces rest | .failing rest _ => rest.flatten.length
  | .closed => 0
  | .encoded b => b.ahead.length + b.source.readsLeft

/-- All bytes that are left, read block by block. -/
def drainBlocks (r : ByteReader) : Except FileDepot.Fault Bytes := copyBlocks (r.blocksLeft + 1) r []

end ByteReader

end FileDepot
