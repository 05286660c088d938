import FileDepot.Bytes.Basic
import FileDepot.Encoding.Codec
import FileDepot.Encoding.Escaped
import FileDepot.Encoding.HostLabel
import FileDepot.Encoding.Utf7

/-!
# Encoding text piece by piece

An `Encoder` writes a text that arrives in pieces. Most encodings write each piece for itself; some put
a mark before the first one, some hold code points back until the next one is known, and some end in
another mode than they began in, which the last piece sets right.
-/

namespace FileDepot.Encoding

/-! ## Single code points -/

/-- The one to four bytes of a character. -/
def utf8Bytes (c : Char) : Bytes :=
  let n := c.toNat
  if n < 0x80 then [UInt8.ofNat n]
  else if n < 0x800 then [UInt8.ofNat (0xc0 + n / 64), UInt8.ofNat (0x80 + n % 64)]
  else if n < 0x10000 then
    [UInt8.ofNat (0xe0 + n / 4096), UInt8.ofNat (0x80 + n / 64 % 64), UInt8.ofNat (0x80 + n % 64)]
  else
    [UInt8.ofNat (0xf0 + n / 262144), UInt8.ofNat (0x80 + n / 4096 % 64),
      UInt8.ofNat (0x80 + n / 64 % 64), UInt8.ofNat (0x80 + n % 64)]

/-- A number of two bytes in the given order. -/
def twoBytes (order : ByteOrder) (n : Nat) : Bytes :=
  match order with
  | .little => [UInt8.ofNat n, UInt8.ofNat (n / 256)]
  | .big => [UInt8.ofNat (n / 256), UInt8.ofNat n]

/-- A number of four bytes in the given order. -/
def fourBytes (order : ByteOrder) (n : Nat) : Bytes :=
  match order with
  | .little => twoBytes .little n ++ twoBytes .little (n / 65536)
  | .big => twoBytes .big (n / 65536) ++ twoBytes .big n

/-- The units of a character in units of two bytes: one, or a pair above `ffff`. -/
def utf16Bytes (order : ByteOrder) (c : Char) : Bytes :=
  let n := c.toNat
  if n < 0x10000 then twoBytes order n
  else
    twoBytes order (0xd800 + (n - 0x10000) / 1024) ++ twoBytes order (0xdc00 + (n - 0x10000) % 1024)

/-- The byte of a code point that is below `bound`. -/
def byteBelow (bound : Nat) (p : Point) : Option Bytes :=
  if p.toNat < bound then some [UInt8.ofNat p.toNat] else none

/-! ## Texts without modes -/

/-- Write the bytes of each code point, or report the first one that has none. `together` tells
whether those right after it that have none, either, are reported with it. -/
def encodeEach (codec reason : String) (together : Bool) (bytes? : Point → Option Bytes)
    (s : List Point) : Except Fault Bytes :=
  match s.dropWhile fun p => (bytes? p).isSome with
  | [] => .ok (s.flatMap fun p => (bytes? p).getD [])
  | p :: rest =>
    let start := (s.takeWhile fun p => (bytes? p).isSome).length
    let run := if together then ((p :: rest).takeWhile fun p => (bytes? p).isNone).length else 1
    .error (.encode codec p start (start + run) reason)

/-- The reason given when a surrogate cannot be written. -/
def surrogateReason : String := "surrogates not allowed"

/-- The name that faults in units of a given order are reported under. -/
def orderedName (family : String) : ByteOrder → String
  | .little => family ++ "-le"
  | .big => family ++ "-be"

/-- Write a text with one to four bytes for each character. -/
def encodeUtf8 (s : List Point) : Except Fault Bytes :=
  encodeEach "utf-8" surrogateReason true (fun p => p.char?.map utf8Bytes) s

/-- Write a text in units of two bytes. -/
def encodeUtf16 (codec : String) (order : ByteOrder) (s : List Point) : Except Fault Bytes :=
  encodeEach codec surrogateReason false (fun p => p.char?.map (utf16Bytes order)) s

/-- Write a text in units of four bytes. -/
def encodeUtf32 (codec : String) (order : ByteOrder) (s : List Point) : Except Fault Bytes :=
  encodeEach codec surrogateReason false (fun p => p.char?.map fun c => fourBytes order c.toNat) s

/-- Write a text with the characters below 256 as themselves. -/
def encodeLatin1 (s : List Point) : Except Fault Bytes :=
  encodeEach "latin-1" "ordinal not in range(256)" true (byteBelow 256) s

/-- Characters that are all ASCII as bytes. -/
def asciiBytes (s : List Char) : Bytes := s.map fun c => UInt8.ofNat c.toNat

/-! ## Texts with modes -/

/-- How a character is written in a mode, given what comes next: its bytes, if it has some, with the
mode after them, and whether the next character is written with it. No answer means that the character
must wait for the next one. -/
abbrev Pen (μ : Type) := μ → Char → WideTable.Next → Option (Option (Bytes × μ) × Bool)

/-- What comes next in a text, of which more may come unless this is its end. -/
def nextOf (final : Bool) : List Point → WideTable.Next
  | .char c :: _ => .char c
  | .surrogate _ :: _ => .ended
  | [] => if final then .ended else .unknown

/-- Write a text from a mode on: the bytes and the text that waits, or a fault; and the mode after it.
`out` holds the pieces so far, latest first. -/
def writeRun {μ : Type} (codec : String) (pen : Pen μ) (final : Bool) (mode : μ) (place : Nat)
    (out : List Bytes) : List Point → Except Fault (Bytes × List Point) × μ
  | [] => (.ok (out.reverse.flatten, []), mode)
  | p :: rest =>
    match p.char? with
    | none => (.error (.encode codec p place (place + 1) illegalSequence), mode)
    | some c =>
      match pen mode c (nextOf final rest) with
      | none => (.ok (out.reverse.flatten, p :: rest), mode)
      | some (none, _) => (.error (.encode codec p place (place + 1) illegalSequence), mode)
      | some (some (bytes, mode), both) =>
        match both, rest with
        | true, _ :: rest => writeRun codec pen final mode (place + 2) (bytes :: out) rest
        | _, rest => writeRun codec pen final mode (place + 1) (bytes :: out) rest

/-- How a character is written without modes. -/
def Wide.pen (w : Wide) : Pen Shift := fun mode c next =>
  (w.write c next).map fun (bytes?, both) => (bytes?.map (·, mode), both)

/-- How a character is written between tildes. -/
def Tilde.pen : Pen Shift := fun mode c _ => some (Tilde.write mode c, false)

/-! ## Encoders -/

/-- A text being encoded piece by piece. -/
structure Encoder where
  /-- the encoding -/
  codec : Codec
  /-- whether the first piece is written -/
  begun : Bool
  /-- the text that waits for more -/
  held : List Point
  /-- the mode -/
  mode : Shift
  deriving DecidableEq, Repr

namespace Encoder

/-- An encoder before the first piece. -/
def start (codec : Codec) : Encoder := ⟨codec, false, [], .initial⟩

/-- Write a piece for itself. -/
def plainly (e : Encoder) (result : Except Fault Bytes) : Except Fault Bytes × Encoder := (result, e)

/-- Write a piece, the first one after a mark; a first piece that fails does not count. -/
def marked (e : Encoder) (mark : Bytes) (first later : Except Fault Bytes) :
    Except Fault Bytes × Encoder :=
  if e.begun then (later, e)
  else match first with
    | .ok data => (.ok (mark ++ data), { e with begun := true })
    | .error f => (.error f, e)

/-- Write a piece in a mode. At the end, `finish` turns back to the first mode. -/
def moded (e : Encoder) (codec : String) (pen : Pen Shift) (finish : Shift → Bytes × Shift)
    (s : List Point) (final : Bool) : Except Fault Bytes × Encoder :=
  match writeRun codec pen final e.mode 0 [] (e.held ++ s) with
  | (.error f, mode) => (.error f, { e with mode := mode })
  | (.ok (data, held), mode) =>
    let (tail, mode) := if final then finish mode else ([], mode)
    (.ok (data ++ tail), { e with held := held, mode := mode })

/-- Write one piece; `final` tells that it is the last one. -/
def feed (e : Encoder) (s : List Point) (final : Bool) : Except Fault Bytes × Encoder :=
  match e.codec with
  | .utf8 => e.plainly (encodeUtf8 s)
  | .utf8Marked =>
    ((encodeUtf8 s).map fun data => if e.begun then data else [0xef, 0xbb, 0xbf] ++ data,
      { e with begun := true })
  | .utf16 (some order) => e.plainly (encodeUtf16 (orderedName "utf-16" order) order s)
  | .utf16 none =>
    e.marked (twoBytes .little 0xfeff) (encodeUtf16 "utf-16" .little s)
      (encodeUtf16 "utf-16-le" .little s)
  | .utf32 (some order) => e.plainly (encodeUtf32 (orderedName "utf-32" order) order s)
  | .utf32 none =>
    e.marked (fourBytes .little 0xfeff) (encodeUtf32 "utf-32" .little s)
      (encodeUtf32 "utf-32-le" .little s)
  | .utf7 => e.plainly (.ok (Utf7.write s))
  | .ascii => e.plainly (encodeEach "ascii" "ordinal not in range(128)" true (byteBelow 128) s)
  | .latin1 | .charmap => e.plainly (encodeLatin1 s)
  | .table t =>
    e.plainly (encodeEach "charmap" "character maps to <undefined>" true
      (fun p => (p.char?.bind t.encode?).map ([·])) s)
  | .escaped raw =>
    e.plainly (.ok (s.flatMap (if raw then Escaped.writeRawPoint else Escaped.writePoint)))
  | .punycode => e.plainly (.ok (asciiBytes (Punycode.encode s)))
  | .hostName =>
    match HostLabel.feed (e.held ++ s) final with
    | .ok (data, held) => (.ok (asciiBytes data), { e with held := held })
    | .error f => (.error f, e)
  | .wide w => e.moded w.name w.pen (fun mode => ([], mode)) s final
  | .iso2022 i => e.moded i.name i.write Iso2022.finish s final
  | .tilde => e.moded "hz" Tilde.pen Tilde.finish s final
  | .transform t => e.plainly (.error (t.fault false))
  | .undefined => e.plainly (.error .undefined)

end Encoder

end FileDepot.Encoding
