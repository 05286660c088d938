import FileDepot.Encoding.Encoder

/-!
# Decoding bytes piece by piece

A `Decoder` reads bytes that arrive in pieces: it holds back the bytes at the end of a piece that only
later bytes can decide, and it remembers the order of bytes that a mark at the front told, and the mode
that the text is in. What it holds back is read again with the next piece.
-/

namespace FileDepot.Encoding

/-- Bytes being decoded piece by piece. -/
structure Decoder where
  /-- the encoding -/
  codec : Codec
  /-- the bytes held back -/
  held : Bytes
  /-- the order of bytes that a mark told -/
  order : Option ByteOrder
  /-- whether the place of a leading mark is passed -/
  begun : Bool
  /-- the mode -/
  mode : Shift
  deriving DecidableEq, Repr

namespace Decoder

/-- A decoder before the first piece. -/
def start (codec : Codec) : Decoder := ⟨codec, [], none, false, .initial⟩

/-- Finish a piece: hold back what is left of it, or keep the decoder as it was on a fault. -/
def finish (d : Decoder) (result : Except Fault (List Point × Bytes)) :
    Except Fault (List Point) × Decoder :=
  match result with
  | .ok (s, held) => (.ok s, { d with held := held })
  | .error f => (.error f, d)

/-- Read a piece without modes. -/
def plainly (d : Decoder) (codec : String) (scan : PlainScan) (data : Bytes) :
    Except Fault (List Point) × Decoder :=
  d.finish (run codec (fun _ => scan) () 0 0 [] data).1

/-- Read units whose order a mark at the front tells. `size` is the number of bytes of a unit, and
`scan` scans units of a given order. -/
def feedMarked (d : Decoder) (family : String) (size : Nat) (mark : ByteOrder → Bytes)
    (scan : ByteOrder → PlainScan) (data : Bytes) : Except Fault (List Point) × Decoder :=
  match d.order with
  | some order => d.plainly (orderedName family order) (scan order) data
  | none =>
    let told := [ByteOrder.little, .big].find? fun order => (mark order).isPrefixOf data
    match told with
    | some order =>
      match (run (orderedName family order) (fun _ => scan order) () 0 size [] (data.drop size)).1 with
      | .ok (s, held) => (.ok s, { d with held := held, order := some order })
      | .error f => (.error f, d)
    | none =>
      match (run (orderedName family .little) (fun _ => scan .little) () 0 0 [] data).1 with
      | .ok (s, held) =>
        if size ≤ data.length - held.length then (.error (.noOrderMark (8 * size)), d)
        else (.ok s, { d with held := held })
      | .error f => (.error f, d)

/-- How many bytes may be held back where the number is limited. -/
def mostHeld : Nat := 8

/-- Whether a fault tells that the data ended too early. -/
def isIncomplete : Fault → Bool
  | .decode _ _ _ _ reason => reason == incompleteSequence
  | _ => false

/-- Read a piece in a mode, which lasts also where the piece is faulty. Faulty bytes are passed, but
bytes held back stay where the data ended too early. -/
def moded (d : Decoder) (codec : String) (scan : Shift → Bytes → Scan Shift) (data : Bytes) :
    Except Fault (List Point) × Decoder :=
  match run codec scan d.mode 0 0 [] data with
  | (.ok (s, held), mode) =>
    if mostHeld < held.length then
      (.error (.other "pending buffer overflow"), { d with held := [], mode := mode })
    else (.ok s, { d with held := held, mode := mode })
  | (.error f, mode) =>
    (.error f, { d with held := if isIncomplete f then d.held else [], mode := mode })

/-- A scan without modes, in a mode. -/
def inMode (scan : PlainScan) (mode : Shift) (data : Bytes) : Scan Shift :=
  match scan data with
  | .text s extra _ => .text s extra mode
  | .bad size reason => .bad size reason
  | .hold => .hold

/-- Read one piece; `final` tells that it is the last one. -/
def feed (d : Decoder) (piece : Bytes) (final : Bool) : Except Fault (List Point) × Decoder :=
  let data := d.held ++ piece
  match d.codec with
  | .utf8 => d.plainly "utf-8" (scanUtf8 final) data
  | .utf8Marked =>
    let mark : Bytes := [0xef, 0xbb, 0xbf]
    if d.begun then d.plainly "utf-8" (scanUtf8 final) data
    else if data.length < 3 && data.isPrefixOf mark then (.ok [], { d with held := data })
    else
      let d := { d with begun := true }
      if mark.isPrefixOf data then d.plainly "utf-8" (scanUtf8 final) (data.drop 3)
      else d.plainly "utf-8" (scanUtf8 final) data
  | .utf16 (some order) => d.plainly (orderedName "utf-16" order) (scanUtf16 order final) data
  | .utf32 (some order) => d.plainly (orderedName "utf-32" order) (scanUtf32 order final) data
  | .utf16 none => d.feedMarked "utf-16" 2 (twoBytes · 0xfeff) (scanUtf16 · final) data
  | .utf32 none => d.feedMarked "utf-32" 4 (fourBytes · 0xfeff) (scanUtf32 · final) data
  | .utf7 => d.plainly "utf7" (Utf7.scan final) data
  | .ascii =>
    d.plainly "ascii" (scanByte "ordinal not in range(128)"
      fun b => if b < 0x80 then some (.ofNat b.toNat) else none) data
  | .latin1 | .charmap =>
    d.plainly "latin-1" (scanByte "" fun b => some (.ofNat b.toNat)) data
  | .table t =>
    d.plainly "charmap" (scanByte "character maps to <undefined>"
      fun b => (t.decode? b).map .char) data
  | .escaped false => d.plainly "unicodeescape" (Escaped.scan final) data
  | .escaped true => d.plainly "rawunicodeescape" (Escaped.scanRaw final) data
  | .punycode => (Punycode.decode piece, d)
  | .hostName => d.finish (HostLabel.unfeed data final)
  | .wide w => d.moded w.name (inMode (w.scan final)) data
  | .iso2022 e => d.moded e.name (e.scan final) data
  | .tilde => d.moded "hz" (Tilde.scan final) data
  | .transform t => (.error (t.fault false), d)
  | .undefined => (.error .undefined, d)

end Decoder

end FileDepot.Encoding
