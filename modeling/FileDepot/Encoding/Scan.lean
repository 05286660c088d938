import FileDepot.Bytes.Basic
import FileDepot.Encoding.Fault

/-!
# Scans

A *scan* looks at the front of some bytes and finds text, a fault, or too few bytes to tell. `run`
repeats a scan over a piece of bytes. Some encodings switch between modes on the way: a scan is given
the mode it begins in and tells the mode after the text it found.
-/

namespace FileDepot.Encoding

/-- What a scan finds at the front of some bytes. -/
inductive Scan (μ : Type) where
  /-- text, made of `extra` bytes after the first, and the mode after it -/
  | text (s : List Point) (extra : Nat) (mode : μ)
  /-- a fault in the first `size` bytes, that no later byte can mend -/
  | bad (size : Nat) (reason : String)
  /-- bytes that only later bytes can decide -/
  | hold
  deriving DecidableEq, Repr

/-- How a run over some bytes ends: the text and the bytes held back, or a fault; and the mode. -/
abbrev Scanned (μ : Type) := Except Fault (List Point × Bytes) × μ

/-- Repeat a scan over some bytes, of which `extra` still belong to the last text. `out` holds the
pieces found so far, latest first. -/
def run {μ : Type} (codec : String) (scan : μ → Bytes → Scan μ) (mode : μ) (extra place : Nat)
    (out : List (List Point)) : Bytes → Scanned μ
  | [] => (.ok (out.reverse.flatten, []), mode)
  | b :: rest =>
    match extra with
    | extra + 1 => run codec scan mode extra (place + 1) out rest
    | 0 =>
      match scan mode (b :: rest) with
      | .text s extra mode => run codec scan mode extra (place + 1) (s :: out) rest
      | .bad size reason => (.error (.decode codec b place (place + size) reason), mode)
      | .hold => (.ok (out.reverse.flatten, b :: rest), mode)

/-- A scan without modes. -/
abbrev PlainScan := Bytes → Scan Unit

namespace Scan

/-- One code point, by its number. -/
def point (n extra : Nat) : Scan Unit := .text [.ofNat n] extra ()

/-- Too few bytes: later ones may come, or the data ends with a fault in the first `size` bytes. -/
def short {μ : Type} (final : Bool) (size : Nat) (reason : String) : Scan μ :=
  if final then .bad size reason else .hold

end Scan

/-! ## One to four bytes -/

/-- Whether a byte continues a character. -/
def isContinuation (b : UInt8) : Bool := 0x80 ≤ b && b < 0xc0

/-- The six bits of a byte that continues a character. -/
def low6 (b : UInt8) : Nat := b.toNat - 0x80

/-- Whether `b` may follow the first byte `a` of a character of three or four bytes: too small a
number, a surrogate, or too large a number is refused here. -/
def mayFollow (a b : UInt8) : Bool :=
  isContinuation b && !(a == 0xe0 && b < 0xa0) && !(a == 0xed && 0xa0 ≤ b) &&
    !(a == 0xf0 && b < 0x90) && !(a == 0xf4 && 0x90 ≤ b)

/-- The reason given when a byte does not continue a character. -/
def badContinuation : String := "invalid continuation byte"

/-- The reason given when the data ends inside a character. -/
def endOfData : String := "unexpected end of data"

/-- Scan for a character of one to four bytes. -/
def scanUtf8 (final : Bool) : PlainScan
  | [] => .hold
  | a :: rest =>
    if a < 0x80 then .point a.toNat 0
    else if a < 0xc2 then .bad 1 "invalid start byte"
    else if a < 0xe0 then
      match rest with
      | b :: _ =>
        if isContinuation b then .point ((a.toNat - 0xc0) * 64 + low6 b) 1
        else .bad 1 badContinuation
      | [] => .short final 1 endOfData
    else if a < 0xf0 then
      match rest with
      | [] => .short final 1 endOfData
      | [b] =>
        if mayFollow a b then .short final 2 endOfData
        else if a == 0xed && isContinuation b then .short final 1 badContinuation
        else .bad 1 badContinuation
      | b :: c :: _ =>
        if !mayFollow a b then .bad 1 badContinuation
        else if !isContinuation c then .bad 2 badContinuation
        else .point ((a.toNat - 0xe0) * 4096 + low6 b * 64 + low6 c) 2
    else if a < 0xf5 then
      match rest with
      | [] => .short final 1 endOfData
      | b :: rest =>
        if !mayFollow a b then .bad 1 badContinuation
        else match rest with
          | [] => .short final 2 endOfData
          | c :: rest =>
            if !isContinuation c then .bad 2 badContinuation
            else match rest with
              | [] => .short final 3 endOfData
              | d :: _ =>
                if !isContinuation d then .bad 3 badContinuation
                else
                  .point ((a.toNat - 0xf0) * 262144 + low6 b * 4096 + low6 c * 64 + low6 d) 3
    else .bad 1 "invalid start byte"

/-! ## Units of two and four bytes -/

/-- The order of the bytes of one unit. -/
inductive ByteOrder where
  /-- lowest byte first -/
  | little
  /-- highest byte first -/
  | big
  deriving DecidableEq, Repr

/-- The number that two bytes spell. -/
def twoBytesToNat (order : ByteOrder) (a b : UInt8) : Nat :=
  match order with
  | .little => a.toNat + 256 * b.toNat
  | .big => 256 * a.toNat + b.toNat

/-- Scan for a character in units of two bytes. -/
def scanUtf16 (order : ByteOrder) (final : Bool) : PlainScan
  | a :: b :: rest =>
    let n := twoBytesToNat order a b
    if n < 0xd800 || 0xe000 ≤ n then .point n 1
    else if 0xdc00 ≤ n then .bad 2 "illegal encoding"
    else match rest with
      | c :: d :: _ =>
        let m := twoBytesToNat order c d
        if 0xdc00 ≤ m && m < 0xe000 then .text [Point.joined n m] 3 ()
        else .bad 2 "illegal UTF-16 surrogate"
      | _ => .short final (2 + rest.length) endOfData
  | left => .short final left.length "truncated data"

/-- Scan for a character in units of four bytes. -/
def scanUtf32 (order : ByteOrder) (final : Bool) : PlainScan
  | a :: b :: c :: d :: _ =>
    let n := match order with
      | .little => twoBytesToNat .little a b + 65536 * twoBytesToNat .little c d
      | .big => 65536 * twoBytesToNat .big a b + twoBytesToNat .big c d
    if 0xd800 ≤ n && n < 0xe000 then
      .bad 4 "code point in surrogate code point range(0xd800, 0xe000)"
    else if 0x110000 ≤ n then .bad 4 "code point not in range(0x110000)"
    else .point n 3
  | left => .short final left.length "truncated data"

/-- Scan for a character of one byte. -/
def scanByte (reason : String) (point? : UInt8 → Option Point) : PlainScan
  | b :: _ =>
    match point? b with
    | some p => .text [p] 0 ()
    | none => .bad 1 reason
  | [] => .hold

end FileDepot.Encoding
