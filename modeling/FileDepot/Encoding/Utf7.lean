import FileDepot.Bytes.Base64
import FileDepot.Encoding.Scan

/-!
# Seven-bit text

Characters beyond a set of direct ones are written in *sections*: a plus sign, the units of two bytes
in base 64, and a hyphen where the section could not be told to end otherwise. A plus sign outside a
section is followed by a hyphen.
-/

namespace FileDepot.Encoding.Utf7

open FileDepot.Bytes

/-! ## Writing -/

/-- Whether a character is written as itself. -/
def isDirect (n : Nat) : Bool :=
  n = 9 || n = 10 || n = 13 || (32 ≤ n && n < 126 && n ≠ 0x2b && n ≠ 0x5c)

/-- Whether a byte is a digit of base 64. -/
def isDigit (b : UInt8) : Bool := (Base64.value? (Char.ofNat b.toNat)).isSome

/-- The value of a digit of base 64. -/
def value (b : UInt8) : Nat := (Base64.value? (Char.ofNat b.toNat)).getD 0

/-- The byte of a digit of base 64. -/
def digit (n : Nat) : UInt8 := UInt8.ofNat (Base64.digit (n % 64)).toNat

/-- Bits that wait to fill a digit. -/
structure Bits where
  /-- how many there are -/
  count : Nat
  /-- the number they spell -/
  value : Nat
  deriving DecidableEq, Repr

/-- Add a unit of sixteen bits: the digits that it fills, and the bits that are left. -/
def Bits.push (b : Bits) (unit : Nat) : Bytes × Bits :=
  let value := b.value * 65536 + unit
  match b.count with
  | 0 => ([digit (value / 1024), digit (value / 16)], ⟨4, value % 16⟩)
  | 4 => ([digit (value / 16384), digit (value / 256), digit (value / 4)], ⟨2, value % 4⟩)
  | _ => ([digit (value / 4096), digit (value / 64), digit value], ⟨0, 0⟩)

/-- The last digit of a section. -/
def Bits.rest (b : Bits) : Bytes :=
  match b.count with
  | 0 => []
  | 4 => [digit (b.value * 4)]
  | _ => [digit (b.value * 16)]

/-- The units of two bytes of a code point. -/
def units (n : Nat) : List Nat :=
  if n < 0x10000 then [n]
  else [0xd800 + (n - 0x10000) / 1024, 0xdc00 + (n - 0x10000) % 1024]

/-- Write one code point; `section?` holds the bits of an open section. -/
def writePoint (section? : Option Bits) (p : Point) : Bytes × Option Bits :=
  let n := p.toNat
  match section?, isDirect n with
  | some bits, true =>
    let close : Bytes := if isDigit (UInt8.ofNat n) || n = 0x2d then [0x2d] else []
    (bits.rest ++ close ++ [UInt8.ofNat n], none)
  | none, true => ([UInt8.ofNat n], none)
  | none, false =>
    if n = 0x2b then ([0x2b, 0x2d], none)
    else
      let (digits, bits) := extend ⟨0, 0⟩ n
      (0x2b :: digits, some bits)
  | some bits, false =>
    let (digits, bits) := extend bits n
    (digits, some bits)
where
  /-- Add the units of a code point to a section. -/
  extend (bits : Bits) (n : Nat) : Bytes × Bits :=
    (units n).foldl (fun (out, bits) unit => (out ++ (bits.push unit).1, (bits.push unit).2))
      ([], bits)

/-- Write a text, of which `out` holds the pieces so far, latest first. -/
def writeFrom (section? : Option Bits) (out : List Bytes) : List Point → Bytes
  | [] =>
    out.reverse.flatten ++ (match section? with
      | some bits => bits.rest ++ [0x2d]
      | none => [])
  | p :: rest =>
    let (bytes, section?) := writePoint section? p
    writeFrom section? (bytes :: out) rest

/-- Write a text. -/
def write (s : List Point) : Bytes := writeFrom none [] s

/-! ## Reading -/

/-- How far a section is read. -/
structure Section where
  /-- how many bits do not fill a unit yet -/
  count : Nat
  /-- the number that they spell -/
  value : Nat
  /-- the first half of a pair of surrogates, if one is open -/
  half : Option Nat
  /-- the code points read so far, latest first -/
  out : List Point

/-- The section before its first digit. -/
def Section.start : Section := ⟨0, 0, none, []⟩

/-- Read a unit that completes no pair. -/
def Section.alone (s : Section) (n : Nat) : Section :=
  if 0xd800 ≤ n && n < 0xdc00 then { s with half := some n }
  else { s with out := .ofNat n :: s.out }

/-- Read one unit of a section. -/
def Section.unit (s : Section) (n : Nat) : Section :=
  match s.half with
  | some half =>
    if 0xdc00 ≤ n && n < 0xe000 then
      { s with half := none, out := Point.joined half n :: s.out }
    else Section.alone { s with half := none, out := .ofNat half :: s.out } n
  | none => s.alone n

/-- Read one digit of a section. -/
def Section.digit (s : Section) (d : Nat) : Section :=
  let count := s.count + 6
  let value := s.value * 64 + d
  if count < 16 then { s with count, value }
  else
    let left := count - 16
    let low := if left = 0 then 1 else if left = 2 then 4 else 16
    ({ s with count := left, value := value % low }).unit (value / low)

/-- Whether the bits that fill no unit are a mistake, and why. -/
def Section.loose? (s : Section) : Option String :=
  if 6 ≤ s.count then some "partial character in base64 section"
  else if s.value = 0 then none
  else some "non-zero padding bits in base64 section"

/-- Read a section, of which `size` bytes are passed. -/
def scanSection (final : Bool) (s : Section) (size : Nat) : Bytes → Scan Unit
  | [] =>
    if !final then .hold
    else if s.half.isSome || s.loose?.isSome then .bad size "unterminated shift sequence"
    else .text s.out.reverse (size - 1) ()
  | b :: rest =>
    if isDigit b then scanSection final (s.digit (value b)) (size + 1) rest
    else match s.loose? with
      | some reason => .bad (size + 1) reason
      | none =>
        let out := match s.half with
          | some half => if b < 0x80 && b != 0x2b then Point.ofNat half :: s.out else s.out
          | none => s.out
        .text out.reverse (if b == 0x2d then size else size - 1) ()

/-- Scan for a character or a section. -/
def scan (final : Bool) : PlainScan
  | [] => .hold
  | a :: rest =>
    if a == 0x2b then
      match rest with
      | [] => scanSection final .start 1 []
      | b :: _ =>
        if b == 0x2d then .point 0x2b 1
        else if isDigit b then scanSection final .start 1 rest
        else .bad 2 "ill-formed sequence"
    else if a < 0x80 then .point a.toNat 0
    else .bad 1 "unexpected special character"

end FileDepot.Encoding.Utf7
