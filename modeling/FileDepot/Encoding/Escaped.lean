import FileDepot.Encoding.Scan

/-!
# Text with escapes

Two encodings write what they cannot write otherwise as a backslash, a letter and digits in base
sixteen. One has escapes for control characters and the backslash, too, and writes only ASCII; in the
other the characters below 100 stand for themselves, and a backslash that begins no escape does, too.
-/

namespace FileDepot.Encoding.Escaped

open FileDepot.Text

/-- Characters as bytes, for characters below 100. -/
def toBytes (s : List Char) : Bytes := s.map fun c => UInt8.ofNat c.toNat

/-- A code point as an escape with four digits, or eight if it needs them. -/
def wideEscape (n : Nat) : Bytes :=
  toBytes (if n < 0x10000 then '\\' :: 'u' :: hexPadded 4 n else '\\' :: 'U' :: hexPadded 8 n)

/-- Write a code point with all escapes. -/
def writePoint (p : Point) : Bytes :=
  let n := p.toNat
  if n = 9 then [0x5c, 0x74]
  else if n = 10 then [0x5c, 0x6e]
  else if n = 13 then [0x5c, 0x72]
  else if n = 0x5c then [0x5c, 0x5c]
  else if 32 ≤ n && n < 127 then [UInt8.ofNat n]
  else if n < 0x100 then toBytes ('\\' :: 'x' :: hexPadded 2 n)
  else wideEscape n

/-- Write a code point with wide escapes only. -/
def writeRawPoint (p : Point) : Bytes :=
  if p.toNat < 0x100 then [UInt8.ofNat p.toNat] else wideEscape p.toNat

/-- The value of a byte as a digit in base sixteen. -/
def hexByte? (b : UInt8) : Option Nat := hexValue? (Char.ofNat b.toNat)

/-- Read digits in base sixteen after an escape: `wanted` of them, with `value` read so far and `size`
bytes passed, the backslash included. -/
def scanDigits (final : Bool) (truncated tooLarge : String) :
    Nat → Nat → Nat → Bytes → Scan Unit
  | 0, value, size, _ =>
    if value < 0x110000 then .point value (size - 1) else .bad size tooLarge
  | wanted + 1, value, size, data =>
    match data with
    | [] => .short final size truncated
    | b :: rest =>
      match hexByte? b with
      | some d => scanDigits final truncated tooLarge wanted (16 * value + d) (size + 1) rest
      | none => .bad size truncated

/-- Whether a byte is a digit in base eight. -/
def isOctal (b : UInt8) : Bool := 0x30 ≤ b && b ≤ 0x37

/-- Read the one to three digits of an escape in base eight. -/
def scanOctal (final : Bool) (data : Bytes) : Scan Unit :=
  let digits := (data.take 3).takeWhile isOctal
  let value := digits.foldl (fun v b => 8 * v + (b.toNat - 0x30)) 0
  if !final && digits.length < 3 && digits.length = data.length then .hold
  else .point value digits.length

/-- The escapes of a single letter, and the characters they stand for. -/
def letters : List (UInt8 × Nat) :=
  [(0x5c, 0x5c), (0x27, 0x27), (0x22, 0x22), (0x61, 7), (0x62, 8), (0x74, 9), (0x6e, 10), (0x76, 11),
    (0x66, 12), (0x72, 13)]

/-- Read an escape that gives a character by its name; no name is known here. -/
def scanName (final : Bool) (rest : Bytes) : Scan Unit :=
  let malformed := "malformed \\N character escape"
  match rest with
  | [] => .short final 2 malformed
  | b :: rest =>
    if b != 0x7b then .bad 2 malformed
    else
      let name := rest.takeWhile (· != 0x7d)
      if name.length = rest.length then .short final (3 + name.length) malformed
      else if name.isEmpty then .bad 3 malformed
      else .bad (4 + name.length) "unknown Unicode character name"

/-- The reason given when the digits of an escape break off. -/
def truncated (shape : String) : String := "truncated \\" ++ shape ++ " escape"

/-- Scan for a character or an escape of any kind. -/
def scan (final : Bool) : PlainScan
  | [] => .hold
  | a :: rest =>
    if a != 0x5c then .point a.toNat 0
    else match rest with
      | [] => .short final 1 "\\ at end of string"
      | b :: rest =>
        let illegal := "illegal Unicode character"
        if b == 0x0a then .text [] 1 ()
        else if b == 0x78 then scanDigits final (truncated "xXX") illegal 2 0 2 rest
        else if b == 0x75 then scanDigits final (truncated "uXXXX") illegal 4 0 2 rest
        else if b == 0x55 then scanDigits final (truncated "UXXXXXXXX") illegal 8 0 2 rest
        else if b == 0x4e then scanName final rest
        else if isOctal b then scanOctal final (b :: rest)
        else match letters.lookup b with
          | some n => .point n 1
          | none => .text [.ofNat 0x5c, .ofNat b.toNat] 1 ()

/-- Scan for a character or a wide escape. -/
def scanRaw (final : Bool) : PlainScan
  | [] => .hold
  | a :: rest =>
    if a != 0x5c then .point a.toNat 0
    else match rest with
      | [] => if final then .point a.toNat 0 else .hold
      | b :: rest =>
        let tooLarge := "\\Uxxxxxxxx out of range"
        if b == 0x75 then scanDigits final (truncated "uXXXX") tooLarge 4 0 2 rest
        else if b == 0x55 then scanDigits final (truncated "UXXXXXXXX") tooLarge 8 0 2 rest
        else .text [.ofNat 0x5c, .ofNat b.toNat] 1 ()

end FileDepot.Encoding.Escaped
