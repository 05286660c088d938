import FileDepot.Bytes.Basic

/-!
# Base 64

Three bytes are written as four characters of an alphabet of 64; one or two bytes at the end are
written as two or three characters, filled up with `=`. Reading is strict: any other character, and
padding anywhere but at the end, is refused.
-/

namespace FileDepot.Bytes.Base64

/-- Why a text is not a base 64 text. -/
inductive Fault where
  /-- the text begins with padding -/
  | leadingPadding
  /-- a character is neither in the alphabet nor padding -/
  | foreignCharacter
  /-- a character of the alphabet follows padding -/
  | brokenPadding
  /-- something follows the padding that ends the text -/
  | dataAfterPadding
  /-- one character is left over after `count - 1` characters -/
  | looseCharacter (count : Nat)
  /-- the last group is not filled up -/
  | missingPadding
  deriving DecidableEq, Repr

/-- The wording of a fault. -/
def Fault.message : Fault → String
  | .leadingPadding => "Leading padding not allowed"
  | .foreignCharacter => "Only base64 data is allowed"
  | .brokenPadding => "Discontinuous padding not allowed"
  | .dataAfterPadding => "Excess data after padding"
  | .looseCharacter count =>
    "Invalid base64-encoded string: number of data characters (" ++ toString count ++
      ") cannot be 1 more than a multiple of 4"
  | .missingPadding => "Incorrect padding"

/-- The character for a value below 64. -/
def digit (n : Nat) : Char :=
  if n < 26 then Char.ofNat (65 + n)
  else if n < 52 then Char.ofNat (71 + n)
  else if n < 62 then Char.ofNat (n - 4)
  else if n = 62 then '+' else '/'

/-- The value of a character of the alphabet. -/
def value? (c : Char) : Option Nat :=
  let n := c.toNat
  if 65 ≤ n && n ≤ 90 then some (n - 65)
  else if 97 ≤ n && n ≤ 122 then some (n - 71)
  else if 48 ≤ n && n ≤ 57 then some (n + 4)
  else if c = '+' then some 62
  else if c = '/' then some 63
  else none

/-- The characters for some bytes. -/
def encodeChars : Bytes → List Char
  | a :: b :: c :: rest =>
    let n := a.toNat * 65536 + b.toNat * 256 + c.toNat
    digit (n / 262144) :: digit (n / 4096 % 64) :: digit (n / 64 % 64) :: digit (n % 64) ::
      encodeChars rest
  | [a, b] =>
    let n := a.toNat * 1024 + b.toNat * 4
    [digit (n / 4096), digit (n / 64 % 64), digit (n % 64), '=']
  | [a] =>
    let n := a.toNat * 16
    [digit (n / 64), digit (n % 64), '=', '=']
  | [] => []

/-- The text for some bytes. -/
def encode (data : Bytes) : String :=
  String.ofList (encodeChars data)

/-- How far the group of four under way is read. -/
structure Group where
  /-- how many of its characters are read -/
  place : Nat
  /-- the bits read that do not fill a byte yet -/
  left : Nat
  /-- how many padding characters stand at its end -/
  pads : Nat
  /-- whether padding was seen at all -/
  padded : Bool
  deriving DecidableEq, Repr

/-- The group after one more character of value `v`, and the byte it completes. -/
def Group.take (g : Group) (v : Nat) : Group × Option UInt8 :=
  match g.place with
  | 0 => (⟨1, v, 0, g.padded⟩, none)
  | 1 => (⟨2, v % 16, 0, g.padded⟩, some (UInt8.ofNat (g.left * 4 + v / 16)))
  | 2 => (⟨3, v % 4, 0, g.padded⟩, some (UInt8.ofNat (g.left * 16 + v / 4)))
  | _ => (⟨0, 0, 0, g.padded⟩, some (UInt8.ofNat (g.left * 64 + v)))

/-- Read the rest of a text. `out` holds the bytes read so far, latest first. -/
def decodeFrom (g : Group) (out : Bytes) : List Char → Except Fault Bytes
  | [] =>
    match g.place with
    | 0 => .ok out.reverse
    | 1 => .error (.looseCharacter (out.length / 3 * 4 + 1))
    | _ => .error .missingPadding
  | c :: rest =>
    if c = '=' then
      if g.place ≥ 2 then
        if g.place + (g.pads + 1) ≥ 4 then
          if rest.isEmpty then .ok out.reverse else .error .dataAfterPadding
        else decodeFrom ⟨g.place, g.left, g.pads + 1, true⟩ out rest
      else decodeFrom ⟨g.place, g.left, g.pads, true⟩ out rest
    else match value? c with
      | none => .error .foreignCharacter
      | some v =>
        if g.padded then .error .brokenPadding
        else match g.take v with
          | (g', some b) => decodeFrom g' (b :: out) rest
          | (g', none) => decodeFrom g' out rest

/-- Read a base 64 text. -/
def decode (s : List Char) : Except Fault Bytes :=
  if s.head? = some '=' then .error .leadingPadding else decodeFrom ⟨0, 0, 0, false⟩ [] s

end FileDepot.Bytes.Base64
