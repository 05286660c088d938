import FileDepot.Encoding.Encoder

/-!
# Percent escapes

Each part of an address of the scripted network has characters that it cannot hold. They are written as
escapes of their bytes; a percent sign is never escaped, so escapes that are there already stay.
-/

namespace FileDepot.Web.Scripted

/-- Whether a printable ASCII character needs no escape in a part, given those that do. -/
def isSafe (unsafeChars : List Char) (c : Char) : Bool :=
  32 < c.toNat && c.toNat < 127 && !unsafeChars.contains c

/-- The characters of a fragment that are escaped. -/
def fragmentUnsafe : List Char := ['"', '<', '>', '\x60']

/-- The characters of a query that are escaped. -/
def queryUnsafe : List Char := ['"', '#', '<', '>']

/-- The characters of a path that are escaped. -/
def pathUnsafe : List Char := queryUnsafe ++ ['?', '\x60', '\x7b', '\x7d']

/-- The characters of a user that are escaped. -/
def userUnsafe : List Char := pathUnsafe ++ ['/', ';', '=', '@', '[', '\\', ']', '^', '|']

/-- The characters of a host that are escaped. -/
def hostUnsafe : List Char := ['#', '/', ':', '<', '>', '?', '@', '[', ']', '^']

/-- A byte as an escape. -/
def escapeByte (b : UInt8) : List Char :=
  '%' :: (Text.hexPadded 2 b.toNat).map Char.toUpper

/-- A character, escaped unless it is safe. -/
def escapeChar (unsafeChars : List Char) (c : Char) : List Char :=
  if isSafe unsafeChars c then [c] else (Encoding.utf8Bytes c).flatMap escapeByte

/-- Escape the characters that are not safe. -/
def escape (unsafeChars : List Char) (s : List Char) : List Char :=
  s.flatMap (escapeChar unsafeChars)

/-- Escape the code points that are not safe; surrogates have no bytes. -/
def escapePoints (unsafeChars : List Char) (s : List Point) : Except Encoding.Fault (List Char) :=
  match s.find? Point.isSurrogate with
  | some p => .error (.encode "utf-8" p 0 1 Encoding.surrogateReason)
  | none => .ok (escape unsafeChars (s.filterMap Point.char?))

/-! ## Reading escapes -/

/-- The bytes of an ASCII text with its escapes read. A percent sign that begins no escape stays. -/
def unescapedBytes : List Char → Bytes
  | '%' :: c :: d :: rest =>
    match Text.hexValue? c, Text.hexValue? d with
    | some a, some b => UInt8.ofNat (16 * a + b) :: unescapedBytes rest
    | _, _ => 0x25 :: unescapedBytes (c :: d :: rest)
  | c :: rest => UInt8.ofNat c.toNat :: unescapedBytes rest
  | [] => []

/-- The text of some bytes, of which `skip` belong to what was found before; bytes that are no text are
replaced by a mark. -/
def readBytes (skip : Nat) : Bytes → List Point
  | [] => []
  | b :: rest =>
    match skip with
    | skip + 1 => readBytes skip rest
    | 0 =>
      match Encoding.scanUtf8 true (b :: rest) with
      | .text s extra _ => s ++ readBytes extra rest
      | .bad size _ => .char '\ufffd' :: readBytes (size - 1) rest
      | .hold => readBytes 0 rest

/-- An ASCII text with its escapes read. -/
def unescape (s : List Char) : List Point := readBytes 0 (unescapedBytes s)

end FileDepot.Web.Scripted
