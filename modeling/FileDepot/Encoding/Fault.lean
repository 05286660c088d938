import FileDepot.Text.Numerals
import FileDepot.Text.Point

/-!
# Faults of encoding and decoding

A text that an encoding cannot write, or bytes that it cannot read, are reported with the name of the
encoding, the place of the trouble and its reason.
-/

namespace FileDepot.Encoding

/-- How an encoding that works on bytes refuses text. -/
inductive BytesWanted where
  /-- it asks what the text is made of -/
  | asked
  /-- it just needs bytes -/
  | required
  deriving DecidableEq, Repr

/-- Why a text cannot be encoded, or bytes cannot be decoded. -/
inductive Fault where
  /-- the code points at places `start` up to `stop`, of which `first` is the first -/
  | encode (codec : String) (first : Point) (start stop : Nat) (reason : String)
  /-- the bytes at places `start` up to `stop`, of which `first` is the first -/
  | decode (codec : String) (first : UInt8) (start stop : Nat) (reason : String)
  /-- a text in units of `bits` bits does not begin with the mark that tells their byte order -/
  | noOrderMark (bits : Nat)
  /-- the encoding can write and read nothing -/
  | undefined
  /-- other trouble, by its wording -/
  | other (reason : String)
  /-- the encoding works on bytes, and is given text -/
  | bytesWanted (form : BytesWanted)
  /-- the encoding makes text of text, where bytes are needed; they were to go to a place that others
  see, or to an array -/
  | textMade (shared : Bool)
  deriving DecidableEq, Repr

/-- A code point as an escape with as many digits as it needs. -/
def escapePoint (c : Point) : String :=
  let n := c.toNat
  String.ofList <|
    if n < 0x100 then '\\' :: 'x' :: Text.hexPadded 2 n
    else if n < 0x10000 then '\\' :: 'u' :: Text.hexPadded 4 n
    else '\\' :: 'U' :: Text.hexPadded 8 n

/-- The wording of a fault. -/
def Fault.message : Fault → String
  | .encode codec first start stop reason =>
    "'" ++ codec ++ "' codec can't encode " ++
      (if stop = start + 1 then
        "character '" ++ escapePoint first ++ "' in position " ++ toString start
      else "characters in position " ++ toString start ++ "-" ++ toString (stop - 1)) ++
      ": " ++ reason
  | .decode codec first start stop reason =>
    "'" ++ codec ++ "' codec can't decode " ++
      (if stop = start + 1 then
        "byte 0x" ++ String.ofList (Text.hexPadded 2 first.toNat) ++ " in position " ++
          toString start
      else "bytes in position " ++ toString start ++ "-" ++ toString (stop - 1)) ++
      ": " ++ reason
  | .noOrderMark bits => "UTF-" ++ toString bits ++ " stream does not start with BOM"
  | .undefined => "undefined encoding"
  | .other reason => reason
  | .bytesWanted .asked => "expected bytes-like object, not str"
  | .bytesWanted .required => "a bytes-like object is required, not 'str'"
  | .textMade true => "a bytes-like object is required, not 'str'"
  | .textMade false =>
    "can assign only bytes, buffers, or iterables of ints in range(0, 256)"

end FileDepot.Encoding
