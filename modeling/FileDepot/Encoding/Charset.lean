import FileDepot.Encoding.Decoder

/-!
# Encodings as asked for

A `Charset` is an encoding by the label that somebody gave it. The label may be unknown, or name
something that does not encode text; this shows only when the encoding is used.
-/

namespace FileDepot.Encoding

/-- An encoding as somebody asked for it. -/
structure Charset where
  /-- the label as it was given -/
  label : String
  /-- the encoding that it stands for -/
  codec? : Option Codec
  deriving DecidableEq, Repr

namespace Charset

/-- The charset of a label. -/
def ofLabel (label : String) : Charset := ⟨label, Codec.ofLabel? label⟩

/-- The charset of an encoding, under its canonical name. -/
def ofCodec (codec : Codec) : Charset := ⟨codec.name, some codec⟩

/-- Why a charset cannot be used. -/
inductive Fault where
  /-- the label is unknown -/
  | unknown (label : String)
  /-- the label holds a NUL character -/
  | nulInLabel
  /-- the encoding does not encode text -/
  | notText (label : String)
  deriving DecidableEq, Repr

/-- The first characters that have at most `room` bytes; one that has more is replaced by a mark. -/
def shortened (room : Nat) : List Char → List Char
  | [] => []
  | c :: rest =>
    let size := (utf8Bytes c).length
    if size ≤ room then c :: shortened (room - size) rest
    else if room = 0 then [] else ['\ufffd']

/-- How many bytes of a label are shown where it is shortened. -/
def shownBytes : Nat := 400

/-- The wording of a fault. -/
def Fault.message : Fault → String
  | .unknown label => "unknown encoding: " ++ label
  | .nulInLabel => "embedded null character"
  | .notText label =>
    "'" ++ String.ofList (shortened shownBytes label.toList) ++
      "' is not a text encoding; use codecs.open() to handle arbitrary codecs"

/-- The encoding, for writing text. -/
def require (c : Charset) : Except Fault Codec :=
  if c.label.contains '\x00' then .error .nulInLabel
  else match c.codec? with
    | some codec => .ok codec
    | none => .error (.unknown c.label)

/-- The label that stands for the encoding of the place, when a file is read as text. -/
def placeLabel : String := "locale"

/-- The encoding, for reading a file as text. -/
def requireText (c : Charset) : Except Fault Codec := do
  if c.label = placeLabel then return .utf8
  let codec ← c.require
  if codec.isText then .ok codec else .error (.notText c.label)

end Charset

end FileDepot.Encoding
