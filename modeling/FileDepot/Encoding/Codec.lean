import FileDepot.Encoding.ByteTable
import FileDepot.Encoding.Fault
import FileDepot.Encoding.Iso2022
import FileDepot.Encoding.LabelTable
import FileDepot.Encoding.Wide

/-!
# Encodings and their labels

A `Codec` is one way to write text as bytes. It is chosen by a label, where letter case does not
count and every run of characters other than ASCII letters, digits and points counts as one mark
between words.
-/

namespace FileDepot.Encoding

/-- What makes bytes of bytes, or text of text, and so writes no text as bytes. -/
inductive Transform where
  /-- base 64 -/
  | base64
  /-- sorted blocks, compressed -/
  | bz2
  /-- base 16 -/
  | hex
  /-- escapes of single bytes -/
  | quopri
  /-- letters moved by half of the alphabet -/
  | rot13
  /-- lines of base 64 with their lengths -/
  | uu
  /-- repetitions, compressed -/
  | zlib
  deriving DecidableEq, Repr

namespace Transform

/-- All transforms. -/
def all : List Transform := [base64, bz2, hex, quopri, rot13, uu, zlib]

/-- The name of a transform. -/
def name : Transform → String
  | .base64 => "base64"
  | .bz2 => "bz2"
  | .hex => "hex"
  | .quopri => "quopri"
  | .rot13 => "rot-13"
  | .uu => "uu"
  | .zlib => "zlib"

/-- What is reported when a transform is to write text; `shared` tells of the place where the bytes
were to go. -/
def fault (t : Transform) (shared : Bool) : Fault :=
  match t with
  | .base64 => .bytesWanted .asked
  | .rot13 => .textMade shared
  | _ => .bytesWanted .required

end Transform

/-- A way to write text as bytes. -/
inductive Codec where
  /-- one to four bytes for each character -/
  | utf8
  /-- the same after a mark that tells the encoding -/
  | utf8Marked
  /-- units of two bytes; without a fixed order, a mark tells it -/
  | utf16 (order : Option ByteOrder)
  /-- units of four bytes; without a fixed order, a mark tells it -/
  | utf32 (order : Option ByteOrder)
  /-- seven bits, with sections in base 64 -/
  | utf7
  /-- the characters below 128, as themselves -/
  | ascii
  /-- the characters below 256, as themselves -/
  | latin1
  /-- the same under another name -/
  | charmap
  /-- one byte for each character of a table -/
  | table (t : ByteTable)
  /-- escapes with backslashes; the raw form has wide escapes only -/
  | escaped (raw : Bool)
  /-- ASCII characters first, and then a code for the others -/
  | punycode
  /-- host names, label by label -/
  | hostName
  /-- one to eight bytes for each character -/
  | wide (w : Wide)
  /-- switching between character sets by escape sequences -/
  | iso2022 (e : Iso2022)
  /-- switching between two character sets with tildes -/
  | tilde
  /-- something that does not write text as bytes -/
  | transform (t : Transform)
  /-- an encoding that can write and read nothing -/
  | undefined
  deriving DecidableEq, Repr

namespace Codec

/-- The canonical name of an encoding. -/
def name : Codec → String
  | .utf8 => "utf-8"
  | .utf8Marked => "utf-8-sig"
  | .utf16 none => "utf-16"
  | .utf16 (some .little) => "utf-16-le"
  | .utf16 (some .big) => "utf-16-be"
  | .utf32 none => "utf-32"
  | .utf32 (some .little) => "utf-32-le"
  | .utf32 (some .big) => "utf-32-be"
  | .utf7 => "utf-7"
  | .ascii => "ascii"
  | .latin1 => "iso8859-1"
  | .charmap => "charmap"
  | .table t => t.name
  | .escaped false => "unicode-escape"
  | .escaped true => "raw-unicode-escape"
  | .punycode => "punycode"
  | .hostName => "idna"
  | .wide w => w.name
  | .iso2022 e => e.name
  | .tilde => "hz"
  | .transform t => t.name
  | .undefined => "undefined"

/-- The encodings without the tables of single bytes. -/
def fixed : List Codec :=
  [utf8, utf8Marked, utf16 none, utf16 (some .little), utf16 (some .big), utf32 none,
    utf32 (some .little), utf32 (some .big), utf7, ascii, latin1, charmap, escaped false,
    escaped true, punycode, hostName, tilde, undefined] ++
    Wide.all.map wide ++ Iso2022.all.map iso2022 ++ Transform.all.map transform

/-- The encoding with a canonical name. -/
def ofName? (name : String) : Option Codec :=
  (fixed.find? (·.name == name)).or ((ByteTable.find? name).map table)

/-- Whether the encoding writes text as bytes. -/
def isText : Codec → Bool
  | .transform _ => false
  | _ => true

end Codec

namespace Label

/-- Whether a character stands for itself in the plain form of a label. -/
def isWordChar (c : Char) : Bool :=
  c.toNat < 128 && (c.isAlphanum || c = '.')

/-- The plain form of a label. `gap` tells that a run of other characters was just passed, and
`begun` that a word was seen before it. -/
def plainFrom (begun gap : Bool) : List Char → List Char
  | [] => []
  | c :: rest =>
    if isWordChar c then
      if begun && gap then '_' :: c.toLower :: plainFrom true false rest
      else c.toLower :: plainFrom true false rest
    else plainFrom begun true rest

/-- The plain form of a label. -/
def plain (label : String) : String :=
  String.ofList (plainFrom false false label.toList)

/-- The canonical name that a label stands for. A point in a label may stand for a mark between
words, but never in an encoding's own label. -/
def find? (label : String) : Option String :=
  let key := plain label
  let undotted := String.ofList (key.toList.map fun c => if c = '.' then '_' else c)
  (aliasTable.lookup key).or <| (aliasTable.lookup undotted).or <|
    if key.contains '.' then none else ownTable.lookup key

end Label

/-- The encoding that a label stands for. -/
def Codec.ofLabel? (label : String) : Option Codec :=
  (Label.find? label).bind Codec.ofName?

end FileDepot.Encoding
