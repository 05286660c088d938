import FileDepot.Encoding.Sets.JisX0208
import FileDepot.Encoding.Sets.JisX0212
import FileDepot.Encoding.Sets.JisX0213
import FileDepot.Encoding.Sets.Windows932
import FileDepot.Encoding.WideTable

/-!
# Japanese encodings

The sets of JIS are grids of 94 rows. The encodings of one family raise both numbers of a place by 80;
those of the other fold two rows into one, to leave room for half-wide Katakana.
-/

namespace FileDepot.Encoding

namespace Sets

/-- JIS X 0208. -/
def jisX0208 : CodedSet := .ofLines jisX0208Lines

/-- JIS X 0212. -/
def jisX0212 : CodedSet := .ofLines jisX0212Lines

/-- What the first plane of JIS X 0213 has beyond JIS X 0208. -/
def jisX0213First : CodedSet := .ofLines jisX0213FirstLines

/-- The second plane of JIS X 0213. -/
def jisX0213Second : CodedSet := .ofLines jisX0213SecondLines

/-- The codes of the first plane of JIS X 0213 for two characters in a row. -/
def jisX0213Combined : List (Nat × Char × Char) :=
  [(0x2477, 'か', '\u309a'), (0x2478, 'き', '\u309a'), (0x2479, 'く', '\u309a'),
    (0x247a, 'け', '\u309a'), (0x247b, 'こ', '\u309a'), (0x2577, 'カ', '\u309a'),
    (0x2578, 'キ', '\u309a'), (0x2579, 'ク', '\u309a'), (0x257a, 'ケ', '\u309a'),
    (0x257b, 'コ', '\u309a'), (0x257c, 'セ', '\u309a'), (0x257d, 'ツ', '\u309a'),
    (0x257e, 'ト', '\u309a'), (0x2678, 'ㇷ', '\u309a'), (0x2b44, 'æ', '\u0300'),
    (0x2b48, 'ɔ', '\u0300'), (0x2b49, 'ɔ', '\u0301'), (0x2b4a, 'ʌ', '\u0300'),
    (0x2b4b, 'ʌ', '\u0301'), (0x2b4c, 'ə', '\u0300'), (0x2b4d, 'ə', '\u0301'),
    (0x2b4e, 'ɚ', '\u0300'), (0x2b4f, 'ɚ', '\u0301'), (0x2b65, '˩', '˥'), (0x2b66, '˥', '˩')]

/-- The codes that the first plane of JIS X 0213 got in its second edition. -/
def jisX0213Added : List Nat :=
  [0x2e21, 0x2f7e, 0x4f54, 0x4f7e, 0x7427, 0x7e7a, 0x7e7b, 0x7e7c, 0x7e7d, 0x7e7e]

/-- The first plane of JIS X 0213 in its first edition, without JIS X 0208. -/
def jisX0213FirstOld : CodedSet := jisX0213First.without jisX0213Added.contains

/-- The second plane of JIS X 0213 in its first edition: one place has another form of a character. -/
def jisX0213SecondOld : CodedSet :=
  (CodedSet.block 0x7d3b 0x9b1d 1).orElse (jisX0213Second.without (· = 0x7d3b))

end Sets

open Sets

namespace WideTable

/-- Codes of two characters with other numbers. -/
def respellCombined (outer : Nat → Nat) (codes : List (Nat × Char × Char)) :
    List (Nat × Char × Char) :=
  codes.map fun code => (outer code.1, code.2)

/-! ## Raised rows -/

/-- Half-wide Katakana after the byte 8e, for encodings with raised rows. -/
def markedKatakana : CodedSet := halfKatakana 0x8ea1

/-- Two signs that are read as characters of ASCII but written here alone. -/
def romanByte? (c : Char) : Option UInt8 :=
  if c = '¥' then some 0x5c else if c = '‾' then some 0x7e else asciiByte? c

/-- JIS X 0208 and JIS X 0212 with raised rows. -/
def eucJp : WideTable :=
  { ofPairs (markedKatakana.orElse jisX0208.raised) with
    byte? := romanByte?
    triples := some jisX0212.raised }

/-- JIS X 0213 with raised rows, from its two planes. Its tilde is a wide one. -/
def eucJis (first second : CodedSet) : WideTable :=
  { ofPairs (markedKatakana.orElse
      ((CodedSet.block 0x2232 0xff5e 1).orElse (first.orElse jisX0208)).raised) with
    triples := some (second.orElse jisX0212).raised
    combined := respellCombined (· + 0x8080) jisX0213Combined }

/-- JIS X 0213 in its second edition, with raised rows. -/
def eucJis2004 : WideTable := eucJis jisX0213First jisX0213Second

/-- JIS X 0213 in its first edition, with raised rows. -/
def eucJisX0213 : WideTable :=
  { eucJis jisX0213FirstOld jisX0213SecondOld with
    withdrawn := jisX0213Added.map (· + 0x8080) }

/-! ## Folded rows -/

/-- The character of a byte alone, for encodings with folded rows. -/
def romanOrKatakana? (b : UInt8) : Option Char :=
  (ascii? b).or ((halfKatakana 0xa1).char? b.toNat)

/-- The byte of a sign of half-wide Katakana, for encodings with folded rows. -/
def katakanaByte? (c : Char) : Option UInt8 := ((halfKatakana 0xa1).code? c).map UInt8.ofNat

/-- Whether a byte begins a code with folded rows, of which `last` is the last first byte. -/
def isFoldedLead (last b : UInt8) : Bool := (0x81 ≤ b && b < 0xa0) || (0xe0 ≤ b && b ≤ last)

/-- JIS X 0208 with folded rows. -/
def shiftJis : WideTable :=
  { ofPairs jisX0208.folded with
    lone? := romanOrKatakana?
    byte? := fun c => (romanByte? c).or (katakanaByte? c)
    isLead := isFoldedLead 0xea }

/-- The four bytes of code page 932 that stand for private characters alone. -/
def lonePrivate : CodedSet := (CodedSet.block 0xa0 0xf8f0 1).orElse (.block 0xfd 0xf8f1 3)

/-- The places for private characters in code page 932. -/
def privateFolded : CodedSet :=
  (CodedSet.block 0 0xe000 1880).respell
    (fun n =>
      let trail := n % 256
      if 0xf000 ≤ n && n < 0xfa00 && 0x40 ≤ trail && trail ≠ 0x7f && trail ≤ 0xfc then
        some ((n / 256 - 0xf0) * 188 + (if trail < 0x80 then trail - 0x40 else trail - 0x41))
      else none)
    (fun place =>
      let trail := place % 188
      (0xf0 + place / 188) * 256 + (if trail < 0x3f then trail + 0x40 else trail + 0x41))

/-- Code page 932: its own characters, those of JIS X 0208, and private ones. It writes all characters
of JIS X 0208 in their places, also where it reads others. -/
def windows932 : WideTable :=
  { ofPairs (((CodedSet.ofLines windows932Lines).overlay jisX0208.folded).orElse privateFolded) with
    lone? := fun b =>
      if b == 0x80 then some '\x80' else (romanOrKatakana? b).or (lonePrivate.char? b.toNat)
    byte? := fun c =>
      if c = '\x80' then some 0x80
      else ((asciiByte? c).or (katakanaByte? c)).or ((lonePrivate.code? c).map UInt8.ofNat)
    isLead := isFoldedLead 0xfc }

/-- The rows of the second plane of JIS X 0213, which follow those of the first one when folded. -/
def secondPlaneRow (row : Nat) : Nat :=
  if 0x67 ≤ row then row + 7 else if 0x63 ≤ row || row = 0x5f then row - 0x37 else row - 0x3d

/-- The second plane of JIS X 0213 below the first one: its rows go on where those end. -/
def belowFirst (second : CodedSet) : CodedSet :=
  let rows := (List.range 26).map fun i => (0x5e + i, secondPlaneRow (0x5e + i))
  second.respell
    (fun n => (rows.lookup (n / 256 - 0x21)).map fun row => row * 256 + n % 256)
    (fun n =>
      match rows.find? fun r => r.2 == n / 256 with
      | some r => (r.1 + 0x21) * 256 + n % 256
      | none => n)

/-- The byte of a character alone: a yen sign and an overline take two places of ASCII. -/
def yenByte? (c : Char) : Option UInt8 :=
  if c = '\\' || c = '~' then none else romanByte? c

/-- JIS X 0213 with folded rows, from its two planes. The backslash of JIS X 0208 is a plain one. -/
def shiftJis0213 (first second : CodedSet) : WideTable :=
  { ofPairs ((CodedSet.block 0x2140 0x5c 1).orElse
      (((first.orElse jisX0208).orElse (belowFirst second)).readOnly ['＼'])).folded with
    lone? := fun b =>
      if b == 0x5c then some '¥' else if b == 0x7e then some '‾' else romanOrKatakana? b
    byte? := fun c => (yenByte? c).or (katakanaByte? c)
    isLead := isFoldedLead 0xfc
    combined := respellCombined CodedSet.folded.fold jisX0213Combined }

/-- JIS X 0213 in its second edition, with folded rows. -/
def shiftJis2004 : WideTable := shiftJis0213 jisX0213First jisX0213Second

/-- JIS X 0213 in its first edition, with folded rows. -/
def shiftJisX0213 : WideTable :=
  { shiftJis0213 jisX0213FirstOld jisX0213SecondOld with
    withdrawn := jisX0213Added.map CodedSet.folded.fold }

end WideTable

end FileDepot.Encoding
