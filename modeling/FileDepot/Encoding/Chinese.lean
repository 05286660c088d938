import FileDepot.Encoding.Sets.Big5
import FileDepot.Encoding.Sets.Gb2312
import FileDepot.Encoding.WideTable

/-!
# Chinese encodings

GBK fills the places around GB 2312 with the other ideographs in their order, and GB 18030 reaches
every character with codes of four bytes. Code page 950 and the Hong Kong supplement extend Big5.
-/

namespace FileDepot.Encoding

namespace Sets

/-- GB 2312. -/
def gb2312 : CodedSet := .ofLines gb2312Lines

/-- Codes of two bytes from a first byte on, with the second bytes from 40 up to `last`, without 7f. -/
def gbkCodes (lead leads last : Nat) : List Nat :=
  (List.range leads).flatMap fun i =>
    ((List.range (last - 0x3f)).filter (· ≠ 0x3f)).map fun j => (lead + i) * 256 + 0x40 + j

/-- The ideographs that GB 2312 lacks, in their order. -/
def otherIdeographs : Thunk (List Char) :=
  .mk fun _ => ((List.range 20902).map fun i => Char.ofNat (0x4e00 + i)).filter fun c => (gb2312.code? c).isNone

/-- GBK. -/
def gbk : CodedSet :=
  (CodedSet.ofList (.mk fun _ => CodedSet.readLines gbkLines ++
    (gbkCodes 0x81 32 0xfe ++ gbkCodes 0xaa 85 0xa0).zip otherIdeographs.get)).orElse
    (gb2312.raised.readOnly ['・'])

/-- The codes of two bytes of GB 18030. -/
def gb18030 : CodedSet :=
  gbk.orElse (.ofList (.mk fun _ =>
    CodedSet.readLines gb18030Lines ++ CodedSet.readRuns (Text.readNumbers gb18030Runs)))

/-- The characters below 10000 that GB 18030 writes with four bytes, by their order. -/
def gb18030Others : CodedSet :=
  .ofList (.mk fun _ =>
    let chars := ((List.range 0x10000).drop 0x80).filterMap fun n =>
      if 0xd800 ≤ n && n < 0xe000 then none
      else
        let c := Char.ofNat n
        if (gb18030.code? c).isSome then none else some c
    chars.zipIdx.map fun (c, i) => (i, c))

/-- Big5. Of several codes of a character the last one is written. -/
def big5 : CodedSet := .ofList (.mk fun _ => (CodedSet.readLines big5Lines).reverse)

/-- The Hong Kong supplement. Of several codes of a character the last one is written. -/
def hkscs : CodedSet := .ofList (.mk fun _ => (CodedSet.readLines hkscsLines).reverse)

end Sets

open Sets

namespace WideTable

/-- GB 2312 with raised rows. -/
def eucCn : WideTable := ofPairs gb2312.raised

/-- GBK. -/
def gbk : WideTable := ofPairs Sets.gbk

/-- GB 18030, as far as one or two bytes go. -/
def gb18030 : WideTable := ofPairs Sets.gb18030

/-- Big5. -/
def big5 : WideTable := ofPairs Sets.big5

/-- Code page 950: its own characters, and those of Big5. It writes all characters of Big5 in their
places, also where it reads others, but for two that have another place here. -/
def windows950 : WideTable :=
  ofPairs ((((CodedSet.ofLines Sets.windows950Lines).overlay Sets.big5).readOnly
    ['／', '＼']).writeAlso [('／', 0xa1fe), ('＼', 0xa240)])

/-- Big5 with the Hong Kong supplement. Kana and some signs are those of the supplement. -/
def big5Hkscs : WideTable :=
  { ofPairs (Sets.hkscs.orElse (Sets.big5.without fun n => 0xc6a1 ≤ n && n < 0xc8ff)) with
    combined := [(0x8862, 'Ê', '\u0304'), (0x8864, 'Ê', '\u030c'), (0x88a3, 'ê', '\u0304'),
      (0x88a5, 'ê', '\u030c')] }

end WideTable

/-! ## Codes of four bytes -/

namespace FourBytes

/-- The place of four bytes in their order. -/
def place (a b c d : UInt8) : Nat :=
  (((a.toNat - 0x81) * 10 + (b.toNat - 0x30)) * 126 + (c.toNat - 0x81)) * 10 + (d.toNat - 0x30)

/-- The four bytes at a place. -/
def ofPlace (n : Nat) : Bytes :=
  [UInt8.ofNat (0x81 + n / 12600), UInt8.ofNat (0x30 + n / 1260 % 10),
    UInt8.ofNat (0x81 + n / 10 % 126), UInt8.ofNat (0x30 + n % 10)]

/-- Whether a byte is a digit. -/
def isDigit (b : UInt8) : Bool := 0x30 ≤ b && b ≤ 0x39

/-- Whether a byte is the first or third one of four. -/
def isHigh (b : UInt8) : Bool := 0x81 ≤ b && b ≤ 0xfe

/-- The place from which on the characters from 10000 on stand. -/
def farPlace : Nat := 189000

/-- The character at a place. -/
def char? (n : Nat) : Option Char :=
  if n < farPlace then Sets.gb18030Others.char? n
  else if n - farPlace < 0x100000 then some (Char.ofNat (0x10000 + (n - farPlace)))
  else none

/-- The four bytes of a character that has no shorter code. -/
def bytes? (c : Char) : Option Bytes :=
  if 0x10000 ≤ c.toNat then some (ofPlace (c.toNat - 0x10000 + farPlace))
  else (Sets.gb18030Others.code? c).map ofPlace

/-- Scan for a character of GB 18030. -/
def scan (final : Bool) : PlainScan
  | a :: b :: rest =>
    if a < 0x80 || !isDigit b then WideTable.gb18030.scan final (a :: b :: rest)
    else match rest with
      | c :: d :: _ =>
        if isHigh a && isHigh c && isDigit d then
          match char? (place a b c d) with
          | some c => .text [.char c] 3 ()
          | none => .bad 1 illegalSequence
        else .bad 1 illegalSequence
      | _ => .short final (2 + rest.length) incompleteSequence
  | data => WideTable.gb18030.scan final data

end FourBytes

end FileDepot.Encoding
