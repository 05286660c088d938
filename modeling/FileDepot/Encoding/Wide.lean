import FileDepot.Encoding.Chinese
import FileDepot.Encoding.Japanese
import FileDepot.Encoding.Korean

/-!
# The encodings of East Asia with a fixed meaning of each byte

Each of them is a table of codes of one to three bytes. One has further codes of four bytes, and one
spells some syllables with eight.
-/

namespace FileDepot.Encoding

/-- The encodings of East Asia that do not switch between modes. -/
inductive Wide where
  /-- Big5 -/
  | big5
  /-- Big5 with the Hong Kong supplement -/
  | big5Hkscs
  /-- code page 932 -/
  | windows932
  /-- code page 949 -/
  | windows949
  /-- code page 950 -/
  | windows950
  /-- JIS X 0213 with raised rows -/
  | eucJis2004
  /-- JIS X 0213 in its first edition with raised rows -/
  | eucJisX0213
  /-- JIS X 0208 and JIS X 0212 with raised rows -/
  | eucJp
  /-- KS X 1001 with raised rows -/
  | eucKr
  /-- GB 18030 -/
  | gb18030
  /-- GB 2312 with raised rows -/
  | gb2312
  /-- GBK -/
  | gbk
  /-- composed syllables of Hangul -/
  | johab
  /-- JIS X 0208 with folded rows -/
  | shiftJis
  /-- JIS X 0213 with folded rows -/
  | shiftJis2004
  /-- JIS X 0213 in its first edition with folded rows -/
  | shiftJisX0213
  deriving DecidableEq, Repr

namespace Wide

/-- All of these encodings. -/
def all : List Wide :=
  [big5, big5Hkscs, windows932, windows949, windows950, eucJis2004, eucJisX0213, eucJp, eucKr,
    gb18030, gb2312, gbk, johab, shiftJis, shiftJis2004, shiftJisX0213]

/-- The name of an encoding. -/
def name : Wide → String
  | .big5 => "big5"
  | .big5Hkscs => "big5hkscs"
  | .windows932 => "cp932"
  | .windows949 => "cp949"
  | .windows950 => "cp950"
  | .eucJis2004 => "euc_jis_2004"
  | .eucJisX0213 => "euc_jisx0213"
  | .eucJp => "euc_jp"
  | .eucKr => "euc_kr"
  | .gb18030 => "gb18030"
  | .gb2312 => "gb2312"
  | .gbk => "gbk"
  | .johab => "johab"
  | .shiftJis => "shift_jis"
  | .shiftJis2004 => "shift_jis_2004"
  | .shiftJisX0213 => "shift_jisx0213"

/-- The table of an encoding. -/
def table : Wide → WideTable
  | .big5 => WideTable.big5
  | .big5Hkscs => WideTable.big5Hkscs
  | .windows932 => WideTable.windows932
  | .windows949 => WideTable.windows949
  | .windows950 => WideTable.windows950
  | .eucJis2004 => WideTable.eucJis2004
  | .eucJisX0213 => WideTable.eucJisX0213
  | .eucJp => WideTable.eucJp
  | .eucKr => WideTable.eucKr
  | .gb18030 => WideTable.gb18030
  | .gb2312 => WideTable.eucCn
  | .gbk => WideTable.gbk
  | .johab => WideTable.johab
  | .shiftJis => WideTable.shiftJis
  | .shiftJis2004 => WideTable.shiftJis2004
  | .shiftJisX0213 => WideTable.shiftJisX0213

/-- Scan for a character. -/
def scan (w : Wide) (final : Bool) (data : Bytes) : Scan Unit :=
  match w, data with
  | .gb18030, data => FourBytes.scan final data
  | .eucKr, a :: b :: rest =>
    if a == SpelledHangul.signLead && b == SpelledHangul.filler then SpelledHangul.scan final rest
    else w.table.scan final data
  | w, data => w.table.scan final data

/-- The bytes of a character, and whether the next one is written with it. No answer means that the
character must wait for the next one. -/
def write (w : Wide) (c : Char) (next : WideTable.Next) : Option (Option Bytes × Bool) :=
  match w.table.write c next, w with
  | some (none, _), .gb18030 => some (FourBytes.bytes? c, false)
  | some (none, _), .eucKr => some (SpelledHangul.bytes? c, false)
  | written, _ => written

end Wide

end FileDepot.Encoding
