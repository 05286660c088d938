import FileDepot.Encoding.Chinese
import FileDepot.Encoding.Japanese
import FileDepot.Encoding.Korean

/-!
# Encodings that switch between character sets

Escape sequences designate a character set to one of three places, and two control characters shift
between the first two. Bytes below 80 then stand for characters of the set in use. Each such encoding
knows some sets; a text ends with ASCII in use.
-/

namespace FileDepot.Encoding

/-- The character sets that escape sequences can designate. -/
inductive Designation where
  /-- ASCII -/
  | ascii
  /-- the upper half of ISO 8859-1 -/
  | latin1
  /-- the upper half of ISO 8859-7 -/
  | greek
  /-- half-wide Katakana -/
  | katakana
  /-- ASCII with a yen sign and an overline -/
  | roman
  /-- GB 2312 -/
  | gb2312
  /-- JIS X 0208 -/
  | jisX0208
  /-- JIS X 0208 in its first edition, which counts as the same -/
  | jisX0208Old
  /-- JIS X 0212 -/
  | jisX0212
  /-- the first plane of JIS X 0213 in its first edition -/
  | jisX0213FirstOld
  /-- the first plane of JIS X 0213 -/
  | jisX0213First
  /-- the second plane of JIS X 0213, by the edition that is in use -/
  | jisX0213Second (old : Bool)
  /-- KS X 1001 -/
  | ksX1001
  deriving DecidableEq, Repr

namespace Designation

/-- Whether the characters of a set have two bytes. -/
def isWide : Designation → Bool
  | .ascii | .latin1 | .greek | .katakana | .roman => false
  | _ => true

/-- The byte that ends the escape sequence for a set. -/
def mark : Designation → UInt8
  | .latin1 | .gb2312 => 0x41
  | .ascii | .jisX0208 => 0x42
  | .ksX1001 => 0x43
  | .jisX0212 => 0x44
  | .greek => 0x46
  | .katakana => 0x49
  | .roman => 0x4a
  | .jisX0208Old => 0x40
  | .jisX0213FirstOld => 0x4f
  | .jisX0213Second _ => 0x50
  | .jisX0213First => 0x51

/-- The first plane of JIS X 0213, as far as it is read and written here. -/
def firstPlane (own : CodedSet) : CodedSet := own.orElse Sets.jisX0208

/-- ASCII with a yen sign and an overline. -/
def romanSet : CodedSet where
  char? n :=
    if n = 0x5c then some '¥' else if n = 0x7e then some '‾'
    else if n < 0x80 then some (Char.ofNat n) else none
  code? c := if c = '¥' then some 0x5c else if c = '‾' then some 0x7e else none

/-- The characters of a set in use. -/
def set : Designation → CodedSet
  | .ascii | .latin1 | .greek => .empty
  | .katakana => WideTable.halfKatakana 0x21
  | .roman => romanSet
  | .gb2312 => Sets.gb2312
  | .jisX0208 | .jisX0208Old => Sets.jisX0208
  | .jisX0212 => Sets.jisX0212
  | .jisX0213FirstOld => firstPlane Sets.jisX0213FirstOld
  | .jisX0213First => firstPlane Sets.jisX0213First
  | .jisX0213Second old => if old then Sets.jisX0213SecondOld else Sets.jisX0213Second
  | .ksX1001 => Sets.ksX1001

/-- The codes of a set for two characters in a row. -/
def combined : Designation → List (Nat × Char × Char)
  | .jisX0213FirstOld | .jisX0213First => Sets.jisX0213Combined
  | _ => []

end Designation

/-- What is designated, and what is in use. -/
structure Shift where
  /-- the set at the first place -/
  g0 : Designation
  /-- the set at the second place -/
  g1 : Designation
  /-- the set at the third place, for single characters -/
  g2 : Designation
  /-- whether the set at the second place is in use -/
  shifted : Bool
  /-- whether an escape sequence of another kind is passed -/
  through : Bool
  deriving DecidableEq, Repr

/-- The mode in which a text begins. -/
def Shift.initial : Shift := ⟨.ascii, .ascii, .ascii, false, false⟩

/-- An encoding that switches between character sets. -/
inductive Iso2022 where
  /-- for Korean -/
  | kr
  /-- for Japanese, with JIS X 0208 -/
  | jp
  /-- with JIS X 0212, too -/
  | jp1
  /-- with sets of other languages, too -/
  | jp2
  /-- with JIS X 0213 -/
  | jp2004
  /-- with JIS X 0213 in its first edition -/
  | jp3
  /-- with JIS X 0212 and half-wide Katakana -/
  | jpExt
  deriving DecidableEq, Repr

namespace Iso2022

/-- The name of an encoding. -/
def name : Iso2022 → String
  | .kr => "iso2022_kr"
  | .jp => "iso2022_jp"
  | .jp1 => "iso2022_jp_1"
  | .jp2 => "iso2022_jp_2"
  | .jp2004 => "iso2022_jp_2004"
  | .jp3 => "iso2022_jp_3"
  | .jpExt => "iso2022_jp_ext"

/-- All of these encodings. -/
def all : List Iso2022 := [.kr, .jp, .jp1, .jp2, .jp2004, .jp3, .jpExt]

/-- The sets that an encoding knows, in the order in which a character is looked for. -/
def known : Iso2022 → List Designation
  | .kr => [.ksX1001]
  | .jp => [.jisX0208, .roman, .jisX0208Old]
  | .jp1 => [.jisX0208, .jisX0212, .roman, .jisX0208Old]
  | .jp2 =>
    [.jisX0208, .jisX0212, .ksX1001, .gb2312, .roman, .jisX0208Old, .latin1, .greek]
  | .jp2004 => [.jisX0208, .jisX0213First, .jisX0213Second false]
  | .jp3 => [.jisX0208, .jisX0213FirstOld, .jisX0213Second true]
  | .jpExt => [.jisX0208, .jisX0212, .roman, .katakana, .jisX0208Old]

/-- Whether the control characters shift. -/
def canShift : Iso2022 → Bool
  | .kr => true
  | _ => false

/-- Whether a set can be designated for single characters. -/
def hasSingles : Iso2022 → Bool
  | .jp2 => true
  | _ => false

/-! ## Writing -/

/-- Turn back to ASCII. -/
def toAscii (m : Shift) : Bytes × Shift :=
  let first : Bytes := if m.g0 = .ascii then [] else [0x1b, 0x28, 0x42]
  let second : Bytes := if m.shifted then [0x0f] else []
  (first ++ second, { m with g0 := .ascii, shifted := false })

/-- Turn back to ASCII at the end of a text. -/
def finish (m : Shift) : Bytes × Shift :=
  let first : Bytes := if m.shifted then [0x0f] else []
  let second : Bytes := if m.g0 = .ascii then [] else [0x1b, 0x28, 0x42]
  (first ++ second, { m with g0 := .ascii, shifted := false })

/-- Turn to a set. -/
def turnTo (e : Iso2022) (d : Designation) (m : Shift) : Bytes × Shift :=
  if e.canShift then
    let escape : Bytes := if m.g1 = d then [] else [0x1b, 0x24, 0x29, d.mark]
    let shift : Bytes := if m.shifted then [] else [0x0e]
    (escape ++ shift, { m with g1 := d, shifted := true })
  else
    let escape : Bytes :=
      if m.g0 = d then []
      else if !d.isWide then [0x1b, 0x28, d.mark]
      else if d = .jisX0208 then [0x1b, 0x24, d.mark]
      else [0x1b, 0x24, 0x28, d.mark]
    (escape, { m with g0 := d })

/-- The first set that an encoding finds a character in, and its code there. -/
def find? (e : Iso2022) (c : Char) : Option (Designation × Nat) :=
  e.known.findSome? fun d => (d.set.code? c).map (d, ·)

/-- The codes of an encoding for two characters in a row, with their sets. -/
def combined (e : Iso2022) : List (Designation × Nat × Char × Char) :=
  e.known.flatMap fun d => d.combined.map (d, ·)

/-- The set and the code of a character, and whether the next one is written with it. No answer means
that the character must wait for the next one. -/
def place (e : Iso2022) (c : Char) (next : WideTable.Next) :
    Option (Option (Designation × Nat) × Bool) :=
  let codes := e.combined.filter fun code => code.2.2.1 == c
  if codes.isEmpty then some (e.find? c, false)
  else match next with
    | .unknown => none
    | .ended => some (e.find? c, false)
    | .char d =>
      match codes.find? fun code => code.2.2.2 == d with
      | some code => some (some (code.1, code.2.1), true)
      | none => some (e.find? c, false)

/-- The bytes of a code. -/
def codeBytes (d : Designation) (n : Nat) : Bytes :=
  if d.isWide then WideTable.codeBytes n else [UInt8.ofNat n]

/-- The bytes of a character, the mode after it, and whether the next character is written with it. No
answer means that the character must wait for the next one. -/
def write (e : Iso2022) (m : Shift) (c : Char) (next : WideTable.Next) :
    Option (Option (Bytes × Shift) × Bool) :=
  if c.toNat < 0x80 then
    let (turn, m) := toAscii m
    some (some (turn ++ [UInt8.ofNat c.toNat], m), false)
  else match e.place c next with
    | none => none
    | some (none, _) => some (none, false)
    | some (some (d, n), both) =>
      let (turn, m) := e.turnTo d m
      some (some (turn ++ codeBytes d n, m), both)

/-! ## Reading -/

/-- Whether a byte ends an escape sequence. -/
def endsEscape (b : UInt8) : Bool := 0x40 ≤ b && b ≤ 0x5a

/-- Whether a byte after the escape begins a sequence that designates a set. -/
def designates (b : UInt8) : Bool := [0x28, 0x29, 0x24, 0x2e, 0x26].contains b

/-- The most bytes of an escape sequence. -/
def longestEscape : Nat := 16

/-- The size of the escape sequence at the front, or nothing if it may go on. A size of zero tells
that it is too long. For Japanese, a prefix that tells of an edition belongs to the sequence. -/
def escapeSize (e : Iso2022) (data : Bytes) : Nat → Nat → Option Nat
  | 0, _ => some 0
  | fuel + 1, i =>
    if longestEscape ≤ i then some 0
    else match data[i]? with
      | none => none
      | some b =>
        if endsEscape b then some (i + 1)
        else if !e.canShift && b == 0x26 && data[i + 1]? = some 0x40 then
          escapeSize e data fuel (i + 3)
        else escapeSize e data fuel (i + 1)

/-- The place and the last byte that an escape sequence designates with, and whether the set is wide. -/
def designation? (e : Iso2022) : Bytes → Option (Nat × UInt8 × Bool)
  | [_, b, c] =>
    if b == 0x24 then some (0, c, true)
    else if b == 0x28 then some (0, c, false)
    else if b == 0x29 then some (1, c, false)
    else if e.hasSingles && b == 0x2e then some (2, c, false)
    else none
  | [_, b, c, d] =>
    if b != 0x24 then none
    else if c == 0x28 then some (0, d, true)
    else if c == 0x29 then some (1, d, true)
    else none
  | [_, _, _, d, f, g] =>
    if !e.canShift && d == 0x1b && f == 0x24 && g == 0x42 then some (0, 0x42, true) else none
  | _ => none

/-- The set with a last byte, if the encoding knows it. -/
def markedSet? (e : Iso2022) (mark : UInt8) (wide : Bool) : Option Designation :=
  (Designation.ascii :: e.known).find? fun d => d.mark == mark && d.isWide == wide

/-- Put a set at a place. -/
def designate (m : Shift) (place : Nat) (d : Designation) : Shift :=
  match place with
  | 0 => { m with g0 := d }
  | 1 => { m with g1 := d }
  | _ => { m with g2 := d }

/-- Scan an escape sequence that designates a set. -/
def scanEscape (e : Iso2022) (final : Bool) (m : Shift) (data : Bytes) : Scan Shift :=
  match e.escapeSize data longestEscape 1 with
  | none => .short final data.length incompleteSequence
  | some 0 => .bad 1 illegalSequence
  | some (size + 1) =>
    match (e.designation? (data.take (size + 1))).bind fun (place, mark, wide) =>
        (e.markedSet? mark wide).map (place, ·) with
    | some (place, d) => .text [] size (designate m place d)
    | none => .bad (size + 1) illegalSequence

/-- The character of a byte of the upper half of ISO 8859-7, moved to the lower half. -/
def greek? (b : UInt8) : Option Char :=
  let n := b.toNat + 0x80
  if n = 0xa1 then some '‘'
  else if n = 0xa2 then some '’'
  else if n = 0xaf then some '―'
  else if n = 0xb4 then some '΄'
  else if n = 0xb5 then some '΅'
  else if n = 0xb6 then some 'Ά'
  else if n < 0xa4 && n ≠ 0xa1 && n ≠ 0xa2 || (0xa5 < n && n < 0xb4 && n ≠ 0xaa && n ≠ 0xae) ||
      n = 0xb7 || n = 0xbb || n = 0xbd then some (Char.ofNat n)
  else if 0xb8 ≤ n && n < 0xff && n ≠ 0xd2 then some (Char.ofNat (n + 0x2d0))
  else none

/-- Scan for a single character from the third place. -/
def scanSingle (final : Bool) (m : Shift) (data : Bytes) : Scan Shift :=
  match data with
  | _ :: _ :: b :: _ =>
    if 0x80 ≤ b then .bad 3 illegalSequence
    else match m.g2 with
      | .latin1 => .text [.ofNat (b.toNat + 0x80)] 2 m
      | .greek =>
        match greek? b with
        | some c => .text [.char c] 2 m
        | none => .bad 3 illegalSequence
      | .ascii => .text [.ofNat b.toNat] 2 m
      | _ => .bad 1 "internal codec error"
  | _ => .short final data.length incompleteSequence

/-- Scan for a character of the set in use. -/
def scanSet (final : Bool) (m : Shift) (data : Bytes) : Scan Shift :=
  let d := if m.shifted then m.g1 else m.g0
  match data with
  | [] => .hold
  | b :: rest =>
    if d = .ascii then .text [.ofNat b.toNat] 0 m
    else if d.isWide then
      match rest with
      | [] => .short final 1 incompleteSequence
      | c :: _ =>
        let n := WideTable.code b c
        match d.combined.lookup n with
        | some (c, d) => .text [.char c, .char d] 1 m
        | none =>
          match d.set.char? n with
          | some c => .text [.char c] 1 m
          | none => .bad 2 illegalSequence
    else match d.set.char? b.toNat with
      | some c => .text [.char c] 0 m
      | none => .bad 1 illegalSequence

/-- Scan for a character or a change of the mode. -/
def scan (e : Iso2022) (final : Bool) (m : Shift) (data : Bytes) : Scan Shift :=
  match data with
  | [] => .hold
  | b :: rest =>
    if m.through then
      .text [.ofNat b.toNat] 0 (if endsEscape b then { m with through := false } else m)
    else if b == 0x1b then
      match rest with
      | [] => .short final 1 incompleteSequence
      | c :: _ =>
        if designates c then e.scanEscape final m data
        else if e.hasSingles && c == 0x4e then scanSingle final m data
        else .text [.ofNat 0x1b] 0 { m with through := true }
    else if e.canShift && b == 0x0f then .text [] 0 { m with shifted := false }
    else if e.canShift && b == 0x0e then .text [] 0 { m with shifted := true }
    else if b == 0x0a then .text [.ofNat 0x0a] 0 { m with shifted := false }
    else if b < 0x20 then .text [.ofNat b.toNat] 0 m
    else if 0x80 ≤ b then .bad 1 illegalSequence
    else scanSet final m data

end Iso2022

/-! ## Switching with tildes -/

namespace Tilde

/-- The bytes of a character in the encoding that switches to GB 2312 between braces after tildes. A
tilde of a text is written twice. -/
def write (m : Shift) (c : Char) : Option (Bytes × Shift) :=
  if c.toNat < 0x80 then
    let turn : Bytes := if m.shifted then [0x7e, 0x7d] else []
    let more : Bytes := if c = '~' then [0x7e] else []
    some (turn ++ [UInt8.ofNat c.toNat] ++ more, { m with shifted := false })
  else match Sets.gb2312.code? c with
    | none => none
    | some n =>
      let turn : Bytes := if m.shifted then [] else [0x7e, 0x7b]
      some (turn ++ WideTable.codeBytes n, { m with shifted := true })

/-- Turn back to ASCII at the end of a text. -/
def finish (m : Shift) : Bytes × Shift :=
  (if m.shifted then [0x7e, 0x7d] else [], { m with shifted := false })

/-- Scan for a character or a change of the mode. -/
def scan (final : Bool) (m : Shift) (data : Bytes) : Scan Shift :=
  match data with
  | [] => .hold
  | b :: rest =>
    if b == 0x7e then
      match rest with
      | [] => .short final 1 incompleteSequence
      | c :: _ =>
        if c == 0x7e && !m.shifted then .text [.char '~'] 1 m
        else if c == 0x7b && !m.shifted then .text [] 1 { m with shifted := true }
        else if c == 0x0a && !m.shifted then .text [] 1 m
        else if c == 0x7d && m.shifted then .text [] 1 { m with shifted := false }
        else .bad 1 illegalSequence
    else if 0x80 ≤ b then .bad 1 illegalSequence
    else if !m.shifted then .text [.ofNat b.toNat] 0 m
    else match rest with
      | [] => .short final 1 incompleteSequence
      | c :: _ =>
        match Sets.gb2312.char? (WideTable.code b c) with
        | some c => .text [.char c] 1 m
        | none => .bad 1 illegalSequence

end Tilde

end FileDepot.Encoding
