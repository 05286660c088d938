import FileDepot.Encoding.Sets.KsX1001
import FileDepot.Encoding.WideTable
import FileDepot.Text.Hangul

/-!
# Korean encodings

KS X 1001 holds some of the syllables of Hangul. One encoding spells the others by the signs of their
letters, one gives them codes in their order, and one composes all syllables from their letters.
-/

namespace FileDepot.Encoding

open FileDepot.Text

namespace Sets

/-- KS X 1001. The sign for no letter is only written. -/
def ksX1001 : CodedSet := (CodedSet.ofLines ksX1001Lines).writeAlso [('\u3164', 0x2454)]

/-- The second bytes of the codes for syllables outside KS X 1001: letters, and the bytes from 81 up
to `last`. -/
def hangulTrails (last : Nat) : List Nat :=
  (List.range 26).map (0x41 + ·) ++ (List.range 26).map (0x61 + ·) ++
    (List.range (last - 0x80)).map (0x81 + ·)

/-- The syllables outside KS X 1001 in their order. -/
def otherSyllables : Thunk (List Char) :=
  .mk fun _ => ((List.range Hangul.syllableCount).map fun i => Char.ofNat (Hangul.firstSyllable + i)).filter
    fun c => (ksX1001.code? c).isNone

/-- The codes of the syllables outside KS X 1001. -/
def windows949 : CodedSet :=
  let codes (lead leads last : Nat) :=
    (List.range leads).flatMap fun i => (hangulTrails last).map ((lead + i) * 256 + ·)
  .ofList (.mk fun _ => (codes 0x81 32 0xfe ++ codes 0xa1 38 0xa0).zip otherSyllables.get)

end Sets

open Sets

/-! ## Syllables spelled by their letters -/

namespace SpelledHangul

/-- The first byte of the code of a letter's sign. -/
def signLead : UInt8 := 0xa4

/-- The second byte of the sign that stands for no letter. -/
def filler : UInt8 := 0xd4

/-- The eight bytes of a syllable: the filler, and the signs of its letters. -/
def bytes? (c : Char) : Option Bytes :=
  if Hangul.isSyllable c then
    let (initial, vowel, final) := Hangul.parts c
    let sign (place : Nat) : UInt8 := UInt8.ofNat (0xa1 + place)
    let last := if final = 0 then filler else sign ((Hangul.finalPlaces[final - 1]?).getD 0)
    some [signLead, filler, signLead, sign ((Hangul.initialPlaces[initial]?).getD 0), signLead,
      sign (30 + vowel), signLead, last]
  else none

/-- The syllable for the signs of its letters. -/
def syllable? (initial vowel final : UInt8) : Option Char := do
  let i ← Hangul.initialPlaces.findIdx? fun place => initial.toNat = 0xa1 + place
  if vowel < 0xbf || 0xd3 < vowel then none
  let f ←
    if final == filler then some 0
    else (Hangul.finalPlaces.findIdx? fun place => final.toNat = 0xa1 + place).map (· + 1)
  pure (Hangul.syllable i (vowel.toNat - 0xbf) f)

/-- Scan the bytes of a spelled syllable, after the filler. -/
def scan (final : Bool) (rest : Bytes) : Scan Unit :=
  match rest with
  | a :: b :: c :: d :: e :: f :: _ =>
    if a == signLead && c == signLead && e == signLead then
      match syllable? b d f with
      | some s => .text [.char s] 7 ()
      | none => .bad 1 illegalSequence
    else .bad 1 illegalSequence
  | _ => .short final (2 + rest.length) incompleteSequence

end SpelledHangul

/-! ## Syllables composed of their letters -/

namespace ComposedHangul

/-- What five bits stand for at one place of a code. -/
inductive Part where
  /-- no letter -/
  | fill
  /-- a letter, by its number and its sign -/
  | letter (number : Nat) (sign : Nat)
  deriving DecidableEq, Repr

/-- The initial for five bits. -/
def initial? (bits : Nat) : Option Part :=
  if bits = 1 then some .fill
  else if bits < 2 then none
  else (Hangul.initialPlaces[bits - 2]?).map fun place => .letter (bits - 2) (Hangul.firstSign + place)

/-- The five bits of the vowels. -/
def vowelBits : List Nat :=
  [3, 4, 5, 6, 7, 10, 11, 12, 13, 14, 15, 18, 19, 20, 21, 22, 23, 26, 27, 28, 29]

/-- The vowel for five bits. -/
def vowel? (bits : Nat) : Option Part :=
  if bits = 2 then some .fill
  else (vowelBits.findIdx? (· = bits)).map fun i => .letter i (Hangul.firstVowelSign + i)

/-- The five bits of the finals. -/
def finalBits : List Nat := (List.range 16).map (· + 2) ++ (List.range 11).map (· + 19)

/-- The final for five bits. -/
def final? (bits : Nat) : Option Part :=
  if bits = 1 then some .fill
  else do
    let i ← finalBits.findIdx? (· = bits)
    let place ← Hangul.finalPlaces[i]?
    pure (.letter (i + 1) (Hangul.firstSign + place))

/-- The character of three parts: a syllable, the sign of one letter, or a blank. -/
def char? : Part → Part → Part → Option Char
  | .fill, .fill, .fill => some '\u3000'
  | .fill, .fill, .letter _ sign => some (Char.ofNat sign)
  | .fill, .letter _ sign, .fill => some (Char.ofNat sign)
  | .letter _ sign, .fill, .fill => some (Char.ofNat sign)
  | .letter i _, .letter v _, .fill => some (Hangul.syllable i v 0)
  | .letter i _, .letter v _, .letter f _ => some (Hangul.syllable i v f)
  | _, _, _ => none

/-- The code of three groups of five bits. -/
def code (initial vowel final : Nat) : Nat := 0x8000 + initial * 1024 + vowel * 32 + final

/-- The code of the sign of a letter. -/
def signCode? (sign : Nat) : Option Nat :=
  let place := sign - Hangul.firstSign
  if sign < Hangul.firstSign then none
  else match Hangul.initialPlaces.findIdx? (· = place) with
    | some i => some (code (i + 2) 2 1)
    | none =>
      match Hangul.finalPlaces.findIdx? (· = place) with
      | some i => (finalBits[i]?).map fun bits => code 1 2 bits
      | none => (vowelBits[sign - Hangul.firstVowelSign]?).map fun bits => code 1 bits 1

/-- The code of a syllable or of the sign of a letter. -/
def code? (c : Char) : Option Nat :=
  if Hangul.isSyllable c then do
    let (i, v, f) := Hangul.parts c
    let vowel ← vowelBits[v]?
    let final ← if f = 0 then some 1 else finalBits[f - 1]?
    pure (code (i + 2) vowel final)
  else if c.toNat ≤ 0x3163 then signCode? c.toNat
  else none

/-- Codes that compose a character. -/
def composed : CodedSet where
  char? n :=
    if n < 0x8000 || 0xd800 ≤ n then none
    else do char? (← initial? (n / 1024 % 32)) (← vowel? (n / 32 % 32)) (← final? (n % 32))
  code? := code?

/-- The rows of KS X 1001 that stand beside the composed codes: those before and after the syllables,
without the row of signs. -/
def isOtherRow (row : Nat) : Bool := (0x21 ≤ row && row ≤ 0x2c) || (0x4a ≤ row && row ≤ 0x7d)

/-- The code for a place of KS X 1001: two rows in one. -/
def fold (n : Nat) : Nat :=
  let row := n / 256
  let double := if row < 0x4a then row - 0x21 + 0x1b2 else row - 0x21 + 0x197
  let place := n % 256 - 0x21 + 94 * (double % 2)
  double / 2 * 256 + (if place < 0x4e then place + 0x31 else place + 0x43)

/-- The place of KS X 1001 for a code. -/
def unfold (n : Nat) : Option Nat :=
  let lead := n / 256
  let trail := n % 256
  if lead < 0xd9 || lead = 0xdf || 0xf9 < lead || trail < 0x31 || trail = 0x7f || trail = 0xff ||
      (0x80 ≤ trail && trail < 0x91) || (lead = 0xda && 0xa1 ≤ trail && trail ≤ 0xd3) then none
  else
    let double := if lead < 0xe0 then 2 * (lead - 0xd9) else 2 * lead - 0x197
    let place := if trail < 0x91 then trail - 0x31 else trail - 0x43
    some ((double + place / 94 + 0x21) * 256 + place % 94 + 0x21)

/-- The characters of KS X 1001 that are not composed. -/
def others : CodedSet where
  char? n := (unfold n).bind ksX1001.char?
  code? c := ((ksX1001.code? c).filter fun n => isOtherRow (n / 256)).map fold

end ComposedHangul

namespace WideTable

/-- KS X 1001 with raised rows. -/
def eucKr : WideTable := ofPairs ksX1001.raised

/-- Code page 949: KS X 1001 and the syllables outside it. -/
def windows949 : WideTable :=
  ofPairs (ksX1001.raised.orElse (Sets.windows949.orElse (.block 0xa4d4 0x3164 1)))

/-- Composed syllables, and the characters of KS X 1001 beside them. -/
def johab : WideTable := ofPairs (ComposedHangul.composed.orElse ComposedHangul.others)

end WideTable

end FileDepot.Encoding
