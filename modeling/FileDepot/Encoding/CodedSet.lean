import Std.Data.HashMap
import FileDepot.Text.Numerals

/-!
# Coded character sets

A coded character set gives numbers to characters. Encodings share such sets and differ in how they
spell the numbers as bytes: `CodedSet.orElse` joins two sets, and `CodedSet.respell` changes the
numbers of a set.
-/

namespace FileDepot.Encoding

/-- A coded character set. -/
structure CodedSet where
  /-- the character with a code -/
  char? : Nat → Option Char
  /-- the code of a character -/
  code? : Char → Option Nat

namespace CodedSet

/-- The set without characters. -/
def empty : CodedSet := ⟨fun _ => none, fun _ => none⟩

/-- The set of some codes with their characters. Of several codes of a character the first one
counts. -/
def ofList (codes : Thunk (List (Nat × Char))) : CodedSet :=
  let byCode : Thunk (Std.HashMap Nat Char) :=
    codes.map fun codes => codes.foldl (fun m p => m.insert p.1 p.2) ∅
  let byChar : Thunk (Std.HashMap Nat Nat) :=
    codes.map fun codes => codes.foldl (fun m p => m.insertIfNew p.2.toNat p.1) ∅
  ⟨fun n => byCode.get[n]?, fun c => byChar.get[c.toNat]?⟩

/-- The codes of a run of characters; a point stands for a code without a character. -/
def run (code : Nat) : List Char → List (Nat × Char)
  | [] => []
  | c :: rest => if c = '.' then run (code + 1) rest else (code, c) :: run (code + 1) rest

/-- Read one line of a table: a code, and the characters from there on. -/
def readLine (line : String) : List (Nat × Char) :=
  let cs := line.toList
  match Text.readNumbers (String.ofList (cs.takeWhile (· ≠ ' '))) with
  | code :: _ => run code ((cs.dropWhile (· ≠ ' ')).drop 1)
  | [] => []

/-- Read a table. -/
def readLines (lines : String) : List (Nat × Char) :=
  (lines.splitOn "\n").flatMap readLine

/-- The set of a table. -/
def ofLines (lines : String) : CodedSet := .ofList (.mk fun _ => readLines lines)

/-- Read runs of private characters: triples of a code, the character it has, and a length. -/
def readRuns : List Nat → List (Nat × Char)
  | code :: char :: length :: rest =>
    (List.range length).map (fun i => (code + i, Char.ofNat (char + i))) ++ readRuns rest
  | _ => []

/-- The characters of two sets, where the first one goes before. -/
def orElse (s t : CodedSet) : CodedSet :=
  ⟨fun n => (s.char? n).or (t.char? n), fun c => (s.code? c).or (t.code? c)⟩

/-- The characters of two sets, where the first one goes before in reading, and the second one in
writing. -/
def overlay (s t : CodedSet) : CodedSet :=
  ⟨fun n => (s.char? n).or (t.char? n), fun c => (t.code? c).or (s.code? c)⟩

/-- A set with other codes: `inner?` turns a new code into an old one, and `outer` an old one into a
new one. -/
def respell (s : CodedSet) (inner? : Nat → Option Nat) (outer : Nat → Nat) : CodedSet :=
  ⟨fun n => (inner? n).bind s.char?, fun c => (s.code? c).map outer⟩

/-- A set without some of its codes. -/
def without (s : CodedSet) (isCut : Nat → Bool) : CodedSet :=
  ⟨fun n => if isCut n then none else s.char? n, fun c => (s.code? c).filter fun n => !isCut n⟩

/-- A set without some of its characters when it is written; reading stays as it is. -/
def readOnly (s : CodedSet) (chars : List Char) : CodedSet :=
  ⟨s.char?, fun c => if chars.contains c then none else s.code? c⟩

/-- A set that also writes some characters with codes that are read otherwise. -/
def writeAlso (s : CodedSet) (codes : List (Char × Nat)) : CodedSet :=
  ⟨s.char?, fun c => (s.code? c).or (codes.lookup c)⟩

/-- A run of `length` characters in order. -/
def block (code char length : Nat) : CodedSet :=
  ⟨fun n => if code ≤ n && n < code + length then some (Char.ofNat (char + (n - code))) else none,
    fun c =>
      if char ≤ c.toNat && c.toNat < char + length then some (code + (c.toNat - char)) else none⟩

/-- A grid of 94 rows with 94 places, each by a number from 21 to 7e, with both numbers 80 higher. -/
def raised (s : CodedSet) : CodedSet :=
  s.respell (fun n => if 0x8080 ≤ n && 0x80 ≤ n % 256 then some (n - 0x8080) else none)
    (· + 0x8080)

/-- A grid whose rows are folded in two: 188 places for each first byte from 81 on, without the bytes
from a0 to df; the second byte goes from 40 on, without 7f. -/
def folded (s : CodedSet) : CodedSet :=
  s.respell unfold fold
where
  /-- The row and place of a pair of bytes. -/
  unfold (n : Nat) : Option Nat :=
    let lead := n / 256
    let trail := n % 256
    let pair := if lead < 0xe0 then lead - 0x81 else lead - 0xc1
    let place := if trail < 0x80 then trail - 0x40 else trail - 0x41
    if lead < 0x81 || trail < 0x40 || trail = 0x7f || 0xfc < trail then none
    else some ((2 * pair + place / 94 + 0x21) * 256 + place % 94 + 0x21)
  /-- The pair of bytes of a row and place. -/
  fold (n : Nat) : Nat :=
    let row := n / 256 - 0x21
    let place := n % 256 - 0x21 + 94 * (row % 2)
    let lead := if row / 2 < 0x1f then row / 2 + 0x81 else row / 2 + 0xc1
    lead * 256 + (if place < 0x3f then place + 0x40 else place + 0x41)

end CodedSet

end FileDepot.Encoding
