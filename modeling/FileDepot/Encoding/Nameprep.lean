import FileDepot.Encoding.Fault
import FileDepot.Encoding.NameprepTable
import FileDepot.Text.Case
import FileDepot.Text.Normal
import FileDepot.Text.Quoted

/-!
# Preparing names

Names that look alike should be the same. A name is prepared by leaving out what cannot be seen,
folding letters, and taking the normal form that loses differences of form, as it was in an early
edition of the tables. Then some code points are refused, and so are names that mix directions.
-/

namespace FileDepot.Encoding.Nameprep

open FileDepot.Text

/-- Whether a code point is left out. -/
def isDropped (n : Nat) : Bool :=
  n = 0xad || n = 0x34f || n = 0x1806 || (0x180b ≤ n && n < 0x180e) || (0x200b ≤ n && n < 0x200e) ||
    n = 0x2060 || (0xfe00 ≤ n && n < 0xfe10) || n = 0xfeff

/-- The characters that are replaced by several others. -/
def foldTable : Thunk (Std.HashMap Nat (List Nat)) := .mk fun _ => Normal.readRecords foldRecords

/-- What replaces a code point. -/
def fold (p : Point) : List Point :=
  let n := p.toNat
  if n < 0x80 then [.ofNat (if 65 ≤ n && n ≤ 90 then n + 32 else n)]
  else match foldTable.get[n]? with
    | some image => image.map .ofNat
    | none => [((Case.runImage? foldRuns.get n).map .ofNat).getD p]

/-- Whether a code point is written from right to left. -/
def isRight (p : Point) : Bool := inside rightBounds.get p.toNat

/-- Whether a code point is written from left to right. -/
def isLeft (p : Point) : Bool := inside leftBounds.get p.toNat

/-- Hold a name against the rules of directions: one that is written from right to left holds nothing
that is written the other way, and begins and ends with such characters. -/
def checkDirections (name : List Point) : Except Fault (List Point) :=
  if !name.any isRight then .ok name
  else if name.any isLeft then .error (.other "Violation of BIDI requirement 2")
  else if !(name.head?.any isRight && name.getLast?.any isRight) then
    .error (.other "Violation of BIDI requirement 3")
  else .ok name

/-- Prepare a name. -/
def prepare (name : List Point) : Except Fault (List Point) :=
  let mapped := (name.filter fun p => !isDropped p.toNat).flatMap fold
  let plain := Normal.plainForm .early mapped
  match plain.find? fun p => inside prohibitedBounds.get p.toNat with
  | some p => .error (.other ("Invalid character " ++ quotedPoints [p]))
  | none => checkDirections plain

end FileDepot.Encoding.Nameprep
