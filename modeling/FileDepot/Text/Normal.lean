import FileDepot.Text.Combining
import FileDepot.Text.DecompositionTable
import FileDepot.Text.Hangul
import Std.Data.HashMap

/-!
# Normal forms of text

A text may be spelled in several ways: a letter with a mark may be one character or two, and marks at
different places around a letter may stand in any order. A *normal form* picks one spelling. All
characters are decomposed, the marks are put in order, and then characters are composed again as far
as possible.
-/

namespace FileDepot.Text.Normal

/-- The editions of the tables. -/
inductive Edition where
  /-- the current one -/
  | current
  /-- an early one, which knows fewer characters -/
  | early
  deriving DecidableEq, Repr

/-- Read records: numbers up to the next comma, of which the first one tells what the others are
for. -/
def readRecords (s : String) : Std.HashMap Nat (List Nat) :=
  (s.splitOn ",").foldl
    (fun table record =>
      match readNumbers record with
      | n :: image => table.insert n image
      | [] => table) ∅

/-- The decompositions that keep the meaning of a character. -/
def canonicalTable : Thunk (Std.HashMap Nat (List Nat)) :=
  .mk fun _ => readRecords canonicalRecords

/-- The decompositions that lose a difference of form. -/
def compatibleTable : Thunk (Std.HashMap Nat (List Nat)) :=
  .mk fun _ => readRecords compatibleRecords

/-- The decompositions that the early edition has otherwise. -/
def earlyTable : Thunk (Std.HashMap Nat (List Nat)) := .mk fun _ => readRecords earlyRecords

/-- The bounds of the ranges of characters that the early edition does not decompose. -/
def laterPlaces : Thunk (List Nat) := .mk fun _ => readNumbers laterBounds

/-- The characters that compose to one. -/
def compositionTable : Thunk (Std.HashMap (Nat × Nat) Nat) :=
  .mk fun _ => (compositionRecords.splitOn ",").foldl
    (fun table record =>
      match readNumbers record with
      | [a, b, n] => table.insert (a, b) n
      | _ => table) ∅

/-! ## Decomposing -/

/-- The first letters of the signs that the syllables of Hangul decompose into: initials, vowels and
finals. -/
def jamo : Nat × Nat × Nat := (0x1100, 0x1161, 0x11a7)

/-- The letters of a syllable of Hangul. -/
def letters (c : Char) : List Nat :=
  let (i, v, f) := Hangul.parts c
  [jamo.1 + i, jamo.2.1 + v] ++ (if f = 0 then [] else [jamo.2.2 + f])

/-- The decomposition of the code point with a number, in the current edition. -/
def currentImage (compatible : Bool) (n : Nat) : List Nat :=
  match compatible, compatibleTable.get[n]? with
  | true, some image => image
  | _, _ => (canonicalTable.get[n]?).getD [n]

/-- The decomposition of a code point. -/
def decompose (e : Edition) (compatible : Bool) (p : Point) : List Point :=
  let n := p.toNat
  if n < 0xa0 then [p]
  else match p with
    | .surrogate _ => [p]
    | .char c =>
      if Hangul.isSyllable c then (letters c).map .ofNat
      else match e with
        | .current => (currentImage compatible n).map .ofNat
        | .early =>
          match earlyTable.get[n]? with
          | some image => image.map .ofNat
          | none =>
            if inside laterPlaces.get n then [p] else (currentImage compatible n).map .ofNat

/-- Put a code point after others, which are given latest first and have the marks at their end in
order. -/
def settle (p : Point) : List Point → List Point
  | [] => [p]
  | q :: before =>
    if combiningClass p ≠ 0 && combiningClass p < combiningClass q then q :: settle p before
    else p :: q :: before

/-- A text decomposed, with its marks in order. -/
def decomposed (e : Edition) (compatible : Bool) (s : List Point) : List Point :=
  ((s.flatMap (decompose e compatible)).foldl (fun before p => settle p before) []).reverse

/-! ## Composing -/

/-- The code point that two make. -/
def join? (p q : Point) : Option Point :=
  let a := p.toNat
  let b := q.toNat
  let (initial, vowel, final) := jamo
  if initial ≤ a && a < initial + 19 && vowel ≤ b && b < vowel + 21 then
    some (.char (Hangul.syllable (a - initial) (b - vowel) 0))
  else if Hangul.firstSyllable ≤ a && a < Hangul.firstSyllable + Hangul.syllableCount &&
      (a - Hangul.firstSyllable) % 28 = 0 && final < b && b < final + 28 then
    some (.ofNat (a + (b - final)))
  else (compositionTable.get[(a, b)]?).map .ofNat

/-- Compose a text. `base` is the last code point that may still be composed, `marks` are those after
it, and `out` those before it, both latest first. -/
def composeFrom (out : List Point) (base : Point) (marks : List Point) : List Point → List Point
  | [] => (marks ++ base :: out).reverse
  | p :: rest =>
    let k := combiningClass p
    let reaches := match marks with
      | [] => true
      | q :: _ => combiningClass q < k
    match reaches, join? base p with
    | true, some c => composeFrom out c marks rest
    | _, _ =>
      if k = 0 then composeFrom (marks ++ base :: out) p [] rest
      else composeFrom out base (p :: marks) rest

/-- A text composed. -/
def composed : List Point → List Point
  | [] => []
  | p :: rest => composeFrom [] p [] rest

/-! ## Normal forms -/

/-- The normal form of a text that is composed again and keeps all differences of form. -/
def form (s : List Point) : List Point := composed (decomposed .current false s)

/-- The normal form of a text that is composed again and loses differences of form. -/
def plainForm (e : Edition) (s : List Point) : List Point := composed (decomposed e true s)

end FileDepot.Text.Normal
