import FileDepot.Number.Binary64

/-!
# Shortest decimal text

A number of the format is written with the fewest digits that read back as the same number, and of
those nearest to it. The digits stand positionally when the point falls near them, and with an
exponent otherwise.
-/

namespace FileDepot.Number

/-- A positive decimal `digits · 10 ^ exponent`. -/
structure Decimal where
  /-- the digits, read as one number -/
  digits : Nat
  /-- the place of the last digit -/
  exponent : Int
  deriving DecidableEq, Repr

namespace Shortest

/-- Whether `a · 10 ^ e` reads back as `m · 2 ^ q`: it lies between the middles to the two
neighbours, or on one of them and `m` is even. -/
def readsBack (m : Nat) (q : Int) (a : Nat) (e : Int) : Bool :=
  let lowGap : Nat := if m = Magnitude.leastFull && -1074 < q then 1 else 2
  let two : Nat := if 0 ≤ q - 2 then Nat.pow 2 (q - 2).toNat else 1
  let twoDen : Nat := if 0 ≤ q - 2 then 1 else Nat.pow 2 (2 - q).toNat
  let ten : Nat := if 0 ≤ e then Nat.pow 10 e.toNat else 1
  let tenDen : Nat := if 0 ≤ e then 1 else Nat.pow 10 (-e).toNat
  let x := a * ten * twoDen
  let lo := (4 * m - lowGap) * two * tenDen
  let hi := (4 * m + 2) * two * tenDen
  if m % 2 = 0 then lo ≤ x && x ≤ hi else lo < x && x < hi

/-- The largest `a` with `a · 10 ^ e ≤ m · 2 ^ q`, and whether the number lies nearer to the next
one: strictly nearer, or at the same distance with `a` odd. -/
def below (m : Nat) (q e : Int) : Nat × Bool :=
  let num :=
    m * (if 0 ≤ q then Nat.pow 2 q.toNat else 1) * (if 0 ≤ e then 1 else Nat.pow 10 (-e).toNat)
  let den :=
    (if 0 ≤ q then 1 else Nat.pow 2 (-q).toNat) * (if 0 ≤ e then Nat.pow 10 e.toNat else 1)
  let a := num / den
  let twice := 2 * (num % den)
  (a, den < twice || (twice = den && a % 2 = 1))

/-- The decimal on the grid of step `10 ^ e` that reads back as `m · 2 ^ q`, if there is one. -/
def onGrid? (m : Nat) (q e : Int) : Option Nat :=
  let (a, up) := below m q e
  let low := readsBack m q a e && a ≠ 0
  let high := readsBack m q (a + 1) e
  if low && high then some (if up then a + 1 else a)
  else if low then some a
  else if high then some (a + 1)
  else none

/-- Search grids of step `10 ^ e`, then finer ones. -/
def search (m : Nat) (q e : Int) : Nat → Option Decimal
  | 0 => none
  | fuel + 1 =>
    match onGrid? m q e with
    | some a => some ⟨a, e⟩
    | none => search m q (e - 1) fuel

/-- The place above the first digit of `m · 2 ^ q`, or one place more. -/
def topPlace (m : Nat) (q : Int) : Int :=
  (Nat.log2 m + q + 1) * 30103 / 100000 + 1

/-- The shortest decimal that reads back as `m · 2 ^ q`. -/
def decimal (m : Nat) (q : Int) : Decimal :=
  (search m q (topPlace m q) 20).getD ⟨m, 0⟩

end Shortest

/-- Move the zeros at the end of the digits into the exponent. -/
def Decimal.trimZeros (d : Decimal) (fuel : Nat) : Decimal :=
  match fuel with
  | 0 => d
  | fuel + 1 =>
    if d.digits % 10 = 0 && d.digits ≠ 0 then
      Decimal.trimZeros ⟨d.digits / 10, d.exponent + 1⟩ fuel
    else d

/-- The text of a decimal: positional when its first digit stands between the fourth place after the
point and the sixteenth before it. -/
def Decimal.text (d : Decimal) : String :=
  let digits := toString d.digits
  let first : Int := d.exponent + digits.length - 1
  if -4 ≤ first && first < 16 then
    if 0 ≤ d.exponent then
      digits ++ String.ofList (List.replicate d.exponent.toNat '0') ++ ".0"
    else if 0 ≤ first then
      let whole := digits.toList.take (first.toNat + 1)
      String.ofList whole ++ "." ++ String.ofList (digits.toList.drop (first.toNat + 1))
    else "0." ++ String.ofList (List.replicate ((-first).toNat - 1) '0') ++ digits
  else
    let lead := String.ofList (digits.toList.take 1)
    let rest := String.ofList (digits.toList.drop 1)
    let place := toString first.natAbs
    lead ++ (if rest.isEmpty then "" else "." ++ rest) ++ "e" ++ (if first < 0 then "-" else "+") ++
      (if place.length < 2 then "0" ++ place else place)

/-- The shortest text of a number of the format. -/
def Binary64.text : Binary64 → String
  | .undefined => "nan"
  | .signed negative size =>
    (if negative then "-" else "") ++
      match size with
      | .zero => "0.0"
      | .infinite => "inf"
      | .finite m q => ((Shortest.decimal m q).trimZeros 20).text

end FileDepot.Number
