/-!
# Numbers in binary64

A positive number of the format is `m · 2 ^ q` with `m < 2 ^ 53` and `-1074 ≤ q ≤ 971`. A quotient of
two natural numbers is brought into the format by rounding to the nearest such number, a tie going
to the even `m`.
-/

namespace FileDepot.Number

/-- The size of a number of the format, without its sign. -/
inductive Magnitude where
  /-- zero -/
  | zero
  /-- the number `m · 2 ^ q` -/
  | finite (m : Nat) (q : Int)
  /-- beyond the largest finite number -/
  | infinite
  deriving DecidableEq, Repr

/-- A number of the format. -/
inductive Binary64 where
  /-- a sign and a size -/
  | signed (negative : Bool) (size : Magnitude)
  /-- the result of an undefined operation -/
  | undefined
  deriving DecidableEq, Repr

namespace Magnitude

/-- The quotient `num / den` to the nearest natural number, a tie going to the even one. -/
def roundQuotient (num den : Nat) : Nat :=
  let n := num / den
  let twice := 2 * (num % den)
  if twice < den then n else if den < twice then n + 1 else n + n % 2

/-- The least `m` that fills the format: `2 ^ 52`. -/
def leastFull : Nat := 0x10000000000000

/-- The quotient `num / (den · 2 ^ q)` as a fraction of natural numbers. -/
def scaled (num den : Nat) (q : Int) : Nat × Nat :=
  if 0 ≤ q then (num, den * Nat.pow 2 q.toNat) else (num * Nat.pow 2 (-q).toNat, den)

/-- The number of the format nearest to `num / den`, for a positive `den`. -/
def ofQuotient (num den : Nat) : Magnitude :=
  if num = 0 then .zero
  else
    let guess : Int := Nat.log2 num - Nat.log2 den - 52
    let (a, b) := scaled num den guess
    let q := max (if a / b < leastFull then guess - 1 else guess) (-1074)
    let (a, b) := scaled num den q
    let m := roundQuotient a b
    let (m, q) := if m = 2 * leastFull then (leastFull, q + 1) else (m, q)
    if m = 0 then .zero else if 971 < q then .infinite else .finite m q

/-- The number of the format nearest to `digits · 10 ^ exponent`. -/
def ofDecimal (digits : Nat) (exponent : Int) : Magnitude :=
  if digits = 0 then .zero
  else
    let size : Int := Nat.log2 digits + 1
    if 1100 < exponent then .infinite
    else if exponent < -400 - size then .zero
    else if 0 ≤ exponent then ofQuotient (digits * Nat.pow 10 exponent.toNat) 1
    else ofQuotient digits (Nat.pow 10 (-exponent).toNat)

/-- A number as a fraction, where it is finite. -/
def fraction : Magnitude → Nat × Nat
  | .zero => (0, 1)
  | .finite m q => if 0 ≤ q then (m * Nat.pow 2 q.toNat, 1) else (m, Nat.pow 2 (-q).toNat)
  | .infinite => (0, 1)

/-- The whole part of a number, where it has one. -/
def floor (x : Magnitude) : Nat := x.fraction.1 / x.fraction.2

end Magnitude

/-- The number of the format nearest to `digits · 10 ^ exponent`, with a sign. -/
def Binary64.ofDecimal (negative : Bool) (digits : Nat) (exponent : Int) : Binary64 :=
  .signed negative (Magnitude.ofDecimal digits exponent)

end FileDepot.Number
