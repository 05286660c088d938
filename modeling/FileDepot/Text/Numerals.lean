/-!
# Number tables written as text

Property tables of characters are long lists of numbers. They are kept as text, in base sixteen with
blanks between the numbers, and read back here.
-/

namespace FileDepot.Text

/-- The value of a character as a digit in base sixteen. -/
def hexValue? (c : Char) : Option Nat :=
  let n := c.toNat
  if 48 ≤ n && n ≤ 57 then some (n - 48)
  else if 97 ≤ n && n ≤ 102 then some (n - 87)
  else if 65 ≤ n && n ≤ 70 then some (n - 55)
  else none

/-- The lower-case digit of a value below sixteen. -/
def hexDigit (n : Nat) : Char :=
  if n < 10 then Char.ofNat (48 + n) else Char.ofNat (87 + n)

/-- The `width` lowest digits of `n` in base sixteen. -/
def hexPadded (width n : Nat) : List Char :=
  match width with
  | 0 => []
  | w + 1 => hexPadded w (n / 16) ++ [hexDigit (n % 16)]

/-- One step of reading numbers: the finished numbers, latest first, and the one under way. -/
def readDigit : List Nat × Option Nat → Char → List Nat × Option Nat
  | (done, now), c =>
    match hexValue? c, now with
    | some d, some n => (done, some (16 * n + d))
    | some d, none => (done, some d)
    | none, some n => (n :: done, none)
    | none, none => (done, none)

/-- The numbers of a table. -/
def readNumbers (s : String) : List Nat :=
  match s.toList.foldl readDigit ([], none) with
  | (done, some n) => (n :: done).reverse
  | (done, none) => done.reverse

/-- The running sums of a list of steps, so that a table of steps reads as a table of positions. -/
def runningSums (steps : List Nat) : List Nat :=
  (steps.foldl (fun (acc : List Nat × Nat) d => ((acc.2 + d) :: acc.1, acc.2 + d)) ([], 0)).1.reverse

/-- Whether `n` lies inside a range, when a table alternates between the first place inside and the
first place outside. -/
def inside (bounds : List Nat) (n : Nat) : Bool :=
  (bounds.takeWhile (· ≤ n)).length % 2 == 1

end FileDepot.Text
