import FileDepot.Moment
import FileDepot.Number.Binary64

/-!
# Times of files

The time of a file is given in seconds, as a number in binary64. A disk keeps the whole nanoseconds of
it, and tells them as such a number again, of which the nearest microsecond is the moment of the file.
Every step rounds for itself.
-/

namespace FileDepot.Disk.FileTime

open Number

/-- A number of seconds counted in smaller units, of which there are `units` in a second. The part below
a second is brought into the format before it is rounded. -/
def count (units : Nat) (round : Bool → Nat → Nat → Nat) : Binary64 → Int
  | .undefined => 0
  | .signed negative size =>
    let (num, den) := size.fraction
    let (part, partDen) := (Magnitude.ofQuotient (num % den * units) den).fraction
    let n : Int := num / den * units + round negative part partDen
    if negative then -n else n

/-- Round a fraction with a sign downwards. -/
def roundDown (negative : Bool) (num den : Nat) : Nat :=
  if negative then (num + den - 1) / den else num / den

/-- Round a fraction with a sign to the nearest number, a tie going to the even one. -/
def roundNearest (_negative : Bool) (num den : Nat) : Nat := Magnitude.roundQuotient num den

/-- The nanoseconds in a second. -/
def nanosInSecond : Nat := 1000000000

/-- The microseconds in a second. -/
def microsInSecond : Nat := 1000000

/-- The nanoseconds that a disk keeps of a time. -/
def kept (time : Binary64) : Int := count nanosInSecond roundDown time

/-- The time that a disk tells for nanoseconds. -/
def told (nanos : Int) : Binary64 :=
  let seconds := nanos / nanosInSecond
  let (num, den) := (Magnitude.ofDecimal 1 (-9)).fraction
  let (part, partDen) :=
    (Magnitude.ofQuotient (num * (nanos % nanosInSecond).toNat) den).fraction
  let sum : Int := seconds * partDen + part
  .signed (sum < 0) (Magnitude.ofQuotient sum.natAbs partDen)

/-- The moment that a file with a time shows. -/
def moment (time : Binary64) : Moment := ⟨count microsInSecond roundNearest (told (kept time))⟩

end FileDepot.Disk.FileTime
