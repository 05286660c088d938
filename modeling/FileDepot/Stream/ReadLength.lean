/-!
# How much is read

A reader is asked for a number of bytes or of code points, where a negative number asks for all that
is left. The number must be one that the machine can count with, and where room for it is made
beforehand, one that there is room for. How much room that is depends on the machine: it is given as the
most bytes that there is room for.
-/

namespace FileDepot

namespace ReadLength

/-- Why a number cannot be asked for. -/
inductive Fault where
  /-- it is negative, and not minus one -/
  | negative
  /-- it is too large or too small to count with -/
  | uncountable
  /-- the same, where the machine itself converts it -/
  | unconvertible
  /-- it is too large for a piece of bytes -/
  | tooLarge
  /-- there is no room for as much -/
  | noRoom
  deriving DecidableEq, Repr

/-- The wording of a fault. -/
def Fault.message : Fault → String
  | .negative => "read length must be non-negative or -1"
  | .uncountable => "cannot fit 'int' into an index-sized integer"
  | .unconvertible => "Python int too large to convert to C ssize_t"
  | .tooLarge => "byte string is too large"
  | .noRoom => ""

/-- The first number that is too large to count with. -/
def limit : Int := 0x8000000000000000

/-- How many bytes a piece needs beside its contents. -/
def overhead : Int := 33

/-- Whether a number is one to count with. -/
def isCountable (n : Int) : Bool := -limit ≤ n && n < limit

/-- What is asked for: a number, or all that is left. -/
abbrev Asked := Except Fault (Option Nat)

/-- A number that negative ones join as all that is left. -/
def ofInt (n : Int) : Option Nat := if n < 0 then none else some n.toNat

/-- Ask for bytes or text at hand. -/
def inMemory (n : Int) : Asked := if isCountable n then .ok (ofInt n) else .error .uncountable

/-- Hold a number against the size and the room that a piece of bytes can have. -/
def withRoom (room : Nat) (n : Int) : Asked :=
  if limit - overhead ≤ n then .error .tooLarge
  else if room < n then .error .noRoom
  else .ok (ofInt n)

/-- Ask for bytes through a buffer, where of the negative numbers only minus one counts. -/
def buffered (room : Nat) (n : Int) : Asked :=
  if !isCountable n then .error .uncountable
  else if n < -1 then .error .negative
  else withRoom room n

/-- Ask for bytes without a buffer. -/
def unbuffered (room : Nat) (n : Int) : Asked :=
  if !isCountable n then .error .unconvertible
  else if room < n then .error .noRoom
  else .ok (ofInt n)

end ReadLength

end FileDepot
