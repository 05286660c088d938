import FileDepot.Bytes.Basic
import FileDepot.Encoding.Fault

/-!
# Names in ASCII

A text is written with its ASCII characters first, and then a code that tells which other code points
go where. The code is a row of numbers in a mixed base that adapts to their size. `threshold` is at
least one, so every digit makes the number that is left smaller.
-/

namespace FileDepot.Encoding.Punycode

/-! ## Numbers -/

/-- The character for a value below 36. -/
def digit (n : Nat) : Char := if n < 26 then Char.ofNat (97 + n) else Char.ofNat (22 + n)

/-- The value of a character; letter case does not count. -/
def value? (c : Char) : Option Nat :=
  if 'a' ≤ c && c ≤ 'z' then some (c.toNat - 97)
  else if 'A' ≤ c && c ≤ 'Z' then some (c.toNat - 65)
  else if '0' ≤ c && c ≤ '9' then some (c.toNat - 22)
  else none

/-- The least value with which a number goes on after the digit of a weight, under a bias. -/
def threshold (bias weight : Nat) : Nat :=
  if weight ≤ bias then 1 else if bias + 26 ≤ weight then 26 else weight - bias

theorem threshold_pos (bias weight : Nat) : 0 < threshold bias weight := by
  unfold threshold
  split
  · omega
  · split <;> omega

/-- Divide a step until it is small, and weigh the divisions. -/
def settle (delta weight : Nat) : Nat :=
  if 455 < delta then settle (delta / 35) (weight + 36) else weight + 36 * delta / (delta + 38)
termination_by delta
decreasing_by exact Nat.div_lt_self (by omega) (by omega)

/-- The next bias, after a step of `delta` for the code point that makes `count`. -/
def adapt (delta count : Nat) (first : Bool) : Nat :=
  let delta := if first then delta / 700 else delta / 2
  settle (delta + delta / count) 0

/-! ## Writing -/

/-- The digits of a number. -/
def digits (bias weight n : Nat) : List Char :=
  let t := threshold bias weight
  if n < t then [digit n]
  else digit (t + (n - t) % (36 - t)) :: digits bias (weight + 36) ((n - t) / (36 - t))
termination_by n
decreasing_by
  have := threshold_pos bias weight
  exact Nat.lt_of_le_of_lt (Nat.div_le_self _ _) (by omega)

/-- How far a text is written. -/
structure State where
  /-- the number of the next place -/
  delta : Nat
  /-- the bias -/
  bias : Nat
  /-- how many code points are placed -/
  placed : Nat
  /-- the numbers so far, latest first -/
  out : List (List Char)

/-- Pass one code point of the text while the code point numbered `n` is placed; `basic` of them are
ASCII. -/
def pass (basic n : Nat) (s : State) (p : Point) : State :=
  let m := p.toNat
  if m < n then { s with delta := s.delta + 1 }
  else if m = n then
    { delta := 0
      bias := adapt s.delta (s.placed + 1) (s.placed = basic)
      placed := s.placed + 1
      out := digits s.bias 36 s.delta :: s.out }
  else s

/-- Place all code points with the given numbers, in order; `least` is the least number that may come
next. -/
def place (text : List Point) (basic least : Nat) (s : State) : List Nat → State
  | [] => s
  | n :: rest =>
    let s := text.foldl (pass basic n) { s with delta := s.delta + (n - least) * (s.placed + 1) }
    place text basic (n + 1) { s with delta := s.delta + 1 } rest

/-- The numbers of the code points beyond ASCII, in order and each of them once. -/
def beyond (text : List Point) : List Nat :=
  (((text.map Point.toNat).filter (128 ≤ ·)).mergeSort).eraseReps

/-- The code of a text. -/
def encode (text : List Point) : List Char :=
  let basic := (text.filterMap Point.char?).filter fun c => c.toNat < 128
  let s := place text basic.length 128 ⟨0, 72, basic.length, []⟩ (beyond text)
  basic ++ (if basic.isEmpty then [] else ['-']) ++ s.out.reverse.flatten

/-! ## Reading -/

/-- Read a number: its value, and what follows it. `unit` is what one more counts for at this digit,
and `n` is the value so far. -/
def readNumber (bias weight unit n : Nat) (s : List Char) :
    Except Fault (Nat × { rest : List Char // rest.length < s.length }) :=
  match s with
  | [] => .error (.other "incomplete punicode string")
  | c :: rest =>
    match value? c with
    | none => .error (.other ("Invalid extended code point '" ++ c.toString ++ "'"))
    | some d =>
      let t := threshold bias weight
      if d < t then .ok (n + d * unit, ⟨rest, by simp⟩)
      else
        match readNumber bias (weight + 36) (unit * (36 - t)) (n + d * unit) rest with
        | .ok (n, ⟨rest, h⟩) => .ok (n, ⟨rest, Nat.lt_succ_of_lt h⟩)
        | .error f => .error f

/-- The greatest number of a code point. -/
def lastPoint : Nat := 0x10ffff

/-- Put the code points of a code among those that are there. `count` is the number of them, `next`
the place after the last one that was put, and `least` the number of that one. -/
def insertAll (there : List Point) (count next least bias : Nat) (first : Bool) (s : List Char) :
    Except Fault (List Point) :=
  if s.isEmpty then .ok there
  else match readNumber bias 36 1 0 s with
    | .error f => .error f
    | .ok (delta, ⟨rest, _⟩) =>
      let n := least + (next + delta) / (count + 1)
      if lastPoint < n then
        .error (.other ("Invalid character U+" ++ String.ofList (Nat.toDigits 16 n)))
      else
        let spot := (next + delta) % (count + 1)
        insertAll (there.insertIdx spot (.ofNat n)) (count + 1) (spot + 1) n
          (adapt delta (count + 1) first) false rest
termination_by s.length

/-- The characters of some bytes, which are all ASCII. -/
def readAscii (data : Bytes) : Except Fault (List Char) :=
  match data.findIdx? (128 ≤ ·) with
  | some i =>
    .error (.decode "ascii" (data.getD i 0) i (i + 1) "ordinal not in range(128)")
  | none => .ok (data.map fun b => Char.ofNat b.toNat)

/-- The text of a code. -/
def decode (data : Bytes) : Except Fault (List Point) := do
  let tail := (data.reverse.takeWhile (· != 0x2d)).reverse
  let head := data.take (data.length - tail.length - 1)
  let basic ← readAscii head
  let code ← readAscii tail
  insertAll (basic.map .char) basic.length 0 128 72 true (code.map Char.toUpper)

end FileDepot.Encoding.Punycode
