import FileDepot.Text.Numerals
import FileDepot.Text.Point

/-!
# Directions of writing

Some scripts are written from left to right and others from right to left; digits, marks and signs go
with either in their own ways.
-/

namespace FileDepot.Text

/-- How a code point is written. -/
inductive Direction where
  /-- from left to right -/
  | left
  /-- from right to left -/
  | right
  /-- Arabic digits -/
  | arabicDigit
  /-- European digits -/
  | europeanDigit
  /-- a sign that goes with what stands beside it -/
  | neutral
  /-- a mark on what stands before it -/
  | mark
  /-- a sign that separates texts or steers their direction -/
  | separator
  /-- no character has this place -/
  | unknown
  deriving DecidableEq, Repr

/-- The direction with a number of the table. -/
def Direction.ofNumber : Nat → Direction
  | 0 => .left
  | 1 => .right
  | 2 => .arabicDigit
  | 3 => .europeanDigit
  | 4 => .neutral
  | 5 => .mark
  | 6 => .separator
  | _ => .unknown

/-- The runs of all code points: the number of a direction, and how many code points have it. -/
def directionRuns : Thunk (List Nat) := .mk fun _ => readNumbers "
4 9 6 5 4 e 6 5 4 f 3 a 4 7 0 1a 4 6 0 1a 4 a 6 1 4 24 0 1 4 7 3 2 4 1 0 1 4 3 3 1 0 1 4 5 0 17 4
1 0 1f 4 1 0 1c1 4 2 0 7 4 e 0 2 4 e 0 5 4 9 0 1 4 11 5 70 0 4 4 2 0 2 7 2 0 4 4 1 0 1 7 4 4 2 0
1 4 1 0 3 7 1 0 1 7 1 0 14 7 1 0 53 4 1 0 8c 5 7 0 a6 7 1 0 26 7 2 0 31 4 1 7 2 4 3 7 1 5 2d 1 1
5 1 1 1 5 2 1 1 5 2 1 1 5 1 7 8 1 1b 7 4 1 6 7 b 2 6 4 2 1 1 4 2 1 1 4 1 1 1 4 2 5 b 1 30 5 15 2
a 4 1 2 2 1 3 5 1 1 65 5 7 2 1 4 1 5 6 1 2 5 2 4 1 5 4 1 2 3 a 1 14 7 1 1 2 5 1 1 1e 5 1b 7 2 1
59 5 b 1 1 7 e 1 2b 5 9 1 2 4 4 1 1 7 2 5 1 1 18 5 4 1 1 5 9 1 1 5 3 1 1 5 5 7 2 1 f 7 1 1 19 5 3
7 2 1 1 7 1 1 b 7 5 1 1f 7 1 2 2 7 6 5 8 1 2a 5 18 2 1 5 20 0 37 5 1 0 1 5 1 0 4 5 8 0 4 5 1 0 3
5 7 0 a 5 2 0 1d 5 1 0 2 7 1 0 8 7 2 0 2 7 2 0 16 7 1 0 7 7 1 0 1 7 3 0 4 7 2 5 1 0 4 5 4 7 2 0 2
7 2 0 2 5 1 0 1 7 8 0 1 7 4 0 2 7 1 0 3 5 2 7 2 0 c 4 2 0 7 4 1 0 2 5 1 7 2 5 2 0 1 7 1 0 6 7 4 0
2 7 2 0 16 7 1 0 7 7 1 0 2 7 1 0 2 7 1 0 2 7 2 5 1 7 1 0 3 5 2 7 4 5 2 7 2 5 3 7 3 5 1 7 7 0 4 7
1 0 1 7 7 0 a 5 2 0 3 5 1 0 1 7 a 5 2 0 1 7 1 0 9 7 1 0 3 7 1 0 16 7 1 0 7 7 1 0 2 7 1 0 5 7 2 5
1 0 4 5 5 7 1 5 2 0 1 7 1 0 2 5 1 7 2 0 1 7 f 0 2 5 2 7 2 0 b 4 1 7 7 0 1 5 6 7 1 5 1 0 2 7 1 0 8
7 2 0 2 7 2 0 16 7 1 0 7 7 1 0 2 7 1 0 5 7 2 5 1 0 2 5 1 0 1 5 4 7 2 0 2 7 2 0 2 5 1 7 7 5 2 0 1
7 4 0 2 7 1 0 3 5 2 7 2 0 12 7 a 5 1 0 1 7 1 0 6 7 3 0 3 7 1 0 4 7 3 0 2 7 1 0 1 7 1 0 2 7 3 0 2
7 3 0 3 7 3 0 c 7 4 0 2 5 1 0 2 7 3 0 3 7 1 0 3 5 1 7 2 0 1 7 6 0 1 7 e 0 d 4 8 7 5 5 1 0 3 5 1 0
8 7 1 0 3 7 1 0 17 7 1 0 10 7 2 5 1 0 1 5 3 0 4 7 1 5 3 7 1 5 4 7 7 5 2 7 1 0 3 7 2 0 1 7 2 0 2 5
2 7 2 0 a 7 7 0 1 4 7 0 2 5 1 0 b 7 1 0 3 7 1 0 17 7 1 0 a 7 1 0 5 7 2 5 1 0 8 7 1 0 3 7 1 0 2 5
2 7 7 0 2 7 6 0 2 7 1 0 2 5 2 7 2 0 a 7 1 0 2 7 d 5 2 0 b 7 1 0 3 7 1 0 29 5 2 0 4 5 4 7 1 0 3 7
1 0 3 5 1 0 2 7 4 0 e 5 2 7 2 0 1a 7 1 5 1 0 2 7 1 0 12 7 3 0 18 7 1 0 9 7 1 0 1 7 2 0 7 7 3 5 1
7 4 0 3 5 3 7 1 5 1 7 1 0 8 7 6 0 a 7 2 0 3 7 c 0 30 5 1 0 2 5 7 7 4 4 1 0 7 5 8 0 d 7 25 0 2 7 1
0 1 7 1 0 5 7 1 0 18 7 1 0 1 7 1 0 a 5 1 0 2 5 9 0 1 7 2 0 5 7 1 0 1 7 1 5 6 7 2 0 a 7 2 0 4 7 20
0 18 5 2 0 1b 5 1 0 1 5 1 0 1 5 1 4 4 0 a 7 1 0 24 7 4 5 e 0 1 5 5 0 1 5 2 0 5 5 b 7 1 5 24 7 1 0
8 5 1 0 6 7 1 0 d 7 25 0 2d 5 4 0 1 5 6 0 1 5 2 0 2 5 2 0 19 5 2 0 4 5 3 0 10 5 4 0 d 5 1 0 2 5 2
0 6 5 1 0 f 5 1 0 28 7 1 0 1 7 5 0 1 7 2 0 179 7 1 0 4 7 2 0 7 7 1 0 1 7 1 0 4 7 2 0 29 7 1 0 4 7
2 0 21 7 1 0 4 7 2 0 7 7 1 0 1 7 1 0 4 7 2 0 f 7 1 0 39 7 1 0 4 7 2 0 43 7 2 5 3 0 1d 7 3 0 10 4
a 7 6 0 56 7 2 0 6 7 2 4 1 0 27f 6 1 0 1a 4 2 7 3 0 59 7 7 0 12 5 3 0 1 7 9 0 13 5 2 0 3 7 9 0 12
5 2 7 c 0 d 7 1 0 3 7 1 5 2 7 c 0 34 5 2 0 1 5 7 0 8 5 1 0 2 5 b 0 7 4 1 0 1 5 1 7 2 0 a 7 6 4 a
7 6 4 b 5 3 4 1 5 1 0 a 7 6 0 59 7 7 0 5 5 2 0 22 5 1 0 1 7 5 0 46 7 a 0 1f 7 1 5 3 0 4 5 2 0 3 7
4 0 2 5 1 0 6 5 3 7 4 4 1 7 3 4 2 0 28 7 2 0 5 7 b 0 2c 7 4 0 1a 7 6 0 b 7 3 4 22 0 17 5 2 0 2 5
1 7 2 0 38 5 1 0 1 5 7 7 1 5 1 0 1 5 1 0 2 5 8 0 6 5 a 7 2 5 1 0 a 7 6 0 a 7 6 0 e 7 2 5 1f 7 31
5 4 0 30 5 1 0 1 5 5 0 1 5 1 0 5 5 1 0 a 7 3 0 1b 5 9 0 b 7 1 5 2 0 20 5 4 0 2 5 2 0 1 5 3 0 38 5
1 0 1 5 2 0 3 5 1 0 1 5 3 0 2 7 8 0 30 5 8 0 2 5 2 7 3 0 f 7 3 0 3c 7 7 0 2b 7 2 0 b 7 8 5 3 0 1
5 d 0 1 5 7 0 4 5 1 0 6 5 1 0 3 5 2 0 1 7 5 0 c0 5 40 0 116 7 2 0 6 7 2 0 26 7 2 0 6 7 2 0 8 7 1
0 1 7 1 0 1 7 1 0 1 7 1 0 1f 7 2 0 35 7 1 0 7 4 1 0 1 4 3 0 3 7 1 0 7 4 3 0 4 7 2 0 6 7 1 4 3 0 d
4 3 7 2 0 3 7 1 0 7 4 2 7 1 6 b 4 3 0 1 1 1 4 18 6 7 4 30 6 1 4 5 7 1 6 4 4 6 3 1 0 1 7 2 3 6 4 5
0 1 3 a 4 5 7 1 0 d 7 3 4 21 7 f 5 21 7 f 4 2 0 1 4 4 0 1 4 2 0 a 4 1 0 1 4 3 0 5 4 6 0 1 4 1 0 1
4 1 0 1 4 1 0 4 4 1 0 b 4 2 0 4 4 5 0 5 4 4 0 2 4 10 0 29 4 3 7 4 4 1a6 0 45 4 1a 0 1 4 91 7 19 4
b 7 15 4 28 3 14 0 4e 4 1c2 0 1 4 153 0 100 4 274 7 2 4 20 7 1 4 69 0 e5 4 6 0 4 5 3 0 2 7 5 4 7
0 26 7 1 0 1 7 5 0 1 7 2 0 38 7 7 0 2 7 e 5 1 0 17 7 9 0 7 7 1 0 7 7 1 0 7 7 1 0 7 7 1 0 7 7 1 0
7 7 1 0 7 7 1 0 7 7 1 5 20 4 5e 7 22 4 1a 7 1 4 59 7 c 4 d6 7 1a 4 c 7 4 6 1 4 4 0 3 4 19 0 9 5 4
0 2 4 1 0 5 4 2 0 5 4 3 7 1 0 56 7 2 5 2 4 2 0 3 4 1 0 5a 4 1 0 4 7 5 0 2b 7 1 0 5e 7 1 0 30 4 24
7 c 0 2d 4 2 7 1 0 30 4 10 0 1c 4 3 0 32 4 f 0 c 4 4 0 a7 4 4 0 63 4 2 0 1f 4 1 0 19c0 4 40 0
568d 7 3 4 37 7 9 0 13d 4 3 0 1c 7 14 0 2f 5 4 4 1 5 a 4 2 0 1e 5 2 0 50 5 2 0 6 7 8 4 22 0 66 4
1 0 42 7 5 0 2 7 1 0 1 7 1 0 5 7 18 0 10 5 1 0 3 5 1 0 4 5 1 0 19 5 2 0 1 4 4 5 1 7 3 0 8 4 2 7 6
0 34 4 4 7 8 0 44 5 2 7 8 0 c 7 6 5 12 0 d 5 1 0 26 5 8 0 19 5 b 0 2 7 b 0 1e 7 3 5 3 0 30 5 1 0
2 5 4 0 2 5 2 0 10 7 1 0 b 7 4 0 7 5 1 0 19 7 1 0 29 5 6 0 2 5 2 0 2 5 2 7 9 0 3 5 1 0 8 5 1 0 1
7 2 0 a 7 2 0 20 5 1 0 33 5 1 0 1 5 3 0 2 5 2 0 5 5 2 0 1 5 1 0 1 7 18 0 11 5 2 0 8 5 1 7 a 0 6 7
2 0 6 7 2 0 6 7 9 0 7 7 1 0 7 7 1 0 3a 4 2 7 4 0 75 5 1 0 2 5 1 0 4 5 1 7 2 0 a 7 6 0 2ba4 7 c 0
17 7 4 0 31 7 4 0 226e 7 2 0 6a 7 26 0 7 7 c 0 5 7 5 1 1 5 1 1 a 4 1 1 d 7 1 1 5 7 1 1 1 7 1 1 2
7 1 1 2 7 1 1 7d 7 10 1 16b 4 12 1 40 7 2 1 36 7 7 4 1 7 20 1 d 4 3 5 10 4 a 7 6 5 10 4 23 7 1 4
13 7 1 4 4 7 4 1 5 7 1 1 87 7 2 4 1 7 1 4 f 3 a 4 7 0 1a 4 6 0 1a 4 b 0 59 7 3 0 6 7 2 0 6 7 2 0
6 7 2 0 3 7 3 4 7 7 1 4 7 7 a 4 5 7 2 0 c 7 1 0 1a 7 1 0 13 7 1 0 2 7 1 0 f 7 2 0 e 7 22 0 7b 7 5
0 1 4 1 0 1 7 4 0 2d 7 3 0 9 4 4d 0 2 7 1 4 d 7 3 4 1 7 2f 0 2d 5 1 7 82 0 1d 7 3 0 31 7 f 5 1 3
1b 7 4 0 24 7 9 0 1e 7 5 0 26 5 5 7 5 0 1e 7 1 0 25 7 4 0 e 7 2a 0 9e 7 2 0 a 7 6 0 24 7 4 0 24 7
4 0 28 7 8 0 34 7 b 0 c 7 1 0 f 7 1 0 7 7 1 0 2 7 1 0 b 7 1 0 f 7 1 0 7 7 1 0 2 7 43 0 137 7 9 0
16 7 a 0 8 7 18 0 6 7 1 0 2a 7 1 0 9 7 45 1 6 7 2 1 1 7 1 1 2c 7 1 1 2 7 3 1 1 7 2 1 17 7 1 1 48
7 8 1 9 7 30 1 13 7 1 1 2 7 5 1 21 7 3 4 1 1 1a 7 5 1 1 7 40 1 38 7 4 1 14 7 2 1 2f 5 3 7 1 5 2 7
5 5 4 1 4 7 1 1 3 7 1 1 1d 7 2 5 3 7 4 5 1 1 9 7 7 1 9 7 7 1 40 7 20 1 25 5 2 7 4 1 c 7 9 1 36 7
3 4 7 1 16 7 2 1 1b 7 5 1 1a 7 7 1 4 7 c 1 7 7 50 1 49 7 37 1 33 7 d 1 33 7 7 1 2a 5 4 7 8 2 a 7
126 2 1f 7 1 1 2a 7 1 5 2 1 1 7 2 1 2 7 4e 1 28 7 8 1 16 5 b 1 9 7 16 1 12 5 4 1 4 7 26 1 1c 7 14
1 17 7 9 0 1 5 1 0 36 5 f 0 7 7 4 4 14 0 a 5 1 0 2 5 2 0 1 7 9 5 3 0 31 5 4 0 2 5 2 0 7 5 1 7 a 0
1 7 2 0 19 7 7 0 a 7 6 5 3 0 24 5 5 0 1 5 8 7 1 0 12 7 8 0 23 5 1 0 3 7 9 5 2 0 34 5 9 0 a 5 4 0
2 5 1 0 10 7 1 0 14 7 b 0 12 7 1 0 1c 5 3 0 2 5 1 0 1 5 2 0 6 5 1 7 41 0 7 7 1 0 1 7 1 0 4 7 1 0
f 7 1 0 b 7 6 0 2f 5 1 0 3 5 8 7 5 0 a 7 6 5 2 0 2 7 1 0 8 7 2 0 2 7 2 0 16 7 1 0 7 7 1 0 2 7 1 0
5 7 1 5 2 0 3 5 1 0 4 7 2 0 2 7 2 0 3 7 2 0 1 7 6 0 1 7 5 0 7 7 2 5 7 7 3 5 5 7 8b 0 38 5 8 0 2 5
3 0 1 5 1 0 15 7 1 0 1 5 1 0 3 7 1e 0 33 5 6 0 1 5 1 0 4 5 2 0 1 5 2 0 4 7 8 0 a 7 a6 0 32 5 4 7
2 0 4 5 2 0 1 5 2 0 1b 5 2 7 22 0 33 5 8 0 2 5 1 0 1 5 2 0 4 7 b 0 a 7 6 4 d 7 13 0 2b 5 1 0 1 5
1 0 2 5 6 0 1 5 1 0 2 7 6 0 a 7 36 0 1b 7 2 5 3 0 2 5 4 0 1 5 5 7 4 0 17 7 b9 0 2f 5 9 0 1 5 2 0
1 7 64 0 53 7 c 0 8 7 2 0 1 7 2 0 8 7 1 0 2 7 1 0 1e 7 1 0 2 7 2 5 2 0 1 5 1 0 4 5 1 0 3 7 9 0 a
7 46 0 8 7 2 0 2a 5 4 7 2 5 2 0 4 5 1 0 4 7 1b 0 1 5 6 0 2 5 2 0 28 5 6 0 2 5 4 0 8 5 1 7 8 0 1 5
6 0 2 5 3 0 2e 5 d 0 1 5 2 0 9 7 d 0 49 7 107 0 9 7 1 0 26 5 7 7 1 5 6 0 8 7 a 0 1d 7 3 0 20 7 2
5 16 7 1 0 1 5 7 0 1 5 2 0 1 5 2 7 49 0 7 7 1 0 2 7 1 0 26 5 6 7 3 5 1 7 1 5 2 7 1 5 7 0 1 5 1 7
8 0 a 7 6 0 6 7 1 0 2 7 1 0 25 7 1 5 2 7 1 0 2 5 1 0 1 5 1 0 1 7 7 0 a 7 136 0 13 5 2 0 4 7 b7 0
1 7 f 0 15 4 1d 7 d 0 39b 7 66 0 6f 7 1 0 5 7 b 0 c4 7 a4c 0 63 7 d 0 42f 7 1 0 9 7 fc7 0 247 7
21b9 0 239 7 7 0 1f 7 1 0 a 7 4 0 51 7 1 0 a 7 6 0 1e 7 2 5 5 0 1 7 a 0 30 5 7 0 f 7 a 0 a 7 1 0
7 7 1 0 15 7 5 0 13 7 2b0 0 5b 7 65 0 4b 7 4 5 1 0 38 7 7 5 4 0 d 7 40 0 2 4 1 0 1 5 1 7 b 0 2 7
e 0 17f8 7 8 0 4d6 7 2a 0 9 7 22e7 0 4 7 1 0 7 7 1 0 2 7 1 0 123 7 2d 0 3 7 11 0 4 7 8 0 18c 7
904 0 6b 7 5 0 d 7 3 0 9 7 7 0 a 7 2 0 1 5 2 0 1 4 4 7 125c 5 2e 7 2 5 17 7 9 0 74 7 3c 0 f6 7 a
0 27 7 2 0 3e 5 3 0 9 4 8 5 8 0 2 5 7 0 1e 5 4 0 3b 4 2 7 15 4 42 5 3 4 1 7 9a 0 14 7 c 4 57 7 9
0 19 7 87 0 55 7 1 0 47 7 1 0 2 7 2 0 1 7 2 0 2 7 2 0 4 7 1 0 c 7 1 0 1 7 1 0 7 7 1 0 41 7 1 0 4
7 2 0 8 7 1 0 7 7 1 0 1c 7 1 0 4 7 1 0 5 7 1 0 1 7 3 0 7 7 1 0 154 7 2 0 33 4 1 0 39 4 1 0 39 4 1
0 39 4 1 0 39 4 1 0 8 7 2 3 32 0 200 5 37 0 4 5 32 0 8 5 1 0 e 5 1 0 7 7 f 5 5 7 1 5 f 7 450 0 1f
7 e1 5 7 7 1 5 11 7 2 5 7 7 1 5 2 7 1 5 5 7 d5 0 2d 7 3 5 7 0 7 7 2 0 a 7 4 0 2 7 140 0 1e 5 1 7
11 0 2c 5 4 0 a 7 5 4 1 7 4e0 0 7 7 1 0 4 7 1 0 2 7 1 0 f 7 1 1 c5 7 2 1 9 5 7 7 29 1 44 5 7 1 1
7 4 1 a 7 4 1 2 7 311 1 44 7 4c 1 3d 7 c2 1 4 7 1 1 1b 7 1 1 2 7 1 1 1 7 2 1 1 7 1 1 a 7 1 1 4 7
1 1 1 7 1 1 1 7 6 1 1 7 4 1 1 7 1 1 1 7 1 1 1 7 1 1 3 7 1 1 2 7 1 1 1 7 2 1 1 7 1 1 1 7 1 1 1 7 1
1 1 7 1 1 1 7 1 1 2 7 1 1 1 7 2 1 4 7 1 1 7 7 1 1 4 7 1 1 4 7 1 1 1 7 1 1 a 7 1 1 11 7 5 1 3 7 1
1 5 7 1 1 11 7 34 4 2 7 10e 4 2c 7 4 4 64 7 c 4 f 7 2 4 f 7 1 4 f 7 1 4 25 7 a 3 b 4 5 0 1f 4 1 0
3a 4 6 0 3d 4 1 7 38 0 1d 7 d 0 2c 7 4 0 9 7 7 0 2 7 e 4 6 7 9a 4 3d8 7 5 4 10 7 3 4 d 7 3 4 74 7
c 4 59 7 7 4 c 7 4 4 1 7 f 4 c 7 4 4 38 7 8 4 a 7 6 4 28 7 8 4 1e 7 2 4 2 7 4e 4 154 7 c 4 e 7 2
4 5 7 3 4 5 7 3 4 7 7 9 4 1d 7 3 4 b 7 5 4 6 7 a 4 a 7 6 4 8 7 8 4 7 7 9 4 93 7 1 4 37 7 25 3 a 7
406 0 a6e0 7 20 0 1039 7 7 0 de 7 2 0 1682 7 e 0 1d31 7 c1f 0 21e 7 5e2 0 134b 7 aecb6 4 1 7 1e 4
60 7 80 5 f0 7 fe10 0 fffe 7 2 0 fffe 7 2"

/-- The direction of the code point with a number, given runs. -/
def directionIn : List Nat → Nat → Direction
  | k :: count :: rest, n => if n < count then .ofNumber k else directionIn rest (n - count)
  | _, _ => .unknown

/-- The direction of a code point. -/
def direction (p : Point) : Direction := directionIn directionRuns.get p.toNat

end FileDepot.Text
