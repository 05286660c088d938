import FileDepot.Text.CaseTable

/-!
# Small and capital letters

The full case mappings of Unicode. One letter needs its surroundings: a capital sigma at the end of
a word becomes the final small sigma.
-/

namespace FileDepot.Text

namespace Case

/-- The image of `n` under a table of runs. -/
def runImage? : List Nat → Nat → Option Nat
  | first :: last :: step :: image :: rest, n =>
    if first ≤ n && n ≤ last && (n - first) % step == 0 then some (image + (n - first))
    else runImage? rest n
  | _, _ => none

/-- The several characters of a long capital. -/
def longImage? (fuel : Nat) (table : List Nat) (n : Nat) : Option (List Nat) :=
  match fuel, table with
  | fuel + 1, letter :: size :: rest =>
    if letter = n then some (rest.take size) else longImage? fuel (rest.drop size) n
  | _, _ => none

/-- Whether a letter has a case. -/
def isCased (c : Char) : Bool := inside casedBounds c.toNat

/-- Whether a character is passed over when the case of a neighbour is asked. -/
def isIgnorable (c : Char) : Bool := inside ignorableBounds c.toNat

/-- Whether the first character that counts in `s` is a letter with a case. -/
def meetsCased (s : List Char) : Bool :=
  ((s.dropWhile isIgnorable).head?.map isCased).getD false

/-- The small form of a character, given the text before it, nearest character first, and the text
after it. -/
def small (before : List Char) (c : Char) (after : List Char) : List Char :=
  let n := c.toNat
  if n < 128 then [if 65 ≤ n && n ≤ 90 then Char.ofNat (n + 32) else c]
  else if n == 0x3a3 then
    [Char.ofNat (if meetsCased before && !meetsCased after then 0x3c2 else 0x3c3)]
  else if n == 0x130 then [Char.ofNat 0x69, Char.ofNat 0x307]
  else [((runImage? smallRuns n).map Char.ofNat).getD c]

/-- The capital form of a character. -/
def capital (c : Char) : List Char :=
  let n := c.toNat
  if n < 128 then [if 97 ≤ n && n ≤ 122 then Char.ofNat (n - 32) else c]
  else match longImage? longCapitals.length longCapitals n with
    | some image => image.map Char.ofNat
    | none => [((runImage? capitalRuns n).map Char.ofNat).getD c]

/-- The small form of a text whose part `before`, nearest character first, is already passed. -/
def smallAfter (before : List Char) : List Char → List Char
  | [] => []
  | c :: rest => small before c rest ++ smallAfter (c :: before) rest

end Case

/-- A string in small letters. -/
def lower (s : String) : String :=
  String.ofList (Case.smallAfter [] s.toList)

/-- A string in capital letters. -/
def upper (s : String) : String :=
  String.ofList (s.toList.flatMap Case.capital)

end FileDepot.Text
