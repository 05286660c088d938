import FileDepot.Number.Shortest
import FileDepot.Text.Blank
import FileDepot.Text.Digit

/-!
# Reading numbers from settings

Whole numbers and decimals as people write them: an optional sign, digits of any script, and single
underscores between digits. Decimals may have a point and an exponent, and may be `inf`, `infinity`
or `nan` in any case.
-/

namespace FileDepot.Number

/-- One character of a numeral: a digit by its value, or another character. -/
def plainChar (c : Char) : Char :=
  match Text.digitValue? c with
  | some d => Char.ofNat (48 + d)
  | none => c

/-- Whether a character is an ASCII digit. -/
def isDigit (c : Char) : Bool := '0' ≤ c && c ≤ '9'

/-- Drop the underscores of a numeral, which must each stand between two digits. -/
def dropUnderscores? (before : Char) : List Char → Option (List Char)
  | [] => if before = '_' then none else some []
  | c :: rest =>
    if c = '_' then
      if isDigit before then dropUnderscores? c rest else none
    else if before = '_' && !isDigit c then none
    else (dropUnderscores? c rest).map (c :: ·)

/-- The number that ASCII digits spell. -/
def ofDigits (s : List Char) : Nat :=
  s.foldl (fun n c => 10 * n + (c.toNat - 48)) 0

/-- Split off a sign: whether it was a minus, and the rest. -/
def splitSign : List Char → Bool × List Char
  | '-' :: rest => (true, rest)
  | '+' :: rest => (false, rest)
  | s => (false, s)

/-- The most digits that a whole number may have. -/
def maxDigits : Nat := 4300

/-- Read a whole number. -/
def readInt? (text : String) : Option Int := do
  let (negative, body) := splitSign ((Text.trim text.toList).map plainChar)
  let body ← dropUnderscores? ' ' body
  if body.isEmpty || !body.all isDigit || maxDigits < body.length then none
  else some (if negative then -(ofDigits body : Int) else ofDigits body)

/-- Read the exponent of a decimal: nothing, or a mark, a sign and digits. -/
def readExponent? : List Char → Option Int
  | [] => some 0
  | c :: rest =>
    if c = 'e' || c = 'E' then
      let (negative, digits) := splitSign rest
      if digits.isEmpty || !digits.all isDigit then none
      else some (if negative then -(ofDigits digits : Int) else ofDigits digits)
    else none

/-- Read an unsigned decimal: its digits as one number, and the place of the last one. -/
def readDecimal? (s : List Char) : Option (Nat × Int) := do
  let whole := s.takeWhile isDigit
  let rest := s.dropWhile isDigit
  let (fraction, rest) :=
    match rest with
    | '.' :: more => (more.takeWhile isDigit, more.dropWhile isDigit)
    | _ => ([], rest)
  if whole.isEmpty && fraction.isEmpty then none
  let exponent ← readExponent? rest
  some (ofDigits (whole ++ fraction), exponent - fraction.length)

/-- A word in small ASCII letters. -/
def smallWord (s : List Char) : String :=
  String.ofList (s.map fun c => if 'A' ≤ c && c ≤ 'Z' then Char.ofNat (c.toNat + 32) else c)

/-- Read a number of the binary64 format. -/
def readBinary64? (text : String) : Option Binary64 := do
  let s := (Text.trim text.toList).map plainChar
  let s ← if s.contains '_' then dropUnderscores? ' ' s else some s
  let (negative, body) := splitSign s
  let word := smallWord body
  if word = "inf" || word = "infinity" then some (.signed negative .infinite)
  else if word = "nan" then some .undefined
  else
    let (digits, exponent) ← readDecimal? body
    some (.ofDecimal negative digits exponent)

end FileDepot.Number
