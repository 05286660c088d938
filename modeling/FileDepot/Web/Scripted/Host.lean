import FileDepot.Number.Reading
import FileDepot.Text.Case
import FileDepot.Web.Scripted.Domain
import FileDepot.Web.Scripted.Escape

/-!
# Hosts

A host of the scripted network is given by four numbers, by eight groups of digits in brackets, or by a
name. A name has no capital letters, and one beyond ASCII is written label by label in its ASCII form.
-/

namespace FileDepot.Web.Scripted

/-- Why a text is no host. -/
inductive HostFault where
  /-- it looks like four numbers and is none -/
  | fourNumbers (host : List Point)
  /-- it stands in brackets and is not made of groups -/
  | groups (host : List Point)
  /-- its name has no ASCII form -/
  | name (host : List Point)
  deriving DecidableEq, Repr

namespace Host

/-- Pieces of a text between the characters of a kind. -/
def piecesAt (c : Char) : List Char → List (List Char)
  | [] => [[]]
  | d :: rest =>
    if d = c then [] :: piecesAt c rest
    else match piecesAt c rest with
      | [] => [[d]]
      | p :: ps => (d :: p) :: ps

/-! ## Four numbers -/

/-- Whether a host looks like four numbers with a point between each two. -/
def looksLikeFour (s : List Char) : Bool :=
  let numbers := piecesAt '.' s
  numbers.length = 4 && numbers.all fun n => !n.isEmpty && n.all Char.isDigit

/-- Whether a text is a number below 256 without needless zeros. -/
def isOctet (s : List Char) : Bool :=
  !s.isEmpty && s.length ≤ 3 && s.all Char.isDigit && Number.ofDigits s < 256 &&
    (s.length = 1 || s.head? ≠ some '0')

/-- Whether a text is four numbers with a point between each two. -/
def isFour (s : List Char) : Bool :=
  (piecesAt '.' s).length = 4 && (piecesAt '.' s).all isOctet

/-! ## Eight groups -/

/-- Whether a text is a group of at most four digits in base sixteen. -/
def isGroup (s : List Char) : Bool :=
  s.length ≤ 4 && s.all fun c => (Text.hexValue? c).isSome

/-- Whether pieces are eight groups. One empty piece that is neither first nor last stands for any
number of groups; only next to it may the first or the last piece be empty. -/
def areGroups (parts : List (List Char)) : Bool :=
  let middle := (parts.drop 1).dropLast
  let gaps := middle.countP (·.isEmpty)
  let edges := (if parts.head? = some [] then 1 else 0) + (if parts.getLast? = some [] then 1 else 0)
  let startsOpen := parts.head? = some [] && middle.head? ≠ some []
  let endsOpen := parts.getLast? = some [] && middle.getLast? ≠ some []
  parts.all isGroup &&
    (if gaps = 0 then parts.length = 8 && edges = 0
    else gaps = 1 && !startsOpen && !endsOpen && parts.length ≤ 8 + edges)

/-- Whether a text is eight groups, of which the last two may be written as four numbers, and a zone
may follow. -/
def isEight (s : List Char) : Bool :=
  let address := s.takeWhile (· ≠ '%')
  let zone := s.dropWhile (· ≠ '%')
  let parts := piecesAt ':' address
  let last := parts.getLast?.getD []
  let full := if last.contains '.' then parts.dropLast ++ [['0'], ['0']] else parts
  (zone.isEmpty || (zone.length ≠ 1 && !zone.tail.contains '%')) && 3 ≤ parts.length &&
    (!last.contains '.' || isFour last) && areGroups full

/-! ## Names -/

/-- The normal form of a host of characters. -/
def readChars (s : List Char) : Except HostFault (List Char) :=
  if looksLikeFour s then
    if isFour s then .ok s else .error (.fourNumbers (s.map .char))
  else if 2 ≤ s.length && s.head? = some '[' && s.getLast? = some ']' then
    let inner := (s.drop 1).dropLast
    if isEight inner then .ok inner else .error (.groups (s.map .char))
  else
    let small := (Text.lower (String.ofList s)).toList
    if s.all (·.toNat < 128) then .ok (escape hostUnsafe small)
    else (Domain.encode (small.map .char)).mapError fun _ => .name (s.map .char)

/-- The normal form of a host. No host holds a surrogate. -/
def read (s : List Point) : Except HostFault (List Char) :=
  if s.any Point.isSurrogate then
    .error (if s.head? = some (.char '[') && s.getLast? = some (.char ']') then .groups s
      else .name s)
  else readChars (s.filterMap Point.char?)

end Host

end FileDepot.Web.Scripted
