import FileDepot.Encoding.Punycode
import FileDepot.Text.Direction
import FileDepot.Text.Normal
import FileDepot.Text.Quoted
import FileDepot.Web.Scripted.DomainTable

/-!
# Names of hosts

In the scripted network a name is a row of labels between points. In the ASCII form of a name each label
beyond ASCII is a code after a mark. `Domain.encode` gives the ASCII form, and `Domain.decode` the
labels behind the codes. Both hold every label against the rules for labels: which code points it may
hold, some of them only beside others, and how directions of writing may mix.
-/

namespace FileDepot.Web.Scripted.Domain

open Encoding Text

/-- Why a text is no name. -/
inductive Fault where
  /-- the name is too long -/
  | tooLongName
  /-- the name is empty -/
  | emptyName
  /-- a label is too long -/
  | tooLong
  /-- a label is empty -/
  | empty
  /-- a label is not in its normal form -/
  | notNormal
  /-- the third and fourth character of a label are hyphens -/
  | hyphensInside
  /-- a label begins or ends with a hyphen -/
  | hyphenAtEdge
  /-- a label begins with a mark -/
  | leadingMark
  /-- a code point that no label may hold -/
  | codepoint (p : Point) (place : Nat) (label : List Point)
  /-- a joiner that does not stand beside the right letters -/
  | joiner (p : Point) (place : Nat) (label : List Point)
  /-- a joiner after a character without a name -/
  | unknownNeighbour (p : Point) (place : Nat) (label : List Point)
  /-- another code point that does not stand beside the right ones -/
  | context (p : Point) (place : Nat) (label : List Point)
  /-- a code point without a direction -/
  | unknownDirection (place : Nat) (label : List Point)
  /-- the first code point has no direction of its own -/
  | firstDirection (label : List Point)
  /-- a code point that does not go from right to left -/
  | rightDirection (place : Nat)
  /-- a code point that does not go from left to right -/
  | leftDirection (place : Nat)
  /-- digits of two kinds -/
  | mixedDigits
  /-- the last code point has the wrong direction -/
  | lastDirection
  /-- nothing stands after the mark of a code -/
  | noCode
  /-- a code ends with a hyphen -/
  | codeHyphen
  /-- a code that cannot be read -/
  | badCode
  deriving DecidableEq, Repr

/-- A code point by its number. -/
def numberText (p : Point) : String :=
  let n := p.toNat
  "U+" ++ String.ofList
    ((if n < 0x10000 then hexPadded 4 n else if n < 0x100000 then hexPadded 5 n
      else hexPadded 6 n).map Char.toUpper)

/-- The wording of a fault. -/
def Fault.message : Fault → String
  | .tooLongName => "Domain too long"
  | .emptyName => "Empty domain"
  | .tooLong => "Label too long"
  | .empty => "Empty Label"
  | .notNormal => "Label must be in Normalization Form C"
  | .hyphensInside => "Label has disallowed hyphens in 3rd and 4th position"
  | .hyphenAtEdge => "Label must not start or end with a hyphen"
  | .leadingMark => "Label begins with an illegal combining character"
  | .codepoint p place label =>
    "Codepoint " ++ numberText p ++ " at position " ++ toString place ++ " of " ++
      quotedPoints label ++ " not allowed"
  | .joiner p place label =>
    "Joiner " ++ numberText p ++ " not allowed at position " ++ toString place ++ " in " ++
      quotedPoints label
  | .unknownNeighbour p place label =>
    "Unknown codepoint adjacent to joiner " ++ numberText p ++ " at position " ++
      toString place ++ " in " ++ quotedPoints label
  | .context p place label =>
    "Codepoint " ++ numberText p ++ " not allowed at position " ++ toString place ++ " in " ++
      quotedPoints label
  | .unknownDirection place label =>
    "Unknown directionality in label " ++ quotedPoints label ++ " at position " ++ toString place
  | .firstDirection label =>
    "First codepoint in label " ++ quotedPoints label ++ " must be directionality L, R or AL"
  | .rightDirection place =>
    "Invalid direction for codepoint at position " ++ toString place ++ " in a right-to-left label"
  | .leftDirection place =>
    "Invalid direction for codepoint at position " ++ toString place ++ " in a left-to-right label"
  | .mixedDigits => "Can not mix numeral types in a right-to-left label"
  | .lastDirection => "Label ends with illegal codepoint directionality"
  | .noCode => "Malformed A-label, no Punycode eligible content found"
  | .codeHyphen => "A-label must not end with a hyphen"
  | .badCode => "Invalid A-label"

/-! ## Code points beside others -/

/-- Whether a character has no name: it has no place in the tables, or is an ideograph of Tangut. -/
def isNameless (p : Point) : Bool :=
  let n := p.toNat
  direction p == .unknown || (0x17000 ≤ n && n < 0x187f8) || (0x18d00 ≤ n && n < 0x18d09)

/-- Whether a mark silences the vowel of its letter. -/
def isVirama (p : Point) : Bool := combiningClass p = 9

/-- Whether letters join across a code point. -/
def isTransparent (p : Point) : Bool := inside transparentBounds.get p.toNat

/-- The first code point that letters do not join across. -/
def firstLetter? (s : List Point) : Option Point := s.find? (!isTransparent ·)

/-- Whether a code point that joins letters, or keeps them apart, may stand between two texts, of which
the first is given backwards. No answer means that a neighbour is not known. -/
def joinerFits? (p : Point) (before after : List Point) : Option Bool :=
  match before with
  | [] => some false
  | q :: _ =>
    if isVirama q then some true
    else if combiningClass q = 0 && isNameless q then none
    else if p.toNat = 0x200c then
      some ((firstLetter? before).any (fun l => inside joinsNextBounds.get l.toNat) &&
        (firstLetter? after).any fun l => inside joinsLastBounds.get l.toNat)
    else some false

/-- Whether a code point is a digit from a run of ten. -/
def isDigitFrom (first : Nat) (p : Point) : Bool := first ≤ p.toNat && p.toNat < first + 10

/-- The first Arabic digit. -/
def arabicZero : Nat := 0x660

/-- The first digit of the extended Arabic ones. -/
def extendedZero : Nat := 0x6f0

/-- Whether a code point that needs others beside it may stand between two texts, of which the first is
given backwards. -/
def contextFits (p : Point) (before after : List Point) : Bool :=
  let n := p.toNat
  let all := before ++ p :: after
  if n = 0xb7 then before.head? == some (.char 'l') && after.head? == some (.char 'l')
  else if n = 0x375 then after.head?.any fun q => inside greekBounds.get q.toNat
  else if n = 0x5f3 || n = 0x5f4 then before.head?.any fun q => inside hebrewBounds.get q.toNat
  else if n = 0x30fb then
    all.any fun q => q.toNat ≠ 0x30fb && inside japaneseBounds.get q.toNat
  else if isDigitFrom arabicZero p then !all.any (isDigitFrom extendedZero)
  else !all.any (isDigitFrom arabicZero)

/-- Whether a code point joins letters or keeps them apart. -/
def isJoiner (p : Point) : Bool := p.toNat = 0x200c || p.toNat = 0x200d

/-- Whether a code point needs others beside it. -/
def isContextual (p : Point) : Bool :=
  [0xb7, 0x375, 0x5f3, 0x5f4, 0x30fb].contains p.toNat || isDigitFrom arabicZero p ||
    isDigitFrom extendedZero p

/-- Hold the code points of a label against the rules; `before` holds those that are passed, latest
first. -/
def checkPoints (label before : List Point) : List Point → Except Fault Unit
  | [] => .ok ()
  | p :: after =>
    let place := before.length + 1
    if inside validBounds.get p.toNat then checkPoints label (p :: before) after
    else if isJoiner p then
      match joinerFits? p before after with
      | some true => checkPoints label (p :: before) after
      | some false => .error (.joiner p place label)
      | none => .error (.unknownNeighbour p place label)
    else if isContextual p then
      if contextFits p before after then checkPoints label (p :: before) after
      else .error (.context p place label)
    else .error (.codepoint p place label)

/-! ## Directions -/

/-- Whether a label with such a code point is held against the rules of directions. -/
def needsCheck : Direction → Bool
  | .right | .arabicDigit => true
  | _ => false

/-- Go through the code points of a label that goes from right to left. `digits` tells which digits were
met, and `ends` whether the label may end here. -/
def checkRight (place : Nat) (digits : Option Direction) (ends : Bool) :
    List Direction → Except Fault Unit
  | [] => if ends then .ok () else .error .lastDirection
  | d :: rest =>
    let met := digits.or (some d)
    match d with
    | .left | .separator | .unknown => .error (.rightDirection place)
    | .right => checkRight (place + 1) digits true rest
    | .arabicDigit | .europeanDigit =>
      if met = some d then checkRight (place + 1) met true rest
      else .error .mixedDigits
    | .neutral => checkRight (place + 1) digits false rest
    | .mark => checkRight (place + 1) digits ends rest

/-- Go through the code points of a label that goes from left to right; `ends` tells whether the label
may end here. -/
def checkLeft (place : Nat) (ends : Bool) : List Direction → Except Fault Unit
  | [] => if ends then .ok () else .error .lastDirection
  | d :: rest =>
    match d with
    | .left | .europeanDigit => checkLeft (place + 1) true rest
    | .neutral => checkLeft (place + 1) false rest
    | .mark => checkLeft (place + 1) ends rest
    | _ => .error (.leftDirection place)

/-- Hold the directions of a label against the rules. -/
def checkDirections (label : List Point) : Except Fault Unit :=
  let directions := label.map direction
  match directions.findIdx? (· == .unknown) with
  | some i => .error (.unknownDirection (i + 1) label)
  | none =>
    if !directions.any needsCheck then .ok ()
    else match directions.head? with
      | some .right => checkRight 1 none false directions
      | some .left => checkLeft 1 false directions
      | _ => .error (.firstDirection label)

/-! ## Labels -/

/-- The most code points of a name that is looked at. -/
def longestName : Nat := 254

/-- The most characters of a label in its ASCII form. -/
def longestLabel : Nat := 63

/-- Hold a label against all rules. -/
def checkLabel (label : List Point) : Except Fault Unit := do
  if label.isEmpty then .error .empty
  else if longestName < label.length then .error .tooLong
  else if Normal.form label ≠ label then .error .notNormal
  else if (label.drop 2).take 2 = [.char '-', .char '-'] then .error .hyphensInside
  else if label.head? = some (.char '-') || label.getLast? = some (.char '-') then
    .error .hyphenAtEdge
  else if label.head?.any isMark then .error .leadingMark
  else
    checkPoints label [] label
    checkDirections label

/-- The mark of a label that is a code. -/
def mark : List Char := ['x', 'n', '-', '-']

/-- The label behind an ASCII form. -/
def readLabel (s : List Char) : Except Fault (List Point) := do
  let s := s.map Char.toLower
  if !mark.isPrefixOf s then
    let label := s.map Point.char
    checkLabel label
    pure label
  else
    let code := s.drop mark.length
    if code.isEmpty then .error .noCode
    else if code.getLast? = some '-' then .error .codeHyphen
    else match Punycode.decode (code.map fun c => UInt8.ofNat c.toNat) with
      | .error _ => .error .badCode
      | .ok label =>
        checkLabel label
        pure label

/-- The characters of a text that is all ASCII. -/
def ascii? (s : List Point) : Option (List Char) :=
  s.mapM fun p => p.char?.filter fun c => c.toNat < 128

/-- The ASCII form of a label. -/
def writeLabel (label : List Point) : Except Fault (List Char) := do
  let written ← match ascii? label with
    | some s => do
      discard <| readLabel s
      pure s
    | none => do
      checkLabel label
      pure (mark ++ Punycode.encode label)
  if longestLabel < written.length then .error .tooLong else pure written

/-! ## Names -/

/-- Whether a code point is one of the four points between labels. -/
def isPoint (p : Point) : Bool := [0x2e, 0x3002, 0xff0e, 0xff61].contains p.toNat

/-- The pieces of a text between its points. -/
def pieces : List Point → List (List Point)
  | [] => [[]]
  | p :: rest =>
    if isPoint p then [] :: pieces rest
    else match pieces rest with
      | piece :: more => (p :: piece) :: more
      | [] => [[p]]

/-- The labels of a name, and whether a point ends it. -/
def labels (name : List Point) : Except Fault (List (List Point) × Bool) :=
  if longestName < name.length then .error .tooLongName
  else if name.isEmpty then .error .emptyName
  else
    let all := pieces name
    if all.getLast? = some [] then .ok (all.dropLast, true) else .ok (all, false)

/-- The ASCII form of a name. -/
def encode (name : List Point) : Except Fault (List Char) := do
  let (parts, ended) ← labels name
  let written ← parts.mapM writeLabel
  let text := ['.'].intercalate (written ++ if ended then [[]] else [])
  if (if ended then longestName else longestName - 1) < text.length then .error .tooLongName
  else pure text

/-- The labels behind a name in its ASCII form. -/
def decode (name : List Char) : Except Fault (List (List Point)) := do
  let (parts, _) ← labels (name.map .char)
  parts.mapM fun label => readLabel (label.filterMap Point.char?)

end FileDepot.Web.Scripted.Domain
