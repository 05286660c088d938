import FileDepot.Path.Basic

/-!
# Globs

A glob is matched segment by segment. The segment `**` stands for any number of segments; any other
is a *token*, matched against exactly one segment: `*` stands for any characters, `?` for one, and
brackets for one character of a class. `matchParts` says what a token matches; `matchToken_eq` says
that the matching in use, which tries no end of a text twice, tells the same.
-/

namespace FileDepot.Path.Glob

/-! ## Character classes -/

/-- One member of a bracketed class: a range from `lo` to `hi`, both included. -/
structure Span where
  /-- the first character of the range -/
  lo : Char
  /-- the last character of the range -/
  hi : Char
  deriving DecidableEq, Repr

/-- A part of a class as it is read: a character, or a hyphen that makes a range. -/
inductive Mark where
  /-- a character that stands for itself -/
  | plain (c : Char)
  /-- a hyphen between the ends of a range -/
  | hyphen
  deriving DecidableEq, Repr

/-- The spans of a class. A hyphen that is first, or last, stands for itself. -/
def spans : List Mark → List Span
  | [] => []
  | .plain a :: .hyphen :: .plain b :: rest => ⟨a, b⟩ :: spans rest
  | .plain a :: rest => ⟨a, a⟩ :: spans rest
  | .hyphen :: rest => ⟨'-', '-'⟩ :: spans rest

/-- Cut the text of a class at the hyphens that make ranges: the first hyphen at `skip` characters
or later, then each later one that is at least two characters on. The characters read since the last
cut come first, latest one first. -/
def chunks (now : List Char) (skip : Nat) : List Char → List (List Char)
  | [] => [now.reverse]
  | c :: rest =>
    match skip with
    | 0 => if c = '-' then now.reverse :: chunks [] 2 rest else chunks (c :: now) 0 rest
    | k + 1 => chunks (c :: now) k rest

/-- Give a hyphen at the very end back to the chunk before it. -/
def keepLastHyphen : List (List Char) → List (List Char)
  | [a, []] => [a ++ ['-']]
  | a :: rest => a :: keepLastHyphen rest
  | [] => []

/-- Drop the ranges that run backwards: two chunks around such a hyphen become one, without the two
ends. -/
def dropEmptyRanges : List (List Char) → List (List Char)
  | [] => []
  | a :: rest =>
    match a.getLast?, dropEmptyRanges rest with
    | some hi, (lo :: b) :: more =>
      if lo < hi then (a.dropLast ++ b) :: more else a :: (lo :: b) :: more
    | _, rest => a :: rest

/-- The marks of a class: the chunks with a hyphen between each two. -/
def marks (cs : List (List Char)) : List Mark :=
  [Mark.hyphen].intercalate (cs.map (·.map Mark.plain))

/-- The text of a class as marks. -/
def classMarks (s : List Char) : List Mark :=
  if s.contains '-' then
    marks (dropEmptyRanges (keepLastHyphen (chunks [] (if s.head? = some '!' then 2 else 1) s)))
  else s.map Mark.plain

/-! ## Tokens -/

/-- One part of a token. -/
inductive Part where
  /-- any characters, or none -/
  | star
  /-- any one character -/
  | any
  /-- one character in the spans, or outside them -/
  | oneOf (negated : Bool) (spans : List Span)
  /-- one character that stands for itself -/
  | literal (c : Char)
  deriving DecidableEq, Repr

/-- Whether a part that takes one character takes `c`. -/
def Part.takes : Part → Char → Bool
  | .star, _ => true
  | .any, _ => true
  | .oneOf negated spans, c => (spans.any fun s => s.lo ≤ c && c ≤ s.hi) != negated
  | .literal d, c => c = d

/-- The part that a class stands for. -/
def Part.ofClass (s : List Char) : Part :=
  match classMarks s with
  | [] => .oneOf false []
  | [.plain '!'] => .any
  | .plain '!' :: rest => .oneOf true (spans rest)
  | all => .oneOf false (spans all)

/-- Split the text after an opening bracket at the bracket that closes it, if there is one. A
bracket that comes first, or just after `!`, belongs to the class. -/
def closeClass? (s : List Char) : Option (List Char × List Char) :=
  let head := if s.head? = some '!' then 1 else 0
  let head := if s[head]? = some ']' then head + 1 else head
  let body := (s.drop head).takeWhile (· ≠ ']')
  match (s.drop head).dropWhile (· ≠ ']') with
  | _ :: rest => some (s.take head ++ body, rest)
  | [] => none

/-- The parts of a token. `fuel` bounds the number of parts; the length of the text is enough. -/
def partsWithin (fuel : Nat) (s : List Char) : List Part :=
  match fuel, s with
  | fuel + 1, c :: rest =>
    if c = '*' then .star :: partsWithin fuel rest
    else if c = '?' then .any :: partsWithin fuel rest
    else if c = '[' then
      match closeClass? rest with
      | some (body, after) => Part.ofClass body :: partsWithin fuel after
      | none => .literal c :: partsWithin fuel rest
    else .literal c :: partsWithin fuel rest
  | _, _ => []

/-- Several stars in a row are one. -/
def mergeStars : List Part → List Part
  | .star :: .star :: rest => mergeStars (.star :: rest)
  | p :: rest => p :: mergeStars rest
  | [] => []

/-- The parts of a token. -/
def parts (token : List Char) : List Part :=
  mergeStars (partsWithin token.length token)

/-- The ends of a list, from the whole list to the empty one. -/
def suffixes {α : Type} : List α → List (List α)
  | [] => [[]]
  | x :: rest => (x :: rest) :: suffixes rest

/-- Whether parts match a whole text. -/
def matchParts : List Part → List Char → Bool
  | [], s => s.isEmpty
  | .star :: ps, s => (suffixes s).any (matchParts ps)
  | p :: ps, s =>
    match s with
    | [] => false
    | c :: rest => p.takes c && matchParts ps rest

/-! ### Matching all ends of a text at once

A text is matched from its last part back, for all its ends at once, so that no end is tried twice. -/

/-- For each place in a list, whether `true` stands there or later. -/
def anyFrom : List Bool → List Bool
  | [] => []
  | b :: rest =>
    match anyFrom rest with
    | [] => [b]
    | later :: more => (b || later) :: later :: more

/-- For each end of a text, whether a part takes its first character and what follows matches, as
`ends` tells for each end. -/
def takeFirst (p : Part) : List Char → List Bool → List Bool
  | [], _ => [false]
  | c :: s, ends => (p.takes c && ends.tail.head?.getD false) :: takeFirst p s ends.tail

/-- For each end of a text, from the whole text to the empty one, whether parts match it. -/
def matchEnds : List Part → List Char → List Bool
  | [], s => (suffixes s).map List.isEmpty
  | .star :: ps, s => anyFrom (matchEnds ps s)
  | p :: ps, s => takeFirst p s (matchEnds ps s)

theorem head?_suffixes {α : Type} (s : List α) : (suffixes s).head? = some s := by
  cases s <;> rfl

theorem anyFrom_map_suffixes {α : Type} (f : List α → Bool) (s : List α) :
    anyFrom ((suffixes s).map f) = (suffixes s).map fun t => (suffixes t).any f := by
  induction s with
  | nil => simp [suffixes, anyFrom]
  | cons x s ih =>
    simp only [suffixes, List.map_cons, anyFrom, ih, List.any_cons]
    have := head?_suffixes s
    cases hs : suffixes s with
    | nil => simp [hs] at this
    | cons t more =>
      rw [hs, List.head?_cons, Option.some.injEq] at this
      subst this
      simp [hs]

theorem takeFirst_map_suffixes (p : Part) (f : List Char → Bool) (s : List Char) :
    takeFirst p s ((suffixes s).map f) = (suffixes s).map fun t =>
      match t with
      | [] => false
      | c :: rest => p.takes c && f rest := by
  induction s with
  | nil => rfl
  | cons c s ih =>
    simp [suffixes, takeFirst, List.head?_map, head?_suffixes, ih]

/-- Matching all ends at once tells the same as matching each. -/
theorem matchEnds_eq (ps : List Part) (s : List Char) :
    matchEnds ps s = (suffixes s).map (matchParts ps) := by
  induction ps with
  | nil =>
    have : matchParts [] = List.isEmpty := by funext t; simp [matchParts]
    rw [matchEnds, this]
  | cons p ps ih =>
    cases p with
    | star =>
      simp only [matchEnds, ih, anyFrom_map_suffixes]
      rfl
    | any | oneOf | literal =>
      simp only [matchEnds, ih, takeFirst_map_suffixes]
      rfl

/-- Whether a token matches one segment. -/
def matchToken (token segment : String) : Bool :=
  (matchEnds (parts token.toList) segment.toList).head?.getD false

theorem matchToken_eq (token segment : String) :
    matchToken token segment = matchParts (parts token.toList) segment.toList := by
  simp [matchToken, matchEnds_eq, head?_suffixes]

/-! ## Whole globs -/

/-- Whether the segments of a glob match the segments of a path. -/
def matchSegments : List String → List String → Bool
  | [], s => s.isEmpty
  | t :: g, s =>
    if t = "**" then (suffixes s).any (matchSegments g)
    else match s with
      | [] => false
      | x :: rest => matchToken t x && matchSegments g rest

/-- The segments of a glob. One that is empty but for blanks and separators matches everything. -/
def globSegments (pattern : String) : List String :=
  let pat := Text.trimBy (· = '/') (unifySeparators (Text.trim pattern.toList))
  if pat = [] then ["**", "*"] else segments (String.ofList pat)

/-- Whether a path matches a glob. -/
def isMatch (path pattern : String) : Bool :=
  matchSegments (globSegments pattern) (segments path)

end FileDepot.Path.Glob
