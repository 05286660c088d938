import FileDepot.Text.Blank

/-!
# Relative paths

A path names a place below a root by its segments, written with `/` or a backslash between them.
`Path.normalize` cleans a path as a user wrote it; `Path.segments` reads off its segments, where
empty ones and `.` do not count; `Path.splitPattern` cuts a pattern before its first segment that
holds a wildcard.
-/

namespace FileDepot.Path

open FileDepot.Text

/-- Write every separator as `/`. -/
def unifySeparators (s : List Char) : List Char :=
  s.map fun c => if c = '\\' then '/' else c

/-- Drop the `./` marks a text begins with. -/
def dropHere : List Char → List Char
  | '.' :: '/' :: rest => dropHere rest
  | s => s

/-- The clean form of a path, on characters. -/
def normalizeChars (s : List Char) : List Char :=
  let s := dropHere ((unifySeparators (trim s)).dropWhile (· = '/'))
  if s = ['.'] then [] else trimEndBy (· = '/') s

/-- The clean form of a path: no blanks at its edges, one kind of separator, no leading separator,
no leading `./` and no trailing separator. -/
def normalize (p : String) : String :=
  String.ofList (normalizeChars p.toList)

/-- The pieces of a text between its `/` characters. -/
def pieces : List Char → List (List Char)
  | [] => [[]]
  | c :: rest =>
    if c = '/' then [] :: pieces rest
    else match pieces rest with
      | [] => [[c]]
      | p :: ps => (c :: p) :: ps

/-- The segments of a path on characters: its pieces, without empty ones and `.`. -/
def segmentChars (s : List Char) : List (List Char) :=
  (pieces (unifySeparators (trim s))).filter fun p => p ≠ [] && p ≠ ['.']

/-- The segments of a path. -/
def segments (p : String) : List String :=
  (segmentChars p.toList).map String.ofList

/-- Segments with a `/` between each two. -/
def join (segs : List String) : String :=
  String.ofList (['/'].intercalate (segs.map String.toList))

/-- Whether a character is a wildcard. -/
def isWildcard (c : Char) : Bool :=
  c = '*' || c = '?' || c = '['

/-- Whether a text holds a wildcard. -/
def hasWildcard (s : String) : Bool :=
  s.toList.any isWildcard

/-- A pattern as its segments before the first one that holds a wildcard, and the rest. -/
def splitPattern (p : String) : String × String :=
  let segs := segments p
  (join (segs.takeWhile (!hasWildcard ·)), join (segs.dropWhile (!hasWildcard ·)))

/-- The last segment of a path: the text after its last `/`. -/
def baseName (p : String) : String :=
  String.ofList (p.toList.reverse.takeWhile (· ≠ '/')).reverse

/-- Append a path to another: an absolute second path stands alone. -/
def append (p q : String) : String :=
  if q.toList.head? = some '/' then q
  else if p.isEmpty || p.toList.getLast? = some '/' then p ++ q
  else p ++ "/" ++ q

/-- What is left of `s` once `p` is cut off its front, if `s` begins with `p`. -/
def stripFront? (p s : String) : Option String :=
  if p.toList.isPrefixOf s.toList then some (String.ofList (s.toList.drop p.toList.length))
  else none

end FileDepot.Path
