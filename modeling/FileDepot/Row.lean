import FileDepot.Adapter

/-!
# Rows

A row shows the wanted columns of a record. Contents are shown whole, as text or in base 64; text that
is longer than a given number of characters is cut and marked.
-/

namespace FileDepot

/-- What a column of a row holds. -/
inductive Cell where
  /-- nothing -/
  | empty
  /-- text -/
  | text (s : List Point)
  /-- a number -/
  | number (n : Nat)
  deriving DecidableEq, Repr

/-- The wanted columns by name. -/
abbrev Row := List (String × Cell)

namespace Row

/-- What stands after text that was cut. -/
def truncatedMark : List Point := Point.ofString "\n\n...[TRUNCATED]..."

/-- The first `n` elements; a negative number counts from the end. -/
def firstPoints (s : List Point) (n : Int) : List Point :=
  if 0 ≤ n then s.take n.toNat else s.take (s.length - n.natAbs)

/-- Cut text that is longer than `maxChars` characters. -/
def truncate (s : List Point) (maxChars : Int) : List Point :=
  if maxChars < s.length then firstPoints s maxChars ++ truncatedMark else s

/-- The time of a column. -/
def moment (m : Option Moment) : Cell :=
  match m with
  | some m => .text (Point.ofString m.text)
  | none => .empty

/-- One column of a record, with its contents given. -/
def cell {σ : Type} (r : Record σ) (contents : Cell) : Column → Cell
  | .file => contents
  | .filePath => .text (Point.ofString r.name)
  | .lastModified => moment r.modified
  | .created => moment r.created
  | .size => (r.size.map Cell.number).getD .empty

/-- The wanted columns of a record, with its contents given. -/
def ofRecord {σ : Type} (r : Record σ) (contents : Cell) (columns : List String) :
    Except Fault Row :=
  columns.mapM fun name =>
    match Column.ofName? name with
    | some c => .ok (name, cell r contents c)
    | none => .error (.missingColumn name)

/-- Contents as they are shown: text cut to a number of characters, and bytes in base 64. -/
def contentCell (maxChars : Int) : Content → Cell
  | .text s => .text (truncate s maxChars)
  | .bytes data => .text (Point.ofString (Bytes.Base64.encode data))

/-- Read the contents of a record, if they are wanted. They must have the form that is asked for. -/
def contents {σ : Type} (r : Record σ) (columns : List String) (asText : Bool) (maxChars : Int) :
    Op σ Cell :=
  if !columns.contains Column.file.name then pure .empty
  else if r.content.charset.isSome != asText then Op.fail (.wrongForm asText)
  else contentCell maxChars <$> r.content.read

/-- The row of a record with its contents as text. -/
def text {σ : Type} (r : Record σ) (columns : List String) (maxChars : Int) : Op σ Row := do
  let c ← contents r columns true maxChars
  Op.ofExcept (ofRecord r c columns)

/-- The row of a record with its contents in base 64, which are never cut. -/
def binary {σ : Type} (r : Record σ) (columns : List String) : Op σ Row := do
  let c ← contents r columns false 0
  Op.ofExcept (ofRecord r c columns)

end Row

end FileDepot
