import FileDepot.Row

/-!
# Tools

The four tools that clients call: two list files as rows, one saves a file, and one removes one.
Contents to be saved come as text, which is taken as characters, as bytes in base 64, or as an XML
document.
-/

namespace FileDepot.Tools

variable {σ η : Type}

/-- The contents to be saved, from text and the type that it is of. -/
def payload (file : List Point) (contentType : Option String) : Except Fault (Payload σ) :=
  let given := contentType.getD ""
  let kind := Text.lower (Text.strip (if given.isEmpty then "clob" else given))
  if kind = "clob" then .ok (.characters (.chars file))
  else if kind = "xml" then .ok (.xmlText file)
  else if kind = "blob" then
    if file.any fun p => 128 ≤ p.toNat then .error (.value .notAscii)
    else match Bytes.Base64.decode (file.filterMap Point.char?) with
      | .ok data => .ok (.binary (.bytes data))
      | .error e => .error (.refused (.base64 e))
  else .error (.refused (.contentType (optionText contentType)))

/-- The rows of files that a cursor gives, up to one that ends the listing. -/
def rows (a : Adapter σ η) (c : Cursor η) (row : Record σ → Op σ Row) : List η → Op σ (List Row)
  | [] => pure []
  | h :: rest => do
    match ← Op.attempt (a.record c h) with
    | .error f => if f.endsListing then pure [] else Op.fail f
    | .ok r => do
      let first ← row r
      let more ← rows a c row rest
      pure (first :: more)

/-- The columns that are wanted: all of them if none are named. -/
def wanted (columns : List String) : List String :=
  if columns.isEmpty then Column.allNames else columns

/-- A pattern that a tool is given: missing, a text, or something else. -/
abbrev Argument := Option (Option String)

/-- List files as rows. -/
def listing (a : Adapter σ η) (procedure : String) (pattern : Argument) (columns : List String)
    (row : Record σ → Op σ Row) : Op σ (List Row) :=
  match pattern with
  | none => Op.fail (.refused .noPatternArgument)
  | some pattern => do
    let c ← a.procedure (some procedure) pattern none (wanted columns)
    rows a c row c.remaining

/-- List files with their contents as text. -/
def getTextFiles (a : Adapter σ η) (pattern : Argument) (columns : List String) (maxChars : Int) :
    Op σ (List Row) :=
  listing a "getTextFiles" pattern columns fun r => Row.text r (wanted columns) maxChars

/-- List files with their contents in base 64. -/
def getFiles (a : Adapter σ η) (pattern : Argument) (columns : List String) : Op σ (List Row) :=
  listing a "getFiles" pattern columns fun r => Row.binary r (wanted columns)

/-- Save a file. -/
def saveFile (a : Adapter σ η) (path : Option String) (file : Option (List Point))
    (contentType : Option String) : Op σ String :=
  match file with
  | none => Op.fail (.refused .noFileArgument)
  | some file => do
    let p ← Op.ofExcept (payload file contentType)
    discard <| a.procedure (some "saveFile") path (some p) []
    pure ("Saved " ++ optionText path)

/-- Remove a file. -/
def deleteFile (a : Adapter σ η) (path : Option String) : Op σ String := do
  discard <| a.procedure (some "deleteFile") path none []
  pure ("Deleted " ++ optionText path)

/-- The names of the tools. -/
def names : List String := Kind.procedures.map Prod.fst

end FileDepot.Tools
