import FileDepot.Payload
import FileDepot.Text.Case

/-!
# Requests

A request asks for one of four operations: list files as text, list them as bytes, save a file, or
remove one. Each has a procedure that is called by name. A listing gives columns; the first two tell
the contents and the name, and the others are metadata.

A path or pattern is a text of characters, without lone surrogates, unlike the contents of files. They matter
where names are encoded, which is on a disk; a `Volume` says what comes of them there.
-/

namespace FileDepot

/-- What a request asks for. -/
inductive Kind where
  /-- list files as text -/
  | listText
  /-- list files as bytes -/
  | listBinary
  /-- save a file -/
  | save
  /-- remove a file -/
  | delete
  /-- something unknown -/
  | other (name : String)
  deriving DecidableEq, Repr

namespace Kind

/-- The name of a kind. -/
def name : Kind → String
  | .listText => "list-text"
  | .listBinary => "list-binary"
  | .save => "save"
  | .delete => "delete"
  | .other name => name

/-- The kind with a name. -/
def ofName (name : String) : Kind :=
  ([listText, listBinary, save, delete].find? (·.name == name)).getD (other name)

/-- Whether a kind lists files. -/
def isListing : Kind → Bool
  | .listText | .listBinary => true
  | _ => false

/-- The kinds with the names of their procedures. -/
def procedures : List (String × Kind) :=
  [("getTextFiles", listText), ("getFiles", listBinary), ("saveFile", save), ("deleteFile", delete)]

/-- The kind of a procedure by its name, where case and surrounding blanks do not count. -/
def ofProcedure (name : Option String) : Except Fault Kind :=
  let wanted := Text.lower (Text.strip (name.getD ""))
  match procedures.find? fun p => Text.lower p.1 == wanted with
  | some p => .ok p.2
  | none => .error (.refused (.procedure name))

end Kind

/-- A column of a listing. -/
inductive Column where
  /-- the contents -/
  | file
  /-- the name -/
  | filePath
  /-- the time of the last change -/
  | lastModified
  /-- the time the file was made -/
  | created
  /-- the size -/
  | size
  deriving DecidableEq, Repr

namespace Column

/-- The name of a column. -/
def name : Column → String
  | .file => "file"
  | .filePath => "filePath"
  | .lastModified => "lastModified"
  | .created => "created"
  | .size => "size"

/-- All columns, in order. -/
def all : List Column := [.file, .filePath, .lastModified, .created, .size]

/-- The names of all columns. -/
def allNames : List String := all.map name

/-- The column with a name. -/
def ofName? (s : String) : Option Column := all.find? (·.name == s)

/-- Whether a name stands for a column that needs no metadata. -/
def isPlain (s : String) : Bool := s == "file" || s == "filePath"

end Column

/-- A request for one operation. -/
structure Request (σ : Type) where
  /-- what is asked for -/
  kind : Kind
  /-- the path or pattern; none if it is missing or no text -/
  path : Option String
  /-- what is to be saved -/
  content : Option (Payload σ)
  /-- the columns of a listing -/
  columns : List String

/-- Whether columns ask for metadata. -/
def projectsMetadata (columns : List String) : Bool :=
  columns.any fun c => !Column.isPlain c

end FileDepot
