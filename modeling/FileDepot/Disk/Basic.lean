import FileDepot.Bytes.Basic
import FileDepot.Catalog
import FileDepot.Moment
import FileDepot.Path.Basic
import FileDepot.Text.Quoted

/-!
# Disks

A disk holds directories, files and symbolic links, each at its location: the names that lead to it
from the top. The top itself is a directory. Operations name what went wrong by a `Disk.Trouble`.
-/

namespace FileDepot

/-- The names that lead to a place on a disk, from the top. -/
abbrev Location := List String

namespace Location

/-- The written form of a location. -/
def text (l : Location) : String := "/" ++ Path.join l

/-- The names in a written path, where empty ones and `.` do not count. -/
def names (path : String) : List String :=
  ((Path.pieces path.toList).filter fun p => p ≠ [] && p ≠ ['.']).map String.ofList

/-- Whether a written path starts at the top. -/
def isAbsolute (path : String) : Bool := path.toList.head? = some '/'

/-- What stands between the separators of a written path. A separator in front does not count. -/
def pieces (path : String) : List String :=
  let s := path.toList
  (Path.pieces (if s.head? = some '/' then s.drop 1 else s)).map String.ofList

/-- The location of the directory that holds a location. -/
def parent (l : Location) : Location := l.dropLast

/-- The last name of a location. -/
def name (l : Location) : String := l.getLast?.getD ""

/-- A location relative to another one that it lies at or below. -/
def relative? (base l : Location) : Option (List String) :=
  if base.isPrefixOf l then some (l.drop base.length) else none

/-- The written form of names relative to some base, where `.` is the base itself. -/
def relativeText (names : List String) : String :=
  if names.isEmpty then "." else Path.join names

/-- Take each `..` together with the name before it, without looking at a disk. -/
def lexical (names : List String) : Location :=
  names.foldl (fun l n => if n = ".." then l.dropLast else l ++ [n]) []

/-- The location of a path from the top, by its pieces alone. Where exactly two separators stand in
front, an empty name tells so. -/
def ofPieces (pieces : List String) : Location :=
  let l := lexical (pieces.filter fun p => p ≠ "" && p ≠ ".")
  match pieces with
  | "" :: "" :: "" :: _ :: _ => l
  | "" :: "" :: _ => "" :: l
  | _ => l

/-- The pieces of a path that goes on from another one. It starts anew where it begins with a
separator. -/
def goOn (pieces rest : List String) : List String :=
  match rest with
  | "" :: _ :: _ => rest
  | _ => pieces ++ rest

end Location

/-- What can be at a location. -/
inductive Node where
  /-- a directory -/
  | directory
  /-- a file with its contents and the time of its last change -/
  | file (data : Bytes) (modified : Moment)
  /-- a symbolic link and where it points -/
  | link (target : String)
  deriving DecidableEq, Repr

/-- A disk: what is at each location below the top. -/
structure Disk where
  /-- the nodes by location -/
  nodes : Catalog Location Node

namespace Disk

/-- What goes wrong at a path. -/
inductive Trouble where
  /-- nothing is there -/
  | missing
  /-- a file stands where a directory is needed -/
  | notDirectory
  /-- a directory stands where a file is needed -/
  | isDirectory
  /-- something is there already -/
  | occupied
  /-- a directory is not empty -/
  | notEmpty
  /-- a name or a path is too long -/
  | tooLong
  /-- links lead on without an end -/
  | loop
  deriving DecidableEq, Repr

/-- The number of a trouble and its wording. -/
def Trouble.describe : Trouble → Nat × String
  | .missing => (2, "No such file or directory")
  | .occupied => (17, "File exists")
  | .notDirectory => (20, "Not a directory")
  | .isDirectory => (21, "Is a directory")
  | .tooLong => (36, "File name too long")
  | .notEmpty => (39, "Directory not empty")
  | .loop => (40, "Too many levels of symbolic links")

/-- A trouble at a path. -/
structure Fault where
  /-- what went wrong -/
  trouble : Trouble
  /-- the path as it was written -/
  path : String
  deriving DecidableEq, Repr

/-- The wording of a fault. -/
def Fault.message (f : Fault) : String :=
  let (number, words) := f.trouble.describe
  "[Errno " ++ toString number ++ "] " ++ words ++ ": " ++ Text.quoted f.path

/-- A disk with nothing below the top. -/
def empty : Disk := ⟨.empty⟩

/-- What is at a location. -/
def at? (d : Disk) (l : Location) : Option Node :=
  if l = [] then some .directory else d.nodes.get? l

/-- Put a node at a location. -/
def set (d : Disk) (l : Location) (n : Node) : Disk := ⟨d.nodes.insert l n⟩

/-- Take away what is at a location. -/
def unset (d : Disk) (l : Location) : Disk := ⟨d.nodes.erase l⟩

/-- The locations below a directory, at any depth. -/
def below (d : Disk) (l : Location) : List Location :=
  d.nodes.keys.filter fun k => l.isPrefixOf k && k ≠ l

/-- The locations in a directory. -/
def children (d : Disk) (l : Location) : List Location :=
  d.nodes.keys.filter fun k => k ≠ [] && k.dropLast = l

end Disk

end FileDepot
