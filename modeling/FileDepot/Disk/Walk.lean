import FileDepot.Disk.Basic

/-!
# Walking a path

`Disk.walk` follows a path name by name as a system does: every name but the last must lead to a
directory, links are followed where they stand, and the number of links on the way is bounded.
-/

namespace FileDepot.Disk

/-- The most links that one walk follows. -/
def maxLinks : Nat := 40

/-- The most bytes of a name. -/
def maxName : Nat := 255

/-- The most bytes of a written path. -/
def maxPath : Nat := 4095

/-- The names of the target of a link, where `.`, or a separator at the end, asks for a directory. -/
def targetNames (target : String) : List String :=
  (Location.pieces target).filter (· ≠ "") ++
    (if target.toList.getLast? = some '/' then ["."] else [])

/-- The location from which the target of a link is followed. -/
def targetStart (dir : Location) (target : String) : Location :=
  if Location.isAbsolute target then [] else dir

/-- Follow names from a location, where `jump` goes on from a link with the names of its target and those
after it. A link that is the last name is itself the answer unless `follow` is set. -/
def walkOver (d : Disk) (follow : Bool) (jump : Location → List String → Except Trouble Location)
    (here : Location) : List String → Except Trouble Location
  | [] => .ok here
  | name :: rest =>
    if d.at? here ≠ some .directory then .error .notDirectory
    else if name = "." then walkOver d follow jump here rest
    else if name = ".." then walkOver d follow jump here.parent rest
    else if maxName < name.utf8ByteSize then .error .tooLong
    else
      let next := here ++ [name]
      match d.at? next with
      | none => .error .missing
      | some (.link target) =>
        if rest.isEmpty && !follow then .ok next
        else jump (targetStart here target) (targetNames target ++ rest)
      | some _ => walkOver d follow jump next rest

/-- Follow names from a location, over at most `links` links. -/
def walk (d : Disk) (follow : Bool) :
    (links : Nat) → Location → List String → Except Trouble Location
  | 0 => walkOver d follow fun _ _ => .error .loop
  | links + 1 => walkOver d follow (walk d follow links)

theorem walk_zero (d : Disk) (follow : Bool) :
    d.walk follow 0 = d.walkOver follow fun _ _ => .error .loop := rfl

theorem walk_succ (d : Disk) (follow : Bool) (links : Nat) :
    d.walk follow (links + 1) = d.walkOver follow (d.walk follow links) := rfl

attribute [irreducible] walk

/-- Find what a written path leads to, from a directory. -/
def find (d : Disk) (follow : Bool) (start : Location) (path : String) :
    Except Trouble Location :=
  if maxPath < path.utf8ByteSize then .error .tooLong
  else
    let start := if Location.isAbsolute path then [] else start
    walk d follow maxLinks start (Location.names path)

/-- Find what a location leads to, links included. -/
def locate (d : Disk) (l : Location) : Except Trouble Location :=
  d.find true [] l.text

/-- Whether a path that was not found is taken to be absent. The other troubles are reported. -/
def Trouble.isAbsence : Trouble → Bool
  | .missing | .notDirectory | .loop => true
  | _ => false

/-- Ask about what a location leads to; nothing is there if the path is taken to be absent. -/
def ask (d : Disk) (test : Node → Bool) (l : Location) : Except Fault Bool :=
  match d.locate l with
  | .ok found => .ok ((d.at? found).any test)
  | .error t => if t.isAbsence then .ok false else .error ⟨t, l.text⟩

/-- Whether a location leads to anything. -/
def exists? (d : Disk) (l : Location) : Except Fault Bool := d.ask (fun _ => true) l

/-- Whether a location leads to a directory. -/
def isDirectory (d : Disk) (l : Location) : Except Fault Bool :=
  d.ask (fun | .directory => true | _ => false) l

/-- Whether a location leads to a file. -/
def isFile (d : Disk) (l : Location) : Except Fault Bool :=
  d.ask (fun | .file .. => true | _ => false) l

/-- The contents and the time of the file that a written path leads to. -/
def readFile (d : Disk) (start : Location) (path : String) : Except Fault (Bytes × Moment) :=
  match d.find true start path with
  | .error t => .error ⟨t, path⟩
  | .ok found =>
    match d.at? found with
    | some (.file data modified) => .ok (data, modified)
    | some .directory => .error ⟨.isDirectory, path⟩
    | _ => .error ⟨.missing, path⟩

/-- Where the entry at a location is: the way to its directory is followed, its own name is not. -/
def entryOf (d : Disk) (l : Location) : Except Fault Location :=
  match d.walk true maxLinks [] l.parent with
  | .error t => .error ⟨t, l.text⟩
  | .ok dir => .ok (dir ++ [l.name])

/-- Where a new entry at a location goes: its directory must be there, its name free. -/
def vacancy (d : Disk) (l : Location) : Except Fault Location :=
  let path := l.text
  if maxPath < path.utf8ByteSize then .error ⟨.tooLong, path⟩
  else match d.walk true maxLinks [] l.parent with
    | .error t => .error ⟨t, path⟩
    | .ok dir =>
      if d.at? dir ≠ some .directory then .error ⟨.notDirectory, path⟩
      else if maxName < l.name.utf8ByteSize then .error ⟨.tooLong, path⟩
      else if (d.at? (dir ++ [l.name])).isSome || l = [] then .error ⟨.occupied, path⟩
      else .ok (dir ++ [l.name])

/-- Make one directory. -/
def makeDirectory (d : Disk) (l : Location) : Except Fault Disk :=
  (d.vacancy l).map fun place => d.set place .directory

/-- Remove an empty directory. -/
def removeDirectory (d : Disk) (l : Location) : Except Fault Disk := do
  let place ← d.entryOf l
  match d.at? place with
  | none => .error ⟨.missing, l.text⟩
  | some .directory =>
    if (d.children place).isEmpty then .ok (d.unset place) else .error ⟨.notEmpty, l.text⟩
  | some _ => .error ⟨.notDirectory, l.text⟩

/-- Remove a file or a link. -/
def removeFile (d : Disk) (l : Location) : Except Fault Disk := do
  let place ← d.entryOf l
  match d.at? place with
  | none => .error ⟨.missing, l.text⟩
  | some .directory => .error ⟨.isDirectory, l.text⟩
  | some _ => .ok (d.unset place)

/-- The locations in the directory that a location leads to, or all that are below it, named from the
location itself. -/
def listing (d : Disk) (deep : Bool) (l : Location) : List Location :=
  match d.locate l with
  | .error _ => []
  | .ok found =>
    (if deep then d.below found else d.children found).map fun q => l ++ q.drop found.length

end FileDepot.Disk
