import FileDepot.Disk.Walk

/-!
# Real locations

The real location of a path is the one it has once every link on the way is replaced by its target. A
path may name things that are not there: they count as plain names. Links that lead back to
themselves have no real location, and the path is then left as it stands from such a link on.
-/

namespace FileDepot.Disk

/-- What following the links of a path ends with. -/
inductive Real where
  /-- the real location -/
  | found (l : Location)
  /-- a link that leads back to itself, and the pieces after it -/
  | looped (pieces : List String)
  /-- a name with a NUL character, which no system call takes -/
  | nul
  deriving DecidableEq, Repr

/-- Follow the links of a path from a location that is real, where empty pieces and `.` do not count.
`jump` follows the target of a link, given its location. -/
def realOver (d : Disk) (jump : Location → Location → List String → Real) (here : Location) :
    List String → Real
  | [] => .found here
  | name :: rest =>
    if name = "" || name = "." then realOver d jump here rest
    else if name = ".." then realOver d jump here.parent rest
    else if name.toList.contains '\x00' then .nul
    else
      let next := here ++ [name]
      match d.at? next with
      | some (.link target) =>
        match jump next (targetStart here target) (Location.pieces target) with
        | .found l => realOver d jump l rest
        | .looped pieces => .looped (Location.goOn pieces rest)
        | .nul => .nul
      | _ => realOver d jump next rest

/-- Follow the links of a path from a location that is real. `active` holds the links whose targets are
being followed, and `fuel` bounds how many more may join them. -/
def realFrom (d : Disk) :
    (fuel : Nat) → (active : List Location) → Location → List String → Real
  | 0, _ => realOver d fun next _ _ => .looped next
  | fuel + 1, active => realOver d fun next start pieces =>
    if active.contains next then .looped next else realFrom d fuel (next :: active) start pieces

theorem realFrom_zero (d : Disk) (active : List Location) :
    d.realFrom 0 active = d.realOver fun next _ _ => .looped next := rfl

theorem realFrom_succ (d : Disk) (fuel : Nat) (active : List Location) :
    d.realFrom (fuel + 1) active = d.realOver fun next start pieces =>
      if active.contains next then .looped next
      else d.realFrom fuel (next :: active) start pieces := rfl

attribute [irreducible] realFrom

/-- Follow the links of a path from the top. -/
def real (d : Disk) (names : List String) : Real :=
  realFrom d (d.nodes.entries.length + 1) [] [] names

/-- Why a path has no real location. -/
inductive Unreal where
  /-- the path leads in a circle -/
  | loop (path : String)
  /-- the path holds a NUL character -/
  | nul
  deriving DecidableEq, Repr

/-- The real location of a path from the top. A path that leads in a circle is refused, unless it
leads out of the circle again by its names alone. -/
def resolve (d : Disk) (names : List String) : Except Unreal Location :=
  match d.real names with
  | .found l => .ok l
  | .nul => .error .nul
  | .looped pieces =>
    let l := Location.ofPieces pieces
    if l.any (·.toList.contains '\x00') then .error .nul
    else match d.locate l with
      | .error .loop => .error (.loop l.text)
      | _ => .ok l

/-! ## Setting up a disk -/

/-- Make every directory on the way to a location that is missing. -/
def withParents (d : Disk) (l : Location) : Disk :=
  (List.range l.length).foldl
    (fun d n => if (d.at? (l.take n)).isNone then d.set (l.take n) .directory else d) d

/-- The location that a written path leads to or would have. -/
def landing (d : Disk) (start : Location) (path : String) : Location :=
  match d.real (if Location.isAbsolute path then Location.names path
      else start ++ Location.names path) with
  | .found l => l
  | .looped pieces => Location.ofPieces pieces
  | .nul => start

/-- Put a file at a path, and the directories on the way to it. -/
def putFile (d : Disk) (start : Location) (path : String) (data : Bytes) (modified : Moment) :
    Disk :=
  let l := d.landing start path
  (d.withParents l).set l (.file data modified)

/-- Put a directory at a path, and the directories on the way to it. -/
def putDirectory (d : Disk) (start : Location) (path : String) : Disk :=
  let l := d.landing start path
  let d := d.withParents l
  if (d.at? l).isNone then d.set l .directory else d

/-- The place of an entry itself, which may be a link: its directory is followed, its name is not. -/
def entryPlace (d : Disk) (start : Location) (path : String) : Location :=
  let names := Location.names path
  let dir := d.landing start (Path.join names.dropLast)
  dir ++ [names.getLast?.getD ""]

/-- Put a link at a path, and the directories on the way to it. -/
def putLink (d : Disk) (start : Location) (path target : String) : Disk :=
  let l := d.entryPlace start path
  (d.withParents l).set l (.link target)

/-- Take away what is at a path, with all that is below it. -/
def drop (d : Disk) (start : Location) (path : String) : Disk :=
  let l := d.entryPlace start path
  (d.below l).foldl unset (d.unset l)

end FileDepot.Disk
