import FileDepot.Path.Glob
import FileDepot.Store.Basic

/-!
# The store on disk

Files are those below a root directory of a disk. Every path is brought to its real location first,
and refused when that lies outside the root. New contents are written to a scratch file beside the
target, which replaces the target only when all contents are there.

Every character may stand in a name but the separator and NUL. A `Volume` is such a store with an encoding of
names that lacks some of them.
-/

namespace FileDepot

/-- A store on disk. -/
structure Local where
  /-- the real location of the root -/
  root : Location
  /-- the time of new files -/
  now : Moment
  /-- the eight characters that end the name of a scratch file -/
  scratch : String
  deriving DecidableEq, Repr

/-- A file of a store on disk. -/
structure LocalFile where
  /-- where it was found -/
  place : Location
  /-- its path below the root -/
  path : String
  deriving DecidableEq, Repr

namespace Local

/-- The names of a path once it is joined to the root: an absolute path stands alone. -/
def joined (s : Local) (path : String) : List String :=
  let p := Path.normalize path
  if Location.isAbsolute p then Location.names p else s.root ++ Location.names p

/-- The real location of a path, which must lie below the root. Two separators in front name another
top. -/
def realPlace (s : Local) (d : Disk) (path : String) : Except Fault Location :=
  match d.resolve (s.joined path) with
  | .error (.loop p) => .error (.linkLoop p)
  | .error .nul => .error (.value .nulInPath)
  | .ok l =>
    if s.root.isPrefixOf l && l.head? ≠ some "" then .ok l else .error (.outside path)

/-- The file at a location. -/
def fileAt (s : Local) (l : Location) : LocalFile :=
  ⟨l, Location.relativeText ((Location.relative? s.root l).getD l)⟩

/-- Whether one location comes before another, name by name, or is the same. -/
def placeOrder : Location → Location → Bool
  | [], _ => true
  | _ :: _, [] => false
  | a :: l, b :: k => if a = b then placeOrder l k else textOrder a b

/-- The files among some locations, in the order of their names. -/
def filesAmong (s : Local) (d : Disk) (places : List Location) : Except Fault (List LocalFile) :=
  (places.mergeSort placeOrder).filterMapM fun l =>
    match d.isFile l with
    | .ok true => .ok (some (s.fileAt l))
    | .ok false => .ok none
    | .error e => .error (.disk e)

/-- Whether a pattern below its base may match below the directory itself. -/
def isDeep (glob : String) : Bool :=
  1 < (Path.segments glob).length ||
    (Path.Glob.suffixes glob.toList).any (['*', '*'].isPrefixOf ·)

/-- The files that a pattern stands for. -/
def resolve (s : Local) (d : Disk) (pattern : String) : Except Fault (List LocalFile) := do
  let (base, glob) := Path.splitPattern (Path.normalize pattern)
  let l ← s.realPlace d base
  if glob.isEmpty then
    if ← (d.isFile l).mapError .disk then pure [s.fileAt l]
    else if ← (d.isDirectory l).mapError .disk then s.filesAmong d (d.listing false l)
    else pure []
  else if ← (d.isDirectory l).mapError .disk then
    s.filesAmong d <| (d.listing (isDeep glob) l).filter fun q =>
      Path.Glob.isMatch (Path.join (q.drop l.length)) glob
  else pure []

/-- The contents of a file, which is looked for again at its path. -/
def contents (s : Local) (d : Disk) (path : String) : Except Fault Bytes := do
  let l ← s.realPlace d path
  let (data, _) ← (d.readFile [] l.text).mapError .disk
  pure data

/-- Make a directory and, where they are missing, the directories above it, counted by `fuel`. What
was made before a failure stays. -/
def makeDirectories (d : Disk) : Nat → Location → Except Fault Unit × Disk
  | 0, _ => (.ok (), d)
  | fuel + 1, l =>
    match d.makeDirectory l with
    | .ok d => (.ok (), d)
    | .error ⟨.missing, path⟩ =>
      if l = [] then (.error (.disk ⟨.missing, path⟩), d)
      else match makeDirectories d fuel l.parent with
        | (.error f, d) => (.error f, d)
        | (.ok (), d) =>
          match d.makeDirectory l with
          | .ok d => (.ok (), d)
          | .error e => settle d l e
    | .error e => settle d l e
where
  /-- A directory that is there already will do. -/
  settle (d : Disk) (l : Location) (e : Disk.Fault) : Except Fault Unit × Disk :=
    match d.isDirectory l with
    | .ok true => (.ok (), d)
    | .ok false => (.error (.disk e), d)
    | .error e => (.error (.disk e), d)

/-- The place of the scratch file for a target. -/
def scratchPlace (s : Local) (l : Location) : Location :=
  l.parent ++ ["." ++ l.name ++ "." ++ s.scratch]

/-- Store contents at a location that is not a directory, once its directory is there: in a scratch file
beside it first, which then takes its place. -/
def replace (s : Local) (d : Disk) (l : Location) (content : ByteReader) :
    Except Fault Unit × Disk :=
  match d.vacancy (s.scratchPlace l) with
  | .error e => (.error (.disk e), d)
  | .ok scratch =>
    let started := d.set scratch (.file [] s.now)
    match content.drainBlocks with
    | .error f => (.error f, started.unset scratch)
    | .ok data =>
      (.ok (), (started.unset scratch).set (scratch.parent ++ [l.name]) (.file data s.now))

/-- Store contents at a path. The answer is the real location. -/
def write (s : Local) (d : Disk) (path : String) (content : ByteReader) :
    Except Fault Location × Disk :=
  match s.realPlace d path with
  | .error f => (.error f, d)
  | .ok l =>
    match if l = s.root then .ok true else d.isDirectory l with
    | .error e => (.error (.disk e), d)
    | .ok true => (.error (.memory (.overDirectory path)), d)
    | .ok false =>
      match makeDirectories d (l.length + 1) l.parent with
      | (.error f, d) => (.error f, d)
      | (.ok (), d) =>
        match s.replace d l content with
        | (.error f, d) => (.error f, d)
        | (.ok (), d) => (.ok l, d)

/-- Remove what is at the location of a path: a file, or an empty directory. The answer is the location if
there was anything. -/
def remove (s : Local) (d : Disk) (path : String) : Except Fault (Option Location) × Disk :=
  match s.realPlace d path with
  | .error f => (.error f, d)
  | .ok l =>
    if l = s.root then (.error .rootRemoval, d)
    else match d.exists? l with
      | .error e => (.error (.disk e), d)
      | .ok false => (.ok none, d)
      | .ok true =>
        match takeAway d l with
        | .error e => (.error (.disk e), d)
        | .ok d => (.ok (some l), d)
where
  /-- What leads to a directory is removed as a directory, anything else as a file. -/
  takeAway (d : Disk) (l : Location) : Except Disk.Fault Disk :=
    match d.isDirectory l with
    | .error e => .error e
    | .ok true => d.removeDirectory l
    | .ok false => d.removeFile l

/-! ## As a store -/

/-- The size that a directory has. -/
def directorySize : Nat := 4096

/-- What a location leads to, or why nothing is found there. -/
def status (d : Disk) (l : Location) : Except Fault Node :=
  match d.locate l with
  | .error t => .error (.disk ⟨t, l.text⟩)
  | .ok found =>
    match d.at? found with
    | some n => .ok n
    | none => .error (.disk ⟨.missing, l.text⟩)

/-- The operations of a store on disk. -/
def store (s : Local) : Store Disk LocalFile where
  resolve pattern := Op.ask fun d => s.resolve d pattern
  contents h := Op.ask fun d => (s.contents d h.path).map .whole
  write path content := do
    let l ← Op.onStore fun d => s.write d path content
    Op.note .debug .disk ("Wrote " ++ l.text)
  remove path := do
    match ← Op.onStore fun d => s.remove d path with
    | some l =>
      Op.note .debug .disk ("Removed " ++ l.text)
      pure true
    | none => pure false
  path h := h.path
  name h := h.place.name
  modified h := Op.ask fun d => (status d h.place).map fun
    | .file _ modified => modified
    | _ => s.now
  created _ := pure none
  size h := Op.ask fun d => (status d h.place).map fun
    | .file data _ => data.length
    | _ => directorySize
  medium := .file

end Local

end FileDepot
