import FileDepot.Archive.Entry
import FileDepot.Path.Glob
import FileDepot.Store.Basic

/-!
# The store in memory

Files are kept in a catalog by normal path. Directories are not kept: a path is a directory when the
path of some file lies below it. Archives can be mounted at any place. Writing a file sets the time of
its last change and, when it is new, the time it was made; a file from an archive has no such time.
-/

namespace FileDepot

/-- A file of the store in memory. -/
structure MemoryFile where
  /-- the contents -/
  data : Bytes
  /-- the time of the last change -/
  modified : Moment
  /-- the time the file was made, where it is known -/
  created : Option Moment
  deriving DecidableEq, Repr

/-- A store in memory. -/
structure Memory where
  /-- the files by normal path -/
  files : Catalog String MemoryFile
  /-- what the clock shows at each reading -/
  clock : Nat → Moment
  /-- how often the clock was read -/
  ticks : Nat

namespace Memory

/-- A store without files. -/
def empty (clock : Nat → Moment) : Memory := ⟨.empty, clock, 0⟩

/-- The normal form of a path: its segments with single separators. A path that leads upwards is
refused. -/
def normalize (path : String) : Except Fault String :=
  let segs := Path.segments (Path.normalize path)
  if segs.contains ".." then .error (.upward path) else .ok (Path.join segs)

/-- The text that the paths of files below a normal path begin with. -/
def front (p : String) : String := if p.isEmpty then "" else p ++ "/"

/-- Whether a normal path is a directory: it is the root, or the path of some file lies below it. -/
def isDirectory (m : Memory) (p : String) : Bool :=
  p.isEmpty || m.files.keys.any fun k => (Path.stripFront? (p ++ "/") k).isSome

/-- The paths that a normal pattern stands for: a file, the files of a directory, or the files below
the part without wildcards whose remaining path matches the rest. -/
def select (m : Memory) (base glob : String) : List String :=
  if glob.isEmpty then
    if m.files.contains base then [base]
    else m.files.keys.filter fun k =>
      (Path.stripFront? (front base) k).any fun rest => !rest.toList.contains '/'
  else m.files.keys.filter fun k =>
    (Path.stripFront? (front base) k).any fun rest => Path.Glob.isMatch rest glob

/-- The files that a pattern stands for, in the order of their paths. -/
def resolve (m : Memory) (pattern : String) : Except Fault (List (String × MemoryFile)) := do
  let p ← normalize pattern
  let (base, glob) := Path.splitPattern p
  pure <| ((m.select base glob).mergeSort textOrder).filterMap fun k =>
    (m.files.get? k).map fun f => (k, f)

/-- The contents of the file at a path. -/
def contents (m : Memory) (path : String) : Except Fault Bytes := do
  let p ← normalize path
  match m.files.get? p with
  | some f => .ok f.data
  | none => .error (.memory (.missing path))

/-- The proper beginnings of a normal path, as paths. -/
def ancestors (p : String) : List String :=
  let segs := (Path.pieces p.toList).map String.ofList
  (List.range segs.length).tail.map fun n => Path.join (segs.take n)

/-- Read the clock. -/
def tick (m : Memory) : Memory := { m with ticks := m.ticks + 1 }

/-- Put contents at a normal path at a moment. A file that is there keeps the time it was made. -/
def put (m : Memory) (p : String) (data : Bytes) (now : Moment) : Memory :=
  let created := match m.files.get? p with
    | some old => old.created
    | none => some now
  { m with files := m.files.insert p ⟨data, now, created⟩ }

/-- Store contents at a path. The answer is the normal path and the number of bytes. A path that leads
upwards is refused before the contents are read; after that the clock is read in any case. -/
def write (m : Memory) (path : String) (content : ByteReader) :
    Except Fault (String × Nat) × Memory :=
  match normalize path with
  | .error f => (.error f, m)
  | .ok p =>
    match content.drain with
    | .error f => (.error f, m)
    | .ok data =>
      if m.isDirectory p then (.error (.memory (.overDirectory path)), m.tick)
      else if (ancestors p).any m.files.contains then
        (.error (.memory (.belowFile path)), m.tick)
      else (.ok (p, data.length), (m.put p data (m.clock m.ticks)).tick)

/-- Remove the file at a path. The answer is its normal path if there was one. -/
def remove (m : Memory) (path : String) : Except Fault (Option String) × Memory :=
  match normalize path with
  | .error f => (.error f, m)
  | .ok p =>
    if m.files.contains p then (.ok (some p), { m with files := m.files.erase p })
    else if m.isDirectory p then (.error (.memory (.removeDirectory path)), m)
    else (.ok none, m)

/-! ## Mounting archives -/

/-- The normal path, contents and time of an entry of an archive at a normal place. -/
@[irreducible] def mountedEntry (place : String) (data : Bytes) (e : Archive.Entry) :
    Except Fault (String × MemoryFile) := do
  let p ← normalize (Path.append place e.name)
  let contents ← (e.contents data).mapError .archive
  let modified ← e.modified.mapError .moment
  pure (p, ⟨contents, modified, none⟩)

/-- Put the entries of an archive at a normal place, one after the other, up to one that fails. The
answer is the number of entries. Whether an entry is a directory is told by the last character of its name,
which an entry without a name does not have. -/
def mountEntries (place : String) (data : Bytes) (count : Nat) (m : Memory) :
    List Archive.Entry → Except Fault Nat × Memory
  | [] => (.ok count, m)
  | e :: rest =>
    if e.name.isEmpty then (.error (.archive .noName), m)
    else if e.isDirectory then mountEntries place data count m rest
    else match mountedEntry place data e with
      | .error f => (.error f, m)
      | .ok (p, file) =>
        mountEntries place data (count + 1) { m with files := m.files.insert p file } rest

/-- The entries of an archive. Data that is no archive as a whole is refused. -/
def archiveEntries (data : Bytes) : Except Fault (List Archive.Entry) :=
  match Archive.entries data with
  | .ok list => .ok list
  | .error e => .error (if e.isStructural then .refused (.archive e) else .archive e)

/-- Mount an archive at a place. The answer is the number of its files and the normal place. -/
def mount (m : Memory) (data : Bytes) (place : String) : Except Fault (Nat × String) × Memory :=
  match normalize place with
  | .error f => (.error f, m)
  | .ok p =>
    match archiveEntries data with
    | .error f => (.error f, m)
    | .ok list =>
      match mountEntries p data 0 m list with
      | (.ok count, m) => (.ok (count, p), m)
      | (.error f, m) => (.error f, m)

/-! ## As a store -/

/-- Mount an archive, with a note. -/
def mountOp (data : Bytes) (place : String) : Op Memory Nat := do
  let (count, p) ← Op.onStore fun m => m.mount data place
  Op.note .info .memory
    ("Mounted " ++ toString count ++ " archive file(s) at '/" ++ p ++ "'")
  pure count

/-- The operations of the store in memory. A handle is a path with the file as it was when the pattern
was resolved. -/
def store : Store Memory (String × MemoryFile) where
  resolve pattern := Op.ask fun m => m.resolve pattern
  contents h := Op.ask fun m => (m.contents h.1).map .whole
  write path content := do
    let (p, size) ← Op.onStore fun m => m.write path content
    Op.note .debug .memory
      ("Wrote virtual file " ++ p ++ " (" ++ toString size ++ " bytes)")
  remove path := do
    match ← Op.onStore fun m => m.remove path with
    | some p =>
      Op.note .debug .memory ("Removed virtual file " ++ p)
      pure true
    | none => pure false
  path h := h.1
  name h := Path.baseName h.1
  modified h := pure h.2.modified
  created h := pure h.2.created
  size h := pure h.2.data.length
  medium := .memory

end Memory

end FileDepot
