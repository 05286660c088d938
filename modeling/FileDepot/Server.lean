import FileDepot.Logging
import FileDepot.Settings
import FileDepot.Store.Memory
import FileDepot.Tools
import FileDepot.Web.Client

/-!
# Serving files

A server keeps its files on disk or in memory, as its settings say. A store in memory can begin with
archives: one read from the disk, and one downloaded, whose files replace those of the first.
-/

namespace FileDepot

/-- Where files are kept. -/
inductive Backend where
  /-- on disk -/
  | onDisk
  /-- in memory -/
  | inMemory
  deriving DecidableEq, Repr

namespace Backend

/-- The backend with a name, where case and surrounding blanks do not count. -/
def ofName (name : Option String) : Except Fault Backend :=
  let given := name.getD ""
  let kind := Text.lower (Text.strip (if given.isEmpty then "local" else given))
  if kind = "virtual" then .ok .inMemory
  else if kind = "local" then .ok .onDisk
  else .error (.refused (.backend name))

end Backend

/-- What a store is opened from. -/
structure Sources where
  /-- the disk -/
  disk : Disk
  /-- the current directory -/
  here : Location
  /-- what the clock shows at each reading -/
  clock : Nat → Moment
  /-- the eight characters that end the name of a scratch file -/
  scratch : String

namespace Sources

/-- Open a store on disk below a root. -/
def openLocal (s : Sources) (root : String) : Except Fault Local :=
  match s.disk.resolve (Settings.placed s.here root) with
  | .ok l => .ok ⟨l, s.clock 0, s.scratch⟩
  | .error (.loop p) => .error (.linkLoop p)
  | .error .nul => .error (.value .nulInPath)

/-- Mount an archive from the disk in a store in memory. -/
def mountFile (s : Sources) (path place : String) : Op Memory Unit := do
  let (data, _) ← Op.ofExcept ((s.disk.readFile s.here path).mapError .disk)
  discard <| Memory.mountOp data place

/-- Fill a store in memory from an archive on disk and then from a downloaded one. -/
def fill (s : Sources) (archive : Option String) (downloaded : Option Bytes) : Op Memory Unit := do
  match archive with
  | some path => s.mountFile path ""
  | none => pure ()
  match downloaded with
  | some data => discard <| Memory.mountOp data ""
  | none => pure ()

end Sources

/-- A server that is ready. -/
structure Server where
  /-- its settings -/
  settings : Settings
  /-- how notes are shown -/
  logging : Logging.Setup
  /-- how its file operations work -/
  config : Config
  /-- where files are kept -/
  backend : Backend

namespace Server

/-- The note that a server makes when it is ready. -/
def readyText (s : Settings) (c : Config) : String :=
  "Serving " ++ s.backend ++ " files (encoding=" ++ c.codec.name ++ ", fail_on_missing=" ++
    (if c.failOnMissing then "True" else "False") ++ ")"

/-- Download the archive that the settings name. -/
def download {ρ : Type} (s : Settings) (layer : Web.Layer ρ) :
    Except Fault (Option Bytes) × List Web.Exchange :=
  if s.backend = "virtual" && !s.archiveUrl.isEmpty then
    let (result, log) := Web.Client.fetch ⟨s.timeout, s.verify⟩ layer (Point.ofString s.archiveUrl)
    (result.map some, log)
  else (.ok none, [])

/-- Make a server ready: the server, and the store in memory that it begins with. -/
def start (s : Settings) (sources : Sources) (downloaded : Option Bytes) :
    Op Memory Server := do
  match downloaded with
  | some data =>
    Op.note .info .download
      ("Downloaded archive " ++ s.archiveUrl ++ " (" ++ toString data.length ++ " bytes)")
  | none => pure ()
  let backend ← Op.ofExcept (Backend.ofName (some s.backend))
  if backend = .inMemory then sources.fill s.archive downloaded
  let config ← Op.ofExcept (Config.make s.encoding s.failOnMissing)
  Op.note .info .server (readyText s config)
  pure ⟨s, Logging.configure (some s.logLevel), config, backend⟩

/-- The store on disk of a server. -/
def localStore (s : Server) (sources : Sources) : Local :=
  ⟨s.settings.root, sources.clock 0, sources.scratch⟩

end Server

end FileDepot
