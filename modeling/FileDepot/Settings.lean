import FileDepot.Adapter
import FileDepot.Disk.Resolve
import FileDepot.Number.Reading
import FileDepot.Store.Local
import FileDepot.Text.Case

/-!
# Settings

The settings of a server are read from named variables. A variable that is missing, or that does not
make sense, leaves the usual value.
-/

namespace FileDepot

/-- The settings of a server. -/
structure Settings where
  /-- the root of the store on disk -/
  root : Location
  /-- the name of the backend -/
  backend : String
  /-- the path of an archive -/
  archive : Option String
  /-- the address of an archive -/
  archiveUrl : String
  /-- the label of the encoding -/
  encoding : String
  /-- whether it is a fault when nothing is found -/
  failOnMissing : Bool
  /-- whether downloads make sure who answers -/
  verify : Bool
  /-- how long downloads wait, in seconds -/
  timeout : Number.Binary64
  /-- the most characters of a text file that are shown -/
  maxFileChars : Int
  /-- the name of the log level -/
  logLevel : String
  deriving DecidableEq, Repr

namespace Settings

/-- The most characters of a text file that are shown when nothing else is asked for. -/
def usualMaxFileChars : Int := 200000

/-- The names of the variables. -/
def variableNames : List String :=
  ["PROJECT_ROOT", "FILE_BACKEND", "FILE_ARCHIVE", "FILE_ARCHIVE_URL", "FILE_ENCODING",
    "FAIL_ON_MISSING", "HTTP_VERIFY", "HTTP_TIMEOUT", "MAX_FILE_CHARS", "LOG_LEVEL"]

/-- The variables by name. -/
abbrev Environment := String → Option String

/-- Whether a text means yes. -/
def isYes (s : String) : Bool :=
  ["1", "true", "yes", "y", "on"].contains (Text.lower (Text.strip s))

/-- A variable that means yes or no. -/
def flag (env : Environment) (name : String) (usual : Bool) : Bool :=
  ((env name).map isYes).getD usual

/-- The written form of a path as it is shown. -/
def pathText (raw : String) : String :=
  let slashes := (raw.toList.takeWhile (· = '/')).length
  let front := if slashes = 0 then "" else if slashes = 2 then "//" else "/"
  let text := front ++ Path.join (Location.names raw)
  if text.isEmpty then "." else text

/-- A path that is given relative to a directory. -/
def placed (start : Location) (path : String) : List String :=
  if Location.isAbsolute path then Location.names path else start ++ Location.names path

/-- Read the settings, on a disk and from a current directory. -/
def read (env : Environment) (d : Disk) (here : Location) : Except Fault Settings := do
  let root ← match d.resolve (placed here ((env "PROJECT_ROOT").getD ".")) with
    | .ok l => pure l
    | .error (.loop p) => .error (.linkLoop p)
    | .error .nul => .error (.value .nulInPath)
  let archive := Text.strip ((env "FILE_ARCHIVE").getD "")
  let encoding := Text.strip ((env "FILE_ENCODING").getD "")
  pure {
    root := root
    backend := Text.lower (Text.strip ((env "FILE_BACKEND").getD "local"))
    archive := if archive.isEmpty then none else some (pathText archive)
    archiveUrl := Text.strip ((env "FILE_ARCHIVE_URL").getD "")
    encoding := if encoding.isEmpty then Config.defaultLabel else encoding
    failOnMissing := flag env "FAIL_ON_MISSING" true
    verify := flag env "HTTP_VERIFY" false
    timeout := ((env "HTTP_TIMEOUT").bind Number.readBinary64?).getD (.ofDecimal false 20 0)
    maxFileChars := ((env "MAX_FILE_CHARS").bind Number.readInt?).getD usualMaxFileChars
    logLevel := Text.upper (Text.strip ((env "LOG_LEVEL").getD "INFO")) }

end Settings

end FileDepot
