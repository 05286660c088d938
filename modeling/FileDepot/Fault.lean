import FileDepot.Archive.Directory
import FileDepot.Bytes.Base64
import FileDepot.Disk.Resolve
import FileDepot.Encoding.Charset
import FileDepot.Stream.ReadLength

/-!
# Faults

Everything that can go wrong, by its cause. `Fault.message` is the wording, `Fault.family` the kind of
trouble that a caller can tell apart, and `Fault.cause?` the fault that a fault was raised for.
-/

namespace FileDepot

/-- The kinds of trouble that the system itself reports. -/
inductive SystemFamily where
  /-- any other trouble -/
  | other
  /-- something is not there -/
  | fileNotFound
  /-- something is there already -/
  | fileExists
  /-- a directory stands where a file is needed -/
  | isADirectory
  /-- a file stands where a directory is needed -/
  | notADirectory
  /-- a right is missing -/
  | permission
  /-- it takes too long -/
  | timeout
  /-- an interruption -/
  | interrupted
  /-- it would have to wait -/
  | blockingIO
  /-- trouble with another process -/
  | childProcess
  /-- there is no such process -/
  | processLookup
  /-- trouble with a connection -/
  | connection
  /-- a connection was given up -/
  | connectionAborted
  /-- a connection was refused -/
  | connectionRefused
  /-- a connection was reset -/
  | connectionReset
  /-- nobody reads the other end -/
  | brokenPipe
  deriving DecidableEq, Repr

/-- The kinds of trouble that a caller can tell apart. -/
inductive Family where
  /-- trouble with file operations, not told further -/
  | depot
  /-- an argument is missing or malformed -/
  | invalidRequest
  /-- a path or pattern leads to nothing -/
  | notFound
  /-- a pattern cannot be resolved -/
  | resolution
  /-- a path leads out of the root -/
  | accessDenied
  /-- contents or metadata cannot be read -/
  | storage
  /-- a file cannot be saved -/
  | write
  /-- a file cannot be removed -/
  | delete
  /-- contents were opened before -/
  | streamConsumed
  /-- an archive cannot be downloaded -/
  | externalService
  /-- the system reports trouble -/
  | system (f : SystemFamily)
  /-- a text cannot be encoded -/
  | encode
  /-- bytes cannot be decoded -/
  | decode
  /-- other trouble with an encoding -/
  | unicode
  /-- a label is unknown -/
  | lookup
  /-- a value is of no use -/
  | value
  /-- a key is missing -/
  | key
  /-- contents do not have the form that is asked for -/
  | form
  /-- trouble that shows only as it happens -/
  | runtime
  /-- something is not supported -/
  | notImplemented
  /-- the data ends too early -/
  | endOfData
  /-- an archive is damaged -/
  | badArchive
  /-- compressed data is damaged -/
  | compression
  /-- a text is not base 64 -/
  | base64
  /-- a value is not of the type that is needed -/
  | type
  /-- a number is too large -/
  | overflow
  /-- there is no room -/
  | memory
  /-- a place beyond the end of a text or list -/
  | index
  /-- nothing more is to come -/
  | exhausted
  /-- any other kind, by its name -/
  | named (name : String)
  deriving DecidableEq, Repr

/-- Whether a kind of trouble is one of those that file operations raise on their own. -/
def Family.isOwn : Family → Bool
  | .depot | .invalidRequest | .notFound | .resolution | .accessDenied | .storage | .write
  | .delete | .streamConsumed | .externalService => true
  | _ => false

/-- Whether a kind of trouble is reported by the system. -/
def Family.isSystem : Family → Bool
  | .system _ => true
  | _ => false

/-- Whether a kind of trouble lies in an encoding. -/
def Family.isUnicode : Family → Bool
  | .encode | .decode | .unicode => true
  | _ => false

/-- Trouble that an HTTP layer reports. -/
structure Web.Trouble where
  /-- its kind -/
  family : Family
  /-- its wording -/
  message : String
  /-- the kind of trouble that it was raised for -/
  cause? : Option Family
  deriving DecidableEq, Repr

/-- Why a request is refused. -/
inductive Refusal where
  /-- there is no request -/
  | noRequest
  /-- no procedure has this name -/
  | procedure (name : Option String)
  /-- no operation has this kind -/
  | kind (name : String)
  /-- the pattern is missing -/
  | noPattern
  /-- a column is unknown, or there is none -/
  | columns (asked : List String)
  /-- the path is missing -/
  | noPath
  /-- the contents are missing -/
  | noContent
  /-- a tool is given no pattern -/
  | noPatternArgument
  /-- a tool is given no contents -/
  | noFileArgument
  /-- contents of an unknown type -/
  | content (type : String)
  /-- contents of an unknown type, for a tool -/
  | contentType (name : String)
  /-- contents that are not base 64 -/
  | base64 (e : Bytes.Base64.Fault)
  /-- an unknown encoding -/
  | encoding (label : String)
  /-- data that is no archive -/
  | archive (e : Archive.Fault)
  /-- an unknown backend -/
  | backend (name : Option String)
  /-- an empty address of an archive -/
  | noUrl
  deriving DecidableEq, Repr

/-- A value that may be missing, as text. -/
def optionText (s : Option String) : String := s.getD "None"

/-- The wording of a refusal. -/
def Refusal.message : Refusal → String
  | .noRequest => "Missing request"
  | .procedure name => "Unknown procedure name: " ++ optionText name
  | .kind name => "Unknown operation kind: " ++ name
  | .noPattern => "pathAndPattern must be non-null"
  | .columns asked => "Invalid result columns: " ++ Text.quotedList asked
  | .noPath => "filePath must be non-null"
  | .noContent => "file must be non-null"
  | .noPatternArgument => "Missing pathAndPattern"
  | .noFileArgument => "Missing file content"
  | .content type => "Unsupported content type: " ++ type
  | .contentType name => "Unsupported content type: " ++ name
  | .base64 e => "Blob content is not valid base64: " ++ e.message
  | .encoding label => "Unknown encoding: " ++ label
  | .archive e => "Not a ZIP archive: " ++ e.message
  | .backend name => "Unknown file backend: " ++ optionText name
  | .noUrl => "Archive URL is empty"

/-- The kind of trouble that a refusal was raised for. -/
def Refusal.cause? : Refusal → Option Family
  | .base64 _ => some .base64
  | .encoding _ => some .lookup
  | .archive _ => some .badArchive
  | _ => none

/-- A request at a path that the store in memory cannot carry out. -/
inductive MemoryFault where
  /-- a file is to be written where a directory is -/
  | overDirectory (path : String)
  /-- a file is to be written below a file -/
  | belowFile (path : String)
  /-- a directory is to be removed -/
  | removeDirectory (path : String)
  /-- there is no such file -/
  | missing (path : String)
  deriving DecidableEq, Repr

/-- The wording of a fault of the store in memory. -/
def MemoryFault.message : MemoryFault → String
  | .overDirectory path => "Cannot write over a directory: " ++ path
  | .belowFile path => "Parent is a file: " ++ path
  | .removeDirectory path => "Cannot remove a non-empty directory: " ++ path
  | .missing path => "No such virtual file: " ++ path

/-- A value that is of no use. -/
inductive ValueFault where
  /-- a path with a NUL character -/
  | nulInPath
  /-- a text for base 64 with a character beyond ASCII -/
  | notAscii
  /-- a stream that is closed -/
  | closed
  /-- a file that is closed -/
  | closedFile
  deriving DecidableEq, Repr

/-- The wording of a value fault. -/
def ValueFault.message : ValueFault → String
  | .nulInPath => "embedded null byte"
  | .notAscii => "string argument should contain only ASCII characters"
  | .closed => "I/O operation on closed file."
  | .closedFile => "read of closed file"

/-- Everything that can go wrong. -/
inductive Fault where
  /-- a request is refused -/
  | refused (r : Refusal)
  /-- nothing is at a path -/
  | notFound (path : String)
  /-- a pattern cannot be resolved -/
  | unresolved (pattern : String) (why : Fault)
  /-- the place that a path leads to is not below the root -/
  | outside (path : String)
  /-- a path has a step upwards -/
  | upward (path : String)
  /-- the root itself is to be removed -/
  | rootRemoval
  /-- contents cannot be opened -/
  | unopened (why : Fault)
  /-- metadata cannot be read -/
  | unreadable (path : String) (why : Fault)
  /-- a file cannot be saved -/
  | unwritten (path : String) (why : Fault)
  /-- a file cannot be removed -/
  | undeleted (path : String) (why : Fault)
  /-- contents were opened before -/
  | consumed
  /-- a server answers with an error -/
  | serverError (why : Web.Trouble)
  /-- an archive cannot be downloaded -/
  | download (why : Web.Trouble)
  /-- an HTTP layer reports trouble that is not told further -/
  | network (why : Web.Trouble)
  /-- a disk reports trouble -/
  | disk (e : Disk.Fault)
  /-- a store cannot do what is asked at a path -/
  | memory (e : MemoryFault)
  /-- links lead in a circle -/
  | linkLoop (path : String)
  /-- a text cannot be encoded or decoded -/
  | coding (e : Encoding.Fault)
  /-- an encoding cannot be used -/
  | charset (e : Encoding.Charset.Fault)
  /-- an entry of an archive cannot be read -/
  | archive (e : Archive.Fault)
  /-- calendar fields name no moment -/
  | moment (e : Moment.Fault)
  /-- a value is of no use -/
  | value (e : ValueFault)
  /-- a number cannot be read at a time -/
  | length (e : ReadLength.Fault)
  /-- a column is missing -/
  | missingColumn (name : String)
  /-- bytes are asked for as text, or text as bytes -/
  | wrongForm (asText : Bool)
  /-- trouble of a given kind and wording -/
  | given (family : Family) (message : String)
  deriving DecidableEq, Repr

namespace Fault

/-- The wording of a fault. -/
def message : Fault → String
  | .refused r => r.message
  | .notFound path => "File not found: " ++ path
  | .unresolved pattern why => "Failed to resolve " ++ pattern ++ ": " ++ why.message
  | .outside path | .upward path => "Access outside root is not allowed: " ++ path
  | .rootRemoval => "Refusing to remove the root directory"
  | .unopened why => "Failed to open content stream: " ++ why.message
  | .unreadable path why => "Failed to read metadata for " ++ path ++ ": " ++ why.message
  | .unwritten path why => "Error writing " ++ path ++ ": " ++ why.message
  | .undeleted path why => "Error deleting " ++ path ++ ": " ++ why.message
  | .consumed => "Content stream was already opened"
  | .serverError why => "Archive server returned an error: " ++ why.message
  | .download why => "Failed to download archive: " ++ why.message
  | .network why => why.message
  | .disk e => e.message
  | .memory e => e.message
  | .linkLoop path => "Symlink loop from " ++ Text.quoted path
  | .coding e => e.message
  | .charset e => e.message
  | .archive e => e.message
  | .moment e => e.message
  | .value e => e.message
  | .length e => e.message
  | .missingColumn name => Text.quoted name
  | .wrongForm true => "'BinaryLob' object has no attribute 'read_text'"
  | .wrongForm false => "'TextLob' object has no attribute 'read_bytes'"
  | .given family message => if family = .key then Text.quoted message else message

/-- The kind of trouble that a disk reports. -/
def diskFamily : Disk.Trouble → SystemFamily
  | .missing => .fileNotFound
  | .notDirectory => .notADirectory
  | .isDirectory => .isADirectory
  | .occupied => .fileExists
  | .notEmpty | .tooLong | .loop => .other

/-- The kind of trouble that a fault of the store in memory is. -/
def memoryFamily : MemoryFault → SystemFamily
  | .overDirectory _ | .removeDirectory _ => .isADirectory
  | .belowFile _ => .notADirectory
  | .missing _ => .fileNotFound

/-- The kind of trouble that a fault of an encoding is. -/
def codingFamily : Encoding.Fault → Family
  | .encode .. => .encode
  | .decode .. => .decode
  | .noOrderMark _ | .undefined | .other _ => .unicode
  | .bytesWanted _ | .textMade _ => .type

/-- The kind of trouble that a number to be read is. -/
def lengthFamily : ReadLength.Fault → Family
  | .negative => .value
  | .uncountable | .unconvertible | .tooLarge => .overflow
  | .noRoom => .memory

/-- The kind of trouble that a fault of an archive is. -/
def archiveFamily : Archive.Fault → Family
  | .version _ | .patched | .strongEncryption | .method => .notImplemented
  | .badName e => codingFamily e
  | .noName => .index
  | .negativePlace _ => .value
  | .farPlace => .overflow
  | .encrypted _ => .runtime
  | .endOfData => .endOfData
  | .inflate _ => .compression
  | .sorted => .system .other
  | .ranged _ => .named "LZMAError"
  | _ => .badArchive

/-- The kind of trouble that a fault is. -/
def family : Fault → Family
  | .refused _ => .invalidRequest
  | .notFound _ => .notFound
  | .unresolved .. => .resolution
  | .outside _ | .upward _ | .rootRemoval => .accessDenied
  | .unopened _ | .unreadable .. => .storage
  | .unwritten .. => .write
  | .undeleted .. => .delete
  | .consumed => .streamConsumed
  | .serverError _ | .download _ => .externalService
  | .network why => why.family
  | .disk e => .system (diskFamily e.trouble)
  | .memory e => .system (memoryFamily e)
  | .linkLoop _ => .runtime
  | .coding e => codingFamily e
  | .charset .nulInLabel => .value
  | .charset _ => .lookup
  | .archive e => archiveFamily e
  | .moment _ | .value _ => .value
  | .length e => lengthFamily e
  | .missingColumn _ => .key
  | .wrongForm _ => .form
  | .given family _ => family

/-- The kind of trouble that a fault was raised for. -/
def cause? : Fault → Option Family
  | .refused r => r.cause?
  | .unresolved _ why | .unopened why | .unreadable _ why | .unwritten _ why
  | .undeleted _ why => some why.family
  | .outside _ => some .value
  | .coding (.bytesWanted .asked) => some .type
  | .serverError why | .download why => some why.family
  | .network why => why.cause?
  | _ => none

/-- Whether a fault is one of those that file operations raise on their own. -/
def isOwn (f : Fault) : Bool := f.family.isOwn

/-- Whether a fault ends a listing as if there were no more files. -/
def endsListing (f : Fault) : Bool := f.family = .exhausted

/-- Whether a fault is reported by the system. -/
def isSystem (f : Fault) : Bool := f.family.isSystem

end Fault

end FileDepot
