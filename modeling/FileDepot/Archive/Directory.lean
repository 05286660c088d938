import FileDepot.Compression.Bzip2
import FileDepot.Compression.Lzma
import FileDepot.Compression.Wrapped
import FileDepot.Encoding.Decoder
import FileDepot.Moment
import FileDepot.Text.Quoted

/-!
# The directory of an archive

An archive ends with a record that tells where its directory lies; the directory lists the entries
in order. What stands before the archive in the same data moves every place by the same number of
bytes.
-/

namespace FileDepot.Archive

/-- Why data is not an archive, or an entry of it cannot be read. -/
inductive Fault where
  /-- no record at the end -/
  | noEndRecord
  /-- the archive is spread over several disks -/
  | severalDisks
  /-- the directory would lie before the data -/
  | badOffset
  /-- the directory ends inside an entry -/
  | truncatedDirectory
  /-- an entry of the directory does not begin with its mark -/
  | badDirectoryMark
  /-- an extra field is longer than the space for it -/
  | corruptExtra (tag size : Nat)
  /-- a large number is missing -/
  | missingLarge (field : String)
  /-- the entry needs a later version of the format -/
  | version (tenths : Nat)
  /-- a name cannot be decoded -/
  | badName (e : Encoding.Fault)
  /-- an entry has no name, so that its last character does not tell whether it is a directory; archives are
  read by a library before versions 3.11.9 and 3.12.3, from which on a name is asked how it ends instead -/
  | noName
  /-- an entry would lie before the data -/
  | negativePlace (place : Int)
  /-- an entry would lie where no data can lie -/
  | farPlace
  /-- the data ends inside the header of an entry -/
  | truncatedHeader
  /-- an entry does not begin with its mark -/
  | badHeaderMark
  /-- the entry is a patch -/
  | patched
  /-- the entry is strongly encrypted -/
  | strongEncryption
  /-- the directory and the entry give different names -/
  | nameMismatch (listed : String) (found : Bytes)
  /-- the entry reaches into the next one -/
  | overlap (name : String)
  /-- the entry is encrypted -/
  | encrypted (summary : String)
  /-- the entry is compressed in an unknown way -/
  | method
  /-- the data ends inside the entry -/
  | endOfData
  /-- the contents do not fit their checksum -/
  | badChecksum (name : String)
  /-- the entry is not deflated data -/
  | inflate (e : Compression.Inflate.Fault)
  /-- the entry is not data compressed by sorting -/
  | sorted
  /-- the entry is not data compressed by ranges -/
  | ranged (e : Compression.Lzma.Fault)
  deriving DecidableEq, Repr

/-- One byte of a name between quotes `q`. -/
def escapeByte (q : Char) (b : UInt8) : List Char :=
  let c := Char.ofNat b.toNat
  if c = q || c = '\\' then ['\\', c]
  else if c = '\t' then ['\\', 't']
  else if c = '\n' then ['\\', 'n']
  else if c = '\r' then ['\\', 'r']
  else if b < 32 || 127 ≤ b then '\\' :: 'x' :: Text.hexPadded 2 b.toNat
  else [c]

/-- Bytes between their quotes. -/
def quotedBytes (data : Bytes) : String :=
  let q := Text.Quoted.mark (data.map fun b => Char.ofNat b.toNat)
  String.ofList ('b' :: q :: (data.flatMap (escapeByte q) ++ [q]))

/-- The wording of a fault. -/
def Fault.message : Fault → String
  | .noEndRecord => "File is not a zip file"
  | .severalDisks => "zipfiles that span multiple disks are not supported"
  | .badOffset => "Bad offset for central directory"
  | .truncatedDirectory => "Truncated central directory"
  | .badDirectoryMark => "Bad magic number for central directory"
  | .corruptExtra tag size =>
    "Corrupt extra field " ++ String.ofList (Text.hexPadded 4 tag) ++ " (size=" ++ toString size ++
      ")"
  | .missingLarge field => "Corrupt zip64 extra field. " ++ field ++ " not found."
  | .version tenths =>
    "zip file version " ++ toString (tenths / 10) ++ "." ++ toString (tenths % 10)
  | .badName e => e.message
  | .noName => "string index out of range"
  | .negativePlace place => "negative seek value " ++ toString place
  | .farPlace => "Python int too large to convert to C ssize_t"
  | .truncatedHeader => "Truncated file header"
  | .badHeaderMark => "Bad magic number for file header"
  | .patched => "compressed patched data (flag bit 5)"
  | .strongEncryption => "strong encryption (flag bit 6)"
  | .nameMismatch listed found =>
    "File name in directory " ++ Text.quoted listed ++ " and header " ++ quotedBytes found ++
      " differ."
  | .overlap name => "Overlapped entries: " ++ Text.quoted name ++ " (possible zip bomb)"
  | .encrypted summary =>
    "File " ++ summary ++ " is encrypted, password required for extraction"
  | .method => "That compression method is not supported"
  | .endOfData => ""
  | .badChecksum name => "Bad CRC-32 for file " ++ Text.quoted name
  | .inflate e => Compression.faultReport e.reason
  | .sorted => "Invalid data stream"
  | .ranged e => e.message

/-- Whether a fault means that the data as a whole is no archive. -/
def Fault.isStructural : Fault → Bool
  | .noEndRecord | .severalDisks | .badOffset | .truncatedDirectory | .badDirectoryMark
  | .corruptExtra .. | .missingLarge .. => true
  | _ => false

/-- One entry of the directory. -/
structure Entry where
  /-- the name as it is listed -/
  listedName : String
  /-- the version of the format that the entry needs, times ten -/
  version : Nat
  /-- the flags -/
  flags : Nat
  /-- how the contents are compressed -/
  method : Nat
  /-- the time of day of the last change, packed -/
  time : Nat
  /-- the day of the last change, packed -/
  date : Nat
  /-- the checksum of the contents -/
  crc : UInt32
  /-- the size of the compressed contents -/
  packedSize : Nat
  /-- the size of the contents -/
  size : Nat
  /-- what kind of file the contents were made from, and its rights -/
  attributes : Nat
  /-- the place of the entry in the data -/
  place : Int
  /-- the place that the entry must not reach beyond -/
  bound : Int
  deriving DecidableEq, Repr

namespace Entry

/-- The name of an entry: the listed name up to a NUL character. -/
def name (e : Entry) : String :=
  String.ofList (e.listedName.toList.takeWhile (· ≠ '\x00'))

/-- Whether the entry is a directory. -/
def isDirectory (e : Entry) : Bool :=
  e.name.toList.getLast? = some '/'

/-- The time of the last change. -/
def modified (e : Entry) : Except Moment.Fault Moment :=
  Moment.ofFields (e.date / 512 + 1980) (e.date / 32 % 16) (e.date % 32) (e.time / 2048)
    (e.time / 32 % 64) (e.time % 32 * 2) 0

/-- Whether a flag is set. -/
def hasFlag (e : Entry) (bit : Nat) : Bool := e.flags.testBit bit

end Entry

/-! ## Reading the directory -/

/-- The encoding of names that are not marked as UTF-8. -/
def nameTable : Encoding.Codec := (Encoding.Codec.ofName? "cp437").getD .ascii

/-- Decode a name. -/
def decodeName (isUtf8 : Bool) (data : Bytes) : Except Fault String :=
  let codec := if isUtf8 then .utf8 else nameTable
  match ((Encoding.Decoder.start codec).feed data true).1 with
  | .ok s => .ok (String.ofList (s.filterMap Point.char?))
  | .error e => .error (.badName e)

/-- What the record at the end of an archive tells. -/
structure EndRecord where
  /-- the place of the record -/
  place : Nat
  /-- the size of the directory -/
  size : Nat
  /-- the place of the directory -/
  offset : Nat
  /-- whether the numbers were too large for the record and stand in a record of their own -/
  isLarge : Bool
  deriving DecidableEq, Repr

/-- The mark of the record at the end. -/
def endMark : Bytes := [0x50, 0x4b, 5, 6]

/-- Take the numbers from the record for large numbers, if there is one. -/
def withLarge (data : Bytes) (r : EndRecord) : Except Fault EndRecord :=
  -- a record that would begin before the data is looked for at the start of the data
  let locator := data.slice (r.place - 20) 20
  if locator.length ≠ 20 || locator.take 4 ≠ [0x50, 0x4b, 6, 7] then .ok r
  else if locator.natAt 4 4 ≠ 0 || 1 < locator.natAt 16 4 then .error .severalDisks
  else
    let large := data.slice (r.place - 76) 56
    if large.length ≠ 56 || large.take 4 ≠ [0x50, 0x4b, 6, 6] then .ok r
    else .ok ⟨r.place, large.natAt 40 8, large.natAt 48 8, true⟩

/-- The record at the end of an archive: the very last bytes, or before a comment. -/
def endRecord (data : Bytes) : Except Fault EndRecord :=
  let last := data.drop (data.length - 22)
  let read (place : Nat) :=
    withLarge data ⟨place, data.natAt (place + 12) 4, data.natAt (place + 16) 4, false⟩
  if last.length = 22 && last.take 4 = endMark && last.drop 20 = [0, 0] then
    read (data.length - 22)
  else
    let begin := data.length - 65558
    match Bytes.findLast? endMark (data.drop begin) with
    | none => .error .noEndRecord
    | some i => if data.length < begin + i + 22 then .error .noEndRecord else read (begin + i)

/-- Take the next number of eight bytes. -/
def takeLarge (field : String) (data : Bytes) : Except Fault (Nat × Bytes) :=
  if data.length < 8 then .error (.missingLarge field) else .ok (data.natAt 0 8, data.drop 8)

/-- Take the large numbers of an entry from an extra field. -/
def Entry.withLarge (e : Entry) (data : Bytes) : Except Fault Entry := do
  let (size, data) ←
    if e.size = 0xffffffffffffffff || e.size = 0xffffffff then takeLarge "File size" data
    else pure (e.size, data)
  let (packed, data) ←
    if e.packedSize = 0xffffffff then takeLarge "Compress size" data else pure (e.packedSize, data)
  let place ←
    if e.place = 0xffffffff then do
      let (place, _) ← takeLarge "Header offset" data
      pure (place : Int)
    else pure e.place
  pure { e with size := size, packedSize := packed, place := place }

/-- Go through the extra fields of an entry. -/
def Entry.withExtra (fuel : Nat) (e : Entry) (extra : Bytes) : Except Fault Entry :=
  match fuel with
  | 0 => .ok e
  | fuel + 1 =>
    if extra.length < 4 then .ok e
    else
      let tag := extra.natAt 0 2
      let size := extra.natAt 2 2
      if extra.length < size + 4 then .error (.corruptExtra tag size)
      else do
        let e ← if tag = 1 then e.withLarge (extra.slice 4 size) else pure e
        Entry.withExtra fuel e (extra.drop (size + 4))

/-- The latest version of the format that is understood, times ten. -/
def latestVersion : Nat := 63

/-- Read the entry at the front of a directory, and what is left of the directory. -/
def readEntry (shift : Int) (d : Bytes) : Except Fault (Entry × Nat × Bytes) := do
  let head := d.take 46
  if head.length ≠ 46 then .error .truncatedDirectory
  else if head.take 4 ≠ [0x50, 0x4b, 1, 2] then .error .badDirectoryMark
  else
    let nameSize := Bytes.natAt head 28 2
    let extraSize := Bytes.natAt head 30 2
    let commentSize := Bytes.natAt head 32 2
    let flags := Bytes.natAt head 8 2
    let body := d.drop 46
    let name ← decodeName (flags.testBit 11) (body.take nameSize)
    let number (place size : Nat) : Nat := Bytes.natAt head place size
    let entry : Entry :=
      { listedName := name, version := number 6 1, flags := flags, method := number 10 2,
        time := number 12 2, date := number 14 2, crc := UInt32.ofNat (number 16 4),
        packedSize := number 20 4, size := number 24 4, attributes := number 38 4,
        place := number 42 4, bound := 0 }
    if latestVersion < entry.version then .error (.version entry.version)
    else
      let extra := Bytes.slice body nameSize extraSize
      let entry ← entry.withExtra (extra.length + 1) extra
      let total := nameSize + extraSize + commentSize
      pure ({ entry with place := entry.place + shift }, 46 + total, body.drop total)

/-- Read entries until the directory is used up. -/
def readEntries (shift : Int) : Nat → Nat → Bytes → Except Fault (List Entry)
  | 0, _, _ => .ok []
  | fuel + 1, left, d =>
    if left = 0 then .ok []
    else do
      let (entry, used, rest) ← readEntry shift d
      let more ← readEntries shift fuel (left - used) rest
      pure (entry :: more)

/-- Give each place in a list that runs backwards the place before it as its bound. -/
def boundsFrom (bound : Int) : List (Int × Nat) → List (Nat × Int)
  | [] => []
  | (place, i) :: rest => (i, bound) :: boundsFrom place rest

/-- Set the bound of each entry: the place of the next entry in the data, or the directory. -/
def withBounds (start : Int) (entries : List Entry) : List Entry :=
  let places := (entries.map (·.place)).zipIdx
  let bounds := boundsFrom start (places.mergeSort fun a b => b.1 ≤ a.1)
  entries.zipIdx.map fun (e, i) => { e with bound := (bounds.lookup i).getD start }

/-- The entries of an archive, in the order of its directory. -/
def entries (data : Bytes) : Except Fault (List Entry) := do
  let r ← endRecord data
  let start : Int := r.place - r.size - (if r.isLarge then 76 else 0)
  if start < 0 then .error .badOffset
  else
    let list ← readEntries (start - r.offset) (r.size / 46 + 2) r.size
      (data.slice start.toNat r.size)
    pure (withBounds start list)

end FileDepot.Archive
