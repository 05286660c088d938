import FileDepot.Archive.Directory
import FileDepot.Bytes.Crc32

/-!
# The contents of an entry

Each entry begins with a header of its own, which must agree with the directory. Its contents are
unpacked, cut to the size that the directory tells, and held against their checksum.
-/

namespace FileDepot.Archive

/-- The name of a way to compress. -/
def methodName (n : Nat) : String :=
  let names := [(0, "store"), (1, "shrink"), (2, "reduce"), (3, "reduce"), (4, "reduce"),
    (5, "reduce"), (6, "implode"), (7, "tokenize"), (8, "deflate"), (9, "deflate64"),
    (10, "implode"), (12, "bzip2"), (14, "lzma"), (18, "terse"), (19, "lz77"), (97, "wavpack"),
    (98, "ppmd")]
  (names.lookup n).getD (toString n)

/-- The letter for a kind of file. -/
def kindLetter (mode : Nat) : Char :=
  match mode / 4096 with
  | 1 => 'p'
  | 2 => 'c'
  | 4 => 'd'
  | 6 => 'b'
  | 8 => '-'
  | 10 => 'l'
  | 12 => 's'
  | _ => '?'

/-- The letters for three rights. `special` is set when the right to run has a special meaning,
shown by the letter `s`, or by the letter `l` where there is no right to run. -/
def rightLetters (rights : Nat) (special : Bool) (s l : Char) : List Char :=
  [if rights.testBit 2 then 'r' else '-', if rights.testBit 1 then 'w' else '-',
    match rights.testBit 0, special with
    | true, true => s
    | false, true => l
    | true, false => 'x'
    | false, false => '-']

/-- The ten letters for a kind of file and its rights. -/
def modeText (mode : Nat) : String :=
  String.ofList (kindLetter mode ::
    (rightLetters (mode / 64 % 8) (mode.testBit 11) 's' 'S' ++
      rightLetters (mode / 8 % 8) (mode.testBit 10) 's' 'S' ++
      rightLetters (mode % 8) (mode.testBit 9) 't' 'T'))

/-- A number in base sixteen, as short as possible. -/
def hexText (n : Nat) : String :=
  String.ofList ('0' :: 'x' :: Nat.toDigits 16 n)

namespace Entry

/-- An entry in one line. -/
def summary (e : Entry) : String :=
  let mode := e.attributes / 65536
  let low := e.attributes % 65536
  "<ZipInfo filename=" ++ Text.quoted e.name ++
    (if e.method ≠ 0 then " compress_type=" ++ methodName e.method else "") ++
    (if mode ≠ 0 then " filemode=" ++ Text.quoted (modeText mode) else "") ++
    (if low ≠ 0 then " external_attr=" ++ hexText low else "") ++
    (if !e.isDirectory || e.size ≠ 0 then " file_size=" ++ toString e.size else "") ++
    (if (!e.isDirectory || e.packedSize ≠ 0) && (e.method ≠ 0 || e.size ≠ e.packedSize) then
      " compress_size=" ++ toString e.packedSize else "") ++
    ">"

/-- The ways to compress that are known. -/
def methods : List Nat := [0, 8, 12, 14]

/-- The number of places that data can have. -/
def farthest : Int := 0x8000000000000000

/-- Where the packed contents of an entry begin, once its header is checked. -/
def contentsStart (e : Entry) (data : Bytes) : Except Fault Nat := do
  if e.place < -farthest || farthest ≤ e.place then .error .farPlace
  else if e.place < 0 then .error (.negativePlace e.place)
  else
    let place := e.place.toNat
    let head := data.slice place 30
    if head.length ≠ 30 then .error .truncatedHeader
    else if head.take 4 ≠ [0x50, 0x4b, 3, 4] then .error .badHeaderMark
    else
      let found := data.slice (place + 30) (Bytes.natAt head 26 2)
      let extra := data.slice (place + 30 + found.length) (Bytes.natAt head 28 2)
      if e.hasFlag 5 then .error .patched
      else if e.hasFlag 6 then .error .strongEncryption
      else
        let name ← decodeName ((Bytes.natAt head 6 2).testBit 11) found
        let start := place + 30 + found.length + extra.length
        if name ≠ e.listedName then .error (.nameMismatch e.listedName found)
        else if e.bound < (start + e.packedSize : Nat) then .error (.overlap e.listedName)
        else if e.hasFlag 0 then .error (.encrypted e.summary)
        else if !methods.contains e.method then .error .method
        else pure start

/-- Cut contents to the size of the entry and hold them against its checksum. Contents that are
neither as large as the entry nor at their end are cut off by the end of the data. -/
def check (e : Entry) (contents : Bytes) (ended : Bool) : Except Fault Bytes :=
  let contents := contents.take e.size
  if !ended && contents.length < e.size then .error .endOfData
  else if Bytes.Crc32.checksum contents ≠ e.crc then .error (.badChecksum e.name)
  else .ok contents

/-- Read contents compressed by ranges. Four bytes stand in front, of which the last two tell the length
of the properties that follow. -/
def unpackRanged (packed : Bytes) : Except Compression.Lzma.Fault Compression.Unpacked :=
  let size := packed.natAt 2 2
  if packed.length ≤ 4 + size then .ok ⟨[], none⟩
  else Compression.unrange (packed.slice 4 size) (packed.drop (4 + size))

/-- Read packed contents. -/
def unpack (e : Entry) (packed : Bytes) : Except Fault Compression.Unpacked :=
  if e.method = 0 then .ok ⟨packed, none⟩
  else if e.method = 8 then (Compression.inflate packed).mapError .inflate
  else if e.method = 12 then
    match Compression.unsort? packed with
    | some u => .ok u
    | none => .error .sorted
  else (unpackRanged packed).mapError .ranged

/-- The contents of an entry. -/
def contents (e : Entry) (data : Bytes) : Except Fault Bytes := do
  let start ← e.contentsStart data
  let packed := data.slice start e.packedSize
  if packed.isEmpty && e.packedSize ≠ 0 then .error .endOfData
  else
    let u ← e.unpack packed
    e.check u.contents (u.rest.isSome || packed.length = e.packedSize)

end Entry

end FileDepot.Archive
