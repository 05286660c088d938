import FileDepot.Compression.Bits
import FileDepot.Compression.PrefixCode

/-!
# Data compressed by sorting

A block of contents is written as the last column of its sorted rotations. Runs in the contents are
shortened before that, and the column is written as places in a list of bytes that moves each byte to
its front when it is used, where runs of the first place are shortened once more. A block of data can be
read back only as a whole.

`Bzip2.expand` turns places back into the column, `Bzip2.restore` the column into what was sorted, and
`Bzip2.spread` that into contents.
-/

namespace FileDepot.Compression.Bzip2

/-- Why reading stops. -/
inductive Stop where
  /-- the data ends -/
  | short
  /-- the data is faulty -/
  | bad
  deriving DecidableEq, Repr

/-- Reading from the front of some bits. -/
abbrev Reader := StateT (List Bool) (Except Stop)

/-- Read a number of `n` bits. -/
def number (n : Nat) : Reader Nat := fun s =>
  match takeDownward? n s with
  | some r => .ok r
  | none => .error .short

/-- Read a bit. -/
def bit : Reader Bool := fun s =>
  match s with
  | b :: rest => .ok (b, rest)
  | [] => .error .short

/-- Read bytes that must be there. -/
def expect : List Nat → Reader Unit
  | [] => pure ()
  | n :: rest => do
    if (← number 8) = n then expect rest else throw .bad

/-! ## Checksums -/

/-- Shift one bit out of the register. -/
def shift (r : UInt32) : UInt32 :=
  if r &&& 0x80000000 = 0 then r <<< 1 else (r <<< 1) ^^^ 0x04c11db7

/-- Take one byte into the register. -/
def update (r : UInt32) (b : UInt8) : UInt32 :=
  shift (shift (shift (shift (shift (shift (shift (shift (r ^^^ (b.toUInt32 <<< 24)))))))))

/-- The checksum of a block. -/
def checksum (data : Array UInt8) : UInt32 := data.foldl update 0xffffffff ^^^ 0xffffffff

/-- The checksum of all blocks, with the one of a further block. -/
def joinChecksum (all block : UInt32) : UInt32 := ((all <<< 1) ||| (all >>> 31)) ^^^ block

/-! ## The head of a block -/

/-- What the head of a block tells. -/
structure Head where
  /-- the checksum of the contents -/
  checksum : UInt32
  /-- whether some bytes of what was sorted were changed -/
  isStirred : Bool
  /-- the row that is not rotated -/
  row : Nat
  /-- the bytes that the block holds, in order -/
  alphabet : List UInt8
  /-- the codes, in the order of their groups of symbols -/
  codes : List PrefixCode

/-- The most bytes of a block, before runs are spread, for a level. -/
def blockSize (level : Nat) : Nat := 100000 * level

/-- Read which bytes a block holds: which rows of sixteen, and which bytes of each. -/
def alphabet : Reader (List UInt8) := do
  let rows ← (List.range 16).mapM fun row => do pure (row, ← bit)
  let found ← (rows.filter (·.2)).mapM fun (row, _) => do
    let columns ← (List.range 16).mapM fun column => do pure (column, ← bit)
    pure ((columns.filter (·.2)).map fun (column, _) => UInt8.ofNat (16 * row + column))
  pure found.flatten

/-- Read a place in a list of `left` codes, written as a row of ones. -/
def place : Nat → Reader Nat
  | 0 => throw .bad
  | left + 1 => do
    if ← bit then pure ((← place left) + 1) else pure 0

/-- Move an element to the front of a list. -/
def toFront {α : Type} (i : Nat) (xs : List α) : List α := (xs[i]?).toList ++ xs.eraseIdx i

/-- The elements at places in a list that moves each element to its front. -/
def unmove {α : Type} (xs : List α) : List Nat → List α
  | [] => []
  | i :: rest => (xs[i]?).toList ++ unmove (toFront i xs) rest

/-- Read the length of a word, which is the one before it with steps up and down. A step takes two bits,
so the number of bits is enough `fuel`. -/
def wordLength : Nat → Nat → Reader Nat
  | 0, _ => throw .short
  | fuel + 1, n => do
    if n < 1 || 20 < n then throw .bad
    else if ← bit then
      if ← bit then wordLength fuel (n - 1) else wordLength fuel (n + 1)
    else pure n

/-- Read the lengths of `count` words. -/
def wordLengths (fuel n : Nat) : Nat → Reader (List Nat)
  | 0 => pure []
  | count + 1 => do
    let n ← wordLength fuel n
    pure (n :: (← wordLengths fuel n count))

/-- The most groups of symbols that have a code. -/
def mostGroups : Nat := 18002

/-- Read the head of a block. -/
def head (level : Nat) : Reader Head := do
  let checksum ← number 32
  let isStirred ← bit
  let row ← number 24
  if 10 + blockSize level < row then throw .bad
  let bytes ← alphabet
  if bytes.isEmpty then throw .bad
  let kinds ← number 3
  if kinds < 2 || 6 < kinds then throw .bad
  let groups ← number 15
  if groups < 1 then throw .bad
  let places ← (List.range groups).mapM fun _ => place kinds
  let fuel := (← get).length + 1
  let codes ← (List.range kinds).mapM fun _ => do
    let first ← number 5
    -- one bit more than the longest word tells that there is no word
    pure (PrefixCode.ofLengths 21 (← wordLengths fuel first (bytes.length + 2)))
  pure ⟨UInt32.ofNat checksum, isStirred, row, bytes, unmove codes (places.take mostGroups)⟩

/-! ## Symbols -/

/-- How reading symbols ends. -/
inductive Ending where
  /-- with the last symbol of the block; the bits after it -/
  | last (rest : List Bool)
  /-- with the last symbol that was asked for; the bits after it -/
  | more (rest : List Bool)
  /-- there is no next symbol -/
  | stop (why : Stop)

/-- Read at most `n` symbols, and put them before those that are read, latest first. -/
def readGroup (code : PrefixCode) (last : Nat) : Nat → List Nat → List Bool → List Nat × Ending
  | 0, got, s => (got, .more s)
  | n + 1, got, s =>
    match code.read s with
    | .short => (got, .stop .short)
    | .nothing => (got, .stop .bad)
    | .symbol k rest =>
      if k = last then (k :: got, .last rest) else readGroup code last n (k :: got) rest

/-- The number of symbols of a group. -/
def groupSize : Nat := 50

/-- Read the symbols of a block. -/
def readSymbols (last : Nat) : List PrefixCode → List Nat → List Bool → List Nat × Ending
  | [], got, _ => (got.reverse, .stop .bad)
  | code :: codes, got, s =>
    match readGroup code last groupSize got s with
    | (got, .more rest) => readSymbols last codes got rest
    | (got, ending) => (got.reverse, ending)

/-- Append a byte `n` times. -/
def pushMany (b : UInt8) : Nat → Array UInt8 → Array UInt8
  | 0, out => out
  | n + 1, out => pushMany b n (out.push b)

/-- The longest weight of a symbol in a run. -/
def mostWeight : Nat := 2097152

/-- The column that symbols stand for. Symbols zero and one are digits of the length of a run, lowest
digit first; every other symbol ends it. No answer means that the column is too long. -/
def expand (most : Nat) :
    List UInt8 → Nat → Nat → Array UInt8 → List Nat → Option (Array UInt8)
  | _, _, _, out, [] => some out
  | bytes, run, weight, out, k :: rest =>
    if k < 2 then
      if mostWeight ≤ weight then none
      else expand most bytes (run + (k + 1) * weight) (2 * weight) out rest
    else if most < out.size + run then none
    else
      let out := pushMany (bytes.headD 0) run out
      match bytes[k - 1]? with
      | none => some out
      | some b =>
        if most ≤ out.size then none
        else expand most (toFront (k - 1) bytes) 0 1 (out.push b) rest

/-! ## Sorting undone -/

/-- For each place of a column, the place of the byte that follows its byte. -/
def followers (column : Array UInt8) : Array Nat :=
  let counts := column.foldl (fun (c : Array Nat) b => c.modify b.toNat (· + 1))
    (Array.replicate 256 0)
  let (starts, _) := counts.foldl (fun (s : Array Nat × Nat) n => (s.1.push s.2, s.2 + n)) (#[], 0)
  let (next, _, _) := column.foldl
    (fun (next, starts, i) b =>
      let free := starts[b.toNat]?.getD 0
      (next.setIfInBounds free i, starts.setIfInBounds b.toNat (free + 1), i + 1))
    (Array.replicate column.size 0, starts, 0)
  next

/-- Walk `n` steps through a column. -/
def walk (column : Array UInt8) (next : Array Nat) : Nat → Nat → Array UInt8 → Array UInt8
  | 0, _, out => out
  | n + 1, i, out => walk column next n (next[i]?.getD 0) (out.push (column[i]?.getD 0))

/-- What was sorted, from its last column and the row that is not rotated. One byte more is read, with
which the text begins again. -/
def restore (column : Array UInt8) (row : Nat) : Array UInt8 :=
  let next := followers column
  walk column next (column.size + 1) (next[row]?.getD 0) #[]

/-- The distances between the bytes that are changed in a block. -/
def strides : List Nat :=
  [619, 720, 127, 481, 931, 816, 813, 233, 566, 247, 985, 724, 205, 454, 863, 491, 741, 242, 949,
    214, 733, 859, 335, 708, 621, 574, 73, 654, 730, 472, 419, 436, 278, 496, 867, 210, 399, 680,
    480, 51, 878, 465, 811, 169, 869, 675, 611, 697, 867, 561, 862, 687, 507, 283, 482, 129, 807,
    591, 733, 623, 150, 238, 59, 379, 684, 877, 625, 169, 643, 105, 170, 607, 520, 932, 727, 476,
    693, 425, 174, 647, 73, 122, 335, 530, 442, 853, 695, 249, 445, 515, 909, 545, 703, 919, 874,
    474, 882, 500, 594, 612, 641, 801, 220, 162, 819, 984, 589, 513, 495, 799, 161, 604, 958, 533,
    221, 400, 386, 867, 600, 782, 382, 596, 414, 171, 516, 375, 682, 485, 911, 276, 98, 553, 163,
    354, 666, 933, 424, 341, 533, 870, 227, 730, 475, 186, 263, 647, 537, 686, 600, 224, 469, 68,
    770, 919, 190, 373, 294, 822, 808, 206, 184, 943, 795, 384, 383, 461, 404, 758, 839, 887, 715,
    67, 618, 276, 204, 918, 873, 777, 604, 560, 951, 160, 578, 722, 79, 804, 96, 409, 713, 940, 652,
    934, 970, 447, 318, 353, 859, 672, 112, 785, 645, 863, 803, 350, 139, 93, 354, 99, 820, 908,
    609, 772, 154, 274, 580, 184, 79, 626, 630, 742, 653, 282, 762, 623, 680, 81, 927, 626, 789,
    125, 411, 521, 938, 300, 821, 78, 343, 175, 128, 250, 170, 774, 972, 275, 999, 639, 495, 78,
    352, 126, 857, 956, 358, 619, 580, 124, 737, 594, 701, 612, 669, 112, 134, 694, 363, 992, 809,
    743, 168, 974, 944, 375, 748, 52, 600, 747, 642, 182, 862, 81, 344, 805, 988, 739, 511, 655,
    814, 334, 249, 515, 897, 955, 664, 981, 649, 113, 974, 459, 893, 228, 433, 837, 553, 268, 926,
    240, 102, 654, 459, 51, 686, 754, 806, 760, 493, 403, 415, 394, 687, 700, 946, 670, 656, 610,
    738, 392, 760, 799, 887, 653, 978, 321, 576, 617, 626, 502, 894, 679, 243, 440, 680, 879, 194,
    572, 640, 724, 926, 56, 204, 700, 707, 151, 457, 449, 797, 195, 791, 558, 945, 679, 297, 59, 87,
    824, 713, 663, 412, 693, 342, 606, 134, 108, 571, 364, 631, 212, 174, 643, 304, 329, 343, 97,
    430, 751, 497, 314, 983, 374, 822, 928, 140, 206, 73, 263, 980, 736, 876, 478, 430, 305, 170,
    514, 364, 692, 829, 82, 855, 953, 676, 246, 369, 970, 294, 750, 807, 827, 150, 790, 288, 923,
    804, 378, 215, 828, 592, 281, 565, 555, 710, 82, 896, 831, 547, 261, 524, 462, 293, 465, 502,
    56, 661, 821, 976, 991, 658, 869, 905, 758, 745, 193, 768, 550, 608, 933, 378, 286, 215, 979,
    792, 961, 61, 688, 793, 644, 986, 403, 106, 366, 905, 644, 372, 567, 466, 434, 645, 210, 389,
    550, 919, 135, 780, 773, 635, 389, 707, 100, 626, 958, 165, 504, 920, 176, 193, 713, 857, 265,
    203, 50, 668, 108, 645, 990, 626, 197, 510, 357, 358, 850, 858, 364, 936, 638]

/-- Change the lowest bit of some bytes. `left` is the number of bytes up to the next one that is
changed, that one included. -/
def stir (strides : List Nat) (left : Nat) : List UInt8 → List Nat → List UInt8
  | [], _ => []
  | b :: rest, pending =>
    let (left, pending) := if left = 0 then
        match pending with
        | n :: more => (n, more)
        | [] => (strides.headD 0, strides.tail)
      else (left, pending)
    (if left = 2 then b ^^^ 1 else b) :: stir strides (left - 1) rest pending

/-! ## Runs spread -/

/-- Contents from what was sorted: after four equal bytes, the next one tells how many more there are.
`beyond` is the byte that follows the last one. The answer comes with whether the last run is whole. -/
def spread (beyond : UInt8) : Array UInt8 → List UInt8 → Array UInt8 × Bool
  | out, a :: b :: c :: d :: rest =>
    if a = b && b = c && c = d then
      match rest with
      | [] => (pushMany a (4 + beyond.toNat) out, false)
      | n :: rest => spread beyond (pushMany a (4 + n.toNat) out) rest
    else spread beyond (out.push a) (b :: c :: d :: rest)
  | out, rest => (out ++ rest.toArray, true)

/-! ## Blocks -/

/-- The sizes of the pieces in which room for contents is made, in units of 1024 bytes. -/
def roomPieces : List Nat :=
  [32, 64, 256, 1024, 4096, 8192, 16384, 16384, 32768, 32768, 32768, 32768]

/-- The room for contents once `size` bytes are there. -/
def room (size : Nat) : Nat :=
  let ends := (roomPieces.foldl (fun (ends, total) n => (ends ++ [total + 1024 * n], total + 1024 * n))
    (([] : List Nat), 0)).1
  (ends.find? (size ≤ ·)).getD (2 * size)

/-- How reading a block ends. -/
inductive Outcome where
  /-- the contents so far and the bits after the block -/
  | done (out : Array UInt8) (checksum : UInt32) (rest : List Bool)
  /-- the data ends; the contents so far -/
  | short (out : Array UInt8)
  /-- the data is faulty -/
  | bad

/-- Take the contents of a block. If no byte follows the block, only what there is room for counts. -/
def finish (h : Head) (column out : Array UInt8) (rest : List Bool) : Outcome :=
  if column.size ≤ h.row then .bad
  else
    let sorted := (restore column h.row).toList
    let sorted := if h.isStirred then stir strides 0 sorted strides else sorted
    let (contents, isWhole) := spread (sorted.getLast?.getD 0) #[] sorted.dropLast
    if (rest.drop 7).isEmpty && room out.size < out.size + contents.size then
      .short ((out ++ contents).take (room out.size))
    else if !isWhole || checksum contents ≠ h.checksum then .bad
    else .done (out ++ contents) h.checksum rest

/-- Read a block. -/
def readBlock (level : Nat) (out : Array UInt8) (s : List Bool) : Outcome :=
  match head level s with
  | .error .short => .short out
  | .error .bad => .bad
  | .ok (h, s) =>
    let (symbols, ending) := readSymbols (h.alphabet.length + 1) h.codes [] s
    match expand (blockSize level) h.alphabet 0 1 #[] symbols, ending with
    | none, _ => .bad
    | some _, .stop .short => .short out
    | some column, .last rest => finish h column out rest
    | some _, _ => .bad

/-- The mark of a block, after its first byte. -/
def blockMark : List Nat := [0x41, 0x59, 0x26, 0x53, 0x59]

/-- The mark of the end, after its first byte. -/
def endMark : List Nat := [0x72, 0x45, 0x38, 0x50, 0x90]

/-- What stands between blocks: the bytes up to the next block, or the checksum at the end. -/
def between : Reader (Option UInt32) := do
  let first ← number 8
  if first = 0x31 then
    expect blockMark
    pure none
  else if first = 0x17 then
    expect endMark
    pure (some (UInt32.ofNat (← number 32)))
  else throw .bad

/-- Read blocks up to the end. `all` is the checksum of the blocks so far. -/
def readBlocks (level : Nat) : Nat → UInt32 → Array UInt8 → List Bool → Outcome
  | 0, _, out, _ => .short out
  | fuel + 1, all, out, s =>
    match between s with
    | .error .short => .short out
    | .error .bad => .bad
    | .ok (some found, rest) => if found = all then .done out all rest else .bad
    | .ok (none, rest) =>
      match readBlock level out rest with
      | .done out block rest => readBlocks level fuel (joinChecksum all block) out rest
      | other => other

/-- Read the level that data is compressed with. -/
def level : Reader Nat := do
  expect [0x42, 0x5a, 0x68]
  let n ← number 8
  if 0x31 ≤ n && n ≤ 0x39 then pure (n - 0x30) else throw .bad

end FileDepot.Compression.Bzip2

namespace FileDepot.Compression

/-- Read data that was compressed by sorting. No answer means that it is faulty. -/
def unsort? (data : Bytes) : Option Unpacked :=
  match Bzip2.level (bitsDownward data) with
  | .error .short => some ⟨[], none⟩
  | .error .bad => none
  | .ok (level, s) =>
    match Bzip2.readBlocks level (s.length + 1) 0 #[] s with
    | .done out _ rest => some ⟨out.toList, some (data.drop (data.length - rest.length / 8))⟩
    | .short out => some ⟨out.toList, none⟩
    | .bad => none

end FileDepot.Compression
