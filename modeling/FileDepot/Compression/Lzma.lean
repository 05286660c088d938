import FileDepot.Compression.Bits

/-!
# Data compressed by ranges

Contents are told by decisions, each of which is weighed by how often it was taken before: the next byte,
or a piece of what is there already. A decision narrows a range down, and the data is a number in the
range that is left. Data may end anywhere; what was decided up to there then counts.
-/

namespace FileDepot.Compression.Lzma

/-- Why data is not compressed data. -/
inductive Fault where
  /-- the properties are none -/
  | options
  /-- the data is damaged -/
  | corrupt
  deriving DecidableEq, Repr

/-- The wording of a fault. -/
def Fault.message : Fault → String
  | .options => "Invalid or unsupported options"
  | .corrupt => "Corrupt input data"

/-! ## Properties -/

/-- How contents are compressed. -/
structure Properties where
  /-- how many bits of the byte before a byte tell how it is weighed -/
  before : Nat
  /-- how many bits of its place tell how a byte is weighed -/
  bytePlace : Nat
  /-- how many bits of its place tell how other decisions are weighed -/
  place : Nat
  /-- how far contents look back -/
  reach : Nat
  deriving DecidableEq, Repr

/-- The most bits that tell how a byte is weighed. -/
def mostByteBits : Nat := 4

/-- The least distance that contents may look back. -/
def leastReach : Nat := 4096

/-- Read properties. The reach is rounded up. -/
def Properties.read (data : Bytes) : Except Fault Properties :=
  match data with
  | [first, a, b, c, d] =>
    let n := first.toNat
    let reach := max leastReach (Bytes.toNat [a, b, c, d])
    let p : Properties := ⟨n % 9, n / 9 % 5, n / 45, (reach + 15) / 16 * 16⟩
    if 224 < n || mostByteBits < p.before + p.bytePlace then .error .options else .ok p
  | _ => .error .options

/-! ## Decisions -/

/-- Why reading stops. -/
inductive Stop where
  /-- the data ends -/
  | short
  /-- the data is faulty -/
  | bad
  deriving DecidableEq, Repr

/-- What is known while contents are made. -/
structure Machine where
  /-- the width of the range -/
  range : UInt32
  /-- the place of the number in the range -/
  code : UInt32
  /-- the data that is left -/
  rest : Bytes
  /-- the weight of each decision, from 0 to 2048 -/
  weights : Array UInt32
  /-- the contents so far -/
  out : Array UInt8
  /-- what was made lately, as one of twelve states of affairs -/
  state : Nat
  /-- the last distance, less one -/
  last : Nat
  /-- the one before it -/
  older : Nat
  /-- the one before that -/
  olderStill : Nat
  /-- the one before that -/
  oldest : Nat

/-- Reading decisions. Where the data ends, what was made before stays. -/
abbrev Reader := ExceptT Stop (StateM Machine)

/-- Ask the machine. -/
def ask {α : Type} (question : Machine → α) : Reader α := fun m => (.ok (question m), m)

/-- Widen a range until it is wide enough. -/
def widen (range code : UInt32) (rest : Bytes) : Option (UInt32 × UInt32 × Bytes) :=
  if range < 0x1000000 then
    match rest with
    | b :: rest => some (range <<< 8, (code <<< 8) ||| b.toUInt32, rest)
    | [] => none
  else some (range, code, rest)

/-- Read a decision by its number. -/
def decision (i : Nat) : Reader Bool := fun m =>
  match widen m.range m.code m.rest with
  | none => (.error .short, m)
  | some (range, code, rest) =>
    let weight := m.weights[i]?.getD 1024
    let bound := (range >>> 11) * weight
    if code < bound then
      (.ok false, { m with
        range := bound, code := code, rest := rest
        weights := m.weights.setIfInBounds i (weight + ((2048 - weight) >>> 5)) })
    else
      (.ok true, { m with
        range := range - bound, code := code - bound, rest := rest
        weights := m.weights.setIfInBounds i (weight - (weight >>> 5)) })

/-- Read a decision without a weight. -/
def evenDecision : Reader Bool := fun m =>
  match widen m.range m.code m.rest with
  | none => (.error .short, m)
  | some (range, code, rest) =>
    let half := range >>> 1
    let above := code - half
    if above &&& 0x80000000 = 0 then
      (.ok true, { m with range := half, code := above, rest := rest })
    else (.ok false, { m with range := half, code := code, rest := rest })

/-- Read `n` decisions without weights as bits of a number, highest bit first. -/
def evenNumber (value : Nat) : Nat → Reader Nat
  | 0 => pure value
  | n + 1 => do evenNumber (2 * value + (← evenDecision).toNat) n

/-- Go down a tree of decisions: each place has two below it. -/
def descend (base node : Nat) : Nat → Reader Nat
  | 0 => pure node
  | n + 1 => do descend base (2 * node + (← decision (base + node)).toNat) n

/-- Read a number of `n` bits, highest bit first. -/
def number (base n : Nat) : Reader Nat := do
  pure ((← descend base 1 n) - 1 <<< n)

/-- Read a number of `n` bits, lowest bit first. `node` is the place in the tree, and `unit` what the
next bit counts for. -/
def reversed (base node unit : Nat) : Nat → Reader Nat
  | 0 => pure 0
  | n + 1 => do
    let b := (← decision (base + node)).toNat
    pure (unit * b + (← reversed base (2 * node + b) (2 * unit) n))

/-! ## The places of the weights -/

/-- Whether a piece comes next, by the state of affairs and the place. -/
def pieceWeights : Nat := 0

/-- Whether the piece has a distance that was used before. -/
def againWeights : Nat := pieceWeights + 192

/-- Whether the distance is not the last one. -/
def olderWeights : Nat := againWeights + 12

/-- Whether the distance is not the one before the last. -/
def olderStillWeights : Nat := olderWeights + 12

/-- Whether the distance is the oldest one. -/
def oldestWeights : Nat := olderStillWeights + 12

/-- Whether more than a byte has the last distance. -/
def longWeights : Nat := oldestWeights + 12

/-- The class of a distance. -/
def classWeights : Nat := longWeights + 192

/-- The bits of a middle distance. -/
def middleWeights : Nat := classWeights + 256

/-- The lowest bits of a far distance. -/
def lowWeights : Nat := middleWeights + 128

/-- The length of a piece with a new distance. -/
def lengthWeights : Nat := lowWeights + 16

/-- The length of a piece with a distance that was used before. -/
def againLengthWeights : Nat := lengthWeights + 514

/-- Bytes. -/
def byteWeights : Nat := againLengthWeights + 514

/-- The number of weights. -/
def weightCount (p : Properties) : Nat := byteWeights + 768 <<< (p.before + p.bytePlace)

/-! ## Pieces -/

/-- The byte at a distance, less one. -/
def Machine.byteAt (m : Machine) (distance : Nat) : UInt8 :=
  if distance < m.out.size then m.out[m.out.size - 1 - distance]?.getD 0 else 0

/-- Append `n` bytes, each a copy of the one at a distance, less one. -/
def copyBack (distance : Nat) : Nat → Array UInt8 → Array UInt8
  | 0, out => out
  | n + 1, out => copyBack distance n (out.push (out[out.size - 1 - distance]?.getD 0))

/-- Read a byte that differs from the one at the last distance, bit by bit along that byte while they
agree. -/
def byteBeside (base node : Nat) (isAlong : Bool) (other : Nat) : Nat → Reader Nat
  | 0 => pure node
  | n + 1 => do
    let otherBit := other.testBit n
    let offset := if isAlong then (if otherBit then 512 else 256) else 0
    let b ← decision (base + offset + node)
    byteBeside base (2 * node + b.toNat) (isAlong && b = otherBit) other n

/-- The first of the weights of a byte. -/
def Machine.byteBase (p : Properties) (m : Machine) : Nat :=
  let place := m.out.size % 1 <<< p.bytePlace
  let kind := place <<< p.before + (m.byteAt 0).toNat >>> (8 - p.before)
  byteWeights + 768 * kind

/-- Append a byte. -/
def Machine.push (m : Machine) (b : UInt8) : Machine :=
  { m with
    out := m.out.push b
    state := if m.state < 4 then 0 else if m.state < 10 then m.state - 3 else m.state - 6 }

/-- Read a byte. -/
def byte (p : Properties) : Reader Unit := do
  let base ← ask (·.byteBase p)
  let beside ← ask fun m => if m.state < 7 then none else some (m.byteAt m.last).toNat
  let node ← match beside with
    | none => descend base 1 8
    | some other => byteBeside base 1 true other 8
  modify (·.push (UInt8.ofNat (node % 256)))

/-- Read a length. -/
def length (base place : Nat) : Reader Nat := do
  if ← decision base then
    if ← decision (base + 1) then pure (18 + (← number (base + 258) 8))
    else pure (10 + (← number (base + 130 + 8 * place) 3))
  else pure (2 + (← number (base + 2 + 8 * place) 3))

/-- Read a distance, less one, for a piece of a length. -/
def distance (length : Nat) : Reader Nat := do
  let kind ← number (classWeights + 64 * min (length - 2) 3) 6
  if kind < 4 then pure kind
  else
    let bits := kind / 2 - 1
    let first := (2 + kind % 2) <<< bits
    if kind < 14 then
      pure (first + (← reversed (middleWeights + first - kind) 1 1 bits))
    else
      let high ← evenNumber 0 (bits - 4)
      pure (first + high * 16 + (← reversed lowWeights 1 1 4))

/-- The distance that ends contents, less one. -/
def endDistance : Nat := 0xffffffff

/-- Whether a distance, less one, does not lead to what is not known any more. -/
def Machine.reaches (p : Properties) (m : Machine) (distance : Nat) : Bool :=
  distance < min m.out.size p.reach

/-- Append a piece with the last distance. -/
def Machine.append (m : Machine) (length : Nat) : Machine :=
  { m with out := copyBack m.last length m.out }

/-- Go over to another state of affairs: one after bytes, and one after a piece. -/
def Machine.enter (m : Machine) (afterBytes afterPiece : Nat) : Machine :=
  { m with state := if m.state < 7 then afterBytes else afterPiece }

/-- Make a distance, less one, the last one. -/
def Machine.remember (m : Machine) (distance : Nat) : Machine :=
  { m with last := distance, older := m.last, olderStill := m.older, oldest := m.olderStill }

/-- Make sure that nothing is left of the range. -/
def finish : Reader Unit := fun m =>
  match widen m.range m.code m.rest with
  | none => (.error .short, m)
  | some (range, code, rest) =>
    if code = 0 then (.ok (), { m with range := range, code := code, rest := rest })
    else (.error .bad, m)

/-- Read a piece with a new distance. The answer is whether contents end instead. -/
def piece (p : Properties) (place : Nat) : Reader Bool := do
  let length ← length lengthWeights place
  let distance ← distance length
  if distance = endDistance then
    finish
    pure true
  else
    if !(← ask (·.reaches p distance)) then throw .bad
    modify fun m => ((m.remember distance).enter 7 10).append length
    pure false

/-- Which of the distances that were used before comes next. -/
inductive Recalled where
  /-- the last one -/
  | last
  /-- the one before it -/
  | older
  /-- the one before that -/
  | olderStill
  /-- the one before that -/
  | oldest

/-- Read which of the older distances comes next. -/
def recalled (state : Nat) : Reader Recalled := do
  if ← decision (olderStillWeights + state) then
    if ← decision (oldestWeights + state) then pure .oldest else pure .olderStill
  else pure .older

/-- Put one of the distances that were used before in front. -/
def Machine.recall (m : Machine) : Recalled → Machine
  | .last => m
  | .older => { m with last := m.older, older := m.last }
  | .olderStill => { m with last := m.olderStill, older := m.last, olderStill := m.older }
  | .oldest => m.remember m.oldest

/-- Read a piece with a distance that was used before. -/
def pieceAgain (p : Properties) (state place : Nat) : Reader Unit := do
  if !(← ask (·.reaches p 0)) then throw .bad
  if ← decision (olderWeights + state) then
    let which ← recalled state
    let length ← length againLengthWeights place
    modify fun m => ((m.recall which).enter 8 11).append length
  else if ← decision (longWeights + 16 * state + place) then
    let length ← length againLengthWeights place
    modify fun m => (m.enter 8 11).append length
  else modify fun m => (m.enter 9 11).append 1

/-- Read a byte or a piece. The answer is whether contents end instead. -/
def step (p : Properties) : Reader Bool := do
  let state ← ask (·.state)
  let place ← ask fun m => m.out.size % 1 <<< p.place
  if ← decision (pieceWeights + 16 * state + place) then
    if ← decision (againWeights + state) then
      pieceAgain p state place
      pure false
    else piece p place
  else
    byte p
    pure false

/-- A bound for the number of steps that data is enough for: every decision narrows the range by one part
in 67 at least, and a byte widens it 256 times. -/
def stepBound (data : Bytes) : Nat := 512 * (data.length + 8)

/-- Make contents up to their end. -/
def make (p : Properties) : Nat → Machine → Except Fault Unpacked
  | 0, m => .ok ⟨m.out.toList, none⟩
  | fuel + 1, m =>
    match step p m with
    | (.ok false, m) => make p fuel m
    | (.ok true, m) => .ok ⟨m.out.toList, some m.rest⟩
    | (.error .short, m) => .ok ⟨m.out.toList, none⟩
    | (.error .bad, _) => .error .corrupt

/-- Read what the data begins with: a zero byte and the number. -/
def start (p : Properties) (data : Bytes) : Except Fault (Option Machine) :=
  match data with
  | 0 :: a :: b :: c :: d :: rest =>
    .ok (some ⟨0xffffffff, UInt32.ofNat (Bytes.toNat [d, c, b, a]), rest,
      Array.replicate (weightCount p) 1024, #[], 0, 0, 0, 0, 0⟩)
  | b :: _ => if b = 0 then .ok none else .error .corrupt
  | [] => .ok none

end FileDepot.Compression.Lzma

namespace FileDepot.Compression

/-- Read data that was compressed by ranges. -/
def unrange (properties data : Bytes) : Except Lzma.Fault Unpacked := do
  let p ← Lzma.Properties.read properties
  match ← Lzma.start p data with
  | none => .ok ⟨[], none⟩
  | some m => Lzma.make p (Lzma.stepBound data) m

end FileDepot.Compression
