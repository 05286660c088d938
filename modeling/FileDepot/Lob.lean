import FileDepot.Store.Basic

/-!
# Large objects

A large object stands for contents that are not read yet. Its contents can be opened once: opening
them redeems the ticket of the object, and a failure to open them leaves the ticket as it was. Opened
contents are a `Stream`, of text or of bytes, until it is closed.
-/

namespace FileDepot

open Encoding

/-- A piece of contents. -/
inductive Content where
  /-- text -/
  | text (s : List Point)
  /-- bytes -/
  | bytes (data : Bytes)
  deriving DecidableEq, Repr

/-- Where a stream takes its contents from. -/
inductive StreamSource where
  /-- text -/
  | text (r : TextReader)
  /-- bytes -/
  | bytes (r : ByteReader)
  deriving DecidableEq, Repr

/-- Opened contents. -/
structure Stream where
  /-- what is left of them -/
  source : StreamSource
  /-- where they are read from -/
  medium : Medium
  /-- whether they are closed -/
  closed : Bool
  deriving DecidableEq, Repr

namespace Stream

/-- What reading reports once the stream is closed. -/
def afterClose (s : Stream) : ValueFault :=
  match s.source with
  | .text _ => .closed
  | .bytes _ => s.medium.afterClose

/-- Forget the text that is decoded and not given out. -/
def forgetReady (s : Stream) : Stream :=
  match s.source with
  | .text r => { s with source := .text r.forgetReady }
  | .bytes _ => s

/-- Why a number of bytes cannot be asked for, before it is asked whether the stream is closed. -/
def refused? (s : Stream) (n : Int) : Option ReadLength.Fault :=
  match s.source, s.medium with
  | .bytes _, .file =>
    if !ReadLength.isCountable n then some .uncountable
    else if n < -1 then some .negative else none
  | _, _ => if ReadLength.isCountable n then none else some .uncountable

/-- Why there is no room for what is asked for, where there is room for `room` bytes: files are read into a
piece of bytes that is made beforehand. -/
def unroomed? (room : Nat) (s : Stream) (n : Int) : Option ReadLength.Fault :=
  match s.source, s.medium with
  | .bytes _, .file =>
    match ReadLength.withRoom room n with
    | .error e => some e
    | .ok _ => none
  | .text r, .file => if room < r.nextChunk n then some .noRoom else none
  | _, .memory => none

/-- Read `n` code points or bytes, or fewer at the end; a negative number reads all that is left. Of the
negative numbers, the bytes of a file take minus one alone. There is room for `room` bytes. -/
def read (room : Nat) (s : Stream) (n : Int) : Except FileDepot.Fault Content × Stream :=
  match s.refused? n with
  | some e => (.error (.length e), s)
  | none =>
    if s.closed then (.error (.value s.afterClose), s)
    else match s.unroomed? room n with
      | some e => (.error (.length e), s.forgetReady)
      | none =>
        match s.source with
        | .text r =>
          let (result, r) := r.read n
          (result.map .text, { s with source := .text r })
        | .bytes r =>
          let (result, r) := r.read room n
          (result.map .bytes, { s with source := .bytes r })

/-- Close a stream. -/
def close (s : Stream) : Stream := { s with closed := true }

/-- All that is left of a stream. No room is made beforehand for that. -/
def readAll (s : Stream) : Except FileDepot.Fault Content := (s.read 0 (-1)).1

end Stream

/-- Contents that are not read yet. -/
structure Lob (σ : Type) where
  /-- the ticket that opening redeems -/
  ticket : Nat
  /-- where the bytes come from -/
  source : Op σ Supply
  /-- the number of bytes, as somebody gave it -/
  length : Option Int
  /-- the encoding of text; bytes have none -/
  charset : Option Charset
  /-- where opened bytes are read from -/
  medium : Medium

namespace Lob

variable {σ : Type}

/-- Make a large object with a new ticket. -/
def create (source : Op σ Supply) (length : Option Int) (charset : Option Charset)
    (medium : Medium) : Op σ (Lob σ) := do
  let ticket ← Op.issueTicket
  pure ⟨ticket, source, length, charset, medium⟩

/-- Whether the contents were opened. -/
def isOpened (l : Lob σ) : Op σ Bool := Op.isRedeemed l.ticket

/-- What is reported when the contents cannot be opened: trouble of the system is told as such. -/
def openFault (f : FileDepot.Fault) : FileDepot.Fault :=
  if f.isSystem then .unopened f else f

/-- Take what the bytes come from, which can be done once. -/
def take (l : Lob σ) : Op σ Supply := do
  if ← l.isOpened then Op.fail .consumed
  else
    let supply ← Op.mapFault openFault l.source
    Op.redeem l.ticket
    pure supply

/-- Take the text, which can be done once. -/
def takeText (l : Lob σ) (charset : Charset) : Op σ TextReader := do
  let supply ← l.take
  let codec ← Op.ofExcept (charset.requireText.mapError .charset)
  if supply.isClosed then Op.fail (.value .closed)
  else pure (.decoded (.ofSupply codec supply))

/-- Open the contents. -/
def openStream (l : Lob σ) : Op σ Stream :=
  match l.charset with
  | some charset => do pure ⟨.text (← l.takeText charset), l.medium, false⟩
  | none => do pure ⟨.bytes (.ofSupply (← l.take)), l.medium, false⟩

/-- Open the contents and read all of them. -/
def read (l : Lob σ) : Op σ Content := do
  let s ← l.openStream
  Op.ofExcept s.readAll

end Lob

end FileDepot
