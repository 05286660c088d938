import FileDepot.Fault

/-!
# Operations

A `World` is what operations work on: a store, the notes made so far, and the tickets of contents
that were handed out. An operation may fail; what it changed before it failed stays changed.
-/

namespace FileDepot

/-- How much a note matters. -/
inductive Level where
  /-- of interest when looking for a defect -/
  | debug
  /-- of general interest -/
  | info
  deriving DecidableEq, Repr

/-- The part of the depot that a note comes from. -/
inductive Topic where
  /-- the file operations -/
  | operations
  /-- the store in memory -/
  | memory
  /-- the store on disk -/
  | disk
  /-- the download of archives -/
  | download
  /-- the server -/
  | server
  deriving DecidableEq, Repr

/-- A note for the log. -/
structure Note where
  /-- how much it matters -/
  level : Level
  /-- where it comes from -/
  topic : Topic
  /-- its text -/
  text : String
  deriving DecidableEq, Repr

/-- What operations work on. -/
structure World (σ : Type) where
  /-- the store -/
  store : σ
  /-- the notes, latest first -/
  notes : List Note
  /-- how many tickets for contents are issued -/
  issued : Nat
  /-- the tickets that are redeemed -/
  redeemed : List Nat

/-- A world in which nothing has happened yet. -/
def World.fresh {σ : Type} (store : σ) : World σ := ⟨store, [], 0, []⟩

/-- An operation: it reads and changes a world, and gives a value or fails. -/
abbrev Op (σ : Type) := ExceptT Fault (StateM (World σ))

namespace Op

variable {σ α β : Type}

/-- Carry out an operation: its value or fault, and the world after it. -/
def exec (op : Op σ α) (w : World σ) : Except Fault α × World σ := ExceptT.run op w

/-- Fail. -/
def fail (f : Fault) : Op σ α := throw f

/-- The value of a computation that may fail. -/
def ofExcept (e : Except Fault α) : Op σ α :=
  match e with
  | .ok a => pure a
  | .error f => fail f

/-- Make a note. -/
def note (level : Level) (topic : Topic) (text : String) : Op σ Unit :=
  modify fun w => { w with notes := ⟨level, topic, text⟩ :: w.notes }

/-- Carry out an operation and change the fault it may fail with. -/
def mapFault (f : Fault → Fault) (op : Op σ α) : Op σ α :=
  fun w => match op.exec w with
    | (.ok a, w) => (.ok a, w)
    | (.error e, w) => (.error (f e), w)

/-- Carry out an operation and take its fault as a value. -/
def attempt (op : Op σ α) : Op σ (Except Fault α) :=
  fun w => match op.exec w with
    | (result, w) => (.ok result, w)

/-- Change the store by a pure step: the store after it, whether it fails or not. -/
def onStore (step : σ → Except Fault α × σ) : Op σ α :=
  fun w => match step w.store with
    | (result, store) => (result, { w with store := store })

/-- Ask the store. -/
def ask (question : σ → Except Fault α) : Op σ α :=
  fun w => (question w.store, w)

/-- Issue a new ticket. -/
def issueTicket : Op σ Nat :=
  fun w => (.ok w.issued, { w with issued := w.issued + 1 })

/-- Redeem a ticket. -/
def redeem (ticket : Nat) : Op σ Unit :=
  modify fun w => { w with redeemed := ticket :: w.redeemed }

/-- Whether a ticket is redeemed. -/
def isRedeemed (ticket : Nat) : Op σ Bool :=
  fun w => (.ok (w.redeemed.contains ticket), w)

end Op

end FileDepot
