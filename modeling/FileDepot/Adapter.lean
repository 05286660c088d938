import FileDepot.Request

/-!
# File operations

An adapter carries out requests on a store. A listing gives a *cursor* over the files that a pattern
stands for; each step of the cursor makes one *record*, whose contents are opened only when asked for.
Trouble of the store is told as trouble of the operation.
-/

namespace FileDepot

open Encoding

/-- How an adapter works. -/
structure Config where
  /-- the encoding of text files and of saved characters -/
  codec : Codec
  /-- whether it is a fault when nothing is found -/
  failOnMissing : Bool
  deriving DecidableEq, Repr

namespace Config

/-- The encoding that is used when none is asked for. -/
def defaultLabel : String := "utf-8"

/-- A way to work, with the encoding given by its label. -/
def make (label : String) (failOnMissing : Bool) : Except Fault Config :=
  match (Charset.ofLabel label).require with
  | .ok codec => .ok ⟨codec, failOnMissing⟩
  | .error (.unknown label) => .error (.refused (.encoding label))
  | .error e => .error (.charset e)

/-- The encoding, as asked for. -/
def charset (c : Config) : Charset := .ofCodec c.codec

end Config

/-- A file that a listing gave. -/
structure Record (σ : Type) where
  /-- the contents -/
  content : Lob σ
  /-- the name -/
  name : String
  /-- the time of the last change -/
  modified : Option Moment
  /-- the time the file was made -/
  created : Option Moment
  /-- the size -/
  size : Option Nat
  /-- whether metadata was asked for -/
  hasMetadata : Bool

namespace Record

/-- The number of columns of a record. -/
def width {σ : Type} (r : Record σ) : Nat := if r.hasMetadata then 5 else 2

end Record

/-! ## Cursors -/

/-- The result of a request: the files of a listing, which are passed one by one, or no files. -/
structure Cursor (η : Type) where
  /-- what was asked for -/
  kind : Kind
  /-- whether metadata was asked for -/
  metadata : Bool
  /-- the files -/
  files : List η
  /-- how many files are passed -/
  index : Nat
  /-- whether the cursor is closed -/
  closed : Bool
  deriving DecidableEq, Repr

namespace Cursor

variable {η : Type}

/-- Whether no more files come. -/
def exhausted (c : Cursor η) : Bool := c.closed || c.files.length ≤ c.index

/-- Close a cursor. -/
def close (c : Cursor η) : Cursor η := { c with files := [], closed := true }

/-- Pass one file: the file, if one was left, and the cursor after it. -/
def advance (c : Cursor η) : Option η × Cursor η :=
  if !c.kind.isListing || c.exhausted then (none, c)
  else (c.files[c.index]?, { c with index := c.index + 1 })

/-- Passing a file leaves fewer of them. -/
theorem advance_lt {c after : Cursor η} {h : η} (step : c.advance = (some h, after)) :
    after.files.length - after.index < c.files.length - c.index := by
  unfold advance at step
  split at step
  · simp at step
  · rename_i hc
    simp only [Prod.mk.injEq] at step
    obtain ⟨hget, rfl⟩ := step
    have : c.index < c.files.length := (List.getElem?_eq_some_iff.mp hget).1
    simp only
    omega

/-- The files that are not passed yet. -/
def remaining (c : Cursor η) : List η :=
  if c.kind.isListing && !c.closed then c.files.drop c.index else []

/-- Passing a file takes the first of those that are left. -/
theorem remaining_of_advance {c after : Cursor η} {h : η} (step : c.advance = (some h, after)) :
    c.remaining = h :: after.remaining := by
  unfold advance at step
  split at step
  · simp at step
  · rename_i hc
    simp only [Bool.or_eq_true, Bool.not_eq_eq_eq_not, Bool.not_true, exhausted, not_or,
      Bool.not_eq_false] at hc
    obtain ⟨listing, left⟩ := hc
    have opened : c.closed = false := by
      cases hcl : c.closed
      · rfl
      · simp [hcl] at left
    simp only [Prod.mk.injEq] at step
    obtain ⟨hget, rfl⟩ := step
    obtain ⟨hlt, rfl⟩ := List.getElem?_eq_some_iff.mp hget
    simp only [remaining, listing, opened, Bool.not_false, Bool.and_self, if_true]
    exact List.drop_eq_getElem_cons hlt

/-- A cursor that passes no file has none left, and stays as it is. -/
theorem remaining_of_advance_none {c after : Cursor η} (step : c.advance = (none, after)) :
    c.remaining = [] ∧ after = c := by
  unfold advance at step
  split at step
  · rename_i hc
    simp only [Prod.mk.injEq, true_and] at step
    subst step
    refine ⟨?_, rfl⟩
    unfold remaining
    split
    · rename_i ho
      simp only [Bool.and_eq_true, Bool.not_eq_eq_eq_not, Bool.not_true] at ho
      simp only [ho.1, Bool.not_true, Bool.false_or, exhausted, ho.2, Bool.false_or,
        decide_eq_true_eq] at hc
      exact List.drop_eq_nil_of_le hc
    · rfl
  · rename_i hc
    simp only [Prod.mk.injEq] at step
    obtain ⟨hget, rfl⟩ := step
    have hle := List.getElem?_eq_none_iff.mp hget
    simp [exhausted, hle] at hc

end Cursor

/-! ## Adapters -/

/-- File operations on a store. -/
structure Adapter (σ η : Type) where
  /-- the store -/
  store : Store σ η
  /-- how to work -/
  config : Config

namespace Adapter

variable {σ η : Type}

/-- The contents of a file, to be opened later. -/
def lob (a : Adapter σ η) (kind : Kind) (h : η) (length : Option Nat) : Op σ (Lob σ) :=
  Lob.create (a.store.contents h) length
    (if kind = .listText then some a.config.charset else none) a.store.medium

/-- What is reported when metadata cannot be read: trouble of the system is told as such. -/
def metadataFault (path : String) (f : Fault) : Fault :=
  if f.isSystem then .unreadable path f else f

/-- Read the time of the last change, the time a file was made, and its size, in this order. -/
def metadata (a : Adapter σ η) (h : η) : Op σ (Moment × Option Moment × Nat) :=
  Op.mapFault (metadataFault (a.store.path h)) do
    let modified ← a.store.modified h
    let created ← a.store.created h
    let size ← a.store.size h
    pure (modified, created, size)

/-- The record of a file. A file whose making is not known counts as made when it last changed. -/
def record (a : Adapter σ η) (c : Cursor η) (h : η) : Op σ (Record σ) := do
  Op.note .debug .operations ("Getting " ++ a.store.path h)
  if c.metadata then
    let (modified, created, size) ← a.metadata h
    let content ← a.lob c.kind h (some size)
    pure ⟨content, a.store.name h, some modified, some (created.getD modified), some size, true⟩
  else
    let content ← a.lob c.kind h none
    pure ⟨content, a.store.name h, none, none, none, false⟩

/-- Pass one file of a cursor: the cursor after it, and how to make its record. -/
def next (a : Adapter σ η) (c : Cursor η) : Op σ (Option (Record σ)) × Cursor η :=
  match c.advance with
  | (none, c) => (pure none, c)
  | (some h, c') => (some <$> a.record c h, c')

/-- Pass all files of a cursor that are left: their records, the cursor and the world after them. A
record that cannot be made ends this, with a fault or as if there were no more files, and the files after
it are still left. -/
def drain (a : Adapter σ η) (c : Cursor η) (w : World σ) :
    Except Fault (List (Record σ)) × Cursor η × World σ :=
  match _step : c.advance with
  | (none, c) => (.ok [], c, w)
  | (some h, after) =>
    match (a.record c h).exec w with
    | (.error f, w) => (if f.endsListing then .ok [] else .error f, after, w)
    | (.ok r, w) =>
      match drain a after w with
      | (rest, last, w) => (rest.map (r :: ·), last, w)
termination_by c.files.length - c.index
decreasing_by exact Cursor.advance_lt _step

/-- What is reported when a pattern cannot be resolved. -/
def resolveFault (pattern : String) (f : Fault) : Fault :=
  if f.isSystem then .unresolved pattern f else f

/-- What is reported when a file cannot be saved. -/
def writeFault (path : String) (f : Fault) : Fault :=
  if f.isSystem || f.family.isUnicode || f.family = .storage then .unwritten path f else f

/-- What is reported when a file cannot be removed. -/
def deleteFault (path : String) (f : Fault) : Fault :=
  if f.isSystem then .undeleted path f else f

/-- The result of a request without files. -/
def finished (r : Request σ) : Cursor η :=
  ⟨r.kind, projectsMetadata r.columns, [], 0, false⟩

/-- List the files that a pattern stands for. -/
def list (a : Adapter σ η) (r : Request σ) : Op σ (Cursor η) :=
  match r.path with
  | none => Op.fail (.refused .noPattern)
  | some pattern =>
    if r.columns.isEmpty || r.columns.any fun c => (Column.ofName? c).isNone then
      Op.fail (.refused (.columns r.columns))
    else do
      let files ← Op.mapFault (resolveFault pattern) (a.store.resolve pattern)
      Op.note .debug .operations ("Getting " ++ toString files.length ++ " file(s)")
      if files.isEmpty && a.config.failOnMissing then Op.fail (.notFound pattern)
      else pure { (finished r : Cursor η) with files := files }

/-- The path of a request, which must not be blank. -/
def requiredPath (r : Request σ) : Except Fault String :=
  match r.path with
  | none => .error (.refused .noPath)
  | some p => if (Text.trim p.toList).isEmpty then .error (.refused .noPath) else .ok p

/-- Save a file. -/
def save (a : Adapter σ η) (r : Request σ) : Op σ Unit := do
  let path ← Op.ofExcept (requiredPath r)
  match r.content with
  | none => Op.fail (.refused .noContent)
  | some payload =>
    Op.note .debug .operations ("Saving " ++ path)
    Op.mapFault (writeFault path) do
      let content ← payload.toReader a.config.charset
      a.store.write path content

/-- Remove a file. -/
def delete (a : Adapter σ η) (r : Request σ) : Op σ Unit := do
  let path ← Op.ofExcept (requiredPath r)
  Op.note .debug .operations ("Deleting " ++ path)
  let removed ← Op.mapFault (deleteFault path) (a.store.remove path)
  if removed then pure ()
  else if a.config.failOnMissing then Op.fail (.notFound path)
  else Op.note .debug .operations ("Nothing to delete at " ++ path)

/-- Carry out a request. -/
def execute (a : Adapter σ η) (request : Option (Request σ)) : Op σ (Cursor η) :=
  match request with
  | none => Op.fail (.refused .noRequest)
  | some r =>
    match r.kind with
    | .listText | .listBinary => a.list r
    | .save => do
      a.save r
      pure (finished r)
    | .delete => do
      a.delete r
      pure (finished r)
    | .other name => Op.fail (.refused (.kind name))

/-- Carry out a procedure by name. Contents count only where something is saved, and no columns means
all of them. -/
def procedure (a : Adapter σ η) (name : Option String) (path : Option String)
    (content : Option (Payload σ)) (columns : List String) : Op σ (Cursor η) := do
  let kind ← Op.ofExcept (Kind.ofProcedure name)
  a.execute <| some
    ⟨kind, path, if kind = .save then content else none,
      if columns.isEmpty then Column.allNames else columns⟩

end Adapter

end FileDepot
