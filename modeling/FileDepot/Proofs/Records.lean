import FileDepot.Adapter
import FileDepot.Proofs.Operation
import FileDepot.Proofs.Outcome

/-!
# Records of files

How a record comes about, for any store. That a file is passed is noted, its metadata are read one after
the other if they are asked for, and its contents get the next ticket (`Adapter.record_exec`). When one of
the metadata cannot be read, there is no record (`Adapter.record_of_unreadable`). Contents are opened by taking their bytes, and what is
made of these does not depend on the world (`Lob.openStream_exec_cases`).
-/

namespace FileDepot

open Encoding

variable {σ η : Type}

namespace Adapter

variable (a : Adapter σ η) (c : Cursor η) (h : η) (w : World σ)

/-- The world in which a record is made: that the file is passed is noted. -/
def passing : World σ :=
  { w with notes := ⟨.debug, .operations, "Getting " ++ a.store.path h⟩ :: w.notes }

/-- The contents of a file, to be opened later by a ticket. -/
def contentOf (kind : Kind) (length : Option Int) (ticket : Nat) : Lob σ :=
  ⟨ticket, a.store.contents h, length, if kind = .listText then some a.config.charset else none,
    a.store.medium⟩

/-- The record of a file with its metadata. -/
def fullRecord (ticket : Nat) (modified : Moment) (created : Option Moment) (size : Nat) : Record σ :=
  ⟨a.contentOf h c.kind (some size) ticket, a.store.name h, some modified,
    some (created.getD modified), some size, true⟩

/-- The record of a file without metadata. -/
def plainRecord (ticket : Nat) : Record σ :=
  ⟨a.contentOf h c.kind none ticket, a.store.name h, none, none, none, false⟩

/-- The metadata of a file are read one after the other, up to the first that cannot be read. -/
theorem metadata_exec : (a.metadata h).exec w =
    match (a.store.modified h).exec w with
    | (.error f, w) => (.error (metadataFault (a.store.path h) f), w)
    | (.ok modified, w) =>
      match (a.store.created h).exec w with
      | (.error f, w) => (.error (metadataFault (a.store.path h) f), w)
      | (.ok created, w) =>
        match (a.store.size h).exec w with
        | (.error f, w) => (.error (metadataFault (a.store.path h) f), w)
        | (.ok size, w) => (.ok (modified, created, size), w) := by
  simp only [metadata, Op.mapFault_exec, Op.bind_exec, Op.pure_exec]
  rcases (a.store.modified h).exec w with ⟨f | modified, w⟩
  · rfl
  simp only
  rcases (a.store.created h).exec w with ⟨f | created, w⟩
  · rfl
  simp only
  rcases (a.store.size h).exec w with ⟨f | size, w⟩
  · rfl
  · rfl

/-- **Record.** A record stands for the contents of its file under the next ticket, and tells the metadata
if they are asked for. -/
theorem record_exec : (a.record c h).exec w =
    if c.metadata then
      match (a.metadata h).exec (a.passing h w) with
      | (.error f, w) => (.error f, w)
      | (.ok (modified, created, size), w) =>
        (.ok (a.fullRecord c h w.issued modified created size), { w with issued := w.issued + 1 })
    else (.ok (a.plainRecord c h w.issued), { a.passing h w with issued := w.issued + 1 }) := by
  cases hmeta : c.metadata with
  | true =>
    simp only [record, hmeta, if_true, Op.bind_exec, Op.note_exec, lob, Lob.create, Op.pure_exec,
      Op.issueTicket_exec, passing]
    rcases (a.metadata h).exec _ with ⟨f | ⟨modified, created, size⟩, w⟩
    · rfl
    · rfl
  | false =>
    simp only [record, hmeta, Bool.false_eq_true, if_false, Op.bind_exec, Op.note_exec, lob,
      Lob.create, Op.pure_exec, Op.issueTicket_exec]
    rfl

/-- A record is that of its file. -/
theorem record_eq_ok {r : Record σ} {w' : World σ} (hr : (a.record c h).exec w = (.ok r, w')) :
    r.name = a.store.name h ∧ r.hasMetadata = c.metadata ∧
      ∃ length ticket, r.content = a.contentOf h c.kind length ticket := by
  rw [record_exec] at hr
  split at hr
  · rename_i hmeta
    split at hr
    · cases hr
    · obtain ⟨hr, -⟩ := Prod.mk.inj hr
      obtain rfl := Except.ok.inj hr
      exact ⟨rfl, hmeta.symm, _, _, rfl⟩
  · rename_i hmeta
    obtain ⟨hr, -⟩ := Prod.mk.inj hr
    obtain rfl := Except.ok.inj hr
    exact ⟨rfl, (Bool.eq_false_iff.mpr hmeta).symm, _, _, rfl⟩

/-- Reading the metadata of a file fails: one of them cannot be read, after those before it were. -/
inductive Unreadable : World σ → Fault → World σ → Prop where
  /-- the time of the last change cannot be read -/
  | modified {w f w'} : (a.store.modified h).exec w = (.error f, w') → Unreadable w f w'
  /-- the time the file was made cannot be read -/
  | created {w modified w₁ f w'} : (a.store.modified h).exec w = (.ok modified, w₁) →
    (a.store.created h).exec w₁ = (.error f, w') → Unreadable w f w'
  /-- the size cannot be read -/
  | size {w modified w₁ created w₂ f w'} : (a.store.modified h).exec w = (.ok modified, w₁) →
    (a.store.created h).exec w₁ = (.ok created, w₂) →
    (a.store.size h).exec w₂ = (.error f, w') → Unreadable w f w'

variable {a c h w}

/-- When the metadata cannot be read, there is no record; trouble of the system is told as such. -/
theorem record_of_unreadable (hmeta : c.metadata = true) {f : Fault} {w' : World σ}
    (hf : Unreadable a h (a.passing h w) f w') :
    (a.record c h).exec w = (.error (metadataFault (a.store.path h) f), w') := by
  have hread : (a.metadata h).exec (a.passing h w) =
      (.error (metadataFault (a.store.path h) f), w') := by
    rw [metadata_exec]
    cases hf with
    | modified hmodified => simp only [hmodified]
    | created hmodified hcreated => simp only [hmodified, hcreated]
    | size hmodified hcreated hsize => simp only [hmodified, hcreated, hsize]
  simp only [record_exec, hmeta, if_true, hread]

theorem family_metadataFault {f : Fault} (hf : f.isSystem = true) (path : String) :
    metadataFault path f = .unreadable path f ∧ (metadataFault path f).family = .storage := by
  rw [metadataFault, if_pos hf]
  exact ⟨rfl, rfl⟩

end Adapter

namespace Lob

variable (l : Lob σ) (w : World σ)

/-- What taking the bytes does: they are read unless they were taken before, and are then marked. -/
theorem take_exec_cases : l.take.exec w =
    if w.redeemed.contains l.ticket then (.error .consumed, w)
    else match l.source.exec w with
      | (.error f, w) => (.error (openFault f), w)
      | (.ok data, w) => (.ok data, { w with redeemed := l.ticket :: w.redeemed }) := by
  simp only [take, isOpened, Op.bind_exec, Op.isRedeemed_exec]
  cases w.redeemed.contains l.ticket with
  | true => rfl
  | false =>
    simp only [Bool.false_eq_true, if_false, Op.bind_exec, Op.mapFault_exec, Op.redeem_exec,
      Op.pure_exec]
    rcases l.source.exec w with ⟨f | data, w⟩ <;> rfl

/-- The text that is decoded from what the bytes come from. -/
def decoding (charset : Charset) (supply : Supply) : Except FileDepot.Fault TextReader := do
  let codec ← charset.requireText.mapError .charset
  if supply.isClosed then .error (.value .closed) else pure (.decoded (.ofSupply codec supply))

/-- The contents that are opened from it. -/
def opening (l : Lob σ) (supply : Supply) : Except FileDepot.Fault Stream :=
  match l.charset with
  | none => .ok ⟨.bytes (.ofSupply supply), l.medium, false⟩
  | some charset => do pure ⟨.text (← decoding charset supply), l.medium, false⟩

/-- Taking the text takes the bytes and goes on without the world. -/
theorem takeText_exec_cases (charset : Charset) : (l.takeText charset).exec w =
    match l.take.exec w with
    | (.error f, w) => (.error f, w)
    | (.ok supply, w) => (decoding charset supply, w) := by
  simp only [takeText, decoding, Op.bind_exec, Op.ofExcept_exec]
  rcases l.take.exec w with ⟨f | supply, w⟩
  · rfl
  · simp only
    cases charset.requireText with
    | error e => rfl
    | ok codec =>
      simp only [Outcome.mapError_ok, Outcome.ok_bind]
      split <;> rfl

/-- So does opening contents, in whatever form. -/
theorem openStream_exec_cases : l.openStream.exec w =
    match l.take.exec w with
    | (.error f, w) => (.error f, w)
    | (.ok supply, w) => (l.opening supply, w) := by
  rw [openStream]
  unfold opening
  cases l.charset with
  | none =>
    simp only [Op.bind_exec, Op.pure_exec]
    rcases l.take.exec w with ⟨f | supply, w⟩ <;> rfl
  | some charset =>
    simp only [Op.bind_exec, Op.pure_exec, takeText_exec_cases]
    rcases l.take.exec w with ⟨f | supply, w⟩
    · rfl
    · simp only
      cases decoding charset supply <;> rfl

/-- In whatever form contents are opened, taking their bytes is all that happens to the world. -/
theorem openStream_world : (l.openStream.exec w).2 = (l.take.exec w).2 := by
  rw [openStream_exec_cases]
  rcases l.take.exec w with ⟨f | supply, w⟩ <;> rfl

/-- What contents whose bytes come whole are read from once they are opened: bytes as they are, or text that is
decoded if this can be done. -/
def source? (l : Lob σ) (data : Bytes) : Option StreamSource :=
  match l.charset with
  | none => some (.bytes (.bytes data))
  | some charset =>
    match charset.requireText with
    | .ok codec => some (.text (.decoded (.start codec data)))
    | .error _ => none

section

variable {l : Lob σ} {w w' : World σ} {data : Bytes}

/-- Opening contents gives what is read from the bytes that are taken. -/
theorem openStream_of_take (htake : l.take.exec w = (.ok (.whole data), w')) {source : StreamSource}
    (hsource : l.source? data = some source) :
    l.openStream.exec w = (.ok ⟨source, l.medium, false⟩, w') := by
  rw [openStream_exec_cases, htake]
  dsimp only
  rw [source?] at hsource
  rw [opening]
  cases hcharset : l.charset with
  | none =>
    rw [hcharset] at hsource
    obtain rfl := Option.some.inj hsource
    rfl
  | some charset =>
    simp only [hcharset] at hsource
    cases hcodec : charset.requireText with
    | error f =>
      rw [hcodec] at hsource
      cases hsource
    | ok codec =>
      rw [hcodec] at hsource
      obtain rfl := Option.some.inj hsource
      simp only [decoding, hcodec]
      rfl

/-- Contents in an encoding that they cannot be decoded from are not opened, though their bytes are taken. -/
theorem openStream_of_take_charset (htake : l.take.exec w = (.ok (.whole data), w'))
    (hsource : l.source? data = none) :
    ∃ charset e, l.charset = some charset ∧ charset.requireText = .error e ∧
      l.openStream.exec w = (.error (.charset e), w') := by
  rw [openStream_exec_cases, htake]
  dsimp only
  rw [source?] at hsource
  rw [opening]
  cases hcharset : l.charset with
  | none =>
    rw [hcharset] at hsource
    cases hsource
  | some charset =>
    simp only [hcharset] at hsource
    cases hcodec : charset.requireText with
    | ok codec =>
      rw [hcodec] at hsource
      cases hsource
    | error e =>
      refine ⟨charset, e, rfl, hcodec, ?_⟩
      simp only [decoding, hcodec]
      rfl

/-- When the bytes cannot be taken, contents cannot be opened. -/
theorem openStream_of_take_error {f : FileDepot.Fault} (htake : l.take.exec w = (.error f, w')) :
    l.openStream.exec w = (.error f, w') := by
  rw [openStream_exec_cases, htake]

end

end Lob

end FileDepot
