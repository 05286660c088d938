import FileDepot.Proofs.Cursor
import FileDepot.Proofs.Frame

/-!
# Notes

Notes are made and never read. Two worlds are *alike* when they differ in their notes at most, and an operation
is *heedless* when it ends alike in alike worlds and leaves alike worlds behind. The store in memory has
heedless operations only (`Memory.store_heedless`), and what an adapter does on such a store is heedless
as well, up to passing all files of a cursor (`Adapter.alike_drain`).
-/

namespace FileDepot

variable {σ η α β : Type}

/-! ## Worlds -/

namespace World

/-- Two worlds that differ in their notes at most. -/
structure Alike (w v : World σ) : Prop where
  /-- the stores are the same -/
  store : w.store = v.store
  /-- the same tickets are issued -/
  issued : w.issued = v.issued
  /-- the same tickets are redeemed -/
  redeemed : w.redeemed = v.redeemed

variable {w v : World σ}

theorem Alike.refl (w : World σ) : Alike w w := ⟨rfl, rfl, rfl⟩

theorem Alike.trans {u : World σ} (h : Alike w v) (h' : Alike v u) : Alike w u :=
  ⟨h.store.trans h'.store, h.issued.trans h'.issued, h.redeemed.trans h'.redeemed⟩

/-- Worlds stay alike whatever is noted in them. -/
theorem Alike.noted (h : Alike w v) (notes notes' : List Note) :
    Alike { w with notes := notes } { v with notes := notes' } := ⟨h.store, h.issued, h.redeemed⟩

end World

/-! ## Operations -/

namespace Op

/-- An operation ends alike in worlds that are alike, and leaves them alike. -/
def Heedless (op : Op σ α) : Prop :=
  ∀ w v : World σ, w.Alike v → (op.exec w).1 = (op.exec v).1 ∧ (op.exec w).2.Alike (op.exec v).2

/-- What a heedless operation comes to in two worlds that are alike. -/
theorem Heedless.exec {op : Op σ α} (hop : op.Heedless) {w v : World σ} (h : w.Alike v) :
    ∃ x w' v', op.exec w = (x, w') ∧ op.exec v = (x, v') ∧ w'.Alike v' := by
  obtain ⟨hsame, halike⟩ := hop w v h
  exact ⟨(op.exec v).1, (op.exec w).2, (op.exec v).2, Prod.ext hsame rfl, rfl, halike⟩

theorem heedless_ask (question : σ → Except Fault α) : (ask question).Heedless := fun w v h => by
  rw [ask_exec, ask_exec, h.store]
  exact ⟨rfl, h⟩

theorem heedless_onStore (step : σ → Except Fault α × σ) : (onStore step).Heedless := fun w v h => by
  rw [onStore_exec, onStore_exec, h.store]
  exact ⟨rfl, rfl, h.issued, h.redeemed⟩

theorem heedless_issueTicket : (issueTicket : Op σ Nat).Heedless := fun w v h => by
  rw [issueTicket_exec, issueTicket_exec, h.issued]
  exact ⟨rfl, h.store, rfl, h.redeemed⟩

/-- What is built of heedless operations is heedless. -/
theorem frame_heedless : Frame fun _ (op : Op σ _) => op.Heedless where
  pure _ _ _ h := ⟨rfl, h⟩
  fail _ _ _ h := ⟨rfl, h⟩
  note _ _ _ _ _ h := ⟨rfl, h.noted _ _⟩
  bind hop hf w v h := by
    obtain ⟨x, w', v', hw, hv, h⟩ := hop.exec h
    rw [bind_exec, bind_exec, hw, hv]
    cases x with
    | error f => exact ⟨rfl, h⟩
    | ok x => exact hf x w' v' h
  mapFault f hop w v h := by
    obtain ⟨x, w', v', hw, hv, h⟩ := hop.exec h
    rw [mapFault_exec, mapFault_exec, hw, hv]
    exact ⟨rfl, h⟩

end Op

/-- Taking the bytes of a large object is heedless when reading them is. -/
theorem Lob.heedless_take {l : Lob σ} (hsource : l.source.Heedless) : l.take.Heedless := by
  intro w v h
  obtain ⟨x, w', v', hw, hv, h'⟩ := hsource.exec h
  rw [take_exec_cases, take_exec_cases, hw, hv, h.redeemed]
  split
  · exact ⟨rfl, h⟩
  · cases x with
    | error f => exact ⟨rfl, h'⟩
    | ok data =>
      refine ⟨rfl, h'.store, h'.issued, ?_⟩
      simp only [h'.redeemed]

/-- A store does not heed notes: none of its operations does. -/
def Store.Heedless (s : Store σ η) : Prop := s.Has fun _ op => op.Heedless

theorem Memory.store_heedless : Memory.store.Heedless :=
  store_has Op.frame_heedless Op.heedless_ask Op.heedless_onStore

/-! ## Payloads and cursors -/

/-- Reading a payload does not heed notes, whatever the contents of a large object are read from. -/
def Payload.Heedless (payload : Payload σ) : Prop := ∀ l, payload = .lob l → l.source.Heedless

theorem Payload.Heedless.toReader {payload : Payload σ} (h : payload.Heedless)
    (charset : Encoding.Charset) : (payload.toReader charset).Heedless :=
  frame_toReader Op.frame_heedless (fun l hl => Lob.heedless_take (h l hl)) charset

namespace Adapter

/-- Passing all files of a cursor gives the same records in worlds that are alike, and leaves them alike. -/
theorem alike_drain {a : Adapter σ η} (ha : a.store.Heedless) (c : Cursor η) (w v : World σ)
    (h : w.Alike v) :
    (a.drain c w).1 = (a.drain c v).1 ∧ (a.drain c w).2.1 = (a.drain c v).2.1 ∧
      (a.drain c w).2.2.Alike (a.drain c v).2.2 := by
  have hrecord (c : Cursor η) (x : η) : (a.record c x).Heedless :=
    frame_record Op.frame_heedless ha Op.heedless_issueTicket c x
  induction c, w using drain_induction (a := a) generalizing v with
  | nil c w hnone =>
    rw [drain_nil hnone, drain_nil hnone]
    exact ⟨rfl, rfl, h⟩
  | error c w x rest f w' hleft hfail =>
    obtain ⟨r, w'', v', hw, hv, h'⟩ := (hrecord c x).exec h
    obtain ⟨rfl, rfl⟩ := Prod.mk.inj (hw.symm.trans hfail)
    rw [drain_error hleft hw, drain_error hleft hv]
    exact ⟨rfl, rfl, h'⟩
  | ok c w x rest r w' hleft hmade ih =>
    obtain ⟨r', w'', v', hw, hv, h'⟩ := (hrecord c x).exec h
    obtain ⟨rfl, rfl⟩ := Prod.mk.inj (hw.symm.trans hmade)
    obtain ⟨hrecords, hcursor, halike⟩ := ih v' h'
    rw [drain_ok hleft hw, drain_ok hleft hv, hrecords]
    exact ⟨rfl, hcursor, halike⟩

end Adapter

end FileDepot
