import FileDepot.Proofs.Faults
import FileDepot.Proofs.Memory.Canonical

/-!
# Faults of a save

A save tells trouble of the system, of an encoding and with contents that cannot be read as a fault of
writing, raised for what the trouble was (`IsReworded`). Any other fault comes out as it is.

* **stores** — where a write fails with an own fault or with trouble of the system, the path leads out of the
  root, the system has the trouble, or the payload has the fault (`Memory.told_of_write`,
  `Volume.told_of_write`);
* **told** — what comes out of a save whose write fails, over any store, in memory and on disk
  (`failed_write_told`);
* **refused** — the refusal of a path that leads out of the root is no fault of writing
  (`refused_write_told`).
-/

namespace FileDepot

open Outcome FileDepot.Path
open Fault (IsTold)

/-! ## What stores fail with -/

/-- How a write comes to fail with an own fault or with trouble of the system. `outward` tells that the path leads
out of the root, and `refusal` what the store refuses it with; `drained` is what reading the payload comes to. -/
inductive WriteTrouble (outward : Prop) (refusal : Fault) (drained : Except Fault Bytes) (f : Fault) : Prop where
  /-- the path leads out of the root -/
  | refused (hout : outward) (hf : f = refusal)
  /-- the system has trouble -/
  | system (hin : ¬outward) (hf : f.isSystem = true)
  /-- reading the payload comes to this -/
  | payload (hin : ¬outward) (hf : drained = .error f)

/-- In memory, a path with a step upwards leads out of the root. -/
theorem Memory.told_of_write {m : Memory} {path : String} {content : ByteReader} {f : Fault}
    (h : (m.write path content).1 = .error f) :
    WriteTrouble (".." ∈ segments (Path.normalize path)) (.upward path) content.drain f := by
  by_cases hup : ".." ∈ segments (Path.normalize path)
  · rw [write_upward m hup] at h
    exact .refused hup (Except.error.inj h).symm
  · rcases write_eq_error h with hnormal | hdrain | ⟨e, rfl⟩
    · cases hnormal.symm.trans (normalize_of_not_mem hup)
    · exact .payload hup hdrain
    · exact .system hup rfl

/-- On disk, a path leads out of the root when its real location is not below that. -/
theorem Volume.told_of_write {v : Volume} {w : World Disk} {path : String} {content : ByteReader} {f : Fault}
    (h : ((v.store.write path content).exec w).1 = .error f) (hf : f.IsTold) :
    WriteTrouble (v.place w.store path = .error (.outside path)) (.outside path) content.drainBlocks f := by
  rcases look_bind_fails.mp h with hplace | ⟨⟨l, hplace⟩, hwritten⟩
  · rcases place_eq_error hplace with rfl | hplaceless
    · exact .refused hplace rfl
    · exact absurd hf hplaceless.not_isTold
  · have hin : v.place w.store path ≠ .error (.outside path) := by
      rw [hplace]
      exact nofun
    rcases Local.write_eq_error (Local.write_of_exec hwritten) with hreal | hsystem | hdrain
    · cases (realPlace_of_place hplace).symm.trans hreal
    · exact .system hin hsystem
    · exact .payload hin hdrain

/-! ## What comes out -/

/-- Whether a save tells a fault as one of writing. -/
def Fault.IsReworded (f : Fault) : Prop :=
  f.isSystem = true ∨ f.family.isUnicode = true ∨ f.family = .storage

instance (f : Fault) : Decidable f.IsReworded := inferInstanceAs (Decidable (_ ∨ _ ∨ _))

/-- A refusal is not told as a fault of writing. -/
theorem Fault.not_isReworded_of_denied {f : Fault} (h : f.family = .accessDenied) : ¬f.IsReworded := by
  rw [IsReworded, isSystem, h]
  decide

namespace Adapter

variable {σ η : Type} {a : Adapter σ η} {r : Request σ} {path : String} {content : ByteReader}
  {w w₁ w' : World σ} {f : Fault}

theorem writeFault_eq (path : String) (f : Fault) :
    writeFault path f = if f.IsReworded then .unwritten path f else f := by
  simp only [writeFault, Fault.IsReworded, Bool.or_eq_true, decide_eq_true_eq, or_assoc]
  rfl

theorem writeFault_of_isReworded (h : f.IsReworded) (path : String) :
    writeFault path f = .unwritten path f := by
  rw [writeFault_eq, if_pos h]

theorem writeFault_of_not_isReworded (h : ¬f.IsReworded) (path : String) : writeFault path f = f := by
  rw [writeFault_eq, if_neg h]

/-- A save that makes sense, whose payload is taken, and whose write then fails. -/
structure WriteFails (a : Adapter σ η) (r : Request σ) (path : String) (w : World σ)
    (content : ByteReader) (w₁ w' : World σ) (f : Fault) : Prop where
  /-- the payload is taken before the store is asked to write -/
  takes : a.Takes r path w (.ok content, w₁)
  /-- the store fails to write it -/
  fails : (a.store.write path content).exec w₁ = (.error f, w')

/-- The fault that a save meets comes out, perhaps told as one of writing. -/
theorem execute_save_of_error {payload : Payload σ} (hkind : r.kind = .save)
    (hpath : requiredPath r = .ok path) (hcontent : r.content = some payload)
    (h : (payload.toReader a.config.charset >>= a.store.write path).exec
      { w with notes := ⟨.debug, .operations, "Saving " ++ path⟩ :: w.notes } = (.error f, w')) :
    (a.execute (some r)).exec w = (.error (writeFault path f), w') := by
  rw [Op.bind_exec] at h
  rw [a.execute_save hkind hpath hcontent]
  rcases hread : (payload.toReader a.config.charset).exec
    { w with notes := ⟨.debug, .operations, "Saving " ++ path⟩ :: w.notes } with ⟨fault | content, v⟩
  · rw [hread] at h
    obtain ⟨hfault, rfl⟩ := Prod.mk.inj h
    rw [Except.error.inj hfault]
  · rw [hread] at h
    dsimp only at h ⊢
    rw [h]

theorem WriteFails.exec (h : a.WriteFails r path w content w₁ w' f) :
    (a.execute (some r)).exec w = (.error (writeFault path f), w') := by
  obtain ⟨payload, hcontent, hread⟩ := h.takes.taken
  refine execute_save_of_error h.takes.kind h.takes.target hcontent ?_
  rw [Op.bind_exec]
  rw [World.noted] at hread
  rw [hread]
  exact h.fails

/-- What comes out of a save whose write fails with an own fault or with trouble of the system. -/
inductive Comes (outward : Prop) (refusal : Fault) (drained : Except Fault Bytes) (path : String) (f : Fault)
    (outcome : Fault) : Prop where
  /-- the path leads out of the root: the refusal of the store -/
  | refused (hout : outward) (hf : f = refusal) (heq : outcome = refusal)
  /-- trouble of the system, or with contents that cannot be read: a fault of writing, raised for it -/
  | told (hin : ¬outward) (hf : f.IsReworded) (heq : outcome = .unwritten path f)
  /-- any other own fault that reading the payload comes to: just that -/
  | payload (hin : ¬outward) (hdrained : drained = .error f) (hown : f.isOwn = true) (hf : ¬f.IsReworded)
    (heq : outcome = f)

/-- What comes out follows from how the write came to fail. -/
theorem comes_of_trouble {outward : Prop} {refusal : Fault} {drained : Except Fault Bytes}
    (hrefusal : ¬refusal.IsReworded) (h : WriteTrouble outward refusal drained f) (hf : f.IsTold) :
    Comes outward refusal drained path f (writeFault path f) := by
  rcases h with ⟨hout, rfl⟩ | ⟨hin, hsystem⟩ | ⟨hin, hdrained⟩
  · exact .refused hout rfl (writeFault_of_not_isReworded hrefusal path)
  · exact .told hin (.inl hsystem) (writeFault_of_isReworded (.inl hsystem) path)
  · by_cases hword : f.IsReworded
    · exact .told hin hword (writeFault_of_isReworded hword path)
    · have hown : f.isOwn = true := hf.resolve_right fun hsystem => hword (.inl hsystem)
      exact .payload hin hdrained hown hword (writeFault_of_not_isReworded hword path)

end Adapter

/-- Where the store fails to write bytes or an open stream, the write of that request fails. -/
theorem Adapter.writeFails_binary {σ η : Type} (a : Adapter σ η) (path : String) {content : ByteReader}
    (hopen : content.enter = .ok content) (w : World σ) (f : Fault)
    (hpath : requiredPath (⟨.save, some path, some (.binary content), []⟩ : Request σ) = .ok path)
    (h : ((a.store.write path content).exec (w.noted ("Saving " ++ path))).1 = .error f) :
    ∃ w', a.WriteFails ⟨.save, some path, some (.binary content), []⟩ path w content
      (w.noted ("Saving " ++ path)) w' f := by
  refine ⟨_, ⟨rfl, hpath, _, rfl, ?_⟩, Prod.ext h rfl⟩
  rw [Payload.toReader, Op.ofExcept_exec, hopen]

/-- A stream that says that it was opened before. -/
def consumedStream : ByteReader := .failing [] .consumed

end FileDepot
