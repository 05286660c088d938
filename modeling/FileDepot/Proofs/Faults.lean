import FileDepot.Proofs.Local.FailedSave
import FileDepot.Proofs.Local.Names
import FileDepot.Proofs.Local.Sandbox
import FileDepot.Proofs.Memory.Acts
import FileDepot.Proofs.Told

/-!
# What requests fail with

Requests fail with the adapter's own faults, and with those of what they work on that nobody tells. Which these
are, is the same for every request, whatever it saves:

* **payload** — a save leaves a fault of its payload, be it that the payload cannot be taken or that its bytes
  cannot be read, unless that is told (`Adapter.Spoilt`): so for a stream that is closed. In memory there is
  nothing else;
* **place** — on disk a request also leaves the fault of a path that has no place (`Volume.Strands`): for a NUL
  character, links that lead in a circle, or a name that cannot be encoded; the last of these a save tells;
* **tame** — texts and bytes at hand, and streams that fail with nothing but what a save tells, spoil no save.
-/

namespace FileDepot

open Encoding Outcome
open Fault (IsTold IsToldBySave)

namespace Fault.IsPlaceless

variable {f : Fault}

theorem not_isTold (h : f.IsPlaceless) : ¬f.IsTold := by
  cases h <;> rintro (hown | hsystem) <;> contradiction

end Fault.IsPlaceless

/-! ## Payloads -/

namespace Adapter

variable {σ η : Type} {a : Adapter σ η} {r : Request σ} {w : World σ} {f : Fault}

/-- A save fails with a fault of its payload that it does not tell. `drained` is what reading all bytes of a
payload comes to in the store. -/
inductive Spoilt (a : Adapter σ η) (drained : ByteReader → Except Fault Bytes) (r : Request σ) (w : World σ)
    (f : Fault) : Prop where
  /-- the payload cannot be taken -/
  | taking {path : String} {w' : World σ} (takes : a.Takes r path w (.error f, w'))
    (untold : ¬f.IsToldBySave)
  /-- its bytes cannot be read, and the store fails with just that -/
  | reading {path : String} {content : ByteReader} {w' : World σ}
    (takes : a.Takes r path w (.ok content, w')) (drains : drained content = .error f)
    (fails : ((a.store.write path content).exec w').1 = .error f) (untold : ¬f.IsToldBySave)

theorem Spoilt.leaves {drained : ByteReader → Except Fault Bytes} (h : a.Spoilt drained r w f) :
    a.Leaves r w f := by
  rcases h with ⟨takes, untold⟩ | ⟨takes, -, fails, untold⟩
  · exact .taking takes untold
  · exact .writing takes fails untold

/-- **Tame.** A tame payload does not spoil a save. -/
theorem not_spoilt_of_isTame (hcodec : a.config.codec ∈ Codec.pointwise)
    (htame : ∀ payload, r.content = some payload → payload.IsTame) :
    ¬a.Spoilt ByteReader.drain r w f ∧ ¬a.Spoilt ByteReader.drainBlocks r w f := by
  have hspoilt {drained : ByteReader → Except Fault Bytes}
      (hdrained : ∀ content : ByteReader, content.FailsWith IsToldBySave →
        FailsOnly IsToldBySave (drained content)) : ¬a.Spoilt drained r w f := by
    rintro (⟨takes, untold⟩ | ⟨takes, drains, -, untold⟩)
    · obtain ⟨payload, hcontent, htaken⟩ := takes.taken
      have hfails := (Payload.toReader_ends (htame payload hcontent) hcodec).fails
      exact untold (hfails _ f (congrArg Prod.fst htaken))
    · obtain ⟨payload, hcontent, htaken⟩ := takes.taken
      have htext := (Payload.toReader_ends (htame payload hcontent) hcodec).gives htaken
      exact untold (hdrained _ htext f drains)
  exact ⟨hspoilt fun _ htext => ByteReader.drain_fails coversCoding_told htext,
    hspoilt fun _ htext => ByteReader.drainBlocks_fails coversCoding_told htext⟩

end Adapter

/-! ## In memory -/

namespace Memory

/-- The fault of a write in memory is that of the store. -/
theorem write_of_exec {path : String} {content : ByteReader} {w : World Memory} {f : Fault}
    (h : ((store.write path content).exec w).1 = .error f) :
    (w.store.write path content).1 = .error f :=
  (Op.onStore_error (fun _ _ => ⟨(), rfl⟩) h :)

/-- The fault of a removal in memory is that of the store. -/
theorem remove_of_exec {path : String} {w : World Memory} {f : Fault}
    (h : ((store.remove path).exec w).1 = .error f) : (w.store.remove path).1 = .error f := by
  refine (Op.onStore_error (fun found w => ?_) h :)
  cases found <;> exact ⟨_, rfl⟩

/-- In memory, a write fails with a fault that a save does not tell only where its payload cannot be read. -/
theorem drain_of_write {m : Memory} {path : String} {content : ByteReader} {f : Fault}
    (h : (m.write path content).1 = .error f) (hf : ¬f.IsToldBySave) : content.drain = .error f := by
  rcases write_eq_error h with hnormal | hdrain | ⟨e, rfl⟩
  · rw [normalize_eq_error hnormal] at hf
    exact (hf (.inl (.inl rfl))).elim
  · exact hdrain
  · exact (hf (.inl (.inr rfl))).elim

/-- In memory, a removal fails with what is told. -/
theorem remove_fails (m : Memory) (path : String) : FailsOnly IsTold (m.remove path).1 := by
  intro f h
  rcases remove_eq_error h with hnormal | ⟨e, rfl⟩
  · rw [normalize_eq_error hnormal]
    exact .inl rfl
  · exact .inr rfl

end Memory

/-- **Memory.** In memory, a request leaves nothing but a fault of its payload. -/
theorem Memory.leaves_iff {config : Config} {r : Request Memory} {w : World Memory} {f : Fault} :
    (⟨store, config⟩ : Adapter Memory (String × MemoryFile)).Leaves r w f ↔
      (⟨store, config⟩ : Adapter Memory (String × MemoryFile)).Spoilt ByteReader.drain r w f := by
  refine ⟨?_, Adapter.Spoilt.leaves⟩
  rintro (⟨-, -, fails, untold⟩ | ⟨takes, untold⟩ | ⟨takes, fails, untold⟩ | ⟨-, -, fails, untold⟩)
  · simp only [store, Op.ask_exec] at fails
    rw [resolve_eq_error fails] at untold
    exact (untold (.inl rfl)).elim
  · exact .taking takes untold
  · exact .reading takes (drain_of_write (write_of_exec fails) untold) fails untold
  · exact (untold (remove_fails _ _ _ (remove_of_exec fails))).elim

/-! ## On disk -/

namespace Local

variable {s : Local} {d : Disk} {path : String} {content : ByteReader}

/-- The fault of a write on disk is that of the store. -/
theorem write_of_exec {w : World Disk} {f : Fault}
    (h : ((s.store.write path content).exec w).1 = .error f) :
    (s.write w.store path content).1 = .error f :=
  (Op.onStore_error (fun _ _ => ⟨(), rfl⟩) h :)

/-- The fault of a removal on disk is that of the store. -/
theorem remove_of_exec {w : World Disk} {f : Fault} (h : ((s.store.remove path).exec w).1 = .error f) :
    (s.remove w.store path).1 = .error f := by
  refine (Op.onStore_error (fun found w => ?_) h :)
  cases found <;> exact ⟨_, rfl⟩

theorem filesAmong_fails (places : List Location) : FailsOnly IsTold (s.filesAmong d places) := by
  refine failsOnly_filterMapM (fun l => ?_) _
  split
  · exact failsOnly_ok _
  · exact failsOnly_ok _
  · exact failsOnly_error (.inr rfl)

/-- A pattern whose base is accepted is resolved, or that fails with what is told. -/
theorem resolve_fails {pattern : String} {l : Location}
    (h : s.realPlace d (Path.splitPattern (Path.normalize pattern)).1 = .ok l) :
    FailsOnly IsTold (s.resolve d pattern) := by
  have hasked (asked : Except Disk.Fault Bool) : FailsOnly IsTold (asked.mapError .disk) := by
    cases asked with
    | ok answer => exact failsOnly_ok _
    | error e => exact failsOnly_error (.inr rfl)
  have hbase : FailsOnly IsTold (s.realPlace d (Path.splitPattern (Path.normalize pattern)).1) := by
    rw [h]
    exact failsOnly_ok _
  rw [resolve]
  refine hbase.bind fun place => ?_
  split
  · refine (hasked _).bind fun file => ?_
    split
    · exact failsOnly_ok _
    · refine (hasked _).bind fun directory => ?_
      split
      · exact filesAmong_fails _
      · exact failsOnly_ok _
  · refine (hasked _).bind fun directory => ?_
    split
    · exact filesAmong_fails _
    · exact failsOnly_ok _

theorem settle_fails (l : Location) (e : Disk.Fault) :
    FailsOnly (fun f => f.isSystem = true) (makeDirectories.settle d l e).1 := by
  rw [makeDirectories.settle]
  split
  · exact failsOnly_ok _
  · exact failsOnly_error rfl
  · exact failsOnly_error rfl

theorem makeDirectories_fails (fuel : Nat) (l : Location) :
    FailsOnly (fun f => f.isSystem = true) (makeDirectories d fuel l).1 := by
  induction fuel generalizing d l with
  | zero => exact failsOnly_ok _
  | succ fuel ih =>
    rw [makeDirectories]
    split
    · exact failsOnly_ok _
    · split
      · exact failsOnly_error rfl
      · have hparent := ih (d := d) l.parent
        split
        · rename_i f e hmake
          rw [hmake] at hparent
          exact failsOnly_error (hparent f rfl)
        · split
          · exact failsOnly_ok _
          · exact settle_fails _ _
    · exact settle_fails _ _

theorem replace_fails (s : Local) (d : Disk) (content : ByteReader) (l : Location) :
    FailsOnly (fun f => f.isSystem = true ∨ content.drainBlocks = .error f) (s.replace d l content).1 := by
  rw [replace]
  split
  · exact failsOnly_error (.inl rfl)
  · dsimp only
    split
    · rename_i f hf
      exact failsOnly_error (.inr hf)
    · exact failsOnly_ok _

/-- **Write.** A write fails because its path is not accepted, with trouble of the system, or where its payload
cannot be read. -/
theorem write_eq_error {f : Fault} (h : (s.write d path content).1 = .error f) :
    s.realPlace d path = .error f ∨ f.isSystem = true ∨ content.drainBlocks = .error f := by
  rw [write] at h
  cases hplace : s.realPlace d path with
  | error f' =>
    rw [hplace] at h
    exact .inl (congrArg Except.error (Except.error.inj h))
  | ok l =>
    rw [hplace] at h
    dsimp only at h
    refine .inr ?_
    split at h
    · exact .inl (Except.error.inj h ▸ rfl)
    · exact .inl (Except.error.inj h ▸ rfl)
    · have hmake := makeDirectories_fails (d := d) (l.length + 1) l.parent
      split at h
      · rename_i f' e hmade
        rw [hmade] at hmake
        exact .inl (Except.error.inj h ▸ hmake f' rfl)
      · rename_i e hmade
        have hreplace := replace_fails s e content l
        split at h
        · rename_i f' e' hreplaced
          rw [hreplaced] at hreplace
          exact Except.error.inj h ▸ hreplace f' rfl
        · cases h

/-- What is at a path that is accepted is removed, or that fails with what is told. -/
theorem remove_fails {l : Location} (h : s.realPlace d path = .ok l) :
    FailsOnly IsTold (s.remove d path).1 := by
  rw [remove, h]
  dsimp only
  split
  · exact failsOnly_error (.inl rfl)
  · split
    · exact failsOnly_error (.inr rfl)
    · exact failsOnly_ok _
    · split
      · exact failsOnly_error (.inr rfl)
      · exact failsOnly_ok _

end Local

namespace Volume

variable {v : Volume} {config : Config} {r : Request Disk} {w : World Disk} {f : Fault}

/-- The path that a listing has its store look for: the base of its pattern. -/
def base (pattern : String) : String := (Path.splitPattern (Path.normalize pattern)).1

/-- A request fails for the path that it is for, which has no place when it comes to it. -/
inductive Strands (v : Volume) (config : Config) (r : Request Disk) (w : World Disk) (f : Fault) : Prop where
  /-- a listing below a path without a place -/
  | listing {pattern : String} (kind : r.kind.isListing = true) (target : r.path = some pattern)
    (place : v.place w.store (base pattern) = .error f) (placeless : f.IsPlaceless)
  /-- a save at such a path, once its payload is taken, unless it is for a name that cannot be encoded -/
  | save {path : String} {content : ByteReader} {w' : World Disk}
    (takes : (⟨v.store, config⟩ : Adapter Disk LocalFile).Takes r path w (.ok content, w'))
    (place : v.place w'.store path = .error f) (placeless : f.IsPlaceless)
    (untold : f.family.isUnicode = false)
  /-- a removal at such a path -/
  | removal {path : String} (kind : r.kind = .delete) (target : Adapter.requiredPath r = .ok path)
    (place : v.place w.store path = .error f) (placeless : f.IsPlaceless)

/-- What comes after a look at a path fails with a fault exactly if the path has no place for this reason, or has
one and then it fails. -/
theorem look_bind_fails {α : Type} {path : String} {op : Op Disk α} {w : World Disk} :
    ((v.look path >>= fun _ => op).exec w).1 = .error f ↔
      v.place w.store path = .error f ∨
        (∃ l, v.place w.store path = .ok l) ∧ (op.exec w).1 = .error f := by
  rw [Op.bind_exec, look, Op.ask_exec]
  cases v.place w.store path with
  | error g => simp
  | ok l => simp

/-- A path is not accepted with a fault that nothing tells exactly if it has no place. -/
theorem placeless_of_place {path : String} {d : Disk} (h : v.place d path = .error f)
    (hf : ¬f.IsTold) : f.IsPlaceless := by
  rcases place_eq_error h with rfl | hplaceless
  · exact (hf (.inl rfl)).elim
  · exact hplaceless

/-- **Disk.** On disk, a request leaves a fault of its payload, or that of a path without a place. -/
theorem leaves_iff :
    (⟨v.store, config⟩ : Adapter Disk LocalFile).Leaves r w f ↔
      v.Strands config r w f ∨
        (⟨v.store, config⟩ : Adapter Disk LocalFile).Spoilt ByteReader.drainBlocks r w f := by
  constructor
  · rintro (@⟨pattern, kind, target, fails, untold⟩ | ⟨takes, untold⟩ |
      @⟨path, content, w', takes, fails, untold⟩ | @⟨path, kind, target, fails, untold⟩)
    · rcases look_bind_fails.mp fails with hplace | ⟨⟨l, hplace⟩, hresolve⟩
      · exact .inl (.listing kind target hplace (placeless_of_place hplace untold))
      · exact (untold (Local.resolve_fails (realPlace_of_place hplace) f hresolve)).elim
    · exact .inr (.taking takes untold)
    · rcases look_bind_fails.mp fails with hplace | ⟨⟨l, hplace⟩, hwritten⟩
      · have hplaceless := placeless_of_place hplace fun htold => untold (.inl htold)
        refine .inl (.save takes hplace hplaceless (Bool.eq_false_iff.mpr fun hunicode => ?_))
        exact untold (.inr hunicode)
      · rcases Local.write_eq_error (Local.write_of_exec hwritten) with hreal | hsystem | hdrain
        · cases (realPlace_of_place hplace).symm.trans hreal
        · exact (untold (.inl (.inr hsystem))).elim
        · exact .inr (.reading takes hdrain fails untold)
    · rcases look_bind_fails.mp fails with hplace | ⟨⟨l, hplace⟩, hremoved⟩
      · exact .inl (.removal kind target hplace (placeless_of_place hplace untold))
      · have hremove := Local.remove_of_exec hremoved
        exact (untold (Local.remove_fails (realPlace_of_place hplace) f hremove)).elim
  · rintro ((⟨kind, target, place, placeless⟩ | ⟨takes, place, placeless, untold⟩ |
      ⟨kind, target, place, placeless⟩) | hspoilt)
    · exact .listing kind target (look_bind_fails.mpr (.inl place)) placeless.not_isTold
    · refine .writing takes (look_bind_fails.mpr (.inl place)) ?_
      rintro (htold | hunicode)
      · exact placeless.not_isTold htold
      · exact Bool.false_ne_true (untold.symm.trans hunicode)
    · exact .removal kind target (look_bind_fails.mpr (.inl place)) placeless.not_isTold
    · exact hspoilt.leaves

end Volume

/-! ## Both -/

/-- The usual way to work. -/
def plainConfig : Config := ⟨.utf8, true⟩

/-- A volume with a link that leads to itself, where names are in ASCII. -/
def circleVolume : Volume := ⟨Local.circleStore, .ascii⟩

/-- The outcome of a request on a disk with a link that leads to itself. -/
def onCircle (r : Request Disk) : Except Fault (Cursor LocalFile) :=
  (((⟨circleVolume.store, plainConfig⟩ : Adapter Disk LocalFile).execute (some r)).exec
    (.fresh Local.circleDisk)).1

/-- The outcome of a request in an empty memory. -/
def onEmpty (r : Request Memory) : Except Fault (Cursor (String × MemoryFile)) :=
  (((⟨Memory.store, plainConfig⟩ : Adapter Memory (String × MemoryFile)).execute (some r)).exec
    (.fresh (.empty fun _ => ⟨0⟩))).1

/-- The fault of a name in the root that ASCII does not have. -/
def beyondAscii : Fault := .coding (.encode "ascii" (.char 'é') 7 8 "ordinal not in range(128)")

end FileDepot
