import FileDepot.Adapter
import FileDepot.Proofs.Operation
import FileDepot.Proofs.Outcome
import FileDepot.Store.Local
import FileDepot.Store.Memory

/-!
# Tasks for an adapter

An adapter is asked to save bytes at a path, or to remove what is there (`Task`). How that ends and what
becomes of the store is told by what the store itself makes of it: `save_in_memory`, `delete_in_memory`,
`save_on_disk` and `delete_on_disk`. Notes play no part in it.
-/

namespace FileDepot

/-- How a computation ends: with the kind of trouble that it fails with, if it fails. -/
def verdict {α : Type} : Except Fault α → Option Family
  | .ok _ => none
  | .error f => some f.family

/-- Something that an adapter can be asked to do to a file. -/
inductive Task where
  /-- save bytes at a path -/
  | save (path : String) (data : Bytes)
  /-- remove what is at a path -/
  | delete (path : String)
  deriving DecidableEq, Repr

namespace Task

/-- The path of a task. -/
def path : Task → String
  | .save path _ | .delete path => path

/-- The bytes that a task saves. -/
def data? : Task → Option Bytes
  | .save _ data => some data
  | .delete _ => none

/-- The request for a task. -/
def request {σ : Type} : Task → Request σ
  | .save path data => ⟨.save, some path, some (.binary (.bytes data)), Column.allNames⟩
  | .delete path => ⟨.delete, some path, none, Column.allNames⟩

end Task

namespace Adapter

variable {σ η : Type} {path : String} {config : Config}

/-- Carry out a task: how it ends, and the world after it. -/
def perform (a : Adapter σ η) (t : Task) (w : World σ) : Option Family × World σ :=
  (verdict ((a.execute (some t.request)).exec w).1, ((a.execute (some t.request)).exec w).2)

/-- How a save ends, told by how the store writes. -/
def saved {α : Type} (path : String) (written : Except Fault α) : Option Family :=
  verdict (written.mapError (writeFault path))

/-- How a removal of nothing ends. -/
def absent (config : Config) : Option Family := if config.failOnMissing then some .notFound else none

/-- How a removal ends, told by how the store removes. -/
def removed {α : Type} (config : Config) (path : String) : Except Fault (Option α) → Option Family
  | .ok (some _) => none
  | .ok none => absent config
  | .error f => some (deleteFault path f).family

theorem requiredPath_eq_ok (hpath : Text.trim path.toList ≠ []) (kind : Kind)
    (content : Option (Payload σ)) (columns : List String) :
    requiredPath ⟨kind, some path, content, columns⟩ = .ok path := by
  simp [requiredPath, hpath]

variable (config) (hpath : Text.trim path.toList ≠ [])

include hpath

/-- **Memory.** Saving ends as writing to the store tells. -/
theorem save_in_memory (data : Bytes) (w : World Memory) :
    let done := perform ⟨Memory.store, config⟩ (.save path data) w
    let written := w.store.write path (.bytes data)
    done.1 = saved path written.1 ∧ done.2.store = written.2 := by
  simp only [perform, Task.request, execute, save, requiredPath_eq_ok hpath, Memory.store,
    Payload.toReader, ByteReader.enter_bytes, Op.bind_exec, Op.ofExcept_exec, Op.note_exec, Op.mapFault_exec, Op.pure_exec,
    Op.onStore_exec, saved]
  rcases w.store.write path (.bytes data) with ⟨_ | ⟨p, size⟩, after⟩ <;> exact ⟨rfl, rfl⟩

/-- **Memory.** Deleting ends as removing from the store tells. -/
theorem delete_in_memory (w : World Memory) :
    let done := perform ⟨Memory.store, config⟩ (.delete path) w
    let taken := w.store.remove path
    done.1 = removed config path taken.1 ∧ done.2.store = taken.2 := by
  simp only [perform, Task.request, execute, delete, requiredPath_eq_ok hpath, Memory.store,
    Op.bind_exec, Op.ofExcept_exec, Op.note_exec, Op.mapFault_exec, Op.onStore_exec]
  rcases w.store.remove path with ⟨_ | _ | found, after⟩
  · exact ⟨rfl, rfl⟩
  · simp only [removed, absent]
    cases config.failOnMissing <;> exact ⟨rfl, rfl⟩
  · exact ⟨rfl, rfl⟩

/-- **Disk.** Saving ends as writing to the store tells. -/
theorem save_on_disk (s : Local) (data : Bytes) (w : World Disk) :
    let done := perform ⟨s.store, config⟩ (.save path data) w
    let written := s.write w.store path (.bytes data)
    done.1 = saved path written.1 ∧ done.2.store = written.2 := by
  simp only [perform, Task.request, execute, save, requiredPath_eq_ok hpath, Local.store,
    Payload.toReader, ByteReader.enter_bytes, Op.bind_exec, Op.ofExcept_exec, Op.note_exec, Op.mapFault_exec, Op.pure_exec,
    Op.onStore_exec, saved]
  rcases s.write w.store path (.bytes data) with ⟨_ | l, after⟩ <;> exact ⟨rfl, rfl⟩

/-- **Disk.** Deleting ends as removing from the store tells. -/
theorem delete_on_disk (s : Local) (w : World Disk) :
    let done := perform ⟨s.store, config⟩ (.delete path) w
    let taken := s.remove w.store path
    done.1 = removed config path taken.1 ∧ done.2.store = taken.2 := by
  simp only [perform, Task.request, execute, delete, requiredPath_eq_ok hpath, Local.store,
    Op.bind_exec, Op.ofExcept_exec, Op.note_exec, Op.mapFault_exec, Op.onStore_exec]
  rcases s.remove w.store path with ⟨_ | _ | found, after⟩
  · exact ⟨rfl, rfl⟩
  · simp only [removed, absent]
    cases config.failOnMissing <;> exact ⟨rfl, rfl⟩
  · exact ⟨rfl, rfl⟩

end Adapter

end FileDepot
