import FileDepot.Proofs.Outcome
import FileDepot.Store.Memory
import Mathlib.Data.List.Basic

/-!
# Acts on a store in memory

A store in memory is driven by three acts: writing, removing and mounting an archive. `run` carries out
a list of them, whether they fail or not. What each act can do is said once, by `write_cases`,
`remove_cases` and `mount_cases`; invariants of whole runs follow from these and `run_induction`.
-/

namespace FileDepot.Memory

/-- An act on a store in memory. -/
inductive Act where
  /-- store contents at a path -/
  | write (path : String) (content : ByteReader)
  /-- remove the file at a path -/
  | remove (path : String)
  /-- mount an archive at a place -/
  | mount (data : Bytes) (place : String)

/-- The store after an act, whether the act fails or not. -/
def Act.run (m : Memory) : Act → Memory
  | .write path content => (m.write path content).2
  | .remove path => (m.remove path).2
  | .mount data place => (m.mount data place).2

/-- The store after some acts. -/
def run (m : Memory) (acts : List Act) : Memory := acts.foldl Act.run m

@[simp] theorem run_nil (m : Memory) : run m [] = m := rfl

@[simp] theorem run_cons (m : Memory) (a : Act) (acts : List Act) :
    run m (a :: acts) = run (a.run m) acts := rfl

/-- What holds at first and is kept by every act of a run holds after the run. -/
theorem run_induction {P : Memory → Prop} {acts : List Act}
    (hstep : ∀ m a, a ∈ acts → P m → P (a.run m)) :
    ∀ {m : Memory}, P m → P (run m acts) := by
  induction acts with
  | nil => exact fun h => h
  | cons a rest ih =>
    intro m h
    exact ih (fun m b hb => hstep m b (List.mem_cons_of_mem _ hb))
      (hstep m a (List.mem_cons_self ..) h)

/-! ## What acts fail with -/

section Faults

variable {m : Memory} {path : String} {content : ByteReader} {f : Fault}

/-- A path has no normal form when it leads upwards. -/
theorem normalize_eq_error (h : normalize path = .error f) : f = .upward path := by
  rw [normalize] at h
  split at h
  · exact (Except.error.inj h).symm
  · cases h

theorem resolve_eq_error (h : m.resolve path = .error f) : f = .upward path := by
  rw [resolve] at h
  cases hp : normalize path with
  | error f' =>
    rw [hp, Outcome.error_bind] at h
    rw [← Except.error.inj h]
    exact normalize_eq_error hp
  | ok p =>
    rw [hp] at h
    cases h

/-- A write fails because its path has no normal form, where its payload cannot be read, or with a fault of the
store itself. -/
theorem write_eq_error (h : (m.write path content).1 = .error f) :
    normalize path = .error f ∨ content.drain = .error f ∨ ∃ e, f = .memory e := by
  rw [write] at h
  cases hp : normalize path with
  | error f' =>
    rw [hp] at h
    exact .inl (congrArg Except.error (Except.error.inj h))
  | ok p =>
    rw [hp] at h
    cases hdata : content.drain with
    | error f' =>
      rw [hdata] at h
      exact .inr (.inl (congrArg Except.error (Except.error.inj h)))
    | ok data =>
      rw [hdata] at h
      dsimp only at h
      split at h
      · exact .inr (.inr ⟨_, (Except.error.inj h).symm⟩)
      · split at h
        · exact .inr (.inr ⟨_, (Except.error.inj h).symm⟩)
        · cases h

/-- A removal fails because its path has no normal form, or with a fault of the store itself. -/
theorem remove_eq_error (h : (m.remove path).1 = .error f) :
    normalize path = .error f ∨ ∃ e, f = .memory e := by
  rw [remove] at h
  cases hp : normalize path with
  | error f' =>
    rw [hp] at h
    exact .inl (congrArg Except.error (Except.error.inj h))
  | ok p =>
    rw [hp] at h
    dsimp only at h
    split at h
    · cases h
    · split at h
      · exact .inr ⟨_, (Except.error.inj h).symm⟩
      · cases h

end Faults

/-! ## Writing -/

/-- What a write does: it fails before the clock is read, it fails after that, or it puts its contents
at its path at the moment that the clock shows. -/
theorem write_cases (m : Memory) (path : String) (content : ByteReader) :
    (∃ f, m.write path content = (.error f, m) ∧
      (normalize path = .error f ∨ ∃ p, normalize path = .ok p ∧ content.drain = .error f)) ∨
    (∃ p data f, normalize path = .ok p ∧ content.drain = .ok data ∧
      m.write path content = (.error f, m.tick)) ∨
    (∃ p data, normalize path = .ok p ∧ content.drain = .ok data ∧ m.isDirectory p = false ∧
      (ancestors p).any m.files.contains = false ∧
      m.write path content = (.ok (p, data.length), (m.put p data (m.clock m.ticks)).tick)) := by
  cases hp : normalize path with
  | error f => exact .inl ⟨f, by simp [write, hp], .inl rfl⟩
  | ok p =>
    cases hd : content.drain with
    | error f => exact .inl ⟨f, by simp [write, hp, hd], .inr ⟨p, rfl, rfl⟩⟩
    | ok data =>
      cases hdir : m.isDirectory p with
      | true =>
        refine .inr (.inl ⟨p, data, .memory (.overDirectory path), rfl, rfl, ?_⟩)
        simp only [write, hp, hd, hdir, if_true]
      | false =>
        cases hanc : (ancestors p).any m.files.contains with
        | true =>
          refine .inr (.inl ⟨p, data, .memory (.belowFile path), rfl, rfl, ?_⟩)
          simp only [write, hp, hd, hdir, hanc, if_true, Bool.false_eq_true, if_false]
        | false =>
          refine .inr (.inr ⟨p, data, rfl, rfl, hdir, hanc, ?_⟩)
          simp only [write, hp, hd, hdir, hanc, Bool.false_eq_true, if_false]

/-- A file that is put is found with its contents, and every other file as before. -/
theorem get?_put (m : Memory) (p : String) (data : Bytes) (now : Moment) (q : String) :
    ((m.put p data now).tick.files.get? q).map (·.data) =
      if q = p then some data else (m.files.get? q).map (·.data) := by
  simp only [tick, put, Catalog.get?_insert]
  split <;> rfl

theorem exists_get?_put (m : Memory) (p : String) (data : Bytes) (now : Moment) :
    ∃ f, (m.put p data now).tick.files.get? p = some f ∧ f.data = data := by
  have hput := get?_put m p data now p
  rw [if_pos rfl] at hput
  exact Option.map_eq_some_iff.mp hput

/-! ## Removing -/

/-- What a removal does: nothing, or it takes the file at its path away. -/
theorem remove_cases (m : Memory) (path : String) :
    (∃ f, m.remove path = (.error f, m)) ∨ m.remove path = (.ok none, m) ∨
    (∃ p, normalize path = .ok p ∧ m.files.contains p = true ∧
      m.remove path = (.ok (some p), { m with files := m.files.erase p })) := by
  cases hp : normalize path with
  | error f => exact .inl ⟨f, by simp [remove, hp]⟩
  | ok p =>
    cases hin : m.files.contains p with
    | true => exact .inr (.inr ⟨p, rfl, hin, by simp [remove, hp, hin]⟩)
    | false =>
      cases hdir : m.isDirectory p with
      | true => exact .inl ⟨.memory (.removeDirectory path), by simp [remove, hp, hin, hdir]⟩
      | false => exact .inr (.inl (by simp [remove, hp, hin, hdir]))

/-! ## Mounting -/

/-- An entry of an archive goes to the normal form of its name behind the place, with its contents and
its time. It is not known when it was made. -/
theorem mountedEntry_eq_ok {place p : String} {data : Bytes} {e : Archive.Entry}
    {file : MemoryFile} (h : mountedEntry place data e = .ok (p, file)) :
    normalize (Path.append place e.name) = .ok p ∧ e.contents data = .ok file.data ∧
      e.modified = .ok file.modified ∧ file.created = none := by
  unfold mountedEntry at h
  obtain ⟨path, hpath, h⟩ := Outcome.bind_eq_ok h
  obtain ⟨contents, hcontents, h⟩ := Outcome.bind_eq_ok h
  obtain ⟨modified, hmodified, h⟩ := Outcome.bind_eq_ok h
  obtain ⟨rfl, rfl⟩ := Prod.mk.inj (Except.ok.inj h)
  exact ⟨hpath, Outcome.mapError_eq_ok.mp hcontents, Outcome.mapError_eq_ok.mp hmodified, rfl⟩

/-- What mounting does: nothing, or it puts entries up to the first that fails. -/
theorem mount_cases (m : Memory) (data : Bytes) (place : String) :
    ((m.mount data place).2 = m ∧
      ((∃ f, normalize place = .error f) ∨ ∃ f, archiveEntries data = .error f)) ∨
    (∃ p entries, normalize place = .ok p ∧ archiveEntries data = .ok entries ∧
      (m.mount data place).2 = (mountEntries p data 0 m entries).2) := by
  cases hp : normalize place with
  | error f => exact .inl ⟨by simp [mount, hp], .inl ⟨f, rfl⟩⟩
  | ok p =>
    cases hlist : archiveEntries data with
    | error f => exact .inl ⟨by simp [mount, hp, hlist], .inr ⟨f, rfl⟩⟩
    | ok entries =>
      refine .inr ⟨p, entries, rfl, rfl, ?_⟩
      rcases hm : mountEntries p data 0 m entries with ⟨_ | count, m'⟩ <;>
        simp [mount, hp, hlist, hm]

/-- What is kept by putting each entry of an archive is kept by mounting, also when an entry fails. -/
theorem mountEntries_induction {P : Memory → Prop} {place : String} {data : Bytes}
    {entries : List Archive.Entry}
    (hstep : ∀ m e p file, e ∈ entries → mountedEntry place data e = .ok (p, file) → P m →
      P { m with files := m.files.insert p file }) :
    ∀ {m : Memory} (count : Nat), P m → P (mountEntries place data count m entries).2 := by
  induction entries with
  | nil => exact fun _ h => h
  | cons e rest ih =>
    intro m count h
    have ih' := @ih fun m b p file hb => hstep m b p file (List.mem_cons_of_mem _ hb)
    rw [mountEntries]
    by_cases hname : e.name.isEmpty
    · rw [if_pos hname]
      exact h
    by_cases hdir : e.isDirectory
    · rw [if_neg hname, if_pos hdir]
      exact ih' count h
    rw [if_neg hname, if_neg hdir]
    cases hfile : mountedEntry place data e with
    | error f => exact h
    | ok found => exact ih' _ (hstep m e _ _ (List.mem_cons_self ..) hfile h)

end FileDepot.Memory
