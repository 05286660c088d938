import FileDepot.Proofs.Memory.Keys
import FileDepot.Proofs.Memory.Mount

/-!
# Paths never lead out of a store in memory

The paths of files come from three sides: what is written, where archives are mounted, and how their
entries are named. All three go through `normalize`, so two things hold of every store that acts led to.

* **kept** — `stored_canonical`: the segments of a path with a file count, and none leads upwards;
* **refused** — a path with a step upwards is refused wherever it comes in, and the store is then what it
  was when the path was looked at. For an entry of an archive that is the store with the entries in front
  of it (`mount_upward_entry`).
-/

namespace FileDepot.Memory

open FileDepot.Path

/-- A path with a step upwards has no normal form. -/
theorem normalize_of_mem {path : String} (h : ".." ∈ segments (Path.normalize path)) :
    normalize path = .error (.upward path) := by
  rw [normalize, if_pos (by simpa using h)]

/-! ## Refused paths -/

section Refused

variable {path : String} (m : Memory)

theorem resolve_upward (h : ".." ∈ segments (Path.normalize path)) :
    m.resolve path = .error (.upward path) := by
  rw [resolve, normalize_of_mem h, Outcome.error_bind]

theorem write_upward (h : ".." ∈ segments (Path.normalize path)) (content : ByteReader) :
    m.write path content = (.error (.upward path), m) := by
  rw [write, normalize_of_mem h]

theorem remove_upward (h : ".." ∈ segments (Path.normalize path)) :
    m.remove path = (.error (.upward path), m) := by
  rw [remove, normalize_of_mem h]

theorem mount_upward (h : ".." ∈ segments (Path.normalize path)) (data : Bytes) :
    m.mount data path = (.error (.upward path), m) := by
  rw [mount, normalize_of_mem h]

end Refused

/-! ## Refused entries -/

section Entries

variable {place p : String} {data : Bytes} {e : Archive.Entry} {before after : List Archive.Entry}
  {m k : Memory} {n : Nat}

/-- Entries that can all be put are put before the rest. -/
theorem mountEntries_append (h : mountEntries p data 0 m before = (.ok n, k)) :
    mountEntries p data 0 m (before ++ after) = mountEntries p data n k after := by
  generalize 0 = count at h ⊢
  induction before generalizing m count with
  | nil =>
    obtain ⟨hn, rfl⟩ := Prod.mk.inj h
    rw [List.nil_append, Except.ok.inj hn]
  | cons b rest ih =>
    cases hb : entryFault? p data b with
    | some f =>
      rw [mountEntries_cons_fault hb] at h
      cases h
    | none =>
      rw [mountEntries_cons hb] at h
      rw [List.cons_append, mountEntries_cons hb, ih _ h]

/-- An entry whose path has a step upwards fails, whatever its contents. -/
theorem entryFault?_of_upward (hname : e.name.isEmpty = false) (hdir : e.isDirectory = false)
    (h : ".." ∈ segments (Path.normalize (append p e.name))) :
    entryFault? p data e = some (.upward (append p e.name)) := by
  have hentry : mountedEntry p data e = .error (.upward (append p e.name)) := by
    unfold mountedEntry
    rw [normalize_of_mem h, Outcome.error_bind]
  simp only [entryFault?, hname, hdir, hentry, Bool.false_eq_true, if_false]

/-- A mount fails at an entry whose path has a step upwards, and what was put by then stays. -/
theorem mount_upward_entry (hplace : normalize place = .ok p)
    (hentries : archiveEntries data = .ok (before ++ e :: after))
    (hbefore : mountEntries p data 0 m before = (.ok n, k)) (hname : e.name.isEmpty = false)
    (hdir : e.isDirectory = false) (h : ".." ∈ segments (Path.normalize (append p e.name))) :
    m.mount data place = (.error (.upward (append p e.name)), k) := by
  rw [mount_eq_error_iff hplace hentries, mountEntries_append hbefore]
  exact mountEntries_cons_fault (entryFault?_of_upward hname hdir h) k n

end Entries

/-! ## Kept paths -/

/-- **Stored paths.** After any acts, whether they fail or not, a path with a file is joined from
segments that are neither empty nor a mark for the directory itself or the one above, and hold no
separator of either kind. -/
theorem stored_canonical {clock : Nat → Moment} {acts : List Act} {p : String}
    (h : (run (empty clock) acts).files.contains p = true) :
    ∃ segs, join segs = p ∧
      ∀ n ∈ segs, n ≠ "" ∧ n ≠ "." ∧ n ≠ ".." ∧ '/' ∉ n.toList ∧ '\\' ∉ n.toList := by
  obtain ⟨segs, hsegs, hup, hp⟩ := normal_of_run h
  refine ⟨segs, hp, fun n hn => ?_⟩
  obtain ⟨hempty, hdot, hslash, hback⟩ := hsegs n hn
  exact ⟨hempty, hdot, fun hn' => hup (hn' ▸ hn), hslash, hback⟩

/-- **Stored paths are canonical and never escape.** After any run of writes, removals and mounts, also
of mounts that fail on the way, every path with a file is joined from segments that are neither empty nor
`.` nor `..` and hold no separator. A path whose normal form has a step upwards is refused as one that
leads out of the root, by every operation and on every store, and the store is left as it was. An entry
of an archive whose path has such a step is refused in the same way, and leaves the store as the entries
in front of it made it. -/
theorem paths_canonical_and_confined :
    (∀ (clock : Nat → Moment) (acts : List Act) (p : String),
      (run (empty clock) acts).files.contains p = true → ∃ segs, join segs = p ∧
        ∀ n ∈ segs, n ≠ "" ∧ n ≠ "." ∧ n ≠ ".." ∧ '/' ∉ n.toList ∧ '\\' ∉ n.toList) ∧
    (∀ path : String, (Fault.upward path).family = .accessDenied) ∧
    (∀ (m : Memory) (path : String), ".." ∈ segments (Path.normalize path) →
      m.resolve path = .error (.upward path) ∧
      (∀ content, m.write path content = (.error (.upward path), m)) ∧
      m.remove path = (.error (.upward path), m) ∧
      ∀ data, m.mount data path = (.error (.upward path), m)) ∧
    ∀ (m k : Memory) (data : Bytes) (place p : String) (before after : List Archive.Entry)
      (e : Archive.Entry) (n : Nat), normalize place = .ok p →
      archiveEntries data = .ok (before ++ e :: after) →
      mountEntries p data 0 m before = (.ok n, k) →
      e.name.isEmpty = false → e.isDirectory = false →
      ".." ∈ segments (Path.normalize (append p e.name)) →
      m.mount data place = (.error (.upward (append p e.name)), k) :=
  ⟨fun _ _ _ => stored_canonical, fun _ => rfl,
    fun m _ h => ⟨resolve_upward m h, write_upward m h, remove_upward m h, mount_upward m h⟩,
    fun _ _ _ _ _ _ _ _ _ => mount_upward_entry⟩

/-- A path with a backslash is kept with plain separators, one with a step upwards is refused, and so is an
archive with such a name. -/
theorem paths_canonical_and_confined_run :
    let m := run (empty fun n => ⟨n⟩) [.write "a\\./b" (.bytes [1]), .write "a/../c" (.bytes [2])]
    let data := archiveOfEmptyFiles [".."]
    (m.files.contains "a/b" = true ∧ ∃ segs, join segs = "a/b" ∧
      ∀ n ∈ segs, n ≠ "" ∧ n ≠ "." ∧ n ≠ ".." ∧ '/' ∉ n.toList ∧ '\\' ∉ n.toList) ∧
    m.remove "a/../b" = (.error (.upward "a/../b"), m) ∧
    m.mount data "d" = (.error (.upward "d/.."), m) := by
  intro m data
  obtain ⟨hstored, -, hrefused, hentry⟩ := paths_canonical_and_confined
  have hfile : m.files.contains "a/b" = true := by decide +kernel
  have hentries : archiveEntries data = .ok ([] ++ emptyFileEntry ".." 0 32 :: []) := by
    decide +kernel
  exact ⟨⟨hfile, hstored _ _ _ hfile⟩, (hrefused m "a/../b" (by decide +kernel)).2.2.1,
    hentry m m data "d" "d" [] [] (emptyFileEntry ".." 0 32) 0 (by decide +kernel) hentries rfl
      (by decide +kernel) (by decide +kernel) (by decide +kernel)⟩

end FileDepot.Memory
