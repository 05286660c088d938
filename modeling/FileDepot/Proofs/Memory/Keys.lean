import FileDepot.Proofs.Memory.Acts
import FileDepot.Proofs.Path.Segments

/-!
# The paths of a store in memory

Every file is kept by a normal path (`IsNormal`), whatever acts led to it (`normal_of_run`). Normal paths
are told apart by their segments, and a tidy one is its own normal form (`normalize_of_normal`). One with
a blank at an edge is not: its normal form is another path (`normalize_ne_of_not_tidy`).
-/

namespace FileDepot.Memory

open FileDepot.Text FileDepot.Path

/-- Whether a path is the normal form of some path: its segments count, and none leads upwards. -/
def IsNormal (p : String) : Prop :=
  ∃ segs, (∀ n ∈ segs, IsSegment n) ∧ ".." ∉ segs ∧ join segs = p

variable {path p : String} {segs : List String}

theorem normalize_eq_ok (h : normalize path = .ok p) :
    ".." ∉ segments (Path.normalize path) ∧ p = join (segments (Path.normalize path)) := by
  rw [normalize] at h
  split at h
  · cases h
  · rename_i hup
    exact ⟨by simpa using hup, (Except.ok.inj h).symm⟩

theorem isNormal_of_normalize (h : normalize path = .ok p) : IsNormal p := by
  obtain ⟨hup, rfl⟩ := normalize_eq_ok h
  exact ⟨_, fun n hn => isSegment_of_mem_segments hn, hup, rfl⟩

/-- A path that does not lead upwards has a normal form. -/
theorem normalize_of_not_mem (h : ".." ∉ segments (Path.normalize path)) :
    normalize path = .ok (join (segments (Path.normalize path))) := by
  rw [normalize, if_neg (by simpa using h)]

/-- A tidy normal path is its own normal form. -/
theorem normalize_of_normal (h : IsNormal p) (ht : Tidy p) : normalize p = .ok p := by
  obtain ⟨segs, hsegs, hup, rfl⟩ := h
  have hclean : segments (Path.normalize (join segs)) = segs := by
    rw [normalize_join hsegs ht, segments_join hsegs ht]
  rw [normalize_of_not_mem (by rwa [hclean]), hclean]

/-- The normal form of a path is no longer than the path without the blanks at its edges. -/
theorem length_of_normalize {q : String} (h : normalize p = .ok q) :
    q.toList.length ≤ (trim p.toList).length := by
  obtain ⟨-, rfl⟩ := normalize_eq_ok h
  calc (join (segments (Path.normalize p))).toList.length
      ≤ (trim (Path.normalize p).toList).length := length_join_segments_le _
    _ ≤ (Path.normalize p).toList.length := length_trim_le _
    _ ≤ (trim p.toList).length := length_normalize_le p

/-- A path with a blank at an edge is not its own normal form. -/
theorem normalize_ne_of_not_tidy (h : ¬ Tidy p) : normalize p ≠ .ok p := fun hp =>
  h (trimBy_eq_self_of_length (length_of_normalize hp))

/-- The segments of a normal path are those it is joined from. -/
theorem parts_of_normal (h : IsNormal p) (hne : p ≠ "") :
    (∀ n ∈ parts p, IsSegment n) ∧ ".." ∉ parts p := by
  obtain ⟨segs, hsegs, hup, rfl⟩ := h
  have hsegs' : segs ≠ [] := by
    rintro rfl
    exact hne rfl
  rw [parts_join_of_segments hsegs' hsegs]
  exact ⟨hsegs, hup⟩

/-! ## Runs -/

theorem contains_insert {files : Catalog String MemoryFile} {q : String} {f : MemoryFile} :
    (files.insert q f).contains p = true ↔ p = q ∨ files.contains p = true := by
  rw [Catalog.contains, Catalog.get?_insert, Catalog.contains]
  by_cases h : p = q <;> simp [h]

theorem contains_of_erase {files : Catalog String MemoryFile} {q : String}
    (h : (files.erase q).contains p = true) : files.contains p = true := by
  rw [Catalog.contains, Catalog.get?_erase] at h
  by_cases hq : p = q
  · simp [hq] at h
  · rwa [if_neg hq] at h

/-- Whether an act mounts an archive. -/
def Act.isMount : Act → Bool
  | .mount _ _ => true
  | _ => false

/-- **Step.** A path with a file after an act had one before, or it is a normal path. A write puts
nothing at the root, which is a directory. -/
theorem stored_act {m : Memory} {a : Act} (h : (a.run m).files.contains p = true) :
    m.files.contains p = true ∨ (IsNormal p ∧ (a.isMount = false → p ≠ "")) := by
  cases a with
  | write path content =>
    rcases write_cases m path content with ⟨f, hw, -⟩ | ⟨q, data, f, -, -, hw⟩ |
      ⟨q, data, hq, -, hdir, -, hw⟩
    · exact .inl (by simpa only [Act.run, hw] using h)
    · exact .inl (by simpa only [Act.run, hw, tick] using h)
    · simp only [Act.run, hw] at h
      rcases contains_insert.mp h with rfl | h
      · refine .inr ⟨isNormal_of_normalize hq, fun _ => ?_⟩
        rintro rfl
        simp [isDirectory] at hdir
      · exact .inl h
  | remove path =>
    rcases remove_cases m path with ⟨f, hr⟩ | hr | ⟨q, -, -, hr⟩
    · exact .inl (by simpa only [Act.run, hr] using h)
    · exact .inl (by simpa only [Act.run, hr] using h)
    · simp only [Act.run, hr] at h
      exact .inl (contains_of_erase h)
  | mount data place =>
    rcases mount_cases m data place with ⟨hm, -⟩ | ⟨q, entries, -, -, hm⟩
    · exact .inl (by simpa only [Act.run, hm] using h)
    · rw [Act.run, hm] at h
      refine mountEntries_induction (P := fun k => k.files.contains p = true →
        m.files.contains p = true ∨ (IsNormal p ∧ ((Act.mount data place).isMount = false → p ≠ "")))
        (fun k e r file _ hfile hk hr => ?_) 0 .inl h
      rcases contains_insert.mp hr with rfl | hr
      · refine .inr ⟨isNormal_of_normalize (mountedEntry_eq_ok hfile).1, fun hmount => ?_⟩
        cases hmount
      · exact hk hr

variable {clock : Nat → Moment} {acts : List Act}

/-- **Run.** Whatever acts led to a store, its files are kept by normal paths. -/
theorem normal_of_run (h : (run (empty clock) acts).files.contains p = true) : IsNormal p :=
  run_induction (P := fun m => m.files.contains p = true → IsNormal p)
    (fun _ _ _ hm ha => (stored_act ha).elim hm And.left) (m := empty clock)
    (by simp [empty, Catalog.contains]) h

/-- Without mounting, no file is kept by the path of the root. -/
theorem ne_root_of_run (hacts : ∀ a ∈ acts, a.isMount = false)
    (h : (run (empty clock) acts).files.contains p = true) : p ≠ "" :=
  run_induction (P := fun m => m.files.contains p = true → p ≠ "")
    (fun _ a ha hm hp => (stored_act hp).elim hm fun hq => hq.2 (hacts a ha)) (m := empty clock)
    (by simp [empty, Catalog.contains]) h

end FileDepot.Memory
