import FileDepot.Proofs.Disk.Leads
import FileDepot.Store.Local

/-!
# The place of a path

A path is accepted when its real location lies below the root. Where the names of the path lead anywhere,
that is the place they lead to (`realPlace_of_leads`). Otherwise links lead in a circle, and what is
accepted is what the names alone make of the rest: a location that lies below the root as it is written
(`realPlace_spec`), but may have links on the way.
-/

namespace FileDepot.Local

open Disk Location

variable {s : Local} {d : Disk} {path : String} {l k : Location}

/-- The root is real where it is a directory. -/
theorem isReal_root (htree : d.IsTree) (hroot : d.at? s.root = some .directory) :
    d.IsReal s.root := by
  refine ⟨htree.proper _ (by simp [hroot]), fun k hk target htarget => ?_⟩
  by_cases hne : k = s.root
  · simp [hne, hroot] at htarget
  · simp [htree.directory_of_prefix hk hne (by simp [hroot])] at htarget

theorem slashless_joined (hroot : IsProper s.root) (path : String) : Slashless (s.joined path) := by
  rw [joined]
  split
  · exact slashless_names _
  · exact hroot.slashless.append (slashless_names _)

theorem head?_ne_empty (h : IsProper l) : l.head? ≠ some "" := fun hhead =>
  (h "" (List.mem_of_mem_head? hhead)).ne_empty rfl

/-- A path whose names lead anywhere is accepted exactly when that is below the root. -/
theorem realPlace_of_leads (hroot : IsProper s.root) (h : Leads d [] (s.joined path) k) :
    s.realPlace d path = if s.root <+: k then .ok k else .error (.outside path) := by
  have hreal : d.real (s.joined path) = .found k := (real_iff (slashless_joined hroot path)).mpr h
  have hhead := head?_ne_empty (h.isReal (isReal_nil d)).proper
  simp [realPlace, Disk.resolve, hreal, hhead, List.isPrefixOf_iff_prefix]

/-- What is accepted is a proper location below the root. -/
theorem realPlace_spec (hroot : IsProper s.root) (h : s.realPlace d path = .ok l) :
    IsProper l ∧ s.root <+: l := by
  rw [realPlace] at h
  split at h
  · cases h
  · cases h
  · rename_i m hresolve
    split at h
    · rename_i hin
      obtain rfl := Except.ok.inj h
      simp only [Bool.and_eq_true, decide_eq_true_eq, List.isPrefixOf_iff_prefix] at hin
      exact ⟨proper_of_resolve (slashless_joined hroot path) hresolve hin.2, hin.1⟩
    · cases h

/-- Where a path leads anywhere, what is accepted is where it leads, and the entry that the accepted location
names is there. -/
theorem entry_of_leads (hroot : IsProper s.root) (hplace : s.realPlace d path = .ok l)
    (hne : l ≠ []) {dir k : Location} (hdir : Leads d [] l.parent dir)
    (hk : Leads d [] (s.joined path) k) : l = k ∧ dir ++ [l.name] = l := by
  have hl : l = k := by
    rw [realPlace_of_leads hroot hk] at hplace
    split at hplace
    · exact (Except.ok.inj hplace).symm
    · cases hplace
  subst hl
  have hreal := (hk.isReal (isReal_nil d)).parent
  rw [hdir.unique hreal.leads]
  exact ⟨rfl, parent_append_name hne⟩

end FileDepot.Local
