import FileDepot.Proofs.Local.Listing
import FileDepot.Proofs.Memory.Resolve

/-!
# Reading back what is listed

A listed file is opened by its path, which is brought to its normal form once more. In both stores this
comes back to the file exactly when the path has nothing left to be cleaned: no blank at its edges, and on
a disk no backslash. Otherwise it is another place that is looked at, and the contents of another file may
be read without a word.
-/

namespace FileDepot

open Text

/-- **A listed file is read back when its path is clean, and only then.** In memory this holds after any
acts. On a disk it holds where no link is below the root; listed files with different paths are then at
different places. -/
theorem listed_read_back (text : String) :
    (∀ (clock : Nat → Moment) (acts : List Memory.Act) (found : List (String × MemoryFile)),
      (Memory.run (Memory.empty clock) acts).resolve text = .ok found →
      ∀ k f, (k, f) ∈ found → (Memory.run (Memory.empty clock) acts).Listed k f) ∧
    (∀ (s : Local) (d : Disk) (found : List LocalFile), d.IsTree →
      d.at? s.root = some .directory → s.LinkFree d → s.resolve d text = .ok found →
      (∀ f ∈ found, s.Listed d f) ∧
        ∀ f ∈ found, ∀ g ∈ found, f.path ≠ g.path → f.place ≠ g.place) := by
  refine ⟨fun clock acts found h k f hf => Memory.listed_of_resolve h hf,
    fun s d found htree hroot hfree h => ⟨fun f hf => ?_, fun f hf g hg hpath => ?_⟩⟩
  · exact Local.listed_of_resolve htree hroot hfree h hf
  · exact Local.place_ne_of_path_ne htree (Local.isReal_root htree hroot).proper h hf hg hpath

/-- A disk with one file below the root. -/
def plainDisk : Disk := ⟨⟨[(["root"], .directory), (["root", "a"], .file [1] ⟨0⟩)], by decide⟩⟩

/-- A file is read back in memory and on a disk. -/
theorem listed_read_back_clean :
    (Memory.run (Memory.empty fun n => ⟨n⟩) [.write "a/b" (.bytes [1])]).contents "a/b" = .ok [1] ∧
    (⟨["root"], ⟨0⟩, "xxxxxxxx"⟩ : Local).contents plainDisk "a" = .ok [1] := by
  constructor
  · have hp : Memory.normalize "a" = .ok "a" := by decide +kernel
    have hmem := (Memory.mem_resolve_iff hp (Memory.resolve_eq hp)).mpr
      ⟨(by decide +kernel : "a/b" ∈ (Memory.run (Memory.empty fun n => ⟨n⟩)
          [.write "a/b" (.bytes [1])]).select (Path.splitPattern "a").1 (Path.splitPattern "a").2),
        (by decide +kernel : _ = some ⟨[1], ⟨0⟩, some ⟨0⟩⟩)⟩
    exact (((listed_read_back "a").1 _ _ _ (Memory.resolve_eq hp) _ _ hmem).back
      (by decide +kernel)).2
  · have hkeys : plainDisk.nodes.keys = [["root"], ["root", "a"]] := by decide
    have hfree : (⟨["root"], ⟨0⟩, "xxxxxxxx"⟩ : Local).LinkFree plainDisk := by
      intro l target _ hlink
      have hne : l ≠ [] := by
        rintro rfl
        simp at hlink
      have hnode : plainDisk.at? l ≠ none := by simp [hlink]
      have hmem := (Disk.at?_ne_none_iff hne).mp hnode
      rw [hkeys] at hmem
      simp only [List.mem_cons, List.not_mem_nil, or_false] at hmem
      rcases hmem with rfl | rfl
      · cases hlink
      · cases hlink
    have hlisted := ((listed_read_back "a").2 ⟨["root"], ⟨0⟩, "xxxxxxxx"⟩ plainDisk
      [⟨["root", "a"], "a"⟩] (by decide +kernel) (by decide +kernel) hfree
      (by decide +kernel)).1 _ (List.mem_singleton_self _)
    obtain ⟨data, modified, hnode, -, hread⟩ := hlisted.file
    have hdata : plainDisk.at? ["root", "a"] = some (.file [1] ⟨0⟩) := by decide
    obtain ⟨rfl, rfl⟩ := Node.file.inj (Option.some.inj (hdata.symm.trans hnode))
    exact hread (by decide +kernel)

/-- A file that is listed with a blank at the end of its path is not read back: opening it reads the
file whose path lacks the blank. -/
theorem listed_misread :
    let m := Memory.run (Memory.empty fun n => ⟨n⟩)
      [.write "a /." (.bytes [1]), .write "a" (.bytes [2])]
    ∃ found f, m.resolve "" = .ok found ∧ ("a ", f) ∈ found ∧ f.data = [1] ∧
      m.contents "a " = .ok [2] := by
  intro m
  have hp : Memory.normalize "" = .ok "" := by decide +kernel
  have hmem := (Memory.mem_resolve_iff hp (Memory.resolve_eq hp)).mpr
    ⟨(by decide +kernel : "a " ∈ m.select (Path.splitPattern "").1 (Path.splitPattern "").2),
      (by decide +kernel : _ = some ⟨[1], ⟨0⟩, some ⟨0⟩⟩)⟩
  exact ⟨_, _, Memory.resolve_eq hp, hmem, rfl, by decide +kernel⟩

end FileDepot
