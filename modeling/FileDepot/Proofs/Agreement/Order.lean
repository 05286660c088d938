import FileDepot.Proofs.Local.Order
import FileDepot.Proofs.Memory.Resolve

/-!
# The order in which both stores list

The store in memory lists paths in the order of texts, the store on disk in the order of names. Both orders
are strict, and they are the same order exactly where no two of the paths are crossed, as in one
directory (`resolve_order`). Two files in different directories are enough to tell them apart
(`resolve_order_differs`).
-/

namespace FileDepot

open FileDepot.Path

/-- **Order of listings.** What the store in memory lists is in strictly increasing order of its paths as
texts, for every pattern. What the store on disk lists is in strictly increasing order of the names of its
paths, with links or without, and for a pattern that does not reach below one directory it is in the order
of texts, too. For any pattern it is so exactly when no two listed paths are crossed; and where both stores
list the same paths, they list them in the same order exactly then. -/
theorem resolve_order (text : String) :
    (∀ (m : Memory) (found : List (String × MemoryFile)),
      m.resolve text = .ok found → (found.map Prod.fst).Pairwise (· < ·)) ∧
    ∀ (s : Local) (d : Disk) (listed : List LocalFile), d.IsTree →
      Location.IsProper s.root → s.resolve d text = .ok listed →
      (listed.map fun f => parts f.path).Pairwise (· < ·) ∧
      (Local.isDeep (splitPattern (normalize text)).2 = false →
        (listed.map (·.path)).Pairwise (· < ·)) ∧
      ((listed.map (·.path)).Pairwise (· < ·) ↔
        ∀ f ∈ listed, ∀ g ∈ listed, ¬ Crossed (parts f.path) (parts g.path)) ∧
      ∀ (m : Memory) (found : List (String × MemoryFile)), m.resolve text = .ok found →
        (∀ p, p ∈ found.map Prod.fst ↔ p ∈ listed.map (·.path)) →
        (found.map Prod.fst = listed.map (·.path) ↔
          ∀ f ∈ listed, ∀ g ∈ listed, ¬ Crossed (parts f.path) (parts g.path)) := by
  refine ⟨fun m found => Memory.increasing_resolve, fun s d listed htree hroot h => ?_⟩
  have hiff := Local.paths_increasing_iff htree hroot h
  refine ⟨Local.resolve_increasing htree hroot h, Local.paths_increasing_of_shallow htree hroot h,
    hiff, fun m found hfound hmem => ?_⟩
  have hmemory := Memory.increasing_resolve hfound
  rw [← hiff]
  constructor
  · intro heq
    rwa [← heq]
  · intro hlocal
    exact eq_of_increasing hmemory hlocal hmem

/-! ## Two files -/

/-- A disk with a file in a directory below the root and a file beside that directory. -/
def twoFileDisk (directory inside beside : String)
    (h : ([["root"], ["root", directory], ["root", directory, inside], ["root", beside]] :
      List Location).Nodup) : Disk :=
  ⟨⟨[(["root"], .directory), (["root", directory], .directory),
    (["root", directory, inside], .file [1] ⟨0⟩), (["root", beside], .file [2] ⟨0⟩)], h⟩⟩

/-- A file in a directory and one behind it are listed in the same order. -/
theorem resolve_order_alike :
    let d := twoFileDisk "a" "x" "b" (by decide)
    let m := Memory.run (Memory.empty fun n => ⟨n⟩) [.write "b" (.bytes [2]), .write "a/x" (.bytes [1])]
    d.IsTree ∧ ∃ found listed, m.resolve "**" = .ok found ∧ Local.rootStore.resolve d "**" = .ok listed ∧
      listed.map (·.path) = ["a/x", "b"] ∧ found.map Prod.fst = listed.map (·.path) ∧
      (listed.map (·.path)).Pairwise (· < ·) := by
  intro d m
  have htree : d.IsTree := by decide +kernel
  have hlisted : Local.rootStore.resolve d "**" =
      .ok [⟨["root", "a", "x"], "a/x"⟩, ⟨["root", "b"], "b"⟩] :=
    Local.resolve_of_sorted (by decide +kernel) (by decide) (by decide +kernel) (by decide +kernel) rfl
      (by decide +kernel) (by decide +kernel)
  have hnormal : Memory.normalize "**" = .ok "**" := by decide +kernel
  have hfound := Memory.resolve_of_sorted (m := m) ["a/x", "b"] hnormal (by decide +kernel)
    (by decide +kernel)
  obtain ⟨-, hlocal⟩ := resolve_order "**"
  have hroot : Location.IsProper Local.rootStore.root := htree.proper _ (by decide +kernel)
  obtain ⟨-, -, hiff, hsame⟩ := hlocal Local.rootStore d _ htree hroot hlisted
  have hincreasing : ["a/x", "b"].Pairwise (· < ·) := by decide +kernel
  refine ⟨htree, _, _, hfound, hlisted, rfl, ?_, hincreasing⟩
  refine (hsame m _ hfound fun p => ?_).mpr (hiff.mp hincreasing)
  rw [show (List.filterMap (fun k => (m.files.get? k).map fun f => (k, f)) ["a/x", "b"]).map Prod.fst =
    ["a/x", "b"] by decide +kernel]
  rfl

/-- A file in a directory and one whose name continues that of the directory by a character in front of
`/` are listed in different orders. -/
theorem resolve_order_differs :
    let d := twoFileDisk "a" "x" "a-b" (by decide)
    let m := Memory.run (Memory.empty fun n => ⟨n⟩) [.write "a/x" (.bytes [1]), .write "a-b" (.bytes [2])]
    d.IsTree ∧ Location.IsProper Local.rootStore.root ∧
      Local.rootStore.resolve d "**" = .ok [⟨["root", "a", "x"], "a/x"⟩, ⟨["root", "a-b"], "a-b"⟩] ∧
      ¬ ["a/x", "a-b"].Pairwise (· < ·) ∧
      ∃ found, m.resolve "**" = .ok found ∧ found.map Prod.fst = ["a-b", "a/x"] := by
  intro d m
  have htree : d.IsTree := by decide +kernel
  have hlisted : Local.rootStore.resolve d "**" =
      .ok [⟨["root", "a", "x"], "a/x"⟩, ⟨["root", "a-b"], "a-b"⟩] :=
    Local.resolve_of_sorted (by decide +kernel) (by decide) (by decide +kernel) (by decide +kernel) rfl
      (by decide +kernel) (by decide +kernel)
  exact ⟨htree, htree.proper _ (by decide +kernel), hlisted, by decide +kernel, _,
    Memory.resolve_of_sorted (p := "**") ["a-b", "a/x"] (by decide +kernel) (by decide +kernel)
      (by decide +kernel), by decide +kernel⟩

end FileDepot
