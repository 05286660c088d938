import FileDepot.Disk.Walk
import FileDepot.Proofs.Disk.Names
import Mathlib.Data.List.Induction

/-!
# Trees

The nodes of a disk form a tree when each is held by a directory and its names can stand there
(`IsTree`). What holds a node is then a directory all the way up (`IsTree.directory_of_prefix`), and
nothing is below a place where nothing is. Taking away what nothing is below keeps the tree
(`IsTree.unset`).
-/

namespace FileDepot.Disk

open Location

variable {d : Disk} {l k : Location}

@[simp] theorem at?_nil (d : Disk) : d.at? [] = some .directory := by simp [at?]

theorem at?_set (hl : l ≠ []) (n : Node) (k : Location) :
    (d.set l n).at? k = if k = l then some n else d.at? k := by
  by_cases hk : k = []
  · subst hk
    simp [Ne.symm hl]
  · simp only [at?, if_neg hk, set, Catalog.get?_insert]

theorem at?_unset (hl : l ≠ []) (k : Location) :
    (d.unset l).at? k = if k = l then none else d.at? k := by
  by_cases hk : k = []
  · subst hk
    simp [Ne.symm hl]
  · simp only [at?, if_neg hk, unset, Catalog.get?_erase]

/-- What is on a disk forms a tree. -/
structure IsTree (d : Disk) : Prop where
  /-- every name can stand in a directory -/
  proper : ∀ l, d.at? l ≠ none → IsProper l
  /-- whatever there is stands in a directory -/
  held : ∀ l name, d.at? (l ++ [name]) ≠ none → d.at? l = some .directory

theorem IsTree.isName (h : d.IsTree) {name : String} (hnode : d.at? (l ++ [name]) ≠ none) :
    IsName name :=
  h.proper _ hnode name (by simp)

/-- Whether a disk is a tree is told by what is found at its locations. -/
theorem IsTree.congr {e : Disk} (h : d.IsTree) (hsame : ∀ k, e.at? k = d.at? k) : e.IsTree := by
  refine ⟨fun l hl => h.proper l ?_, fun l name hl => ?_⟩
  · rwa [← hsame]
  · rw [hsame] at hl ⊢
    exact h.held l name hl

/-- Everything above a node is a directory. -/
theorem IsTree.directory_of_prefix (h : d.IsTree) (hk : k <+: l) (hne : k ≠ l)
    (hnode : d.at? l ≠ none) : d.at? k = some .directory := by
  obtain ⟨rest, rfl⟩ := hk
  induction rest using List.reverseRecOn with
  | nil => simp at hne
  | append_singleton rest name ih =>
    rw [← List.append_assoc] at hnode
    have hheld := h.held _ _ hnode
    by_cases hrest : rest = []
    · simpa [hrest] using hheld
    · exact ih (by simpa using hrest) (by simp [hheld])

/-- Nothing is below a place where nothing is. -/
theorem IsTree.none_of_prefix (h : d.IsTree) (hk : k <+: l) (hnone : d.at? k = none) :
    d.at? l = none := by
  by_contra hnode
  by_cases hne : k = l
  · exact hnode (hne ▸ hnone)
  · simp [h.directory_of_prefix hk hne hnode] at hnone

/-- A node other than the top is one of those that a disk lists. -/
theorem at?_ne_none_iff (hl : l ≠ []) : d.at? l ≠ none ↔ l ∈ d.nodes.keys := by
  rw [at?, if_neg hl, Catalog.mem_keys, Catalog.contains, Option.isSome_iff_ne_none]

/-- Whether the nodes of a disk form a tree is told by the nodes that it lists. -/
theorem isTree_iff : d.IsTree ↔ ∀ l ∈ d.nodes.keys, l ≠ [] →
    (∀ n ∈ l, IsName n) ∧ d.at? l.parent = some .directory := by
  constructor
  · intro h l hl hne
    have hnode := (at?_ne_none_iff hne).mpr hl
    refine ⟨h.proper l hnode, h.held l.parent l.name ?_⟩
    rwa [parent_append_name hne]
  · intro h
    refine ⟨fun l hnode => ?_, fun l name hnode => ?_⟩
    · by_cases hl : l = []
      · exact hl ▸ isProper_nil
      · exact (h l ((at?_ne_none_iff hl).mp hnode) hl).1
    · have hne : l ++ [name] ≠ [] := by simp
      simpa using (h _ ((at?_ne_none_iff hne).mp hnode) hne).2

instance (d : Disk) : Decidable d.IsTree := decidable_of_iff' _ isTree_iff

/-! ## What is in a directory -/

theorem mem_children_iff : k ∈ d.children l ↔ d.at? k ≠ none ∧ ∃ n, k = l ++ [n] := by
  have hconcat : (k ≠ [] ∧ k.dropLast = l) ↔ ∃ n, k = l ++ [n] := by
    constructor
    · rintro ⟨hne, rfl⟩
      exact ⟨_, (List.dropLast_append_getLast hne).symm⟩
    · rintro ⟨n, rfl⟩
      simp
  simp only [children, List.mem_filter, ne_eq, Bool.and_eq_true, decide_eq_true_eq]
  rw [← ne_eq, hconcat]
  refine and_congr_left fun ⟨n, hn⟩ => (at?_ne_none_iff ?_).symm
  simp [hn]

/-- Nothing is below an empty directory. -/
theorem at?_concat_eq_none (hempty : d.children l = []) (name : String) :
    d.at? (l ++ [name]) = none := by
  by_contra hnode
  have hchild := mem_children_iff.mpr ⟨hnode, name, rfl⟩
  rw [hempty] at hchild
  cases hchild

/-- Nothing is below what is no directory. -/
theorem IsTree.concat_eq_none (h : d.IsTree) (hl : d.at? l ≠ some .directory) (name : String) :
    d.at? (l ++ [name]) = none := by
  by_contra hnode
  exact hl (h.held l name hnode)

/-- Taking away what nothing is below keeps the tree. -/
theorem IsTree.unset (h : d.IsTree) (hl : l ≠ []) (hbare : ∀ name, d.at? (l ++ [name]) = none) :
    (d.unset l).IsTree := by
  refine ⟨fun k hk => ?_, fun k name hk => ?_⟩
  · rw [at?_unset hl] at hk
    split at hk
    · exact absurd rfl hk
    · exact h.proper k hk
  · rw [at?_unset hl] at hk ⊢
    split at hk
    · exact absurd rfl hk
    · have hne : k ≠ l := fun hkl => hk (hkl ▸ hbare name)
      rw [if_neg hne, h.held k name hk]

end FileDepot.Disk
