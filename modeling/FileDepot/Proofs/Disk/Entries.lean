import FileDepot.Proofs.Disk.Leads
import FileDepot.Proofs.Outcome

/-!
# Entries

What is found at a location, and where a new entry goes or an old one is taken away, is told by where the
names of the location lead: `locate_leads`, `vacancy_spec` and `entryOf_spec`. Removing takes one entry with
nothing below it away and leaves all others (`TakenAway`). Making a directory makes a disk grow (`Grown`):
nothing that was there changes, and what is new lies on the way to where the names lead.
-/

namespace FileDepot.Disk

open Location

variable {d e f : Disk} {l k place : Location}

/-- What is found at a location is where it leads. -/
theorem locate_leads (htree : d.IsTree) (hl : IsProper l) (h : d.locate l = .ok k) :
    Leads d [] l k := by
  rw [locate, find] at h
  split at h
  · cases h
  · rw [isAbsolute_text, if_pos rfl, names_text hl] at h
    exact .of_walk htree h

/-- Where a location leads to something of a kind, that is found. -/
theorem ask_spec {test : Node → Bool} (h : d.ask test l = .ok true) :
    ∃ k n, d.locate l = .ok k ∧ d.at? k = some n ∧ test n = true := by
  rw [ask] at h
  split at h
  · rename_i k hk
    obtain ⟨n, hn, htest⟩ := (Option.any_eq_true _ _).mp (Except.ok.inj h)
    exact ⟨k, n, hk, hn, htest⟩
  · split at h <;> cases h

/-- Where a location leads to a directory, that is found. -/
theorem isDirectory_spec (h : d.isDirectory l = .ok true) :
    ∃ k, d.locate l = .ok k ∧ d.at? k = some .directory := by
  obtain ⟨k, n, hk, hn, htest⟩ := ask_spec h
  cases n with
  | directory => exact ⟨k, hk, hn⟩
  | file data modified => cases htest
  | link target => cases htest

/-- Where a location leads to a file, that is found. -/
theorem isFile_spec (h : d.isFile l = .ok true) :
    ∃ k data modified, d.locate l = .ok k ∧ d.at? k = some (.file data modified) := by
  obtain ⟨k, n, hk, hn, htest⟩ := ask_spec h
  cases n with
  | directory => cases htest
  | file data modified => exact ⟨k, data, modified, hk, hn⟩
  | link target => cases htest

/-- A new entry goes to the place that its directory leads to, under its name. Nothing is there yet. -/
theorem vacancy_spec (htree : d.IsTree) (h : d.vacancy l = .ok place) :
    ∃ dir, Leads d [] l.parent dir ∧ d.at? dir = some .directory ∧ place = dir ++ [l.name] ∧
      d.at? place = none ∧ l ≠ [] := by
  simp only [vacancy] at h
  split at h
  · cases h
  · split at h
    · cases h
    · rename_i dir hwalk
      split at h
      · cases h
      · rename_i hdir
        split at h
        · cases h
        · split at h
          · cases h
          · rename_i hfree
            obtain rfl := Except.ok.inj h
            simp only [Bool.or_eq_true, decide_eq_true_eq, not_or, Bool.not_eq_true,
              Option.isSome_eq_false_iff, Option.isNone_iff_eq_none] at hfree
            exact ⟨dir, .of_walk htree hwalk, not_not.mp hdir, rfl, hfree.1, hfree.2⟩

/-- An entry is where its directory leads to, under its name. -/
theorem entryOf_spec (htree : d.IsTree) (h : d.entryOf l = .ok place) :
    ∃ dir, Leads d [] l.parent dir ∧ place = dir ++ [l.name] := by
  rw [entryOf] at h
  split at h
  · cases h
  · rename_i dir hwalk
    exact ⟨dir, .of_walk htree hwalk, (Except.ok.inj h).symm⟩

/-- What is on a disk after the entry at a place was taken away. -/
structure TakenAway (d e : Disk) (place : Location) : Prop where
  /-- something was there -/
  was : d.at? place ≠ none
  /-- nothing was below it -/
  bare : ∀ name, d.at? (place ++ [name]) = none
  /-- nothing is there any more -/
  gone : e.at? place = none
  /-- everything else is as it was -/
  kept : ∀ k, k ≠ place → e.at? k = d.at? k

theorem takenAway_unset (hne : place ≠ []) (hwas : d.at? place ≠ none)
    (hbare : ∀ name, d.at? (place ++ [name]) = none) : TakenAway d (d.unset place) place :=
  ⟨hwas, hbare, by rw [at?_unset hne, if_pos rfl], fun k hk => by rw [at?_unset hne, if_neg hk]⟩

/-- What is left is a tree. -/
theorem TakenAway.isTree (h : TakenAway d e place) (htree : d.IsTree) : e.IsTree := by
  have hne : place ≠ [] := by
    rintro rfl
    simpa using h.gone
  refine (htree.unset hne h.bare).congr fun k => ?_
  rw [at?_unset hne]
  split
  · rename_i hk
    rw [hk, h.gone]
  · rename_i hk
    exact h.kept k hk

/-- Removing a directory takes its entry away. -/
theorem removeDirectory_spec (htree : d.IsTree) (h : d.removeDirectory l = .ok e) :
    ∃ dir, Leads d [] l.parent dir ∧ TakenAway d e (dir ++ [l.name]) := by
  rw [removeDirectory] at h
  obtain ⟨place, hplace, h⟩ := Outcome.bind_eq_ok h
  obtain ⟨dir, hdir, rfl⟩ := entryOf_spec htree hplace
  refine ⟨dir, hdir, ?_⟩
  split at h
  · cases h
  · rename_i hnode
    split at h
    · rename_i hempty
      obtain rfl := Except.ok.inj h
      exact takenAway_unset (by simp) (by simp [hnode])
        (at?_concat_eq_none (List.isEmpty_iff.mp hempty))
    · cases h
  · cases h

/-- Removing a file or a link takes its entry away. -/
theorem removeFile_spec (htree : d.IsTree) (h : d.removeFile l = .ok e) :
    ∃ dir, Leads d [] l.parent dir ∧ TakenAway d e (dir ++ [l.name]) := by
  rw [removeFile] at h
  obtain ⟨place, hplace, h⟩ := Outcome.bind_eq_ok h
  obtain ⟨dir, hdir, rfl⟩ := entryOf_spec htree hplace
  refine ⟨dir, hdir, ?_⟩
  split at h
  · cases h
  · cases h
  · rename_i n hdirectory hnode
    obtain rfl := Except.ok.inj h
    have hfile : d.at? (dir ++ [l.name]) ≠ some .directory := by
      rw [hnode]
      exact fun hn => hdirectory (Option.some.inj hn)
    exact takenAway_unset (by simp) (by simp [hnode]) (htree.concat_eq_none hfile)

/-- What is read at a location is the file that is found there. -/
theorem readFile_spec {data : Bytes} {modified : Moment}
    (h : d.readFile [] l.text = .ok (data, modified)) :
    ∃ k, d.locate l = .ok k ∧ d.at? k = some (.file data modified) := by
  rw [readFile] at h
  split at h
  · cases h
  · rename_i k hk
    split at h
    · rename_i hnode
      obtain ⟨rfl, rfl⟩ := Prod.mk.inj (Except.ok.inj h)
      exact ⟨k, hk, hnode⟩
    · cases h
    · cases h

/-! ## Making directories -/

/-- Putting a node where nothing is, in a directory, keeps the tree. -/
theorem IsTree.set_of_none (htree : d.IsTree) {dir : Location} {name : String}
    (hdir : d.at? dir = some .directory) (hname : IsName name)
    (hnone : d.at? (dir ++ [name]) = none) (n : Node) : (d.set (dir ++ [name]) n).IsTree := by
  have hne : dir ++ [name] ≠ [] := by simp
  constructor
  · intro k hk
    rw [at?_set hne] at hk
    by_cases hplace : k = dir ++ [name]
    · exact hplace ▸ (htree.proper dir (by simp [hdir])).concat hname
    · exact htree.proper k (by simpa [hplace] using hk)
  · intro k other hk
    rw [at?_set hne] at hk ⊢
    have hheld : d.at? k = some .directory := by
      by_cases hplace : k ++ [other] = dir ++ [name]
      · rw [List.append_singleton_inj] at hplace
        exact hplace.1 ▸ hdir
      · exact htree.held k other (by simpa [hplace] using hk)
    have hplace : k ≠ dir ++ [name] := by
      rintro rfl
      simp [hnone] at hheld
    rw [if_neg hplace, hheld]

/-- What making directories up to a location does: where a disk differs, a directory is now where nothing
was, on the way to where the location leads. -/
structure Grown (d e : Disk) (l : Location) : Prop where
  /-- the new disk is a tree -/
  tree : e.IsTree
  /-- what is new is a directory on the way -/
  change : ∀ k, e.at? k ≠ d.at? k →
    d.at? k = none ∧ e.at? k = some .directory ∧ ∃ q, Leads d [] l q ∧ k <+: q

namespace Grown

theorem refl (htree : d.IsTree) (l : Location) : Grown d d l := ⟨htree, fun _ h => absurd rfl h⟩

/-- Growing is told by what is at each place. -/
theorem congr {e' : Disk} (h : Grown d e l) (hsame : ∀ k, e'.at? k = e.at? k) : Grown d e' l := by
  refine ⟨h.tree.congr hsame, fun k hk => ?_⟩
  rw [hsame] at hk ⊢
  exact h.change k hk

/-- Growing makes no links and takes none away. -/
theorem links (h : Grown d e l) (k : Location) (target : String) :
    d.at? k = some (.link target) ↔ e.at? k = some (.link target) := by
  by_cases hk : e.at? k = d.at? k
  · rw [hk]
  · obtain ⟨hd, he, -⟩ := h.change k hk
    simp [hd, he]

theorem leads (h : Grown d e l) {names : List String} (hk : Leads e [] names k) :
    Leads d [] names k :=
  hk.congr fun j target => (h.links j target).symm

/-- What grows on the way to the directory of an entry grows on the way to the entry. -/
theorem of_parent (htree : d.IsTree) (hl : IsProper l) (hne : l ≠ []) (h : Grown d e l.parent) :
    Grown d e l := by
  refine ⟨h.tree, fun k hk => ?_⟩
  obtain ⟨hd, he, q, hq, hkq⟩ := h.change k hk
  have hkl : k <+: q ++ [l.name] := hkq.trans (List.prefix_append ..)
  -- nothing is below what is new, so the last name stands for itself
  exact ⟨hd, he, q ++ [l.name], hq.of_parent hl hne (htree.none_of_prefix hkl hd), hkl⟩

theorem trans (h : Grown d e l) (h' : Grown e f l) : Grown d f l := by
  refine ⟨h'.tree, fun k hk => ?_⟩
  by_cases he : e.at? k = d.at? k
  · obtain ⟨hd, hf, q, hq, hkq⟩ := h'.change k (by rwa [he])
    exact ⟨he ▸ hd, hf, q, h.leads hq, hkq⟩
  · obtain ⟨hd, hdir, q, hq, hkq⟩ := h.change k he
    have hf : f.at? k = e.at? k := by
      by_contra hf
      simp [(h'.change k hf).1] at hdir
    exact ⟨hd, hf ▸ hdir, q, hq, hkq⟩

end Grown

/-- Making a directory makes the disk grow. -/
theorem grown_makeDirectory (htree : d.IsTree) (hl : IsProper l) (h : d.makeDirectory l = .ok e) :
    Grown d e l := by
  rw [makeDirectory] at h
  cases hplace : d.vacancy l with
  | error t => simp [hplace, Except.map] at h
  | ok place =>
    simp only [hplace, Except.map, Except.ok.injEq] at h
    subst h
    obtain ⟨dir, hdir, hnode, rfl, hnone, hne⟩ := vacancy_spec htree hplace
    refine ⟨htree.set_of_none hnode (hl.name hne) hnone _, fun k hk => ?_⟩
    rw [at?_set (by simp)] at hk ⊢
    by_cases hkp : k = dir ++ [l.name]
    · subst hkp
      exact ⟨hnone, if_pos rfl, _, hdir.of_parent hl hne hnone, List.prefix_refl _⟩
    · simp [hkp] at hk

end FileDepot.Disk
