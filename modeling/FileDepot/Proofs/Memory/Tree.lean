import FileDepot.Proofs.Memory.Keys
import FileDepot.Proofs.Memory.Mount
import Mathlib.Data.List.Induction

/-!
# The tree of files in memory

Directories are not kept, so that nothing but the stored paths says what is a directory. They form a tree
of files when the root is no file and no file lies above another one (`IsFileTree`). Writing looks for
files above and below its path first; mounting looks for neither. Hence a mount alone can break the tree,
by a file that does not fit to the others (`Fits`).

* **step** — `isFileTree_act_iff`: what an act leaves of a tree;
* **run** — `isFileTree_run`: when all stores on the way are trees.
-/

namespace FileDepot.Memory

open FileDepot.Path

variable {m n : Memory} {p q : String}

/-- Whether a path lies above another one. -/
def IsAbove (p q : String) : Prop := ∃ rest, q = p ++ "/" ++ rest

/-- Whether a path can be that of a file: it is not the root, and no file lies above or below it. -/
def Fits (m : Memory) (p : String) : Prop :=
  p ≠ "" ∧ ∀ q, m.files.contains q = true → ¬ IsAbove p q ∧ ¬ IsAbove q p

/-- The stored paths form a tree of files. -/
structure IsFileTree (m : Memory) : Prop where
  /-- the root is no file -/
  root : m.files.contains "" = false
  /-- no file is a directory, too -/
  apart : ∀ p q, m.files.contains p = true → m.files.contains q = true → ¬ IsAbove p q

theorem isFileTree_empty (clock : Nat → Moment) : (empty clock).IsFileTree :=
  ⟨rfl, fun p q hp => by simp [empty, Catalog.contains] at hp⟩

/-! ## Above and below -/

theorem not_isAbove_self (p : String) : ¬ IsAbove p p := by
  rintro ⟨rest, h⟩
  have hlength := congrArg (fun s => s.toList.length) h
  simp at hlength

theorem isSome_stripFront?_iff : (stripFront? (p ++ "/") q).isSome = true ↔ IsAbove p q := by
  rw [Option.isSome_iff_exists]
  exact exists_congr fun rest => stripFront?_eq_some_iff

instance (p q : String) : Decidable (IsAbove p q) := decidable_of_iff _ isSome_stripFront?_iff

instance (m : Memory) (p : String) : Decidable (m.Fits p) :=
  decidable_of_iff (p ≠ "" ∧ ∀ q ∈ m.files.keys, ¬ IsAbove p q ∧ ¬ IsAbove q p)
    (by simp [Fits, Catalog.mem_keys])

instance (m : Memory) : Decidable m.IsFileTree :=
  decidable_of_iff (m.files.contains "" = false ∧
      ∀ p ∈ m.files.keys, ∀ q ∈ m.files.keys, ¬ IsAbove p q)
    ⟨fun ⟨hroot, h⟩ => ⟨hroot, fun p q hp hq =>
        h p (Catalog.mem_keys.mpr hp) q (Catalog.mem_keys.mpr hq)⟩,
      fun h => ⟨h.root, fun p hp q hq =>
        h.apart p q (Catalog.mem_keys.mp hp) (Catalog.mem_keys.mp hq)⟩⟩

/-- A path is a directory when it is the root or lies above a file. -/
theorem isDirectory_iff :
    m.isDirectory p = true ↔ p = "" ∨ ∃ q, m.files.contains q = true ∧ IsAbove p q := by
  simp only [isDirectory, Bool.or_eq_true, String.isEmpty_iff, List.any_eq_true, Catalog.mem_keys,
    isSome_stripFront?_iff]

/-- The ancestors of a path are the paths above it. -/
theorem mem_ancestors_iff : q ∈ ancestors p ↔ IsAbove q p := by
  have hmem : q ∈ ancestors p ↔ ∃ k, 0 < k ∧ k < (parts p).length ∧ join ((parts p).take k) = q := by
    rw [ancestors, ← List.drop_one, List.mem_map]
    refine exists_congr fun k => ?_
    rw [List.range_eq_range', List.drop_range', List.mem_range'_1, ← parts, ← and_assoc]
    refine and_congr_left fun _ => ?_
    have hlength := List.length_pos_of_ne_nil (parts_ne_nil p)
    omega
  rw [hmem]
  constructor
  · rintro ⟨k, hpos, hlt, rfl⟩
    refine ⟨join ((parts p).drop k), ?_⟩
    rw [← join_append (by simp [parts_ne_nil]; omega) (by simp; omega), List.take_append_drop,
      join_parts]
  · rintro ⟨rest, rfl⟩
    have hq := List.length_pos_of_ne_nil (parts_ne_nil q)
    have hrest := List.length_pos_of_ne_nil (parts_ne_nil rest)
    refine ⟨(parts q).length, hq, ?_, ?_⟩
    · rw [parts_append_slash, List.length_append]
      omega
    · rw [parts_append_slash, List.take_left, join_parts]

/-- A path at which a write is not refused fits. -/
theorem fits_of_accepted (hdir : m.isDirectory p = false)
    (habove : (ancestors p).any m.files.contains = false) : m.Fits p := by
  refine ⟨?_, fun q hq => ⟨fun hpq => ?_, fun hqp => ?_⟩⟩
  · rintro rfl
    simp [isDirectory] at hdir
  · rw [isDirectory_iff.mpr (.inr ⟨q, hq, hpq⟩)] at hdir
    cases hdir
  · rw [List.any_eq_false] at habove
    exact habove q (mem_ancestors_iff.mpr hqp) hq

/-! ## Changing the stored paths -/

/-- Fewer files are a tree still. -/
theorem IsFileTree.of_subset (h : m.IsFileTree)
    (hsub : ∀ p, n.files.contains p = true → m.files.contains p = true) : n.IsFileTree := by
  refine ⟨?_, fun p q hp hq => h.apart p q (hsub p hp) (hsub q hq)⟩
  cases hroot : n.files.contains "" with
  | false => rfl
  | true => rw [← h.root, hsub "" hroot]

/-- More files are a tree still exactly when each new one fits to all others. -/
theorem IsFileTree.of_union_iff (h : m.IsFileTree) {new : List String}
    (hnew : ∀ p, n.files.contains p = true ↔ p ∈ new ∨ m.files.contains p = true) :
    n.IsFileTree ↔ ∀ p ∈ new, n.Fits p := by
  constructor
  · intro hn p hp
    have hstored : n.files.contains p = true := (hnew p).mpr (.inl hp)
    refine ⟨?_, fun q hq => ⟨hn.apart p q hstored hq, hn.apart q p hq hstored⟩⟩
    rintro rfl
    rw [hn.root] at hstored
    cases hstored
  · intro hfits
    refine ⟨?_, fun p q hp hq hpq => ?_⟩
    · cases hroot : n.files.contains "" with
      | false => rfl
      | true =>
        rcases (hnew "").mp hroot with hin | hold
        · exact absurd rfl (hfits "" hin).1
        · rw [← h.root, hold]
    · -- a pair of old files is apart in the old store; any other has a new file in it
      rcases (hnew p).mp hp with hin | hpold
      · exact ((hfits p hin).2 q hq).1 hpq
      · rcases (hnew q).mp hq with hin | hqold
        · exact ((hfits q hin).2 p hp).2 hpq
        · exact h.apart p q hpold hqold hpq

/-! ## Acts -/

/-- The paths of the files that an act puts from an archive, before it fails if it does. -/
def Act.mounted : Act → List String
  | .mount data place =>
    match normalize place, archiveEntries data with
    | .ok p, .ok entries => (mountedFiles p data (mountable p data entries)).map Prod.fst
    | _, _ => []
  | _ => []

theorem contains_load (files : List (String × MemoryFile)) (m : Memory) (p : String) :
    (m.load files).files.contains p = true ↔ p ∈ files.map Prod.fst ∨ m.files.contains p = true := by
  induction files generalizing m with
  | nil => simp
  | cons f rest ih =>
    rw [load_cons, ih, contains_insert, List.map_cons, List.mem_cons]
    tauto

theorem contains_mount (m : Memory) (data : Bytes) (place p : String) :
    (m.mount data place).2.files.contains p = true ↔
      p ∈ (Act.mount data place).mounted ∨ m.files.contains p = true := by
  rcases mount_cases m data place with ⟨hm, hnone⟩ | ⟨q, entries, hplace, hentries, hm⟩
  · have hmounted : (Act.mount data place).mounted = [] := by
      rcases hnone with ⟨f, hf⟩ | ⟨f, hf⟩
      · simp [Act.mounted, hf]
      · cases hplace : normalize place <;> simp [Act.mounted, hf, hplace]
    simp [hm, hmounted]
  · rw [hm, mountEntries_eq, contains_load]
    simp [Act.mounted, hplace, hentries]

/-- **Step.** An act leaves a tree as a tree, unless it mounts a file that does not fit. -/
theorem isFileTree_act_iff (h : m.IsFileTree) (a : Act) :
    (a.run m).IsFileTree ↔ ∀ p ∈ a.mounted, (a.run m).Fits p := by
  cases a with
  | write path content =>
    refine iff_of_true ?_ (by simp [Act.mounted])
    rcases write_cases m path content with ⟨f, hw, -⟩ | ⟨p, data, f, -, -, hw⟩ |
      ⟨p, data, -, -, hdir, habove, hw⟩
    · rwa [Act.run, hw]
    · rw [Act.run, hw]
      exact h.of_subset fun p hp => hp
    · have hnew : ∀ q, (m.put p data (m.clock m.ticks)).tick.files.contains q = true ↔
          q ∈ [p] ∨ m.files.contains q = true := fun q => by
        rw [List.mem_singleton]
        exact @contains_insert q m.files p _
      have hfits := fits_of_accepted hdir habove
      rw [Act.run, hw, h.of_union_iff hnew]
      intro q hq
      rw [List.mem_singleton.mp hq]
      refine ⟨hfits.1, fun k hk => ?_⟩
      rcases (hnew k).mp hk with hin | hold
      · rw [List.mem_singleton.mp hin]
        exact ⟨not_isAbove_self p, not_isAbove_self p⟩
      · exact hfits.2 k hold
  | remove path =>
    refine iff_of_true ?_ (by simp [Act.mounted])
    rcases remove_cases m path with ⟨f, hr⟩ | hr | ⟨p, -, -, hr⟩
    · rwa [Act.run, hr]
    · rwa [Act.run, hr]
    · rw [Act.run, hr]
      exact h.of_subset fun q hq => contains_of_erase hq
  | mount data place =>
    rw [Act.run]
    exact h.of_union_iff (contains_mount m data place)

theorem run_concat (m : Memory) (acts : List Act) (a : Act) :
    run m (acts ++ [a]) = a.run (run m acts) := by
  simp [run]

/-- **Run.** All stores on the way from an empty one are trees of files exactly when each file that an
act of the run mounts fits to the others. An act other than mounting leaves every tree as a tree. -/
theorem isFileTree_run (clock : Nat → Moment) (acts : List Act) :
    ((∀ before, before <+: acts → (run (empty clock) before).IsFileTree) ↔
      ∀ before a, before ++ [a] <+: acts → ∀ p ∈ a.mounted,
        (run (empty clock) (before ++ [a])).Fits p) ∧
    ∀ (m : Memory) (a : Act), m.IsFileTree →
      ((a.run m).IsFileTree ↔ ∀ p ∈ a.mounted, (a.run m).Fits p) := by
  refine ⟨⟨fun h before a ha => ?_, fun h before => ?_⟩, fun m a hm => isFileTree_act_iff hm a⟩
  · have hbefore := h before ((List.prefix_append ..).trans ha)
    have hafter := h _ ha
    rw [run_concat] at hafter ⊢
    exact (isFileTree_act_iff hbefore a).mp hafter
  · induction before using List.reverseRecOn with
    | nil => exact fun _ => isFileTree_empty clock
    | append_singleton before a ih =>
      intro ha
      have hfits := h before a ha
      rw [run_concat] at hfits ⊢
      exact (isFileTree_act_iff (ih ((List.prefix_append ..).trans ha)) a).mpr hfits

/-- A file that is mounted beside another one fits, and the store stays a tree. -/
theorem isFileTree_run_beside :
    let acts : List Act := [.write "a/c" (.bytes [1])]
    let m := run (empty fun n => ⟨n⟩) acts
    let a : Act := .mount (archiveOfEmptyFiles ["a/b"]) ""
    m.IsFileTree ∧ a.mounted = ["a/b"] ∧ (a.run m).IsFileTree := by
  intro acts m a
  have hm : m.IsFileTree := by decide +kernel
  have hmounted : a.mounted = ["a/b"] := by decide +kernel
  refine ⟨hm, hmounted, ((isFileTree_run (fun n => ⟨n⟩) acts).2 m a hm).mpr ?_⟩
  rw [hmounted]
  decide +kernel

/-- Mounting puts a file below another one, and a file at the root. -/
theorem mount_breaks_tree :
    ¬ (run (empty fun n => ⟨n⟩)
      [.write "a" (.bytes [1]), .mount (archiveOfEmptyFiles ["a/b"]) ""]).IsFileTree ∧
    ¬ (run (empty fun n => ⟨n⟩) [.mount (archiveOfEmptyFiles ["."]) ""]).IsFileTree := by
  decide +kernel

end FileDepot.Memory
