import FileDepot.Proofs.Local.Plain
import FileDepot.Proofs.Memory.Resolve
import Mathlib.Data.String.Basic

/-!
# The same files in both stores

A store in memory and a store on disk hold the same files when each path has the same contents in both
(`SameFiles`). This is about legal names only, those that a file can have in both stores: a name that is
cleaned, or too long for the system, would be read back as another one in one of them. Directories do not
count. Those without files below them are on a disk only.
-/

namespace FileDepot

open FileDepot.Path Text

/-- A name that a file can have in both stores. -/
structure IsLegal (n : String) : Prop where
  /-- it can stand in a directory -/
  name : Location.IsName n
  /-- it holds no backslash -/
  no_backslash : '\\' ∉ n.toList
  /-- no blank is at its edges -/
  tidy : Tidy n
  /-- it is not too long -/
  size : n.utf8ByteSize ≤ Disk.maxName

theorem isLegal_iff {n : String} : IsLegal n ↔ Location.IsName n ∧ '\\' ∉ n.toList ∧ Tidy n ∧
    n.utf8ByteSize ≤ Disk.maxName :=
  ⟨fun h => ⟨h.name, h.no_backslash, h.tidy, h.size⟩, fun ⟨hname, hback, ht, hsize⟩ =>
    ⟨hname, hback, ht, hsize⟩⟩

instance (n : String) : Decidable (IsLegal n) := decidable_of_iff' _ isLegal_iff

theorem IsLegal.isSegment {n : String} (h : IsLegal n) : IsSegment n :=
  ⟨h.name.ne_empty, h.name.ne_dot, h.name.no_slash, h.no_backslash⟩

/-- Names that a file can have in both stores. -/
def Legal (names : List String) : Prop := ∀ n ∈ names, IsLegal n

instance (names : List String) : Decidable (Legal names) :=
  inferInstanceAs (Decidable (∀ n ∈ names, IsLegal n))

namespace Legal

variable {names more : List String}

theorem proper (h : Legal names) : Location.IsProper names := fun n hn => (h n hn).name

theorem isSegment (h : Legal names) : ∀ n ∈ names, IsSegment n := fun n hn => (h n hn).isSegment

theorem tidy_join (h : Legal names) : Tidy (join names) :=
  Path.tidy_join (fun n hn => (h n hn).name.ne_empty) fun n hn => (h n hn).tidy

theorem clear (h : Legal names) : Memory.Clear names := fun n hn => ⟨(h n hn).isSegment, (h n hn).tidy⟩

theorem isClean_join (h : Legal names) : Local.IsClean (join names) :=
  ⟨h.tidy_join, backslash_not_mem_join h.isSegment⟩

theorem parts_join (h : Legal names) (hne : names ≠ []) : parts (join names) = names :=
  parts_join_of_segments hne h.isSegment

theorem of_append_right (h : Legal (names ++ more)) : Legal more := fun n hn =>
  h n (List.mem_append_right _ hn)

end Legal

/-- A store in memory and a store on disk hold the same files. -/
structure SameFiles (m : Memory) (root : Location) (d : Disk) : Prop where
  /-- every path in memory joins legal names -/
  keys : ∀ p, m.files.contains p = true → ∃ names, names ≠ [] ∧ Legal names ∧ p = join names
  /-- every file on the disk has legal names below the root -/
  files : ∀ names, d.bytes? (root ++ names) ≠ none → names ≠ [] ∧ Legal names
  /-- the contents at each path are the same -/
  same : ∀ names, names ≠ [] → Legal names →
    (m.files.get? (join names)).map (·.data) = d.bytes? (root ++ names)

namespace SameFiles

variable {m : Memory} {root : Location} {d : Disk} {names : List String}

/-- Legal names are those of a file in memory when they are those of a file on the disk. -/
theorem contains_iff (h : SameFiles m root d) (hnames : Legal names) :
    m.files.contains (join names) = true ↔ d.bytes? (root ++ names) ≠ none := by
  by_cases hne : names = []
  · subst hne
    refine iff_of_false (fun hroot => ?_) fun hroot => (h.files [] hroot).1 rfl
    obtain ⟨more, hne, hmore, hjoin⟩ := h.keys _ hroot
    exact hne ((join_eq_empty_iff hmore.isSegment).mp hjoin.symm)
  · rw [← h.same names hne hnames, Catalog.contains, Option.isSome_iff_ne_none, ne_eq, ne_eq,
      Option.map_eq_none_iff]

/-- The parts of a path in memory are legal, and it joins them. -/
theorem legal_parts (h : SameFiles m root d) {p : String} (hp : m.files.contains p = true) :
    Legal (parts p) := by
  obtain ⟨names, hne, hnames, rfl⟩ := h.keys p hp
  rwa [hnames.parts_join hne]

/-! ### Deciding -/

/-- Whether two stores hold the same files is told by the paths in memory and the places on the disk. -/
theorem iff_lists : SameFiles m root d ↔
    (∀ p ∈ m.files.keys, Legal (parts p) ∧
      (m.files.get? p).map (·.data) = d.bytes? (root ++ parts p)) ∧
    d.bytes? root = none ∧
    ∀ l ∈ d.nodes.keys, root.isPrefixOf l = true → d.bytes? l ≠ none →
      Legal (l.drop root.length) ∧ m.files.contains (join (l.drop root.length)) = true := by
  constructor
  · intro h
    refine ⟨fun p hp => ?_, ?_, fun l hl hin hbytes => ?_⟩
    · have hp' := Catalog.mem_keys.mp hp
      obtain ⟨names, hne, hnames, rfl⟩ := h.keys p hp'
      rw [hnames.parts_join hne]
      exact ⟨hnames, h.same names hne hnames⟩
    · by_contra hroot
      exact (h.files [] (by simpa using hroot)).1 rfl
    · obtain ⟨names, rfl⟩ := List.isPrefixOf_iff_prefix.mp hin
      rw [List.drop_left]
      have hnames := (h.files names hbytes).2
      exact ⟨hnames, (h.contains_iff hnames).mpr hbytes⟩
  · rintro ⟨hkeys, hroot, hnodes⟩
    have hfiles : ∀ names, d.bytes? (root ++ names) ≠ none →
        names ≠ [] ∧ Legal names ∧ m.files.contains (join names) = true := by
      intro names hbytes
      have hne : names ≠ [] := by
        rintro rfl
        rw [List.append_nil] at hbytes
        exact hbytes hroot
      have hmem := (Disk.at?_ne_none_iff (by simp [hne])).mp (Disk.at?_ne_none_of_bytes? hbytes)
      have hin := hnodes _ hmem (List.isPrefixOf_iff_prefix.mpr (List.prefix_append ..)) hbytes
      rw [List.drop_left] at hin
      exact ⟨hne, hin⟩
    refine ⟨fun p hp => ?_, fun names hbytes => ⟨(hfiles names hbytes).1, (hfiles names hbytes).2.1⟩,
      fun names hne hnames => ?_⟩
    · exact ⟨parts p, parts_ne_nil p, (hkeys p (Catalog.mem_keys.mpr hp)).1, (join_parts p).symm⟩
    · cases hp : m.files.get? (join names) with
      | some f =>
        have hcontains : m.files.contains (join names) = true := by rw [Catalog.contains, hp]; rfl
        have hsame := (hkeys _ (Catalog.mem_keys.mpr hcontains)).2
        rwa [hp, hnames.parts_join hne] at hsame
      | none =>
        by_contra hbytes
        have hcontains := (hfiles names (Ne.symm hbytes)).2.2
        rw [Catalog.contains, hp] at hcontains
        cases hcontains

instance (m : Memory) (root : Location) (d : Disk) : Decidable (SameFiles m root d) :=
  decidable_of_iff' _ iff_lists

end SameFiles

/-! ## A bare disk, and long names -/

/-- A disk with nothing but the root. -/
def bareDisk : Disk := ⟨⟨[(["root"], .directory)], by decide⟩⟩

theorem at?_bareDisk {l : Location} (hl : 1 < l.length) : bareDisk.at? l = none := by
  by_contra hnode
  have hnil : l ≠ [] := by
    rintro rfl
    simp at hl
  have hmem := (Disk.at?_ne_none_iff hnil).mp hnode
  obtain rfl : l = ["root"] := List.mem_singleton.mp hmem
  simp at hl

theorem bytes?_bareDisk (l : Location) : bareDisk.bytes? l = none := by
  by_cases hl : 1 < l.length
  · exact Disk.bytes?_of_none (at?_bareDisk hl)
  · by_contra hbytes
    have hnil : l ≠ [] := by
      rintro rfl
      exact hbytes (Disk.bytes?_of_directory (Disk.at?_nil _))
    have hmem := (Disk.at?_ne_none_iff hnil).mp (Disk.at?_ne_none_of_bytes? hbytes)
    obtain rfl : l = ["root"] := List.mem_singleton.mp hmem
    exact hbytes rfl

/-- A name of so many letters. -/
def letters (k : Nat) : String := String.ofList (List.replicate k 'x')

theorem mem_letters {k : Nat} {c : Char} (hc : c ∈ (letters k).toList) : c = 'x' := by
  rw [letters, String.toList_ofList] at hc
  exact List.eq_of_mem_replicate hc

theorem utf8ByteSize_letters (k : Nat) : (letters k).utf8ByteSize = k := by
  induction k with
  | zero => rfl
  | succ k ih =>
    rw [letters, String.utf8ByteSize_ofList] at ih ⊢
    rw [List.replicate_succ, String.utf8Len_cons, ih]
    rfl

theorem isLegal_letters {k : Nat} (hmin : 2 < k) (hmax : k ≤ Disk.maxName) : IsLegal (letters k) := by
  have hlength : (letters k).toList.length = k := by simp [letters]
  have hne (n : String) (hn : n.toList.length ≤ 2) : letters k ≠ n := fun h => by
    rw [h] at hlength
    omega
  have hnot (c : Char) (hc : c ≠ 'x') : c ∉ (letters k).toList := fun h => hc (mem_letters h)
  refine ⟨⟨hne _ (by decide), hne _ (by decide), hne _ (by decide), hnot _ (by decide),
    hnot _ (by decide)⟩, hnot _ (by decide), ⟨fun c hc => ?_, fun c hc => ?_⟩, ?_⟩
  · rw [mem_letters (List.mem_of_mem_head? hc)]
    rfl
  · rw [mem_letters (List.mem_of_getLast? hc)]
    rfl
  · rwa [utf8ByteSize_letters]

end FileDepot
