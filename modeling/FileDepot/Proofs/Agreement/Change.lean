import FileDepot.Proofs.Agreement.Files
import FileDepot.Proofs.Local.Change
import FileDepot.Proofs.Memory.Tree
import FileDepot.Proofs.Stream.Blocks
import FileDepot.Proofs.Tasks

/-!
# Changes in both stores

Where both stores hold the same files, what stands in the way of a write or a removal is the same in both
(`SameFiles.isDirectory_iff`, `SameFiles.ancestors_iff`), except for a directory with no file below it.
Such a directory is on the disk only (`Abandoned`).

* **write** — `write_agrees`: both stores end alike and hold the same files again. `write_refused`: over
  an abandoned directory, or where there is no room for the scratch file, only the disk refuses;
* **removal** — `remove_agrees`: both stores end alike. `remove_abandoned`: an abandoned directory is
  nothing in memory, and on the disk it is removed or refused. They hold the same files in any case.
-/

namespace FileDepot

open FileDepot.Path Text Disk Location Adapter

variable {m n : Memory} {s : Local} {root l : Location} {d e : Disk} {names more : List String}

/-- A directory with no file below it. -/
def Abandoned (d : Disk) (l : Location) : Prop :=
  d.at? l = some .directory ∧ ∀ more, d.bytes? (l ++ more) = none

instance (d : Disk) (l : Location) : Decidable (Abandoned d l) :=
  decidable_of_iff (d.at? l = some .directory ∧ ∀ k ∈ d.below l, d.bytes? k = none) <| by
    refine and_congr_right fun hdir => ⟨fun h more => ?_, fun h k hk => ?_⟩
    · by_cases hmore : more = []
      · rw [hmore, List.append_nil, bytes?_of_directory hdir]
      · by_contra hfile
        exact hfile (h _ (mem_below_iff.mpr
          ⟨at?_ne_none_of_bytes? hfile, List.prefix_append .., by simpa using hmore⟩))
    · obtain ⟨more, rfl⟩ := (mem_below_iff.mp hk).2.1
      exact h more

/-- No file is on the way to an abandoned directory. -/
theorem Abandoned.not_blocked (h : Abandoned d l) (htree : d.IsTree) : ¬ d.Blocked l.parent := by
  rintro ⟨k, hk, hfile⟩
  exact not_blocked_of_directory htree h.1 ⟨k, hk.trans (List.dropLast_prefix l), hfile⟩

/-! ## What stands in the way -/

theorem isAbove_join_iff (hnames : Legal names) (hne : names ≠ []) (hmore : Legal more)
    (hne' : more ≠ []) :
    Memory.IsAbove (join names) (join more) ↔ ∃ rest, rest ≠ [] ∧ more = names ++ rest := by
  constructor
  · rintro ⟨rest, hrest⟩
    have hparts := congrArg parts hrest
    rw [parts_append_slash, hnames.parts_join hne, hmore.parts_join hne'] at hparts
    exact ⟨parts rest, parts_ne_nil rest, hparts⟩
  · rintro ⟨rest, hrest, rfl⟩
    exact ⟨join rest, join_append hne hrest⟩

theorem normalize_join_legal (hnames : Legal names) :
    Memory.normalize (join names) = .ok (join names) :=
  Memory.normalize_of_normal
    ⟨names, hnames.isSegment, fun hup => (hnames _ hup).name.ne_up rfl, rfl⟩ hnames.tidy_join

namespace SameFiles

variable (h : SameFiles m root d) (hnames : Legal names) (hne : names ≠ [])

include h hnames hne

/-- A path is a directory in memory when a file is below it on the disk. -/
theorem isDirectory_iff :
    m.isDirectory (join names) = true ↔
      ∃ more, more ≠ [] ∧ d.bytes? (root ++ (names ++ more)) ≠ none := by
  have hempty : join names ≠ "" := by rwa [ne_eq, join_eq_empty_iff hnames.isSegment]
  rw [Memory.isDirectory_iff, or_iff_right hempty]
  constructor
  · rintro ⟨q, hq, habove⟩
    obtain ⟨below, hne', hbelow, rfl⟩ := h.keys q hq
    obtain ⟨more, hmore, rfl⟩ := (isAbove_join_iff hnames hne hbelow hne').mp habove
    exact ⟨more, hmore, (h.contains_iff hbelow).mp hq⟩
  · rintro ⟨more, hmore, hfile⟩
    obtain ⟨hne', hbelow⟩ := h.files _ hfile
    exact ⟨join (names ++ more), (h.contains_iff hbelow).mpr hfile,
      (isAbove_join_iff hnames hne hbelow hne').mpr ⟨more, hmore, rfl⟩⟩

/-- A file is above a path in memory when one is on the way to it on the disk. -/
theorem ancestors_iff (hplain : Local.Plain root d) :
    (Memory.ancestors (join names)).any m.files.contains = true ↔ d.Blocked (root ++ names).parent := by
  rw [List.any_eq_true]
  constructor
  · rintro ⟨q, hq, hcontains⟩
    obtain ⟨above, hne', habove, rfl⟩ := h.keys q hcontains
    rw [Memory.mem_ancestors_iff, isAbove_join_iff habove hne' hnames hne] at hq
    obtain ⟨rest, hrest, rfl⟩ := hq
    refine ⟨root ++ above, ?_, (h.contains_iff habove).mp hcontains⟩
    rw [← List.append_assoc, parent, List.dropLast_append_of_ne_nil hrest]
    exact List.prefix_append ..
  · rintro ⟨k, hk, hfile⟩
    have hroot := not_blocked_of_directory hplain.tree hplain.directory
    have hkl := hk.trans (List.dropLast_prefix _)
    -- the file is below the root, as none is on the way to it
    have hin := List.prefix_or_prefix_of_prefix (List.prefix_append root names) hkl
    obtain ⟨above, rfl⟩ := hin.resolve_right fun hk => hroot ⟨k, hk, hfile⟩
    obtain ⟨rest, rfl⟩ := (List.prefix_append_right_inj root).mp hkl
    obtain ⟨hne', habove⟩ := h.files _ hfile
    refine ⟨join above, ?_, (h.contains_iff habove).mpr hfile⟩
    rw [Memory.mem_ancestors_iff, isAbove_join_iff habove hne' hnames hne]
    refine ⟨rest, ?_, rfl⟩
    rintro rfl
    rw [List.append_nil, ← parent_append_name (l := root ++ above) (by simp [hne'])] at hk
    exact not_concat_isPrefix _ _ (by simpa using hk)

/-- A directory on the disk is a directory in memory, or abandoned. -/
theorem directory_iff (hplain : Local.Plain root d) :
    d.at? (root ++ names) = some .directory ↔
      m.isDirectory (join names) = true ∨ Abandoned d (root ++ names) := by
  rw [h.isDirectory_iff hnames hne]
  constructor
  · intro hdir
    by_cases hheld : ∃ more, more ≠ [] ∧ d.bytes? (root ++ (names ++ more)) ≠ none
    · exact .inl hheld
    · refine .inr ⟨hdir, fun more => ?_⟩
      by_cases hmore : more = []
      · rw [hmore, List.append_nil, bytes?_of_directory hdir]
      · by_contra hfile
        exact hheld ⟨more, hmore, by rwa [← List.append_assoc]⟩
  · rintro (⟨more, hmore, hfile⟩ | hleft)
    · exact hplain.directory_of_bytes? hmore hfile
    · exact hleft.1

/-- An abandoned directory is none in memory. -/
theorem not_isDirectory_of_abandoned (hleft : Abandoned d (root ++ names)) :
    m.isDirectory (join names) = false := by
  rw [← Bool.not_eq_true, h.isDirectory_iff hnames hne]
  rintro ⟨more, -, hfile⟩
  exact hfile (by rw [← List.append_assoc]; exact hleft.2 more)

end SameFiles

/-! ## What is held after a change -/

namespace SameFiles

variable (h : SameFiles m root d)

include h

/-- Stores with the files as before hold the same ones still. -/
theorem congr (hmemory : n.files = m.files) (hdisk : ∀ k, e.bytes? k = d.bytes? k) :
    SameFiles n root e := by
  refine ⟨fun p hp => h.keys p (hmemory ▸ hp), fun names hfile => h.files names (hdisk _ ▸ hfile),
    fun names hne hnames => ?_⟩
  rw [hmemory, hdisk, h.same names hne hnames]

/-- Stores that differ from these at one path alone, and alike, hold the same files. -/
theorem update (hnames : Legal names) (hne : names ≠ []) {data : Option Bytes}
    (hmemory : ∀ p, (n.files.get? p).map (·.data) =
      if p = join names then data else (m.files.get? p).map (·.data))
    (hdisk : ∀ k, e.bytes? k = if k = root ++ names then data else d.bytes? k) :
    SameFiles n root e := by
  refine ⟨fun p hp => ?_, fun more hfile => ?_, fun more hne' hmore => ?_⟩
  -- the path itself is legal, and any other one was held before
  · by_cases hnew : p = join names
    · exact ⟨names, hne, hnames, hnew⟩
    · have hsame := hmemory p
      rw [if_neg hnew] at hsame
      refine h.keys p ?_
      rw [Catalog.contains, ← Option.isSome_map, ← hsame, Option.isSome_map]
      exact hp
  · by_cases hnew : more = names
    · exact hnew ▸ ⟨hne, hnames⟩
    · rw [hdisk, if_neg fun hk => hnew (List.append_cancel_left hk)] at hfile
      exact h.files more hfile
  · have hiff : join more = join names ↔ root ++ more = root ++ names := by
      rw [List.append_cancel_left_eq]
      exact ⟨Local.join_injective hmore.proper hnames.proper, fun hk => hk ▸ rfl⟩
    simp only [hmemory, hdisk, hiff, h.same more hne' hmore]

end SameFiles

/-! ## Writing -/

theorem Memory.write_normal {p : String} (hp : Memory.normalize p = .ok p) (m : Memory) (data : Bytes) :
    m.write p (.bytes data) =
      if m.isDirectory p then (.error (.memory (.overDirectory p)), m.tick)
      else if (Memory.ancestors p).any m.files.contains then (.error (.memory (.belowFile p)), m.tick)
      else (.ok (p, data.length), (m.put p data (m.clock m.ticks)).tick) := by
  simp only [Memory.write, hp]
  rfl

section

variable (h : SameFiles m s.root d) (hplain : Local.Plain s.root d) (hnames : Legal names)
  (hne : names ≠ []) (hl : Within (s.root ++ names)) (data : Bytes)

include h hplain hnames hne hl

/-- **Write.** A write ends alike in both stores, and they hold the same files after it. -/
theorem write_agrees (hkept : ¬ Abandoned d (s.root ++ names))
    (hroom : d.at? (s.root ++ names) ≠ some .directory → ¬ d.Blocked (s.root ++ names).parent →
      Local.HasRoom s d (s.root ++ names)) :
    let inMemory := m.write (join names) (.bytes data)
    let onDisk := s.write d (join names) (.bytes data)
    saved (join names) inMemory.1 = saved (join names) onDisk.1 ∧
      SameFiles inMemory.2 s.root onDisk.2 ∧ Local.Plain s.root onDisk.2 := by
  dsimp only
  have hplace := Local.realPlace_base (s := s) hplain hnames.proper hnames.isClean_join
  have hreal := hplain.isReal hnames.proper
  have hdirectory := h.directory_iff hnames hne hplain
  rw [or_iff_left hkept] at hdirectory
  have habove := h.ancestors_iff hnames hne hplain
  rw [Memory.write_normal (normalize_join_legal hnames)]
  -- both look for a directory at the path first, and then for a file on the way to it
  by_cases hdir : d.at? (s.root ++ names) = some .directory
  · rw [if_pos (hdirectory.mp hdir), Local.write_over hplain.tree hreal hl hplace hdir]
    exact ⟨rfl, h.congr rfl fun _ => rfl, hplain⟩
  rw [if_neg (hdirectory.not.mp hdir)]
  by_cases hblocked : d.Blocked (s.root ++ names).parent
  · obtain ⟨f, hdisk⟩ := Local.write_blocked hplain.tree hplain.directory hreal hl hplace hblocked
      (.bytes data)
    rw [if_pos (habove.mpr hblocked), hdisk]
    exact ⟨rfl, h.congr rfl fun _ => rfl, hplain⟩
  · have hdata : (ByteReader.bytes data).drainBlocks = .ok data :=
      ByteReader.drainBlocks_holds (.bytes data)
    obtain ⟨e, hdisk, hstored⟩ := Local.write_open hplain.tree hplain.directory hreal hl hplace hdir
      hblocked (hroom hdir hblocked) hdata
    rw [if_neg (habove.not.mpr hblocked), hdisk]
    refine ⟨rfl, ?_, ?_⟩
    · exact h.update hnames hne (Memory.get?_put m _ data _)
        (Local.bytes?_of_stored hstored hblocked (by simp [hne]))
    · exact hstored.plain hplain hreal.proper (List.prefix_append ..) hl (fun h => absurd h hdir)
        fun target => Node.noConfusion

/-- **Write.** Over an abandoned directory, and where the scratch file has no room, only the disk refuses
a write that no file stands in the way of. Its files stay as they are. -/
theorem write_refused (hrefused : Abandoned d (s.root ++ names) ∨
      d.at? (s.root ++ names) ≠ some .directory ∧ ¬ d.Blocked (s.root ++ names).parent ∧
        maxPath < (s.scratchPlace (s.root ++ names)).text.utf8ByteSize) :
    let inMemory := m.write (join names) (.bytes data)
    let onDisk := s.write d (join names) (.bytes data)
    inMemory = (.ok (join names, data.length), (m.put (join names) data (m.clock m.ticks)).tick) ∧
      saved (join names) onDisk.1 = some .write ∧
      (∀ k, onDisk.2.bytes? k = d.bytes? k) ∧ Local.Plain s.root onDisk.2 := by
  dsimp only
  have hplace := Local.realPlace_base (s := s) hplain hnames.proper hnames.isClean_join
  have hreal := hplain.isReal hnames.proper
  have hopen : ¬ d.Blocked (s.root ++ names).parent :=
    hrefused.elim (fun hleft => hleft.not_blocked hplain.tree) fun hlong => hlong.2.1
  have habove := (h.ancestors_iff hnames hne hplain).not.mpr hopen
  -- nothing stands in the way in memory, which knows neither empty directories nor scratch files
  have hfree : m.isDirectory (join names) ≠ true := by
    rcases hrefused with hleft | ⟨hdir, -⟩
    · rw [h.not_isDirectory_of_abandoned hnames hne hleft]
      exact Bool.false_ne_true
    · exact fun hm => hdir ((h.directory_iff hnames hne hplain).mpr (.inl hm))
  rw [Memory.write_normal (normalize_join_legal hnames), if_neg hfree, if_neg habove]
  refine ⟨rfl, ?_⟩
  rcases hrefused with hleft | ⟨hdir, -, hlong⟩
  · rw [Local.write_over hplain.tree hreal hl hplace hleft.1]
    exact ⟨rfl, fun _ => rfl, hplain⟩
  · obtain ⟨e, hdisk, hmade⟩ := Local.write_tooLong hplain.tree hplain.directory hreal hl hplace hdir
      hopen (.inr hlong) (.bytes data)
    rw [hdisk]
    have hin : s.root <+: (s.root ++ names).parent := by
      rw [parent, List.dropLast_append_of_ne_nil hne]
      exact List.prefix_append ..
    exact ⟨rfl, Local.bytes?_of_made hmade hopen, hmade.plain hplain hreal.proper.parent hin
      (hl.of_prefix (List.dropLast_prefix _)) (fun _ => rfl) fun target => Node.noConfusion⟩

end

/-! ## Removing -/

theorem Memory.remove_normal {p : String} (hp : Memory.normalize p = .ok p) (m : Memory) :
    m.remove p =
      if m.files.contains p then (.ok (some p), { m with files := m.files.erase p })
      else if m.isDirectory p then (.error (.memory (.removeDirectory p)), m)
      else (.ok none, m) := by
  simp only [Memory.remove, hp]

section

variable (h : SameFiles m s.root d) (hplain : Local.Plain s.root d) (hnames : Legal names)
  (hne : names ≠ []) (hl : Within (s.root ++ names)) (config : Config)

include h hplain hnames hne hl

/-- **Removal.** A removal ends alike in both stores, and they hold the same files after it. -/
theorem remove_agrees (hkept : ¬ Abandoned d (s.root ++ names)) :
    let inMemory := m.remove (join names)
    let onDisk := s.remove d (join names)
    removed config (join names) inMemory.1 = removed config (join names) onDisk.1 ∧
      SameFiles inMemory.2 s.root onDisk.2 ∧ Local.Plain s.root onDisk.2 := by
  dsimp only
  have hplace := Local.realPlace_base (s := s) hplain hnames.proper hnames.isClean_join
  have hreal := hplain.isReal hnames.proper
  have hroot : s.root ++ names ≠ s.root := by simpa using hne
  have hnil : s.root ++ names ≠ [] := by simp [hne]
  have hdirectory := h.directory_iff hnames hne hplain
  rw [or_iff_left hkept] at hdirectory
  have hfile := h.contains_iff hnames
  rw [Memory.remove_normal (normalize_join_legal hnames)]
  cases hnode : d.at? (s.root ++ names) with
  | none =>
    rw [if_neg (hfile.not.mpr (not_not.mpr (bytes?_of_none hnode))),
      if_neg (hdirectory.not.mp (by simp [hnode])),
      Local.remove_none hplain.tree hreal hl hplace hroot hnode]
    exact ⟨rfl, h.congr rfl fun _ => rfl, hplain⟩
  | some node =>
    cases node with
    | link target => exact absurd hnode (hplain.linkFree _ target (List.prefix_append ..))
    | directory =>
      -- not abandoned, so a file is below it, and both refuse
      have hheld := hdirectory.mp hnode
      obtain ⟨more, hmore, hbelow⟩ := (h.isDirectory_iff hnames hne).mp hheld
      rw [← List.append_assoc] at hbelow
      rw [if_neg (hfile.not.mpr (not_not.mpr (bytes?_of_directory hnode))), if_pos hheld,
        Local.remove_directory hplain.tree hreal hl hplace hroot hnil hnode,
        if_neg (children_ne_nil hplain.tree hmore hbelow)]
      exact ⟨rfl, h.congr rfl fun _ => rfl, hplain⟩
    | file data modified =>
      have hbytes : d.bytes? (s.root ++ names) ≠ none := by simp [bytes?, hnode]
      rw [if_pos (hfile.mpr hbytes), Local.remove_file hplain.tree hreal hl hplace hroot hbytes]
      refine ⟨rfl, h.update hnames hne (fun p => ?_) (Local.bytes?_unset hnil), ?_⟩
      · rw [Catalog.get?_erase]
        split <;> rfl
      · exact hplain.unset (List.prefix_append ..) hroot fun name =>
          hplain.tree.none_of_file (List.prefix_append ..) (by simp) hbytes

/-- **Removal.** An abandoned directory is nothing in memory. The disk removes it if nothing is in it,
and refuses to otherwise. Both hold the same files in any case. -/
theorem remove_abandoned (hleft : Abandoned d (s.root ++ names)) :
    let onDisk := s.remove d (join names)
    m.remove (join names) = (.ok none, m) ∧
      (removed config (join names) onDisk.1, onDisk.2) =
        (if d.children (s.root ++ names) = [] then (none, d.unset (s.root ++ names))
          else (some .delete, d)) ∧
      SameFiles m s.root onDisk.2 ∧ Local.Plain s.root onDisk.2 := by
  dsimp only
  have hplace := Local.realPlace_base (s := s) hplain hnames.proper hnames.isClean_join
  have hreal := hplain.isReal hnames.proper
  have hroot : s.root ++ names ≠ s.root := by simpa using hne
  have hnil : s.root ++ names ≠ [] := by simp [hne]
  have hbytes : d.bytes? (s.root ++ names) = none := bytes?_of_directory hleft.1
  rw [Memory.remove_normal (normalize_join_legal hnames),
    if_neg ((h.contains_iff hnames).not.mpr (not_not.mpr hbytes)),
    h.not_isDirectory_of_abandoned hnames hne hleft,
    Local.remove_directory hplain.tree hreal hl hplace hroot hnil hleft.1]
  refine ⟨rfl, ?_⟩
  by_cases hempty : d.children (s.root ++ names) = []
  · rw [if_pos hempty, if_pos hempty]
    refine ⟨rfl, h.congr rfl fun k => ?_,
      hplain.unset (List.prefix_append ..) hroot (at?_concat_eq_none hempty)⟩
    rw [Local.bytes?_unset hnil]
    split
    · rename_i hk
      rw [hk, hbytes]
    · rfl
  · rw [if_neg hempty, if_neg hempty]
    exact ⟨rfl, h, hplain⟩

end

end FileDepot
