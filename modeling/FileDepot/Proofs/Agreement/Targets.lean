import FileDepot.Proofs.Agreement.Tasks

/-!
# Legal targets

A path is a legal target when a file can be put there: its names are legal for the system, no directory
is at its place, and all that is on the way to it are directories (`Local.IsTarget`). A store in memory
takes every such path. A store on disk goes through a scratch file, whose name is ten bytes longer than
that of the target: it takes a legal target exactly when that leaves room for as many bytes, in the name
and in the whole path (`Local.HasMargin`, `Local.write_target`).
-/

namespace FileDepot.Local

open Disk Location FileDepot.Path Text

variable {s : Local} {d : Disk} {l : Location} {names : List String}

/-- Names below the root that a file can be put at. -/
structure IsTarget (s : Local) (d : Disk) (names : List String) : Prop where
  /-- there is a name -/
  named : names ≠ []
  /-- each can stand in a directory -/
  proper : IsProper names
  /-- their path is read as it is written -/
  clean : IsClean (join names)
  /-- no name is too long, and neither is the whole path -/
  within : Within (s.root ++ names)
  /-- no directory is at their place -/
  vacant : d.at? (s.root ++ names) ≠ some .directory
  /-- what is on the way is a directory, or nothing yet -/
  ancestors : ∀ k, k <+: (s.root ++ names).parent → d.at? k = none ∨ d.at? k = some .directory

/-- Eight characters of one byte that can end the name of a scratch file. -/
structure IsEnding (ending : String) : Prop where
  /-- they hold no `/` -/
  no_slash : '/' ∉ ending.toList
  /-- they hold no NUL character -/
  no_nul : '\x00' ∉ ending.toList
  /-- they take eight bytes -/
  size : ending.utf8ByteSize = 8

/-- The name and the whole path may grow by the bytes that the name of a scratch file has more. -/
structure HasMargin (l : Location) : Prop where
  /-- the name may grow -/
  name : l.name.utf8ByteSize + scratchExtra ≤ maxName
  /-- the path may grow -/
  text : l.text.utf8ByteSize + scratchExtra ≤ maxPath

theorem hasMargin_iff : HasMargin l ↔
    l.name.utf8ByteSize + scratchExtra ≤ maxName ∧ l.text.utf8ByteSize + scratchExtra ≤ maxPath :=
  ⟨fun h => ⟨h.name, h.text⟩, fun ⟨hname, htext⟩ => ⟨hname, htext⟩⟩

instance (l : Location) : Decidable (HasMargin l) := decidable_of_iff' _ hasMargin_iff

/-! ## The scratch file -/

/-- The name of a scratch file is ten bytes longer. -/
theorem IsEnding.size_name (h : IsEnding s.scratch) (l : Location) :
    (s.scratchPlace l).name.utf8ByteSize = l.name.utf8ByteSize + scratchExtra := by
  rw [utf8ByteSize_scratchName, h.size, scratchExtra]

/-- The path of a scratch file is ten bytes longer. -/
theorem IsEnding.size_text (h : IsEnding s.scratch) (hnil : l ≠ []) :
    (s.scratchPlace l).text.utf8ByteSize = l.text.utf8ByteSize + scratchExtra := by
  rw [utf8ByteSize_scratchPlace s hnil, h.size, scratchExtra]

/-- There is room for the scratch file where the target has a margin. -/
theorem HasMargin.hasRoom (h : HasMargin l) (hending : IsEnding s.scratch) (hl : Within l)
    (hproper : IsProper l) (hnil : l ≠ []) (hfree : d.at? (s.scratchPlace l) = none) :
    HasRoom s d l :=
  hasRoom_of_sizes (hproper.name hnil) hl hending.no_slash hending.no_nul hfree
    ((hending.size_name l).symm ▸ h.name) ((hending.size_text hnil).symm ▸ h.text)

/-- Without a margin, the name of the scratch file is too long, or its path. -/
theorem tooLong_of_not_hasMargin (h : ¬ HasMargin l) (hending : IsEnding s.scratch) (hnil : l ≠ []) :
    maxName < (s.scratchPlace l).name.utf8ByteSize ∨ maxPath < (s.scratchPlace l).text.utf8ByteSize := by
  rw [hending.size_name, hending.size_text hnil]
  rw [hasMargin_iff] at h
  omega

/-! ## Writing to a legal target -/

namespace IsTarget

variable (h : s.IsTarget d names)

include h

theorem ne_nil : s.root ++ names ≠ [] := by simp [h.named]

/-- No file is on the way to a target. -/
theorem not_blocked : ¬ d.Blocked (s.root ++ names).parent := by
  rintro ⟨k, hk, hfile⟩
  rcases h.ancestors k hk with hnone | hdir
  · exact hfile (bytes?_of_none hnone)
  · exact hfile (bytes?_of_directory hdir)

variable (htree : d.IsTree) (hroot : d.at? s.root = some .directory) (hlinks : s.LinkFree d)

include htree hroot hlinks

/-- A target is real. -/
theorem isReal : d.IsReal (s.root ++ names) := by
  refine hlinks.isReal htree hroot (fun n hn => ?_) (List.prefix_append ..)
  rcases List.mem_append.mp hn with hn | hn
  · exact (isReal_root htree hroot).proper n hn
  · exact h.proper n hn

/-- A target is where its path leads. -/
theorem realPlace : s.realPlace d (join names) = .ok (s.root ++ names) :=
  realPlace_join (isReal_root htree hroot).proper (h.isReal htree hroot hlinks) h.clean

variable (hending : IsEnding s.scratch)

include hending

/-- A target with a margin takes what its contents give. Only where reading them fails is no file stored. -/
theorem write_margin (hmargin : HasMargin (s.root ++ names))
    (hfree : d.at? (s.scratchPlace (s.root ++ names)) = none) (content : ByteReader) :
    match content.drainBlocks with
    | .ok data => ∃ e, s.write d (join names) content = (.ok (s.root ++ names), e) ∧
        Stored d e (s.root ++ names) (.file data s.now)
    | .error f => ∃ e, s.write d (join names) content = (.error f, e) ∧
        Stored d e (s.root ++ names).parent .directory := by
  have hreal := h.isReal htree hroot hlinks
  have hplace := h.realPlace htree hroot hlinks
  have hroom := hmargin.hasRoom hending h.within hreal.proper h.ne_nil hfree
  split
  · rename_i data hdata
    exact write_open htree hroot hreal h.within hplace h.vacant h.not_blocked hroom hdata
  · rename_i f hfault
    exact write_unread htree hroot hreal h.within hplace h.vacant h.not_blocked hroom hfault

/-- A target without a margin is refused. Only the directories on the way are made. -/
theorem write_cramped (hcramped : ¬ HasMargin (s.root ++ names)) (content : ByteReader) :
    ∃ e, s.write d (join names) content =
        (.error (.disk ⟨.tooLong, (s.scratchPlace (s.root ++ names)).text⟩), e) ∧
      Stored d e (s.root ++ names).parent .directory :=
  write_tooLong htree hroot (h.isReal htree hroot hlinks) h.within (h.realPlace htree hroot hlinks)
    h.vacant h.not_blocked (tooLong_of_not_hasMargin hcramped hending h.ne_nil) content

end IsTarget

/-- **Legal targets.** Let no link be on a disk below an existing root, and let a path be a legal target
there, in a directory that is there or any number of directories below one. A write to it stores what its
contents give if the name and the path leave ten bytes for the name of the scratch file. Otherwise every
write is refused, as the scratch file would be too long. No file is lost or changed by a write that fails:
all it leaves are directories on the way. -/
theorem write_target (htree : d.IsTree) (hroot : d.at? s.root = some .directory)
    (hlinks : s.LinkFree d) (htarget : s.IsTarget d names) (hending : IsEnding s.scratch)
    (hfree : d.at? (s.scratchPlace (s.root ++ names)) = none) (content : ByteReader) :
    let l := s.root ++ names
    let written := s.write d (join names) content
    if HasMargin l then
      match content.drainBlocks with
      | .ok data => written.1 = .ok l ∧ Stored d written.2 l (.file data s.now)
      | .error f => written.1 = .error f ∧ Stored d written.2 l.parent .directory
    else
      written.1 = .error (.disk ⟨.tooLong, (s.scratchPlace l).text⟩) ∧
        Stored d written.2 l.parent .directory := by
  intro l written
  by_cases hmargin : HasMargin l
  · have hmatch := htarget.write_margin htree hroot hlinks hending hmargin hfree content
    rw [if_pos hmargin]
    cases hread : content.drainBlocks with
    | ok data =>
      rw [hread] at hmatch
      obtain ⟨e, hwrite, hstored⟩ := hmatch
      have hwritten : written = (.ok l, e) := hwrite
      rw [hwritten]
      exact ⟨rfl, hstored⟩
    | error f =>
      rw [hread] at hmatch
      obtain ⟨e, hwrite, hstored⟩ := hmatch
      have hwritten : written = (.error f, e) := hwrite
      rw [hwritten]
      exact ⟨rfl, hstored⟩
  · obtain ⟨e, hwrite, hstored⟩ := htarget.write_cramped htree hroot hlinks hending hmargin content
    have hwritten : written = (.error (.disk ⟨.tooLong, (s.scratchPlace l).text⟩), e) := hwrite
    rw [if_neg hmargin, hwritten]
    exact ⟨rfl, hstored⟩

/-! ## On a bare disk -/

theorem linkFree_bareDisk (s : Local) : s.LinkFree bareDisk := fun l target _ hlink => by
  by_cases hnil : l = []
  · simp [hnil] at hlink
  · have hmem := (at?_ne_none_iff hnil).mp (by rw [hlink]; nofun)
    have hroot : bareDisk.at? ["root"] = some .directory := by decide
    rw [List.mem_singleton.mp hmem, hroot] at hlink
    cases hlink

/-- Legal names below an empty root are a target. -/
theorem isTarget_bareDisk {s : Local} (hroot : s.root = ["root"]) (hnames : Legal names)
    (hne : names ≠ []) (hsize : (text (["root"] ++ names)).utf8ByteSize ≤ maxPath) :
    s.IsTarget bareDisk names := by
  refine ⟨hne, hnames.proper, hnames.isClean_join, ⟨fun n hn => ?_, hroot ▸ hsize⟩, ?_, fun k _ => ?_⟩
  · rw [hroot] at hn
    rcases List.mem_cons.mp hn with rfl | hn
    · decide
    · exact (hnames n hn).size
  · rw [hroot, at?_bareDisk (by simpa using List.length_pos_of_ne_nil hne)]
    nofun
  · by_cases hnil : k = []
    · exact .inr (hnil ▸ at?_nil _)
    · by_cases hk : bareDisk.at? k = none
      · exact .inl hk
      · rw [List.mem_singleton.mp ((at?_ne_none_iff hnil).mp hk)]
        exact .inr (by decide)

/-- A text is stored two directories below an empty root. -/
theorem write_target_nested :
    let s : Local := ⟨["root"], ⟨0⟩, "xxxxxxxx"⟩
    let names := ["a", "b", "c"]
    let l : Location := ["root", "a", "b", "c"]
    let written := s.write bareDisk (join names) (.bytes [120])
    bareDisk.IsTree ∧ bareDisk.at? s.root = some .directory ∧ s.LinkFree bareDisk ∧
      s.IsTarget bareDisk names ∧ IsEnding s.scratch ∧ bareDisk.at? (s.scratchPlace l) = none ∧
      HasMargin l ∧ written.1 = .ok l ∧ Stored bareDisk written.2 l (.file [120] ⟨0⟩) := by
  intro s names l written
  have htree : bareDisk.IsTree := by decide +kernel
  have hroot : bareDisk.at? s.root = some .directory := by decide
  have hnames : Legal names := by decide +kernel
  have htarget : s.IsTarget bareDisk names :=
    isTarget_bareDisk rfl hnames (by decide) (by decide +kernel)
  have hending : IsEnding s.scratch := ⟨by decide +kernel, by decide +kernel, by decide +kernel⟩
  have hfree : bareDisk.at? (s.scratchPlace l) = none := at?_bareDisk (by decide +kernel)
  have hmargin : HasMargin (s.root ++ names) := by decide +kernel
  have hwritten := write_target htree hroot (linkFree_bareDisk s) htarget hending hfree (.bytes [120])
  dsimp only at hwritten
  rw [if_pos hmargin] at hwritten
  exact ⟨htree, hroot, linkFree_bareDisk s, htarget, hending, hfree, hmargin, hwritten⟩

/-- An empty store in memory takes contents at any legal names. -/
theorem write_empty (clock : Nat → Moment) (hnames : Legal names) (hne : names ≠ []) (data : Bytes) :
    ((Memory.empty clock).write (join names) (.bytes data)).1 = .ok (join names, data.length) := by
  have hnone (q : String) : (Memory.empty clock).files.contains q = false := by
    simp [Memory.empty, Catalog.contains]
  have hdir : ¬ (Memory.empty clock).isDirectory (join names) = true := by
    rw [Memory.isDirectory_iff, join_eq_empty_iff hnames.isSegment]
    rintro (hnil | ⟨q, hq, -⟩)
    · exact hne hnil
    · rw [hnone] at hq
      cases hq
  have habove : ¬ (Memory.ancestors (join names)).any (Memory.empty clock).files.contains = true := by
    simp [hnone]
  rw [Memory.write_normal (normalize_join_legal hnames), if_neg hdir, if_neg habove]

/-- A name of 246 letters is legal, and a store in memory takes a text there. A store on disk refuses it:
the name of its scratch file would be one byte too long. -/
theorem legal_target_refused :
    let s : Local := ⟨["root"], ⟨0⟩, "xxxxxxxx"⟩
    let names := [letters 246]
    let l : Location := ["root", letters 246]
    bareDisk.IsTree ∧ bareDisk.at? s.root = some .directory ∧ s.LinkFree bareDisk ∧
      s.IsTarget bareDisk names ∧ IsEnding s.scratch ∧ bareDisk.at? (s.scratchPlace l) = none ∧
      (s.write bareDisk (join names) (.bytes [120])).1 =
        .error (.disk ⟨.tooLong, (s.scratchPlace l).text⟩) ∧
      ((Memory.empty fun n => ⟨n⟩).write (join names) (.bytes [120])).1 = .ok (join names, 1) := by
  intro s names l
  have htree : bareDisk.IsTree := by decide +kernel
  have hroot : bareDisk.at? s.root = some .directory := by decide
  have hnames : Legal names := fun n hn =>
    List.mem_singleton.mp hn ▸ isLegal_letters (by decide) (by decide)
  have hsize : l.text.utf8ByteSize = 252 := by
    have hdir : ("root" : String).utf8ByteSize = 4 := rfl
    rw [utf8ByteSize_text (by simp [l])]
    simp only [l, byteSize_cons, byteSize_nil, utf8ByteSize_letters, hdir]
  have htarget : s.IsTarget bareDisk names :=
    isTarget_bareDisk rfl hnames (List.cons_ne_nil _ _) (Nat.le_trans (Nat.le_of_eq hsize) (by decide))
  have hending : IsEnding s.scratch := ⟨by decide +kernel, by decide +kernel, by decide +kernel⟩
  have hfree : bareDisk.at? (s.scratchPlace l) = none := at?_bareDisk (by simp [scratchPlace, parent, l])
  have hcramped : ¬ HasMargin (s.root ++ names) := fun hmargin => by
    have hname := hmargin.name
    rw [name_concat, utf8ByteSize_letters] at hname
    exact absurd hname (by decide)
  obtain ⟨e, hwrite, -⟩ := htarget.write_cramped htree hroot (linkFree_bareDisk s) hending hcramped
    (.bytes [120])
  refine ⟨htree, hroot, linkFree_bareDisk s, htarget, hending, hfree, by rw [hwrite]; rfl, ?_⟩
  exact write_empty _ hnames (List.cons_ne_nil _ _) [120]

end FileDepot.Local
