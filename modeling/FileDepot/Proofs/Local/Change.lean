import FileDepot.Proofs.Local.Footprint
import FileDepot.Proofs.Local.Plain

/-!
# Changes to a plain disk

What a write and a removal do at a location is told by what is there and on the way to it.

* **write** — over a directory and below a file nothing is written (`write_over`, `write_blocked`).
  Anywhere else the contents are stored, with the directories on the way, if the name of the scratch file
  is not too long (`write_open`); if it is, or the contents cannot be read, only the directories are made
  (`write_tooLong`, `write_unread`);
* **removal** — a file is taken away, and so is a directory with nothing in it (`remove_file`,
  `remove_directory`).

A plain disk stays plain.
-/

namespace FileDepot.Local

open Disk Location FileDepot.Path Text

variable {s : Local} {d e : Disk} {path : String} {root l k : Location} {names : List String}

/-- One disk comes from another when a node is put at a location, with directories on the way to it. -/
def Stored (d e : Disk) (l : Location) (n : Node) : Prop :=
  ∀ k, e.at? k = if k = l then some n else if k <+: l then some .directory else d.at? k

theorem stored_directory_iff :
    Stored d e l .directory ↔ ∀ k, e.at? k = if k <+: l then some .directory else d.at? k := by
  refine forall_congr' fun k => ?_
  by_cases hk : k = l
  · simp [hk]
  · rw [if_neg hk]

/-! ## Making directories -/

/-- Below a file no directories are made. -/
theorem makeDirectories_blocked (htree : d.IsTree) (hreal : d.IsReal l) (hl : Within l)
    (hblocked : d.Blocked l) (fuel : Nat) :
    ∃ f, makeDirectories d (fuel + 1) l = (.error (.disk f), d) := by
  have hdir : d.at? l ≠ some .directory := fun hdir => not_blocked_of_directory htree hdir hblocked
  have hsettle (t : Disk.Fault) : makeDirectories.settle d l t = (.error (.disk t), d) := by
    rw [makeDirectories.settle, isDirectory_real htree hreal hl]
    simp [hdir]
  rcases vacancy_real_cases htree hreal hl with
    ⟨-, h⟩ | ⟨-, -, h⟩ | ⟨-, hopen, -⟩ | ⟨-, hopen, -⟩
  · refine ⟨⟨.occupied, l.text⟩, ?_⟩
    simp only [makeDirectories, makeDirectory, h, Except.map, hsettle]
  · refine ⟨⟨.notDirectory, l.text⟩, ?_⟩
    simp only [makeDirectories, makeDirectory, h, Except.map, hsettle]
  · exact absurd hblocked hopen
  · exact absurd hblocked hopen

/-- A new entry goes to its place in a directory. -/
theorem vacancy_of_parent (htree : d.IsTree) (hreal : d.IsReal l) (hl : Within l)
    (hnone : d.at? l = none) (hparent : d.at? l.parent = some .directory) : d.vacancy l = .ok l := by
  have hne : l ≠ [] := by
    rintro rfl
    simp at hnone
  have hlast := parent_append_name hne
  rcases vacancy_real_cases htree hreal hl with
    ⟨hnode, -⟩ | ⟨-, hblocked, -⟩ | ⟨-, -, hparent', -⟩ | ⟨-, -, -, h⟩
  · exact absurd hnone hnode
  · rw [← hlast] at hblocked hnone
    exact absurd ((blocked_concat_iff hnone).mp hblocked) (not_blocked_of_directory htree hparent)
  · simp [hparent] at hparent'
  · exact h

/-- A new entry is refused when its name is too long, or its place. -/
theorem vacancy_tooLong (htree : d.IsTree) (hreal : d.IsReal l.parent) (hl : Within l.parent)
    (hparent : d.at? l.parent = some .directory)
    (hlong : maxName < l.name.utf8ByteSize ∨ maxPath < l.text.utf8ByteSize) :
    d.vacancy l = .error ⟨.tooLong, l.text⟩ := by
  rcases walk_real_cases htree hreal hl.name maxLinks with ⟨-, hwalk⟩ | ⟨hnone, -⟩ | ⟨hnone, -⟩
  · rcases hlong with hname | htext
    · simp [vacancy, hwalk, hparent, hname]
    · simp [vacancy, htext]
  · simp [hparent] at hnone
  · simp [hparent] at hnone

/-- Making directories on the way makes no links. -/
theorem isReal_of_made (hreal : d.IsReal l) (h : Stored d e k .directory) : e.IsReal l := by
  refine ⟨hreal.proper, fun j hj target hlink => ?_⟩
  rw [stored_directory_iff.mp h] at hlink
  split at hlink
  · cases hlink
  · exact hreal.unlinked j hj target hlink

/-- What is there, without a file on the way or at it, is a directory. -/
theorem directory_of_open (hreal : d.IsReal l) (hopen : ¬ d.Blocked l) (hnode : d.at? l ≠ none) :
    d.at? l = some .directory := by
  cases hat : d.at? l with
  | none => exact absurd hat hnode
  | some node =>
    cases node with
    | directory => rfl
    | link target => exact absurd hat (hreal.unlinked l (List.prefix_refl l) target)
    | file data modified => exact absurd ⟨l, List.prefix_refl l, by simp [bytes?, hat]⟩ hopen

/-- A directory that is there has directories on the way. -/
theorem stored_refl (htree : d.IsTree) (hdir : d.at? l = some .directory) : Stored d d l .directory := by
  refine stored_directory_iff.mpr fun k => ?_
  split
  · rename_i hk
    by_cases hne : k = l
    · rw [hne, hdir]
    · exact htree.directory_of_prefix hk hne (by simp [hdir])
  · rfl

/-- A directory in one that was made is made, too. -/
theorem Stored.concat (h : Stored d e l .directory) (name : String) :
    Stored d (e.set (l ++ [name]) .directory) (l ++ [name]) .directory := by
  refine stored_directory_iff.mpr fun k => ?_
  rw [at?_set (by simp), stored_directory_iff.mp h]
  by_cases hk : k = l ++ [name]
  · simp [hk]
  · simp [hk, List.prefix_concat_iff]

/-- Where no file is on the way, every place on the way is made a directory. -/
theorem makeDirectories_open {fuel : Nat} (htree : d.IsTree) (hreal : d.IsReal l) (hl : Within l)
    (hopen : ¬ d.Blocked l) (hfuel : l.length < fuel) :
    ∃ e, makeDirectories d fuel l = (.ok (), e) ∧ Stored d e l .directory := by
  induction fuel generalizing l with
  | zero => omega
  | succ fuel ih =>
    by_cases hnode : d.at? l = none
    · obtain ⟨dir, name, rfl⟩ : ∃ dir name, l = dir ++ [name] :=
        ⟨l.parent, l.name, (parent_append_name (by rintro rfl; simp at hnode)).symm⟩
      rcases vacancy_real_cases htree hreal hl with
        ⟨hnode', -⟩ | ⟨-, hblocked, -⟩ | ⟨-, -, -, h⟩ | ⟨-, -, hparent, h⟩
      · exact absurd hnode hnode'
      · exact absurd hblocked hopen
      · -- the directories above are made first
        obtain ⟨e, hmade, hstored⟩ := ih (by simpa using hreal.parent)
          (hl.of_prefix (List.prefix_append ..)) (fun h => hopen ((blocked_concat_iff hnode).mpr h))
          (by simpa using hfuel)
        have hat := stored_directory_iff.mp hstored
        have hgrown := (grown_makeDirectories htree fuel (by simpa using hreal.proper.parent :
          IsProper dir)).tree
        rw [hmade] at hgrown
        have hnone : e.at? (dir ++ [name]) = none := by
          rw [hat, if_neg (not_concat_isPrefix dir name), hnode]
        have hvacancy := vacancy_of_parent hgrown (isReal_of_made hreal hstored) hl hnone (by simp [hat])
        refine ⟨e.set (dir ++ [name]) .directory, ?_, hstored.concat name⟩
        simp [makeDirectories, makeDirectory, h, Except.map, hmade, hvacancy]
      · rw [parent_concat] at hparent
        refine ⟨d.set (dir ++ [name]) .directory, ?_, (stored_refl htree hparent).concat name⟩
        simp only [makeDirectories, makeDirectory, h, Except.map]
    · -- it is there already
      have hdir := directory_of_open hreal hopen hnode
      have hoccupied : d.vacancy l = .error ⟨.occupied, l.text⟩ := by
        rcases vacancy_real_cases htree hreal hl with ⟨-, h⟩ | ⟨hnone, -⟩ | ⟨hnone, -⟩ | ⟨hnone, -⟩
        · exact h
        all_goals exact absurd hnone hnode
      refine ⟨d, ?_, stored_refl htree hdir⟩
      simp only [makeDirectories, makeDirectory, hoccupied, Except.map, makeDirectories.settle,
        isDirectory_real htree hreal hl, hdir, decide_true]

/-! ## Writing -/

/-- There is room for the scratch file beside a target. -/
structure HasRoom (s : Local) (d : Disk) (l : Location) : Prop where
  /-- its name can stand in a directory -/
  name : IsName ("." ++ l.name ++ "." ++ s.scratch)
  /-- nothing is at its place -/
  free : d.at? (s.scratchPlace l) = none
  /-- its place is not too long -/
  within : Within (s.scratchPlace l)

/-- The name of a scratch file can stand in a directory. -/
theorem isName_scratch {name ending : String} (hname : IsName name) (hslash : '/' ∉ ending.toList)
    (hnul : '\x00' ∉ ending.toList) : IsName ("." ++ name ++ "." ++ ending) := by
  have hmem (c : Char) (hc : c ≠ '.') (hn : c ∉ name.toList) (he : c ∉ ending.toList) :
      c ∉ ("." ++ name ++ "." ++ ending).toList := by
    simp [hc, hn, he]
  have hne (other : String) (hother : other.toList.length ≤ 2) :
      "." ++ name ++ "." ++ ending ≠ other := by
    rintro rfl
    have hpos : 0 < name.toList.length := List.length_pos_of_ne_nil (by simpa using hname.ne_empty)
    have hdot : (".".toList).length = 1 := rfl
    simp only [String.toList_append, List.length_append, hdot] at hother
    omega
  exact ⟨hne _ (by decide), hne _ (by decide), hne _ (by decide),
    hmem _ (by decide) hname.no_slash hslash, hmem _ (by decide) hname.no_nul hnul⟩

/-- The place of the scratch file is longer by two dots and the ending. -/
theorem utf8ByteSize_scratchPlace (s : Local) (hnil : l ≠ []) :
    (s.scratchPlace l).text.utf8ByteSize = l.text.utf8ByteSize + s.scratch.utf8ByteSize + 2 := by
  have hdot : (".".utf8ByteSize) = 1 := rfl
  conv_rhs => rw [← parent_append_name hnil]
  rw [scratchPlace, utf8ByteSize_text (by simp), utf8ByteSize_text (by simp)]
  simp only [byteSize_append, byteSize_cons, byteSize_nil, String.utf8ByteSize_append, hdot]
  omega

/-- The name of the scratch file is longer by as many bytes. -/
theorem utf8ByteSize_scratchName (s : Local) (l : Location) :
    (s.scratchPlace l).name.utf8ByteSize = l.name.utf8ByteSize + s.scratch.utf8ByteSize + 2 := by
  have hdot : (".".utf8ByteSize) = 1 := rfl
  rw [scratchPlace, name_concat]
  simp only [String.utf8ByteSize_append, hdot]
  omega

/-- There is room for a scratch file whose place is free, if neither its name nor its place is too long. -/
theorem hasRoom_of_sizes (hname : IsName l.name) (hl : Within l) (hslash : '/' ∉ s.scratch.toList)
    (hnul : '\x00' ∉ s.scratch.toList) (hfree : d.at? (s.scratchPlace l) = none)
    (hsize : (s.scratchPlace l).name.utf8ByteSize ≤ maxName)
    (htext : (s.scratchPlace l).text.utf8ByteSize ≤ maxPath) : HasRoom s d l := by
  refine ⟨isName_scratch hname hslash hnul, hfree, fun n hn => ?_, htext⟩
  rw [scratchPlace, List.mem_append, List.mem_singleton] at hn
  rcases hn with hn | rfl
  · exact hl.name n (List.dropLast_subset _ hn)
  · rwa [scratchPlace, name_concat] at hsize

/-- A place where nothing is is real when its directory is. -/
theorem isReal_concat {name : String} (hreal : d.IsReal l) (hname : IsName name)
    (hnone : d.at? (l ++ [name]) = none) : d.IsReal (l ++ [name]) := by
  refine ⟨hreal.proper.concat hname, fun k hk target hlink => ?_⟩
  rcases List.prefix_concat_iff.mp hk with rfl | hk
  · rw [hnone] at hlink
    cases hlink
  · exact hreal.unlinked k hk target hlink

/-- Nothing is at the place of the scratch file once the directories on the way are made. -/
theorem HasRoom.free_of_made (h : HasRoom s d l) (hmade : Stored d e l.parent .directory) :
    e.at? (s.scratchPlace l) = none := by
  have hbeside : ¬ s.scratchPlace l <+: l.parent := not_concat_isPrefix _ _
  rw [stored_directory_iff.mp hmade, if_neg hbeside, h.free]

/-- A scratch file for which there is room goes beside its target. -/
theorem HasRoom.vacancy (h : HasRoom s d l) (hmade : Stored d e l.parent .directory) (hetree : e.IsTree)
    (hreal : d.IsReal l) : e.vacancy (s.scratchPlace l) = .ok (s.scratchPlace l) := by
  have hparent : (s.scratchPlace l).parent = l.parent := by rw [scratchPlace, parent_concat]
  refine vacancy_of_parent hetree ?_ h.within (h.free_of_made hmade)
    (by simp [hparent, stored_directory_iff.mp hmade])
  exact isReal_concat (isReal_of_made hreal.parent hmade) h.name (h.free_of_made hmade)

section

variable (htree : d.IsTree) (hroot : d.at? s.root = some .directory) (hreal : d.IsReal l)
  (hl : Within l) (hplace : s.realPlace d path = .ok l)

include htree hreal hl hplace

/-- Over a directory nothing is written. -/
theorem write_over (hdir : d.at? l = some .directory) (content : ByteReader) :
    s.write d path content = (.error (.memory (.overDirectory path)), d) := by
  simp [write, hplace, isDirectory_real htree hreal hl, hdir]

include hroot

/-- Below a file nothing is written. -/
theorem write_blocked (hblocked : d.Blocked l.parent) (content : ByteReader) :
    ∃ f, s.write d path content = (.error (.disk f), d) := by
  have hdir : d.at? l ≠ some .directory := fun hdir => by
    obtain ⟨k, hk, hfile⟩ := hblocked
    exact not_blocked_of_directory htree hdir ⟨k, hk.trans (List.dropLast_prefix l), hfile⟩
  have hne : l ≠ s.root := fun h => hdir (h ▸ hroot)
  obtain ⟨f, hmake⟩ := makeDirectories_blocked htree hreal.parent
    (hl.of_prefix (List.dropLast_prefix l)) hblocked l.length
  refine ⟨f, ?_⟩
  simp [write, hplace, hne, isDirectory_real htree hreal hl, hdir, hmake]

/-- Anywhere else the directories on the way are made, and then the contents replace what is there. -/
theorem write_made (hdir : d.at? l ≠ some .directory) (hopen : ¬ d.Blocked l.parent)
    (content : ByteReader) :
    ∃ e, Stored d e l.parent .directory ∧ e.IsTree ∧
      s.write d path content =
        ((s.replace e l content).1.map fun _ => l, (s.replace e l content).2) := by
  have hne : l ≠ s.root := fun h => hdir (h ▸ hroot)
  have hfuel : l.parent.length < l.length + 1 := by
    rw [parent, List.length_dropLast]
    omega
  obtain ⟨e, hmake, hstored⟩ := makeDirectories_open htree hreal.parent
    (hl.of_prefix (List.dropLast_prefix l)) hopen hfuel
  have hgrown := (grown_makeDirectories htree (l.length + 1) hreal.proper.parent).tree
  rw [hmake] at hgrown
  refine ⟨e, hstored, hgrown, ?_⟩
  simp only [write, hplace, if_neg hne, isDirectory_real htree hreal hl, hdir, decide_false, hmake]
  rcases s.replace e l content with ⟨_ | _, _⟩ <;> rfl

/-- Where the name of the scratch file is too long, or its place, only the directories on the way are
made. -/
theorem write_tooLong (hdir : d.at? l ≠ some .directory) (hopen : ¬ d.Blocked l.parent)
    (hlong : maxName < (s.scratchPlace l).name.utf8ByteSize ∨
      maxPath < (s.scratchPlace l).text.utf8ByteSize) (content : ByteReader) :
    ∃ e, s.write d path content = (.error (.disk ⟨.tooLong, (s.scratchPlace l).text⟩), e) ∧
      Stored d e l.parent .directory := by
  obtain ⟨e, hmade, hetree, hwrite⟩ := write_made htree hroot hreal hl hplace hdir hopen content
  have hparent : (s.scratchPlace l).parent = l.parent := by rw [scratchPlace, parent_concat]
  have hscratch : e.vacancy (s.scratchPlace l) = .error ⟨.tooLong, (s.scratchPlace l).text⟩ :=
    vacancy_tooLong hetree (hparent ▸ isReal_of_made hreal.parent hmade)
      (hparent ▸ hl.of_prefix (List.dropLast_prefix l))
      (by simp [hparent, stored_directory_iff.mp hmade]) hlong
  refine ⟨e, ?_, hmade⟩
  simp only [hwrite, replace, hscratch, Except.map]

/-- Where there is room for the scratch file, the contents are stored. -/
theorem write_open (hdir : d.at? l ≠ some .directory) (hopen : ¬ d.Blocked l.parent)
    (hroom : HasRoom s d l) {content : ByteReader} {data : Bytes}
    (hdata : content.drainBlocks = .ok data) :
    ∃ e, s.write d path content = (.ok l, e) ∧ Stored d e l (.file data s.now) := by
  have hnil : l ≠ [] := fun h => hdir (by simp [h])
  obtain ⟨e, hmade, hetree, hwrite⟩ := write_made htree hroot hreal hl hplace hdir hopen content
  have hat := stored_directory_iff.mp hmade
  have hbeside : ¬ s.scratchPlace l <+: l.parent := not_concat_isPrefix _ _
  have hparent : (s.scratchPlace l).parent = l.parent := by rw [scratchPlace, parent_concat]
  have hscratch := hroom.vacancy hmade hetree hreal
  refine ⟨((e.set (s.scratchPlace l) (.file [] s.now)).unset (s.scratchPlace l)).set l
    (.file data s.now), ?_, fun k => ?_⟩
  · simp only [hwrite, replace, hscratch, hdata, hparent, parent_append_name hnil, Except.map]
  · have hne : s.scratchPlace l ≠ [] := by simp [scratchPlace]
    rw [at?_set hnil, at?_unset hne, at?_set hne, hat]
    by_cases hk : k = l
    · simp [hk]
    · have habove := prefix_iff_parent hnil hk
      rw [if_neg hk, if_neg hk]
      by_cases hks : k = s.scratchPlace l
      · rw [if_pos hks, if_neg (habove.not.mpr (hks ▸ hbeside)), hks, hroom.free]
      · simp only [if_neg hks, habove]

/-- Where reading the contents fails, only the directories on the way are made. -/
theorem write_unread (hdir : d.at? l ≠ some .directory) (hopen : ¬ d.Blocked l.parent)
    (hroom : HasRoom s d l) {content : ByteReader} {f : Fault}
    (hfault : content.drainBlocks = .error f) :
    ∃ e, s.write d path content = (.error f, e) ∧ Stored d e l.parent .directory := by
  obtain ⟨e, hmade, hetree, hwrite⟩ := write_made htree hroot hreal hl hplace hdir hopen content
  have hscratch := hroom.vacancy hmade hetree hreal
  refine ⟨(e.set (s.scratchPlace l) (.file [] s.now)).unset (s.scratchPlace l), ?_, fun k => ?_⟩
  · simp only [hwrite, replace, hscratch, hfault, Except.map]
  · -- the scratch file is taken away again
    have hne : s.scratchPlace l ≠ [] := by simp [scratchPlace]
    rw [at?_unset hne, at?_set hne, ← hmade k]
    split
    · rename_i hk
      rw [hk, hroom.free_of_made hmade]
    · rfl

end

/-! ## Removing -/

section

variable (htree : d.IsTree) (hreal : d.IsReal l) (hl : Within l) (hplace : s.realPlace d path = .ok l)
  (hne : l ≠ s.root)

include htree hreal hl hplace hne

/-- Nothing is removed where nothing is. -/
theorem remove_none (hnone : d.at? l = none) : s.remove d path = (.ok none, d) := by
  simp [remove, hplace, hne, exists?_real htree hreal hl, hnone]

/-- A file is taken away. -/
theorem remove_file (hfile : d.bytes? l ≠ none) : s.remove d path = (.ok (some l), d.unset l) := by
  obtain ⟨data, hdata⟩ := Option.ne_none_iff_exists'.mp hfile
  obtain ⟨modified, hnode⟩ := bytes?_eq_some_iff.mp hdata
  have hentry := entryOf_real htree hreal hl (fun h => by simp [h] at hnode) (by simp [hnode])
  simp [remove, hplace, hne, exists?_real htree hreal hl, hnode, remove.takeAway,
    isDirectory_real htree hreal hl, removeFile, hentry]

/-- A directory is taken away when nothing is in it. -/
theorem remove_directory (hnil : l ≠ []) (hdir : d.at? l = some .directory) :
    s.remove d path = if d.children l = [] then (.ok (some l), d.unset l)
      else (.error (.disk ⟨.notEmpty, l.text⟩), d) := by
  have hentry := entryOf_real htree hreal hl hnil (by simp [hdir])
  by_cases hempty : d.children l = [] <;>
    simp [remove, hplace, hne, exists?_real htree hreal hl, hdir, remove.takeAway,
      isDirectory_real htree hreal hl, removeDirectory, hentry, hempty]

end

/-! ## What becomes of a plain disk -/

namespace Stored

variable {n : Node} (h : Stored d e l n)

include h

/-- Storing where no directory is, or a directory, keeps the tree. -/
theorem isTree (htree : d.IsTree) (hl : IsProper l)
    (hdir : d.at? l = some .directory → n = .directory) : e.IsTree := by
  refine ⟨fun k hk => ?_, fun k name hk => ?_⟩
  · rw [h] at hk
    split at hk
    · rename_i hkl
      exact hkl ▸ hl
    · split at hk
      · rename_i hin
        exact fun m hm => hl m (hin.subset hm)
      · exact htree.proper k hk
  · rw [h] at hk ⊢
    have hkl : k <+: k ++ [name] := List.prefix_append ..
    -- what is on the way to the new node is held by the way itself, all else as before
    by_cases hin : k ++ [name] <+: l
    · have hne : k ≠ l := fun hkl => not_concat_isPrefix l name (hkl ▸ hin)
      rw [if_neg hne, if_pos (hkl.trans hin)]
    · have hne : k ++ [name] ≠ l := fun hkl => hin (hkl ▸ List.prefix_refl _)
      rw [if_neg hne, if_neg hin] at hk
      have hheld := htree.held k name hk
      by_cases hkl : k = l
      · rw [if_pos hkl, hdir (hkl ▸ hheld)]
      · rw [if_neg hkl, hheld, ite_self]

/-- A disk stays plain when a file is stored, or a directory. -/
theorem plain (hplain : Plain root d) (hl : IsProper l) (hin : root <+: l) (hwithin : Within l)
    (hdir : d.at? l = some .directory → n = .directory) (hlink : ∀ target, n ≠ .link target) :
    Plain root e := by
  refine ⟨h.isTree hplain.tree hl hdir, ?_, fun k target hk hnode => ?_, fun k hk hnode => ?_⟩
  · rw [h, if_pos hin]
    split
    · rename_i hroot
      rw [hdir (hroot ▸ hplain.directory)]
    · rfl
  · rw [h] at hnode
    split at hnode
    · exact hlink target (Option.some.inj hnode)
    · split at hnode
      · cases hnode
      · exact hplain.linkFree k target hk hnode
  · rw [h] at hnode
    split at hnode
    · rename_i hkl
      exact hkl ▸ hwithin
    · split at hnode
      · rename_i hkl
        exact hwithin.of_prefix hkl
      · exact hplain.within k hk hnode

end Stored

/-- Making directories makes no files and takes none away. -/
theorem bytes?_of_made (h : Stored d e l .directory) (hopen : ¬ d.Blocked l) (k : Location) :
    e.bytes? k = d.bytes? k := by
  by_cases hin : k <+: l
  · rw [bytes?_of_directory (by rw [stored_directory_iff.mp h, if_pos hin])]
    by_contra hfile
    exact hopen ⟨k, hin, Ne.symm hfile⟩
  · rw [bytes?, stored_directory_iff.mp h, if_neg hin, bytes?]

/-- The files after one is stored are those before, and the new one. -/
theorem bytes?_of_stored {data : Bytes} {modified : Moment} (h : Stored d e l (.file data modified))
    (hopen : ¬ d.Blocked l.parent) (hnil : l ≠ []) (k : Location) :
    e.bytes? k = if k = l then some data else d.bytes? k := by
  by_cases hk : k = l
  · rw [if_pos hk]
    exact bytes?_eq_some_iff.mpr ⟨modified, by rw [h, if_pos hk]⟩
  · rw [if_neg hk]
    by_cases hin : k <+: l
    · rw [bytes?_of_directory (by rw [h, if_neg hk, if_pos hin])]
      by_contra hfile
      exact hopen ⟨k, (prefix_iff_parent hnil hk).mp hin, Ne.symm hfile⟩
    · rw [bytes?, h, if_neg hk, if_neg hin, bytes?]

/-- The files after one place is emptied are the others. -/
theorem bytes?_unset (hnil : l ≠ []) (k : Location) :
    (d.unset l).bytes? k = if k = l then none else d.bytes? k := by
  rw [bytes?, at?_unset hnil]
  split <;> simp_all [bytes?]

/-- A disk stays plain when a place below the root is emptied that nothing is below. -/
theorem Plain.unset (h : Plain root d) (hin : root <+: l) (hne : l ≠ root)
    (hbare : ∀ name, d.at? (l ++ [name]) = none) : Plain root (d.unset l) := by
  have hnil : l ≠ [] := by
    rintro rfl
    exact hne (List.prefix_nil.mp hin).symm
  refine ⟨h.tree.unset hnil hbare, ?_, fun k target hk hlink => ?_, fun k hk hnode => ?_⟩
  · rw [at?_unset hnil, if_neg (Ne.symm hne), h.directory]
  · rw [at?_unset hnil] at hlink
    split at hlink
    · cases hlink
    · exact h.linkFree k target hk hlink
  · rw [at?_unset hnil] at hnode
    split at hnode
    · exact absurd rfl hnode
    · exact h.within k hk hnode

end FileDepot.Local
