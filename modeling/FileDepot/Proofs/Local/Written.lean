import FileDepot.Proofs.Local.Footprint
import FileDepot.Proofs.Stream.Blocks

/-!
# What a write leaves behind

A write that succeeds puts the payload in one file, and that is all: what else was on the disk is as it was,
what is new are the directories on the way to that file (`Written`), and the scratch file is gone. The file
is the entry that the accepted location names, in the directory that the location above it leads to.
Where the path leads anywhere, that is the real location of the path (`write_effect`).
-/

namespace FileDepot.Local

open Disk Location Encoding

variable {s : Local} {d e : Disk} {path : String} {l place : Location} {content : ByteReader}

/-- What is on a disk after a node was put at a place. -/
structure Written (d e : Disk) (place : Location) (n : Node) : Prop where
  /-- the node is there -/
  there : e.at? place = some n
  /-- everything else that was on the disk is as it was -/
  kept : ∀ k, k ≠ place → d.at? k ≠ none → e.at? k = d.at? k
  /-- where nothing was, directories on the way to the place are new, and nothing else -/
  new : ∀ k, k ≠ place → d.at? k = none → e.at? k = if k <+: place then some .directory else none

/-- The scratch file has another name than the target. -/
theorem scratchIn_ne (s : Local) (l dir : Location) : s.scratchIn l dir ≠ dir ++ [l.name] := by
  intro h
  have hname := (List.append_singleton_inj.mp h).2
  have hlength := congrArg String.length hname
  have hdot : ("." : String).length = 1 := rfl
  simp only [String.length_append, hdot] at hlength
  omega

/-- Growing on the way to a directory and putting a node into it is writing the node. -/
theorem written_of_grown {dir : Location} {name : String} {e' : Disk} {n : Node}
    (hgrown : Grown d e l) (hleads : Leads e [] l dir) (hdir : e.at? dir = some .directory)
    (hat : ∀ k, e'.at? k = if k = dir ++ [name] then some n else e.at? k) :
    Written d e' (dir ++ [name]) n := by
  refine ⟨by rw [hat, if_pos rfl], fun k hk hnode => ?_, fun k hk hnone => ?_⟩
  · rw [hat, if_neg hk]
    by_contra hne
    exact hnode (hgrown.change k hne).1
  · have habove : k <+: dir ++ [name] ↔ k <+: dir := by
      rw [List.prefix_concat_iff, or_iff_right hk]
    rw [hat, if_neg hk]
    by_cases hin : k <+: dir
    · rw [if_pos (habove.mpr hin)]
      by_cases hkdir : k = dir
      · rw [hkdir, hdir]
      · exact hgrown.tree.directory_of_prefix hin hkdir (by simp [hdir])
    · rw [if_neg (habove.not.mpr hin)]
      by_contra hnode
      -- what grew is on the way to the directory
      obtain ⟨-, -, q, hq, hkq⟩ := hgrown.change k (by rwa [hnone])
      exact hin ((hgrown.leads hleads).unique hq ▸ hkq)

/-- A path that is written was accepted. -/
theorem accepted_of_written (h : s.write d path content = (.ok l, e)) :
    ∃ place, s.realPlace d path = .ok place := by
  cases hplace : s.realPlace d path with
  | error f => simp [write, hplace] at h
  | ok place => exact ⟨place, rfl⟩

/-- **Effect of a write.** Let a write succeed on any disk that is a tree, with links or without. Then all that
the payload gives, block by block, is in the file that is the entry named last by the accepted location, in
the directory that the location above leads to. All else that was on the disk is as it was, only missing
directories on the way to the file are new, and nothing is left of the scratch file, at whose place nothing was
before. Where the path has a real location, the file is there. What the payload gives is whatever it holds,
in pieces of any sizes; a text that can be written gives its written form. -/
theorem write_effect (s : Local) (d e : Disk) (path : String) (content : ByteReader) (l : Location)
    (htree : d.IsTree) (hroot : IsProper s.root) (h : s.write d path content = (.ok l, e)) :
    ∃ dir data, content.drainBlocks = .ok data ∧ s.realPlace d path = .ok l ∧
      Leads d [] l.parent dir ∧ Written d e (dir ++ [l.name]) (.file data s.now) ∧
      d.at? (s.scratchIn l dir) = none ∧ e.at? (s.scratchIn l dir) = none ∧
      (∀ k, Leads d [] (s.joined path) k → l = k ∧ dir ++ [l.name] = l) ∧
      (∀ bytes, content.Holds bytes → data = bytes) ∧
      ∀ c ∈ Codec.pointwise, ∀ text t, content = .ofText c text → text.Holds t → c.Writes t →
        data = c.written t := by
  obtain ⟨l', hplace⟩ := accepted_of_written h
  rcases write_cases htree hroot hplace content with ⟨f, herror, -⟩ |
    ⟨d', dir, data, hne, hgrown, hleads, hdir, hscratch, hdata, hok, hat⟩
  · rw [h] at herror
    cases herror
  rw [h] at hok hat
  obtain rfl := Except.ok.inj hok
  have hwritten := written_of_grown hgrown hleads hdir hat
  have hgone : e.at? (s.scratchIn l dir) = none := by
    rw [hat, if_neg (scratchIn_ne s l dir), hscratch]
  have hfree : d.at? (s.scratchIn l dir) = none := by
    by_contra hnode
    have hkept := hwritten.kept _ (scratchIn_ne s l dir) hnode
    exact hnode (hkept ▸ hgone)
  have htop : l ≠ [] := by
    rintro rfl
    exact hne (List.prefix_nil.mp (realPlace_spec hroot hplace).2).symm
  have hall {bytes : Bytes} (hbytes : content.Holds bytes) : data = bytes :=
    Except.ok.inj (hdata.symm.trans (ByteReader.drainBlocks_holds hbytes))
  refine ⟨dir, data, hdata, hplace, hgrown.leads hleads, hwritten, hfree, hgone,
    fun k => entry_of_leads hroot hplace htop (hgrown.leads hleads), fun bytes => hall,
    fun c hc text t htext ht hwrites => ?_⟩
  subst htext
  exact hall (ByteReader.holds_ofText hc ht hwrites)

/-- A disk with a directory below the root, a file in it and a link to it. -/
def linkedDisk : Disk :=
  ⟨⟨[(["root"], .directory), (["root", "real"], .directory), (["root", "link"], .link "real"),
    (["root", "real", "old"], .file [9] ⟨0⟩)], by decide⟩⟩

/-- The store below the root of that disk. -/
def linkedStore : Local := ⟨["root"], ⟨5⟩, "xxxxxxxx"⟩

/-- A payload that comes in pieces is written through a link into a new directory. -/
theorem write_effect_linked :
    let content := ByteReader.pieces [[1], [], [2, 3]]
    let e := (linkedStore.write linkedDisk "link/new/a" content).2
    let place := ["root", "real", "new", "a"]
    linkedDisk.IsTree ∧ linkedStore.write linkedDisk "link/new/a" content = (.ok place, e) ∧
      Written linkedDisk e place (.file [1, 2, 3] ⟨5⟩) ∧
      e.at? ["root", "real", "new"] = some .directory ∧
      e.at? ["root", "real", "old"] = some (.file [9] ⟨0⟩) ∧
      e.at? ["root", "real", "new", ".a.xxxxxxxx"] = none := by
  intro content e place
  have htree : linkedDisk.IsTree := by decide +kernel
  have hanswer : (linkedStore.write linkedDisk "link/new/a" content).1 = .ok place := by
    decide +kernel
  have hwrite : linkedStore.write linkedDisk "link/new/a" content = (.ok place, e) :=
    Prod.ext hanswer rfl
  obtain ⟨dir, data, -, -, -, hwritten, -, hgone, hreal, hdata, -⟩ := write_effect linkedStore linkedDisk e
    "link/new/a" content place htree (htree.proper _ (by decide)) hwrite
  have hleads : Leads linkedDisk [] (linkedStore.joined "link/new/a") place :=
    (real_iff (slashless_joined (htree.proper _ (by decide)) _)).mp (by decide +kernel)
  obtain ⟨-, hplace⟩ := hreal place hleads
  obtain rfl : data = [1, 2, 3] := hdata _ (.pieces _)
  obtain rfl : dir = ["root", "real", "new"] := (List.append_singleton_inj.mp hplace).1
  exact ⟨htree, hwrite, hwritten, (hwritten.new _ (by decide) (by decide)).trans (if_pos (by decide)),
    hwritten.kept _ (by decide) (by decide), hgone⟩

end FileDepot.Local
