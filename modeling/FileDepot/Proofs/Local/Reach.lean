import FileDepot.Proofs.Disk.Found
import FileDepot.Proofs.Local.Listing

/-!
# What a listing reaches

A listing is judged by its base: that lies below the root. What is found in the base is taken as it is, and
when it is asked for its size or its times the links on the way to it are followed, wherever they lead. So a
listed file may be the file of a link that leads out of the root, and then it is told of but never opened.

`reaches_of_resolve` says of every listed file which file it stands for: the one at its own place, unless a
link below the root is on the way there. The file lies below the root exactly when it can be opened.
-/

namespace FileDepot.Local

open Disk Location FileDepot.Path

variable {s : Local} {d : Disk} {l k : Location} {f : LocalFile}

/-- What a listed file stands for: the file at the location that its place leads to. -/
structure Reaches (s : Local) (d : Disk) (f : LocalFile) (k : Location) : Prop where
  /-- the links on the way to its place lead there -/
  leads : Leads d [] f.place k
  /-- the file there tells the size and the time of the last change -/
  told : ∃ data modified, d.at? k = some (.file data modified) ∧
    status d f.place = .ok (.file data modified)
  /-- it is at the place itself, unless a link below the root is on the way -/
  linked : k = f.place ∨
    ∃ j target, s.root <+: j ∧ j <+: f.place ∧ d.at? j = some (.link target)
  /-- a clean path leads there as well if it lies below the root, and is refused otherwise -/
  place : IsClean f.path →
    s.realPlace d f.path = if s.root <+: k then .ok k else .error (.outside f.path)

/-- Without links on the way from the root, a place below the root is real. -/
theorem isReal_of_root (htree : d.IsTree) (hroot : d.at? s.root = some .directory)
    (hl : IsProper l) (hin : s.root <+: l)
    (hfree : ∀ j target, s.root <+: j → j <+: l → d.at? j ≠ some (.link target)) : d.IsReal l := by
  refine ⟨hl, fun j hj target => ?_⟩
  rcases List.prefix_or_prefix_of_prefix hin hj with hj' | hj'
  · exact hfree j target hj' hj
  · exact (isReal_root htree hroot).unlinked j hj' target

/-- **Reach.** Every listed file stands for a file. -/
theorem reaches_of_resolve (htree : d.IsTree) (hroot : d.at? s.root = some .directory)
    {pattern : String} {found : List LocalFile} (h : s.resolve d pattern = .ok found)
    (hf : f ∈ found) : ∃ k, s.Reaches d f k := by
  have hrootReal := isReal_root htree hroot
  obtain ⟨l, rfl, hfile, hl, hin⟩ := resolve_spec htree hrootReal.proper h hf
  obtain ⟨k, data, modified, hlocate, hnode⟩ := isFile_spec hfile
  have hleads := locate_leads htree hl hlocate
  obtain ⟨names, rfl⟩ := hin
  have hne : names ≠ [] := by
    rintro rfl
    rw [List.append_nil] at hleads
    rw [hleads.unique hrootReal.leads, hroot] at hnode
    cases hnode
  rw [fileAt_append hne]
  refine ⟨k, hleads, ⟨data, modified, hnode, status_of_locate hlocate hnode⟩, ?_, fun hclean => ?_⟩
  · by_cases hfree : ∃ j target, s.root <+: j ∧ j <+: s.root ++ names ∧ d.at? j = some (.link target)
    · exact .inr hfree
    · have hreal := isReal_of_root htree hroot hl (List.prefix_append ..)
        fun j target hj hj' hlink => hfree ⟨j, target, hj, hj', hlink⟩
      exact .inl (hleads.unique hreal.leads)
  · have hnames : IsProper names := fun n hn => hl n (by simp [hn])
    refine realPlace_of_leads hrootReal.proper ?_
    rwa [joined_join hnames hclean]

namespace Reaches

/-- A file that lies out of the root is never opened by a clean path. -/
theorem contents_outside (h : s.Reaches d f k) (hclean : IsClean f.path) (hout : ¬ s.root <+: k) :
    s.contents d f.path = .error (.outside f.path) := by
  rw [contents, h.place hclean, if_neg hout, Outcome.error_bind]

/-- A file that lies below the root is opened by a clean path, unless its location is too long. -/
theorem contents_inside (htree : d.IsTree) (h : s.Reaches d f k) (hclean : IsClean f.path)
    (hin : s.root <+: k) (hk : Within k) {data : Bytes} {modified : Moment}
    (hnode : d.at? k = some (.file data modified)) : s.contents d f.path = .ok data := by
  have hlocate := locate_real htree (h.leads.isReal (isReal_nil d)) hk (by rw [hnode]; nofun)
  rw [contents, h.place hclean, if_pos hin, Outcome.ok_bind, readFile_of_locate hlocate hnode]
  rfl

end Reaches

/-- **Listing.** Every listed file stands for a file, whose size and time it tells. Where that file does not
lie below the root, a link below the root leads there, and opening it by a clean path is refused. Where it
does, a clean path opens it. -/
theorem listing_reaches (s : Local) (d : Disk) (pattern : String) (found : List LocalFile)
    (htree : d.IsTree) (hroot : d.at? s.root = some .directory)
    (h : s.resolve d pattern = .ok found) :
    ∀ f ∈ found, ∃ k, s.Reaches d f k ∧
      (¬ s.root <+: k →
        (∃ j target, s.root <+: j ∧ j <+: f.place ∧ d.at? j = some (.link target)) ∧
        (IsClean f.path → s.contents d f.path = .error (.outside f.path))) ∧
      (s.root <+: k → Within k → IsClean f.path →
        ∃ data modified, d.at? k = some (.file data modified) ∧
          s.contents d f.path = .ok data) := by
  intro f hf
  obtain ⟨k, hk⟩ := reaches_of_resolve htree hroot h hf
  refine ⟨k, hk, fun hout => ⟨?_, fun hclean => hk.contents_outside hclean hout⟩,
    fun hin hwithin hclean => ?_⟩
  · rcases hk.linked with rfl | hlink
    · obtain ⟨l, rfl, -, -, hin⟩ := resolve_spec htree (isReal_root htree hroot).proper h hf
      exact absurd hin hout
    · exact hlink
  · obtain ⟨data, modified, hnode, -⟩ := hk.told
    exact ⟨data, modified, hnode, hk.contents_inside htree hclean hin hwithin hnode⟩

/-- A disk with a file and two links below the root, one to that file and one out of the root. -/
def leakDisk : Disk :=
  ⟨⟨[(["root"], .directory), (["outside"], .directory), (["outside", "secret"], .file [1, 2] ⟨7⟩),
    (["root", "file"], .file [3] ⟨0⟩), (["root", "link"], .link "file"),
    (["root", "out"], .link "../outside/secret")], by decide⟩⟩

/-- The store below the root of that disk. -/
def leakStore : Local := ⟨["root"], ⟨0⟩, "xxxxxxxx"⟩

/-- A pattern there that one place matches lists the file that is found at it. -/
theorem resolve_leakDisk {pattern : String} (hpattern : splitPattern (normalize pattern) = ("", pattern))
    (hglob : pattern.isEmpty = false) {l : Location}
    (hmatch : ((leakDisk.listing (isDeep pattern) ["root"]).filter fun q =>
      Glob.isMatch (join (q.drop 1)) pattern) = [l])
    (hfile : leakDisk.isFile l = .ok true) :
    leakStore.resolve leakDisk pattern = .ok [leakStore.fileAt l] := by
  refine resolve_of_sorted hpattern hglob (by decide +kernel) (by decide +kernel) hmatch
    (List.pairwise_singleton ..) ?_
  rw [List.filterMapM_cons, hfile]
  rfl

/-- The link that stays below the root stands for a file that can be opened. -/
theorem listing_reaches_link : leakDisk.IsTree ∧ leakDisk.at? leakStore.root = some .directory ∧
    leakStore.resolve leakDisk "l*" = .ok [⟨["root", "link"], "link"⟩] ∧
    leakStore.Reaches leakDisk ⟨["root", "link"], "link"⟩ ["root", "file"] ∧
    leakStore.contents leakDisk "link" = .ok [3] := by
  have htree : leakDisk.IsTree := by decide +kernel
  have hroot : leakDisk.at? leakStore.root = some .directory := by decide +kernel
  have hlisted : leakStore.resolve leakDisk "l*" = .ok [⟨["root", "link"], "link"⟩] :=
    resolve_leakDisk (by decide +kernel) (by decide) (by decide +kernel) (by decide +kernel)
  obtain ⟨k, hk, -, hin⟩ := listing_reaches leakStore leakDisk "l*" _ htree hroot hlisted
    ⟨["root", "link"], "link"⟩ (List.mem_singleton_self _)
  have hleads : Leads leakDisk [] ["root", "link"] ["root", "file"] :=
    (real_iff (htree.proper _ (by decide)).slashless).mp (by decide +kernel)
  obtain rfl := hk.leads.unique hleads
  obtain ⟨data, modified, hnode, hdata⟩ := hin (by decide) (by decide) (by decide)
  have hfile : leakDisk.at? ["root", "file"] = some (.file [3] ⟨0⟩) := by decide
  obtain ⟨rfl, -⟩ := Node.file.inj (Option.some.inj (hnode.symm.trans hfile))
  exact ⟨htree, hroot, hlisted, hk, hdata⟩

/-- The link that leads out is listed as well. It tells the size and the time of a file that is not below the
root, and opening it is refused. -/
theorem listing_leaves_root : leakDisk.IsTree ∧ leakDisk.at? leakStore.root = some .directory ∧
    leakStore.resolve leakDisk "o*" = .ok [⟨["root", "out"], "out"⟩] ∧
    Leads leakDisk [] ["root", "out"] ["outside", "secret"] ∧
    ¬ leakStore.root <+: ["outside", "secret"] ∧
    status leakDisk ["root", "out"] = .ok (.file [1, 2] ⟨7⟩) ∧
    leakStore.contents leakDisk "out" = .error (.outside "out") := by
  have htree : leakDisk.IsTree := by decide +kernel
  have hlisted : leakStore.resolve leakDisk "o*" = .ok [⟨["root", "out"], "out"⟩] :=
    resolve_leakDisk (by decide +kernel) (by decide) (by decide +kernel) (by decide +kernel)
  have hleads : Leads leakDisk [] ["root", "out"] ["outside", "secret"] :=
    (real_iff (htree.proper _ (by decide)).slashless).mp (by decide +kernel)
  exact ⟨htree, by decide +kernel, hlisted, hleads, by decide, by decide +kernel,
    by decide +kernel⟩

end FileDepot.Local
