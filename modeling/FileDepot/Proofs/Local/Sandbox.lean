import FileDepot.Proofs.Local.Footprint

/-!
# The sandbox of a store on disk

A store on disk is to touch nothing but what lies below its root. It does so for every path whose names
lead anywhere: the path is refused before anything happens, or what it touches is below the root. Where
links lead in a circle, the path is judged by its names alone, and then links that are left in it are
followed after all. `Escapes` says when such a path leads out of the root; `sandbox` says that nothing
else does, and exactly what is touched then.
-/

namespace FileDepot.Local

open Disk Location

variable {s : Local} {d : Disk} {path : String} {l k q : Location}

/-- Whether a location lies below the root. -/
def Holds (s : Local) (k : Location) : Prop := s.root <+: k ∧ k ≠ s.root

/-- A path is confined when the operations at it touch nothing but what lies below the root. -/
structure Confined (s : Local) (d : Disk) (path : String) : Prop where
  /-- what a write changes, whether it fails or not -/
  written : ∀ content k, (s.write d path content).2.at? k ≠ d.at? k → s.Holds k
  /-- where the scratch file of a write goes -/
  scratched : ∀ l place, s.realPlace d path = .ok l → l ≠ s.root →
    (makeDirectories d (l.length + 1) l.parent).2.vacancy (s.scratchPlace l) = .ok place →
    s.Holds place
  /-- what a removal changes -/
  removed : ∀ k, (s.remove d path).2.at? k ≠ d.at? k → s.Holds k
  /-- the file that is read -/
  opened : ∀ l data, s.realPlace d path = .ok l → s.contents d path = .ok data →
    ∃ k modified, d.locate l = .ok k ∧ d.at? k = some (.file data modified) ∧ s.Holds k

/-- A path is refused when every operation at it fails before it touches anything. -/
structure Refused (s : Local) (d : Disk) (path : String) : Prop where
  /-- a write is refused -/
  written : ∀ content, s.write d path content = (.error (.outside path), d)
  /-- a removal is refused -/
  removed : s.remove d path = (.error (.outside path), d)
  /-- reading is refused -/
  opened : s.contents d path = .error (.outside path)

/-- Whether a path that is accepted leads out of the root: the location that is accepted for it has a
link on the way that leads out, above its last name or with it. -/
def Escapes (s : Local) (d : Disk) (path : String) : Prop :=
  ∃ l, s.realPlace d path = .ok l ∧
    ((l ≠ s.root ∧ ∃ q, Leads d [] l.parent q ∧ ¬ s.root <+: q) ∨
      ∃ k, Leads d [] l k ∧ ¬ s.root <+: k)

/-- An entry lies below the root when its directory is the root or lies below it. -/
theorem holds_concat_iff {name : String} : s.Holds (q ++ [name]) ↔ s.root <+: q := by
  rw [Holds, List.prefix_concat_iff]
  constructor
  · rintro ⟨hroot | hq, hne⟩
    · exact absurd hroot.symm hne
    · exact hq
  · intro hq
    refine ⟨.inr hq, fun h => ?_⟩
    have hlength := hq.length_le
    rw [← h, List.length_append, List.length_singleton] at hlength
    omega

theorem prefix_parent (h : s.root <+: l) (hne : l ≠ s.root) : s.root <+: l.parent := by
  have hl : l ≠ [] := by
    rintro rfl
    exact hne (List.prefix_nil.mp h).symm
  rw [← parent_append_name hl] at h hne
  exact holds_concat_iff.mp ⟨h, hne⟩

/-! ## Paths that lead somewhere -/

theorem refused_of_outside (h : s.realPlace d path = .error (.outside path)) : s.Refused d path := by
  refine ⟨fun content => ?_, ?_, ?_⟩
  · rw [write, h]
  · rw [remove, h]
  · rw [contents, h, Outcome.error_bind]

/-- Names that lead out of the root are refused. -/
theorem refused_of_leads (hroot : IsProper s.root) (h : Leads d [] (s.joined path) k)
    (hout : ¬ s.root <+: k) : s.Refused d path :=
  refused_of_outside (by rw [realPlace_of_leads hroot h, if_neg hout])

/-- Names that lead anywhere do not lead out of the root once they are accepted. -/
theorem not_escapes_of_leads (hroot : IsProper s.root) (h : Leads d [] (s.joined path) k) :
    ¬ s.Escapes d path := by
  rintro ⟨l, hl, hout⟩
  rw [realPlace_of_leads hroot h] at hl
  split at hl
  · rename_i hin
    obtain rfl := Except.ok.inj hl
    have hreal := h.isReal (isReal_nil d)
    rcases hout with ⟨hne, q, hq, hout⟩ | ⟨j, hj, hout⟩
    · rw [hq.unique hreal.parent.leads] at hout
      exact hout (prefix_parent hin hne)
    · rw [hj.unique hreal.leads] at hout
      exact hout hin
  · cases hl

/-! ## What is touched -/

/-- What a write touches lies below the root exactly when the directory that it goes to does. -/
theorem holds_iff_of_touches (htree : d.IsTree) (hroot : d.at? s.root = some .directory)
    (h : Touches d l q k) : s.Holds k ↔ s.root <+: q := by
  rcases h with rfl | ⟨hkq, hnone⟩
  · exact holds_concat_iff
  · constructor
    · exact fun hk => hk.1.trans hkq
    · intro hq
      have hne : k ≠ s.root := by
        rintro rfl
        simp [hroot] at hnone
      -- the root is there, so that a place with nothing on the same way is behind it
      rcases List.prefix_or_prefix_of_prefix hq hkq with hk | hk
      · exact ⟨hk, hne⟩
      · simp [htree.directory_of_prefix hk hne (by simp [hroot])] at hnone

/-- A path at which something changes is accepted. -/
theorem accepted_of_write {content : ByteReader}
    (hk : (s.write d path content).2.at? k ≠ d.at? k) : ∃ l, s.realPlace d path = .ok l := by
  cases hl : s.realPlace d path with
  | error f => simp [write, hl] at hk
  | ok l => exact ⟨l, rfl⟩

theorem accepted_of_remove (hk : (s.remove d path).2.at? k ≠ d.at? k) :
    ∃ l, s.realPlace d path = .ok l := by
  cases hl : s.realPlace d path with
  | error f => simp [remove, hl] at hk
  | ok l => exact ⟨l, rfl⟩

/-- A path that does not escape is confined. -/
theorem confined_of_not_escapes (htree : d.IsTree) (hroot : d.at? s.root = some .directory)
    (h : ¬ s.Escapes d path) : s.Confined d path := by
  have hproper := (isReal_root htree hroot).proper
  have hdir {l q : Location} (hl : s.realPlace d path = .ok l) (hne : l ≠ s.root)
      (hq : Leads d [] l.parent q) : s.root <+: q := by
    by_contra hout
    exact h ⟨l, hl, .inl ⟨hne, q, hq, hout⟩⟩
  refine ⟨fun content k hk => ?_, fun l place hl hne hplace => ?_, fun k hk => ?_,
    fun l data hl hdata => ?_⟩
  · obtain ⟨l, hl⟩ := accepted_of_write hk
    obtain ⟨hne, q, hq, htouches⟩ := write_footprint htree hproper hl hk
    exact (holds_iff_of_touches htree hroot htouches).mpr (hdir hl hne hq)
  · have hgrown := grown_makeDirectories htree (l.length + 1) (realPlace_spec hproper hl).1.parent
    obtain ⟨q, hq, rfl, -⟩ := scratch_spec hgrown.tree hplace
    exact holds_concat_iff.mpr (hdir hl hne (hgrown.leads hq))
  · obtain ⟨l, hl⟩ := accepted_of_remove hk
    obtain ⟨hne, q, hq, rfl⟩ := remove_footprint htree hl hk
    exact holds_concat_iff.mpr (hdir hl hne hq)
  · obtain ⟨k, modified, hk, hleads, hnode⟩ := contents_footprint htree hproper hl hdata
    refine ⟨k, modified, hk, hnode, ?_, ?_⟩
    · by_contra hout
      exact h ⟨l, hl, .inr ⟨k, hleads, hout⟩⟩
    · rintro rfl
      simp [hroot] at hnode

/-- **The sandbox holds unless a path escapes.** On a disk whose root is a directory, a path whose names
lead out of the root is refused, with the disk as it was. A path whose names lead anywhere never escapes,
and any path that does not escape is confined: it touches nothing but what lies below the root. This
condition is exact: what a write or a removal changes lies below the root exactly when the directory does
that the accepted location leads to, and what is read is the file that the location itself leads to. -/
theorem sandbox (s : Local) (d : Disk) (path : String) (htree : d.IsTree)
    (hroot : d.at? s.root = some .directory) :
    (∀ k, Leads d [] (s.joined path) k →
      ¬ s.Escapes d path ∧ (¬ s.root <+: k → s.Refused d path)) ∧
    (¬ s.Escapes d path → s.Confined d path) ∧
    (∀ l, s.realPlace d path = .ok l →
      (∀ content k, (s.write d path content).2.at? k ≠ d.at? k →
        l ≠ s.root ∧ ∃ q, Leads d [] l.parent q ∧ (s.Holds k ↔ s.root <+: q)) ∧
      (∀ k, (s.remove d path).2.at? k ≠ d.at? k →
        l ≠ s.root ∧ ∃ q, Leads d [] l.parent q ∧ (s.Holds k ↔ s.root <+: q)) ∧
      (∀ data, s.contents d path = .ok data →
        ∃ k modified, Leads d [] l k ∧ d.locate l = .ok k ∧ d.at? k = some (.file data modified))) := by
  have hproper := (isReal_root htree hroot).proper
  refine ⟨fun k hk => ⟨not_escapes_of_leads hproper hk, refused_of_leads hproper hk⟩,
    confined_of_not_escapes htree hroot, fun l hl => ⟨fun content k hk => ?_, fun k hk => ?_,
    fun data hdata => ?_⟩⟩
  · obtain ⟨hne, q, hq, htouches⟩ := write_footprint htree hproper hl hk
    exact ⟨hne, q, hq, holds_iff_of_touches htree hroot htouches⟩
  · obtain ⟨hne, q, hq, rfl⟩ := remove_footprint htree hl hk
    exact ⟨hne, q, hq, holds_concat_iff⟩
  · obtain ⟨k, modified, hk, hleads, hnode⟩ := contents_footprint htree hproper hl hdata
    exact ⟨k, modified, hleads, hk, hnode⟩

/-- A disk with a link below the root that leads to itself, and one that leads out of the root. -/
def circleDisk : Disk :=
  ⟨⟨[(["root"], .directory), (["outside"], .directory), (["outside", "secret"], .file [1] ⟨0⟩),
    (["root", "loop"], .link "loop"), (["root", "out"], .link "../outside")], by decide⟩⟩

/-- The store below the root of that disk. -/
def circleStore : Local := ⟨["root"], ⟨0⟩, "xxxxxxxx"⟩

/-- A path over the link that leads out is refused. -/
theorem sandbox_refuses : circleDisk.IsTree ∧ circleDisk.at? circleStore.root = some .directory ∧
    circleStore.Refused circleDisk "out/secret" := by
  have htree : circleDisk.IsTree := by decide +kernel
  have hroot : circleDisk.at? circleStore.root = some .directory := by decide +kernel
  have hleads : Leads circleDisk [] (circleStore.joined "out/secret") ["outside", "secret"] :=
    (real_iff (slashless_joined (isReal_root htree hroot).proper _)).mp (by decide +kernel)
  exact ⟨htree, hroot,
    ((sandbox circleStore circleDisk "out/secret" htree hroot).1 _ hleads).2 (by decide)⟩

/-- Behind a link that leads to itself and out of it again, the link that leads out is followed: a write
then changes a file that is not below the root. -/
theorem sandbox_broken : circleDisk.IsTree ∧ circleDisk.at? circleStore.root = some .directory ∧
    (circleStore.write circleDisk "loop/../out/secret" (.bytes [2])).2.at? ["outside", "secret"] =
      some (.file [2] ⟨0⟩) ∧
    ¬ circleStore.Confined circleDisk "loop/../out/secret" := by
  have hwrite : (circleStore.write circleDisk "loop/../out/secret" (.bytes [2])).2.at?
      ["outside", "secret"] = some (.file [2] ⟨0⟩) := by decide +kernel
  refine ⟨by decide +kernel, by decide +kernel, hwrite, fun h => ?_⟩
  have hholds := h.written (.bytes [2]) ["outside", "secret"] (by decide +kernel)
  exact absurd hholds.1 (by decide)

end FileDepot.Local
