import FileDepot.Proofs.Disk.Entries
import FileDepot.Proofs.Local.Place
import FileDepot.Proofs.Outcome

/-!
# What a store on disk touches

The footprint of an operation is told by where the location that was accepted for its path leads. A write
changes nothing but the target, which is an entry of the directory that leads to, and missing directories
on the way there (`write_footprint`). A removal takes that entry away (`remove_footprint`). Reading reads
the file that the location leads to (`contents_footprint`).
-/

namespace FileDepot.Local

open Disk Location

variable {s : Local} {d e : Disk} {path : String} {l k : Location} {content : ByteReader}

/-! ## Making directories -/

theorem settle_snd (d : Disk) (l : Location) (t : Disk.Fault) :
    (makeDirectories.settle d l t).2 = d := by
  rw [makeDirectories.settle]
  split <;> rfl

/-- What making directories does: nothing, or it makes the last one alone, or it makes those above it
first and then perhaps the last one. -/
theorem makeDirectories_cases (d : Disk) (fuel : Nat) (l : Location) :
    (makeDirectories d (fuel + 1) l).2 = d ∨
    d.makeDirectory l = .ok (makeDirectories d (fuel + 1) l).2 ∨
    (l ≠ [] ∧ ((makeDirectories d (fuel + 1) l).2 = (makeDirectories d fuel l.parent).2 ∨
      (makeDirectories d fuel l.parent).2.makeDirectory l =
        .ok (makeDirectories d (fuel + 1) l).2)) := by
  rw [makeDirectories]
  split
  · rename_i e hmake
    exact .inr (.inl hmake)
  · rename_i missing hmake
    split
    · exact .inl rfl
    · rename_i hne
      refine .inr (.inr ⟨hne, ?_⟩)
      split
      · rename_i f e hparent
        exact .inl (by rw [hparent])
      · rename_i e hparent
        rw [hparent]
        split
        · rename_i f hlast
          exact .inr hlast
        · rename_i t hlast
          exact .inl (settle_snd e l t)
  · rename_i t hother hmake
    exact .inl (settle_snd d l t)

/-- Making directories makes the disk grow, also when it fails on the way. -/
theorem grown_makeDirectories (htree : d.IsTree) (fuel : Nat) (hl : IsProper l) :
    Grown d (makeDirectories d fuel l).2 l := by
  induction fuel generalizing l with
  | zero => exact .refl htree l
  | succ fuel ih =>
    rcases makeDirectories_cases d fuel l with h | h | ⟨hne, h | h⟩
    · rw [h]
      exact .refl htree l
    · exact grown_makeDirectory htree hl h
    · rw [h]
      exact (ih hl.parent).of_parent htree hl hne
    · have hparent := (ih hl.parent).of_parent htree hl hne
      exact hparent.trans (grown_makeDirectory hparent.tree hl h)

/-! ## Writing -/

/-- The place of the scratch file in the directory of a target. -/
def scratchIn (s : Local) (l dir : Location) : Location := dir ++ ["." ++ l.name ++ "." ++ s.scratch]

/-- Where the scratch file goes: beside the target, to a place where nothing is. -/
theorem scratch_spec (htree : e.IsTree) {place : Location}
    (h : e.vacancy (s.scratchPlace l) = .ok place) :
    ∃ q, Leads e [] l.parent q ∧ place = s.scratchIn l q ∧ e.at? place = none ∧
      e.at? q = some .directory := by
  obtain ⟨dir, hleads, hdir, rfl, hnone, -⟩ := vacancy_spec htree h
  rw [scratchPlace, parent_concat] at hleads
  rw [scratchPlace, name_concat] at hnone ⊢
  exact ⟨dir, hleads, rfl, hnone, hdir⟩

/-- What replacing does: it fails and leaves nothing behind, or all contents are in the target and nothing
else has changed. The scratch file is gone again in any case. -/
theorem replace_cases (htree : e.IsTree) (s : Local) (l : Location) (content : ByteReader) :
    (∃ f, (s.replace e l content).1 = .error f ∧ ∀ k, (s.replace e l content).2.at? k = e.at? k) ∨
    ∃ q data, Leads e [] l.parent q ∧ e.at? q = some .directory ∧ e.at? (s.scratchIn l q) = none ∧
      content.drainBlocks = .ok data ∧ (s.replace e l content).1 = .ok () ∧
      ∀ k, (s.replace e l content).2.at? k =
        if k = q ++ [l.name] then some (.file data s.now) else e.at? k := by
  rw [replace]
  split
  · exact .inl ⟨_, rfl, fun _ => rfl⟩
  · rename_i scratch hscratch
    obtain ⟨q, hq, rfl, hnone, hdir⟩ := scratch_spec htree hscratch
    have hgone (n : Node) (k : Location) :
        ((e.set (s.scratchIn l q) n).unset (s.scratchIn l q)).at? k = e.at? k := by
      rw [at?_unset (by simp [scratchIn]), at?_set (by simp [scratchIn])]
      by_cases hk : k = s.scratchIn l q
      · rw [if_pos hk, hk, hnone]
      · rw [if_neg hk, if_neg hk]
    dsimp only
    split
    · exact .inl ⟨_, rfl, hgone _⟩
    · rename_i data hdata
      refine .inr ⟨q, data, hq, hdir, hnone, hdata, rfl, fun k => ?_⟩
      rw [scratchIn, parent_concat, at?_set (by simp), ← scratchIn, hgone]

/-- What a write does at an accepted location: it fails and has made directories on the way to the target at
most, or those that were missing are there and all contents are in the target. -/
theorem write_cases (htree : d.IsTree) (hroot : IsProper s.root) (h : s.realPlace d path = .ok l)
    (content : ByteReader) :
    (∃ f, (s.write d path content).1 = .error f ∧ ((s.write d path content).2 = d ∨
      l ≠ s.root ∧ Grown d (s.write d path content).2 l.parent)) ∨
    ∃ e q data, l ≠ s.root ∧ Grown d e l.parent ∧ Leads e [] l.parent q ∧
      e.at? q = some .directory ∧ e.at? (s.scratchIn l q) = none ∧ content.drainBlocks = .ok data ∧
      (s.write d path content).1 = .ok l ∧
      ∀ k, (s.write d path content).2.at? k =
        if k = q ++ [l.name] then some (.file data s.now) else e.at? k := by
  have hmade := grown_makeDirectories htree (l.length + 1) (realPlace_spec hroot h).1.parent
  rw [write, h]
  dsimp only
  split
  · exact .inl ⟨_, rfl, .inl rfl⟩
  · exact .inl ⟨_, rfl, .inl rfl⟩
  · rename_i hdir
    have hne : l ≠ s.root := fun hl => by simp [hl] at hdir
    split
    · rename_i f e hmake
      rw [hmake] at hmade
      exact .inl ⟨f, rfl, .inr ⟨hne, hmade⟩⟩
    · rename_i e hmake
      rw [hmake] at hmade
      rcases replace_cases hmade.tree s l content with ⟨f, herror, hsame⟩ |
        ⟨q, data, hq, hqdir, hnone, hdata, hok, hat⟩
      · split
        · rename_i hreplace
          rw [hreplace] at hsame
          exact .inl ⟨_, rfl, .inr ⟨hne, hmade.congr hsame⟩⟩
        · rename_i hreplace
          rw [hreplace] at herror
          cases herror
      · refine .inr ⟨e, q, data, hne, hmade, hq, hqdir, hnone, hdata, ?_⟩
        split
        · rename_i hreplace
          rw [hreplace] at hok
          cases hok
        · rename_i hreplace
          rw [hreplace] at hat
          exact ⟨rfl, hat⟩

/-- What a write touches, of the directory that the location leads to: its entry with the last name, and
missing places on the way to it. -/
def Touches (d : Disk) (l q k : Location) : Prop :=
  k = q ++ [l.name] ∨ (k <+: q ∧ d.at? k = none)

/-- **Footprint.** A write changes nothing but its target and missing directories on the way to it. -/
theorem write_footprint (htree : d.IsTree) (hroot : IsProper s.root)
    (h : s.realPlace d path = .ok l) (hk : (s.write d path content).2.at? k ≠ d.at? k) :
    l ≠ s.root ∧ ∃ q, Leads d [] l.parent q ∧ Touches d l q k := by
  have hmade {e : Disk} (hgrown : Grown d e l.parent) (hk : e.at? k ≠ d.at? k) :
      ∃ q, Leads d [] l.parent q ∧ Touches d l q k := by
    obtain ⟨hd, -, q, hq, hkq⟩ := hgrown.change k hk
    exact ⟨q, hq, .inr ⟨hkq, hd⟩⟩
  rcases write_cases htree hroot h content with ⟨_, -, hsame | ⟨hne, hgrown⟩⟩ |
    ⟨e, q, data, hne, hgrown, hq, -, -, -, -, hat⟩
  · exact absurd (by rw [hsame]) hk
  · exact ⟨hne, hmade hgrown hk⟩
  · rw [hat] at hk
    by_cases hkq : k = q ++ [l.name]
    · exact ⟨hne, q, hgrown.leads hq, .inl hkq⟩
    · rw [if_neg hkq] at hk
      exact ⟨hne, hmade hgrown hk⟩

/-! ## Removing -/

/-- Taking away what a location names takes away the entry of the directory that it leads to. -/
theorem takeAway_spec (htree : d.IsTree) (h : remove.takeAway d l = .ok e) :
    ∃ q, Leads d [] l.parent q ∧ TakenAway d e (q ++ [l.name]) := by
  rw [remove.takeAway] at h
  split at h
  · cases h
  · exact removeDirectory_spec htree h
  · exact removeFile_spec htree h

/-- What a removal does: it fails or finds nothing, with the disk as it was, or it takes away the entry that
the accepted location names. -/
theorem remove_cases (htree : d.IsTree) (s : Local) (path : String) :
    (∃ f, s.remove d path = (.error f, d)) ∨ s.remove d path = (.ok none, d) ∨
    ∃ l k q e, s.realPlace d path = .ok l ∧ l ≠ s.root ∧ d.locate l = .ok k ∧
      Leads d [] l.parent q ∧ TakenAway d e (q ++ [l.name]) ∧ s.remove d path = (.ok (some l), e) := by
  rw [remove]
  split
  · exact .inl ⟨_, rfl⟩
  · rename_i l hplace
    split
    · exact .inl ⟨_, rfl⟩
    · rename_i hne
      split
      · exact .inl ⟨_, rfl⟩
      · exact .inr (.inl rfl)
      · rename_i hthere
        split
        · exact .inl ⟨_, rfl⟩
        · rename_i e htake
          obtain ⟨k, -, hk, -, -⟩ := ask_spec hthere
          obtain ⟨q, hq, htaken⟩ := takeAway_spec htree htake
          exact .inr (.inr ⟨l, k, q, e, hplace, hne, hk, hq, htaken, rfl⟩)

/-- **Footprint.** A removal changes nothing but the entry of the directory that the location leads to. -/
theorem remove_footprint (htree : d.IsTree) (h : s.realPlace d path = .ok l)
    (hk : (s.remove d path).2.at? k ≠ d.at? k) :
    l ≠ s.root ∧ ∃ q, Leads d [] l.parent q ∧ k = q ++ [l.name] := by
  rcases remove_cases htree s path with ⟨f, hremove⟩ | hremove |
    ⟨l', _, q, e, hplace, hne, -, hq, htaken, hremove⟩
  · exact absurd (by rw [hremove]) hk
  · exact absurd (by rw [hremove]) hk
  · obtain rfl := Except.ok.inj (h.symm.trans hplace)
    rw [hremove] at hk
    exact ⟨hne, q, hq, not_not.mp fun hkq => hk (htaken.kept k hkq)⟩

/-! ## Reading -/

/-- **Footprint.** What is read is the file that the location leads to. -/
theorem contents_footprint (htree : d.IsTree) (hroot : IsProper s.root)
    (h : s.realPlace d path = .ok l) {data : Bytes} (hdata : s.contents d path = .ok data) :
    ∃ k modified, d.locate l = .ok k ∧ Leads d [] l k ∧ d.at? k = some (.file data modified) := by
  rw [contents, h, Outcome.ok_bind] at hdata
  obtain ⟨⟨data', modified⟩, hread, hdata⟩ := Outcome.bind_eq_ok hdata
  obtain rfl := Except.ok.inj hdata
  obtain ⟨k, hk, hnode⟩ := readFile_spec (Outcome.mapError_eq_ok.mp hread)
  exact ⟨k, modified, hk, locate_leads htree (realPlace_spec hroot h).1 hk, hnode⟩

end FileDepot.Local
