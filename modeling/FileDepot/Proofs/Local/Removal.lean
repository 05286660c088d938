import FileDepot.Proofs.Local.Footprint

/-!
# What a removal takes away

A removal acts at the real location of a path, as every operation does: the links on the way are followed,
the last one too. What it takes away is one entry with nothing below it, and all else stays (`TakenAway`). A
path names an entry of its own, whose last name is not followed (`NamesEntry`). That entry is the one that
goes unless it is a link: a link always stays, and what it leads to goes (`remove_effect`,
`remove_takes_target`).
-/

namespace FileDepot

open Location

namespace Disk

variable {d e : Disk} {names : List String} {k place : Location}

/-- The entry that names stand for themselves: the way to its directory is followed, the last name is
not. -/
def NamesEntry (d : Disk) (names : List String) (place : Location) : Prop :=
  ∃ front name dir, names = front ++ [name] ∧ IsName name ∧ Leads d [] front dir ∧
    place = dir ++ [name]

/-- Names lead to the entry that they stand for, unless that is a link. -/
theorem NamesEntry.leads (h : NamesEntry d names place)
    (hnode : ∀ target, d.at? place ≠ some (.link target)) : Leads d [] names place := by
  obtain ⟨front, name, dir, rfl, hname, hfront, rfl⟩ := h
  exact hfront.append (.enter hname hnode .nil)

/-- Where no link is taken away, names lead where they led before. -/
theorem TakenAway.leads_iff (h : TakenAway d e place)
    (hnode : ∀ target, d.at? place ≠ some (.link target)) :
    Leads e [] names k ↔ Leads d [] names k := by
  have hlinks (l : Location) (target : String) :
      e.at? l = some (.link target) ↔ d.at? l = some (.link target) := by
    by_cases hl : l = place
    · simp [hl, h.gone, hnode]
    · rw [h.kept l hl]
  exact ⟨fun hk => hk.congr hlinks, fun hk => hk.congr fun l target => (hlinks l target).symm⟩

end Disk

namespace Local

open Disk

variable {s : Local} {d e : Disk} {path : String} {l k dir entry : Location}

/-- A removal that does not answer with a location changes nothing. -/
theorem unchanged_of_remove (htree : d.IsTree) (h : ∀ l, (s.remove d path).1 ≠ .ok (some l)) :
    (s.remove d path).2 = d := by
  rcases remove_cases htree s path with ⟨f, hremove⟩ | hremove | ⟨l, _, _, e, _, _, _, _, _, hremove⟩
  · rw [hremove]
  · rw [hremove]
  · exact absurd (by rw [hremove]) (h l)

/-- A removal that answers with a location takes away the entry that the location names, once it has found
where the location leads. -/
theorem takenAway_of_remove (htree : d.IsTree) (h : s.remove d path = (.ok (some l), e)) :
    s.realPlace d path = .ok l ∧ l ≠ s.root ∧ (∃ k, d.locate l = .ok k) ∧
      ∃ dir, Leads d [] l.parent dir ∧ TakenAway d e (dir ++ [l.name]) := by
  rcases remove_cases htree s path with ⟨f, hremove⟩ | hremove |
    ⟨l', k, dir, e', hplace, hne, hk, hdir, htaken, hremove⟩
  · cases h.symm.trans hremove
  · cases h.symm.trans hremove
  · obtain ⟨rfl, rfl⟩ : l = l' ∧ e = e' := by simpa using h.symm.trans hremove
    exact ⟨hplace, hne, ⟨k, hk⟩, dir, hdir, htaken⟩

/-- A link that a path stands for itself is not the entry that the accepted location names: the path would
lead on over the link, and what is accepted is then no link. -/
theorem entry_ne_of_link (htree : d.IsTree) (hroot : IsProper s.root)
    (hplace : s.realPlace d path = .ok l) (hne : l ≠ []) (hk : d.locate l = .ok k)
    (hdir : Leads d [] l.parent dir) (hentry : NamesEntry d (s.joined path) entry) {target : String}
    (hlink : d.at? entry = some (.link target)) : entry ≠ dir ++ [l.name] := by
  -- otherwise the path leads on over the link to the real location that is accepted, and that is no link
  rintro rfl
  obtain ⟨front, name, dir', hjoined, -, hfront, hsame⟩ := hentry
  obtain ⟨rfl, rfl⟩ := List.append_singleton_inj.mp hsame
  have hlocated : Leads d [] (l.parent ++ [l.name]) k := by
    rw [parent_append_name hne]
    exact locate_leads htree (realPlace_spec hroot hplace).1 hk
  obtain ⟨m, hm, hlast⟩ := Leads.of_append hlocated
  obtain rfl := hm.unique hdir
  have hleads : Leads d [] (s.joined path) k := by
    rw [hjoined]
    exact hfront.append hlast
  obtain ⟨rfl, hat⟩ := entry_of_leads hroot hplace hne hdir hleads
  rw [hat] at hlink
  exact (hleads.isReal (isReal_nil d)).unlinked l (List.prefix_refl l) target hlink

/-- **Effect of a removal.** On any disk that is a tree, with links or without, a removal that fails or finds
nothing leaves the disk as it was. One that answers with a location takes away the entry that the accepted
location names last, in the directory that the location above leads to: nothing was below the entry, it
is gone, and every other entry is as it was, so that what is left is a tree. Where the path has a real
location, that is where the entry was, no link was there, and whatever led anywhere still leads there. The
entry that the path names itself, with its last name not followed, is the one that goes exactly when it
is no link: a link is still there. -/
theorem remove_effect (s : Local) (d : Disk) (path : String) (htree : d.IsTree)
    (hroot : IsProper s.root) :
    ((∀ l, (s.remove d path).1 ≠ .ok (some l)) → (s.remove d path).2 = d) ∧
    ∀ l e, s.remove d path = (.ok (some l), e) →
      s.realPlace d path = .ok l ∧ e.IsTree ∧
      ∃ dir, Leads d [] l.parent dir ∧ TakenAway d e (dir ++ [l.name]) ∧
        (∀ k, Leads d [] (s.joined path) k → k = dir ++ [l.name] ∧
          (∀ target, d.at? k ≠ some (.link target)) ∧
          ∀ names j, Leads e [] names j ↔ Leads d [] names j) ∧
        ∀ entry, NamesEntry d (s.joined path) entry →
          (∀ target, d.at? entry = some (.link target) → e.at? entry = some (.link target)) ∧
          ((∀ target, d.at? entry ≠ some (.link target)) → entry = dir ++ [l.name]) := by
  refine ⟨unchanged_of_remove htree, fun l e h => ?_⟩
  obtain ⟨hplace, hne, ⟨k, hk⟩, dir, hdir, htaken⟩ := takenAway_of_remove htree h
  -- the root itself is not removed, so that the location has a last name
  have htop : l ≠ [] := by
    rintro rfl
    exact hne (List.prefix_nil.mp (realPlace_spec hroot hplace).2).symm
  have hreal {k : Location} (hk : Leads d [] (s.joined path) k) : k = dir ++ [l.name] := by
    obtain ⟨rfl, hat⟩ := entry_of_leads hroot hplace htop hdir hk
    exact hat.symm
  refine ⟨hplace, htaken.isTree htree, dir, hdir, htaken, fun k hk => ?_, fun entry hentry =>
    ⟨fun target hlink => ?_, fun hnode => hreal (hentry.leads hnode)⟩⟩
  · obtain rfl := hreal hk
    have hnode := (hk.isReal (isReal_nil d)).unlinked _ (List.prefix_refl _)
    exact ⟨rfl, hnode, fun names j => htaken.leads_iff hnode⟩
  · rw [htaken.kept entry (entry_ne_of_link htree hroot hplace htop hk hdir hentry hlink), hlink]

/-- A disk with a file and a link to it, and a directory with a file in it and a link to the directory. -/
def aliasDisk : Disk :=
  ⟨⟨[(["root"], .directory), (["root", "a"], .file [1] ⟨0⟩), (["root", "b"], .link "a"),
    (["root", "dir"], .directory), (["root", "dir", "c"], .file [2] ⟨0⟩),
    (["root", "link"], .link "dir")], by decide⟩⟩

/-- The store below the root of that disk. -/
def aliasStore : Local := ⟨["root"], ⟨0⟩, "xxxxxxxx"⟩

/-- A file in a directory is removed through a link to the directory. The directory itself is not removed
through it, with the file in it. -/
theorem remove_effect_alias :
    let e := (aliasStore.remove aliasDisk "link/c").2
    let place := ["root", "dir", "c"]
    aliasDisk.IsTree ∧ IsProper aliasStore.root ∧
      aliasStore.remove aliasDisk "link/c" = (.ok (some place), e) ∧ TakenAway aliasDisk e place ∧
      (aliasStore.remove aliasDisk "link").1 = .error (.disk ⟨.notEmpty, "/root/dir"⟩) ∧
      (aliasStore.remove aliasDisk "link").2 = aliasDisk := by
  intro e place
  have htree : aliasDisk.IsTree := by decide +kernel
  have hroot : IsProper aliasStore.root := htree.proper _ (by decide)
  have hanswer : (aliasStore.remove aliasDisk "link/c").1 = .ok (some place) := by decide +kernel
  have hremove : aliasStore.remove aliasDisk "link/c" = (.ok (some place), e) := Prod.ext hanswer rfl
  have hleads : Leads aliasDisk [] (aliasStore.joined "link/c") place :=
    (real_iff (slashless_joined hroot _)).mp (by decide +kernel)
  obtain ⟨-, htaken⟩ := remove_effect aliasStore aliasDisk "link/c" htree hroot
  obtain ⟨-, -, dir, -, htaken, hreal, -⟩ := htaken place e hremove
  have hfull : (aliasStore.remove aliasDisk "link").1 = .error (.disk ⟨.notEmpty, "/root/dir"⟩) := by
    decide +kernel
  obtain ⟨hunchanged, -⟩ := remove_effect aliasStore aliasDisk "link" htree hroot
  rw [← (hreal place hleads).1] at htaken
  exact ⟨htree, hroot, hremove, htaken, hfull, hunchanged fun l => by rw [hfull]; nofun⟩

/-- Removing a link to a file takes the file away, and the link stays: another path than the named one
loses what was there. -/
theorem remove_takes_target :
    let e := (aliasStore.remove aliasDisk "b").2
    aliasDisk.IsTree ∧ NamesEntry aliasDisk (aliasStore.joined "b") ["root", "b"] ∧
      (aliasStore.remove aliasDisk "b").1 = .ok (some ["root", "a"]) ∧
      e.at? ["root", "b"] = some (.link "a") ∧
      aliasDisk.at? ["root", "a"] = some (.file [1] ⟨0⟩) ∧ e.at? ["root", "a"] = none ∧
      ¬ TakenAway aliasDisk e ["root", "b"] := by
  intro e
  have htree : aliasDisk.IsTree := by decide +kernel
  have hlink : e.at? ["root", "b"] = some (.link "a") := by decide +kernel
  have hfront : Leads aliasDisk [] ["root"] ["root"] :=
    (isReal_root (s := aliasStore) htree (by decide)).leads
  refine ⟨htree, ⟨["root"], "b", ["root"], by decide +kernel, by decide, hfront, rfl⟩,
    by decide +kernel, hlink, by decide +kernel, by decide +kernel, fun h => ?_⟩
  rw [h.gone] at hlink
  cases hlink

end Local

end FileDepot
