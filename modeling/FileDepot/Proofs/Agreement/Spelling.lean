import FileDepot.Proofs.Agreement.Files
import FileDepot.Proofs.Local.Sandbox
import FileDepot.Proofs.Path.Clean

/-!
# Spellings on a disk

A store on disk joins the cleaned path to its root, where a separator in front of it would make it stand alone.
So a path that hides a separator is looked for from the top: resolving it as a pattern, which reads its
segments, and the store in memory take it for a path below the root, while writing, removing and opening do not
unless it leads there from the top.

* **joining** — `joined_of_not_hidesTop`, `joined_of_hidesTop`: what a path is joined to;
* **accepting** — `realPlace_of_not_hidesTop`, `realPlace_fixedPart`: what is accepted on a plain disk;
* **spellings** — `paths_as_spelled`: which cleaned paths are clean, and what a store on disk makes of a path
  that the store in memory takes.
-/

namespace FileDepot

open FileDepot.Path Disk Text

variable {s : Local} {d : Disk} {p q : String}

/-! ## Joining -/

theorem isAbsolute_normalize_eq (p : String) :
    Location.isAbsolute (normalize p) = true ↔ HidesTop p := by
  rw [← isAbsolute_normalize_iff, Location.isAbsolute, decide_eq_true_eq, IsAbsolute]

theorem joined_of_hidesTop (h : HidesTop p) : s.joined p = Location.names (normalize p) := by
  rw [Local.joined, if_pos ((isAbsolute_normalize_eq p).mpr h)]

theorem joined_of_not_hidesTop (h : ¬ HidesTop p) :
    s.joined p = s.root ++ Location.names (normalize p) := by
  rw [Local.joined, if_neg (mt (isAbsolute_normalize_eq p).mp h)]

/-- **Joining.** A path comes below every root that it is joined to unless it hides a separator. -/
theorem joined_below_iff (p : String) :
    (∀ s : Local, s.joined p = s.root ++ Location.names (normalize p)) ↔ ¬ HidesTop p := by
  refine ⟨fun h htop => ?_, fun h s => joined_of_not_hidesTop h⟩
  have hroot := h ⟨["root"], ⟨0⟩, ""⟩
  rw [joined_of_hidesTop htop] at hroot
  have hlength := congrArg List.length hroot
  rw [List.length_append, List.length_singleton] at hlength
  omega

/-! ## Names that lead below -/

/-- What the store in memory takes holds no step upwards for a store on disk either. -/
theorem up_not_mem_names (hq : Memory.normalize p = .ok q) : ".." ∉ Location.names (normalize p) := by
  intro hup
  refine (Memory.normalize_eq_ok hq).1 ?_
  obtain ⟨n, hn, hdots⟩ := List.mem_map.mp hup
  obtain ⟨hmem, hcounts⟩ := List.mem_filter.mp hn
  obtain rfl : n = ['.', '.'] := by
    rw [← String.toList_ofList (l := n), hdots]
    rfl
  have htrim := trimBy_infix isBlank (normalize p).toList
  have hback : '\\' ∉ trim (normalize p).toList := fun hc =>
    backslash_not_mem_normalize p (htrim.subset hc)
  rw [segments, segmentChars, unifySeparators_eq_self hback]
  have hplain : ∀ c ∈ ['.', '.'], isBlank c = false := by
    intro c hc
    obtain rfl : c = '.' := by simpa using hc
    rfl
  exact List.mem_map.mpr ⟨_, List.mem_filter.mpr ⟨mem_pieces_trim hplain hmem, hcounts⟩, hdots⟩

theorem nul_not_mem_normalize (hnul : '\x00' ∉ p.toList) : '\x00' ∉ (normalize p).toList := fun hc =>
  (mem_of_mem_normalize hc).elim (by decide) hnul

theorem proper_names (hnul : '\x00' ∉ p.toList) (hq : Memory.normalize p = .ok q) :
    Location.IsProper (Location.names (normalize p)) := by
  intro n hn
  obtain ⟨hempty, hdot, hslash⟩ := Location.mem_names hn
  exact ⟨hempty, hdot, fun hup => up_not_mem_names hq (hup ▸ hn), hslash, fun hc =>
    nul_not_mem_normalize hnul (Location.mem_of_mem_names hn hc)⟩

/-- The segments of a path that the store in memory takes can stand in a directory. -/
theorem proper_segments (hnul : '\x00' ∉ p.toList) (hq : Memory.normalize p = .ok q) :
    Location.IsProper (segments (normalize p)) := by
  intro n hn
  have hsegment := isSegment_of_mem_segments hn
  exact ⟨hsegment.ne_empty, hsegment.ne_dot, fun hup => (Memory.normalize_eq_ok hq).1 (hup ▸ hn),
    hsegment.no_slash, fun hc => nul_not_mem_normalize hnul (mem_of_mem_segments hn hc)⟩

/-! ## Accepting -/

/-- On a plain disk a path is accepted below the root if the store in memory takes it and it hides no
separator. -/
theorem realPlace_of_not_hidesTop (h : Local.Plain s.root d) (hnul : '\x00' ∉ p.toList)
    (hq : Memory.normalize p = .ok q) (htop : ¬ HidesTop p) :
    s.realPlace d p = .ok (s.root ++ Location.names (normalize p)) := by
  have hleads : Leads d [] (s.joined p) (s.root ++ Location.names (normalize p)) := by
    rw [joined_of_not_hidesTop htop]
    exact (h.isReal (proper_names hnul hq)).leads
  rw [Local.realPlace_of_leads h.proper_root hleads, if_pos (List.prefix_append ..)]

/-- On a plain disk the part of a pattern before its first wildcard is accepted below the root if the store in
memory takes the pattern, also where it hides a separator. -/
theorem realPlace_fixedPart (h : Local.Plain s.root d) (hnul : '\x00' ∉ p.toList)
    (hq : Memory.normalize p = .ok q) (htidy : ∀ n ∈ segments (normalize p), Tidy n) :
    s.realPlace d (splitPattern (normalize p)).1 =
      .ok (s.root ++ fixedPart (segments (normalize p))) := by
  have hsub (n : String) (hn : n ∈ fixedPart (segments (normalize p))) :
      n ∈ segments (normalize p) := mem_of_mem_fixedPart hn
  have hsegs (n : String) (hn : n ∈ fixedPart (segments (normalize p))) : IsSegment n :=
    isSegment_of_mem_segments (hsub n hn)
  rw [splitPattern_eq]
  exact Local.realPlace_base h (fun n hn => proper_segments hnul hq n (hsub n hn))
    ⟨tidy_join (fun n hn => (hsegs n hn).ne_empty) fun n hn => htidy n (hsub n hn),
      backslash_not_mem_join hsegs⟩

/-- **Spellings.** A cleaned path neither ends with a separator nor begins with a mark nor is one. It begins with
a separator exactly if the path hides one, and is left as it is when it is cleaned again exactly if it does not
and has no blank at an edge. A path comes below every root that it is joined to exactly if it hides no
separator; then a store on a plain disk accepts it wherever the store in memory takes it. A path that hides one
is accepted or refused by writing, removing and opening as its names lead below the root from the top or not,
while the part of it that resolving looks for is accepted below the root. -/
theorem paths_as_spelled (p : String) :
    ((∀ c ∈ (normalize p).toList.getLast?, c ≠ '/') ∧
      (∀ rest, (normalize p).toList ≠ '.' :: '/' :: rest) ∧ normalize p ≠ ".") ∧
    (IsAbsolute (normalize p) ↔ HidesTop p) ∧
    (normalize (normalize p) = normalize p ↔ ¬ HidesTop p ∧ Tidy (normalize p)) ∧
    ((∀ s : Local, s.joined p = s.root ++ Location.names (normalize p)) ↔ ¬ HidesTop p) ∧
    ∀ (s : Local) (d : Disk) (q : String), Local.Plain s.root d → '\x00' ∉ p.toList →
      Memory.normalize p = .ok q →
      (¬ HidesTop p → s.realPlace d p = .ok (s.root ++ Location.names (normalize p))) ∧
      (HidesTop p → ∀ k, Leads d [] (Location.names (normalize p)) k →
        (s.root <+: k → s.realPlace d p = .ok k) ∧ (¬ s.root <+: k → s.Refused d p)) ∧
      ((∀ n ∈ segments (normalize p), Tidy n) → s.realPlace d (splitPattern (normalize p)).1 =
        .ok (s.root ++ fixedPart (segments (normalize p)))) := by
  refine ⟨normalize_ends p, isAbsolute_normalize_iff p, ?_, joined_below_iff p,
    fun s d q h hnul hq => ⟨realPlace_of_not_hidesTop h hnul hq, fun htop k hk => ?_,
      realPlace_fixedPart h hnul hq⟩⟩
  · rw [normalize_normalize_iff, isAbsolute_normalize_iff]
  · rw [← joined_of_hidesTop (s := s) htop] at hk
    refine ⟨fun hin => ?_, Local.refused_of_leads h.proper_root hk⟩
    rw [Local.realPlace_of_leads h.proper_root hk, if_pos hin]

/-- A path with two separators behind a mark hides one, so that all but resolving refuse it where the store in
memory takes it. With a single separator there it is accepted. -/
theorem paths_as_spelled_marked :
    let s : Local := ⟨["root"], ⟨0⟩, "xxxxxxxx"⟩
    (HidesTop ".//a" ∧ Memory.normalize ".//a" = .ok "a" ∧ s.Refused bareDisk ".//a" ∧
      s.realPlace bareDisk (splitPattern (normalize ".//a")).1 = .ok ["root", "a"]) ∧
      ¬ HidesTop "./a" ∧ Memory.normalize "./a" = .ok "a" ∧
        s.realPlace bareDisk "./a" = .ok ["root", "a"] := by
  intro s
  have hplain : Local.Plain s.root bareDisk := by decide +kernel
  have htop : HidesTop ".//a" := (paths_as_spelled ".//a").2.1.mp (by decide +kernel)
  have hclean : ¬ HidesTop "./a" := mt (paths_as_spelled "./a").2.1.mpr (by decide +kernel)
  have hmarked := (paths_as_spelled ".//a").2.2.2.2 s bareDisk "a" hplain (by decide) (by decide +kernel)
  have hsingle := (paths_as_spelled "./a").2.2.2.2 s bareDisk "a" hplain (by decide) (by decide +kernel)
  have hleads : Leads bareDisk [] (Location.names (normalize ".//a")) ["a"] :=
    (real_iff (Location.slashless_names _)).mp (by decide +kernel)
  exact ⟨⟨htop, by decide +kernel, (hmarked.2.1 htop _ hleads).2 (by decide),
    hmarked.2.2 (by decide +kernel)⟩, hclean, by decide +kernel, hsingle.1 hclean⟩

/-- Cleaning a path can leave a separator or a blank in front of it, which cleaning it again drops. With the
separator, writing, removing and opening are refused where resolving and the store in memory are not. -/
theorem cleaned_path_not_clean :
    let s : Local := ⟨["root"], ⟨0⟩, "xxxxxxxx"⟩
    (normalize ".//a" = "/a" ∧ normalize "/a" = "a") ∧ (normalize "./ a" = " a" ∧ normalize " a" = "a") ∧
      Memory.normalize ".//a" = .ok "a" ∧ s.resolve bareDisk ".//a" = .ok [] ∧
      (s.write bareDisk ".//a" (.bytes [1])).1 = .error (.outside ".//a") ∧
      (s.remove bareDisk ".//a").1 = .error (.outside ".//a") ∧
      s.contents bareDisk ".//a" = .error (.outside ".//a") := by
  decide +kernel

end FileDepot
