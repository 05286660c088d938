import FileDepot.Proofs.Agreement.Files

/-!
# Both stores find the same files

Where both stores hold the same files, a pattern finds the same ones in both (`resolve_agrees`), although
one store filters its paths and the other walks its directories. What is different is only what the
system refuses: it does not look at a place whose written form is too long, where the store in memory
finds that nothing is there.
-/

namespace FileDepot

open FileDepot.Path Text

variable {m : Memory} {s : Local} {d : Disk} {base names : List String} {glob text : String}

/-- The paths in memory that pass a test behind a front are those of files on the disk whose names
behind the base pass it. -/
theorem mem_keys_filter_iff (h : SameFiles m s.root d) (hbase : Legal base) (test : String → Bool)
    {p : String} :
    p ∈ m.files.keys.filter (fun k => (stripFront? (Memory.front (join base)) k).any test) ↔
      ∃ more, more ≠ [] ∧ p = join (base ++ more) ∧ d.bytes? (s.root ++ (base ++ more)) ≠ none ∧
        test (join more) = true := by
  rw [List.mem_filter, Catalog.mem_keys]
  constructor
  · rintro ⟨hp, hany⟩
    have hparts := h.legal_parts hp
    obtain ⟨more, hmore, heq, htest⟩ :=
      (Memory.any_stripFront?_iff hbase.clear hparts.clear test).mp hany
    rw [← join_parts p, heq] at hp
    rw [heq] at hparts
    exact ⟨more, hmore, by rw [← heq, join_parts], (h.contains_iff hparts).mp hp, htest⟩
  · rintro ⟨more, hmore, rfl, hbytes, htest⟩
    obtain ⟨hne, hnames⟩ := h.files _ hbytes
    have hparts := hnames.parts_join hne
    have hclear : Memory.Clear (parts (join (base ++ more))) := by
      rw [hparts]
      exact hnames.clear
    exact ⟨(h.contains_iff hnames).mpr hbytes,
      (Memory.any_stripFront?_iff hbase.clear hclear test).mpr ⟨more, hmore, hparts, htest⟩⟩

/-- **Choice.** What a pattern that is cut before its first wildcard chooses in memory is what it finds
among the files on the disk. -/
theorem mem_select_iff_finds (h : SameFiles m s.root d) (hbase : Legal base) {p : String} :
    p ∈ m.select (join base) glob ↔ ∃ names, p = join names ∧
      Finds (fun names => d.bytes? (s.root ++ names) ≠ none) base glob names := by
  rw [Memory.select]
  by_cases hglob : glob = ""
  · simp only [Finds, if_pos, hglob, String.isEmpty_iff]
    by_cases hfile : m.files.contains (join base) = true
    · have hbytes := (h.contains_iff hbase).mp hfile
      rw [if_pos hfile, List.mem_singleton]
      constructor
      · rintro rfl
        exact ⟨base, rfl, hbytes, .inl ⟨hbytes, rfl⟩⟩
      · rintro ⟨names, rfl, -, ⟨-, rfl⟩ | ⟨hno, -⟩⟩
        · rfl
        · exact absurd hbytes hno
    · have hbytes := (not_congr (h.contains_iff hbase)).mp hfile
      rw [if_neg hfile, mem_keys_filter_iff h hbase]
      constructor
      · rintro ⟨more, hmore, rfl, hmem, hslash⟩
        obtain ⟨n, rfl⟩ := (Memory.contains_slash_join_iff
          (h.files _ hmem).2.of_append_right.isSegment hmore).mp hslash
        exact ⟨base ++ [n], rfl, hmem, .inr ⟨hbytes, n, rfl⟩⟩
      · rintro ⟨names, rfl, hmem, ⟨hbase', -⟩ | ⟨-, n, rfl⟩⟩
        · exact absurd hbase' hbytes
        · exact ⟨[n], by simp, rfl, hmem, (Memory.contains_slash_join_iff
            (h.files _ hmem).2.of_append_right.isSegment (by simp)).mpr ⟨n, rfl⟩⟩
  · rw [if_neg (by simpa using hglob), mem_keys_filter_iff h hbase]
    simp only [Finds, if_neg hglob]
    constructor
    · rintro ⟨more, hmore, rfl, hmem, hmatch⟩
      exact ⟨base ++ more, rfl, hmem, more, hmore, rfl, hmatch⟩
    · rintro ⟨names, rfl, hmem, more, hmore, rfl, hmatch⟩
      exact ⟨more, hmore, rfl, hmem, hmatch⟩

/-- The paths that a pattern resolves to in memory are those that are chosen. -/
theorem mem_resolve_paths {q : String} (hp : Memory.normalize text = .ok q)
    {found : List (String × MemoryFile)} (hfound : m.resolve text = .ok found) {p : String} :
    p ∈ found.map Prod.fst ↔ p ∈ m.select (splitPattern q).1 (splitPattern q).2 := by
  have hstored : p ∈ m.select (splitPattern q).1 (splitPattern q).2 → ∃ f, m.files.get? p = some f := by
    intro hp
    rw [← Option.isSome_iff_exists]
    rw [Memory.select] at hp
    split at hp
    · split at hp
      · rename_i hfile
        rwa [List.mem_singleton.mp hp]
      · exact Catalog.mem_keys.mp (List.mem_filter.mp hp).1
    · exact Catalog.mem_keys.mp (List.mem_filter.mp hp).1
  rw [List.mem_map]
  constructor
  · rintro ⟨⟨p, f⟩, hf, rfl⟩
    exact ((Memory.mem_resolve_iff hp hfound).mp hf).1
  · intro hselect
    obtain ⟨f, hf⟩ := hstored hselect
    exact ⟨(p, f), (Memory.mem_resolve_iff hp hfound).mpr ⟨hselect, hf⟩, rfl⟩

/-! ## Cutting a pattern -/

section Pattern

variable (hpattern : ∀ t ∈ segments (normalize text), IsLegal t ∨ hasWildcard t = true)

include hpattern

theorem legal_fixedPart : Legal (fixedPart (segments (normalize text))) := by
  intro t ht
  have hliteral := hasWildcard_of_mem_fixedPart ht
  rcases hpattern t (mem_of_mem_fixedPart ht) with hlegal | hwild
  · exact hlegal
  · rw [hliteral] at hwild
    cases hwild

theorem isLoose_of_mem_wildPart : ∀ t ∈ wildPart (segments (normalize text)), IsLoose t := by
  intro t ht
  have hmem := mem_of_mem_wildPart ht
  exact ⟨isSegment_of_mem_segments hmem, (hpattern t hmem).imp_left IsLegal.tidy⟩

/-- **Memory.** What the store in memory finds, each file once. -/
theorem resolve_finds (h : SameFiles m s.root d) :
    ∃ found, m.resolve text = .ok found ∧ (found.map Prod.fst).Nodup ∧
      ∀ p, p ∈ found.map Prod.fst ↔ ∃ names, p = join names ∧
        Finds (fun names => d.bytes? (s.root ++ names) ≠ none) (fixedPart (segments (normalize text)))
          (join (wildPart (segments (normalize text)))) names := by
  have hbase := legal_fixedPart hpattern
  have hg := isLoose_of_mem_wildPart hpattern
  have hup : ".." ∉ segments (normalize text) := fun hup => by
    rcases hpattern _ hup with hlegal | hwild
    · exact hlegal.name.ne_up rfl
    · simp [hasWildcard, isWildcard] at hwild
  have hnormal := Memory.normalize_of_not_mem hup
  have hfound := Memory.resolve_eq (m := m) hnormal
  -- the pattern is read once more, which trims the edges of the part with the wildcards
  obtain ⟨glob, hcut, hempty, htrim⟩ := splitPattern_join
    (fun t ht => ⟨(hbase t ht).isSegment, (hbase t ht).tidy⟩)
    (fun t ht => hasWildcard_of_mem_fixedPart ht) hg hasWildcard_of_mem_head?_wildPart
  rw [fixedPart_append_wildPart] at hcut
  rw [← join_eq_empty_iff fun t ht => (hg t ht).segment] at hempty
  refine ⟨_, hfound, (Memory.increasing_resolve hfound).imp fun hlt => String.ne_of_lt hlt,
    fun p => ?_⟩
  rw [mem_resolve_paths hnormal hfound, hcut, mem_select_iff_finds h hbase]
  simp only [finds_congr hempty htrim]

/-- **Disk.** What the store on disk finds, each file once. -/
theorem resolve_finds_on_disk (h : SameFiles m s.root d) (hplain : Local.Plain s.root d)
    (hsize : (Location.text (s.root ++ fixedPart (segments (normalize text)))).utf8ByteSize ≤
      Disk.maxPath) :
    ∃ listed, s.resolve d text = .ok listed ∧ (listed.map (·.path)).Nodup ∧
      ∀ p, p ∈ listed.map (·.path) ↔ ∃ names, p = join names ∧
        Finds (fun names => d.bytes? (s.root ++ names) ≠ none) (fixedPart (segments (normalize text)))
          (join (wildPart (segments (normalize text)))) names := by
  have hbase := legal_fixedPart hpattern
  have hg := isLoose_of_mem_wildPart hpattern
  have hwithin := hplain.within_append (fun n hn => (hbase n hn).size) hsize
  have hcut := splitPattern_eq (normalize text)
  by_cases hne : wildPart (segments (normalize text)) = []
  · rw [hne, join_nil] at hcut ⊢
    exact Local.resolve_literal hplain hcut hbase.proper hbase.isClean_join hwithin
  · have hglob : join (wildPart (segments (normalize text))) ≠ "" := by
      rwa [ne_eq, join_eq_empty_iff fun t ht => (hg t ht).segment]
    refine Local.resolve_glob hplain hcut hbase.proper hbase.isClean_join hwithin hglob
      fun hdeep more hbytes hmatch => ?_
    have hmore := (h.files _ hbytes).2.of_append_right
    exact Local.single_of_isMatch hg hne hdeep hmore.isSegment hmore.tidy_join hmatch

end Pattern

/-- **Both stores find the same files.** Let both hold the same files, with nothing on the disk that is a
link or too long, and let each segment of a pattern be a legal name or hold a wildcard. Then the store in
memory finds each file once. So does the store on disk, and it finds the same ones, if the place of the
segments before the first wildcard is not too long for the system. If it is too long, the store on disk
reports that, and there is nothing to be found in memory. -/
theorem resolve_agrees (hfiles : SameFiles m s.root d) (hplain : Local.Plain s.root d)
    (hpattern : ∀ t ∈ segments (normalize text), IsLegal t ∨ hasWildcard t = true) :
    let place := Location.text (s.root ++ fixedPart (segments (normalize text)))
    ∃ found, m.resolve text = .ok found ∧ (found.map Prod.fst).Nodup ∧
      (place.utf8ByteSize ≤ Disk.maxPath → ∃ listed, s.resolve d text = .ok listed ∧
        (listed.map (·.path)).Nodup ∧ ∀ p, p ∈ found.map Prod.fst ↔ p ∈ listed.map (·.path)) ∧
      (Disk.maxPath < place.utf8ByteSize → found = [] ∧
        s.resolve d text = .error (.disk ⟨.tooLong, place⟩)) := by
  intro place
  obtain ⟨found, hfound, hnodup, hpaths⟩ := resolve_finds hpattern hfiles
  have hbase := legal_fixedPart hpattern
  refine ⟨found, hfound, hnodup, fun hsize => ?_, fun hlong => ⟨?_, ?_⟩⟩
  · obtain ⟨listed, hlisted, hnodup, hlocal⟩ := resolve_finds_on_disk hpattern hfiles hplain hsize
    exact ⟨listed, hlisted, hnodup, fun p => by rw [hpaths, hlocal]⟩
  · -- every file at the place or below it would be too long, too
    rw [← List.map_eq_nil_iff (f := Prod.fst), List.eq_nil_iff_forall_not_mem]
    intro p hp
    obtain ⟨names, rfl, hfinds⟩ := (hpaths p).mp hp
    have hwithin := hplain.within _ (List.prefix_append ..) (Disk.at?_ne_none_of_bytes? hfinds.1)
    have hbelow := (List.prefix_append_right_inj s.root).mpr hfinds.below
    exact absurd (hwithin.of_prefix hbelow).text (Nat.not_le.mpr hlong)
  · exact Local.resolve_tooLong hplain (splitPattern_eq _) hbase.proper hbase.isClean_join hlong

/-- A store on disk with files in two directories and an empty directory beside them. -/
def notesDisk : Disk :=
  ⟨⟨[(["root"], .directory), (["root", "notes"], .directory), (["root", "empty"], .directory),
    (["root", "notes", "a.txt"], .file [1] ⟨0⟩), (["root", "notes", "old"], .directory),
    (["root", "notes", "old", "b.txt"], .file [2] ⟨0⟩)], by decide⟩⟩

/-- Two files that were stored in memory and lie on the disk are found alike. -/
theorem resolve_agrees_stars :
    let m := Memory.run (Memory.empty fun n => ⟨n⟩)
      [.write "notes/a.txt" (.bytes [1]), .write "notes/old/b.txt" (.bytes [2])]
    let s : Local := ⟨["root"], ⟨0⟩, "xxxxxxxx"⟩
    SameFiles m s.root notesDisk ∧ Local.Plain s.root notesDisk ∧
      ∃ found listed, m.resolve "notes/**/*.txt" = .ok found ∧
        s.resolve notesDisk "notes/**/*.txt" = .ok listed ∧ (found.map Prod.fst).Nodup ∧
        (listed.map (·.path)).Nodup ∧ ∀ p, p ∈ found.map Prod.fst ↔ p ∈ listed.map (·.path) := by
  intro m s
  have hfiles : SameFiles m s.root notesDisk := by decide +kernel
  have hplain : Local.Plain s.root notesDisk := by decide +kernel
  have hpattern : ∀ t ∈ segments (normalize "notes/**/*.txt"), IsLegal t ∨ hasWildcard t = true := by
    decide +kernel
  obtain ⟨found, hfound, hnodup, hagrees, -⟩ := resolve_agrees hfiles hplain hpattern
  obtain ⟨listed, hlisted, hnodup', hpaths⟩ := hagrees (by decide +kernel)
  exact ⟨hfiles, hplain, found, listed, hfound, hlisted, hnodup, hnodup', hpaths⟩

theorem hasWildcard_letters (k : Nat) : hasWildcard (letters k) = false := by
  rw [hasWildcard, List.any_eq_false]
  intro c hc
  rw [mem_letters hc]
  decide

/-- Without any file, a pattern of seventeen long names finds nothing in memory. On the disk it is too
long to be looked for. -/
theorem resolve_differs :
    let m := Memory.empty fun n => ⟨n⟩
    let s : Local := ⟨["root"], ⟨0⟩, "xxxxxxxx"⟩
    let names := List.replicate 17 (letters 250)
    SameFiles m s.root bareDisk ∧ Local.Plain s.root bareDisk ∧
      (∀ t ∈ segments (normalize (join names)), IsLegal t) ∧
      m.resolve (join names) = .ok [] ∧
      s.resolve bareDisk (join names) = .error (.disk ⟨.tooLong, Location.text (s.root ++ names)⟩) := by
  intro m s names
  have hfiles : SameFiles m s.root bareDisk := by decide +kernel
  have hplain : Local.Plain s.root bareDisk := by decide +kernel
  have hname : ∀ n ∈ names, n = letters 250 := fun n hn => List.eq_of_mem_replicate hn
  have hnames : Legal names := fun n hn => hname n hn ▸ isLegal_letters (by decide) (by decide)
  have hsegments : segments (normalize (join names)) = names := by
    rw [normalize_join hnames.isSegment hnames.tidy_join,
      segments_join hnames.isSegment hnames.tidy_join]
  have hcut : splitPattern (normalize (join names)) = (join names, "") := by
    have hfixed : ∀ n ∈ names, (!hasWildcard n) = true := fun n hn => by
      rw [hname n hn, hasWildcard_letters]
      rfl
    rw [splitPattern, hsegments, List.takeWhile_eq_self_iff.mpr hfixed,
      List.dropWhile_eq_nil_iff.mpr hfixed, join_nil]
  have hlong : Disk.maxPath < (Location.text (s.root ++ names)).utf8ByteSize := by
    have hroot : ("root" : String).utf8ByteSize = 4 := rfl
    rw [Disk.utf8ByteSize_text (by simp [s]), Disk.byteSize_append, Disk.byteSize_cons,
      Disk.byteSize_nil, Disk.byteSize_replicate, utf8ByteSize_letters, hroot]
    decide
  refine ⟨hfiles, hplain, fun t ht => hnames t (hsegments ▸ ht), ?_,
    Local.resolve_tooLong hplain hcut hnames.proper hnames.isClean_join hlong⟩
  obtain ⟨found, hfound, -, hpaths⟩ := resolve_finds
    (fun t ht => .inl (hnames t (hsegments ▸ ht))) hfiles
  have hnone : found = [] := by
    rw [← List.map_eq_nil_iff (f := Prod.fst), List.eq_nil_iff_forall_not_mem]
    intro p hp
    obtain ⟨names, -, hfile, -⟩ := (hpaths p).mp hp
    exact hfile (bytes?_bareDisk _)
  rw [hfound, hnone]

end FileDepot
