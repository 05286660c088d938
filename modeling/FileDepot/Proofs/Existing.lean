import FileDepot.Proofs.Local.Order
import FileDepot.Proofs.Local.Plain
import FileDepot.Proofs.Memory.Resolve

/-!
# The path of a file as a pattern

A path at which a file is can be given as a pattern. Without a wildcard in any name it stands for that
file alone, on both stores. With one, the names from the first wildcard on are read as a glob before
anything is looked up: the file is found exactly when that glob covers its own text, which it always
does when it holds no bracket (`covers_self`), and it is found alone exactly when the glob also matches
nothing else (`MatchesOnly`).

* **memory** — `Memory.resolve_at`;
* **disk** — `Local.resolve_at` without wildcards, on any disk; `Local.resolve_at_plain` with them.
-/

namespace FileDepot

open FileDepot.Path FileDepot.Text

/-- Without a wildcard, all segments come before the first one. -/
theorem fixedPart_of_wildPart_eq_nil {pattern : List String} (h : wildPart pattern = []) :
    fixedPart pattern = pattern := by
  have hsplit := fixedPart_append_wildPart pattern
  rwa [h, List.append_nil] at hsplit

theorem hasWildcard_of_wildPart_eq_nil {pattern : List String} (h : wildPart pattern = []) :
    ∀ n ∈ pattern, hasWildcard n = false := fun n hn => by
  rw [← fixedPart_of_wildPart_eq_nil h] at hn
  exact hasWildcard_of_mem_fixedPart hn

/-- Without repetitions, a list holds one element alone when no other one is in it. -/
theorem eq_singleton_iff_of_nodup {α : Type} {l : List α} (h : l.Nodup) {a : α} :
    l = [a] ↔ a ∈ l ∧ ∀ b ∈ l, b = a := by
  constructor
  · rintro rfl
    exact ⟨List.mem_singleton_self a, fun b => List.mem_singleton.mp⟩
  · rintro ⟨ha, hall⟩
    refine List.perm_singleton.mp ((List.perm_ext_iff_of_nodup h (List.nodup_singleton a)).mpr ?_)
    intro b
    rw [List.mem_singleton]
    exact ⟨hall b, fun hb => hb ▸ ha⟩

namespace Memory

variable {m : Memory} {path q : String} {f : MemoryFile} {base g : List String}

/-- Whether the text of a glob is all that it matches of the stored paths below a base. -/
def MatchesOnly (m : Memory) (base g : List String) : Prop :=
  ∀ rest, m.files.contains (join (base ++ [rest])) = true → Glob.isMatch rest (join g) = true →
    rest = join g

/-- A single name below a base may be any text behind its front. -/
theorem join_concat_eq (hbase : ∀ n ∈ base, IsSegment n) (rest : String) :
    join (base ++ [rest]) = front (join base) ++ rest := by
  rw [← front_join_append hbase (List.cons_ne_nil rest []), join_singleton]

/-- What a glob finds are the stored paths whose end behind the base it matches, each with its file. -/
theorem mem_resolve_glob {p k glob : String} {k' : MemoryFile} {found : List (String × MemoryFile)}
    (hbase : ∀ n ∈ base, IsSegment n) (hglob : glob.isEmpty = false) (hp : normalize path = .ok p)
    (hsplit : splitPattern p = (join base, glob)) (hfound : m.resolve path = .ok found) :
    (k, k') ∈ found ↔ m.files.get? k = some k' ∧
      ∃ rest, k = join (base ++ [rest]) ∧ Glob.isMatch rest glob = true := by
  rw [mem_resolve_iff hp hfound, hsplit]
  simp only [select, hglob, Bool.false_eq_true, if_false, List.mem_filter, Catalog.mem_keys,
    Option.any_eq_true, stripFront?_eq_some_iff, ← join_concat_eq hbase]
  constructor
  · rintro ⟨⟨-, hrest⟩, hk⟩
    exact ⟨hk, hrest⟩
  · rintro ⟨hk, hrest⟩
    exact ⟨⟨Option.isSome_iff_exists.mpr ⟨_, hk⟩, hrest⟩, hk⟩

theorem nodup_resolve {found : List (String × MemoryFile)} (h : m.resolve path = .ok found) :
    found.Nodup := by
  refine List.Nodup.of_map Prod.fst ((increasing_resolve h).imp ?_)
  rintro a _ hlt rfl
  exact String.lt_irrefl a hlt

/-- What a glob finds is one file alone exactly when it matches the end of its path and no other one. -/
theorem resolve_self (hclear : Clear (base ++ g)) (hne : g ≠ [])
    (hq : normalize path = .ok (join (base ++ g)))
    (hsplit : splitPattern (join (base ++ g)) = (join base, join g))
    (hf : m.files.get? (join (base ++ g)) = some f) :
    ∃ found, m.resolve path = .ok found ∧
      (found = [(join (base ++ g), f)] ↔ Glob.Covers g g ∧ m.MatchesOnly base g) ∧
      ((join (base ++ g), f) ∈ found ↔ Glob.Covers g g) := by
  have hbase : Clear base := fun n hn => hclear n (List.mem_append_left _ hn)
  have hg : Clear g := fun n hn => hclear n (List.mem_append_right _ hn)
  have hglob : (join g).isEmpty = false :=
    Bool.eq_false_iff.mpr fun h => hne ((isEmpty_join_iff hg.isSegment).mp h)
  have hmatch := Glob.isMatch_join_iff hne hg.isSegment hg.tidy_join hg.isSegment hg.tidy_join
  have hself : join (base ++ g) = join (base ++ [join g]) := by
    rw [join_concat_eq hbase.isSegment, front_join_append hbase.isSegment hne]
  have hend {rest : String} (h : join (base ++ g) = join (base ++ [rest])) : rest = join g := by
    rw [hself, join_concat_eq hbase.isSegment, join_concat_eq hbase.isSegment] at h
    exact ((String.append_right_inj _).mp h).symm
  obtain ⟨found, hfound⟩ : ∃ found, m.resolve path = .ok found := ⟨_, resolve_eq hq⟩
  have hmem {k : String} {k' : MemoryFile} : (k, k') ∈ found ↔ m.files.get? k = some k' ∧
      ∃ rest, k = join (base ++ [rest]) ∧ Glob.isMatch rest (join g) = true :=
    mem_resolve_glob hbase.isSegment hglob hq hsplit hfound
  have hin : (join (base ++ g), f) ∈ found ↔ Glob.Covers g g := by
    rw [hmem, ← hmatch]
    constructor
    · rintro ⟨-, rest, hrest, hcovers⟩
      rwa [hend hrest] at hcovers
    · intro hcovers
      exact ⟨hf, join g, hself, hcovers⟩
  refine ⟨found, hfound, ?_, hin⟩
  rw [eq_singleton_iff_of_nodup (nodup_resolve hfound), hin]
  refine and_congr_right fun _ => ⟨fun hall rest hstored hcovers => ?_, fun honly x hx => ?_⟩
  · obtain ⟨k', hk'⟩ := Option.isSome_iff_exists.mp hstored
    have hx := hall _ (hmem.mpr ⟨hk', rest, rfl, hcovers⟩)
    exact hend (Prod.mk.inj hx).1.symm
  · obtain ⟨k, k'⟩ := x
    obtain ⟨hk', rest, rfl, hcovers⟩ := hmem.mp hx
    obtain rfl := honly rest (Option.isSome_iff_exists.mpr ⟨k', hk'⟩) hcovers
    rw [← hself] at hk' ⊢
    rw [Option.some.inj (hk'.symm.trans hf)]

/-- **Memory.** The path of a file stands for that file alone exactly if it holds no wildcard, or if the glob
in it covers itself and matches nothing else. The file is found whenever that glob covers itself. -/
theorem resolve_at (htidy : ∀ n ∈ segments (Path.normalize path), Tidy n)
    (hq : normalize path = .ok q) (hf : m.files.get? q = some f) :
    ∃ found, m.resolve path = .ok found ∧
      (found = [(q, f)] ↔ wildPart (segments (Path.normalize path)) = [] ∨
        Glob.Covers (wildPart (segments (Path.normalize path)))
          (wildPart (segments (Path.normalize path))) ∧
        m.MatchesOnly (fixedPart (segments (Path.normalize path)))
          (wildPart (segments (Path.normalize path)))) ∧
      ((q, f) ∈ found ↔ Glob.Covers (wildPart (segments (Path.normalize path)))
        (wildPart (segments (Path.normalize path)))) := by
  have hclear : Clear (segments (Path.normalize path)) := fun n hn =>
    ⟨isSegment_of_mem_segments hn, htidy n hn⟩
  by_cases hg : wildPart (segments (Path.normalize path)) = []
  · obtain ⟨hfound, -⟩ := resolve_file hclear (hasWildcard_of_wildPart_eq_nil hg) hq hf
    exact ⟨_, hfound, by simp [hg], by simp [hg, Glob.covers_nil_iff]⟩
  · obtain ⟨-, rfl⟩ := normalize_eq_ok hq
    have hsplit := splitPattern_eq (join (segments (Path.normalize path)))
    rw [segments_join hclear.isSegment hclear.tidy_join] at hsplit
    rw [← fixedPart_append_wildPart (segments (Path.normalize path))] at hclear hq hf
    have hself := resolve_self hclear hg hq (by rwa [fixedPart_append_wildPart]) hf
    rw [fixedPart_append_wildPart] at hself
    simpa only [hg, false_or] using hself

end Memory

namespace Local

open Disk Location

variable {s : Local} {d : Disk} {path : String} {data : Bytes}

/-- A tidy path without backslashes has the same names as segments. -/
theorem names_eq_segments {p : String} (ht : Tidy p) (hback : '\\' ∉ p.toList) :
    Location.names p = segments p := by
  rw [Location.names, segments, segmentChars, tidy_iff.mp ht, unifySeparators_eq_self hback]

/-- A relative path is followed by its segments, if none has a blank at an edge. -/
theorem joined_join_segments (htidy : ∀ n ∈ parts (normalize path), Tidy n)
    (hrelative : isAbsolute (normalize path) = false) :
    s.joined (join (segments (normalize path))) = s.joined path := by
  set segs := segments (normalize path)
  have hwhole : Tidy (normalize path) := tidy_of_parts htidy
  have hnames : Location.names (normalize path) = segs :=
    names_eq_segments hwhole (backslash_not_mem_normalize path)
  have hsegs : ∀ n ∈ segs, IsSegment n := fun n hn => isSegment_of_mem_segments hn
  have hjoin : Tidy (join segs) := by
    refine tidy_join (fun n hn => (hsegs n hn).ne_empty) fun n hn => htidy n ?_
    rw [← hnames] at hn
    obtain ⟨c, hc, rfl⟩ := List.mem_map.mp hn
    exact List.mem_map_of_mem (List.mem_filter.mp hc).1
  have hrelative' : isAbsolute (join segs) = false := by
    rw [isAbsolute, decide_eq_false_iff_not]
    exact fun hslash => (edges_join_ne_slash hsegs).1 _ hslash rfl
  have hnames' : Location.names (join segs) = segs := by
    rw [names_eq_segments hjoin (backslash_not_mem_join hsegs), segments_join hsegs hjoin]
  rw [joined, joined, normalize_join hsegs hjoin, hrelative, hrelative', hnames, hnames']

/-- What is accepted is told by the names that are followed. -/
theorem realPlace_congr {p q : String} (h : s.joined p = s.joined q) {l : Location}
    (hl : s.realPlace d q = .ok l) : s.realPlace d p = .ok l := by
  rw [realPlace, ← h] at hl
  rw [realPlace]
  split at hl
  · cases hl
  · cases hl
  · split at hl
    · rename_i hin
      rw [if_pos hin]
      exact hl
    · cases hl

/-- **Disk, without wildcards.** A relative path that opens a file stands for that file alone: for the one
at its real location, whatever links are on the way. -/
theorem resolve_at (htidy : ∀ n ∈ parts (normalize path), Tidy n)
    (hrelative : isAbsolute (normalize path) = false)
    (hliteral : wildPart (segments (normalize path)) = []) (hdata : s.contents d path = .ok data) :
    ∃ l modified, s.realPlace d path = .ok l ∧ status d l = .ok (.file data modified) ∧
      s.resolve d path = .ok [s.fileAt l] := by
  obtain ⟨l, hl, hdata⟩ := Outcome.bind_eq_ok hdata
  obtain ⟨⟨data, modified⟩, hread, hdata⟩ := Outcome.bind_eq_ok hdata
  obtain rfl : data = _ := Except.ok.inj hdata
  obtain ⟨k, hk, hnode⟩ := readFile_spec (Outcome.mapError_eq_ok.mp hread)
  have hbase : s.realPlace d (join (segments (normalize path))) = .ok l :=
    realPlace_congr (joined_join_segments htidy hrelative) hl
  have hfile : d.isFile l = .ok true := by
    rw [isFile, ask, hk]
    simp [hnode]
  have hsplit : splitPattern (normalize path) = (join (segments (normalize path)), "") := by
    rw [splitPattern_eq, hliteral, fixedPart_of_wildPart_eq_nil hliteral, join_nil]
  have hempty : ("" : String).isEmpty = true := rfl
  refine ⟨l, modified, hl, status_of_locate hk hnode, ?_⟩
  simp only [resolve, hsplit, hbase, hfile, hempty, Outcome.ok_bind, Outcome.mapError_ok, if_true]
  rfl

/-- Whether the names of a glob are all that it matches of the files below a base. -/
def MatchesOnly (s : Local) (d : Disk) (base g : List String) : Prop :=
  ∀ more, more ≠ [] → d.bytes? (s.root ++ (base ++ more)) ≠ none →
    (isDeep (join g) = true ∨ ∃ n, more = [n]) → Glob.isMatch (join more) (join g) = true → more = g

/-- What is listed on a plain disk is told by its path. -/
theorem eq_singleton_iff_paths (h : Plain s.root d) {listed : List LocalFile}
    (hlisted : s.resolve d path = .ok listed) {names : List String} (hnames : IsProper names) :
    listed = [⟨s.root ++ names, join names⟩] ↔ listed.map (·.path) = [join names] := by
  constructor
  · rintro rfl
    rfl
  · intro hpaths
    obtain ⟨f, rfl, hpath⟩ := List.map_eq_singleton_iff.mp hpaths
    obtain ⟨l, rfl, hfile, hl, more, rfl⟩ :=
      resolve_spec h.tree h.proper_root hlisted (List.mem_singleton_self f)
    have hmore : IsProper more := fun n hn => hl n (List.mem_append_right _ hn)
    obtain ⟨data, modified, -, hnode⟩ := file_of_isFile h.tree (h.isReal hmore) hfile
    have hne : more ≠ [] := by
      rintro rfl
      simp [h.directory] at hnode
    rw [fileAt_append hne] at hpath ⊢
    rw [join_injective hmore hnames hpath]

theorem isClean_join_of_clear {names : List String} (h : Memory.Clear names) : IsClean (join names) :=
  ⟨h.tidy_join, backslash_not_mem_join h.isSegment⟩

/-- A glob that matches its own text is looked for as deep as its names are. -/
theorem isDeep_or_single {g : List String} (hg : Memory.Clear g) (hne : g ≠ [])
    (hmatch : Glob.isMatch (join g) (join g) = true) : isDeep (join g) = true ∨ ∃ n, g = [n] := by
  cases hdeep : isDeep (join g) with
  | true => exact .inl rfl
  | false =>
    exact .inr (single_of_isMatch (fun t ht => ⟨hg.isSegment t ht, .inl (hg t ht).2⟩) hne hdeep
      hg.isSegment hg.tidy_join hmatch)

/-- On a plain disk, what a glob finds is one file alone exactly when it matches the end of its path and
no other one. -/
theorem resolve_self (h : Plain s.root d) {base g : List String}
    (hsplit : splitPattern (normalize path) = (join base, join g)) (hclear : Memory.Clear (base ++ g))
    (hne : g ≠ []) (hfile : d.bytes? (s.root ++ (base ++ g)) ≠ none) :
    ∃ listed, s.resolve d path = .ok listed ∧
      (listed = [⟨s.root ++ (base ++ g), join (base ++ g)⟩] ↔
        Glob.Covers g g ∧ s.MatchesOnly d base g) ∧
      (join (base ++ g) ∈ listed.map (·.path) ↔ Glob.Covers g g) := by
  have hproper : IsProper (base ++ g) := h.proper_of_node (at?_ne_none_of_bytes? hfile)
  have hdir := h.directory_of_bytes? hne hfile
  have hbase : Memory.Clear base := fun n hn => hclear n (List.mem_append_left _ hn)
  have hg : Memory.Clear g := fun n hn => hclear n (List.mem_append_right _ hn)
  have hmatch := Glob.isMatch_join_iff hne hg.isSegment hg.tidy_join hg.isSegment hg.tidy_join
  obtain ⟨listed, hlisted, hnodup, hpaths⟩ := resolve_below h hsplit
    (fun n hn => hproper n (List.mem_append_left _ hn)) (isClean_join_of_clear hbase)
    (h.within _ (List.prefix_append ..) (by simp [hdir]))
    fun hempty => hne ((join_eq_empty_iff hg.isSegment).mp hempty)
  have hsame {more : List String} (hmore : d.bytes? (s.root ++ (base ++ more)) ≠ none)
      (heq : join (base ++ more) = join (base ++ g)) : more = g :=
    List.append_cancel_left (join_injective (h.proper_of_node (at?_ne_none_of_bytes? hmore)) hproper heq)
  have hin : join (base ++ g) ∈ listed.map (·.path) ↔ Glob.Covers g g := by
    rw [hpaths, ← hmatch]
    constructor
    · rintro ⟨more, heq, -, -, hcovers, hmore⟩
      rwa [hsame hmore heq.symm] at hcovers
    · intro hcovers
      exact ⟨g, rfl, hne, isDeep_or_single hg hne hcovers, hcovers, hfile⟩
  refine ⟨listed, hlisted, ?_, hin⟩
  rw [eq_singleton_iff_paths h hlisted hproper, eq_singleton_iff_of_nodup hnodup, hin]
  refine and_congr_right fun _ => ⟨fun hall more hmore hbytes hdeep hcovers => ?_, fun honly p hp => ?_⟩
  · exact hsame hbytes (hall _ ((hpaths _).mpr ⟨more, rfl, hmore, hdeep, hcovers, hbytes⟩))
  · obtain ⟨more, rfl, hmore, hdeep, hcovers, hbytes⟩ := (hpaths p).mp hp
    rw [honly more hmore hbytes hdeep hcovers]

/-- **Disk, with wildcards.** On a plain disk, the path of a file stands for that file alone exactly if it
holds no wildcard, or if the glob in it covers itself and matches nothing else. The file is found whenever
that glob covers itself. -/
theorem resolve_at_plain (h : Plain s.root d) (htidy : ∀ n ∈ segments (normalize path), Tidy n)
    (hfile : d.bytes? (s.root ++ segments (normalize path)) = some data) :
    ∃ listed, s.resolve d path = .ok listed ∧
      (listed = [⟨s.root ++ segments (normalize path), join (segments (normalize path))⟩] ↔
        wildPart (segments (normalize path)) = [] ∨
          Glob.Covers (wildPart (segments (normalize path))) (wildPart (segments (normalize path))) ∧
          s.MatchesOnly d (fixedPart (segments (normalize path)))
            (wildPart (segments (normalize path)))) ∧
      (join (segments (normalize path)) ∈ listed.map (·.path) ↔
        Glob.Covers (wildPart (segments (normalize path))) (wildPart (segments (normalize path)))) := by
  have hclear : Memory.Clear (segments (normalize path)) := fun n hn =>
    ⟨isSegment_of_mem_segments hn, htidy n hn⟩
  have hcut := splitPattern_eq (normalize path)
  by_cases hg : wildPart (segments (normalize path)) = []
  · rw [hg, fixedPart_of_wildPart_eq_nil hg, join_nil] at hcut
    exact ⟨_, resolve_literal_file h hcut (isClean_join_of_clear hclear) hfile, by simp [hg],
      by simp [hg, Glob.covers_nil_iff]⟩
  · have hself := resolve_self h hcut (by rwa [fixedPart_append_wildPart]) hg
      (by simp [fixedPart_append_wildPart, hfile])
    rw [fixedPart_append_wildPart] at hself
    simpa only [hg, false_or] using hself

end Local

/-- **A file by its path.** In memory, the path of a file stands for that file alone exactly if no name of
it holds a wildcard, or if the glob that its names are read as from the first wildcard on covers itself and
matches nothing else that is stored. On disk, a relative path without wildcards that opens a file stands for
that file alone, links or not; and on a plain disk the path of a file stands for it alone under the same
condition as in memory. On both stores the file is among what is found exactly when its glob covers itself,
and a glob without a bracket does. No segment of the path may have a blank at an edge. -/
theorem existing_file_resolves (path : String) :
    let names := segments (normalize path)
    let base := fixedPart names
    let glob := wildPart names
    (∀ (m : Memory) (q : String) (f : MemoryFile), (∀ n ∈ names, Tidy n) →
      Memory.normalize path = .ok q → m.files.get? q = some f →
      ∃ found, m.resolve path = .ok found ∧
        (found = [(q, f)] ↔ glob = [] ∨ Glob.Covers glob glob ∧ m.MatchesOnly base glob) ∧
        ((q, f) ∈ found ↔ Glob.Covers glob glob)) ∧
    (∀ (s : Local) (d : Disk) (data : Bytes), (∀ n ∈ parts (normalize path), Tidy n) →
      Location.isAbsolute (normalize path) = false → glob = [] → s.contents d path = .ok data →
      ∃ l modified, s.realPlace d path = .ok l ∧ Local.status d l = .ok (.file data modified) ∧
        s.resolve d path = .ok [s.fileAt l]) ∧
    (∀ (s : Local) (d : Disk) (data : Bytes), Local.Plain s.root d → (∀ n ∈ names, Tidy n) →
      d.bytes? (s.root ++ names) = some data →
      ∃ listed, s.resolve d path = .ok listed ∧
        (listed = [⟨s.root ++ names, join names⟩] ↔
          glob = [] ∨ Glob.Covers glob glob ∧ s.MatchesOnly d base glob) ∧
        (join names ∈ listed.map (·.path) ↔ Glob.Covers glob glob)) ∧
    ((∀ t ∈ glob, '[' ∉ t.toList) → Glob.Covers glob glob) :=
  ⟨fun _ _ _ => Memory.resolve_at, fun _ _ _ => Local.resolve_at,
    fun _ _ _ => Local.resolve_at_plain, Glob.covers_self⟩

/-- A disk with two files below the root, one under a name with a wildcard that matches the other name. -/
def wildDisk : Disk :=
  ⟨⟨[(["root"], .directory), (["root", "a?"], .file [2] ⟨0⟩), (["root", "ab"], .file [1] ⟨0⟩)],
    by decide⟩⟩

/-- A name with a question mark finds its own file, and one without finds it alone. -/
theorem existing_file_resolves_wild :
    let m := Memory.run (Memory.empty fun n => ⟨n⟩) [.write "a?" (.bytes [2]), .write "ab" (.bytes [1])]
    (∃ f found, m.files.get? "a?" = some f ∧ m.resolve "./a?" = .ok found ∧ ("a?", f) ∈ found) ∧
      Local.rootStore.resolve wildDisk "./ab" = .ok [⟨["root", "ab"], "ab"⟩] ∧
      ∃ listed, Local.rootStore.resolve wildDisk "a?" = .ok listed ∧ "a?" ∈ listed.map (·.path) := by
  intro m
  have hcut : wildPart (segments (normalize "./a?")) = ["a?"] ∧
      wildPart (segments (normalize "a?")) = ["a?"] ∧ segments (normalize "a?") = ["a?"] := by
    decide +kernel
  refine ⟨?_, ?_, ?_⟩
  · obtain ⟨hmemory, -, -, hself⟩ := existing_file_resolves "./a?"
    rw [hcut.1] at hself
    have hfile : m.files.get? "a?" = some ⟨[2], ⟨0⟩, some ⟨0⟩⟩ := by decide +kernel
    obtain ⟨found, hfound, -, hiff⟩ := hmemory m "a?" _ (by decide +kernel) (by decide +kernel) hfile
    rw [hcut.1] at hiff
    exact ⟨_, found, hfile, hfound, hiff.mpr (hself (by decide))⟩
  · obtain ⟨-, hliteral, -⟩ := existing_file_resolves "./ab"
    obtain ⟨l, modified, hplace, -, hfound⟩ := hliteral Local.rootStore wildDisk [1]
      (by decide +kernel) (by decide +kernel) (by decide +kernel) (by decide +kernel)
    have hplace' : Local.rootStore.realPlace wildDisk "./ab" = .ok ["root", "ab"] := by decide +kernel
    obtain rfl := Except.ok.inj (hplace.symm.trans hplace')
    exact hfound
  · obtain ⟨-, -, hplain, hself⟩ := existing_file_resolves "a?"
    rw [hcut.2.1] at hself
    obtain ⟨listed, hlisted, -, hiff⟩ := hplain Local.rootStore wildDisk [2] (by decide +kernel)
      (by decide +kernel) (by decide +kernel)
    rw [hcut.2.1, hcut.2.2, join_singleton] at hiff
    exact ⟨listed, hlisted, hiff.mpr (hself (by decide))⟩

/-- A disk with two files below the root, one under a name with brackets that match the other name. -/
def bracketDisk : Disk :=
  ⟨⟨[(["root"], .directory), (["root", "a[b]"], .file [2] ⟨0⟩), (["root", "ab"], .file [1] ⟨0⟩)],
    by decide⟩⟩

/-- A file under a name with brackets can be opened by its path, but as a pattern the path stands for
another file, in memory as on disk. On disk, a path that starts at the top once it is clean opens a file
below the root as well, and stands for none. -/
theorem existing_file_missed :
    let m := Memory.run (Memory.empty fun n => ⟨n⟩) [.write "a[b]" (.bytes [2]), .write "ab" (.bytes [1])]
    m.contents "a[b]" = .ok [2] ∧ m.resolve "a[b]" = .ok [("ab", ⟨[1], ⟨1⟩, some ⟨1⟩⟩)] ∧
      Local.Plain Local.rootStore.root bracketDisk ∧
      Local.rootStore.contents bracketDisk "a[b]" = .ok [2] ∧
      Local.rootStore.resolve bracketDisk "a[b]" = .ok [⟨["root", "ab"], "ab"⟩] ∧
      (Local.rootStore.write bracketDisk ".//root/ab" (.bytes [3])).1 = .ok ["root", "ab"] ∧
      Local.rootStore.contents bracketDisk ".//root/ab" = .ok [1] ∧
      Local.rootStore.resolve bracketDisk ".//root/ab" = .ok [] := by
  intro m
  have hnormal : Memory.normalize "a[b]" = .ok "a[b]" := by decide +kernel
  have hmemory := Memory.resolve_of_sorted (m := m) ["ab"] hnormal (by decide +kernel)
    (List.pairwise_singleton ..)
  refine ⟨by decide +kernel, hmemory.trans (by decide +kernel), by decide +kernel, by decide +kernel,
    ?_, by decide +kernel, by decide +kernel, by decide +kernel⟩
  exact Local.resolve_of_sorted (by decide +kernel) (by decide) (by decide +kernel) (by decide +kernel)
    rfl (by decide +kernel) (by decide +kernel)

end FileDepot
