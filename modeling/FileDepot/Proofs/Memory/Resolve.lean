import FileDepot.Proofs.Memory.Keys
import FileDepot.Proofs.Path.Glob
import FileDepot.Proofs.Text.Order
import Mathlib.Data.List.TakeWhile

/-!
# What patterns stand for in memory

Resolving a pattern cuts it before its first wildcard, cuts what is then a path off the front of each
stored path as text, and matches only the rest. `StandsFor` tells what this comes to, by segments: the
whole pattern against the whole path.

* **front** — `stripFront?_front_iff`: cutting text off a path is cutting segments off it;
* **choice** — `mem_select_iff`: the stored paths that are chosen;
* **pattern** — `resolve_run`: what resolving answers, after any writes and removals.
-/

namespace FileDepot.Memory

open FileDepot.Text FileDepot.Path

/-- The stored paths that the segments of a pattern stand for. With a wildcard, these are the paths
strictly below the segments before it that are covered as a whole. Otherwise it is the path of the
segments, or if there is no file the paths with one segment more. -/
def StandsFor (m : Memory) (pattern : List String) (k : String) : Prop :=
  m.files.contains k = true ∧
    if ∃ t ∈ pattern, hasWildcard t = true then
      pattern.takeWhile (!hasWildcard ·) <+: parts k ∧
        pattern.takeWhile (!hasWildcard ·) ≠ parts k ∧ Glob.Covers pattern (parts k)
    else if m.files.contains (join pattern) = true then k = join pattern
    else ∃ n, parts k = pattern ++ [n]

variable {m : Memory} {base segs pattern : List String} {k : String}

/-! ## Cutting off a front -/

theorem isEmpty_join_iff (hsegs : ∀ n ∈ segs, IsSegment n) :
    (join segs).isEmpty = true ↔ segs = [] := by
  rw [String.isEmpty_iff, join_eq_empty_iff hsegs]

/-- What stands below segments is what is behind their front. -/
theorem front_join_append (hbase : ∀ n ∈ base, IsSegment n) {more : List String} (hmore : more ≠ []) :
    front (join base) ++ join more = join (base ++ more) := by
  rw [front]
  by_cases hb : base = []
  · have hroot : (if (join []).isEmpty then "" else join [] ++ "/") = "" := rfl
    rw [hb, hroot, String.empty_append, List.nil_append]
  · rw [if_neg fun h => hb ((isEmpty_join_iff hbase).mp h), join_append hb hmore]

/-- What is left behind a front is what is left of the segments. -/
theorem stripFront?_front_iff (hbase : ∀ n ∈ base, IsSegment n) (hsegs : ∀ n ∈ segs, IsSegment n)
    (hne : segs ≠ []) {rest : String} :
    stripFront? (front (join base)) (join segs) = some rest ↔
      ∃ more, more ≠ [] ∧ segs = base ++ more ∧ rest = join more := by
  rw [stripFront?_eq_some_iff]
  constructor
  · intro h
    have hrest : ∀ n ∈ base ++ parts rest, '/' ∉ n.toList := fun n hn =>
      (List.mem_append.mp hn).elim (fun hn => (hbase n hn).no_slash) slash_not_mem_of_mem_parts
    refine ⟨parts rest, parts_ne_nil rest, ?_, (join_parts rest).symm⟩
    rw [← join_parts rest, front_join_append hbase (parts_ne_nil rest)] at h
    rw [← parts_join_of_segments hne hsegs, h, parts_join (by simp [parts_ne_nil]) hrest]
  · rintro ⟨more, hmore, rfl, rfl⟩
    exact (front_join_append hbase hmore).symm

/-- A path is a single segment when it holds no `/`. -/
theorem contains_slash_join_iff (hsegs : ∀ n ∈ segs, IsSegment n) (hne : segs ≠ []) :
    (!(join segs).toList.contains '/') = true ↔ ∃ n, segs = [n] := by
  have hparts := parts_eq_singleton_iff (p := join segs)
  rw [parts_join_of_segments hne hsegs] at hparts
  rw [hparts, Bool.not_eq_true', List.contains_eq_mem, decide_eq_false_iff_not]

/-! ## Choosing paths -/

theorem dropWhile_eq_nil_iff :
    pattern.dropWhile (!hasWildcard ·) = [] ↔ ¬ ∃ t ∈ pattern, hasWildcard t = true := by
  simp [List.dropWhile_eq_nil_iff]

/-- Segments that count, with no blank at any edge. -/
def Clear (segs : List String) : Prop := ∀ n ∈ segs, IsSegment n ∧ Tidy n

theorem Clear.isSegment (h : Clear segs) : ∀ n ∈ segs, IsSegment n := fun n hn => (h n hn).1

theorem Clear.tidy_join (h : Clear segs) : Tidy (join segs) :=
  Path.tidy_join (fun n hn => (h n hn).1.ne_empty) fun n hn => (h n hn).2

theorem Clear.sublist {more : List String} (h : Clear segs) (hsub : more.Sublist segs) :
    Clear more := fun n hn => h n (hsub.subset hn)

/-- Testing what is left behind a front is testing the segments that are left. -/
theorem any_stripFront?_iff (hbase : Clear base) (hk : Clear (parts k)) (f : String → Bool) :
    (stripFront? (front (join base)) k).any f = true ↔
      ∃ more, more ≠ [] ∧ parts k = base ++ more ∧ f (join more) = true := by
  have hfront (rest : String) : stripFront? (front (join base)) k = some rest ↔
      ∃ more, more ≠ [] ∧ parts k = base ++ more ∧ rest = join more := by
    rw [← stripFront?_front_iff hbase.isSegment hk.isSegment (parts_ne_nil k), join_parts]
  rw [Option.any_eq_true]
  constructor
  · rintro ⟨rest, hrest, hf⟩
    obtain ⟨more, hmore, hparts, rfl⟩ := (hfront rest).mp hrest
    exact ⟨more, hmore, hparts, hf⟩
  · rintro ⟨more, hmore, hparts, hf⟩
    exact ⟨join more, (hfront _).mpr ⟨more, hmore, hparts, rfl⟩, hf⟩

/-- With a wildcard, the paths that are chosen are covered by the whole pattern. -/
theorem mem_select_wildcard (hkeys : ∀ k, m.files.contains k = true → Clear (parts k))
    (hpattern : Clear pattern) (hwild : ∃ t ∈ pattern, hasWildcard t = true) :
    k ∈ m.select (join (pattern.takeWhile (!hasWildcard ·)))
        (join (pattern.dropWhile (!hasWildcard ·))) ↔ StandsFor m pattern k := by
  set base := pattern.takeWhile (!hasWildcard ·)
  set glob := pattern.dropWhile (!hasWildcard ·)
  have hsplit : base ++ glob = pattern := List.takeWhile_append_dropWhile
  have hbase : Clear base := hpattern.sublist (List.takeWhile_sublist _)
  have hglob : Clear glob := hpattern.sublist (List.dropWhile_sublist _)
  have hne : glob ≠ [] := fun h => dropWhile_eq_nil_iff.mp h hwild
  have hliteral : ∀ t ∈ base, hasWildcard t = false := fun t ht => by
    simpa using List.mem_takeWhile_imp ht
  rw [select, if_neg fun h => hne ((isEmpty_join_iff hglob.isSegment).mp h), List.mem_filter,
    Catalog.mem_keys, StandsFor, if_pos hwild]
  refine and_congr_right fun hk => ?_
  have hclear := hkeys k hk
  have hcover := Glob.covers_append_iff hliteral glob (parts k)
  rw [hsplit] at hcover
  rw [any_stripFront?_iff hbase hclear, hcover]
  constructor
  · -- the text that is left is matched by its segments, which are those behind the base
    rintro ⟨more, hmore, hparts, hmatch⟩
    have hrest : Clear more := fun n hn => hclear n (by simp [hparts, hn])
    refine ⟨⟨more, hparts.symm⟩, ?_, more, hparts, ?_⟩
    · intro h
      exact hmore (List.self_eq_append_right.mp (h.trans hparts))
    · exact (Glob.isMatch_join_iff hne hglob.isSegment hglob.tidy_join hrest.isSegment
        hrest.tidy_join).mp hmatch
  · rintro ⟨-, hstrict, more, hparts, hcovers⟩
    have hrest : Clear more := fun n hn => hclear n (by simp [hparts, hn])
    refine ⟨more, ?_, hparts, ?_⟩
    · rintro rfl
      exact hstrict (by simpa using hparts.symm)
    · exact (Glob.isMatch_join_iff hne hglob.isSegment hglob.tidy_join hrest.isSegment
        hrest.tidy_join).mpr hcovers

/-- Without a wildcard, the path itself is chosen, or the files just below it are. -/
theorem mem_select_literal (hkeys : ∀ k, m.files.contains k = true → Clear (parts k))
    (hpattern : Clear pattern) (hwild : ¬ ∃ t ∈ pattern, hasWildcard t = true) :
    k ∈ m.select (join (pattern.takeWhile (!hasWildcard ·)))
        (join (pattern.dropWhile (!hasWildcard ·))) ↔ StandsFor m pattern k := by
  have hglob := dropWhile_eq_nil_iff.mpr hwild
  have hbase : pattern.takeWhile (!hasWildcard ·) = pattern := by
    have := List.takeWhile_append_dropWhile (p := (!hasWildcard ·)) (l := pattern)
    rwa [hglob, List.append_nil] at this
  rw [hglob, hbase, select, if_pos (by rfl), StandsFor, if_neg hwild]
  -- a file at the path of the pattern goes before the files below it
  by_cases hfile : m.files.contains (join pattern) = true
  · rw [if_pos hfile, if_pos hfile, List.mem_singleton]
    constructor
    · rintro rfl
      exact ⟨hfile, rfl⟩
    · exact And.right
  · rw [if_neg hfile, if_neg hfile, List.mem_filter, Catalog.mem_keys]
    refine and_congr_right fun hk => ?_
    have hclear := hkeys k hk
    rw [any_stripFront?_iff hpattern hclear]
    constructor
    · rintro ⟨more, hmore, hparts, hslash⟩
      have hrest : Clear more := fun n hn => hclear n (by simp [hparts, hn])
      obtain ⟨n, rfl⟩ := (contains_slash_join_iff hrest.isSegment hmore).mp hslash
      exact ⟨n, hparts⟩
    · rintro ⟨n, hparts⟩
      have hrest : Clear [n] := fun x hx => hclear x (by simp_all)
      exact ⟨[n], by simp, hparts,
        (contains_slash_join_iff hrest.isSegment (by simp)).mpr ⟨n, rfl⟩⟩

/-- The stored paths that are chosen are those that the segments of the pattern stand for. -/
theorem mem_select_iff (hkeys : ∀ k, m.files.contains k = true → Clear (parts k))
    (hpattern : Clear pattern) :
    k ∈ m.select (join (pattern.takeWhile (!hasWildcard ·)))
        (join (pattern.dropWhile (!hasWildcard ·))) ↔ StandsFor m pattern k := by
  by_cases hwild : ∃ t ∈ pattern, hasWildcard t = true
  · exact mem_select_wildcard hkeys hpattern hwild
  · exact mem_select_literal hkeys hpattern hwild

theorem nodup_select (m : Memory) (base glob : String) : (m.select base glob).Nodup := by
  rw [select]
  split
  · split
    · exact by simp
    · exact m.files.nodup.filter _
  · exact m.files.nodup.filter _

/-! ## Resolving -/

/-- What a pattern resolves to, once it is known to have a normal form: the chosen paths in order, each
with its file. -/
theorem resolve_eq {p text : String} (h : normalize text = .ok p) :
    m.resolve text = .ok (((m.select (splitPattern p).1 (splitPattern p).2).mergeSort
      textOrder).filterMap fun k => (m.files.get? k).map fun f => (k, f)) := by
  simp only [resolve, h, Outcome.ok_bind, Outcome.pure_eq_ok]

/-- No sorting is needed where the chosen paths are held in order. -/
theorem resolve_of_sorted {p text : String} (paths : List String) (h : normalize text = .ok p)
    (hselect : m.select (splitPattern p).1 (splitPattern p).2 = paths)
    (hsorted : paths.Pairwise (textOrder · ·)) :
    m.resolve text = .ok (paths.filterMap fun k => (m.files.get? k).map fun f => (k, f)) := by
  rw [resolve_eq h, hselect, List.mergeSort_of_pairwise hsorted]

/-- The answer to a pattern is in strictly increasing order of its paths. -/
theorem increasing_resolve {text : String} {found : List (String × MemoryFile)}
    (h : m.resolve text = .ok found) : (found.map Prod.fst).Pairwise (· < ·) := by
  obtain ⟨p, hp, -⟩ := Outcome.bind_eq_ok h
  rw [resolve_eq hp, Except.ok.injEq] at h
  subst h
  refine List.pairwise_map.mpr ((increasing_mergeSort (nodup_select m _ _)).filterMap _ ?_)
  intro a b hab x hx y hy
  obtain ⟨f, -, rfl⟩ := Option.map_eq_some_iff.mp hx
  obtain ⟨g, -, rfl⟩ := Option.map_eq_some_iff.mp hy
  exact hab

/-- The answer to a pattern holds the chosen paths, each with the file that is stored there. -/
theorem mem_resolve_iff {p text : String} {found : List (String × MemoryFile)} {f : MemoryFile}
    (hp : normalize text = .ok p) (h : m.resolve text = .ok found) :
    (k, f) ∈ found ↔
      k ∈ m.select (splitPattern p).1 (splitPattern p).2 ∧ m.files.get? k = some f := by
  rw [resolve_eq hp, Except.ok.injEq] at h
  subst h
  simp only [List.mem_filterMap, List.mem_mergeSort, Option.map_eq_some_iff, Prod.mk.injEq]
  constructor
  · rintro ⟨_, hk, _, hf, rfl, rfl⟩
    exact ⟨hk, hf⟩
  · rintro ⟨hk, hf⟩
    exact ⟨k, hk, f, hf, rfl, rfl⟩

theorem mem_select_congr {n : Memory} (h : ∀ k, n.files.contains k = m.files.contains k) (base glob : String) :
    k ∈ n.select base glob ↔ k ∈ m.select base glob := by
  rw [select, select, h base]
  split
  · split
    · rfl
    · simp only [List.mem_filter, Catalog.mem_keys, h]
  · simp only [List.mem_filter, Catalog.mem_keys, h]

/-- The answer to a pattern is told by the files at the paths. -/
theorem resolve_congr {n : Memory} (h : ∀ k, n.files.get? k = m.files.get? k) (text : String) :
    n.resolve text = m.resolve text := by
  cases hp : normalize text with
  | error f => rw [resolve, resolve, hp, Outcome.error_bind, Outcome.error_bind]
  | ok p =>
    have hcontains (k : String) : n.files.contains k = m.files.contains k := by
      rw [Catalog.contains, Catalog.contains, h]
    have hselect : (n.select (splitPattern p).1 (splitPattern p).2).mergeSort textOrder =
        (m.select (splitPattern p).1 (splitPattern p).2).mergeSort textOrder := by
      refine eq_of_increasing (increasing_mergeSort (nodup_select n _ _))
        (increasing_mergeSort (nodup_select m _ _)) fun k => ?_
      rw [List.mem_mergeSort, List.mem_mergeSort, mem_select_congr hcontains]
    rw [resolve_eq hp, resolve_eq hp, hselect]
    simp only [h]

/-- What holds of a listed file: it is stored at its path, and opening it by its path comes back to it
exactly when the path has no blank at an edge. -/
structure Listed (m : Memory) (k : String) (f : MemoryFile) : Prop where
  /-- the file is stored at its path -/
  stored : m.files.get? k = some f
  /-- a tidy path is looked up as it is -/
  back : Tidy k → normalize k = .ok k ∧ m.contents k = .ok f.data
  /-- for any other path, the file at another path is read, if any -/
  elsewhere : ¬ Tidy k → normalize k ≠ .ok k ∧
    ∀ data, m.contents k = .ok data → ∃ q g, q ≠ k ∧ m.files.get? q = some g ∧ g.data = data

theorem contents_eq_ok {path : String} {data : Bytes} (h : m.contents path = .ok data) :
    ∃ p f, normalize path = .ok p ∧ m.files.get? p = some f ∧ f.data = data := by
  obtain ⟨p, hp, h⟩ := Outcome.bind_eq_ok h
  cases hf : m.files.get? p with
  | none => simp [hf] at h
  | some f =>
    rw [hf] at h
    exact ⟨p, f, hp, hf, Except.ok.inj h⟩

/-- Nothing is cut off a path without wildcards as a glob, and it is looked up as it is. -/
theorem splitPattern_literal {path q : String} (hclear : Clear (segments (Path.normalize path)))
    (hliteral : ∀ n ∈ segments (Path.normalize path), hasWildcard n = false)
    (hq : normalize path = .ok q) : splitPattern q = (q, "") ∧ normalize q = .ok q := by
  obtain ⟨hup, rfl⟩ := normalize_eq_ok hq
  have hall : ∀ n ∈ segments (Path.normalize path), (!hasWildcard n) = true := fun n hn => by
    simp [hliteral n hn]
  constructor
  · rw [splitPattern, segments_join hclear.isSegment hclear.tidy_join,
      List.takeWhile_eq_self_iff.mpr hall, List.dropWhile_eq_nil_iff.mpr hall, join_nil]
  · exact normalize_of_normal ⟨_, hclear.isSegment, hup, rfl⟩ hclear.tidy_join

/-- A path without wildcards stands for the file at it alone, and the file is read there. -/
theorem resolve_file {path q : String} {f : MemoryFile} (hclear : Clear (segments (Path.normalize path)))
    (hliteral : ∀ n ∈ segments (Path.normalize path), hasWildcard n = false)
    (hq : normalize path = .ok q) (hf : m.files.get? q = some f) :
    m.resolve path = .ok [(q, f)] ∧ m.contents q = .ok f.data := by
  obtain ⟨hsplit, hnormal⟩ := splitPattern_literal hclear hliteral hq
  have hselect : m.select q "" = [q] := by
    have hstored : m.files.contains q = true := by
      rw [Catalog.contains, hf]
      rfl
    rw [select, if_pos (by rfl), if_pos hstored]
  constructor
  · rw [resolve_eq hq, hsplit, hselect]
    simp [hf]
  · rw [contents, hnormal, Outcome.ok_bind, hf]

theorem listed_of_resolve {clock : Nat → Moment} {acts : List Act} {text : String}
    {found : List (String × MemoryFile)} {f : MemoryFile}
    (h : (run (empty clock) acts).resolve text = .ok found) (hf : (k, f) ∈ found) :
    Listed (run (empty clock) acts) k f := by
  obtain ⟨p, hp, -⟩ := Outcome.bind_eq_ok h
  have hstored := ((mem_resolve_iff hp h).mp hf).2
  have hnormal : IsNormal k := normal_of_run (by rw [Catalog.contains, hstored]; rfl)
  refine ⟨hstored, fun ht => ?_, fun ht => ⟨normalize_ne_of_not_tidy ht, fun data hdata => ?_⟩⟩
  · have hk := normalize_of_normal hnormal ht
    refine ⟨hk, ?_⟩
    rw [contents, hk, Outcome.ok_bind, hstored]
  · obtain ⟨q, g, hq, hg, hdata⟩ := contents_eq_ok hdata
    refine ⟨q, g, ?_, hg, hdata⟩
    rintro rfl
    exact normalize_ne_of_not_tidy ht hq

/-- **A pattern stands for what its segments say.** After any writes and removals, a pattern that does
not lead upwards is answered, provided that no segment of it or of a stored path has a blank at an edge.
The answer is in strictly increasing order of its paths and holds the file stored at each path that the
segments of the pattern stand for, and nothing else. -/
theorem resolve_run (clock : Nat → Moment) (acts : List Act)
    (hacts : ∀ a ∈ acts, a.isMount = false) (text : String) :
    let m := run (empty clock) acts
    let pattern := segments (Path.normalize text)
    (∀ k ∈ m.files.keys, ∀ n ∈ parts k, Tidy n) → (∀ t ∈ pattern, Tidy t) → ".." ∉ pattern →
    ∃ found, m.resolve text = .ok found ∧ (found.map Prod.fst).Pairwise (· < ·) ∧
      ∀ k f, (k, f) ∈ found ↔ StandsFor m pattern k ∧ m.files.get? k = some f := by
  intro m pattern hkeys hpattern hup
  have hclear : Clear pattern := fun t ht => ⟨isSegment_of_mem_segments ht, hpattern t ht⟩
  have hstored : ∀ k, m.files.contains k = true → Clear (parts k) := by
    intro k hk n hn
    have hnormal := parts_of_normal (normal_of_run hk) (ne_root_of_run hacts hk)
    exact ⟨hnormal.1 n hn, hkeys k (Catalog.mem_keys.mpr hk) n hn⟩
  have hp := normalize_of_not_mem hup
  refine ⟨_, resolve_eq hp, increasing_resolve (resolve_eq hp), fun k f => ?_⟩
  rw [mem_resolve_iff hp (resolve_eq hp)]
  simp only [splitPattern, segments_join hclear.isSegment hclear.tidy_join,
    mem_select_iff hstored hclear, pattern, m]

/-- Two stars also stand for no segment, and what was removed is not found. -/
theorem resolve_run_stars :
    let acts : List Act := [.write "notes/b.txt" (.bytes [1]), .write "notes/old/a.txt" (.bytes [2]),
      .write "notes/c.txt" (.bytes [3]), .remove "notes/c.txt", .write "b.txt" (.bytes [4])]
    let m := run (empty fun n => ⟨n⟩) acts
    let pattern := ["notes", "**", "*.txt"]
    m.files.keys = ["b.txt", "notes/old/a.txt", "notes/b.txt"] ∧
    ∃ found, m.resolve "./notes/**/*.txt" = .ok found ∧ (found.map Prod.fst).Pairwise (· < ·) ∧
      ∀ k f, (k, f) ∈ found ↔ StandsFor m pattern k ∧ m.files.get? k = some f := by
  intro acts m pattern
  have hkeys : m.files.keys = ["b.txt", "notes/old/a.txt", "notes/b.txt"] := by decide +kernel
  have hpattern : segments (Path.normalize "./notes/**/*.txt") = pattern := by decide +kernel
  refine ⟨hkeys, ?_⟩
  have hresolve := resolve_run (fun n => ⟨n⟩) acts (by decide) "./notes/**/*.txt"
  rw [hpattern] at hresolve
  refine hresolve ?_ (by decide +kernel) (by decide +kernel)
  change ∀ k ∈ m.files.keys, ∀ n ∈ parts k, Tidy n
  rw [hkeys]
  decide +kernel

end FileDepot.Memory
