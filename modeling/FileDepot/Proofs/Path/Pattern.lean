import FileDepot.Proofs.Path.Glob
import Mathlib.Data.List.ModifyLast
import Mathlib.Data.List.TakeWhile

/-!
# Patterns

A segment of a pattern that holds a wildcard may have blanks at its edges. They count inside a pattern
and are trimmed at the edges of the pattern itself, each time that it is read (`segments_join_loose`).
This changes neither what a pattern matches (`isMatch_join_loose`) nor its part before the first wildcard
(`splitPattern_join`). `Finds` says which files a pattern finds once it is cut there.
-/

namespace FileDepot.Path

open FileDepot.Text

variable {n m : String} {base g segs : List String}

/-- A segment of a pattern: a blank stands at an edge only where the segment holds a wildcard. -/
structure IsLoose (n : String) : Prop where
  /-- it is a segment -/
  segment : IsSegment n
  /-- it is tidy, or it holds a wildcard -/
  tidy : Tidy n ∨ hasWildcard n = true

/-- A text without the blanks at its front. -/
def trimFront (n : String) : String := String.ofList (n.toList.dropWhile isBlank)

/-- A text without the blanks at its end. -/
def trimEnd (n : String) : String := String.ofList (trimEndBy isBlank n.toList)

/-- The segments of a pattern once the blanks at its edges are trimmed. -/
def trimEdges (segs : List String) : List String := (segs.modifyHead trimFront).modifyLast trimEnd

/-! ## Trimming one segment -/

theorem isBlank_of_isWildcard {c : Char} (h : isWildcard c = true) : isBlank c = false := by
  simp only [isWildcard, Bool.or_eq_true, decide_eq_true_eq] at h
  rcases h with (rfl | rfl) | rfl <;> rfl

/-- The wildcards of a text are not at its front where the blanks are. -/
theorem any_isWildcard_dropWhile (s : List Char) :
    (s.dropWhile isBlank).any isWildcard = s.any isWildcard := by
  conv_rhs => rw [← List.takeWhile_append_dropWhile (p := isBlank) (l := s)]
  have hblank : (s.takeWhile isBlank).any isWildcard = false := by
    rw [List.any_eq_false]
    intro c hc hwild
    simpa [isBlank_of_isWildcard hwild] using List.mem_takeWhile_imp hc
  rw [List.any_append, hblank, Bool.false_or]

theorem hasWildcard_trimFront (n : String) : hasWildcard (trimFront n) = hasWildcard n := by
  rw [hasWildcard, trimFront, String.toList_ofList, any_isWildcard_dropWhile, hasWildcard]

theorem hasWildcard_trimEnd (n : String) : hasWildcard (trimEnd n) = hasWildcard n := by
  rw [hasWildcard, trimEnd, String.toList_ofList, trimEndBy, List.any_reverse,
    any_isWildcard_dropWhile, List.any_reverse, hasWildcard]

theorem trimFront_of_tidy (h : Tidy n) : trimFront n = n := by
  rw [trimFront, dropWhile_eq_self_iff.mpr h.1, String.ofList_toList]

theorem trimEnd_of_tidy (h : Tidy n) : trimEnd n = n := by
  rw [trimEnd, trimEndBy_eq_self_iff.mpr h.2, String.ofList_toList]

/-- A segment of a pattern holds a character that is no blank. -/
theorem IsLoose.exists_not_blank (h : IsLoose n) : ∃ c ∈ n.toList, isBlank c = false := by
  rcases h.tidy with ht | hwild
  · have hne : n.toList ≠ [] := by simpa using h.segment.ne_empty
    obtain ⟨c, rest, hc⟩ := List.exists_cons_of_ne_nil hne
    exact ⟨c, by simp [hc], ht.1 c (by simp [hc])⟩
  · obtain ⟨c, hc, hwild⟩ := List.any_eq_true.mp hwild
    exact ⟨c, hc, isBlank_of_isWildcard hwild⟩

/-- What is left of a segment of a pattern is one, if it keeps its wildcards and is left alone where it
is tidy. -/
theorem IsLoose.of_trim (h : IsLoose n) (htidy : Tidy n → m = n)
    (hsub : ∀ c ∈ m.toList, c ∈ n.toList) (hkeeps : hasWildcard m = hasWildcard n) : IsLoose m := by
  rcases h.tidy with ht | hwild
  · rwa [htidy ht]
  · rw [← hkeeps] at hwild
    refine ⟨⟨?_, ?_, fun hc => h.segment.no_slash (hsub _ hc),
      fun hc => h.segment.no_backslash (hsub _ hc)⟩, .inr hwild⟩
    · rintro rfl
      simp [hasWildcard] at hwild
    · rintro rfl
      simp [hasWildcard, isWildcard] at hwild

theorem IsLoose.trimFront (h : IsLoose n) : IsLoose (trimFront n) := by
  refine h.of_trim trimFront_of_tidy (fun c hc => ?_) (hasWildcard_trimFront n)
  rw [Path.trimFront, String.toList_ofList] at hc
  exact (List.dropWhile_suffix _).subset hc

theorem IsLoose.trimEnd (h : IsLoose n) : IsLoose (trimEnd n) := by
  refine h.of_trim trimEnd_of_tidy (fun c hc => ?_) (hasWildcard_trimEnd n)
  rw [Path.trimEnd, String.toList_ofList, trimEndBy, List.mem_reverse] at hc
  exact List.mem_reverse.mp ((List.dropWhile_suffix _).subset hc)

/-! ## Trimming a path -/

theorem trimEdges_concat (front : List String) (n : String) :
    trimEdges (front ++ [n]) = match front with
      | [] => [trimEnd (trimFront n)]
      | m :: rest => trimFront m :: rest ++ [trimEnd n] := by
  cases front with
  | nil => rfl
  | cons m rest => exact List.modifyLast_concat trimEnd n (trimFront m :: rest)

theorem length_trimEdges (segs : List String) : (trimEdges segs).length = segs.length := by
  rcases List.eq_nil_or_concat segs with rfl | ⟨front, n, rfl⟩
  · rfl
  · rw [List.concat_eq_append, trimEdges_concat]
    cases front <;> simp

/-- Trimming the front of a path trims its first segment. -/
theorem dropWhile_join (h : IsLoose n) (rest : List String) :
    (join (n :: rest)).toList.dropWhile isBlank = (join (trimFront n :: rest)).toList := by
  obtain ⟨c, hc, hblank⟩ := h.exists_not_blank
  have hleft : (n.toList.dropWhile isBlank).isEmpty = false := by
    rw [List.isEmpty_eq_false_iff, ne_eq, List.dropWhile_eq_nil_iff]
    exact fun hall => by simp [hall c hc] at hblank
  cases rest with
  | nil => simp [trimFront]
  | cons m rest =>
    have hne : m :: rest ≠ [] := List.cons_ne_nil _ _
    rw [join_cons hne, join_cons hne, String.append_assoc, String.append_assoc, String.toList_append,
      String.toList_append (s := Path.trimFront n), List.dropWhile_append, hleft,
      if_neg Bool.false_ne_true, trimFront, String.toList_ofList]

/-- Trimming the end of a path trims its last segment. -/
theorem trimEndBy_join (h : IsLoose n) (front : List String) :
    trimEndBy isBlank (join (front ++ [n])).toList = (join (front ++ [trimEnd n])).toList := by
  obtain ⟨c, hc, hblank⟩ := h.exists_not_blank
  have hleft : (n.toList.reverse.dropWhile isBlank).isEmpty = false := by
    rw [List.isEmpty_eq_false_iff, ne_eq, List.dropWhile_eq_nil_iff]
    exact fun hall => by simp [hall c (List.mem_reverse.mpr hc)] at hblank
  cases front with
  | nil => simp [trimEnd]
  | cons m rest =>
    have hne : m :: rest ≠ [] := List.cons_ne_nil _ _
    rw [join_append hne (List.cons_ne_nil _ _), join_append hne (List.cons_ne_nil _ _), join_singleton,
      join_singleton, String.toList_append, trimEndBy, List.reverse_append, List.dropWhile_append,
      hleft, if_neg Bool.false_ne_true]
    simp [trimEnd, trimEndBy]

/-- Trimming a path trims the edges of its segments. -/
theorem trim_join (h : ∀ t ∈ segs, IsLoose t) :
    trim (join segs).toList = (join (trimEdges segs)).toList := by
  rcases List.eq_nil_or_concat segs with rfl | ⟨front, n, rfl⟩
  · rfl
  · rw [List.concat_eq_append] at h ⊢
    have hn := h n (by simp)
    rw [trimEdges_concat, trim, trimBy]
    cases front with
    | nil =>
      rw [List.nil_append, dropWhile_join hn, ← List.nil_append [Path.trimFront n],
        trimEndBy_join hn.trimFront]
      rfl
    | cons m rest =>
      rw [List.cons_append, dropWhile_join (h m (by simp)), ← List.cons_append,
        trimEndBy_join hn]

theorem isLoose_of_mem_trimEdges (h : ∀ t ∈ segs, IsLoose t) : ∀ t ∈ trimEdges segs, IsLoose t := by
  rcases List.eq_nil_or_concat segs with rfl | ⟨front, n, rfl⟩
  · exact h
  · rw [List.concat_eq_append] at h ⊢
    have hn := h n (by simp)
    rw [trimEdges_concat]
    cases front with
    | nil => simpa using hn.trimFront.trimEnd
    | cons m rest =>
      have hm := (h m (by simp)).trimFront
      intro t ht
      simp only [List.cons_append, List.mem_cons, List.mem_append, List.not_mem_nil, or_false] at ht
      rcases ht with rfl | ht | rfl
      · exact hm
      · exact h t (by simp [ht])
      · exact hn.trimEnd

theorem tidy_join_trimEdges (h : ∀ t ∈ segs, IsLoose t) : Tidy (join (trimEdges segs)) := by
  rw [tidy_iff, ← trim_join h]
  exact trimBy_trimBy isBlank _

/-- The segments of a joined pattern are those that were joined, with the edges trimmed. -/
theorem segments_join_loose (h : ∀ t ∈ segs, IsLoose t) : segments (join segs) = trimEdges segs := by
  have htrimmed := isLoose_of_mem_trimEdges h
  have htidy := tidy_join_trimEdges h
  rw [← segments_join (fun t ht => (htrimmed t ht).segment) htidy, segments, segments, segmentChars,
    segmentChars, trim_join h, tidy_iff.mp htidy]

/-! ## Reading a pattern again -/

theorem map_hasWildcard_trimEdges (g : List String) :
    (trimEdges g).map hasWildcard = g.map hasWildcard := by
  rcases List.eq_nil_or_concat g with rfl | ⟨front, n, rfl⟩
  · rfl
  · rw [List.concat_eq_append, trimEdges_concat]
    cases front <;> simp [hasWildcard_trimFront, hasWildcard_trimEnd]

/-- Reading a pattern again trims the edges, those of its first segment only if that holds a wildcard. -/
theorem segments_join_append (hbase : ∀ t ∈ base, IsSegment t ∧ Tidy t) (hg : ∀ t ∈ g, IsLoose t) :
    ∃ rest, segments (join (base ++ g)) = base ++ rest ∧ rest.map hasWildcard = g.map hasWildcard ∧
      trim (join rest).toList = trim (join g).toList := by
  have hloose : ∀ t ∈ base ++ g, IsLoose t := fun t ht => by
    rcases List.mem_append.mp ht with ht | ht
    · exact ⟨(hbase t ht).1, .inl (hbase t ht).2⟩
    · exact hg t ht
  rw [segments_join_loose hloose]
  cases base with
  | nil =>
    refine ⟨trimEdges g, rfl, map_hasWildcard_trimEdges g, ?_⟩
    rw [← trim_join hg]
    exact trimBy_trimBy isBlank _
  | cons m rest =>
    have hm : trimFront m = m := trimFront_of_tidy (hbase m (by simp)).2
    rcases List.eq_nil_or_concat g with rfl | ⟨front, n, rfl⟩
    · refine ⟨[], ?_, rfl, rfl⟩
      have htidy : Tidy (join (m :: rest)) :=
        tidy_join (fun t ht => (hbase t ht).1.ne_empty) fun t ht => (hbase t ht).2
      rw [List.append_nil] at hloose ⊢
      rw [← segments_join_loose hloose, segments_join (fun t ht => (hbase t ht).1) htidy]
    · rw [List.concat_eq_append] at hg ⊢
      refine ⟨front ++ [trimEnd n], ?_, ?_, ?_⟩
      · have hsplit : m :: rest ++ (front ++ [n]) = m :: (rest ++ front) ++ [n] := by simp
        rw [hsplit, trimEdges_concat]
        simp [hm]
      · simp [hasWildcard_trimEnd]
      · rw [← trimEndBy_join (hg n (by simp))]
        exact trimBy_trimEndBy isBlank _

/-- **Cut.** A pattern that is read again is cut into the same segments before its first wildcard and a
rest that is the same but for blanks at its edges. -/
theorem splitPattern_join
    (hbase : ∀ t ∈ base, IsSegment t ∧ Tidy t) (hliteral : ∀ t ∈ base, hasWildcard t = false)
    (hg : ∀ t ∈ g, IsLoose t) (hwild : ∀ t ∈ g.head?, hasWildcard t = true) :
    ∃ glob, splitPattern (join (base ++ g)) = (join base, glob) ∧ (glob = "" ↔ g = []) ∧
      trim glob.toList = trim (join g).toList := by
  obtain ⟨rest, hsegments, hmap, htrim⟩ := segments_join_append hbase hg
  have hstop : rest.takeWhile (!hasWildcard ·) = [] ∧ rest.dropWhile (!hasWildcard ·) = rest := by
    cases rest with
    | nil => exact ⟨rfl, rfl⟩
    | cons m rest =>
      cases g with
      | nil => cases hmap
      | cons t g =>
        have hm : hasWildcard m = true := by
          rw [(List.cons.inj hmap).1]
          exact hwild t rfl
        simp [hm]
  have hpos : ∀ t ∈ base, (!hasWildcard t) = true := fun t ht => by simp [hliteral t ht]
  have hrest : ∀ t ∈ rest, IsSegment t := fun t ht =>
    isSegment_of_mem_segments (p := join (base ++ g)) (by simp [hsegments, ht])
  refine ⟨join rest, ?_, ?_, htrim⟩
  · rw [splitPattern, hsegments, List.takeWhile_append_of_pos hpos, List.dropWhile_append_of_pos hpos,
      hstop.1, hstop.2, List.append_nil]
  · rw [join_eq_empty_iff hrest, ← List.map_eq_nil_iff (f := hasWildcard), hmap, List.map_eq_nil_iff]

/-- The segments of a pattern before the first one that holds a wildcard. -/
def fixedPart (pattern : List String) : List String := pattern.takeWhile (!hasWildcard ·)

/-- The segments of a pattern from the first one on that holds a wildcard. -/
def wildPart (pattern : List String) : List String := pattern.dropWhile (!hasWildcard ·)

theorem splitPattern_eq (p : String) :
    splitPattern p = (join (fixedPart (segments p)), join (wildPart (segments p))) := rfl

theorem fixedPart_append_wildPart (pattern : List String) :
    fixedPart pattern ++ wildPart pattern = pattern :=
  List.takeWhile_append_dropWhile

theorem mem_of_mem_fixedPart {pattern : List String} (h : n ∈ fixedPart pattern) : n ∈ pattern :=
  (List.takeWhile_prefix _).subset h

theorem mem_of_mem_wildPart {pattern : List String} (h : n ∈ wildPart pattern) : n ∈ pattern :=
  (List.dropWhile_suffix _).subset h

theorem hasWildcard_of_mem_fixedPart {pattern : List String} (h : n ∈ fixedPart pattern) :
    hasWildcard n = false := by
  simpa using List.mem_takeWhile_imp h

theorem hasWildcard_of_mem_head?_wildPart {pattern : List String} :
    ∀ n ∈ (wildPart pattern).head?, hasWildcard n = true := fun n hn => by
  simpa using head?_dropWhile (!hasWildcard ·) pattern n hn

/-! ## What a pattern matches -/

/-- Blanks at the edges of a glob do not count. -/
theorem isMatch_congr {a b : String} (h : trim a.toList = trim b.toList) (path : String) :
    Glob.isMatch path a = Glob.isMatch path b := by
  rw [Glob.isMatch, Glob.isMatch, Glob.globSegments, Glob.globSegments, h]

/-- **Match.** A glob matches by its segments once its edges are trimmed. -/
theorem isMatch_join_loose (hne : g ≠ []) (hg : ∀ t ∈ g, IsLoose t) (hsegs : ∀ n ∈ segs, IsSegment n)
    (ht : Tidy (join segs)) :
    Glob.isMatch (join segs) (join g) = true ↔ Glob.Covers (trimEdges g) segs := by
  have hedges : trim (join g).toList = trim (join (trimEdges g)).toList := by
    rw [← trim_join hg]
    exact (trimBy_trimBy isBlank _).symm
  have hne' : trimEdges g ≠ [] := by
    rw [← List.length_pos_iff, length_trimEdges]
    exact List.length_pos_of_ne_nil hne
  rw [isMatch_congr hedges, Glob.isMatch_join_iff hne'
    (fun t ht => (isLoose_of_mem_trimEdges hg t ht).segment) (tidy_join_trimEdges hg) hsegs ht]

/-! ## What a pattern finds -/

/-- Whether a pattern that is cut before its first wildcard finds the file with some names. Without a
wildcard it finds the file with the names of the pattern, or if there is none the files with one name
more. -/
def Finds (IsFile : List String → Prop) (base : List String) (glob : String) (names : List String) :
    Prop :=
  IsFile names ∧
    if glob = "" then (IsFile base ∧ names = base) ∨ (¬ IsFile base ∧ ∃ n, names = base ++ [n])
    else ∃ more, more ≠ [] ∧ names = base ++ more ∧ Glob.isMatch (join more) glob = true

/-- What is found is at the base or below it. -/
theorem Finds.below {IsFile : List String → Prop} {names : List String} {glob : String}
    (h : Finds IsFile base glob names) : base <+: names := by
  obtain ⟨-, h⟩ := h
  split at h
  · rcases h with ⟨-, rfl⟩ | ⟨-, n, rfl⟩
    · exact List.prefix_refl _
    · exact List.prefix_append ..
  · obtain ⟨more, -, rfl, -⟩ := h
    exact List.prefix_append ..

/-- A blank at the edge of a glob changes nothing in what is found. -/
theorem finds_congr {IsFile : List String → Prop} {names : List String} {glob glob' : String}
    (hempty : glob = "" ↔ glob' = "") (htrim : trim glob.toList = trim glob'.toList) :
    Finds IsFile base glob names ↔ Finds IsFile base glob' names := by
  simp only [Finds, hempty, isMatch_congr htrim]

end FileDepot.Path
