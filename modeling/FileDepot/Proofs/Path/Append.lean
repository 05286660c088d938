import FileDepot.Proofs.Path.Segments

/-!
# Appending a name to a path

A name is appended to a path as text, and the whole is then cleaned. Behind a tidy path this adds
segments and takes none away: `behind` says which of the name are left once its end is cleaned, and
`segments_normalize_append` that they follow the segments of the path.
-/

namespace FileDepot.Path

open FileDepot.Text

variable {segs : List String} {name : String}

/-- Whether a name begins at the root, so that it stands alone when it is appended. -/
def IsAbsolute (name : String) : Prop := name.toList.head? = some '/'

instance (name : String) : Decidable (IsAbsolute name) := by
  unfold IsAbsolute
  infer_instance

/-- What is left of a name behind a path, once blanks, separators and blanks again are dropped at its
end. -/
def endCleaned (name : String) : List Char :=
  trimEndBy isBlank (trimEndBy (· = '/') (unifySeparators (trimEndBy isBlank name.toList)))

/-- The segments of a name behind a path. -/
def behind (name : String) : List String :=
  ((pieces (endCleaned name)).filter fun p => p ≠ [] && p ≠ ['.']).map String.ofList

/-! ## Cleaning a path with a name behind it -/

theorem unifySeparators_append (s t : List Char) :
    unifySeparators (s ++ t) = unifySeparators s ++ unifySeparators t :=
  List.map_append

theorem toList_join_ne_nil (hsegs : ∀ n ∈ segs, IsSegment n) (hne : segs ≠ []) :
    (join segs).toList ≠ [] := by
  intro hnil
  have hempty : join segs = "" := String.toList_injective hnil
  exact hne ((join_eq_empty_iff hsegs).mp hempty)

/-- A joined path does not begin with a mark for the directory itself. -/
theorem dropHere_join_append (hsegs : ∀ n ∈ segs, IsSegment n) (hne : segs ≠ []) (t : List Char) :
    dropHere ((join segs).toList ++ '/' :: t) = (join segs).toList ++ '/' :: t := by
  rw [dropHere.eq_def]
  split
  · rename_i rest hrest
    obtain ⟨n, more, rfl⟩ := List.exists_cons_of_ne_nil hne
    -- the first piece of the text is the first segment, which would be `.`
    have hpieces := congrArg pieces hrest
    have hparts := parts_join_of_segments hne hsegs
    rw [parts] at hparts
    obtain ⟨p, ps, hp⟩ := List.exists_cons_of_ne_nil (pieces_ne_nil (join (n :: more)).toList)
    rw [hp, List.map_cons, List.cons.injEq] at hparts
    rw [pieces_append_slash, hp, show '.' :: '/' :: rest = ['.'] ++ '/' :: rest from rfl,
      pieces_append_slash] at hpieces
    have hdot : p = ['.'] := by
      have hfirst := congrArg List.head? hpieces
      simpa [pieces] using hfirst
    have hn : n = "." := by rw [← hparts.1, hdot]
    exact absurd hn (hsegs n (List.mem_cons_self ..)).ne_dot
  · rfl

/-- The clean form of a tidy path with a name behind it. -/
theorem normalizeChars_append (hsegs : ∀ n ∈ segs, IsSegment n) (hne : segs ≠ [])
    (ht : Tidy (join segs)) (name : String) :
    normalizeChars ((join segs).toList ++ '/' :: name.toList) =
      trimEndBy (· = '/') ((join segs).toList ++
        '/' :: unifySeparators (trimEndBy isBlank name.toList)) := by
  obtain ⟨c, rest, hc⟩ := List.exists_cons_of_ne_nil (toList_join_ne_nil hsegs hne)
  have hblank : isBlank c = false := ht.1 c (by simp [hc])
  have hslash : c ≠ '/' := (edges_join_ne_slash hsegs).1 c (by simp [hc])
  have htrim : trim ((join segs).toList ++ '/' :: name.toList) =
      (join segs).toList ++ '/' :: trimEndBy isBlank name.toList := by
    rw [trim, trimBy, dropWhile_eq_self_iff.mpr (by simp [hc, hblank]),
      trimEndBy_append_cons (by rfl)]
  have hunify : unifySeparators ((join segs).toList ++ '/' :: trimEndBy isBlank name.toList) =
      (join segs).toList ++ '/' :: unifySeparators (trimEndBy isBlank name.toList) := by
    rw [unifySeparators_append, unifySeparators_eq_self (backslash_not_mem_join hsegs)]
    rfl
  have hdrop : ((join segs).toList ++
      '/' :: unifySeparators (trimEndBy isBlank name.toList)).dropWhile (· = '/') =
      (join segs).toList ++ '/' :: unifySeparators (trimEndBy isBlank name.toList) :=
    dropWhile_eq_self_iff.mpr (by simp [hc, hslash])
  rw [normalizeChars, htrim, hunify, hdrop, dropHere_join_append hsegs hne, if_neg]
  intro hdot
  have hlength := congrArg List.length hdot
  simp [hc] at hlength

/-- The pieces of a path that count, with some text behind it, are its segments and those of the text. -/
theorem segmentChars_append (hsegs : ∀ n ∈ segs, IsSegment n) (hne : segs ≠ [])
    (ht : Tidy (join segs)) {t : List Char} (hback : '\\' ∉ t) :
    segmentChars ((join segs).toList ++ '/' :: t) = segmentChars (join segs).toList ++
      (pieces (trimEndBy isBlank t)).filter fun p => p ≠ [] && p ≠ ['.'] := by
  have hfront : ∀ c ∈ (join segs).toList.head?, isBlank c = false := ht.1
  have htrim : trim ((join segs).toList ++ '/' :: t) =
      (join segs).toList ++ '/' :: trimEndBy isBlank t := by
    rw [trim, trimBy, dropWhile_eq_self_iff.mpr, trimEndBy_append_cons (by rfl)]
    rwa [List.head?_append_of_ne_nil _ (toList_join_ne_nil hsegs hne)]
  have hback' : '\\' ∉ (join segs).toList ++ '/' :: trimEndBy isBlank t := by
    intro h
    rcases List.mem_append.mp h with h | h
    · exact backslash_not_mem_join hsegs h
    · rcases List.mem_cons.mp h with h | h
      · simp at h
      · exact hback (mem_of_mem_trimEndBy h)
  rw [segmentChars, segmentChars, htrim, tidy_iff.mp ht, unifySeparators_eq_self hback',
    unifySeparators_eq_self (backslash_not_mem_join hsegs), pieces_append_slash, List.filter_append]

/-- **Append.** The segments of a tidy path with a name behind it are those of the path and those of the
name. -/
theorem segments_normalize_append (hsegs : ∀ n ∈ segs, IsSegment n) (hne : segs ≠ [])
    (ht : Tidy (join segs)) (name : String) :
    segments (normalize (join segs ++ "/" ++ name)) = segs ++ behind name := by
  have htext : (join segs ++ "/" ++ name).toList = (join segs).toList ++ '/' :: name.toList := by
    simp
  have hself : (segmentChars (join segs).toList).map String.ofList = segs := by
    rw [← segments, segments_join hsegs ht]
  have hback : '\\' ∉ trimEndBy (· = '/') (unifySeparators (trimEndBy isBlank name.toList)) :=
    fun h => backslash_not_mem_unifySeparators _ (mem_of_mem_trimEndBy h)
  rw [segments, normalize, String.toList_ofList, htext, normalizeChars_append hsegs hne ht]
  by_cases hnil : trimEndBy (· = '/') (unifySeparators (trimEndBy isBlank name.toList)) = []
  · -- nothing of the name is left, and the separator before it goes, too
    have hslash : trimEndBy (· = '/') ('/' :: unifySeparators (trimEndBy isBlank name.toList)) = [] := by
      rw [trimEndBy_cons, hnil]
      rfl
    have hbehind : behind name = [] := by
      rw [behind, endCleaned, hnil]
      rfl
    rw [trimEndBy_append, hslash, List.isEmpty_nil, if_pos rfl,
      trimEndBy_eq_self_iff.mpr fun c hc => by simpa using (edges_join_ne_slash hsegs).2 c hc, hself,
      hbehind, List.append_nil]
  · have hslash : trimEndBy (· = '/') ('/' :: unifySeparators (trimEndBy isBlank name.toList)) =
        '/' :: trimEndBy (· = '/') (unifySeparators (trimEndBy isBlank name.toList)) := by
      rw [trimEndBy_cons, List.isEmpty_eq_false_iff.mpr hnil]
      rfl
    rw [trimEndBy_append, hslash, List.isEmpty_cons, if_neg Bool.false_ne_true,
      segmentChars_append hsegs hne ht hback, List.map_append, hself]
    rfl

theorem isSegment_of_mem_behind {n : String} (h : n ∈ behind name) : IsSegment n :=
  isSegment_of_mem_pieces (fun hback => backslash_not_mem_unifySeparators _
    (mem_of_mem_trimEndBy (mem_of_mem_trimEndBy hback))) h

end FileDepot.Path
