import FileDepot.Path.Basic
import FileDepot.Proofs.Text.Trim

/-!
# Segments

A path is its segments with a `/` between each two. `parts` reads them off as they are written, and
`join` puts them together; the two undo each other on segments without a `/`. `segments` trims the
path first and leaves out what does not count, so that it undoes `join` only where the joined path is
tidy (`segments_join`), and then `normalize` leaves the path as it is (`normalize_join`). Where it is
not tidy, both come out shorter (`length_normalize_le`, `length_join_segments_le`).
-/

namespace FileDepot.Path

open FileDepot.Text

/-! ## Pieces of a text -/

theorem pieces_ne_nil (s : List Char) : pieces s ≠ [] := by
  cases s with
  | nil => simp [pieces]
  | cons c rest =>
    rw [pieces]
    by_cases hc : c = '/'
    · simp [hc]
    · rw [if_neg hc]
      cases pieces rest <;> simp

theorem pieces_slash (s : List Char) : pieces ('/' :: s) = [] :: pieces s := by
  simp [pieces]

/-- A character that is no `/` goes to the first piece. -/
theorem pieces_cons {c : Char} (hc : c ≠ '/') {s p : List Char} {ps : List (List Char)}
    (h : pieces s = p :: ps) : pieces (c :: s) = (c :: p) :: ps := by
  rw [pieces, if_neg hc, h]

/-- A `/` cuts a text into texts with pieces of their own. -/
theorem pieces_append_slash (s t : List Char) : pieces (s ++ '/' :: t) = pieces s ++ pieces t := by
  induction s with
  | nil => exact pieces_slash t
  | cons c s ih =>
    by_cases hc : c = '/'
    · subst hc
      rw [List.cons_append, pieces_slash, pieces_slash, ih, List.cons_append]
    · obtain ⟨p, ps, hp⟩ := List.exists_cons_of_ne_nil (pieces_ne_nil s)
      rw [hp, List.cons_append] at ih
      rw [List.cons_append, pieces_cons hc ih, pieces_cons hc hp, List.cons_append]

theorem pieces_eq_singleton {s : List Char} (h : '/' ∉ s) : pieces s = [s] := by
  induction s with
  | nil => rfl
  | cons c s ih =>
    rw [List.mem_cons, not_or] at h
    exact pieces_cons (Ne.symm h.1) (ih h.2)

theorem slash_not_mem_of_mem_pieces {s p : List Char} (hp : p ∈ pieces s) : '/' ∉ p := by
  induction s generalizing p with
  | nil => simp_all [pieces]
  | cons c s ih =>
    by_cases hc : c = '/'
    · subst hc
      rw [pieces_slash, List.mem_cons] at hp
      rcases hp with rfl | hp
      · simp
      · exact ih hp
    · obtain ⟨q, qs, hq⟩ := List.exists_cons_of_ne_nil (pieces_ne_nil s)
      rw [pieces_cons hc hq, List.mem_cons] at hp
      rcases hp with rfl | hp
      · have := ih (p := q) (by simp [hq])
        simp [Ne.symm hc, this]
      · exact ih (by simp [hq, hp])

/-- A piece holds characters of the text only. -/
theorem mem_of_mem_pieces {s p : List Char} (hp : p ∈ pieces s) {c : Char} (hc : c ∈ p) : c ∈ s := by
  induction s generalizing p with
  | nil => simp_all [pieces]
  | cons d s ih =>
    by_cases hd : d = '/'
    · subst hd
      rw [pieces_slash, List.mem_cons] at hp
      rcases hp with rfl | hp
      · simp at hc
      · exact List.mem_cons_of_mem _ (ih hp hc)
    · obtain ⟨q, qs, hq⟩ := List.exists_cons_of_ne_nil (pieces_ne_nil s)
      rw [pieces_cons hd hq, List.mem_cons] at hp
      rcases hp with rfl | hp
      · rcases List.mem_cons.mp hc with rfl | hc
        · exact List.mem_cons_self ..
        · exact List.mem_cons_of_mem _ (ih (by simp [hq]) hc)
      · exact List.mem_cons_of_mem _ (ih (by simp [hq, hp]) hc)

theorem intercalate_cons {p : List Char} {ps : List (List Char)} (h : ps ≠ []) :
    ['/'].intercalate (p :: ps) = p ++ '/' :: ['/'].intercalate ps := by
  obtain ⟨q, qs, rfl⟩ := List.exists_cons_of_ne_nil h
  simp [List.intercalate_cons_cons]

/-- The pieces of a text, with a `/` between each two, are the text. -/
theorem intercalate_pieces (s : List Char) : ['/'].intercalate (pieces s) = s := by
  induction s with
  | nil => simp [pieces]
  | cons c s ih =>
    by_cases hc : c = '/'
    · subst hc
      rw [pieces_slash, intercalate_cons (pieces_ne_nil s), ih, List.nil_append]
    · obtain ⟨p, ps, hp⟩ := List.exists_cons_of_ne_nil (pieces_ne_nil s)
      rw [pieces_cons hc hp]
      rw [hp] at ih
      cases ps with
      | nil => simpa using ih
      | cons q qs => simpa [List.intercalate_cons_cons] using ih

/-- Pieces without a `/` are those of the text that they make up. -/
theorem pieces_intercalate {ps : List (List Char)} (hne : ps ≠ []) (h : ∀ p ∈ ps, '/' ∉ p) :
    pieces (['/'].intercalate ps) = ps := by
  induction ps with
  | nil => exact absurd rfl hne
  | cons p rest ih =>
    have hp : pieces p = [p] := pieces_eq_singleton (h p (List.mem_cons_self ..))
    by_cases hrest : rest = []
    · simpa [hrest] using hp
    · rw [intercalate_cons hrest, pieces_append_slash, hp,
        ih hrest fun q hq => h q (List.mem_cons_of_mem _ hq), List.singleton_append]

/-- How many characters pieces take, with one more for each. -/
def extent : List (List Char) → Nat
  | [] => 0
  | p :: rest => p.length + 1 + extent rest

@[simp] theorem extent_nil : extent [] = 0 := rfl

@[simp] theorem extent_cons (p : List Char) (rest : List (List Char)) :
    extent (p :: rest) = p.length + 1 + extent rest := rfl

@[simp] theorem extent_append (ps qs : List (List Char)) :
    extent (ps ++ qs) = extent ps + extent qs := by
  induction ps with
  | nil => simp
  | cons p rest ih => rw [List.cons_append, extent_cons, extent_cons, ih, Nat.add_assoc (p.length + 1)]

theorem length_intercalate (ps : List (List Char)) :
    (['/'].intercalate ps).length = extent ps - 1 := by
  induction ps with
  | nil => rfl
  | cons p rest ih =>
    by_cases hrest : rest = []
    · simp [hrest]
    · obtain ⟨q, qs, rfl⟩ := List.exists_cons_of_ne_nil hrest
      rw [intercalate_cons hrest, List.length_append, List.length_cons, ih]
      simp only [extent_cons]
      omega

theorem extent_le {ps qs : List (List Char)} (h : ps.Sublist qs) : extent ps ≤ extent qs := by
  induction h with
  | slnil => exact Nat.le_refl _
  | cons q h ih =>
    rw [extent_cons]
    omega
  | cons_cons q h ih =>
    rw [extent_cons, extent_cons]
    omega

/-- The pieces of a text take one character more than the text. -/
theorem extent_pieces (s : List Char) : extent (pieces s) = s.length + 1 := by
  induction s with
  | nil => simp [pieces]
  | cons c s ih =>
    by_cases hc : c = '/'
    · subst hc
      rw [pieces_slash, extent_cons, ih, List.length_cons, List.length_nil]
      omega
    · obtain ⟨p, ps, hp⟩ := List.exists_cons_of_ne_nil (pieces_ne_nil s)
      rw [hp, extent_cons] at ih
      rw [pieces_cons hc hp, extent_cons, List.length_cons, List.length_cons]
      omega

/-! ## Parts of a path -/

/-- The segments of a path as they are written. -/
def parts (p : String) : List String := (pieces p.toList).map String.ofList

theorem parts_ne_nil (p : String) : parts p ≠ [] := by
  simpa [parts] using pieces_ne_nil p.toList

@[simp] theorem join_nil : join [] = "" := rfl

@[simp] theorem join_singleton (n : String) : join [n] = n := by simp [join]

theorem toList_join (segs : List String) :
    (join segs).toList = ['/'].intercalate (segs.map String.toList) := by
  simp [join]

theorem join_cons {n : String} {segs : List String} (h : segs ≠ []) :
    join (n :: segs) = n ++ "/" ++ join segs := by
  apply String.toList_injective
  rw [toList_join, List.map_cons, intercalate_cons (by simpa using h), ← toList_join]
  simp

theorem join_append {segs more : List String} (hsegs : segs ≠ []) (hmore : more ≠ []) :
    join (segs ++ more) = join segs ++ "/" ++ join more := by
  induction segs with
  | nil => exact absurd rfl hsegs
  | cons n rest ih =>
    by_cases hrest : rest = []
    · subst hrest
      simpa using join_cons hmore
    · rw [List.cons_append, join_cons (by simp [hrest]), ih hrest, join_cons hrest]
      simp only [String.append_assoc]

theorem join_parts (p : String) : join (parts p) = p := by
  apply String.toList_injective
  rw [toList_join, parts, List.map_map]
  simpa using intercalate_pieces p.toList

theorem slash_not_mem_of_mem_parts {p n : String} (h : n ∈ parts p) : '/' ∉ n.toList := by
  obtain ⟨q, hq, rfl⟩ := List.mem_map.mp h
  simpa using slash_not_mem_of_mem_pieces hq

theorem parts_join {segs : List String} (hne : segs ≠ []) (h : ∀ n ∈ segs, '/' ∉ n.toList) :
    parts (join segs) = segs := by
  rw [parts, toList_join, pieces_intercalate (by simpa using hne)
    (by simpa using h), List.map_map]
  simp

/-- A `/` between two paths is a `/` between their parts. -/
theorem parts_append_slash (p q : String) : parts (p ++ "/" ++ q) = parts p ++ parts q := by
  simp [parts, pieces_append_slash]

theorem parts_eq_singleton_iff {p : String} : (∃ n, parts p = [n]) ↔ '/' ∉ p.toList := by
  constructor
  · rintro ⟨n, hn⟩
    have hp : p = n := by rw [← join_parts p, hn, join_singleton]
    have := slash_not_mem_of_mem_parts (p := p) (n := n) (by simp [hn])
    rwa [hp]
  · intro h
    exact ⟨p, by simp [parts, pieces_eq_singleton h]⟩

/-- What is left behind a front is what the text goes on with. -/
theorem stripFront?_eq_some_iff {p s rest : String} :
    stripFront? p s = some rest ↔ s = p ++ rest := by
  rw [stripFront?]
  constructor
  · intro h
    split at h
    · rename_i hfront
      obtain ⟨more, hmore⟩ := List.isPrefixOf_iff_prefix.mp hfront
      rw [← hmore, List.drop_left, Option.some.injEq] at h
      rw [← String.toList_inj, ← hmore, ← h, String.toList_append, String.toList_ofList]
    · cases h
  · rintro rfl
    rw [String.toList_append, if_pos (List.isPrefixOf_iff_prefix.mpr ⟨_, rfl⟩), List.drop_left,
      String.ofList_toList]

/-! ## Segments that count -/

/-- A segment that counts, with no separator of either kind. -/
structure IsSegment (n : String) : Prop where
  /-- it is not empty -/
  ne_empty : n ≠ ""
  /-- it is not the mark for the directory itself -/
  ne_dot : n ≠ "."
  /-- it holds no `/` -/
  no_slash : '/' ∉ n.toList
  /-- it holds no backslash -/
  no_backslash : '\\' ∉ n.toList

theorem backslash_not_mem_unifySeparators (s : List Char) : '\\' ∉ unifySeparators s := by
  rw [unifySeparators, List.mem_map]
  rintro ⟨c, -, hc⟩
  by_cases h : c = '\\'
  · simp [h] at hc
  · rw [if_neg h] at hc
    exact h hc

theorem unifySeparators_eq_self {s : List Char} (h : '\\' ∉ s) : unifySeparators s = s := by
  refine (List.map_congr_left fun c hc => if_neg ?_).trans (List.map_id' s)
  rintro rfl
  exact h hc

/-- The pieces that count of a text without backslashes are segments. -/
theorem isSegment_of_mem_pieces {t : List Char} {n : String} (hback : '\\' ∉ t)
    (h : n ∈ ((pieces t).filter fun p => p ≠ [] && p ≠ ['.']).map String.ofList) : IsSegment n := by
  obtain ⟨q, hq, rfl⟩ := List.mem_map.mp h
  obtain ⟨hmem, hcounts⟩ := List.mem_filter.mp hq
  simp only [ne_eq, Bool.and_eq_true, decide_eq_true_eq] at hcounts
  refine ⟨?_, ?_, ?_, ?_⟩
  · intro hempty
    exact hcounts.1 (by simpa using congrArg String.toList hempty)
  · intro hdot
    exact hcounts.2 (by simpa using congrArg String.toList hdot)
  · simpa using slash_not_mem_of_mem_pieces hmem
  · rw [String.toList_ofList]
    exact fun hin => hback (mem_of_mem_pieces hmem hin)

theorem isSegment_of_mem_segments {p n : String} (h : n ∈ segments p) : IsSegment n :=
  isSegment_of_mem_pieces (backslash_not_mem_unifySeparators _) h

/-! ### The edges of a joined path -/

variable {segs : List String} {n : String}

theorem head?_join_cons (hn : n ≠ "") (segs : List String) :
    (join (n :: segs)).toList.head? = n.toList.head? := by
  by_cases hsegs : segs = []
  · simp [hsegs]
  · have hne : n.toList ≠ [] := by simpa using hn
    obtain ⟨c, rest, hc⟩ := List.exists_cons_of_ne_nil hne
    simp [join_cons hsegs, hc]

theorem getLast?_join_concat (hn : n ≠ "") (segs : List String) :
    (join (segs ++ [n])).toList.getLast? = n.toList.getLast? := by
  by_cases hsegs : segs = []
  · simp [hsegs]
  · have hne : n.toList ≠ [] := by simpa using hn
    rw [join_append hsegs (by simp), join_singleton, String.toList_append,
      List.getLast?_append_of_ne_nil _ hne]

/-- The edges of a joined path are edges of segments. -/
theorem edges_join (hsegs : ∀ n ∈ segs, n ≠ "") {P : Char → Prop}
    (h : ∀ n ∈ segs, (∀ c ∈ n.toList.head?, P c) ∧ ∀ c ∈ n.toList.getLast?, P c) :
    (∀ c ∈ (join segs).toList.head?, P c) ∧ ∀ c ∈ (join segs).toList.getLast?, P c := by
  constructor
  · cases segs with
    | nil => simp
    | cons n rest =>
      rw [head?_join_cons (hsegs n (List.mem_cons_self ..))]
      exact (h n (List.mem_cons_self ..)).1
  · rcases List.eq_nil_or_concat segs with rfl | ⟨front, n, rfl⟩
    · simp
    · have hn : n ∈ front.concat n := by simp
      rw [List.concat_eq_append, getLast?_join_concat (hsegs n hn)]
      exact (h n hn).2

theorem tidy_join (hsegs : ∀ n ∈ segs, n ≠ "") (h : ∀ n ∈ segs, Tidy n) : Tidy (join segs) :=
  edges_join hsegs h

/-- Segments may be empty where a separator will do at an edge. -/
theorem edges_join_of_slash {P : Char → Prop} (hslash : P '/')
    (h : ∀ n ∈ segs, (∀ c ∈ n.toList.head?, P c) ∧ ∀ c ∈ n.toList.getLast?, P c) :
    (∀ c ∈ (join segs).toList.head?, P c) ∧ ∀ c ∈ (join segs).toList.getLast?, P c := by
  constructor
  · cases segs with
    | nil => simp
    | cons n rest =>
      by_cases hn : n = ""
      · by_cases hrest : rest = []
        · simp [hn, hrest]
        · simpa [hn, join_cons hrest] using hslash
      · rw [head?_join_cons hn]
        exact (h n (List.mem_cons_self ..)).1
  · rcases List.eq_nil_or_concat segs with rfl | ⟨front, n, rfl⟩
    · simp
    · have hmem : n ∈ front.concat n := by simp
      rw [List.concat_eq_append]
      by_cases hn : n = ""
      · by_cases hfront : front = []
        · simp [hn, hfront]
        · simpa [hn, join_append hfront] using hslash
      · rw [getLast?_join_concat hn]
        exact (h n hmem).2

/-- A path is tidy when nothing between its separators has a blank at an edge. -/
theorem tidy_of_parts {p : String} (h : ∀ n ∈ parts p, Tidy n) : Tidy p := by
  rw [← join_parts p]
  exact edges_join_of_slash (P := fun c => isBlank c = false) rfl h

theorem edges_join_ne_slash (hsegs : ∀ n ∈ segs, IsSegment n) :
    (∀ c ∈ (join segs).toList.head?, c ≠ '/') ∧ ∀ c ∈ (join segs).toList.getLast?, c ≠ '/' := by
  refine edges_join (fun n hn => (hsegs n hn).ne_empty) fun n hn => ⟨?_, ?_⟩
  · rintro c hc rfl
    exact (hsegs n hn).no_slash (List.mem_of_mem_head? hc)
  · rintro c hc rfl
    exact (hsegs n hn).no_slash (List.mem_of_getLast? hc)

theorem mem_join {c : Char} (hc : c ∈ (join segs).toList) : c = '/' ∨ ∃ n ∈ segs, c ∈ n.toList := by
  induction segs with
  | nil => simp at hc
  | cons n rest ih =>
    by_cases hrest : rest = []
    · subst hrest
      exact .inr ⟨n, List.mem_cons_self .., by simpa using hc⟩
    · rw [join_cons hrest, String.toList_append, String.toList_append, List.mem_append,
        List.mem_append] at hc
      rcases hc with (hc | hc) | hc
      · exact .inr ⟨n, List.mem_cons_self .., hc⟩
      · exact .inl (by simpa using hc)
      · rcases ih hc with rfl | ⟨m, hm, hcm⟩
        · exact .inl rfl
        · exact .inr ⟨m, List.mem_cons_of_mem _ hm, hcm⟩

/-- A joined path holds the characters of its segments. -/
theorem mem_join_of_mem {c : Char} (hn : n ∈ segs) (hc : c ∈ n.toList) : c ∈ (join segs).toList := by
  induction segs with
  | nil => simp at hn
  | cons m rest ih =>
    by_cases hrest : rest = []
    · subst hrest
      rw [List.mem_singleton] at hn
      simpa [← hn] using hc
    · rw [join_cons hrest, String.toList_append, String.toList_append, List.mem_append,
        List.mem_append]
      rcases List.mem_cons.mp hn with rfl | hn
      · exact .inl (.inl hc)
      · exact .inr (ih hn)

theorem backslash_not_mem_join (hsegs : ∀ n ∈ segs, IsSegment n) : '\\' ∉ (join segs).toList := by
  intro h
  rcases mem_join h with h | ⟨n, hn, h⟩
  · simp at h
  · exact (hsegs n hn).no_backslash h

/-! ### Joining and reading back -/

theorem parts_join_of_segments (hne : segs ≠ []) (hsegs : ∀ n ∈ segs, IsSegment n) :
    parts (join segs) = segs :=
  parts_join hne fun n hn => (hsegs n hn).no_slash

theorem join_eq_empty_iff (hsegs : ∀ n ∈ segs, IsSegment n) : join segs = "" ↔ segs = [] := by
  constructor
  · intro h
    by_contra hne
    have hparts := parts_join_of_segments hne hsegs
    rw [h] at hparts
    have hmem : "" ∈ segs := by simp [← hparts, parts, pieces]
    exact (hsegs "" hmem).ne_empty rfl
  · rintro rfl
    exact join_nil

/-- The name of a joined path is its last segment. -/
theorem baseName_join_concat (hn : '/' ∉ n.toList) (segs : List String) :
    baseName (join (segs ++ [n])) = n := by
  have hall : ∀ c ∈ n.toList.reverse, decide (c ≠ '/') = true := by
    intro c hc
    simp only [List.mem_reverse] at hc
    rw [decide_eq_true_eq]
    rintro rfl
    exact hn hc
  have hsplit : ∃ rest, (join (segs ++ [n])).toList.reverse = n.toList.reverse ++ rest ∧
      rest.takeWhile (· ≠ '/') = [] := by
    by_cases hsegs : segs = []
    · exact ⟨[], by simp [hsegs], rfl⟩
    · refine ⟨'/' :: (join segs).toList.reverse, ?_, by simp⟩
      rw [join_append hsegs (List.cons_ne_nil _ _)]
      simp
  obtain ⟨rest, hrest, hstop⟩ := hsplit
  rw [baseName, hrest, List.takeWhile_append_of_pos hall, hstop, List.append_nil, List.reverse_reverse,
    String.ofList_toList]

/-- The segments of a tidy joined path are those that were joined. -/
theorem segments_join (hsegs : ∀ n ∈ segs, IsSegment n) (ht : Tidy (join segs)) :
    segments (join segs) = segs := by
  have hall : ∀ p ∈ segs.map String.toList,
      (decide (p ≠ []) && decide (p ≠ ['.'])) = true := by
    intro p hp
    obtain ⟨n, hn, rfl⟩ := List.mem_map.mp hp
    have hempty : n.toList ≠ [] := by simpa using (hsegs n hn).ne_empty
    have hdot : n.toList ≠ ['.'] := fun h =>
      (hsegs n hn).ne_dot (String.toList_injective (by simpa using h))
    simp [hempty, hdot]
  rw [segments, segmentChars, tidy_iff.mp ht,
    unifySeparators_eq_self (backslash_not_mem_join hsegs), toList_join]
  by_cases hne : segs = []
  · subst hne
    simp [pieces]
  · rw [pieces_intercalate (by simpa using hne)
      (by simpa using fun n hn => (hsegs n hn).no_slash),
      List.filter_eq_self.mpr hall, List.map_map]
    simp

/-- The clean form of a path that has nothing to be cleaned. -/
theorem normalizeChars_eq_self {s : List Char} (htrim : trim s = s) (hback : '\\' ∉ s)
    (hfront : ∀ c ∈ s.head?, c ≠ '/') (hend : ∀ c ∈ s.getLast?, c ≠ '/')
    (hhere : ∀ rest, s ≠ '.' :: '/' :: rest) (hdot : s ≠ ['.']) : normalizeChars s = s := by
  have hdrop : dropHere s = s := by
    rw [dropHere.eq_def]
    split
    · exact absurd rfl (hhere _)
    · rfl
  have hslash : s.dropWhile (· = '/') = s :=
    dropWhile_eq_self_iff.mpr fun c hc => by simpa using hfront c hc
  simp only [normalizeChars, htrim, unifySeparators_eq_self hback, hslash, hdrop, if_neg hdot]
  exact trimEndBy_eq_self_iff.mpr fun c hc => by simpa using hend c hc

/-- A tidy joined path is clean. -/
theorem normalize_join (hsegs : ∀ n ∈ segs, IsSegment n) (ht : Tidy (join segs)) :
    normalize (join segs) = join segs := by
  have hedges := edges_join_ne_slash hsegs
  rw [normalize, normalizeChars_eq_self (tidy_iff.mp ht) (backslash_not_mem_join hsegs) hedges.1
    hedges.2, String.ofList_toList]
  · intro rest hrest
    have hne : segs ≠ [] := by
      rintro rfl
      simp at hrest
    have hparts := parts_join_of_segments hne hsegs
    rw [parts, hrest, show '.' :: '/' :: rest = ['.'] ++ '/' :: rest from rfl,
      pieces_append_slash] at hparts
    have hmem : "." ∈ segs := by simp [← hparts, pieces]
    exact (hsegs "." hmem).ne_dot rfl
  · intro hdot
    have hmem : "." ∈ segs := by
      have hj : join segs = join ["."] := String.toList_injective (by simpa using hdot)
      cases segs with
      | nil => simp at hdot
      | cons n rest =>
        have hparts := parts_join_of_segments (by simp) hsegs
        rw [hj, parts_join (by simp) (by simp)] at hparts
        simp [← hparts]
    exact (hsegs "." hmem).ne_dot rfl

/-! ### Lengths -/

theorem dropHere_suffix (s : List Char) : dropHere s <:+ s := by
  fun_induction dropHere s with
  | case1 rest ih => exact ih.trans ⟨['.', '/'], rfl⟩
  | case2 s => exact List.suffix_refl s

/-- Cleaning a path makes it no longer than trimming does. -/
theorem length_normalize_le (p : String) : (normalize p).toList.length ≤ (trim p.toList).length := by
  have hunify : (unifySeparators (trim p.toList)).length = (trim p.toList).length := by
    simp [unifySeparators]
  have hslash := (List.dropWhile_suffix (fun c => decide (c = '/'))
    (l := unifySeparators (trim p.toList))).length_le
  have hhere := (dropHere_suffix ((unifySeparators (trim p.toList)).dropWhile (· = '/'))).length_le
  rw [normalize, String.toList_ofList, normalizeChars]
  split
  · simp
  · exact Nat.le_trans (length_trimEndBy_le _ _) (by omega)

/-- A clean path holds no backslash. -/
theorem backslash_not_mem_normalize (p : String) : '\\' ∉ (normalize p).toList := by
  rw [normalize, String.toList_ofList, normalizeChars]
  split
  · simp
  · intro h
    rw [trimEndBy, List.mem_reverse] at h
    have hhere := List.mem_reverse.mp ((List.dropWhile_suffix _).subset h)
    have hslash := (dropHere_suffix _).subset hhere
    exact backslash_not_mem_unifySeparators _ ((List.dropWhile_suffix _).subset hslash)

/-- Leaving out pieces makes a text no longer. -/
theorem length_intercalate_le {ps qs : List (List Char)} (h : ps.Sublist qs) :
    (['/'].intercalate ps).length ≤ (['/'].intercalate qs).length := by
  rw [length_intercalate, length_intercalate]
  exact Nat.sub_le_sub_right (extent_le h) 1

/-- Reading off the segments of a path and joining them makes it no longer than trimming does. -/
theorem length_join_segments_le (p : String) :
    (join (segments p)).toList.length ≤ (trim p.toList).length := by
  have hall : (['/'].intercalate (pieces (unifySeparators (trim p.toList)))).length =
      (trim p.toList).length := by
    rw [intercalate_pieces, unifySeparators, List.length_map]
  have hmap : (segments p).map String.toList = segmentChars p.toList := by
    simp [segments]
  rw [toList_join, hmap, segmentChars, ← hall]
  exact length_intercalate_le List.filter_sublist

end FileDepot.Path
