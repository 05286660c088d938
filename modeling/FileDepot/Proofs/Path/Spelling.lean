import FileDepot.Proofs.Path.Segments
import Mathlib.Data.List.Induction
import Mathlib.Data.List.TakeWhile

/-!
# Spellings of a path

The same segments can be written in many ways: with any number of separators of either kind, with marks for
the directory itself between them, and with blanks at the edges of the whole (`IsSpelling`). A path is
cleaned twice before its segments are used, and the second cleaning reads what the first one made.

* **clean** — `counted_normalizeChars`: cleaning drops pieces that do not count, and only those;
* **twice** — `segments_normalize`: where no piece has a blank at an edge, the second cleaning finds the
  segments that the first one found;
* **spell** — `segments_of_spelling`: the segments of a spelling are those that it spells.
-/

namespace FileDepot.Path

open FileDepot.Text

variable {segs : List String} {n p : String} {s t u : List Char}

/-! ## Pieces that count -/

/-- Whether a piece of a text counts as a segment. -/
def counts (p : List Char) : Bool := p ≠ [] && p ≠ ['.']

/-- The pieces of a text that count. -/
def counted (s : List Char) : List (List Char) := (pieces s).filter counts

/-- One text is another one without some pieces at its edges that do not count. -/
def Cleans (s t : List Char) : Prop :=
  ∃ front back, pieces s = front ++ pieces t ++ back ∧
    (∀ p ∈ front, counts p = false) ∧ ∀ p ∈ back, counts p = false

namespace Cleans

theorem refl (s : List Char) : Cleans s s :=
  ⟨[], [], by simp, List.forall_mem_nil _, List.forall_mem_nil _⟩

theorem trans (h : Cleans s t) (h' : Cleans t u) : Cleans s u := by
  obtain ⟨front, back, hs, hfront, hback⟩ := h
  obtain ⟨front', back', ht, hfront', hback'⟩ := h'
  refine ⟨front ++ front', back' ++ back, ?_, fun p hp => ?_, fun p hp => ?_⟩
  · rw [hs, ht]
    simp only [List.append_assoc]
  · exact (List.mem_append.mp hp).elim (hfront p) (hfront' p)
  · exact (List.mem_append.mp hp).elim (hback' p) (hback p)

/-- The pieces that count stay. -/
theorem counted_eq (h : Cleans s t) : counted s = counted t := by
  obtain ⟨front, back, hs, hfront, hback⟩ := h
  have hnone (l : List (List Char)) (hl : ∀ p ∈ l, counts p = false) : l.filter counts = [] :=
    List.filter_eq_nil_iff.mpr fun p hp => by simp [hl p hp]
  rw [counted, hs, List.filter_append, List.filter_append, hnone front hfront, hnone back hback,
    List.nil_append, List.append_nil, counted]

/-- No new pieces come up. -/
theorem subset (h : Cleans s t) : pieces t ⊆ pieces s := by
  obtain ⟨front, back, hs, -, -⟩ := h
  rw [hs]
  exact fun p hp => List.mem_append_left _ (List.mem_append_right _ hp)

/-- A separator in front. -/
theorem slash (s : List Char) : Cleans ('/' :: s) s :=
  ⟨[[]], [], by simp [pieces_slash], List.forall_mem_singleton.mpr rfl, List.forall_mem_nil _⟩

/-- A mark for the directory itself in front. -/
theorem here (s : List Char) : Cleans ('.' :: '/' :: s) s := by
  refine ⟨[['.']], [], ?_, List.forall_mem_singleton.mpr rfl, List.forall_mem_nil _⟩
  rw [List.append_nil]
  exact pieces_append_slash ['.'] s

/-- A separator at the end. -/
theorem slashEnd (s : List Char) : Cleans (s ++ ['/']) s :=
  ⟨[], [[]], pieces_append_slash s [], List.forall_mem_nil _, List.forall_mem_singleton.mpr rfl⟩

theorem dropSlashes (s : List Char) : Cleans s (s.dropWhile (· = '/')) := by
  induction s with
  | nil => exact refl _
  | cons c s ih =>
    by_cases hc : c = '/'
    · subst hc
      simpa using (slash s).trans ih
    · simpa [hc] using refl (c :: s)

theorem dropHere (s : List Char) : Cleans s (dropHere s) := by
  fun_induction Path.dropHere s with
  | case1 rest ih => exact (here rest).trans ih
  | case2 s => exact refl s

theorem trimSlashes (s : List Char) : Cleans s (trimEndBy (· = '/') s) := by
  induction s using List.reverseRecOn with
  | nil => exact refl _
  | append_singleton s c ih =>
    by_cases hc : c = '/'
    · subst hc
      have hend : trimEndBy (· = '/') (s ++ ['/']) = trimEndBy (· = '/') s := by simp [trimEndBy]
      rw [hend]
      exact (slashEnd s).trans ih
    · have hend : trimEndBy (· = '/') (s ++ [c]) = s ++ [c] := by simp [trimEndBy, hc]
      rw [hend]
      exact refl _

end Cleans

/-! ## Cleaning a path -/

/-- Cleaning a text drops pieces at its edges, unless nothing but a mark for the directory itself is left. -/
theorem cleans_normalizeChars (s : List Char) :
    Cleans (unifySeparators (trim s)) (normalizeChars s) ∨
      Cleans (unifySeparators (trim s)) ['.'] ∧ normalizeChars s = [] := by
  have hfront := (Cleans.dropSlashes (unifySeparators (trim s))).trans (Cleans.dropHere _)
  by_cases hdot : dropHere ((unifySeparators (trim s)).dropWhile (· = '/')) = ['.']
  · right
    rw [hdot] at hfront
    exact ⟨hfront, by simp only [normalizeChars, hdot, if_true]⟩
  · left
    have hclean : normalizeChars s = trimEndBy (· = '/')
        (dropHere ((unifySeparators (trim s)).dropWhile (· = '/'))) := by
      simp only [normalizeChars, hdot, if_false]
    rw [hclean]
    exact hfront.trans (Cleans.trimSlashes _)

/-- **Clean.** Cleaning a text keeps the pieces that count. -/
theorem counted_normalizeChars (s : List Char) :
    counted (normalizeChars s) = counted (unifySeparators (trim s)) := by
  rcases cleans_normalizeChars s with hclean | ⟨hclean, hnil⟩
  · exact hclean.counted_eq.symm
  · rw [hclean.counted_eq, hnil]
    rfl

/-- Whether no blank stands at an edge of a piece of a text. -/
def TidyPieces (s : List Char) : Prop := ∀ p ∈ pieces s, Tidy (String.ofList p)

/-- A text with tidy pieces has tidy edges. -/
theorem TidyPieces.trim_eq (h : TidyPieces s) : trim s = s := by
  have htidy : Tidy (String.ofList s) := tidy_of_parts fun n hn => by
    rw [parts, String.toList_ofList] at hn
    obtain ⟨p, hp, rfl⟩ := List.mem_map.mp hn
    exact h p hp
  simpa using tidy_iff.mp htidy

theorem tidyPieces_normalizeChars (h : TidyPieces (unifySeparators (trim s))) :
    TidyPieces (normalizeChars s) := by
  rcases cleans_normalizeChars s with hclean | ⟨-, hnil⟩
  · exact fun p hp => h p (hclean.subset hp)
  · intro p hp
    rw [hnil, pieces, List.mem_singleton] at hp
    rw [hp]
    decide

/-- **Twice.** Where no piece of a path has a blank at an edge, a cleaned path has the segments of the path. -/
theorem segments_normalize (h : TidyPieces (unifySeparators (trim p.toList))) :
    segments (normalize p) = segments p := by
  have hback : '\\' ∉ normalizeChars p.toList := by
    simpa [normalize] using backslash_not_mem_normalize p
  have hagain : segmentChars (normalizeChars p.toList) = counted (normalizeChars p.toList) := by
    rw [segmentChars, (tidyPieces_normalizeChars h).trim_eq, unifySeparators_eq_self hback]
    rfl
  rw [segments, normalize, String.toList_ofList, hagain, counted_normalizeChars]
  rfl

/-! ## Spellings -/

/-- Whether a character separates segments. -/
def IsSeparator (c : Char) : Prop := c = '/' ∨ c = '\\'

/-- The ways to write segments as a text: behind each segment there is a separator, if anything follows, and
separators and marks for the directory itself may stand wherever a segment may begin. -/
inductive Spells : List String → List Char → Prop where
  /-- nothing more is written -/
  | nil : Spells [] []
  /-- a mark for the directory itself ends the text -/
  | here : Spells [] ['.']
  /-- the last segment ends the text -/
  | last (n : String) : Spells [n] n.toList
  /-- one more separator -/
  | separator {segs t c} (hc : IsSeparator c) : Spells segs t → Spells segs (c :: t)
  /-- a mark for the directory itself, and a separator -/
  | hereThen {segs t c} (hc : IsSeparator c) : Spells segs t → Spells segs ('.' :: c :: t)
  /-- a segment, and a separator -/
  | segment {segs t c} (n : String) (hc : IsSeparator c) :
    Spells segs t → Spells (n :: segs) (n.toList ++ c :: t)

/-- A spelling of segments, which may have blanks at its edges. -/
def IsSpelling (segs : List String) (p : String) : Prop :=
  ∃ front text back, p.toList = front ++ text ++ back ∧ Spells segs text ∧
    (∀ c ∈ front, isBlank c = true) ∧ ∀ c ∈ back, isBlank c = true

/-- Writing segments with a single separator between each two spells them. -/
theorem isSpelling_join (segs : List String) : IsSpelling segs (join segs) := by
  have hspells : Spells segs (join segs).toList := by
    induction segs with
    | nil => exact .nil
    | cons n rest ih =>
      by_cases hrest : rest = []
      · subst hrest
        rw [join_singleton]
        exact .last n
      · have htext : (join (n :: rest)).toList = n.toList ++ '/' :: (join rest).toList := by
          simp [join_cons hrest]
        rw [htext]
        exact .segment n (.inl rfl) ih
  exact ⟨[], _, [], by simp, hspells, List.forall_mem_nil _, List.forall_mem_nil _⟩

theorem unifySeparators_cons_separator {c : Char} (hc : IsSeparator c) (s : List Char) :
    unifySeparators (c :: s) = '/' :: unifySeparators s := by
  rcases hc with rfl | rfl <;> rfl

theorem unifySeparators_segment (hn : IsSegment n) (s : List Char) :
    unifySeparators (n.toList ++ s) = n.toList ++ unifySeparators s := by
  rw [unifySeparators, List.map_append, ← unifySeparators, ← unifySeparators,
    unifySeparators_eq_self hn.no_backslash]

theorem counts_segment (hn : IsSegment n) : counts n.toList = true := by
  have hempty : n.toList ≠ [] := by simpa using hn.ne_empty
  have hdot : n.toList ≠ ['.'] := fun h => hn.ne_dot (String.toList_injective h)
  simp [counts, hempty, hdot]

/-- The pieces of a text that spells segments: those that count are the segments, and the others are empty or
marks for the directory itself. -/
theorem Spells.pieces_unify (h : Spells segs t) (hsegs : ∀ n ∈ segs, IsSegment n ∧ Tidy n) :
    counted (unifySeparators t) = segs.map String.toList ∧ TidyPieces (unifySeparators t) := by
  have hone {q : List Char} (hq : Tidy (String.ofList q)) {s : List Char} (hs : TidyPieces s)
      {s' : List Char} (hpieces : pieces s' = q :: pieces s) : TidyPieces s' := by
    intro p hp
    rw [hpieces] at hp
    rcases List.mem_cons.mp hp with rfl | hp
    · exact hq
    · exact hs p hp
  induction h with
  | nil =>
    refine ⟨rfl, fun p hp => ?_⟩
    obtain rfl : p = [] := List.mem_singleton.mp hp
    decide
  | here =>
    refine ⟨rfl, fun p hp => ?_⟩
    obtain rfl : p = ['.'] := List.mem_singleton.mp hp
    decide
  | last n =>
    obtain ⟨hn, htidy⟩ := hsegs n (List.mem_singleton_self n)
    have hpieces : pieces (unifySeparators n.toList) = [n.toList] := by
      rw [unifySeparators_eq_self hn.no_backslash, pieces_eq_singleton hn.no_slash]
    refine ⟨?_, fun p hp => ?_⟩
    · rw [counted, hpieces, List.filter_cons_of_pos (counts_segment hn)]
      rfl
    · rw [hpieces, List.mem_singleton] at hp
      rwa [hp, String.ofList_toList]
  | separator hc _ ih =>
    obtain ⟨hcounted, htidy⟩ := ih hsegs
    rw [unifySeparators_cons_separator hc]
    exact ⟨(Cleans.slash _).counted_eq.trans hcounted, hone (by decide) htidy (pieces_slash _)⟩
  | @hereThen segs t c hc _ ih =>
    obtain ⟨hcounted, htidy⟩ := ih hsegs
    have hunify : unifySeparators ('.' :: c :: t) = '.' :: '/' :: unifySeparators t := by
      rw [← unifySeparators_cons_separator hc]
      rfl
    rw [hunify]
    exact ⟨(Cleans.here _).counted_eq.trans hcounted,
      hone (by decide) htidy (pieces_append_slash ['.'] _)⟩
  | segment n hc _ ih =>
    obtain ⟨hn, htidy⟩ := hsegs n (List.mem_cons_self ..)
    obtain ⟨hcounted, hrest⟩ := ih fun m hm => hsegs m (List.mem_cons_of_mem _ hm)
    have hpieces (s : List Char) : pieces (n.toList ++ '/' :: s) = n.toList :: pieces s := by
      rw [pieces_append_slash, pieces_eq_singleton hn.no_slash, List.singleton_append]
    rw [unifySeparators_segment hn, unifySeparators_cons_separator hc]
    refine ⟨?_, hone (by rwa [String.ofList_toList]) hrest (hpieces _)⟩
    rw [counted, hpieces, List.filter_cons_of_pos (counts_segment hn), ← counted, hcounted,
      List.map_cons]

/-- Blanks at the edges of a text are trimmed. -/
theorem trim_blanks {front back : List Char} (hfront : ∀ c ∈ front, isBlank c = true)
    (hback : ∀ c ∈ back, isBlank c = true) (ht : trim t = t) : trim (front ++ t ++ back) = t := by
  have hend : trimEndBy isBlank back = [] := by
    rw [trimEndBy, List.reverse_eq_nil_iff, List.dropWhile_eq_nil_iff]
    exact fun c hc => hback c (List.mem_reverse.mp hc)
  have hstart : (front ++ t).dropWhile isBlank = t.dropWhile isBlank := by
    rw [List.dropWhile_append, List.dropWhile_eq_nil_iff.mpr hfront, List.isEmpty_nil, if_pos rfl]
  calc trim (front ++ t ++ back)
      = trimBy isBlank (trimEndBy isBlank (front ++ t ++ back)) := (trimBy_trimEndBy _ _).symm
    _ = trimBy isBlank (trimEndBy isBlank (front ++ t)) := by
      rw [trimEndBy_append, hend, List.isEmpty_nil, if_pos rfl]
    _ = trimBy isBlank (front ++ t) := trimBy_trimEndBy _ _
    _ = trim t := by rw [trimBy, hstart, trim, trimBy]
    _ = t := ht

/-- Separators are no blanks, so that unifying them keeps the edges of a text tidy or not. -/
theorem trim_of_trim_unify (h : trim (unifySeparators t) = unifySeparators t) : trim t = t := by
  have hblank (c : Char) : isBlank (if c = '\\' then '/' else c) = isBlank c := by
    split
    · rename_i hc
      rw [hc]
      rfl
    · rfl
  obtain ⟨hfront, hback⟩ := trimBy_eq_self_iff.mp h
  refine trimBy_eq_self_iff.mpr ⟨fun c hc => ?_, fun c hc => ?_⟩
  · rw [← hblank]
    refine hfront _ ?_
    rw [unifySeparators, List.head?_map, Option.mem_def.mp hc]
    rfl
  · rw [← hblank]
    refine hback _ ?_
    rw [unifySeparators, List.getLast?_map, Option.mem_def.mp hc]
    rfl

/-- **Spell.** The segments of a spelling, cleaned or not, are those that it spells. -/
theorem segments_of_spelling (h : IsSpelling segs p) (hsegs : ∀ n ∈ segs, IsSegment n ∧ Tidy n) :
    segments p = segs ∧ segments (normalize p) = segs := by
  obtain ⟨front, text, back, hp, hspells, hfront, hback⟩ := h
  obtain ⟨hcounted, htidy⟩ := hspells.pieces_unify hsegs
  have htrim : trim p.toList = text := by
    rw [hp]
    exact trim_blanks hfront hback (trim_of_trim_unify htidy.trim_eq)
  have hread : segments p = segs := by
    have hchars : segmentChars p.toList = segs.map String.toList := by
      rw [segmentChars, htrim]
      exact hcounted
    rw [segments, hchars, List.map_map]
    simp
  exact ⟨hread, (segments_normalize (by rwa [htrim])).trans hread⟩

end FileDepot.Path
