import FileDepot.Proofs.Path.Append
import Mathlib.Data.List.TakeWhile

/-!
# Clean paths

Cleaning a path drops what it begins with in a fixed order, each kind once: blanks, separators, `./` marks. A
mark may hide a separator or a blank, and either then stands at the front of the result; separators at the end
hide blanks in the same way. So the result of cleaning is not always clean.

* **ends** — `normalize_ends`: what no result begins or ends with;
* **front** — `isAbsolute_normalize_iff`: which paths come out with a separator in front (`HidesTop`);
* **again** — `normalize_normalize_iff`: which results are left as they are when they are cleaned again.
-/

namespace FileDepot.Path

open FileDepot.Text

variable {s rest q : List Char} {p : String}

/-! ## Marks in front -/

/-- A number of `./` marks. -/
def marks (n : Nat) : List Char := (List.replicate n ['.', '/']).flatten

theorem marks_succ_append (n : Nat) (s : List Char) : marks (n + 1) ++ s = '.' :: '/' :: (marks n ++ s) := by
  rw [marks, List.replicate_succ, List.flatten_cons, ← marks]
  rfl

/-- No mark is left where marks are dropped. -/
theorem dropHere_ne_mark (s rest : List Char) : dropHere s ≠ '.' :: '/' :: rest := by
  fun_induction dropHere s with
  | case1 s ih => exact ih
  | case2 s hno => exact fun h => hno rest h

/-- Behind the marks that are dropped stands what is left. -/
theorem exists_marks (s : List Char) : ∃ n, s = marks n ++ dropHere s := by
  fun_induction dropHere s with
  | case1 s ih =>
    obtain ⟨n, hn⟩ := ih
    exact ⟨n + 1, by rw [marks_succ_append, ← hn]⟩
  | case2 s hno => exact ⟨0, rfl⟩

theorem dropHere_marks (n : Nat) (s : List Char) : dropHere (marks n ++ s) = dropHere s := by
  induction n with
  | zero => rfl
  | succ n ih => rw [marks_succ_append, dropHere, ih]

/-! ## What is cleaned at the end -/

/-- What is dropped at the end of a text is in the class. -/
theorem exists_trimEndBy_append (c : Char → Bool) (s : List Char) :
    ∃ t, s = trimEndBy c s ++ t ∧ ∀ x ∈ t, c x = true := by
  refine ⟨(s.reverse.takeWhile c).reverse, ?_, fun x hx => ?_⟩
  · rw [trimEndBy, ← List.reverse_append, List.takeWhile_append_dropWhile, List.reverse_reverse]
  · exact List.mem_takeWhile_imp (List.mem_reverse.mp hx)

/-- A text whose separators, marks and blanks in front are dropped, before anything is dropped at its end. -/
def frontCleaned (s : List Char) : List Char := dropHere ((unifySeparators (trim s)).dropWhile (· = '/'))

theorem normalizeChars_eq (s : List Char) : normalizeChars s =
    if frontCleaned s = ['.'] then [] else trimEndBy (· = '/') (frontCleaned s) := rfl

theorem prefix_frontCleaned (s : List Char) : normalizeChars s <+: frontCleaned s := by
  rw [normalizeChars_eq]
  split
  · exact List.nil_prefix
  · obtain ⟨t, ht, -⟩ := exists_trimEndBy_append (· = '/') (frontCleaned s)
    exact ⟨t, ht.symm⟩

/-- **Ends.** A cleaned path neither ends with a separator nor begins with a mark, and is no mark itself. -/
theorem normalize_ends (p : String) : (∀ c ∈ (normalize p).toList.getLast?, c ≠ '/') ∧
    (∀ rest, (normalize p).toList ≠ '.' :: '/' :: rest) ∧ normalize p ≠ "." := by
  have hchars : (normalize p).toList = normalizeChars p.toList := String.toList_ofList
  obtain ⟨more, hmore⟩ := prefix_frontCleaned p.toList
  rw [hchars]
  refine ⟨fun c hc => ?_, fun rest hrest => ?_, fun hdot => ?_⟩
  · rw [normalizeChars_eq] at hc
    split at hc
    · cases hc
    · have hkept := trimEndBy_eq_self_iff.mp (trimEndBy_trimEndBy (· = '/') (frontCleaned p.toList)) c hc
      exact of_decide_eq_false hkept
  · rw [hrest] at hmore
    exact dropHere_ne_mark _ _ hmore.symm
  · have hone : normalizeChars p.toList = ['.'] := by simp [← hchars, hdot]
    rw [normalizeChars_eq] at hone
    split at hone
    · cases hone
    · rename_i hne
      obtain ⟨t, ht, hslash⟩ := exists_trimEndBy_append (· = '/') (frontCleaned p.toList)
      rw [hone] at ht
      -- what was dropped behind the point is separators, and there is some
      cases t with
      | nil => exact hne ht
      | cons c t =>
        obtain rfl := of_decide_eq_true (hslash c (List.mem_cons_self ..))
        exact dropHere_ne_mark _ _ ht

/-! ## What is kept -/

theorem mem_of_mem_unifySeparators {c : Char} (hc : c ∈ unifySeparators s) : c = '/' ∨ c ∈ s := by
  obtain ⟨x, hx, rfl⟩ := List.mem_map.mp hc
  split
  · exact .inl rfl
  · exact .inr hx

/-- A cleaned path holds characters of the path and separators only. -/
theorem mem_of_mem_normalize {c : Char} (hc : c ∈ (normalize p).toList) : c = '/' ∨ c ∈ p.toList := by
  rw [normalize, String.toList_ofList] at hc
  have hunified := (List.dropWhile_suffix _).subset
    ((dropHere_suffix _).subset ((prefix_frontCleaned p.toList).subset hc))
  have htrim := trimBy_infix isBlank p.toList
  exact (mem_of_mem_unifySeparators hunified).imp_right fun h => htrim.subset h

/-- A segment of a path holds characters of the path only. -/
theorem mem_of_mem_segments {n : String} (hn : n ∈ segments p) {c : Char} (hc : c ∈ n.toList) :
    c ∈ p.toList := by
  have hslash := (isSegment_of_mem_segments hn).no_slash
  obtain ⟨piece, hpiece, rfl⟩ := List.mem_map.mp hn
  rw [String.toList_ofList] at hc hslash
  have hunified := mem_of_mem_pieces (List.mem_filter.mp hpiece).1 hc
  have hkept := (mem_of_mem_unifySeparators hunified).resolve_left fun h => hslash (h ▸ hc)
  have htrim := trimBy_infix isBlank p.toList
  exact htrim.subset hkept

/-! ## Separators in front -/

/-- A path hides a separator at its front: behind any separators and at least one mark, a separator stands in
front of something else. -/
def HidesTop (p : String) : Prop :=
  ∃ n m rest, unifySeparators (trim p.toList) = List.replicate n '/' ++ marks (m + 1) ++ '/' :: rest ∧
    ∃ c ∈ rest, c ≠ '/'

theorem frontCleaned_slash_iff : (frontCleaned s = '/' :: rest) ↔
    ∃ n m, unifySeparators (trim s) = List.replicate n '/' ++ marks (m + 1) ++ '/' :: rest := by
  have hslashes : (unifySeparators (trim s)).takeWhile (· = '/') =
      List.replicate ((unifySeparators (trim s)).takeWhile (· = '/')).length '/' :=
    List.eq_replicate_of_mem fun c hc => by simpa using List.mem_takeWhile_imp hc
  constructor
  · intro h
    obtain ⟨m, hm⟩ := exists_marks ((unifySeparators (trim s)).dropWhile (· = '/'))
    rw [frontCleaned] at h
    rw [h] at hm
    cases m with
    | zero =>
      have hhead := head?_dropWhile (fun c => decide (c = '/')) (unifySeparators (trim s)) '/'
        (by rw [hm]; rfl)
      exact absurd rfl (of_decide_eq_false hhead)
    | succ m =>
      refine ⟨((unifySeparators (trim s)).takeWhile (· = '/')).length, m, ?_⟩
      rw [List.append_assoc, ← hm, ← hslashes, List.takeWhile_append_dropWhile]
  · rintro ⟨n, m, h⟩
    rw [frontCleaned, h, List.append_assoc, List.dropWhile_append_of_pos, marks_succ_append,
      List.dropWhile_cons_of_neg (by decide), ← marks_succ_append, dropHere_marks]
    · rfl
    · exact fun c hc => decide_eq_true (List.eq_of_mem_replicate hc)

/-- **Front.** A cleaned path begins with a separator exactly when the path hides one. -/
theorem isAbsolute_normalize_iff (p : String) : IsAbsolute (normalize p) ↔ HidesTop p := by
  have hchars : (normalize p).toList = normalizeChars p.toList := String.toList_ofList
  rw [IsAbsolute, hchars]
  constructor
  · intro h
    obtain ⟨rest, hrest⟩ := List.head?_eq_some_iff.mp h
    obtain ⟨more, hmore⟩ := prefix_frontCleaned p.toList
    rw [hrest, List.cons_append] at hmore
    obtain ⟨n, m, hwritten⟩ := frontCleaned_slash_iff.mp hmore.symm
    refine ⟨n, m, rest ++ more, hwritten, ?_⟩
    by_contra hall
    push Not at hall
    -- nothing but separators would be dropped from the end on
    have hnil : trimEndBy (· = '/') (frontCleaned p.toList) = [] := by
      rw [← hmore, trimEndBy, List.reverse_eq_nil_iff, List.dropWhile_eq_nil_iff]
      intro c hc
      obtain rfl | hc := List.mem_cons.mp (List.mem_reverse.mp hc)
      · rfl
      · exact decide_eq_true (hall c hc)
    rw [normalizeChars_eq, hnil, ite_self] at hrest
    cases hrest
  · rintro ⟨n, m, rest, hwritten, c, hc, hne⟩
    have hfront : frontCleaned p.toList = '/' :: rest := frontCleaned_slash_iff.mpr ⟨n, m, hwritten⟩
    obtain ⟨before, after, rfl⟩ := List.append_of_mem hc
    rw [normalizeChars_eq, hfront, if_neg (by simp), ← List.cons_append,
      trimEndBy_append_cons (by simpa using hne)]
    rfl

/-! ## Cleaning again -/

/-- Cleaning a text that begins with a separator makes it shorter than trimming does. -/
theorem length_normalize_lt (h : (trim p.toList).head? = some '/') :
    (normalize p).toList.length < (trim p.toList).length := by
  obtain ⟨rest, hrest⟩ := List.head?_eq_some_iff.mp h
  have hfront := (dropHere_suffix ((unifySeparators (trim p.toList)).dropWhile (· = '/'))).length_le
  have hslash : ((unifySeparators (trim p.toList)).dropWhile (· = '/')).length ≤ rest.length := by
    rw [hrest, unifySeparators, List.map_cons]
    simpa using (List.dropWhile_suffix (fun c => decide (c = '/'))
      (l := rest.map fun c => if c = '\\' then '/' else c)).length_le
  rw [normalize, String.toList_ofList, hrest, List.length_cons]
  rw [← frontCleaned] at hfront
  have hprefix := (prefix_frontCleaned p.toList).length_le
  omega

/-- **Again.** A cleaned path is left as it is when it is cleaned again exactly if no separator is in front of
it and no blank is at an edge. -/
theorem normalize_normalize_iff (p : String) :
    normalize (normalize p) = normalize p ↔ ¬ IsAbsolute (normalize p) ∧ Tidy (normalize p) := by
  constructor
  · intro h
    have hlength := length_normalize_le (normalize p)
    rw [h] at hlength
    have htidy : Tidy (normalize p) := trimBy_eq_self_of_length hlength
    refine ⟨fun habs => ?_, htidy⟩
    have hlt := length_normalize_lt (p := normalize p) (by rw [tidy_iff.mp htidy]; exact habs)
    rw [h, tidy_iff.mp htidy] at hlt
    exact Nat.lt_irrefl _ hlt
  · rintro ⟨hrelative, htidy⟩
    obtain ⟨hend, hmark, hdot⟩ := normalize_ends p
    have hself : normalizeChars (normalize p).toList = (normalize p).toList :=
      normalizeChars_eq_self (tidy_iff.mp htidy) (backslash_not_mem_normalize p)
        (fun c hc => by rintro rfl; exact hrelative hc) hend hmark
        fun h => hdot (String.toList_injective h)
    rw [normalize, hself, String.ofList_toList]

/-! ## Pieces of a trimmed text -/

/-- Text without a separator goes on the last piece. -/
theorem pieces_append {t : List Char} (ht : '/' ∉ t) (s : List Char) :
    ∃ front last, pieces s = front ++ [last] ∧ pieces (s ++ t) = front ++ [last ++ t] := by
  induction s with
  | nil => exact ⟨[], [], rfl, pieces_eq_singleton ht⟩
  | cons c s ih =>
    obtain ⟨front, last, hs, hst⟩ := ih
    by_cases hc : c = '/'
    · subst hc
      exact ⟨[] :: front, last, by rw [pieces_slash, hs]; rfl, by rw [List.cons_append, pieces_slash, hst]; rfl⟩
    · cases front with
      | nil => exact ⟨[], c :: last, pieces_cons hc hs, pieces_cons hc hst⟩
      | cons p front => exact ⟨(c :: p) :: front, last, pieces_cons hc hs, pieces_cons hc hst⟩

theorem slash_not_mem_of_blank {t : List Char} (h : ∀ c ∈ t, isBlank c = true) : '/' ∉ t := fun hc =>
  absurd (h '/' hc) (by decide)

/-- A piece without blanks is not touched when blanks in front are dropped. -/
theorem mem_pieces_of_blank_append {t : List Char} (ht : ∀ c ∈ t, isBlank c = true)
    (hq : ∀ c ∈ q, isBlank c = false) (h : q ∈ pieces (t ++ s)) : q ∈ pieces s := by
  induction t with
  | nil => exact h
  | cons c t ih =>
    have hc : isBlank c = true := ht c (List.mem_cons_self ..)
    have hslash : c ≠ '/' := fun he => slash_not_mem_of_blank ht (he ▸ List.mem_cons_self ..)
    obtain ⟨p, ps, hp⟩ := List.exists_cons_of_ne_nil (pieces_ne_nil (t ++ s))
    rw [List.cons_append, pieces_cons hslash hp, List.mem_cons] at h
    obtain rfl | h := h
    · rw [hq c (List.mem_cons_self ..)] at hc
      cases hc
    · exact ih (fun x hx => ht x (List.mem_cons_of_mem _ hx)) (hp ▸ List.mem_cons_of_mem _ h)

theorem mem_pieces_of_append_blank {t : List Char} (ht : ∀ c ∈ t, isBlank c = true)
    (hq : ∀ c ∈ q, isBlank c = false) (h : q ∈ pieces (s ++ t)) : q ∈ pieces s := by
  obtain ⟨front, last, hs, hst⟩ := pieces_append (slash_not_mem_of_blank ht) s
  rw [hst, List.mem_append, List.mem_singleton] at h
  rw [hs, List.mem_append, List.mem_singleton]
  refine h.imp_right fun hlast => ?_
  cases t with
  | nil => simpa using hlast
  | cons c t =>
    have hc := hq c (by simp [hlast])
    rw [ht c (List.mem_cons_self ..)] at hc
    cases hc

/-- A piece without blanks is not touched by trimming. -/
theorem mem_pieces_trim (hq : ∀ c ∈ q, isBlank c = false) (h : q ∈ pieces s) : q ∈ pieces (trim s) := by
  obtain ⟨t, ht, hblank⟩ := exists_trimEndBy_append isBlank (s.dropWhile isBlank)
  rw [trim, trimBy]
  refine mem_pieces_of_append_blank hblank hq (ht ▸ ?_)
  refine mem_pieces_of_blank_append (t := s.takeWhile isBlank) (fun c => List.mem_takeWhile_imp) hq ?_
  rwa [List.takeWhile_append_dropWhile]

end FileDepot.Path
