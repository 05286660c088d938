import FileDepot.Proofs.Path.Segments
import Mathlib.Data.List.Pairwise

/-!
# The order of paths

Paths can be put in order as texts, or name by name. Both orders put `/` somewhere else: between two
names it comes before everything when the names are compared first, and after `!`, `-` and `.` when the
texts are. So a path with something behind a name may change places with a path whose name there goes on
with such a character (`Crossed`), and that is the only way in which the orders differ
(`join_lt_join_iff`).
-/

namespace FileDepot.Path

variable {a b : String} {l k : List String}

/-- Whether names come before others while their path comes after: up to some name both are alike, and
one goes on behind it while the other has a longer name there, by a character in front of `/`. -/
inductive Crossed : List String → List String → Prop where
  /-- something is behind a name, which the other name continues -/
  | here {a b : String} {l k : List String} {c : Char} {more : List Char} (hl : l ≠ [])
      (hc : c < '/') (hb : b.toList = a.toList ++ c :: more) : Crossed (a :: l) (b :: k)
  /-- the first names are alike -/
  | there {a : String} {l k : List String} (h : Crossed l k) : Crossed (a :: l) (a :: k)

theorem not_crossed_nil : ¬ Crossed [] k := nofun

theorem crossed_cons_iff : Crossed (a :: l) (b :: k) ↔
    (l ≠ [] ∧ ∃ c more, c < '/' ∧ b.toList = a.toList ++ c :: more) ∨ (a = b ∧ Crossed l k) := by
  constructor
  · rintro (⟨hl, hc, hb⟩ | h)
    · exact .inl ⟨hl, _, _, hc, hb⟩
    · exact .inr ⟨rfl, h⟩
  · rintro (⟨hl, c, more, hc, hb⟩ | ⟨rfl, h⟩)
    · exact .here hl hc hb
    · exact .there h

/-- Names that differ in the last one only are not crossed. -/
theorem not_crossed_concat (base : List String) (a b : String) :
    ¬ Crossed (base ++ [a]) (base ++ [b]) := by
  induction base with
  | nil => simp [crossed_cons_iff, not_crossed_nil]
  | cons n base ih => simpa [crossed_cons_iff] using ih

/-! ## Texts -/

/-- Behind a common front, lists are in the order of what is left of them. -/
theorem append_lt_append_iff {α : Type} [LT α] [Std.Irrefl fun a b : α => a < b] (s : List α)
    {t u : List α} : s ++ t < s ++ u ↔ t < u := by
  induction s with
  | nil => rfl
  | cons c s ih =>
    have hc : ¬ c < c := Std.Irrefl.irrefl c
    simp only [List.cons_append, List.cons_lt_cons_iff, hc, false_or, true_and, ih]

theorem lt_append_cons (s : List Char) (c : Char) (more : List Char) : s < s ++ c :: more := by
  have hlt := (append_lt_append_iff s).mpr (List.nil_lt_cons c more)
  rwa [List.append_nil] at hlt

/-- A text comes before another one when that one goes on behind it, or at the first character in which
they differ. -/
theorem lt_cases {s t : List Char} (h : s < t) :
    (∃ c more, t = s ++ c :: more) ∨
    ∃ front x y s' t', s = front ++ x :: s' ∧ t = front ++ y :: t' ∧ x < y := by
  induction s generalizing t with
  | nil =>
    cases t with
    | nil => exact absurd h (List.lt_irrefl _)
    | cons c more => exact .inl ⟨c, more, rfl⟩
  | cons x s ih =>
    cases t with
    | nil => exact absurd h (List.not_lt_nil _)
    | cons y t =>
      rcases List.cons_lt_cons_iff.mp h with hxy | ⟨rfl, hrest⟩
      · exact .inr ⟨[], x, y, s, t, rfl, rfl, hxy⟩
      · rcases ih hrest with ⟨c, more, rfl⟩ | ⟨front, u, v, s', t', rfl, rfl, huv⟩
        · exact .inl ⟨c, more, rfl⟩
        · exact .inr ⟨x :: front, u, v, s', t', rfl, rfl, huv⟩

/-- A text that comes before another one, which does not go on behind it, comes before it whatever
stands behind both. -/
theorem lt_append_cases {s t : List Char} (h : s < t) :
    (∃ c more, t = s ++ c :: more) ∨
      ((∀ c more, t ≠ s ++ c :: more) ∧ ∀ u v, s ++ u < t ++ v) := by
  rcases lt_cases h with hmore | ⟨front, x, y, s, t, rfl, rfl, hxy⟩
  · exact .inl hmore
  · refine .inr ⟨fun c more heq => ?_, fun u v => ?_⟩
    · rw [List.append_assoc] at heq
      obtain ⟨rfl, -⟩ := List.cons.inj (List.append_cancel_left heq)
      exact Char.lt_irrefl _ hxy
    · rw [List.append_assoc, List.append_assoc, append_lt_append_iff]
      exact List.cons_lt_cons_iff.mpr (.inl hxy)

/-! ## Paths -/

theorem toList_join_cons (hl : l ≠ []) :
    (join (a :: l)).toList = a.toList ++ '/' :: (join l).toList := by
  rw [join_cons hl, String.toList_append, String.toList_append, List.append_assoc]
  rfl

/-- A path begins with its first name. -/
theorem exists_toList_join_cons (a : String) (l : List String) :
    ∃ t, (join (a :: l)).toList = a.toList ++ t := by
  by_cases hl : l = []
  · exact ⟨[], by simp [hl]⟩
  · exact ⟨_, toList_join_cons hl⟩

/-- Behind the same name, paths are in the order of what is left of them. -/
theorem join_cons_lt_join_cons_iff (hk : k ≠ []) :
    join (a :: l) < join (a :: k) ↔ l = [] ∨ join l < join k := by
  rw [String.lt_iff, toList_join_cons hk]
  by_cases hl : l = []
  · simpa [hl] using lt_append_cons a.toList '/' (join k).toList
  · have hslash : ¬ '/' < '/' := Char.lt_irrefl _
    rw [toList_join_cons hl, append_lt_append_iff, List.cons_lt_cons_iff, ← String.lt_iff]
    simp only [hslash, hl, false_or, true_and]

/-- Where the second name goes on behind the first, so does the order of the paths: the separator stands
against the next character. -/
theorem join_lt_join_continued {c : Char} {more : List Char} (hslash : '/' ∉ b.toList)
    (hb : b.toList = a.toList ++ c :: more) :
    join (a :: l) < join (b :: k) ↔ l = [] ∨ ¬ c < '/' := by
  obtain ⟨t, ht⟩ := exists_toList_join_cons b k
  rw [String.lt_iff, ht, hb, List.append_assoc, List.cons_append]
  by_cases hl : l = []
  · simpa [hl] using lt_append_cons a.toList c (more ++ t)
  · have hc : '/' ≠ c := by
      rintro rfl
      exact hslash (by simp [hb])
    rw [toList_join_cons hl, append_lt_append_iff, List.cons_lt_cons_iff]
    simp only [hc, false_and, or_false, hl, false_or, Char.not_lt]
    exact ⟨fun h => Std.le_of_lt h, fun h => Std.lt_of_le_of_ne h hc⟩

/-- **Order.** Names that come before others have the path that comes before, unless they are crossed. -/
theorem join_lt_join_iff (hslash : ∀ n ∈ k, '/' ∉ n.toList) (hl : l ≠ []) (h : l < k) :
    join l < join k ↔ ¬ Crossed l k := by
  induction l generalizing k with
  | nil => exact absurd rfl hl
  | cons a l ih =>
    cases k with
    | nil => exact absurd h (List.not_lt_nil _)
    | cons b k =>
      rw [crossed_cons_iff]
      rcases List.cons_lt_cons_iff.mp h with hab | ⟨rfl, hrest⟩
      · have hne : a ≠ b := fun hab' => String.lt_irrefl b (hab' ▸ hab)
        rcases lt_append_cases (String.lt_iff.mp hab) with ⟨c, more, hmore⟩ | ⟨hstop, hlt⟩
        · have hnext : (∃ c' more', c' < '/' ∧ b.toList = a.toList ++ c' :: more') ↔ c < '/' := by
            refine ⟨fun ⟨c', more', hc', heq⟩ => ?_, fun hc => ⟨c, more, hc, hmore⟩⟩
            rw [hmore] at heq
            obtain ⟨rfl, -⟩ := List.cons.inj (List.append_cancel_left heq)
            exact hc'
          rw [join_lt_join_continued (hslash b (by simp)) hmore, hnext]
          simp only [hne, false_and, or_false, not_and, ne_eq]
          exact or_iff_not_imp_left
        · obtain ⟨t, ht⟩ := exists_toList_join_cons a l
          obtain ⟨u, hu⟩ := exists_toList_join_cons b k
          rw [String.lt_iff, ht, hu]
          refine iff_of_true (hlt t u) ?_
          rintro (⟨-, c, more, -, hmore⟩ | ⟨hab', -⟩)
          · exact hstop c more hmore
          · exact hne hab'
      · have hself : ∀ c more, a.toList ≠ a.toList ++ c :: more := by simp
        have hk : k ≠ [] := by
          rintro rfl
          exact List.not_lt_nil _ hrest
        rw [join_cons_lt_join_cons_iff hk]
        by_cases hnil : l = []
        · simp [hnil, not_crossed_nil]
        · rw [ih (fun n hn => hslash n (by simp [hn])) hnil hrest]
          simp [hnil, hself]

/-- Crossed names are in order, so the paths are not. -/
theorem lt_of_crossed (h : Crossed l k) : l < k := by
  induction h with
  | @here a b l k c more _ _ hb =>
    refine List.cons_lt_cons_iff.mpr (.inl (String.lt_iff.mpr ?_))
    rw [hb]
    exact lt_append_cons a.toList c more
  | there _ ih => exact List.cons_lt_cons_iff.mpr (.inr ⟨rfl, ih⟩)

/-- Paths whose names are in order are in order themselves exactly when no two are crossed. -/
theorem increasing_iff_not_crossed {paths : List String} (h : (paths.map parts).Pairwise (· < ·)) :
    paths.Pairwise (· < ·) ↔ ∀ p ∈ paths, ∀ q ∈ paths, ¬ Crossed (parts p) (parts q) := by
  rw [List.pairwise_map] at h
  have hlt {p q : String} (hpq : parts p < parts q) : p < q ↔ ¬ Crossed (parts p) (parts q) := by
    have := join_lt_join_iff (fun n hn => slash_not_mem_of_mem_parts hn) (parts_ne_nil p) hpq
    rwa [join_parts, join_parts] at this
  constructor
  · intro hpaths p hp q hq hcrossed
    have hnames := lt_of_crossed hcrossed
    have hne : p ≠ q := by
      rintro rfl
      exact List.lt_irrefl _ hnames
    -- of two paths one stands first, and the order of the names says which
    let Ordered (p q : String) : Prop :=
      (p < q ∧ parts p < parts q) ∨ (q < p ∧ parts q < parts p)
    have : Std.Symm Ordered := ⟨fun _ _ => Or.symm⟩
    have hordered : paths.Pairwise Ordered := (hpaths.and h).imp Or.inl
    rcases hordered.forall hp hq hne with ⟨hpq, -⟩ | ⟨-, hback⟩
    · exact (hlt hnames).mp hpq hcrossed
    · exact List.lt_irrefl _ (List.lt_trans hnames hback)
  · intro hcross
    exact h.imp_of_mem fun hp hq hpq => (hlt hpq).mpr (hcross _ hp _ hq)

end FileDepot.Path
