import FileDepot.Store.Basic
import Mathlib.Data.List.Basic

/-!
# The order of texts

`textOrder` is the order of strings by their characters, so that sorting by it puts different strings
into strictly increasing order (`increasing_mergeSort`). Such a list is told by its members
(`eq_of_increasing`).
-/

namespace FileDepot

theorem charOrder_iff (s t : List Char) : charOrder s t = true ↔ ¬ t < s := by
  induction s generalizing t with
  | nil => simp [charOrder]
  | cons c s ih =>
    cases t with
    | nil => simp [charOrder]
    | cons d t =>
      rw [charOrder, List.cons_lt_cons_iff]
      by_cases h : c = d
      · subst h
        have hcc : ¬ c < c := Char.lt_irrefl c
        simp only [if_pos, ih, hcc, false_or, true_and]
      · have hdc : ¬ d < c ↔ c < d := by
          refine ⟨fun hlt => ?_, Char.lt_asymm⟩
          rw [← Char.not_le]
          intro hle
          exact h (Char.le_antisymm (Char.not_lt.mp hlt) hle)
        simp [h, Ne.symm h, hdc]

theorem textOrder_iff (a b : String) : textOrder a b = true ↔ ¬ b < a :=
  (charOrder_iff a.toList b.toList).trans (not_congr String.lt_iff).symm

/-- Sorting by a test for a strict order puts different elements into strictly increasing order. -/
theorem increasing_mergeSort_of {α : Type} {lt : α → α → Prop} [Std.Asymm lt] [Std.Trichotomous lt]
    [IsTrans α lt] {test : α → α → Bool} (htest : ∀ a b, test a b = true ↔ ¬ lt b a) {l : List α}
    (h : l.Nodup) : (l.mergeSort test).Pairwise lt := by
  have hsorted : (l.mergeSort test).Pairwise (test · ·) := by
    refine List.pairwise_mergeSort (fun a b c hab hbc => ?_) (fun a b => ?_) l
    · rw [htest] at hab hbc ⊢
      intro hca
      rcases trichotomous_of lt b c with hlt | rfl | hlt
      · exact hab (trans_of lt hlt hca)
      · exact hab hca
      · exact hbc hlt
    · rw [Bool.or_eq_true, htest, htest, ← not_and_or]
      exact fun ⟨hba, hab⟩ => Std.Asymm.asymm _ _ hba hab
  have hnodup : (l.mergeSort test).Nodup := (List.mergeSort_perm l test).nodup_iff.mpr h
  refine hsorted.imp₂ (fun a b hab hne => ?_) hnodup
  rcases trichotomous_of lt a b with hlt | heq | hlt
  · exact hlt
  · exact absurd heq hne
  · exact absurd hlt ((htest a b).mp hab)

/-- Sorting puts different strings into strictly increasing order. -/
theorem increasing_mergeSort {l : List String} (h : l.Nodup) :
    (l.mergeSort textOrder).Pairwise (· < ·) :=
  increasing_mergeSort_of textOrder_iff h

/-- Lists in strictly increasing order with the same members are the same. -/
theorem eq_of_increasing {l k : List String} (hl : l.Pairwise (· < ·)) (hk : k.Pairwise (· < ·))
    (hmem : ∀ p, p ∈ l ↔ p ∈ k) : l = k := by
  have hne {a b : String} (h : a < b) : a ≠ b := fun hab => String.lt_irrefl b (hab ▸ h)
  have hperm := (List.perm_ext_iff_of_nodup (hl.imp hne) (hk.imp hne)).mpr hmem
  exact hperm.eq_of_pairwise (fun a b _ _ hab hba => absurd hba (String.lt_asymm hab)) hl hk

end FileDepot
