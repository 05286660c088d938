import FileDepot.Text.Blank
import Mathlib.Data.List.Basic

/-!
# Trimming

Trimming drops characters at the edges of a text and nothing else: the result is no longer than the
text, and a text stays as it is exactly when its edges are *tidy*.
-/

namespace FileDepot.Text

variable {p : Char → Bool} {s : List Char}

/-- Whether a string neither begins nor ends with a blank. -/
def Tidy (s : String) : Prop :=
  (∀ c ∈ s.toList.head?, isBlank c = false) ∧ ∀ c ∈ s.toList.getLast?, isBlank c = false

instance (s : String) : Decidable (Tidy s) :=
  decidable_of_iff (s.toList.head?.all (!isBlank ·) ∧ s.toList.getLast?.all (!isBlank ·))
    (by simp [Tidy, Option.all_eq_true])

theorem dropWhile_eq_self_iff : s.dropWhile p = s ↔ ∀ c ∈ s.head?, p c = false := by
  cases s with
  | nil => simp
  | cons c rest =>
    cases hc : p c with
    | false => simp [hc]
    | true =>
      have hlength := (List.dropWhile_suffix p (l := rest)).length_le
      simp only [List.dropWhile_cons, hc, if_true, List.head?_cons, Option.mem_some_iff,
        forall_eq', Bool.true_eq_false, iff_false]
      intro h
      rw [h, List.length_cons] at hlength
      omega

theorem trimEndBy_eq_self_iff : trimEndBy p s = s ↔ ∀ c ∈ s.getLast?, p c = false := by
  rw [trimEndBy, List.reverse_eq_iff, dropWhile_eq_self_iff, List.head?_reverse]

theorem length_trimEndBy_le (p : Char → Bool) (s : List Char) :
    (trimEndBy p s).length ≤ s.length := by
  simpa [trimEndBy] using (List.dropWhile_suffix p (l := s.reverse)).length_le

theorem length_trimBy_le (p : Char → Bool) (s : List Char) : (trimBy p s).length ≤ s.length :=
  Nat.le_trans (length_trimEndBy_le p _) (List.dropWhile_suffix p).length_le

/-- Trimming leaves a part of a text. -/
theorem trimBy_infix (p : Char → Bool) (s : List Char) : trimBy p s <:+: s := by
  have hprefix : trimBy p s <+: s.dropWhile p := by
    rw [trimBy, trimEndBy, ← List.reverse_suffix, List.reverse_reverse]
    exact List.dropWhile_suffix p
  exact hprefix.isInfix.trans (List.dropWhile_suffix p).isInfix

theorem length_trim_le (s : List Char) : (trim s).length ≤ s.length := length_trimBy_le isBlank s

/-- A text that keeps its length is not trimmed. -/
theorem trimBy_eq_self_of_length (h : s.length ≤ (trimBy p s).length) :
    (∀ c ∈ s.head?, p c = false) ∧ ∀ c ∈ s.getLast?, p c = false := by
  have hend := length_trimEndBy_le p (s.dropWhile p)
  have hfront : s.dropWhile p = s :=
    (List.dropWhile_suffix p).eq_of_length_le (Nat.le_trans h hend)
  refine ⟨dropWhile_eq_self_iff.mp hfront, trimEndBy_eq_self_iff.mp ?_⟩
  rw [trimBy, hfront, trimEndBy, List.length_reverse] at h
  rw [trimEndBy, List.reverse_eq_iff]
  exact (List.dropWhile_suffix p).eq_of_length_le (by rwa [List.length_reverse])

/-- A text is not trimmed exactly when its edges are not in the class. -/
theorem trimBy_eq_self_iff :
    trimBy p s = s ↔ (∀ c ∈ s.head?, p c = false) ∧ ∀ c ∈ s.getLast?, p c = false := by
  constructor
  · exact fun h => trimBy_eq_self_of_length (Nat.le_of_eq (congrArg List.length h).symm)
  · rintro ⟨hfront, hend⟩
    rw [trimBy, dropWhile_eq_self_iff.mpr hfront, trimEndBy_eq_self_iff.mpr hend]

theorem head?_dropWhile {α : Type} (p : α → Bool) (s : List α) :
    ∀ c ∈ (s.dropWhile p).head?, p c = false := by
  intro c hc
  have := List.head?_dropWhile_not p s
  rwa [Option.mem_def.mp hc] at this

theorem trimEndBy_trimEndBy (p : Char → Bool) (s : List Char) :
    trimEndBy p (trimEndBy p s) = trimEndBy p s := by
  refine trimEndBy_eq_self_iff.mpr fun c hc => ?_
  rw [trimEndBy, List.getLast?_reverse] at hc
  exact head?_dropWhile p _ c hc

theorem trimEndBy_cons (p : Char → Bool) (c : Char) (s : List Char) :
    trimEndBy p (c :: s) = if (trimEndBy p s).isEmpty && p c then [] else c :: trimEndBy p s := by
  simp only [trimEndBy, List.reverse_cons, List.dropWhile_append, List.isEmpty_reverse]
  cases hempty : (s.reverse.dropWhile p).isEmpty with
  | true =>
    rw [List.isEmpty_iff] at hempty
    cases hc : p c <;> simp [hc, hempty]
  | false => simp

theorem mem_of_mem_trimEndBy {c : Char} (h : c ∈ trimEndBy p s) : c ∈ s := by
  rw [trimEndBy, List.mem_reverse] at h
  exact List.mem_reverse.mp ((List.dropWhile_suffix _).subset h)

/-- Dropping characters at the end of two texts reaches the first one when the second is all dropped. -/
theorem trimEndBy_append (p : Char → Bool) (s t : List Char) :
    trimEndBy p (s ++ t) = if (trimEndBy p t).isEmpty then trimEndBy p s else s ++ trimEndBy p t := by
  simp only [trimEndBy, List.reverse_append, List.dropWhile_append, List.isEmpty_reverse]
  split
  · rfl
  · rw [List.reverse_append, List.reverse_reverse]

/-- Dropping characters at the end stops at one that is kept. -/
theorem trimEndBy_append_cons {p : Char → Bool} {c : Char} (hc : p c = false) (s t : List Char) :
    trimEndBy p (s ++ c :: t) = s ++ c :: trimEndBy p t := by
  have hcons : trimEndBy p (c :: t) = c :: trimEndBy p t := by simp [trimEndBy_cons, hc]
  rw [trimEndBy_append, hcons, List.isEmpty_cons, if_neg Bool.false_ne_true]

/-- Trimming the end first makes no difference. -/
theorem trimBy_trimEndBy (p : Char → Bool) (s : List Char) : trimBy p (trimEndBy p s) = trimBy p s := by
  induction s with
  | nil => rfl
  | cons c s ih =>
    cases hc : p c with
    | false =>
      have hcons : trimEndBy p (c :: s) = c :: trimEndBy p s := by simp [trimEndBy_cons, hc]
      have hkeep (t : List Char) : trimBy p (c :: t) = trimEndBy p (c :: t) := by simp [trimBy, hc]
      rw [hcons, hkeep, hkeep, trimEndBy_cons, trimEndBy_cons, trimEndBy_trimEndBy]
    | true =>
      have hdrop (t : List Char) : trimBy p (c :: t) = trimBy p t := by simp [trimBy, hc]
      rw [hdrop, ← ih, trimEndBy_cons, hc, Bool.and_true]
      split
      · rename_i hnil
        rw [List.isEmpty_iff.mp hnil]
      · exact hdrop _

/-- Trimming twice is trimming once. -/
theorem trimBy_trimBy (p : Char → Bool) (s : List Char) : trimBy p (trimBy p s) = trimBy p s := by
  rw [trimBy.eq_1 p s, trimBy_trimEndBy, trimBy, dropWhile_eq_self_iff.mpr (head?_dropWhile p s)]

theorem tidy_iff {s : String} : Tidy s ↔ trim s.toList = s.toList := trimBy_eq_self_iff.symm

end FileDepot.Text
