import FileDepot.Encoding.Newline
import Mathlib.Data.List.Basic

/-!
# Line ends in pieces

Making all line ends of a text line feeds takes each pair of a carriage return and a line feed as one
(`unify_eq`), so that it changes exactly the texts with a carriage return (`unify_eq_self_iff`). A text in
pieces comes to the same as in one, because a carriage return at the end of a piece waits for the next one
(`feed_more`, `feed_last`).
-/

namespace FileDepot.Encoding.Newline

/-- A carriage return. -/
abbrev cr : Point := .char '\r'

/-- A line feed. -/
abbrev lf : Point := .char '\n'

/-- Write each pair of a carriage return and a line feed as a line feed. -/
def joinPairs : List Point → List Point
  | .char '\r' :: .char '\n' :: rest => lf :: joinPairs rest
  | p :: rest => p :: joinPairs rest
  | [] => []

/-- Write each carriage return as a line feed. -/
def replaceReturns (s : List Point) : List Point := s.map fun p => if p = cr then lf else p

variable {s t : List Point} {p : Point}

/-! ## A text in one piece -/

@[simp] theorem unify_nil : unify [] = [] := by rw [unify]

theorem unify_pair (s : List Point) : unify (cr :: lf :: s) = lf :: unify s := by rw [unify]

theorem unify_cons (h : p ≠ cr) (s : List Point) : unify (p :: s) = p :: unify s := by
  rw [unify.eq_def]
  split
  · rename_i heq
    exact absurd (List.cons.inj heq).1 h
  · rename_i heq
    obtain ⟨rfl, rfl⟩ := List.cons.inj heq
    rw [if_neg h]
  · rename_i heq
    cases heq

/-- A carriage return without a line feed after it becomes a line feed. -/
theorem unify_return (h : s.head? ≠ some lf) : unify (cr :: s) = lf :: unify s := by
  rw [unify.eq_def]
  split
  · rename_i heq
    rw [(List.cons.inj heq).2] at h
    exact absurd rfl h
  · rename_i heq
    obtain ⟨rfl, rfl⟩ := List.cons.inj heq
    rw [if_pos rfl]
  · rename_i heq
    cases heq

theorem joinPairs_cons (h : ∀ rest, p = cr → s = lf :: rest → False) :
    joinPairs (p :: s) = p :: joinPairs s := by
  rw [joinPairs.eq_def]
  split
  · rename_i heq
    obtain ⟨rfl, rfl⟩ := List.cons.inj heq
    exact absurd rfl (h _ rfl)
  · rename_i heq
    obtain ⟨rfl, rfl⟩ := List.cons.inj heq
    rfl
  · rename_i heq
    cases heq

/-- Making line ends uniform is joining pairs and replacing the carriage returns that are left. -/
theorem unify_eq (s : List Point) : unify s = replaceReturns (joinPairs s) := by
  fun_induction unify s with
  | case1 rest ih =>
    rw [joinPairs, ih]
    rfl
  | case2 p rest hpair ih =>
    rw [joinPairs_cons hpair, ih]
    rfl
  | case3 => rfl

/-- Uniform line ends leave no carriage return. -/
theorem cr_not_mem_unify (s : List Point) : cr ∉ unify s := by
  rw [unify_eq, replaceReturns, List.mem_map]
  rintro ⟨p, -, hp⟩
  split at hp
  · cases hp
  · rename_i hne
    exact hne hp

theorem unify_eq_self (h : cr ∉ s) : unify s = s := by
  induction s with
  | nil => exact unify_nil
  | cons p s ih =>
    rw [List.mem_cons, not_or] at h
    rw [unify_cons (Ne.symm h.1), ih h.2]

/-- Line ends are uniform already exactly where there is no carriage return. -/
theorem unify_eq_self_iff : unify s = s ↔ cr ∉ s := by
  constructor
  · intro h
    rw [← h]
    exact cr_not_mem_unify s
  · exact unify_eq_self

theorem unify_unify (s : List Point) : unify (unify s) = unify s :=
  unify_eq_self (cr_not_mem_unify s)

theorem length_unify_le (s : List Point) : (unify s).length ≤ s.length := by
  fun_induction unify s with
  | case1 rest ih =>
    simp only [List.length_cons]
    omega
  | case2 p rest _ ih =>
    simp only [List.length_cons]
    omega
  | case3 => exact Nat.le_refl _

/-- A text with uniform line ends holds line feeds and code points of the text only. -/
theorem mem_of_mem_unify (h : p ∈ unify s) : p ∈ s ∨ p = lf := by
  rw [unify_eq, replaceReturns, List.mem_map] at h
  obtain ⟨q, hq, rfl⟩ := h
  have hin : q ∈ s ∨ q = lf := by
    fun_induction joinPairs s with
    | case1 rest ih =>
      rcases List.mem_cons.mp hq with rfl | hq
      · exact .inr rfl
      · exact (ih hq).imp_left fun h => List.mem_cons_of_mem _ (List.mem_cons_of_mem _ h)
    | case2 p rest _ ih =>
      rcases List.mem_cons.mp hq with rfl | hq
      · exact .inl (List.mem_cons_self ..)
      · exact (ih hq).imp_left (List.mem_cons_of_mem _)
    | case3 => cases hq
  split
  · exact .inr rfl
  · exact hin

/-! ## A text in pieces -/

/-- A text may be cut anywhere but inside a pair. -/
theorem unify_append (h : s.getLast? = some cr → t.head? ≠ some lf) :
    unify (s ++ t) = unify s ++ unify t := by
  fun_induction unify s with
  | case1 rest ih =>
    have hrest : rest.getLast? = some cr → t.head? ≠ some lf := by
      intro hlast
      obtain ⟨q, more, rfl⟩ := List.exists_cons_of_ne_nil (l := rest) (by rintro rfl; cases hlast)
      exact h (by rw [List.getLast?_cons_cons, List.getLast?_cons_cons, hlast])
    rw [List.cons_append, List.cons_append, unify_pair, ih hrest, List.cons_append]
  | case2 p rest hpair ih =>
    have hrest : rest.getLast? = some cr → t.head? ≠ some lf := by
      intro hlast
      obtain ⟨q, more, rfl⟩ := List.exists_cons_of_ne_nil (l := rest) (by rintro rfl; cases hlast)
      exact h (by rw [List.getLast?_cons_cons, hlast])
    rw [List.cons_append, List.cons_append, ← ih hrest]
    by_cases hp : p = cr
    · subst hp
      rw [if_pos rfl, unify_return]
      intro hhead
      cases rest with
      | nil => exact h rfl hhead
      | cons q more => exact hpair more rfl (by rw [Option.some.inj hhead])
    · rw [if_neg hp, unify_cons hp]
  | case3 => simp

/-- The carriage return that waits for the next piece, if one does. -/
def waitingText (waiting : Bool) : List Point := if waiting then [cr] else []

theorem length_waitingText_le (waiting : Bool) : (waitingText waiting).length ≤ 1 := by
  cases waiting <;> simp [waitingText]

/-- **More.** A piece gives the line ends of the text so far, but for a carriage return that waits. -/
theorem feed_more (waiting : Bool) (piece rest : List Point) :
    unify (waitingText waiting ++ (piece ++ rest)) = (feed waiting piece false).1 ++
      unify (waitingText (feed waiting piece false).2 ++ rest) := by
  by_cases hnil : piece = []
  · subst hnil
    cases waiting <;> simp [feed, waitingText]
  · have hempty : piece.isEmpty = false := by simpa using hnil
    have htext : (if waiting && (false || !piece.isEmpty) then cr :: piece else piece) =
        waitingText waiting ++ piece := by
      cases waiting <;> simp [waitingText, hempty]
    have hfeed : feed waiting piece false =
        if (waitingText waiting ++ piece).getLast? = some cr
        then (unify (waitingText waiting ++ piece).dropLast, true)
        else (unify (waitingText waiting ++ piece), false) := by
      rw [feed, htext]
      simp [hempty]
    rw [← List.append_assoc, hfeed]
    split
    · rename_i hlast
      -- the last carriage return waits; before it there may be more of them
      have hne : waitingText waiting ++ piece ≠ [] := by simp [hnil]
      have hsplit : waitingText waiting ++ piece = (waitingText waiting ++ piece).dropLast ++ [cr] := by
        have hcat := List.dropLast_append_getLast hne
        rw [List.getLast?_eq_some_getLast hne, Option.some.injEq] at hlast
        rw [hlast] at hcat
        exact hcat.symm
      generalize (waitingText waiting ++ piece).dropLast = front at hsplit
      rw [hsplit, List.append_assoc]
      exact unify_append fun _ => by simp
    · rename_i hlast
      rw [unify_append fun h => absurd h hlast]
      rfl

/-- **Last.** The last piece gives all line ends that are left. -/
theorem feed_last (waiting : Bool) (piece : List Point) :
    feed waiting piece true = (unify (waitingText waiting ++ piece), false) := by
  cases waiting <;> simp [feed, waitingText]

end FileDepot.Encoding.Newline
