import FileDepot.Proofs.Records

/-!
# Cursors over files

A cursor passes the files that are left, one after the other (`Cursor.advance_eq`), until none is left or
it is closed; what is exhausted stays so. Passing all files that are left is passing one after the other, up
to the first that has no record (`Adapter.drain_eq`, `Adapter.remaining_drain`).
-/

namespace FileDepot

variable {σ η : Type}

namespace Cursor

variable {c : Cursor η}

/-- Passing a file takes the first of those that are left. -/
theorem advance_eq (c : Cursor η) :
    c.advance.1 = c.remaining.head? ∧ c.advance.2.remaining = c.remaining.tail := by
  rcases hstep : c.advance with ⟨_ | h, after⟩
  · obtain ⟨hnone, rfl⟩ := remaining_of_advance_none hstep
    rw [hnone]
    exact ⟨rfl, rfl⟩
  · rw [remaining_of_advance hstep]
    exact ⟨rfl, rfl⟩

/-- Where no file is left, a cursor stays as it is. -/
theorem advance_of_remaining_nil (hnone : c.remaining = []) : c.advance = (none, c) := by
  rcases hstep : c.advance with ⟨_ | h, after⟩
  · rw [(remaining_of_advance_none hstep).2]
  · rw [remaining_of_advance hstep] at hnone
    cases hnone

theorem advance_of_remaining_cons {h : η} {rest : List η} (hleft : c.remaining = h :: rest) :
    c.advance = (some h, c.advance.2) ∧ c.advance.2.remaining = rest := by
  obtain ⟨hfirst, hrest⟩ := advance_eq c
  rw [hleft] at hfirst hrest
  exact ⟨Prod.ext hfirst rfl, hrest⟩

@[simp] theorem kind_advance (c : Cursor η) : c.advance.2.kind = c.kind := by
  unfold advance
  split <;> rfl

@[simp] theorem metadata_advance (c : Cursor η) : c.advance.2.metadata = c.metadata := by
  unfold advance
  split <;> rfl

@[simp] theorem remaining_close (c : Cursor η) : c.close.remaining = [] := by
  simp [close, remaining]

/-- What is exhausted stays so. -/
theorem exhausted_advance (h : c.exhausted = true) : c.advance.2.exhausted = true := by
  have hstays : c.advance = (none, c) := by
    rw [advance, h, Bool.or_true, if_pos rfl]
  rw [hstays, h]

/-- A cursor over files is exhausted exactly when none is left. -/
theorem exhausted_iff (hkind : c.kind.isListing = true) : c.exhausted = true ↔ c.remaining = [] := by
  rw [exhausted, remaining, hkind, Bool.true_and]
  cases c.closed with
  | true => simp
  | false => simp

end Cursor

namespace Adapter

variable {a : Adapter σ η} {c : Cursor η} {h : η} {rest : List η} {w : World σ}

/-- Passing all files that are left passes the first one, and then the others if it has a record. -/
theorem drain_eq (a : Adapter σ η) (c : Cursor η) (w : World σ) : a.drain c w =
    match c.remaining with
    | [] => (.ok [], c, w)
    | h :: _ =>
      match (a.record c h).exec w with
      | (.error f, w) => (if f.endsListing then .ok [] else .error f, c.advance.2, w)
      | (.ok r, w) => ((a.drain c.advance.2 w).1.map (r :: ·), (a.drain c.advance.2 w).2) := by
  rw [drain]
  split
  · rename_i after hstep
    obtain ⟨hnone, rfl⟩ := Cursor.remaining_of_advance_none hstep
    rw [hnone]
  · rename_i h after hstep
    have hleft := Cursor.remaining_of_advance hstep
    rcases hrecord : (a.record c h).exec w with ⟨f | r, w'⟩
    · simp only [hleft, hstep, hrecord]
    · simp only [hleft, hstep, hrecord]

theorem drain_nil (hnone : c.remaining = []) (w : World σ) : a.drain c w = (.ok [], c, w) := by
  rw [drain_eq, hnone]

theorem drain_error (hleft : c.remaining = h :: rest) {f : Fault} {w' : World σ}
    (hrecord : (a.record c h).exec w = (.error f, w')) :
    a.drain c w = (if f.endsListing then .ok [] else .error f, c.advance.2, w') := by
  rw [drain_eq, hleft]
  simp only [hrecord]

theorem drain_ok (hleft : c.remaining = h :: rest) {r : Record σ} {w' : World σ}
    (hrecord : (a.record c h).exec w = (.ok r, w')) :
    a.drain c w = ((a.drain c.advance.2 w').1.map (r :: ·), (a.drain c.advance.2 w').2) := by
  rw [drain_eq, hleft]
  simp only [hrecord]

/-- What holds when no file is left, what a file without a record leads to, and what a file with a record
makes of the files after it: together they hold of passing all files that are left. -/
theorem drain_induction {P : Cursor η → World σ → Prop}
    (nil : ∀ c w, c.remaining = [] → P c w)
    (error : ∀ c w h rest f w', c.remaining = h :: rest →
      (a.record c h).exec w = (.error f, w') → P c w)
    (ok : ∀ c w h rest r w', c.remaining = h :: rest →
      (a.record c h).exec w = (.ok r, w') → P c.advance.2 w' → P c w)
    (c : Cursor η) (w : World σ) : P c w := by
  induction hleft : c.remaining generalizing c w with
  | nil => exact nil c w hleft
  | cons h rest ih =>
    rcases hrecord : (a.record c h).exec w with ⟨f | r, w'⟩
    · exact error c w h rest f w' hleft hrecord
    · exact ok c w h rest r w' hleft hrecord
        (ih c.advance.2 w' (Cursor.advance_of_remaining_cons hleft).2)

/-- Passing files leaves the last of them, and changes nothing else of what a cursor asks for. -/
theorem drain_cursor (a : Adapter σ η) (c : Cursor η) (w : World σ) :
    let after := (a.drain c w).2.1
    after.kind = c.kind ∧ after.metadata = c.metadata ∧ after.remaining <:+ c.remaining ∧
      (c.exhausted = true → after.exhausted = true) := by
  induction c, w using drain_induction (a := a) with
  | nil c w hnone =>
    rw [drain_nil hnone]
    exact ⟨rfl, rfl, List.suffix_rfl, fun h => h⟩
  | error c w h rest f w' hleft hrecord =>
    rw [drain_error hleft hrecord, hleft]
    refine ⟨c.kind_advance, c.metadata_advance, ?_, Cursor.exhausted_advance⟩
    rw [(Cursor.advance_of_remaining_cons hleft).2]
    exact List.suffix_cons h rest
  | ok c w h rest r w' hleft hrecord ih =>
    obtain ⟨hkind, hmeta, hsuffix, hexhausted⟩ := ih
    rw [drain_ok hleft hrecord, hleft]
    refine ⟨hkind.trans c.kind_advance, hmeta.trans c.metadata_advance, ?_,
      fun h => hexhausted (Cursor.exhausted_advance h)⟩
    rw [(Cursor.advance_of_remaining_cons hleft).2] at hsuffix
    exact hsuffix.trans (List.suffix_cons h rest)

/-- How many files are passed when all that are left are to be passed. -/
def laps (a : Adapter σ η) (c : Cursor η) (w : World σ) : Nat :=
  c.remaining.length - (a.drain c w).2.1.remaining.length

theorem remaining_drain (a : Adapter σ η) (c : Cursor η) (w : World σ) :
    (a.drain c w).2.1.remaining = c.remaining.drop (a.laps c w) := by
  obtain ⟨passed, hpassed⟩ := (a.drain_cursor c w).2.2.1
  have hlaps : a.laps c w = passed.length := by
    rw [laps, ← hpassed, List.length_append, Nat.add_sub_cancel]
  rw [hlaps, ← hpassed, List.drop_left]

theorem laps_nil (hnone : c.remaining = []) (w : World σ) : a.laps c w = 0 := by
  rw [laps, hnone, List.length_nil, Nat.zero_sub]

theorem laps_error (hleft : c.remaining = h :: rest) {f : Fault} {w' : World σ}
    (hrecord : (a.record c h).exec w = (.error f, w')) : a.laps c w = 1 := by
  rw [laps, drain_error hleft hrecord, hleft, (Cursor.advance_of_remaining_cons hleft).2,
    List.length_cons, Nat.add_sub_cancel_left]

theorem laps_ok (hleft : c.remaining = h :: rest) {r : Record σ} {w' : World σ}
    (hrecord : (a.record c h).exec w = (.ok r, w')) :
    a.laps c w = a.laps c.advance.2 w' + 1 := by
  have hrest := (Cursor.advance_of_remaining_cons hleft).2
  have hle := ((a.drain_cursor c.advance.2 w').2.2.1).length_le
  have hafter : (a.drain c w).2 = (a.drain c.advance.2 w').2 := by rw [drain_ok hleft hrecord]
  rw [hrest] at hle
  rw [laps, laps, hafter, hleft, hrest, List.length_cons]
  omega

end Adapter

end FileDepot
