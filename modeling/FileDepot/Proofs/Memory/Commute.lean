import FileDepot.Proofs.Memory.Outcomes
import FileDepot.Proofs.Memory.Resolve

/-!
# Independent edits

A write and a removal are edits of a store at one path. What an edit comes to is told by the file at its path
and by which paths above and below are stored (`AgreeAround`), and it changes nothing but the file at its path.
Hence two edits commute when neither path lies above the other (`Independent`): each answers the same in
either order, and the stores differ in nothing but the moments at which the clock was read
(`edits_commute`).
-/

namespace FileDepot.Memory

open FileDepot.Path

/-- An edit of a store in memory. -/
inductive Edit where
  /-- store contents at a path -/
  | write (path : String) (content : ByteReader)
  /-- remove the file at a path -/
  | remove (path : String)

namespace Edit

/-- The path of an edit. -/
def path : Edit → String
  | .write path _ | .remove path => path

/-- Carry out an edit: the answer, which for a removal tells whether there was a file, and the store after
it. -/
def apply (m : Memory) : Edit → Except Fault (Option Bool) × Memory
  | .write path content => ((m.write path content).1.map fun _ => none, (m.write path content).2)
  | .remove path => ((m.remove path).1.map fun found => some found.isSome, (m.remove path).2)

/-- How often an edit reads the clock. -/
def readings : Edit → Nat
  | .write _ content =>
    match content.drain with
    | .ok _ => 1
    | .error _ => 0
  | .remove _ => 0

/-- What an edit leaves at its path, told by its answer, by what the clock shows and by what was there. -/
def leaves (answer : Except Fault (Option Bool)) (now : Moment) (old : Option MemoryFile) :
    Edit → Option MemoryFile
  | .write _ content =>
    match answer, content.drain with
    | .ok _, .ok data => some (replacing old data now)
    | _, _ => old
  | .remove _ => none

theorem leaves_write_error (path : String) (content : ByteReader) (fault : Fault) (now : Moment)
    (old : Option MemoryFile) : (write path content).leaves (.error fault) now old = old := by
  simp only [leaves]

end Edit

variable {m n : Memory} {e f : Edit} {p q k : String}

/-! ## What an edit looks at -/

/-- Two stores agree around a path: on the file at it, and on which paths above and below are stored. -/
structure AgreeAround (m n : Memory) (p : String) : Prop where
  /-- the file at the path -/
  here : n.files.get? p = m.files.get? p
  /-- the stored paths above and below -/
  around : ∀ k, IsAncestor p k ∨ IsAncestor k p → n.files.contains k = m.files.contains k

namespace AgreeAround

theorem isBranch_iff (h : AgreeAround m n p) : n.IsBranch p ↔ m.IsBranch p := by
  refine or_congr_right (exists_congr fun k => and_congr_left fun hk => ?_)
  rw [h.around k (.inl hk)]

theorem isBlocked_iff (h : AgreeAround m n p) : n.IsBlocked p ↔ m.IsBlocked p := by
  refine exists_congr fun k => and_congr_right fun _ => and_congr_left fun hk => ?_
  rw [h.around k (.inr hk)]

theorem contains_eq (h : AgreeAround m n p) : n.files.contains p = m.files.contains p := by
  rw [Catalog.contains, Catalog.contains, h.here]

/-- **Answer.** An edit answers the same on stores that agree around its path. -/
theorem answer_eq (h : AgreeAround m n p) (hp : normalize e.path = .ok p) :
    (e.apply n).1 = (e.apply m).1 := by
  cases e with
  | write path content =>
    have hp : normalize path = .ok p := hp
    cases hdata : content.drain with
    | error f => simp only [Edit.apply, write_unread hp hdata]
    | ok data =>
      simp only [Edit.apply, write_eq hp hdata, h.isBranch_iff, h.isBlocked_iff]
      split
      · rfl
      · split <;> rfl
  | remove path =>
    have hp : normalize path = .ok p := hp
    simp only [Edit.apply, remove_eq hp, h.isBranch_iff, h.contains_eq]
    split
    · rfl
    · split <;> rfl

end AgreeAround

/-! ## What an edit changes -/

/-- What an edit at a normal path leaves of a store. -/
structure Edited (m : Memory) (e : Edit) (p : String) (after : Memory) : Prop where
  /-- the clock goes on -/
  clock : after.clock = m.clock
  /-- it was read as often as the edit reads it -/
  ticks : after.ticks = m.ticks + e.readings
  /-- the file at the path is told by the answer and one reading of the clock, and every other is as it
  was -/
  files : ∀ k, after.files.get? k =
    if k = p then e.leaves (e.apply m).1 (m.clock m.ticks) (m.files.get? p) else m.files.get? k

theorem edited_of_same {after : Memory} (hclock : after.clock = m.clock)
    (hticks : after.ticks = m.ticks + e.readings) (hfiles : after.files = m.files)
    (hleaves : e.leaves (e.apply m).1 (m.clock m.ticks) (m.files.get? p) = m.files.get? p) :
    Edited m e p after := by
  refine ⟨hclock, hticks, fun k => ?_⟩
  rw [hfiles, hleaves]
  split
  · rename_i hk
    rw [hk]
  · rfl

/-- **Change.** An edit changes nothing but the file at its path. -/
theorem edited_apply (hp : normalize e.path = .ok p) (m : Memory) : Edited m e p (e.apply m).2 := by
  cases e with
  | write path content =>
    have hp : normalize path = .ok p := hp
    cases hdata : content.drain with
    | error f =>
      have happly : (Edit.write path content).apply m = (.error f, m) := by
        simp only [Edit.apply, write_unread hp hdata, Except.map]
      rw [happly]
      refine edited_of_same rfl ?_ rfl ?_
      · simp only [Edit.readings, hdata, Nat.add_zero]
      · rw [happly, Edit.leaves_write_error]
    | ok data =>
      have hreadings : (Edit.write path content).readings = 1 := by simp only [Edit.readings, hdata]
      have hrefused {f : Fault} (hw : m.write path content = (.error f, m.tick)) :
          Edited m (.write path content) p ((Edit.write path content).apply m).2 := by
        have happly : (Edit.write path content).apply m = (.error f, m.tick) := by
          simp only [Edit.apply, hw, Except.map]
        rw [happly]
        refine edited_of_same rfl (by rw [hreadings]; rfl) rfl ?_
        rw [happly, Edit.leaves_write_error]
      have hwrite := write_eq (m := m) hp hdata
      split at hwrite
      · exact hrefused hwrite
      · split at hwrite
        · exact hrefused hwrite
        · have happly : (Edit.write path content).apply m =
              (.ok none, (m.put p data (m.clock m.ticks)).tick) := by
            simp only [Edit.apply, hwrite, Except.map]
          rw [happly]
          refine ⟨rfl, by rw [hreadings]; rfl, fun k => ?_⟩
          rw [happly, tick, put_eq, Catalog.get?_insert]
          simp only [Edit.leaves, hdata]
  | remove path =>
    have hp : normalize path = .ok p := hp
    have hremove := remove_eq (m := m) hp
    split at hremove
    · have happly : (Edit.remove path).apply m =
          (.ok (some true), { m with files := m.files.erase p }) := by
        simp only [Edit.apply, hremove, Except.map, Option.isSome]
      rw [happly]
      exact ⟨rfl, rfl, fun k => Catalog.get?_erase m.files p k⟩
    · rename_i hfree
      -- nothing is at the path, and that is what the removal leaves
      have hnone : m.files.get? p = none := by simpa [Catalog.contains] using hfree
      have hstore : ((Edit.remove path).apply m).2 = m := by
        rw [Edit.apply, hremove]
        split <;> rfl
      rw [hstore]
      exact edited_of_same rfl rfl rfl hnone.symm

/-! ## In either order -/

/-- Two files are alike but for one reading of the clock, which shows one moment in the first and another
one in the second. -/
structure Alike (now later : Moment) (f g : MemoryFile) : Prop where
  /-- the contents are the same -/
  data : f.data = g.data
  /-- so is the time of the last change, or it was read -/
  modified : f.modified = g.modified ∨ (f.modified = now ∧ g.modified = later)
  /-- so is the time the file was made, or it was read -/
  created : f.created = g.created ∨ (f.created = some now ∧ g.created = some later)

namespace Alike

theorem refl (now later : Moment) (f : MemoryFile) : Alike now later f f := ⟨rfl, .inl rfl, .inl rfl⟩

/-- Where both readings show the same, the files are the same. -/
theorem eq {now : Moment} {f g : MemoryFile} (h : Alike now now f g) : f = g := by
  obtain ⟨data, modified, created⟩ := f
  obtain ⟨hdata, hmodified, hcreated⟩ := h
  have hmodified : modified = g.modified := by
    rcases hmodified with h | ⟨h, h'⟩
    · exact h
    · exact h.trans h'.symm
  have hcreated : created = g.created := by
    rcases hcreated with h | ⟨h, h'⟩
    · exact h
    · exact h.trans h'.symm
  rw [show data = g.data from hdata, hmodified, hcreated]

theorem replacing (old : Option MemoryFile) (data : Bytes) (now later : Moment) :
    Alike now later (replacing old data now) (replacing old data later) := by
  refine ⟨rfl, .inr ⟨rfl, rfl⟩, ?_⟩
  cases old with
  | none => exact .inr ⟨rfl, rfl⟩
  | some old => exact .inl rfl

end Alike

/-- What an edit leaves is alike whenever it is carried out. -/
theorem alike_leaves (e : Edit) (answer : Except Fault (Option Bool)) (now later : Moment)
    (old : Option MemoryFile) :
    Option.Rel (Alike now later) (e.leaves answer now old) (e.leaves answer later old) := by
  have hold : Option.Rel (Alike now later) old old := by
    cases old with
    | none => exact .none
    | some f => exact .some (.refl now later f)
  cases e with
  | write path content =>
    simp only [Edit.leaves]
    split
    · exact .some (.replacing old _ now later)
    · exact hold
  | remove path => exact .none

theorem eq_of_alike {now : Moment} {f g : Option MemoryFile} (h : Option.Rel (Alike now now) f g) :
    f = g := by
  cases h with
  | none => rfl
  | some h => rw [h.eq]

/-- Two paths are independent when they differ and neither lies above the other. -/
structure Independent (p q : String) : Prop where
  /-- they differ -/
  ne : p ≠ q
  /-- the first does not lie above the second -/
  above : ¬ IsAncestor p q
  /-- the second does not lie above the first -/
  below : ¬ IsAncestor q p

theorem Independent.symm (h : Independent p q) : Independent q p := ⟨h.ne.symm, h.below, h.above⟩

instance (p q : String) : Decidable (Independent p q) :=
  decidable_of_iff (p ≠ q ∧ ¬ IsAncestor p q ∧ ¬ IsAncestor q p)
    ⟨fun ⟨hne, habove, hbelow⟩ => ⟨hne, habove, hbelow⟩, fun h => ⟨h.ne, h.above, h.below⟩⟩

/-- An edit leaves what is around an independent path. -/
theorem Edited.agreeAround {after : Memory} (h : Edited m f q after) (hpq : Independent p q) :
    AgreeAround m after p := by
  refine ⟨by rw [h.files, if_neg hpq.ne], fun k hk => ?_⟩
  have hne : k ≠ q := by
    rintro rfl
    exact hk.elim hpq.above hpq.below
  rw [Catalog.contains, Catalog.contains, h.files, if_neg hne]

/-- An edit behind an independent one leaves at its path what it would leave without, but for the moment at
which it reads the clock. -/
theorem alike_behind (hp : normalize e.path = .ok p) (hq : normalize f.path = .ok q)
    (hpq : Independent p q) (m : Memory) :
    Option.Rel (Alike (m.clock m.ticks) (m.clock (f.apply m).2.ticks))
      ((e.apply m).2.files.get? p) ((e.apply (f.apply m).2).2.files.get? p) := by
  have hf := edited_apply hq m
  have hagree := hf.agreeAround hpq
  rw [(edited_apply hp m).files, (edited_apply hp (f.apply m).2).files, if_pos rfl, if_pos rfl,
    hagree.answer_eq hp, hagree.here, hf.clock]
  exact alike_leaves e _ _ _ _

/-- **Independent edits commute.** On any store, let two edits, each a write or a removal, be at paths whose
normal forms are independent. Each answers the same whether it is carried out first or second, with the
same fault if it fails. Both orders leave the same clock, read as often, and the same files at all other
paths. At the two paths they leave files that are alike but for what the clock showed at the reading of
that edit. Hence, if the clock always shows the same, both orders leave the same file at every path, and
every pattern then stands for the same files. -/
theorem edits_commute (m : Memory) (e f : Edit) (p q : String) (hp : normalize e.path = .ok p)
    (hq : normalize f.path = .ok q) (hpq : Independent p q) :
    let ef := (f.apply (e.apply m).2).2
    let fe := (e.apply (f.apply m).2).2
    (e.apply (f.apply m).2).1 = (e.apply m).1 ∧ (f.apply (e.apply m).2).1 = (f.apply m).1 ∧
    ef.clock = fe.clock ∧ ef.ticks = fe.ticks ∧
    (∀ k, k ≠ p → k ≠ q → ef.files.get? k = fe.files.get? k) ∧
    Option.Rel (Alike (m.clock m.ticks) (m.clock (f.apply m).2.ticks))
      (ef.files.get? p) (fe.files.get? p) ∧
    Option.Rel (Alike (m.clock m.ticks) (m.clock (e.apply m).2.ticks))
      (fe.files.get? q) (ef.files.get? q) ∧
    ((∀ i j, m.clock i = m.clock j) → (∀ k, ef.files.get? k = fe.files.get? k) ∧
      ∀ text, ef.resolve text = fe.resolve text) := by
  intro ef fe
  have he := edited_apply hp m
  have hf := edited_apply hq m
  have hef : Edited (e.apply m).2 f q ef := edited_apply hq _
  have hfe : Edited (f.apply m).2 e p fe := edited_apply hp _
  have hother (k : String) (hkp : k ≠ p) (hkq : k ≠ q) : ef.files.get? k = fe.files.get? k := by
    rw [hef.files, hfe.files, if_neg hkq, if_neg hkp, he.files, hf.files, if_neg hkp, if_neg hkq]
  -- the edit that comes last spares the path of the other one, which is as the first edit left it
  have hat_p := alike_behind hp hq hpq m
  have hat_q := alike_behind hq hp hpq.symm m
  have hef_p : ef.files.get? p = (e.apply m).2.files.get? p := by rw [hef.files, if_neg hpq.ne]
  have hfe_q : fe.files.get? q = (f.apply m).2.files.get? q := by rw [hfe.files, if_neg hpq.ne.symm]
  rw [← hef_p] at hat_p
  rw [← hfe_q] at hat_q
  refine ⟨(hf.agreeAround hpq).answer_eq hp, (he.agreeAround hpq.symm).answer_eq hq, ?_, ?_, hother,
    hat_p, hat_q, fun hconstant => ?_⟩
  · rw [hef.clock, hfe.clock, he.clock, hf.clock]
  · rw [hef.ticks, hfe.ticks, he.ticks, hf.ticks]
    omega
  · have hfiles (k : String) : ef.files.get? k = fe.files.get? k := by
      by_cases hkp : k = p
      · rw [hkp]
        rw [hconstant (f.apply m).2.ticks m.ticks] at hat_p
        exact eq_of_alike hat_p
      · by_cases hkq : k = q
        · rw [hkq]
          rw [hconstant (e.apply m).2.ticks m.ticks] at hat_q
          exact (eq_of_alike hat_q).symm
        · exact hother k hkp hkq
    exact ⟨hfiles, fun text => resolve_congr hfiles text⟩

/-- A file is written beside one that is removed, in either order. -/
theorem edits_commute_beside :
    let m := run (empty fun _ => ⟨0⟩) [.write "a/c" (.bytes [2])]
    let e := Edit.write "a/b" (.bytes [1])
    let f := Edit.remove "a/c"
    Independent "a/b" "a/c" ∧ (e.apply (f.apply m).2).1 = .ok none ∧
      (f.apply (e.apply m).2).1 = .ok (some true) ∧
      ∀ text, (f.apply (e.apply m).2).2.resolve text = (e.apply (f.apply m).2).2.resolve text := by
  intro m e f
  have hindependent : Independent "a/b" "a/c" := by decide +kernel
  obtain ⟨hwritten, hremoved, -, -, -, -, -, hconstant⟩ :=
    edits_commute m e f "a/b" "a/c" (by decide +kernel) (by decide +kernel) hindependent
  have hwrite : (e.apply m).1 = .ok none := by decide +kernel
  have hremove : (f.apply m).1 = .ok (some true) := by decide +kernel
  exact ⟨hindependent, hwritten.trans hwrite, hremoved.trans hremove, (hconstant fun _ _ => rfl).2⟩

/-- A path above the other one: whichever file is written first keeps the other from being written. -/
example :
    let m := empty fun _ => ⟨0⟩
    let e := Edit.write "a" (.bytes [1])
    let f := Edit.write "a/b" (.bytes [2])
    (e.apply m).1 = .ok none ∧
      (e.apply (f.apply m).2).1 = .error (.memory (.overDirectory "a")) := by
  decide +kernel

end FileDepot.Memory
