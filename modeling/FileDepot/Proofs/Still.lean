import FileDepot.Proofs.Records
import FileDepot.Proofs.Tickets
import FileDepot.Store.Local
import FileDepot.Store.Scripted

/-!
# Stores that stand still

A store stands still when nothing changes it in between. What it is asked is then answered alike whenever it
is asked: an operation is *still* when its outcome is told by how the store looks, and the store looks the same
after it (`Op.Still`). How a store looks is some view of its state. The stores in memory and on disk are looked
at as they are, and only their writes and removals are not still. A scripted store always looks the same,
though it keeps a list of the calls it got.

Wherever the store looks as it does in one world, a still operation comes to what it comes to there
(`Op.Still.exec`).
-/

namespace FileDepot

variable {σ η ν α β : Type}

/-! ## Operations -/

/-- A world in order, in which the store looks as it does in another one. -/
structure World.Looks (view : σ → ν) (w x : World σ) : Prop where
  /-- the store looks alike -/
  store : view w.store = view x.store
  /-- no ticket is redeemed before it is issued -/
  sound : w.Sound

namespace Op

/-- An operation only asks: how the store looks tells what it comes to, and is kept. -/
structure Still (view : σ → ν) (op : Op σ α) : Prop where
  /-- its outcome is told by how the store looks -/
  same : ∀ w v, view w.store = view v.store → (op.exec w).1 = (op.exec v).1
  /-- the store looks the same after it -/
  kept : ∀ w, view (op.exec w).2.store = view w.store
  /-- it redeems no ticket -/
  redeems : op.Redeems []

variable {view : σ → ν} {op : Op σ α} {x w : World σ}

/-- Where the store looks alike, a still operation comes to the same, and the store looks alike after it. -/
theorem Still.exec (h : Still view op) (hw : w.Looks view x) :
    ∃ w', op.exec w = ((op.exec x).1, w') ∧ w'.Looks view x ∧ w.issued ≤ w'.issued := by
  refine ⟨(op.exec w).2, Prod.ext (h.same w x hw.store) rfl, ⟨(h.kept w).trans hw.store, ?_⟩,
    (h.redeems w).issued⟩
  exact (h.redeems w).sound hw.sound fun k hk => absurd hk List.not_mem_nil

/-- An operation that always has the same outcome and leaves the store alone is still. -/
theorem still_of_outcome {outcome : Except Fault α} (hout : ∀ w, (op.exec w).1 = outcome)
    (hstore : ∀ w, (op.exec w).2.store = w.store) (hredeems : op.Redeems []) : Still view op :=
  ⟨fun w v _ => (hout w).trans (hout v).symm, fun w => congrArg view (hstore w), hredeems⟩

theorem Still.bind {f : α → Op σ β} (h : Still view op) (hf : ∀ a, Still view (f a)) :
    Still view (op >>= f) := by
  refine ⟨fun w v hview => ?_, fun w => ?_, h.redeems.bind fun a => (hf a).redeems⟩
  · have hsame := h.same w v hview
    have hkeptw := h.kept w
    have hkeptv := h.kept v
    rw [bind_exec, bind_exec]
    rcases hexecw : op.exec w with ⟨e | a, w'⟩ <;> rcases hexecv : op.exec v with ⟨e' | a', v'⟩ <;>
      rw [hexecw] at hsame hkeptw <;> rw [hexecv] at hsame hkeptv
    · exact congrArg Except.error (Except.error.inj hsame)
    · cases hsame
    · cases hsame
    · obtain rfl := Except.ok.inj hsame
      exact (hf a).same w' v' (hkeptw.trans (hview.trans hkeptv.symm))
  · have hkept := h.kept w
    rw [bind_exec]
    rcases hexec : op.exec w with ⟨e | a, w'⟩
    · rw [hexec] at hkept
      exact hkept
    · rw [hexec] at hkept
      exact ((hf a).kept w').trans hkept

theorem Still.mapFault (h : Still view op) (f : Fault → Fault) : Still view (mapFault f op) := by
  refine ⟨fun w v hview => ?_, fun w => ?_, h.redeems.mapFault f⟩
  · rw [mapFault_exec, mapFault_exec, h.same w v hview]
  · rw [mapFault_exec]
    exact h.kept w

theorem frame_still : Frame fun _ (op : Op σ _) => op.Still view where
  pure a := still_of_outcome (fun _ => rfl) (fun _ => rfl) (redeems_pure a)
  fail f := still_of_outcome (fun _ => rfl) (fun _ => rfl) (redeems_fail f)
  note level topic text :=
    still_of_outcome (fun _ => rfl) (fun _ => rfl) (redeems_note level topic text)
  bind := Still.bind
  mapFault f h := h.mapFault f

/-- Asking a store is still when it is looked at as it is. -/
theorem still_ask (question : σ → Except Fault α) : Still id (ask question) :=
  ⟨fun _ _ hview => congrArg question hview, fun _ => rfl, redeems_ask question⟩

end Op

/-! ## Stores -/

/-- What a store is asked for a listing is still. -/
structure Store.Still (view : σ → ν) (s : Store σ η) : Prop where
  /-- resolving a pattern is -/
  resolve : ∀ pattern, (s.resolve pattern).Still view
  /-- giving contents is -/
  contents : ∀ h, (s.contents h).Still view
  /-- telling the time of the last change is -/
  modified : ∀ h, (s.modified h).Still view
  /-- telling the time a file was made is -/
  created : ∀ h, (s.created h).Still view
  /-- telling a size is -/
  size : ∀ h, (s.size h).Still view

theorem Memory.store_still : store.Still id where
  resolve pattern := by
    simp only [store]
    exact Op.still_ask _
  contents h := by
    simp only [store]
    exact Op.still_ask _
  modified h := by
    simp only [store]
    exact Op.frame_still.pure _
  created h := by
    simp only [store]
    exact Op.frame_still.pure _
  size h := by
    simp only [store]
    exact Op.frame_still.pure _

theorem Local.store_still (s : Local) : s.store.Still id where
  resolve pattern := by
    simp only [store]
    exact Op.still_ask _
  contents h := by
    simp only [store]
    exact Op.still_ask _
  modified h := by
    simp only [store]
    exact Op.still_ask _
  created h := by
    simp only [store]
    exact Op.frame_still.pure _
  size h := by
    simp only [store]
    exact Op.still_ask _

namespace Script

/-- Calls do not count for how a scripted store looks. -/
def view (_ : List Call) : Unit := ()

theorem still_keep (c : Call) : (keep c).Still view :=
  ⟨fun _ _ _ => rfl, fun _ => rfl, Op.redeems_onStore _⟩

theorem still_failIf (f : Option Fault) : (failIf f).Still view := by
  cases f with
  | some f => exact Op.frame_still.fail f
  | none => exact Op.frame_still.pure ()

theorem still_askField (field : Field) (h : ScriptedFile) : (askField field h).Still view := by
  refine (still_keep _).bind fun _ => ?_
  cases h.broken with
  | none => exact Op.frame_still.pure ()
  | some broken =>
    simp only
    split
    · exact Op.frame_still.fail _
    · exact Op.frame_still.pure ()

theorem store_still (s : Script) : s.store.Still view where
  resolve _ := (still_keep _).bind fun _ => (still_failIf _).bind fun _ => Op.frame_still.pure _
  contents _ := (still_keep _).bind fun _ => (still_failIf _).bind fun _ => Op.frame_still.pure _
  modified _ := (still_askField _ _).bind fun _ => Op.frame_still.pure _
  created _ := (still_askField _ _).bind fun _ => Op.frame_still.pure _
  size _ := (still_askField _ _).bind fun _ => Op.frame_still.pure _

end Script

/-- Telling the metadata of a file is still when the store is. -/
theorem Adapter.still_metadata {view : σ → ν} {a : Adapter σ η} (ha : a.store.Still view) (h : η) :
    (a.metadata h).Still view := by
  refine Op.Still.mapFault ?_ _
  refine (ha.modified h).bind fun modified => (ha.created h).bind fun created => ?_
  exact (ha.size h).bind fun size => Op.frame_still.pure _

end FileDepot
