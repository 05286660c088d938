import FileDepot.Operation

/-!
# Carrying out operations

What carrying out an operation comes to, one lemma for each way to build one.
-/

namespace FileDepot

namespace Op

variable {σ α β : Type} (w : World σ)

@[simp] theorem pure_exec (a : α) : (pure a : Op σ α).exec w = (.ok a, w) := rfl

@[simp] theorem fail_exec (f : Fault) : (fail f : Op σ α).exec w = (.error f, w) := rfl

@[simp] theorem ofExcept_exec (e : Except Fault α) : (ofExcept e : Op σ α).exec w = (e, w) := by
  cases e <;> rfl

@[simp] theorem note_exec (level : Level) (topic : Topic) (text : String) :
    (note level topic text : Op σ Unit).exec w =
      (.ok (), { w with notes := ⟨level, topic, text⟩ :: w.notes }) := rfl

@[simp] theorem onStore_exec (step : σ → Except Fault α × σ) :
    (onStore step).exec w = ((step w.store).1, { w with store := (step w.store).2 }) := rfl

@[simp] theorem bind_exec (op : Op σ α) (f : α → Op σ β) :
    (op >>= f).exec w = match op.exec w with
      | (.ok a, w) => (f a).exec w
      | (.error e, w) => (.error e, w) := by
  unfold exec ExceptT.run
  simp only [bind, ExceptT.bind, ExceptT.mk, StateT.bind, ExceptT.bindCont]
  rcases op w with ⟨_ | a, w⟩ <;> rfl

/-- Making a value into another one leaves the same world. -/
theorem bind_pure_world (op : Op σ α) (f : α → β) :
    ((op >>= fun a => pure (f a)).exec w).2 = (op.exec w).2 := by
  rw [bind_exec]
  rcases op.exec w with ⟨e | a, w⟩ <;> rfl

variable {w} in
/-- Where a step of the store is followed by what does not fail, a fault is that of the step. -/
theorem onStore_error {step : σ → Except Fault α × σ} {rest : α → Op σ β} {e : Fault}
    (hrest : ∀ a w, ∃ b, ((rest a).exec w).1 = .ok b)
    (h : ((onStore step >>= rest).exec w).1 = .error e) : (step w.store).1 = .error e := by
  rw [bind_exec, onStore_exec] at h
  rcases hstep : step w.store with ⟨fault | a, after⟩
  · rw [hstep] at h
    exact congrArg Except.error (Except.error.inj h)
  · rw [hstep] at h
    obtain ⟨b, hb⟩ := hrest a { w with store := after }
    cases hb.symm.trans h

@[simp] theorem mapFault_exec (f : Fault → Fault) (op : Op σ α) :
    (mapFault f op).exec w = ((op.exec w).1.mapError f, (op.exec w).2) := by
  have hopened : (mapFault f op).exec w = match op.exec w with
      | (.ok a, w) => (Except.ok a, w)
      | (.error e, w) => (Except.error (f e), w) := rfl
  rw [hopened]
  rcases op.exec w with ⟨_ | a, w⟩ <;> rfl

@[simp] theorem map_exec (f : α → β) (op : Op σ α) :
    (f <$> op).exec w = ((op.exec w).1.map f, (op.exec w).2) := by
  unfold exec ExceptT.run
  simp only [Functor.map, ExceptT.map, ExceptT.mk, StateT.bind, bind]
  rcases op w with ⟨_ | a, w⟩ <;> rfl

@[simp] theorem discard_exec (op : Op σ α) :
    (discard op).exec w = ((op.exec w).1.map fun _ => PUnit.unit, (op.exec w).2) :=
  map_exec w (fun _ => PUnit.unit) op

@[simp] theorem attempt_exec (op : Op σ α) :
    (attempt op).exec w = (.ok (op.exec w).1, (op.exec w).2) := rfl

@[simp] theorem ask_exec (question : σ → Except Fault α) :
    (ask question).exec w = (question w.store, w) := rfl

@[simp] theorem issueTicket_exec :
    (issueTicket : Op σ Nat).exec w = (.ok w.issued, { w with issued := w.issued + 1 }) := rfl

@[simp] theorem redeem_exec (ticket : Nat) :
    (redeem ticket : Op σ Unit).exec w = (.ok (), { w with redeemed := ticket :: w.redeemed }) := rfl

@[simp] theorem isRedeemed_exec (ticket : Nat) :
    (isRedeemed ticket : Op σ Bool).exec w = (.ok (w.redeemed.contains ticket), w) := rfl

end Op

end FileDepot
