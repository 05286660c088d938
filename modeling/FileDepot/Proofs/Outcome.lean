/-!
# Outcomes

A computation that may fail has an outcome: a value, or why there is none. The lemmas here open the
outcome of a computation that is made of several steps, and say what it fails with if that is known of the
steps (`FailsOnly`).
-/

namespace FileDepot.Outcome

variable {ε ε' α β : Type}

/-- Inversion for a sequence of two steps that has a value. -/
theorem bind_eq_ok {x : Except ε α} {f : α → Except ε β} {b : β} (h : x >>= f = .ok b) :
    ∃ a, x = .ok a ∧ f a = .ok b := by
  cases x with
  | error e => cases h
  | ok a => exact ⟨a, rfl, h⟩

/-- Inversion for a value that is made of another one. -/
theorem map_eq_ok {x : Except ε α} {f : α → β} {b : β} (h : x.map f = .ok b) :
    ∃ a, x = .ok a ∧ f a = b := by
  cases x with
  | error e => cases h
  | ok a => exact ⟨a, rfl, Except.ok.inj h⟩

/-- Inversion for a value in spite of a check. -/
theorem check_eq_ok {c : Prop} [Decidable c] {e : ε} {x : Except ε α} {a : α}
    (h : (if c then .error e else x) = .ok a) : ¬ c ∧ x = .ok a := by
  split at h
  · cases h
  · rename_i hc
    exact ⟨hc, h⟩

@[simp] theorem ok_bind (a : α) (f : α → Except ε β) : (Except.ok a >>= f) = f a := rfl

@[simp] theorem error_bind (e : ε) (f : α → Except ε β) :
    (Except.error e >>= f) = .error e := rfl

@[simp] theorem pure_eq_ok (a : α) : (pure a : Except ε α) = .ok a := rfl

@[simp] theorem mapError_ok (a : α) (f : ε → ε') : (Except.ok a).mapError f = .ok a := rfl

@[simp] theorem mapError_error (e : ε) (f : ε → ε') :
    (Except.error e : Except ε α).mapError f = .error (f e) := rfl

/-- Rewording the trouble leaves a value alone. -/
theorem mapError_eq_ok {x : Except ε α} {f : ε → ε'} {a : α} :
    x.mapError f = .ok a ↔ x = .ok a := by
  cases x <;> simp

/-! ## What a computation fails with -/

/-- A computation fails with nothing but what has a property. -/
def FailsOnly (P : ε → Prop) (x : Except ε α) : Prop := ∀ e, x = .error e → P e

section FailsOnly

variable {P : ε → Prop} {Q : ε' → Prop} {x : Except ε α}

theorem failsOnly_ok (a : α) : FailsOnly P (.ok a : Except ε α) := nofun

theorem failsOnly_error {e : ε} (h : P e) : FailsOnly P (.error e : Except ε α) := fun _ he =>
  Except.error.inj he ▸ h

theorem FailsOnly.mono {P' : ε → Prop} (h : FailsOnly P x) (hP : ∀ e, P e → P' e) : FailsOnly P' x :=
  fun e he => hP e (h e he)

theorem FailsOnly.bind {f : α → Except ε β} (h : FailsOnly P x) (hf : ∀ a, FailsOnly P (f a)) :
    FailsOnly P (x >>= f) := by
  cases x with
  | error e => exact failsOnly_error (h e rfl)
  | ok a => exact hf a

theorem failsOnly_ite {c : Prop} [Decidable c] {y : Except ε α} (hx : FailsOnly P x)
    (hy : FailsOnly P y) : FailsOnly P (if c then x else y) := by
  split
  · exact hx
  · exact hy

/-- A step that is made only where it is called for, and what comes after it. -/
theorem failsOnly_ite_bind {c : Prop} [Decidable c] {a : α} {f : α → Except ε β}
    (hx : FailsOnly P x) (hf : ∀ a, FailsOnly P (f a)) :
    FailsOnly P (if c then x >>= f else pure a >>= f) :=
  failsOnly_ite (hx.bind hf) (hf a)

theorem FailsOnly.map (h : FailsOnly P x) (f : α → β) : FailsOnly P (x.map f) := by
  cases x with
  | error e => exact failsOnly_error (h e rfl)
  | ok a => exact failsOnly_ok _

theorem FailsOnly.mapError {f : ε → ε'} (h : FailsOnly P x) (hf : ∀ e, P e → Q (f e)) :
    FailsOnly Q (x.mapError f) := by
  cases x with
  | error e => exact failsOnly_error (hf e (h e rfl))
  | ok a => exact failsOnly_ok a

theorem failsOnly_mapM {f : α → Except ε β} (hf : ∀ a, FailsOnly P (f a)) :
    ∀ l : List α, FailsOnly P (l.mapM f) := by
  intro l
  induction l with
  | nil => exact failsOnly_ok _
  | cons a l ih =>
    rw [List.mapM_cons]
    exact (hf a).bind fun b => ih.bind fun bs => failsOnly_ok _

theorem failsOnly_filterMapM {f : α → Except ε (Option β)} (hf : ∀ a, FailsOnly P (f a)) :
    ∀ l : List α, FailsOnly P (l.filterMapM f) := by
  intro l
  induction l with
  | nil => exact failsOnly_ok _
  | cons a l ih =>
    rw [List.filterMapM_cons]
    refine (hf a).bind fun b => ?_
    cases b with
    | none => exact ih
    | some b => exact ih.bind fun bs => failsOnly_ok _

end FailsOnly

/-- What a step of something with a state comes to: it fails with nothing but what has a property, and what
holds of the state is kept. -/
structure Steady {σ : Type} (P : ε → Prop) (I : σ → Prop) (x : Except ε α × σ) : Prop where
  /-- it fails with nothing else -/
  fails : FailsOnly P x.1
  /-- the state is kept -/
  keeps : I x.2

section Steady

variable {σ : Type} {P : ε → Prop} {I : σ → Prop} {s : σ}

theorem steady_ok (a : α) (h : I s) : Steady P I (Except.ok a, s) := ⟨failsOnly_ok a, h⟩

theorem steady_error {e : ε} (he : P e) (h : I s) :
    Steady P I ((Except.error e : Except ε α), s) := ⟨failsOnly_error he, h⟩

/-- Inversion: the two ways in which a step ends. -/
theorem Steady.cases {x : Except ε α × σ} (h : Steady P I x) :
    (∃ e s, x = (.error e, s) ∧ P e ∧ I s) ∨ ∃ a s, x = (.ok a, s) ∧ I s := by
  rcases x with ⟨e | a, s⟩
  · exact .inl ⟨e, s, rfl, h.fails e rfl, h.keeps⟩
  · exact .inr ⟨a, s, rfl, h.keeps⟩

end Steady

end FileDepot.Outcome
