import FileDepot.Payload
import FileDepot.Proofs.TextFiles

/-!
# Attempts at contents

The contents of a large object can be asked for in three ways: they are opened, opened and read, or saved.
All three take the bytes by the ticket of the object and go on without the world (`Lob.attempt_exec`), so it is
enough to know what taking the bytes does. Here the bytes come from a factory of any kind, whose calls are
counted.

* **step** — `Lob.attempt_of_opened`, `Lob.attempt_of_error`, `Lob.attempt_of_ok`: what one attempt comes to
  after the bytes were taken, and before that when the factory fails or answers;
* **run** — `Lob.attempts_drop`: attempts at which the factory fails leave everything as it was;
* **once** — `Lob.handed_out_once`: what each of any number of attempts comes to.
-/

namespace FileDepot

open Encoding

variable {σ ρ : Type}

/-- A factory of contents: what a call of it answers, and the state that the call leaves behind. What comes
out of what it answers may fail later, or may be closed already. -/
abbrev Factory (ρ : Type) := ρ → Except Fault Supply × ρ

/-- A factory at work. -/
structure Workshop (ρ : Type) where
  /-- how often it was called -/
  calls : Nat
  /-- the state it is in -/
  state : ρ

namespace Factory

/-- The answer to the call that comes after `n` others. -/
def answer (f : Factory ρ) : ρ → Nat → Except Fault Supply
  | r, 0 => (f r).1
  | r, n + 1 => answer f (f r).2 n

/-- All of the first `n` calls fail. -/
def FailsFor (f : Factory ρ) (r : ρ) (n : Nat) : Prop := ∀ j < n, ∃ e, f.answer r j = .error e

/-- Call a factory. -/
def call (f : Factory ρ) : Op (Workshop ρ) Supply :=
  Op.onStore fun s => ((f s.state).1, ⟨s.calls + 1, (f s.state).2⟩)

end Factory

namespace Lob

/-- A way to ask for contents. -/
inductive Attempt where
  /-- open them -/
  | openStream
  /-- open them and read all of them -/
  | read
  /-- save them, as text in an encoding if they are text -/
  | save (charset : Charset)
  deriving DecidableEq

/-- What is handed out at an attempt. -/
inductive Handout where
  /-- opened contents -/
  | stream (s : Stream)
  /-- contents that were read -/
  | content (c : Content)
  /-- bytes to be saved -/
  | reader (r : ByteReader)
  deriving DecidableEq

/-- Ask for contents. -/
def attempt (l : Lob σ) : Attempt → Op σ Handout
  | .openStream => do pure (.stream (← l.openStream))
  | .read => do pure (.content (← l.read))
  | .save charset => do pure (.reader (← (Payload.lob l).toReader charset))

/-- What can be seen after an attempt. -/
structure Sight where
  /-- what was handed out, or why nothing was -/
  outcome : Except FileDepot.Fault Handout
  /-- how often the factory was called by then -/
  calls : Nat
  /-- whether the object tells that its contents were opened -/
  opened : Except FileDepot.Fault Bool
  /-- the length that the object tells -/
  length : Option Int

/-- What is seen after each of some attempts. -/
def attempts (l : Lob (Workshop ρ)) : World (Workshop ρ) → List Attempt → List Sight
  | _, [] => []
  | w, a :: rest =>
    let (outcome, w) := (l.attempt a).exec w
    ⟨outcome, w.store.calls, (l.isOpened.exec w).1, l.length⟩ :: l.attempts w rest

/-! ## From bytes to contents -/

/-- What is handed out of bytes at an attempt. -/
def handout (l : Lob σ) (supply : Supply) : Attempt → Except FileDepot.Fault Handout
  | .openStream => do pure (.stream (← l.opening supply))
  | .read => do pure (.content (← (← l.opening supply).readAll))
  | .save charset =>
    match l.charset with
    | none => do pure (.reader (← (ByteReader.ofSupply supply).enter))
    | some own => do
      let text ← decoding own supply
      let target ← charset.require.mapError .charset
      pure (.reader (.ofText target text))

/-- An attempt takes the bytes and goes on without the world. -/
theorem attempt_exec (l : Lob σ) (a : Attempt) (w : World σ) : (l.attempt a).exec w =
    match l.take.exec w with
    | (.error f, w) => (.error f, w)
    | (.ok supply, w) => (l.handout supply a, w) := by
  cases a with
  | openStream =>
    simp only [attempt, handout, Op.bind_exec, Op.pure_exec, openStream_exec_cases]
    rcases l.take.exec w with ⟨f | supply, w⟩
    · rfl
    · simp only
      cases l.opening supply <;> rfl
  | read =>
    simp only [attempt, handout, Lob.read, Op.bind_exec, Op.pure_exec, Op.ofExcept_exec,
      openStream_exec_cases]
    rcases l.take.exec w with ⟨f | supply, w⟩
    · rfl
    · simp only
      cases l.opening supply with
      | error f => rfl
      | ok s =>
        simp only [Outcome.ok_bind]
        cases s.readAll <;> rfl
  | save charset =>
    simp only [attempt, handout, Op.bind_exec, Op.pure_exec, Payload.toReader]
    cases l.charset with
    | none =>
      simp only [Op.bind_exec, Op.ofExcept_exec]
      rcases l.take.exec w with ⟨f | supply, w⟩
      · rfl
      · simp only
        cases (ByteReader.ofSupply supply).enter <;> rfl
    | some own =>
      simp only [Payload.toReader.encoded, Op.bind_exec, Op.pure_exec, Op.ofExcept_exec,
        takeText_exec_cases]
      rcases l.take.exec w with ⟨f | supply, w⟩
      · rfl
      · simp only
        cases decoding own supply with
        | error f => rfl
        | ok text =>
          simp only [Outcome.ok_bind]
          cases charset.require <;> rfl

/-! ## One attempt -/

/-- After the bytes were taken, an attempt is refused and changes nothing. -/
theorem attempt_of_opened {l : Lob σ} {w : World σ} (hopened : l.ticket ∈ w.redeemed) (a : Attempt) :
    (l.attempt a).exec w = (.error .consumed, w) := by
  rw [attempt_exec, take_exec_cases, if_pos (List.contains_iff_mem.mpr hopened)]

section Step

variable {l : Lob (Workshop ρ)} {f : Factory ρ} {w : World (Workshop ρ)}

/-- The world after a call of the factory. -/
def called (f : Factory ρ) (w : World (Workshop ρ)) : World (Workshop ρ) :=
  { w with store := ⟨w.store.calls + 1, (f w.store.state).2⟩ }

/-- Before that, an attempt at which the factory fails leaves the contents to be taken. -/
theorem attempt_of_error (hsource : l.source = f.call) (hsealed : l.ticket ∉ w.redeemed)
    {e : FileDepot.Fault} (he : (f w.store.state).1 = .error e) (a : Attempt) :
    (l.attempt a).exec w = (.error (openFault e), called f w) := by
  rw [attempt_exec, take_exec_cases, if_neg (by rwa [List.contains_iff_mem]), hsource, Factory.call,
    Op.onStore_exec, he]
  rfl

/-- An attempt at which the factory answers takes the bytes. -/
theorem attempt_of_ok (hsource : l.source = f.call) (hsealed : l.ticket ∉ w.redeemed)
    {supply : Supply} (hsupply : (f w.store.state).1 = .ok supply) (a : Attempt) :
    (l.attempt a).exec w =
      (l.handout supply a, { called f w with redeemed := l.ticket :: w.redeemed }) := by
  rw [attempt_exec, take_exec_cases, if_neg (by rwa [List.contains_iff_mem]), hsource, Factory.call,
    Op.onStore_exec, hsupply]
  rfl

end Step

theorem openFault_of_system {e : FileDepot.Fault} (he : e.isSystem = true) :
    openFault e = .unopened e := if_pos he

theorem openFault_of_not_system {e : FileDepot.Fault} (he : e.isSystem = false) : openFault e = e :=
  if_neg (by rw [he]; exact Bool.false_ne_true)

/-! ## Any number of attempts -/

section Run

variable {l : Lob (Workshop ρ)} {f : Factory ρ} {w : World (Workshop ρ)} {as : List Attempt} {i k : Nat}

/-- After the bytes were taken, all attempts are refused and the factory is not called. -/
theorem attempts_of_opened (hopened : l.ticket ∈ w.redeemed) (as : List Attempt) :
    l.attempts w as = as.map fun _ => ⟨.error .consumed, w.store.calls, .ok true, l.length⟩ := by
  induction as with
  | nil => rfl
  | cons a rest ih =>
    simp only [attempts, attempt_of_opened hopened, isOpened, Op.isRedeemed_exec, ih, List.map_cons,
      List.contains_iff_mem.mpr hopened]

/-- As long as the factory fails, it is called once for each attempt, and the contents are still to be
taken. -/
theorem attempts_drop (hsource : l.source = f.call) (hsealed : l.ticket ∉ w.redeemed)
    (hfails : f.FailsFor w.store.state i) (hi : i ≤ as.length) :
    ∃ w', (l.attempts w as).drop i = l.attempts w' (as.drop i) ∧ l.ticket ∉ w'.redeemed ∧
      w'.store.calls = w.store.calls + i ∧
      ∀ n, f.answer w'.store.state n = f.answer w.store.state (i + n) := by
  induction i generalizing w as with
  | zero => exact ⟨w, rfl, hsealed, rfl, fun n => by rw [Nat.zero_add]⟩
  | succ i ih =>
    cases as with
    | nil => exact absurd hi (Nat.not_succ_le_zero _)
    | cons a rest =>
      obtain ⟨e, he⟩ := hfails 0 (Nat.succ_pos _)
      have hrest : i ≤ rest.length := Nat.le_of_succ_le_succ hi
      obtain ⟨w', hdrop, hsealed', hcalls, hanswer⟩ := ih (w := called f w) hsealed
        (fun j hj => hfails (j + 1) (Nat.succ_lt_succ hj)) hrest
      refine ⟨w', ?_, hsealed', ?_, fun n => ?_⟩
      · simp only [attempts, attempt_of_error hsource hsealed he, List.drop_succ_cons]
        exact hdrop
      · rw [hcalls, called, Nat.add_right_comm, Nat.add_assoc]
      · rw [hanswer, Nat.add_right_comm]
        rfl

/-- What is seen of the first attempt after failures, and of those behind it. -/
theorem attempts_after (hsource : l.source = f.call) (hsealed : l.ticket ∉ w.redeemed)
    (hfails : f.FailsFor w.store.state k) {a : Attempt} {rest : List Attempt}
    (has : as.drop k = a :: rest) :
    (∀ e, f.answer w.store.state k = .error e → (l.attempts w as)[k]? =
      some ⟨.error (openFault e), w.store.calls + k + 1, .ok false, l.length⟩) ∧
    ∀ supply, f.answer w.store.state k = .ok supply → (l.attempts w as).drop k =
      ⟨l.handout supply a, w.store.calls + k + 1, .ok true, l.length⟩ ::
        rest.map fun _ => ⟨.error .consumed, w.store.calls + k + 1, .ok true, l.length⟩ := by
  have hk : k ≤ as.length := Nat.le_of_not_lt fun hlong => by
    rw [List.drop_eq_nil_of_le (Nat.le_of_lt hlong)] at has
    cases has
  obtain ⟨w', hdrop, hsealed', hcalls, hanswer⟩ := attempts_drop hsource hsealed hfails hk
  have hnext : (f w'.store.state).1 = f.answer w.store.state k := hanswer 0
  rw [has] at hdrop
  refine ⟨fun e he => ?_, fun supply hsupply => ?_⟩
  · have hfirst : (l.attempts w as)[k]? = ((l.attempts w as).drop k)[0]? := by
      rw [List.getElem?_drop, Nat.add_zero]
    simp only [hfirst, hdrop, attempts, attempt_of_error hsource hsealed' (hnext.trans he), called,
      hcalls, isOpened, Op.isRedeemed_exec, List.getElem?_cons_zero]
    rw [Bool.eq_false_iff.mpr (mt List.contains_iff_mem.mp hsealed')]
  · have hopened : l.ticket ∈ ({ called f w' with redeemed := l.ticket :: w'.redeemed } :
        World (Workshop ρ)).redeemed := List.mem_cons_self ..
    rw [hdrop]
    simp only [attempts, attempt_of_ok hsource hsealed' (hnext.trans hsupply), isOpened,
      Op.isRedeemed_exec, List.contains_iff_mem.mpr hopened]
    rw [attempts_of_opened hopened]
    simp only [called, hcalls]

end Run

/-- **Once.** The contents of an object that were not taken yet are asked for again and again, and its
factory fails or answers as it likes. Up to the first attempt at which the factory answers, it is called once
for each; trouble of the system is told as trouble with the contents, for that cause, any other trouble
as it is, and the contents are still to be taken. That attempt hands out what it makes of the bytes, if
this can be done, and in any case the contents count as opened from then on: every later attempt is refused
and the factory is not called again. The length stays the same throughout. -/
theorem handed_out_once (f : Factory ρ) (r : ρ) {l : Lob (Workshop ρ)} (hsource : l.source = f.call)
    {w : World (Workshop ρ)} (hsealed : l.ticket ∉ w.redeemed) (hstore : w.store = ⟨0, r⟩)
    {as : List Attempt} {i : Nat} {a : Attempt} (ha : as[i]? = some a) :
    (∀ e, f.FailsFor r i → f.answer r i = .error e →
      (l.attempts w as)[i]? = some ⟨.error (openFault e), i + 1, .ok false, l.length⟩) ∧
    (∀ supply, f.FailsFor r i → f.answer r i = .ok supply →
      (l.attempts w as)[i]? = some ⟨l.handout supply a, i + 1, .ok true, l.length⟩) ∧
    (∀ k < i, ∀ supply, f.FailsFor r k → f.answer r k = .ok supply →
      (l.attempts w as)[i]? = some ⟨.error .consumed, k + 1, .ok true, l.length⟩) ∧
    (∀ e : FileDepot.Fault, e.isSystem = true → openFault e = .unopened e ∧
      (openFault e).family = .storage ∧ (openFault e).cause? = some e.family) ∧
    (∀ e : FileDepot.Fault, e.isSystem = false → openFault e = e) ∧
    FileDepot.Fault.consumed.family = .streamConsumed := by
  have hstate : w.store.state = r := by rw [hstore]
  have hcalls : w.store.calls = 0 := by rw [hstore]
  obtain ⟨hi, -⟩ := List.getElem?_eq_some_iff.mp ha
  have hdrop : as.drop i = a :: as.drop (i + 1) := by
    rw [List.drop_eq_getElem_cons hi, ← List.getElem?_eq_some_iff.mp ha |>.2]
  refine ⟨fun e hfails he => ?_, fun supply hfails hsupply => ?_, fun k hk supply hfails hsupply => ?_,
    fun e he => ?_, fun e he => openFault_of_not_system he, rfl⟩
  · rw [← hstate] at hfails he
    have hseen := (attempts_after hsource hsealed hfails hdrop).1 e he
    rwa [hcalls, Nat.zero_add] at hseen
  · rw [← hstate] at hfails hsupply
    have hseen := congrArg (·[0]?) ((attempts_after hsource hsealed hfails hdrop).2 supply hsupply)
    simpa only [hcalls, Nat.zero_add, List.getElem?_drop, Nat.add_zero, List.getElem?_cons_zero] using
      hseen
  · rw [← hstate] at hfails hsupply
    obtain ⟨n, rfl⟩ := Nat.exists_eq_add_of_lt hk
    -- the attempt comes after the one that took the bytes
    have hdropk : as.drop k = as[k] :: as.drop (k + 1) := List.drop_eq_getElem_cons (by omega)
    have hseen := congrArg (·[n + 1]?) ((attempts_after hsource hsealed hfails hdropk).2 supply hsupply)
    have hlater : (as.drop (k + 1))[n]? = some a := by
      rw [List.getElem?_drop, Nat.add_right_comm, ha]
    simpa only [hcalls, Nat.zero_add, List.getElem?_drop, List.getElem?_cons_succ, List.getElem?_map,
      hlater, Option.map_some, ← Nat.add_assoc] using hseen
  · rw [openFault_of_system he]
    exact ⟨rfl, rfl, rfl⟩

/-- A factory that fails twice, and then gives a byte that no text in UTF-8 begins with. -/
def fragile : Factory Nat := fun n =>
  (if n = 0 then .error (.given (.system .timeout) "late")
    else if n = 1 then .error (.value .closed) else .ok (.whole [0xff]), n + 1)

/-- A text that comes from it. -/
def fragileText : Lob (Workshop Nat) := ⟨0, fragile.call, some 1, some (.ofCodec .utf8), .memory⟩

/-- Two failures leave the text to be taken; that it cannot be decoded then does not. -/
theorem handed_out_once_fragile :
    let w : World (Workshop Nat) := .fresh ⟨0, 0⟩
    let seen := fragileText.attempts w [.openStream, .save (.ofCodec .utf8), .read, .openStream, .read]
    (fragileText.source = fragile.call ∧ fragileText.ticket ∉ w.redeemed ∧ w.store = ⟨0, 0⟩) ∧
      seen[0]? = some ⟨.error (.unopened (.given (.system .timeout) "late")), 1, .ok false, some 1⟩ ∧
      seen[1]? = some ⟨.error (.value .closed), 2, .ok false, some 1⟩ ∧
      seen[2]? = some ⟨fragileText.handout (.whole [0xff]) .read, 3, .ok true, some 1⟩ ∧
      (fragileText.handout (.whole [0xff]) .read).isOk = false ∧
      seen[3]? = some ⟨.error .consumed, 3, .ok true, some 1⟩ ∧
      seen[4]? = some ⟨.error .consumed, 3, .ok true, some 1⟩ := by
  intro w seen
  have hsource : fragileText.source = fragile.call := rfl
  have hsealed : fragileText.ticket ∉ w.redeemed := List.not_mem_nil
  have hstore : w.store = ⟨0, 0⟩ := rfl
  have hfails {n : Nat} (hn : n ≤ 2) : fragile.FailsFor 0 n := fun j hj => by
    obtain rfl | rfl : j = 0 ∨ j = 1 := by omega
    · exact ⟨_, rfl⟩
    · exact ⟨_, rfl⟩
  have honce (i : Nat) {a : Attempt} (ha : [Attempt.openStream, .save (.ofCodec .utf8), .read,
      .openStream, .read][i]? = some a) := handed_out_once fragile 0 hsource hsealed hstore ha
  refine ⟨⟨hsource, hsealed, hstore⟩, ?_, ?_, ?_, ?_, ?_, ?_⟩
  · exact (honce 0 rfl).1 _ (hfails (by omega)) rfl
  · exact (honce 1 rfl).1 _ (hfails (by omega)) rfl
  · exact (honce 2 rfl).2.1 _ (hfails (by omega)) rfl
  · have hopening : fragileText.opening (.whole [0xff]) =
        .ok ⟨.text (.decoded (.start .utf8 [0xff])), .memory, false⟩ := by
      simp only [opening, decoding, fragileText,
        requireText_ofCodec (by decide : Codec.utf8 ∈ Codec.pointwise)]
      rfl
    simp only [handout, hopening]
    rfl
  · exact (honce 3 rfl).2.2.1 2 (by omega) _ (hfails (by omega)) rfl
  · exact (honce 4 rfl).2.2.1 2 (by omega) _ (hfails (by omega)) rfl

end Lob

end FileDepot
