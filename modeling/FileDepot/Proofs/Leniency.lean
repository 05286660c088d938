import FileDepot.Proofs.Memory.Acts
import FileDepot.Proofs.Notes
import FileDepot.Proofs.Requests

/-!
# Lenient adapters

When nothing is found, a strict adapter takes it for a fault and a lenient one does not. That is all the
difference there is: whatever requests are carried out before on both, a lenient adapter leaves the same store
behind as a strict one, and answers the next request as a strict one does, but with a cursor without files where
that one says that nothing is found.

* **step** — `Adapter.execute_lenient` compares one request in one world;
* **run** — `Adapter.lenient_after` compares any requests in worlds that are alike.
-/

namespace FileDepot

variable {σ η α : Type}

/-- A store does not say by itself that nothing is found. -/
structure Store.Silent (s : Store σ η) : Prop where
  /-- resolving a pattern does not -/
  resolve : ∀ pattern w path, ((s.resolve pattern).exec w).1 ≠ .error (.notFound path)
  /-- removing a file does not -/
  remove : ∀ path w path', ((s.remove path).exec w).1 ≠ .error (.notFound path')

/-- What is left of the outcome of a request when it is no fault that nothing is found: then a listing or a
removal gives `empty`. -/
def forgive (empty : Request σ → α) (request : Option (Request σ)) (outcome : Except Fault α) :
    Except Fault α :=
  match request, outcome with
  | some r, .error (.notFound path) =>
    if r.kind = .save then .error (.notFound path) else .ok (empty r)
  | _, outcome => outcome

section Forgive

variable {empty : Request σ → α} {request : Option (Request σ)} {r : Request σ}

theorem forgive_ok (x : α) : forgive empty request (.ok x) = .ok x := by
  cases request <;> rfl

/-- Other faults stay. -/
theorem forgive_error {f : Fault} (hf : ∀ path, f ≠ .notFound path) :
    forgive empty request (.error f) = .error f := by
  cases request with
  | none => rfl
  | some r =>
    cases f with
    | notFound path => exact absurd rfl (hf path)
    | _ => rfl

theorem forgive_save (hkind : r.kind = .save) (outcome : Except Fault α) :
    forgive empty (some r) outcome = outcome := by
  cases outcome with
  | ok x => rfl
  | error f =>
    cases f with
    | notFound path => exact if_pos hkind
    | _ => rfl

theorem forgive_notFound (hkind : r.kind ≠ .save) (path : String) :
    forgive empty (some r) (.error (.notFound path)) = .ok (empty r) := if_neg hkind

/-- Whatever the empty outcome is, a fault stays or gives it. -/
theorem forgive_cases (request : Option (Request σ)) (f : Fault) :
    (∀ (α : Type) (empty : Request σ → α), forgive empty request (.error f) = .error f) ∨
      ∃ r, request = some r ∧
        ∀ (α : Type) (empty : Request σ → α), forgive empty request (.error f) = .ok (empty r) := by
  cases request with
  | none => exact .inl fun α empty => rfl
  | some r =>
    cases f with
    | notFound path =>
      by_cases hkind : r.kind = .save
      · exact .inl fun α empty => forgive_save hkind _
      · exact .inr ⟨r, rfl, fun α empty => forgive_notFound hkind path⟩
    | _ => exact .inl fun α empty => rfl

end Forgive

namespace Adapter

/-! ## One request -/

/-- An adapter for which it is a fault that nothing is found. -/
def strict (s : Store σ η) (codec : Encoding.Codec) : Adapter σ η := ⟨s, ⟨codec, true⟩⟩

/-- An adapter for which it is none. -/
def lenient (s : Store σ η) (codec : Encoding.Codec) : Adapter σ η := ⟨s, ⟨codec, false⟩⟩

variable {s : Store σ η} {codec : Encoding.Codec}

/-- What two adapters make of one request in one world: the lenient one forgives, and the worlds after it are
alike. -/
def Forgives (s : Store σ η) (codec : Encoding.Codec) (request : Option (Request σ)) (w : World σ) :
    Prop :=
  (((lenient s codec).execute request).exec w).1 =
      forgive finished request (((strict s codec).execute request).exec w).1 ∧
    (((strict s codec).execute request).exec w).2.Alike
      (((lenient s codec).execute request).exec w).2

theorem resolveFault_ne {pattern path : String} {f : Fault} (hf : f ≠ .notFound path) :
    resolveFault pattern f ≠ .notFound path := by
  rw [resolveFault]
  split
  · nofun
  · exact hf

theorem deleteFault_ne {p path : String} {f : Fault} (hf : f ≠ .notFound path) :
    deleteFault p f ≠ .notFound path := by
  rw [deleteFault]
  split
  · nofun
  · exact hf

variable {r : Request σ}

/-- A listing for which nothing is found is forgiven. -/
theorem forgives_list (hs : s.Silent) (hkind : r.kind.isListing = true)
    (hsense : isRefused (some r) = false) (w : World σ) : Forgives s codec (some r) w := by
  obtain ⟨pattern, hpath⟩ := path_of_listing hkind hsense
  have hne : r.kind ≠ .save := by
    intro hsave
    rw [hsave] at hkind
    cases hkind
  have hresolve := hs.resolve pattern w
  rw [Forgives, execute_list _ hkind hpath hsense, execute_list _ hkind hpath hsense]
  simp only [strict, lenient]
  rcases hexec : (s.resolve pattern).exec w with ⟨f | files, w'⟩
  · rw [hexec] at hresolve
    exact ⟨(forgive_error fun path => resolveFault_ne fun hf => hresolve path (hf ▸ rfl)).symm,
      .refl w'⟩
  · cases files with
    | nil =>
      have hforgiven : forgive (finished : Request σ → Cursor η) (some r)
          (.error (.notFound pattern)) = .ok (finished r) := forgive_notFound hne pattern
      exact ⟨hforgiven.symm, .refl _⟩
    | cons h rest => exact ⟨(forgive_ok _).symm, .refl _⟩

/-- A removal for which nothing is found is forgiven. -/
theorem forgives_delete (hs : s.Silent) (hkind : r.kind = .delete) {path : String}
    (hpath : requiredPath r = .ok path) (w : World σ) : Forgives s codec (some r) w := by
  have hne : r.kind ≠ .save := by
    rw [hkind]
    nofun
  have hremove := hs.remove path
    { w with notes := ⟨.debug, .operations, "Deleting " ++ path⟩ :: w.notes }
  rw [Forgives, execute_delete _ hkind hpath, execute_delete _ hkind hpath]
  simp only [strict, lenient]
  rcases hexec : (s.remove path).exec
    { w with notes := ⟨.debug, .operations, "Deleting " ++ path⟩ :: w.notes } with ⟨f | removed, w'⟩
  · rw [hexec] at hremove
    exact ⟨(forgive_error fun p => deleteFault_ne fun hf => hremove p (hf ▸ rfl)).symm, .refl w'⟩
  · cases removed with
    | true => exact ⟨(forgive_ok _).symm, .refl w'⟩
    | false => exact ⟨(forgive_notFound hne path).symm, ⟨rfl, rfl, rfl⟩⟩

/-- **Step.** A lenient adapter does to the store what a strict one does, and forgives. -/
theorem execute_lenient (hs : s.Silent) (codec : Encoding.Codec) (request : Option (Request σ))
    (w : World σ) : Forgives s codec request w := by
  cases hsense : isRefused request with
  | true =>
    obtain ⟨f, notes, hrefused, hfamily⟩ := @execute_refused_alike σ η _ hsense w
    have hf (path : String) : f ≠ .notFound path := by
      rintro rfl
      cases hfamily
    rw [Forgives, hrefused, hrefused]
    exact ⟨(forgive_error hf).symm, .refl _⟩
  | false =>
    cases request with
    | none => cases hsense
    | some r =>
      cases hkind : r.kind with
      | listText => exact forgives_list hs (by rw [hkind]; rfl) hsense w
      | listBinary => exact forgives_list hs (by rw [hkind]; rfl) hsense w
      | save =>
        -- a save does not ask whether anything is found
        have hsame : (strict s codec).execute (some r) = (lenient s codec).execute (some r) := by
          rw [execute, execute, hkind]
          rfl
        rw [Forgives, hsame, forgive_save hkind]
        exact ⟨rfl, .refl _⟩
      | delete =>
        obtain ⟨path, hpath⟩ := delete_of_not_refused hkind hsense
        exact forgives_delete hs hkind hpath w
      | other name =>
        simp only [isRefused, hkind] at hsense
        cases hsense

/-! ## Many requests -/

/-- What a request is answered with: its cursor, and the records of all its files. -/
def answer (a : Adapter σ η) (request : Option (Request σ)) (w : World σ) :
    Except Fault (Cursor η × Except Fault (List (Record σ))) × World σ :=
  match (a.execute request).exec w with
  | (.error f, w) => (.error f, w)
  | (.ok c, w) => (.ok (c, (a.drain c w).1), (a.drain c w).2.2)

section Answer

variable {a : Adapter σ η} {request : Option (Request σ)} {w w' : World σ}

theorem answer_error {f : Fault} (h : (a.execute request).exec w = (.error f, w')) :
    a.answer request w = (.error f, w') := by
  rw [answer, h]

theorem answer_ok {c : Cursor η} (h : (a.execute request).exec w = (.ok c, w')) :
    a.answer request w = (.ok (c, (a.drain c w').1), (a.drain c w').2.2) := by
  rw [answer, h]

end Answer

/-- The answer of a request that gives no rows. -/
def noRows (r : Request σ) : Cursor η × Except Fault (List (Record σ)) := (finished r, .ok [])

/-- The world after some requests are answered. -/
def after (a : Adapter σ η) (requests : List (Option (Request σ))) (w : World σ) : World σ :=
  requests.foldl (fun w request => (a.answer request w).2) w

/-- Passing files is the same for a strict and a lenient adapter. -/
theorem drain_lenient (s : Store σ η) (codec : Encoding.Codec) (c : Cursor η) (w : World σ) :
    (lenient s codec).drain c w = (strict s codec).drain c w := by
  have hrecord (c : Cursor η) (h : η) : (lenient s codec).record c h = (strict s codec).record c h :=
    rfl
  induction c, w using drain_induction (a := strict s codec) with
  | nil c w hnone => rw [drain_nil hnone, drain_nil hnone]
  | error c w h rest f w' hleft hfail =>
    rw [drain_error hleft hfail, drain_error hleft ((hrecord c h).symm ▸ hfail)]
  | ok c w h rest r w' hleft hmade ih =>
    rw [drain_ok hleft hmade, drain_ok hleft ((hrecord c h).symm ▸ hmade), ih]

/-- A request whose contents are not read by what is noted. -/
def Heedless (request : Option (Request σ)) : Prop :=
  ∀ r payload, request = some r → r.content = some payload → payload.Heedless

theorem remaining_finished (r : Request σ) : (finished r : Cursor η).remaining = [] := by
  rw [Cursor.remaining, finished]
  split <;> rfl

/-- **Step.** In worlds that are alike, a lenient adapter answers as a strict one does but forgives, and the
worlds stay alike. -/
theorem answer_lenient (hs : s.Heedless) (hsilent : s.Silent) (codec : Encoding.Codec)
    {request : Option (Request σ)} (hrequest : Heedless request) {w v : World σ} (h : w.Alike v) :
    ((lenient s codec).answer request v).1 =
        forgive noRows request ((strict s codec).answer request w).1 ∧
      ((strict s codec).answer request w).2.Alike ((lenient s codec).answer request v).2 := by
  have hstrict : ((strict s codec).execute request).Heedless :=
    frame_execute (a := strict s codec) Op.frame_heedless hs fun r payload hr hpayload =>
      (hrequest r payload hr hpayload).toReader _
  obtain ⟨x, w', v', hw, hv, h'⟩ := hstrict.exec h
  obtain ⟨hforgives, halike⟩ := execute_lenient hsilent codec request v
  rw [hv] at hforgives halike
  rcases hexec : ((lenient s codec).execute request).exec v with ⟨y, u⟩
  rw [hexec] at hforgives halike
  have hu : w'.Alike u := h'.trans halike
  obtain rfl : y = forgive finished request x := hforgives
  cases x with
  | ok c =>
    rw [forgive_ok] at hexec
    obtain ⟨hrecords, -, hworlds⟩ := alike_drain (a := strict s codec) hs c w' u hu
    rw [answer_ok hw, answer_ok hexec, drain_lenient, forgive_ok, hrecords]
    exact ⟨rfl, hworlds⟩
  | error f =>
    rw [answer_error hw]
    rcases forgive_cases request f with hstays | ⟨r, -, hforgiven⟩
    · rw [hstays] at hexec
      rw [answer_error hexec, hstays]
      exact ⟨rfl, hu⟩
    · rw [hforgiven] at hexec
      rw [answer_ok hexec, hforgiven, drain_nil (remaining_finished r)]
      exact ⟨rfl, hu⟩

/-- **Run.** After any requests the worlds are alike. -/
theorem lenient_after (hs : s.Heedless) (hsilent : s.Silent) (codec : Encoding.Codec)
    {requests : List (Option (Request σ))} (hrequests : ∀ request ∈ requests, Heedless request)
    {w v : World σ} (h : w.Alike v) :
    ((strict s codec).after requests w).Alike ((lenient s codec).after requests v) := by
  induction requests generalizing w v with
  | nil => exact h
  | cons request rest ih =>
    have hstep := answer_lenient hs hsilent codec (hrequests request (List.mem_cons_self ..)) h
    exact ih (fun r hr => hrequests r (List.mem_cons_of_mem _ hr)) hstep.2

end Adapter

/-! ## In memory -/

namespace Memory

/-- The store in memory does not say by itself that nothing is found. -/
theorem store_silent : store.Silent where
  resolve pattern w path h := by
    simp only [store, Op.ask_exec] at h
    cases resolve_eq_error h
  remove path w path' h := by
    simp only [store, Op.bind_exec, Op.onStore_exec] at h
    rcases hremove : w.store.remove path with ⟨f | found, m⟩
    · rw [hremove] at h
      obtain rfl : f = .notFound path' := Except.error.inj h
      rcases remove_eq_error (congrArg Prod.fst hremove) with hnormal | ⟨e, hf⟩
      · cases normalize_eq_error hnormal
      · cases hf
    · rw [hremove] at h
      cases found with
      | some p =>
        simp only [Op.bind_exec, Op.note_exec, Op.pure_exec] at h
        cases h
      | none => cases h

/-- **A lenient adapter only reports differently.** After any requests to two stores in memory that are the
same, to a strict adapter of one and a lenient adapter of the other, the stores are the same; and whatever is
requested next is answered by the lenient one as by the strict one, with the same records in the same order or
the same fault, except that a cursor without rows is its answer where the strict one says of a listing or a
removal that nothing is found. -/
theorem lenient_answers (codec : Encoding.Codec) (requests : List (Option (Request Memory)))
    (hrequests : ∀ request ∈ requests, Adapter.Heedless request) (w v : World Memory)
    (h : w.Alike v) :
    let w' := (Adapter.strict store codec).after requests w
    let v' := (Adapter.lenient store codec).after requests v
    w'.store = v'.store ∧ w'.Alike v' ∧
      ∀ next, Adapter.Heedless next →
        ((Adapter.lenient store codec).answer next v').1 =
          forgive Adapter.noRows next ((Adapter.strict store codec).answer next w').1 := by
  intro w' v'
  have halike : w'.Alike v' :=
    Adapter.lenient_after store_heedless store_silent codec hrequests h
  exact ⟨halike.store, halike, fun next hnext =>
    (Adapter.answer_lenient store_heedless store_silent codec hnext halike).1⟩

/-- A request to remove a file. -/
def removal (path : String) : Request Memory := ⟨.delete, some path, none, []⟩

/-- A strict adapter says that nothing is found where there is nothing to be removed. -/
theorem answer_removal_vacant (codec : Encoding.Codec) {path p : String}
    (hpath : Adapter.requiredPath (removal path) = .ok path) (hp : normalize path = .ok p)
    {w : World Memory} (hfile : w.store.files.contains p = false)
    (hdir : w.store.isDirectory p = false) :
    (Adapter.strict store codec).answer (some (removal path)) w = (.error (.notFound path),
      { w with notes := ⟨.debug, .operations, "Deleting " ++ path⟩ :: w.notes }) := by
  have hremove : w.store.remove path = (.ok none, w.store) := by
    simp only [remove, hp, hfile, hdir, Bool.false_eq_true, if_false]
  refine Adapter.answer_error ?_
  rw [Adapter.execute_delete _ rfl hpath]
  simp only [Adapter.strict, store, Op.bind_exec, Op.onStore_exec, hremove, Op.pure_exec, if_true]

/-- Where a file is removed twice that is not there, the strict adapter says so, and the lenient one gives a
cursor without rows. -/
theorem lenient_answers_removal :
    let w : World Memory := .fresh (.empty fun n => ⟨n⟩)
    let w' := (Adapter.strict store .utf8).after [some (removal "a")] w
    let v' := (Adapter.lenient store .utf8).after [some (removal "a")] w
    ((Adapter.strict store .utf8).answer (some (removal "a")) w').1 = .error (.notFound "a") ∧
      ((Adapter.lenient store .utf8).answer (some (removal "a")) v').1 =
        .ok (Adapter.noRows (removal "a")) ∧
      w'.store = v'.store := by
  intro w w' v'
  have hpath : Adapter.requiredPath (removal "a") = .ok "a" := by decide +kernel
  have hp : normalize "a" = .ok "a" := by decide +kernel
  have hheedless : Adapter.Heedless (some (removal "a")) := by
    rintro r payload hr hpayload
    cases hr
    cases hpayload
  have hfirst := answer_removal_vacant .utf8 hpath hp (w := w) rfl rfl
  have hw' : w'.store = w.store := congrArg (fun x => x.2.store) hfirst
  have hstrict := congrArg Prod.fst
    (answer_removal_vacant .utf8 hpath hp (w := w') (by rw [hw']; rfl) (by rw [hw']; rfl))
  obtain ⟨hstore, -, hnext⟩ := lenient_answers .utf8 [some (removal "a")]
    (fun r hr => List.mem_singleton.mp hr ▸ hheedless) w w (.refl w)
  refine ⟨hstrict, ?_, hstore⟩
  rw [hnext _ hheedless, hstrict]
  rfl

end Memory

end FileDepot
