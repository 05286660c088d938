import FileDepot.Proofs.Cursor
import FileDepot.Row

/-!
# Sessions with an adapter

In a session with an adapter, requests are carried out, the files of the cursors that they give are passed,
and the records of these files are shown, opened and read. All that the session got is kept, so that its calls
come in any order: those for several cursors and records alternate, and others change the store meanwhile.

* **cursors** — `Adapter.call_extends`, `Adapter.cursors_call`, `Adapter.cursors_calls`: what calls do to a
  cursor, those that are for none first;
* **records** — `Adapter.records_call`, `Adapter.records_calls`: each record that is held is that of its file.
-/

namespace FileDepot

/-- A session with an adapter: what it works on, and what it got so far. -/
structure Session (σ η : Type) where
  /-- what it works on -/
  world : World σ
  /-- the cursors, in the order in which it got them -/
  cursors : List (Cursor η)
  /-- the records, each with the file that it is of -/
  records : List (η × Record σ)
  /-- the opened contents -/
  streams : List Stream

namespace Session

/-- A call of a session. Cursors, records and opened contents are given by their numbers. -/
inductive Call (σ : Type) where
  /-- carry out a request -/
  | execute (request : Option (Request σ))
  /-- carry out a request with the contents of a record -/
  | copy (request : Request σ) (record : Nat)
  /-- pass one file of a cursor -/
  | next (cursor : Nat)
  /-- pass all files of a cursor that are left -/
  | iterate (cursor : Nat)
  /-- close a cursor -/
  | close (cursor : Nat)
  /-- show a record, with its contents as text of at most so many characters, or else in base 64 -/
  | row (record : Nat) (columns : List String) (maxChars : Option Int)
  /-- open the contents of a record -/
  | openStream (record : Nat)
  /-- read opened contents, while there is room for so many bytes -/
  | read (stream : Nat) (n : Int) (room : Nat)
  /-- the store is changed by others -/
  | meanwhile (change : σ → σ)

/-- Whether a call closes a cursor. -/
def Call.isClose {σ : Type} (j : Nat) : Call σ → Bool
  | .close k => k == j
  | _ => false

/-- Whether a call passes files of a cursor. -/
def Call.isPass {σ : Type} (j : Nat) : Call σ → Bool
  | .next k | .iterate k => k == j
  | _ => false

/-- The cursor that a call passes files of, or closes. -/
def Call.cursor? {σ : Type} : Call σ → Option Nat
  | .next k | .iterate k | .close k => some k
  | _ => none

/-- Whether what a call saves, if it does, is no large object from elsewhere. -/
def Call.IsPlain {σ : Type} : Call σ → Prop
  | .execute (some request) => ∀ l, request.content ≠ some (.lob l)
  | _ => True

/-- Whether a call is a change of the store by others. -/
def Call.isMeanwhile {σ : Type} : Call σ → Bool
  | .meanwhile _ => true
  | _ => false

/-- Whether a call opens contents: to save them, to show them or to give them out. -/
def Call.opens {σ : Type} : Call σ → Bool
  | .copy _ _ | .openStream _ => true
  | .row _ columns _ => columns.contains Column.file.name
  | _ => false

/-- What a call replies. -/
inductive Reply (σ η : Type) where
  /-- nothing -/
  | nothing
  /-- a cursor -/
  | cursor (c : Cursor η)
  /-- a record, if a file was left -/
  | record (r : Option (Record σ))
  /-- the records of all files that were left -/
  | records (rs : List (Record σ))
  /-- a row -/
  | row (r : Row)
  /-- opened contents -/
  | stream (s : Stream)
  /-- a piece of contents -/
  | content (c : Content)

variable {σ η α : Type}

/-- Carry out an operation: the reply from its value, and what is kept of the value. -/
def perform (s : Session σ η) (op : Op σ α) (reply : α → Reply σ η)
    (keep : Session σ η → α → Session σ η) : Except Fault (Reply σ η) × Session σ η :=
  match op.exec s.world with
  | (.ok x, w) => (.ok (reply x), keep { s with world := w } x)
  | (.error f, w) => (.error f, { s with world := w })

/-- Keep a cursor. -/
def addCursor (s : Session σ η) (c : Cursor η) : Session σ η :=
  { s with cursors := s.cursors ++ [c] }

/-- Keep opened contents. -/
def addStream (s : Session σ η) (stream : Stream) : Session σ η :=
  { s with streams := s.streams ++ [stream] }

/-- Keep records of files. -/
def addRecords (s : Session σ η) (files : List η) (rs : List (Record σ)) : Session σ η :=
  { s with records := s.records ++ files.zip rs }

/-- Put a cursor in the place of one that was changed. -/
def setCursor (s : Session σ η) (j : Nat) (c : Cursor η) : Session σ η :=
  { s with cursors := s.cursors.set j c }

/-- Show a record. -/
def rowOf (r : Record σ) (columns : List String) : Option Int → Op σ Row
  | some maxChars => Row.text r columns maxChars
  | none => Row.binary r columns

/-- The request that a call has carried out. -/
def request? (s : Session σ η) : Call σ → Option (Option (Request σ))
  | .execute request => some request
  | .copy request i =>
    s.records[i]?.map fun p => some { request with content := some (.lob p.2.content) }
  | _ => none

/-- What an operation leaves of a session, whether it fails or not. -/
theorem perform_induction {s : Session σ η} {op : Op σ α} {reply : α → Reply σ η}
    {keep : Session σ η → α → Session σ η} {P : Session σ η → Prop}
    (error : ∀ f w, op.exec s.world = (.error f, w) → P { s with world := w })
    (ok : ∀ x w, op.exec s.world = (.ok x, w) → P (keep { s with world := w } x)) :
    P (s.perform op reply keep).2 := by
  rw [perform]
  rcases hop : op.exec s.world with ⟨f | x, w⟩
  · exact error f w hop
  · exact ok x w hop

/-- A session went on, with more cursors at most. -/
structure Extends (s t : Session σ η) : Prop where
  /-- the cursors that it had come first -/
  cursors : ∃ new, t.cursors = s.cursors ++ new
  /-- the records are the same -/
  records : t.records = s.records

theorem extends_of_eq {s t : Session σ η} (hcursors : t.cursors = s.cursors)
    (hrecords : t.records = s.records) : s.Extends t :=
  ⟨⟨[], by rw [hcursors, List.append_nil]⟩, hrecords⟩

theorem extends_addCursor (s : Session σ η) (c : Cursor η) : s.Extends (s.addCursor c) :=
  ⟨⟨[c], rfl⟩, rfl⟩

/-- An operation only extends a session if keeping its value does. -/
theorem extends_perform (s : Session σ η) (op : Op σ α) (reply : α → Reply σ η)
    {keep : Session σ η → α → Session σ η} (hkeep : ∀ s x, Extends s (keep s x)) :
    s.Extends (s.perform op reply keep).2 := by
  refine perform_induction (P := s.Extends) (fun f w _ => extends_of_eq rfl rfl) fun x w _ => ?_
  obtain ⟨hcursors, hrecords⟩ := hkeep { s with world := w } x
  exact ⟨hcursors, hrecords⟩

/-- A cursor is still there in a session that went on. -/
theorem Extends.cursor {s t : Session σ η} (h : s.Extends t) {j : Nat} {c : Cursor η}
    (hc : s.cursors[j]? = some c) : t.cursors[j]? = some c := by
  obtain ⟨new, hnew⟩ := h.cursors
  obtain ⟨hlt, -⟩ := List.getElem?_eq_some_iff.mp hc
  rw [hnew, List.getElem?_append_left hlt, hc]

end Session

variable {σ η : Type}

namespace Adapter

/-- Make a call. A call for what the session has not got does nothing. -/
def call (a : Adapter σ η) (s : Session σ η) :
    Session.Call σ → Except Fault (Session.Reply σ η) × Session σ η
  | .execute request => s.perform (a.execute request) .cursor Session.addCursor
  | .copy request i =>
    match s.records[i]? with
    | none => (.ok .nothing, s)
    | some (_, r) =>
      s.perform (a.execute (some { request with content := some (.lob r.content) })) .cursor
        Session.addCursor
  | .next j =>
    match s.cursors[j]? with
    | none => (.ok .nothing, s)
    | some c =>
      (s.setCursor j (a.next c).2).perform (a.next c).1 .record fun s r =>
        s.addRecords c.remaining r.toList
  | .iterate j =>
    match s.cursors[j]? with
    | none => (.ok .nothing, s)
    | some c =>
      match a.drain c s.world with
      | (.ok rs, after, w) =>
        (.ok (.records rs), ({ s with world := w }.setCursor j after).addRecords c.remaining rs)
      | (.error f, after, w) => (.error f, { s with world := w }.setCursor j after)
  | .close j =>
    match s.cursors[j]? with
    | none => (.ok .nothing, s)
    | some c => (.ok .nothing, s.setCursor j c.close)
  | .row i columns maxChars =>
    match s.records[i]? with
    | none => (.ok .nothing, s)
    | some (_, r) => s.perform (Session.rowOf r columns maxChars) .row fun s _ => s
  | .openStream i =>
    match s.records[i]? with
    | none => (.ok .nothing, s)
    | some (_, r) => s.perform r.content.openStream .stream Session.addStream
  | .read i n room =>
    match s.streams[i]? with
    | none => (.ok .nothing, s)
    | some stream =>
      ((stream.read room n).1.map .content,
        { s with streams := s.streams.set i (stream.read room n).2 })
  | .meanwhile change =>
    (.ok .nothing, { s with world := { s.world with store := change s.world.store } })

/-- The session after some calls, whether they fail or not. -/
def calls (a : Adapter σ η) (s : Session σ η) (calls : List (Session.Call σ)) : Session σ η :=
  calls.foldl (fun s x => (a.call s x).2) s

/-- What some calls reply, one after the other. -/
def replies (a : Adapter σ η) : Session σ η → List (Session.Call σ) → List (Except Fault (Session.Reply σ η))
  | _, [] => []
  | s, x :: rest => (a.call s x).1 :: a.replies (a.call s x).2 rest

variable (a : Adapter σ η) (s : Session σ η)

@[simp] theorem calls_nil : a.calls s [] = s := rfl

@[simp] theorem calls_cons (x : Session.Call σ) (rest : List (Session.Call σ)) :
    a.calls s (x :: rest) = a.calls (a.call s x).2 rest := rfl

@[simp] theorem replies_nil : a.replies s [] = [] := rfl

@[simp] theorem replies_cons (x : Session.Call σ) (rest : List (Session.Call σ)) :
    a.replies s (x :: rest) = (a.call s x).1 :: a.replies (a.call s x).2 rest := rfl

/-- What holds at first and is kept by every call holds after all calls. -/
theorem calls_induction {P : Session σ η → Prop} {calls : List (Session.Call σ)}
    (hstep : ∀ s x, x ∈ calls → P s → P (a.call s x).2) (h : P s) : P (a.calls s calls) := by
  induction calls generalizing s with
  | nil => exact h
  | cons x rest ih =>
    exact ih (a.call s x).2 (fun s y hy => hstep s y (List.mem_cons_of_mem _ hy))
      (hstep s x (List.mem_cons_self ..) h)

variable {a s}

/-- A call that has a request carried out keeps the cursor that it gives. -/
theorem call_of_request {x : Session.Call σ} {request : Option (Request σ)}
    (hrequest : s.request? x = some request) :
    a.call s x = s.perform (a.execute request) .cursor Session.addCursor := by
  cases x with
  | execute r => rw [call, Option.some.inj hrequest]
  | copy r i =>
    rw [Session.request?] at hrequest
    rw [call]
    rcases hr : s.records[i]? with _ | ⟨h, held⟩
    · rw [hr] at hrequest
      cases hrequest
    · rw [hr] at hrequest
      rw [← Option.some.inj hrequest]
  | _ => cases hrequest

/-- What a call leaves that has a request carried out, when it gives a cursor. -/
theorem call_eq_cursor {x : Session.Call σ} {request : Option (Request σ)} {c : Cursor η}
    (hrequest : s.request? x = some request) (hreply : (a.call s x).1 = .ok (.cursor c)) :
    ∃ w, (a.execute request).exec s.world = (.ok c, w) ∧
      (a.call s x).2 = { s with world := w, cursors := s.cursors ++ [c] } := by
  rw [call_of_request hrequest, Session.perform] at hreply ⊢
  rcases hexec : (a.execute request).exec s.world with ⟨f | c', w⟩
  · rw [hexec] at hreply
    cases hreply
  · rw [hexec] at hreply
    cases hreply
    exact ⟨w, rfl, rfl⟩

/-! ## Passing files -/

/-- Passing a file of a cursor that has none left changes nothing. -/
theorem call_next_nil {j : Nat} {c : Cursor η} (hc : s.cursors[j]? = some c)
    (hnone : c.remaining = []) : a.call s (.next j) = (.ok (.record none), s) := by
  have hsame : s.cursors.set j c = s.cursors := by
    obtain ⟨hlt, rfl⟩ := List.getElem?_eq_some_iff.mp hc
    exact List.set_getElem_self hlt
  simp only [call, hc, next, Cursor.advance_of_remaining_nil hnone, Session.setCursor, hsame,
    Session.perform, Op.pure_exec, hnone, Session.addRecords, List.zip_nil_left, List.append_nil]

/-- Passing a file that has a record gives this record. -/
theorem call_next_ok {j : Nat} {c : Cursor η} {h : η} {rest : List η} {r : Record σ} {w : World σ}
    (hc : s.cursors[j]? = some c) (hleft : c.remaining = h :: rest)
    (hrecord : (a.record c h).exec s.world = (.ok r, w)) :
    a.call s (.next j) = (.ok (.record (some r)),
      { s with world := w, cursors := s.cursors.set j c.advance.2,
               records := s.records ++ [(h, r)] }) := by
  have hstep := (Cursor.advance_of_remaining_cons hleft).1
  simp only [call, hc, next]
  rw [hstep]
  simp only [Session.setCursor, Session.perform, Op.map_exec, hrecord, Except.map, hleft,
    Session.addRecords, Option.toList, List.zip_cons_cons, List.zip_nil_right]

/-- Passing a file that has no record passes it all the same. -/
theorem call_next_error {j : Nat} {c : Cursor η} {h : η} {rest : List η} {f : Fault} {w : World σ}
    (hc : s.cursors[j]? = some c) (hleft : c.remaining = h :: rest)
    (hrecord : (a.record c h).exec s.world = (.error f, w)) :
    a.call s (.next j) =
      (.error f, { s with world := w, cursors := s.cursors.set j c.advance.2 }) := by
  have hstep := (Cursor.advance_of_remaining_cons hleft).1
  simp only [call, hc, next]
  rw [hstep]
  simp only [Session.setCursor, Session.perform, Op.map_exec, hrecord, Except.map]

/-! ## Cursors -/

/-- What a call makes of a cursor. -/
def turned (a : Adapter σ η) (w : World σ) (j : Nat) (c : Cursor η) : Session.Call σ → Cursor η
  | .next k => if k = j then c.advance.2 else c
  | .iterate k => if k = j then (a.drain c w).2.1 else c
  | .close k => if k = j then c.close else c
  | _ => c

/-- A call that is for no cursor only extends the session. -/
theorem call_extends (a : Adapter σ η) (s : Session σ η) {x : Session.Call σ} (hx : x.cursor? = none) :
    s.Extends (a.call s x).2 := by
  have hsame : s.Extends s := Session.extends_of_eq rfl rfl
  cases x with
  | execute request => exact s.extends_perform _ _ Session.extends_addCursor
  | copy request i =>
    rw [call]
    cases s.records[i]? with
    | none => exact hsame
    | some p => exact s.extends_perform _ _ Session.extends_addCursor
  | row i columns maxChars =>
    rw [call]
    cases s.records[i]? with
    | none => exact hsame
    | some p => exact s.extends_perform _ _ fun s row => Session.extends_of_eq rfl rfl
  | openStream i =>
    rw [call]
    cases s.records[i]? with
    | none => exact hsame
    | some p => exact s.extends_perform _ _ fun s stream => Session.extends_of_eq rfl rfl
  | read i n room =>
    rw [call]
    cases s.streams[i]? with
    | none => exact hsame
    | some stream => exact Session.extends_of_eq rfl rfl
  | meanwhile change => exact Session.extends_of_eq rfl rfl
  | next k => cases hx
  | iterate k => cases hx
  | close k => cases hx

/-- The cursors after passing a file. -/
theorem cursors_next {k : Nat} {c : Cursor η} (hc : s.cursors[k]? = some c) :
    (a.call s (.next k)).2.cursors = s.cursors.set k c.advance.2 := by
  cases hleft : c.remaining with
  | nil =>
    obtain ⟨hlt, rfl⟩ := List.getElem?_eq_some_iff.mp hc
    rw [call_next_nil hc hleft, Cursor.advance_of_remaining_nil hleft, List.set_getElem_self hlt]
  | cons h rest =>
    rcases hrecord : (a.record c h).exec s.world with ⟨f | r, w⟩
    · rw [call_next_error hc hleft hrecord]
    · rw [call_next_ok hc hleft hrecord]

/-- The cursors after passing all files that are left. -/
theorem cursors_iterate {k : Nat} {c : Cursor η} (hc : s.cursors[k]? = some c) :
    (a.call s (.iterate k)).2.cursors = s.cursors.set k (a.drain c s.world).2.1 := by
  rw [call, hc]
  simp only
  rcases a.drain c s.world with ⟨f | rs, after, w⟩
  · rfl
  · rfl

/-- A call for a cursor changes the session only if the cursor is there. -/
theorem call_of_no_cursor {x : Session.Call σ} {k : Nat} (hx : x.cursor? = some k)
    (hnone : s.cursors[k]? = none) : a.call s x = (.ok .nothing, s) := by
  cases x with
  | next l =>
    obtain rfl := Option.some.inj hx
    rw [call, hnone]
  | iterate l =>
    obtain rfl := Option.some.inj hx
    rw [call, hnone]
  | close l =>
    obtain rfl := Option.some.inj hx
    rw [call, hnone]
  | _ => cases hx

/-- The cursors after a call for one of them: this one is what the call makes of it. -/
theorem cursors_of_cursor? {x : Session.Call σ} {k : Nat} {c : Cursor η} (hx : x.cursor? = some k)
    (hc : s.cursors[k]? = some c) :
    (a.call s x).2.cursors = s.cursors.set k (a.turned s.world k c x) := by
  cases x with
  | next l =>
    obtain rfl := Option.some.inj hx
    rw [cursors_next hc, turned, if_pos rfl]
  | iterate l =>
    obtain rfl := Option.some.inj hx
    rw [cursors_iterate hc, turned, if_pos rfl]
  | close l =>
    obtain rfl := Option.some.inj hx
    rw [call, hc, turned, if_pos rfl]
    rfl
  | _ => cases hx

/-- A call for another cursor, or for none, makes nothing of a cursor. -/
theorem turned_of_ne {w : World σ} {j : Nat} {c : Cursor η} {x : Session.Call σ}
    (hx : x.cursor? ≠ some j) : a.turned w j c x = c := by
  cases x with
  | next k => exact if_neg fun hk => hx (congrArg some hk)
  | iterate k => exact if_neg fun hk => hx (congrArg some hk)
  | close k => exact if_neg fun hk => hx (congrArg some hk)
  | _ => rfl

/-- **Cursors, one call.** What a call makes of a cursor that is held. -/
theorem cursors_call {j : Nat} {c : Cursor η} (hc : s.cursors[j]? = some c) (x : Session.Call σ) :
    (a.call s x).2.cursors[j]? = some (a.turned s.world j c x) := by
  obtain ⟨hlt, -⟩ := List.getElem?_eq_some_iff.mp hc
  by_cases hj : x.cursor? = some j
  · rw [cursors_of_cursor? hj hc, List.getElem?_set_self hlt]
  rw [turned_of_ne hj]
  cases hx : x.cursor? with
  | none => exact (a.call_extends s hx).cursor hc
  | some k =>
    have hk : k ≠ j := fun h => hj (by rw [hx, h])
    cases hother : s.cursors[k]? with
    | none => rw [call_of_no_cursor hx hother, hc]
    | some d => rw [cursors_of_cursor? hx hother, List.getElem?_set_ne hk, hc]

/-- How many files of a cursor a call passes. -/
def passes (a : Adapter σ η) (w : World σ) (j : Nat) (c : Cursor η) : Session.Call σ → Nat
  | .next k => if k = j then 1 else 0
  | .iterate k => if k = j then a.laps c w else 0
  | _ => 0

/-- A call passes the first files that are left of a cursor, or closes it. -/
theorem turned_cases (a : Adapter σ η) (w : World σ) (j : Nat) (c : Cursor η) (x : Session.Call σ) :
    let after := a.turned w j c x
    after.kind = c.kind ∧ after.metadata = c.metadata ∧
      after.remaining = (if x.isClose j then [] else c.remaining.drop (a.passes w j c x)) ∧
      (c.exhausted = true → after.exhausted = true) := by
  have hsame : c.kind = c.kind ∧ c.metadata = c.metadata ∧ c.remaining = c.remaining.drop 0 ∧
      (c.exhausted = true → c.exhausted = true) := ⟨rfl, rfl, List.drop_zero.symm, fun h => h⟩
  cases x with
  | next k =>
    rw [turned, passes]
    split
    · refine ⟨c.kind_advance, c.metadata_advance, ?_, Cursor.exhausted_advance⟩
      rw [(Cursor.advance_eq c).2, List.drop_one]
      rfl
    · exact hsame
  | iterate k =>
    rw [turned, passes]
    split
    · obtain ⟨hkind, hmeta, -, hexhausted⟩ := a.drain_cursor c w
      exact ⟨hkind, hmeta, a.remaining_drain c w, hexhausted⟩
    · exact hsame
  | close k =>
    rw [turned, Session.Call.isClose]
    by_cases hk : k = j
    · rw [if_pos hk, if_pos (beq_iff_eq.mpr hk)]
      exact ⟨rfl, rfl, c.remaining_close, fun _ => rfl⟩
    · rw [if_neg hk, if_neg (by simpa using hk)]
      exact hsame
  | _ => exact hsame

/-- How many files of a cursor some calls pass. -/
def passed (a : Adapter σ η) (j : Nat) : Session σ η → List (Session.Call σ) → Nat
  | _, [] => 0
  | s, x :: rest =>
    ((s.cursors[j]?.map fun c => a.passes s.world j c x).getD 0) + a.passed j (a.call s x).2 rest

/-- **Cursors.** After some calls, a cursor has the files left that they did not pass, in the same order;
once it is closed it has none. -/
theorem cursors_calls {j : Nat} {c : Cursor η} (hc : s.cursors[j]? = some c) (calls : List (Session.Call σ)) :
    ∃ after, (a.calls s calls).cursors[j]? = some after ∧ after.kind = c.kind ∧
      after.metadata = c.metadata ∧
      after.remaining = (if calls.any (Session.Call.isClose j) then []
        else c.remaining.drop (a.passed j s calls)) ∧
      (c.exhausted = true → after.exhausted = true) := by
  induction calls generalizing s c with
  | nil => exact ⟨c, hc, rfl, rfl, rfl, fun h => h⟩
  | cons x rest ih =>
    obtain ⟨hkind, hmeta, hleft, hexhausted⟩ := a.turned_cases s.world j c x
    obtain ⟨after, hafter, hkind', hmeta', hleft', hexhausted'⟩ := ih (a.cursors_call hc x)
    refine ⟨after, hafter, hkind'.trans hkind, hmeta'.trans hmeta, ?_,
      fun h => hexhausted' (hexhausted h)⟩
    rw [hleft', hleft, List.any_cons, passed, hc, Option.map_some, Option.getD_some]
    cases x.isClose j with
    | true => simp
    | false => simp [List.drop_drop]

/-! ## Records -/

/-- Whether a record is that of a file: it has its name and stands for its contents. -/
def IsRecordOf (a : Adapter σ η) (h : η) (r : Record σ) : Prop :=
  r.name = a.store.name h ∧ ∃ kind length ticket, r.content = a.contentOf h kind length ticket

/-- The record that is made of a file is that of the file. -/
theorem isRecordOf_record {a : Adapter σ η} {c : Cursor η} {h : η} {r : Record σ} {w w' : World σ}
    (hrecord : (a.record c h).exec w = (.ok r, w')) : a.IsRecordOf h r := by
  obtain ⟨hname, -, length, ticket, hcontent⟩ := a.record_eq_ok c h w hrecord
  exact ⟨hname, c.kind, length, ticket, hcontent⟩

/-- Passing all files that are left gives the records of these files, in the same order. -/
theorem isRecordOf_drain (a : Adapter σ η) (c : Cursor η) (w : World σ) {rs : List (Record σ)}
    (hrs : (a.drain c w).1 = .ok rs) : ∀ p ∈ c.remaining.zip rs, a.IsRecordOf p.1 p.2 := by
  induction c, w using drain_induction (a := a) generalizing rs with
  | nil c w hnone =>
    rw [hnone]
    intro p hp
    cases hp
  | error c w h rest f w' hleft hrecord =>
    rw [drain_error hleft hrecord] at hrs
    simp only at hrs
    split at hrs
    · obtain rfl := Except.ok.inj hrs
      rw [List.zip_nil_right]
      intro p hp
      cases hp
    · cases hrs
  | ok c w h rest r w' hleft hrecord ih =>
    intro p hp
    rw [drain_ok hleft hrecord] at hrs
    obtain ⟨more, hmore, rfl⟩ := Outcome.map_eq_ok hrs
    rw [hleft, List.zip_cons_cons, List.mem_cons] at hp
    rcases hp with rfl | hp
    · exact isRecordOf_record hrecord
    · rw [← (Cursor.advance_of_remaining_cons hleft).2] at hp
      exact ih hmore p hp

/-- Passing a file adds its record at most. -/
theorem records_next {k : Nat} {c : Cursor η} (hc : s.cursors[k]? = some c) :
    ∃ new, (a.call s (.next k)).2.records = s.records ++ new ∧ ∀ p ∈ new, a.IsRecordOf p.1 p.2 := by
  have hnone : s.records = s.records ++ [] ∧ ∀ p ∈ ([] : List (η × Record σ)), a.IsRecordOf p.1 p.2 :=
    ⟨(List.append_nil _).symm, fun p hp => by cases hp⟩
  cases hleft : c.remaining with
  | nil =>
    rw [call_next_nil hc hleft]
    exact ⟨[], hnone⟩
  | cons h rest =>
    rcases hrecord : (a.record c h).exec s.world with ⟨f | r, w⟩
    · rw [call_next_error hc hleft hrecord]
      exact ⟨[], hnone⟩
    · rw [call_next_ok hc hleft hrecord]
      refine ⟨[(h, r)], rfl, fun p hp => ?_⟩
      obtain rfl := List.mem_singleton.mp hp
      exact isRecordOf_record hrecord

/-- Passing all files that are left adds their records, or none. -/
theorem records_iterate {k : Nat} {c : Cursor η} (hc : s.cursors[k]? = some c) :
    ∃ new, (a.call s (.iterate k)).2.records = s.records ++ new ∧
      ∀ p ∈ new, a.IsRecordOf p.1 p.2 := by
  rw [call, hc]
  simp only
  rcases hdrain : a.drain c s.world with ⟨f | rs, after, w⟩
  · exact ⟨[], (List.append_nil _).symm, fun p hp => by cases hp⟩
  · exact ⟨_, rfl, a.isRecordOf_drain c s.world (congrArg Prod.fst hdrain)⟩

/-- **Records, one call.** A call keeps the records that are held, and adds records of files. -/
theorem records_call (a : Adapter σ η) (s : Session σ η) (x : Session.Call σ) :
    ∃ new, (a.call s x).2.records = s.records ++ new ∧ ∀ p ∈ new, a.IsRecordOf p.1 p.2 := by
  -- most calls add none
  have hsame {t : Session σ η} (h : t.records = s.records) :
      ∃ new, t.records = s.records ++ new ∧ ∀ p ∈ new, a.IsRecordOf p.1 p.2 :=
    ⟨[], by rw [h, List.append_nil], fun p hp => by cases hp⟩
  cases hx : x.cursor? with
  | none => exact hsame (a.call_extends s hx).records
  | some k =>
    cases hc : s.cursors[k]? with
    | none => exact hsame (by rw [call_of_no_cursor hx hc])
    | some c =>
      cases x with
      | next l =>
        obtain rfl := Option.some.inj hx
        exact records_next hc
      | iterate l =>
        obtain rfl := Option.some.inj hx
        exact records_iterate hc
      | close l =>
        obtain rfl := Option.some.inj hx
        exact hsame (by rw [call, hc]; rfl)
      | _ => cases hx

/-- **Records.** Calls keep the records that are held, and add records of files. -/
theorem records_calls (a : Adapter σ η) (s : Session σ η) (calls : List (Session.Call σ)) :
    ∃ new, (a.calls s calls).records = s.records ++ new ∧ ∀ p ∈ new, a.IsRecordOf p.1 p.2 := by
  induction calls generalizing s with
  | nil => exact ⟨[], (List.append_nil _).symm, fun p hp => by cases hp⟩
  | cons x rest ih =>
    obtain ⟨first, hfirst, hof⟩ := a.records_call s x
    obtain ⟨more, hmore, hof'⟩ := ih (a.call s x).2
    refine ⟨first ++ more, ?_, fun p hp => ?_⟩
    · rw [calls_cons, hmore, hfirst, List.append_assoc]
    · rcases List.mem_append.mp hp with hp | hp
      · exact hof p hp
      · exact hof' p hp

end Adapter

end FileDepot
