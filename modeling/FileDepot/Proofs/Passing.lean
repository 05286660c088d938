import FileDepot.Proofs.Session
import FileDepot.Store.Scripted

/-!
# Passing the files of a cursor

Whatever else happens in a session, the calls for the next file of a cursor concern its files one after the
other, each once. A file that has no record is passed like any other, and where no file is left nothing
happens any more (`cursor_passes`).

* **loop** — `Adapter.drain_eq_loop`: passing all files that are left is a loop over such calls;
* **close** — `Adapter.replies_setCursor`: calls that pass no file of a cursor do not notice that it is
  closed.
-/

namespace FileDepot

variable {σ η : Type}

namespace Session

variable {α : Type}

/-- An operation does not notice that a cursor is another one if keeping its value does not. -/
theorem perform_setCursor (s : Session σ η) (j : Nat) (d : Cursor η) (op : Op σ α)
    (reply : α → Reply σ η) {keep : Session σ η → α → Session σ η}
    (hkeep : ∀ w x, keep ({ s with world := w }.setCursor j d) x =
      (keep { s with world := w } x).setCursor j d) :
    (s.setCursor j d).perform op reply keep =
      ((s.perform op reply keep).1, (s.perform op reply keep).2.setCursor j d) := by
  have hworld : (s.setCursor j d).world = s.world := rfl
  rw [perform, perform, hworld]
  rcases op.exec s.world with ⟨f | x, w⟩
  · rfl
  · exact Prod.ext rfl (hkeep w x)

theorem addCursor_setCursor {s : Session σ η} {j : Nat} (hj : j < s.cursors.length) (w : World σ)
    (d c : Cursor η) : ({ s with world := w }.setCursor j d).addCursor c =
      ({ s with world := w }.addCursor c).setCursor j d := by
  simp only [addCursor, setCursor, List.set_append_left j d hj]

theorem setCursor_comm (s : Session σ η) {j k : Nat} (h : k ≠ j) (c d : Cursor η) :
    (s.setCursor j d).setCursor k c = (s.setCursor k c).setCursor j d := by
  simp only [setCursor, List.set_comm d c h.symm]

end Session

namespace Adapter

variable {a : Adapter σ η} {s : Session σ η} {j : Nat} {c : Cursor η}

/-! ## Loops -/

/-- What a loop over files makes of the replies to its calls: all the records, up to a fault. -/
def gather : List (Except Fault (Session.Reply σ η)) → Except Fault (List (Record σ))
  | .ok (.record (some r)) :: rest => (gather rest).map (r :: ·)
  | .error f :: _ => if f.endsListing then .ok [] else .error f
  | _ => .ok []

/-- **Loop.** Passing all files that are left is a loop over calls for the next one. It stops early only at
a fault. -/
theorem drain_eq_loop (a : Adapter σ η) (c : Cursor η) (w : World σ) (hw : s.world = w)
    (hc : s.cursors[j]? = some c) :
    let loop := List.replicate (a.laps c w) (Session.Call.next j)
    let (outcome, after, w') := a.drain c w
    gather (a.replies s loop) = outcome ∧ (a.calls s loop).world = w' ∧
      (a.calls s loop).cursors = s.cursors.set j after ∧
      (a.laps c w = c.remaining.length ∨ ∃ f, (a.replies s loop).getLast? = some (.error f)) := by
  induction c, w using drain_induction (a := a) generalizing s with
  | nil c w hnone =>
    obtain ⟨hlt, rfl⟩ := List.getElem?_eq_some_iff.mp hc
    rw [laps_nil hnone, drain_nil hnone]
    exact ⟨rfl, hw, (List.set_getElem_self hlt).symm, .inl (by rw [hnone]; rfl)⟩
  | error c w h rest f w' hleft hrecord =>
    subst hw
    rw [laps_error hleft hrecord, drain_error hleft hrecord]
    simp only [List.replicate_one, replies_cons, replies_nil, calls_cons, calls_nil,
      call_next_error hc hleft hrecord]
    exact ⟨rfl, trivial, trivial, .inr ⟨f, rfl⟩⟩
  | ok c w h rest r w' hleft hrecord ih =>
    subst hw
    have hafter : (s.cursors.set j c.advance.2)[j]? = some c.advance.2 :=
      List.getElem?_set_self (List.getElem?_eq_some_iff.mp hc).1
    obtain ⟨hgather, hworld, hcursors, hstop⟩ :=
      ih (s := { s with world := w', cursors := s.cursors.set j c.advance.2,
                        records := s.records ++ [(h, r)] }) rfl hafter
    rw [laps_ok hleft hrecord, drain_ok hleft hrecord]
    simp only [List.replicate_succ, replies_cons, calls_cons, call_next_ok hc hleft hrecord, gather]
    refine ⟨by rw [hgather], hworld, by rw [hcursors, List.set_set], ?_⟩
    rcases hstop with hall | ⟨f, hf⟩
    · left
      rw [hall, hleft, (Cursor.advance_of_remaining_cons hleft).2, List.length_cons]
    · right
      refine ⟨f, ?_⟩
      rw [List.getLast?_cons, hf]
      rfl

/-- **Loop.** The call that passes all files that are left does what a loop over calls for the next one
does. -/
theorem call_iterate (hc : s.cursors[j]? = some c) :
    let loop := List.replicate (a.laps c s.world) (Session.Call.next j)
    (a.call s (.iterate j)).1 = (gather (a.replies s loop)).map .records ∧
      (a.call s (.iterate j)).2.world = (a.calls s loop).world ∧
      (a.call s (.iterate j)).2.cursors = (a.calls s loop).cursors := by
  obtain ⟨hgather, hworld, hcursors, -⟩ := a.drain_eq_loop c s.world rfl hc
  simp only [call, hc]
  rw [hgather, hworld, hcursors]
  rcases a.drain c s.world with ⟨f | rs, after, w⟩
  · exact ⟨rfl, rfl, rfl⟩
  · exact ⟨rfl, rfl, rfl⟩

/-! ## Closing -/

/-- A call that is for no cursor does not notice that one of them is another one. -/
theorem call_setCursor_of_none (hj : j < s.cursors.length) (d : Cursor η) {x : Session.Call σ}
    (hx : x.cursor? = none) :
    a.call (s.setCursor j d) x = ((a.call s x).1, (a.call s x).2.setCursor j d) := by
  have hrecords : (s.setCursor j d).records = s.records := rfl
  have hstreams : (s.setCursor j d).streams = s.streams := rfl
  cases x with
  | execute request => exact s.perform_setCursor j d _ _ fun w => Session.addCursor_setCursor hj w d
  | copy request i =>
    rw [call, call, hrecords]
    cases s.records[i]? with
    | none => rfl
    | some p => exact s.perform_setCursor j d _ _ fun w => Session.addCursor_setCursor hj w d
  | row i columns maxChars =>
    rw [call, call, hrecords]
    cases s.records[i]? with
    | none => rfl
    | some p => exact s.perform_setCursor j d _ _ fun w row => rfl
  | openStream i =>
    rw [call, call, hrecords]
    cases s.records[i]? with
    | none => rfl
    | some p => exact s.perform_setCursor j d _ _ fun w stream => rfl
  | read i n room =>
    rw [call, call, hstreams]
    cases s.streams[i]? with
    | none => rfl
    | some stream => rfl
  | meanwhile change => rfl
  | next k => cases hx
  | iterate k => cases hx
  | close k => cases hx

/-- A call for a cursor does not notice that a cursor beside it is another one. -/
theorem call_setCursor_of_ne (d : Cursor η) {x : Session.Call σ} {k : Nat} (hx : x.cursor? = some k)
    (hk : k ≠ j) : a.call (s.setCursor j d) x = ((a.call s x).1, (a.call s x).2.setCursor j d) := by
  have hother : (s.setCursor j d).cursors[k]? = s.cursors[k]? := List.getElem?_set_ne hk.symm
  have hworld : (s.setCursor j d).world = s.world := rfl
  cases hc : s.cursors[k]? with
  | none => rw [call_of_no_cursor hx hc, call_of_no_cursor hx (hother.trans hc)]
  | some c =>
    cases x with
    | next l =>
      obtain rfl := Option.some.inj hx
      rw [call, call, hother, hc]
      simp only [s.setCursor_comm hk]
      exact Session.perform_setCursor _ j d _ _ fun w r => rfl
    | iterate l =>
      obtain rfl := Option.some.inj hx
      rw [call, call, hother, hc, hworld]
      simp only
      rcases a.drain c s.world with ⟨f | rs, after, w⟩
      · exact Prod.ext rfl (Session.setCursor_comm { s with world := w } hk after d)
      · exact Prod.ext rfl (congrArg (Session.addRecords · c.remaining rs)
          (Session.setCursor_comm { s with world := w } hk after d))
    | close l =>
      obtain rfl := Option.some.inj hx
      rw [call, call, hother, hc]
      exact Prod.ext rfl (s.setCursor_comm hk c.close d)
    | _ => cases hx

/-- Closing a cursor replies nothing, whatever the cursor is. -/
theorem call_close_setCursor (hj : j < s.cursors.length) (d : Cursor η) :
    a.call (s.setCursor j d) (.close j) =
      ((a.call s (.close j)).1, (a.call s (.close j)).2.setCursor j d.close) := by
  have hcursor : (s.setCursor j d).cursors[j]? = some d := List.getElem?_set_self hj
  rw [call, call, hcursor, List.getElem?_eq_getElem hj]
  simp [Session.setCursor]

/-- A call that passes no file of a cursor does not notice that it is another one. -/
theorem call_setCursor (hj : j < s.cursors.length) (d : Cursor η) {x : Session.Call σ}
    (hx : x.isPass j = false) :
    ∃ d', a.call (s.setCursor j d) x = ((a.call s x).1, (a.call s x).2.setCursor j d') := by
  cases hcursor : x.cursor? with
  | none => exact ⟨d, call_setCursor_of_none hj d hcursor⟩
  | some k =>
    by_cases hk : k = j
    · subst hk
      -- the only call for it that passes no file closes it
      cases x with
      | close l =>
        obtain rfl := Option.some.inj hcursor
        exact ⟨d.close, call_close_setCursor hj d⟩
      | next l => simp [Session.Call.isPass, Option.some.inj hcursor] at hx
      | iterate l => simp [Session.Call.isPass, Option.some.inj hcursor] at hx
      | _ => cases hcursor
    · exact ⟨d, call_setCursor_of_ne d hcursor hk⟩

/-- **Close.** Calls that pass no file of a cursor reply the same whatever it is. -/
theorem replies_setCursor (hc : s.cursors[j]? = some c) (d : Cursor η) {calls : List (Session.Call σ)}
    (hcalls : ∀ x ∈ calls, x.isPass j = false) :
    a.replies (s.setCursor j d) calls = a.replies s calls := by
  induction calls generalizing s c d with
  | nil => rfl
  | cons x rest ih =>
    have hj := (List.getElem?_eq_some_iff.mp hc).1
    obtain ⟨d', hcall⟩ := a.call_setCursor hj d (hcalls x (List.mem_cons_self ..))
    rw [replies_cons, replies_cons, hcall,
      ih (a.cursors_call hc x) d' fun y hy => hcalls y (List.mem_cons_of_mem _ hy)]

/-- What calls make of a cursor that has some files left. -/
structure PassesOn (a : Adapter σ η) (s : Session σ η) (j : Nat) (c : Cursor η) (left : List η) :
    Prop where
  /-- the call for the next file gives the record of the first one that is left -/
  gives : ∀ h rest r w, left = h :: rest → (a.record c h).exec s.world = (.ok r, w) →
    a.IsRecordOf h r ∧ c.advance.2.remaining = rest ∧ a.call s (.next j) =
      (.ok (.record (some r)), { s with world := w, cursors := s.cursors.set j c.advance.2,
                                        records := s.records ++ [(h, r)] })
  /-- if that file has no record, the call tells why, and passes this file alone -/
  fails : ∀ h rest f w, left = h :: rest → (a.record c h).exec s.world = (.error f, w) →
    c.advance.2.remaining = rest ∧ a.call s (.next j) =
      (.error f, { s with world := w, cursors := s.cursors.set j c.advance.2 })
  /-- metadata that the system cannot read are told as such -/
  unreadable : ∀ h f w, c.metadata = true → Unreadable a h (a.passing h s.world) f w →
    f.isSystem = true → (a.record c h).exec s.world = (.error (.unreadable (a.store.path h) f), w) ∧
      (Fault.unreadable (a.store.path h) f).family = .storage
  /-- when no file is left, the call gives nothing and does nothing -/
  ends : left = [] → a.call s (.next j) = (.ok (.record none), s)
  /-- passing all files that are left is a loop over such calls, which stops early only at a fault -/
  loops : let loop := List.replicate (a.laps c s.world) (Session.Call.next j)
    (a.call s (.iterate j)).1 = (gather (a.replies s loop)).map .records ∧
      (a.call s (.iterate j)).2.world = (a.calls s loop).world ∧
      (a.call s (.iterate j)).2.cursors = (a.calls s loop).cursors ∧
      (a.laps c s.world = left.length ∨ ∃ f, (a.replies s loop).getLast? = some (.error f))
  /-- a listing is exhausted when no file is left -/
  exhausted : c.kind.isListing = true → (c.exhausted = true ↔ left = [])
  /-- what is exhausted stays so -/
  stays : c.exhausted = true → ∀ more, ∃ after, (a.calls s more).cursors[j]? = some after ∧
    after.exhausted = true
  /-- closing once is enough -/
  closes : a.call s (.close j) = (.ok .nothing, s.setCursor j c.close) ∧
    a.call (s.setCursor j c.close) (.close j) = (.ok .nothing, s.setCursor j c.close)
  /-- calls that pass no file do not notice that the cursor is closed -/
  unnoticed : ∀ more, (∀ x ∈ more, x.isPass j = false) →
    a.replies (s.setCursor j c.close) more = a.replies s more

theorem passesOn (hc : s.cursors[j]? = some c) : a.PassesOn s j c c.remaining where
  gives h rest r w hleft hrecord :=
    ⟨isRecordOf_record hrecord, (Cursor.advance_of_remaining_cons hleft).2,
      call_next_ok hc hleft hrecord⟩
  fails h rest f w hleft hrecord :=
    ⟨(Cursor.advance_of_remaining_cons hleft).2, call_next_error hc hleft hrecord⟩
  unreadable h f w hmeta hunreadable hsystem := by
    obtain ⟨hfault, hfamily⟩ := family_metadataFault hsystem (a.store.path h)
    rw [record_of_unreadable hmeta hunreadable, hfault]
    exact ⟨rfl, rfl⟩
  ends hnone := call_next_nil hc hnone
  loops := by
    obtain ⟨hreply, hworld, hcursors⟩ := a.call_iterate hc
    exact ⟨hreply, hworld, hcursors, (a.drain_eq_loop c s.world rfl hc).2.2.2⟩
  exhausted hkind := Cursor.exhausted_iff hkind
  stays hexhausted more := by
    obtain ⟨after, hafter, -, -, -, hstays⟩ := a.cursors_calls hc more
    exact ⟨after, hafter, hstays hexhausted⟩
  closes := by
    have hclosed : (s.setCursor j c.close).cursors[j]? = some c.close :=
      List.getElem?_set_self (List.getElem?_eq_some_iff.mp hc).1
    have hagain : (s.setCursor j c.close).setCursor j c.close.close = s.setCursor j c.close := by
      simp only [Session.setCursor, List.set_set]
      rfl
    constructor
    · rw [call, hc]
    · rw [call, hclosed]
      exact Prod.ext rfl hagain
  unnoticed more hmore := replies_setCursor hc c.close hmore

end Adapter

/-- **Passing files.** After any calls, a cursor has the files left that they did not pass, in the same
order, unless one of them closed it; a cursor without a listing has none. So the calls for the next file
concern the files of a listing one after the other. -/
theorem cursor_passes (a : Adapter σ η) {s : Session σ η} {j : Nat} {kind : Kind} {metadata : Bool}
    {files : List η} (hc : s.cursors[j]? = some ⟨kind, metadata, files, 0, false⟩)
    (calls : List (Session.Call σ)) :
    let left := if kind.isListing && !calls.any (Session.Call.isClose j)
      then files.drop (a.passed j s calls) else []
    ∃ c, (a.calls s calls).cursors[j]? = some c ∧ c.kind = kind ∧ c.metadata = metadata ∧
      (files = [] → c.exhausted = true) ∧ a.PassesOn (a.calls s calls) j c left := by
  intro left
  obtain ⟨c, hafter, hkind, hmeta, hleft, hexhausted⟩ := a.cursors_calls hc calls
  have hsame : c.remaining = left := by
    have hstart : Cursor.remaining ⟨kind, metadata, files, 0, false⟩ =
        if kind.isListing then files else [] := by
      rw [Cursor.remaining, Bool.not_false, Bool.and_true, List.drop_zero]
    rw [hleft, hstart]
    simp only [left]
    cases kind.isListing with
    | true => cases calls.any (Session.Call.isClose j) <;> rfl
    | false => simp
  refine ⟨c, hafter, hkind, hmeta, fun hnone => hexhausted ?_, hsame ▸ a.passesOn hafter⟩
  rw [hnone]
  rfl

/-- A store of three files, of which the second has no size that can be read. -/
def threeFiles : Script :=
  ⟨[⟨"a", [1], ⟨0⟩, none, none⟩, ⟨"b", [2], ⟨0⟩, none, some (.size, .given (.system .other) "gone")⟩,
    ⟨"c", [3], ⟨0⟩, none, none⟩], none, none, none, none, true⟩

/-- A file without a size is passed, and the file after it is not. -/
theorem cursor_passes_broken :
    let a : Adapter (List Call) ScriptedFile := ⟨threeFiles.store, ⟨.utf8, true⟩⟩
    let s := a.calls ⟨.fresh [], [], [], []⟩ [.execute (some ⟨.listBinary, some "*", none, ["size"]⟩)]
    let t := a.calls s [.next 0]
    s.cursors[0]? = some ⟨.listBinary, true, threeFiles.files, 0, false⟩ ∧
      (a.call t (.next 0)).1 = .error (.unreadable "b" (.given (.system .other) "gone")) ∧
      ∃ r, (a.call (a.call t (.next 0)).2 (.next 0)).1 = .ok (.record (some r)) ∧ r.name = "c" := by
  intro a s t
  have hc : s.cursors[0]? = some ⟨.listBinary, true, threeFiles.files, 0, false⟩ := by
    decide +kernel
  have hpassed : a.passed 0 s [.next 0] = 1 ∧ a.passed 0 s [.next 0, .next 0] = 2 := by
    decide +kernel
  refine ⟨hc, ?_, ?_⟩
  · -- the second file has no record
    obtain ⟨c, -, -, hmeta, -, hpasses⟩ := cursor_passes a hc [.next 0]
    rw [hpassed.1] at hpasses
    let h : ScriptedFile :=
      ⟨"b", [2], ⟨0⟩, none, some (.size, .given (.system .other) "gone")⟩
    obtain ⟨w, hunreadable⟩ : ∃ w, Adapter.Unreadable a h (a.passing h t.world)
        (.given (.system .other) "gone") w := ⟨_, .size rfl rfl rfl⟩
    have hrecord := (hpasses.unreadable _ _ w hmeta hunreadable rfl).1
    exact congrArg Prod.fst (hpasses.fails _ _ _ w rfl hrecord).2
  · obtain ⟨⟨_, _, _, _, _⟩, -, rfl, rfl, -, hpasses⟩ := cursor_passes a hc [.next 0, .next 0]
    rw [hpassed.2] at hpasses
    obtain ⟨⟨hname, -⟩, -, hcall⟩ := hpasses.gives _ _ _ _ rfl rfl
    exact ⟨_, congrArg Prod.fst hcall, hname⟩

end FileDepot
