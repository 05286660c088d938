import FileDepot.Proofs.Frame
import FileDepot.Proofs.Session

/-!
# Tickets for contents

Contents are opened by ticket, and a ticket that was never issued is not redeemed (`World.Sound`). A store
that leaves tickets alone keeps this in every session (`Adapter.fair_calls`): a record that a call gives has a
new ticket, and calls redeem the tickets of records that are held.
-/

namespace FileDepot

variable {σ η α β : Type}

/-! ## Worlds -/

namespace World

/-- Every ticket that is redeemed was issued, so that the next one is not redeemed. -/
def Sound (w : World σ) : Prop := ∀ k ∈ w.redeemed, k < w.issued

theorem sound_fresh (store : σ) : (World.fresh store).Sound := fun k hk => by cases hk

theorem Sound.not_mem {w : World σ} (h : w.Sound) : w.issued ∉ w.redeemed := fun hk =>
  Nat.lt_irrefl _ (h _ hk)

/-- A world stays sound when it issues a ticket and redeems it. -/
theorem Sound.redeem {w : World σ} (h : w.Sound) (store : σ) (notes : List Note) :
    (⟨store, notes, w.issued + 1, w.issued :: w.redeemed⟩ : World σ).Sound := by
  intro k hk
  rcases List.mem_cons.mp hk with rfl | hk
  · exact Nat.lt_succ_self _
  · exact Nat.lt_succ_of_lt (h k hk)

/-- Between two worlds, no ticket is withdrawn, and none but the given ones are redeemed. -/
structure Redeems (tickets : List Nat) (w w' : World σ) : Prop where
  /-- no ticket is withdrawn -/
  issued : w.issued ≤ w'.issued
  /-- only the given tickets are redeemed -/
  redeemed : ∀ k ∈ w'.redeemed, k ∈ w.redeemed ∨ k ∈ tickets

namespace Redeems

variable {tickets : List Nat} {w w₁ w₂ : World σ}

theorem refl (tickets : List Nat) (w : World σ) : Redeems tickets w w :=
  ⟨Nat.le_refl _, fun _ hk => .inl hk⟩

theorem trans (h : Redeems tickets w w₁) (h' : Redeems tickets w₁ w₂) : Redeems tickets w w₂ := by
  refine ⟨Nat.le_trans h.issued h'.issued, fun k hk => ?_⟩
  rcases h'.redeemed k hk with hk | hk
  · exact h.redeemed k hk
  · exact .inr hk

theorem mono (h : Redeems [] w w₁) : Redeems tickets w w₁ :=
  ⟨h.issued, fun k hk => .inl ((h.redeemed k hk).resolve_right (List.not_mem_nil))⟩

/-- Redeeming tickets that were issued leaves a world sound. -/
theorem sound (h : Redeems tickets w w₁) (hw : w.Sound) (htickets : ∀ k ∈ tickets, k < w.issued) :
    w₁.Sound := by
  intro k hk
  refine Nat.lt_of_lt_of_le ?_ h.issued
  rcases h.redeemed k hk with hk | hk
  · exact hw k hk
  · exact htickets k hk

end Redeems

end World

/-! ## Operations -/

namespace Op

variable {tickets : List Nat}

/-- An operation redeems none but the given tickets. -/
def Redeems (tickets : List Nat) (op : Op σ α) : Prop :=
  ∀ w, World.Redeems tickets w (op.exec w).2

theorem redeems_pure (x : α) : Redeems tickets (pure x : Op σ α) := .refl tickets

theorem redeems_fail (f : Fault) : Redeems tickets (fail f : Op σ α) := .refl tickets

theorem redeems_ofExcept (e : Except Fault α) : Redeems tickets (ofExcept e : Op σ α) := fun w => by
  rw [ofExcept_exec]
  exact .refl tickets w

theorem redeems_note (level : Level) (topic : Topic) (text : String) :
    Redeems tickets (note level topic text : Op σ Unit) := fun _ =>
  ⟨Nat.le_refl _, fun _ hk => .inl hk⟩

theorem redeems_ask (question : σ → Except Fault α) : Redeems tickets (ask question) := .refl tickets

theorem redeems_issueTicket : Redeems tickets (issueTicket : Op σ Nat) := fun _ =>
  ⟨Nat.le_succ _, fun _ hk => .inl hk⟩

theorem redeems_onStore (step : σ → Except Fault α × σ) : Redeems tickets (onStore step) := fun _ =>
  ⟨Nat.le_refl _, fun _ hk => .inl hk⟩

theorem Redeems.mono {op : Op σ α} (h : Redeems [] op) : Redeems tickets op := fun w => (h w).mono

theorem Redeems.bind {op : Op σ α} {f : α → Op σ β} (h : Redeems tickets op)
    (hf : ∀ x, Redeems tickets (f x)) : Redeems tickets (op >>= f) := by
  intro w
  have hop := h w
  rw [bind_exec]
  rcases hexec : op.exec w with ⟨fault | x, w₁⟩
  · rw [hexec] at hop
    exact hop
  · rw [hexec] at hop
    exact hop.trans (hf x w₁)

theorem Redeems.mapFault {op : Op σ α} (h : Redeems tickets op) (f : Fault → Fault) :
    Redeems tickets (mapFault f op) := fun w => by
  rw [mapFault_exec]
  exact h w

theorem frame_redeems : Frame fun _ (op : Op σ _) => op.Redeems tickets where
  pure := redeems_pure
  fail := redeems_fail
  note := redeems_note
  bind := Redeems.bind
  mapFault f h := h.mapFault f

theorem Redeems.map {op : Op σ α} (h : Redeems tickets op) (f : α → β) :
    Redeems tickets (f <$> op) := fun w => by
  rw [map_exec]
  exact h w

end Op

/-- A store leaves tickets alone: none of its operations issues or redeems one. -/
structure Store.KeepsTickets (s : Store σ η) : Prop where
  /-- resolving a pattern does not -/
  resolve : ∀ pattern, (s.resolve pattern).Redeems []
  /-- giving contents does not -/
  contents : ∀ h, (s.contents h).Redeems []
  /-- storing contents does not -/
  write : ∀ path content, (s.write path content).Redeems []
  /-- removing a file does not -/
  remove : ∀ path, (s.remove path).Redeems []
  /-- telling the time of the last change does not -/
  modified : ∀ h, (s.modified h).Redeems []
  /-- telling the time a file was made does not -/
  created : ∀ h, (s.created h).Redeems []
  /-- telling a size does not -/
  size : ∀ h, (s.size h).Redeems []

theorem Store.KeepsTickets.has {s : Store σ η} (h : s.KeepsTickets) (tickets : List Nat) :
    s.Has fun _ op => op.Redeems tickets where
  resolve pattern := (h.resolve pattern).mono
  contents x := (h.contents x).mono
  write path content := (h.write path content).mono
  remove path := (h.remove path).mono
  modified x := (h.modified x).mono
  created x := (h.created x).mono
  size x := (h.size x).mono

theorem Memory.store_keepsTickets : Memory.store.KeepsTickets := by
  have h : store.Has fun _ op => op.Redeems [] :=
    store_has Op.frame_redeems Op.redeems_ask Op.redeems_onStore
  exact ⟨h.resolve, h.contents, h.write, h.remove, h.modified, h.created, h.size⟩

/-! ## Large objects -/

namespace Lob

variable {l : Lob σ} {tickets : List Nat}

/-- Taking the bytes redeems the ticket of a large object. -/
theorem redeems_take (hsource : l.source.Redeems []) (hl : l.ticket ∈ tickets) :
    l.take.Redeems tickets := by
  intro w
  rw [take_exec_cases]
  split
  · exact .refl tickets w
  · have hop : World.Redeems tickets w (l.source.exec w).2 := (hsource w).mono
    rcases hexec : l.source.exec w with ⟨f | data, w₁⟩
    · rw [hexec] at hop
      exact hop
    · rw [hexec] at hop
      refine ⟨hop.issued, fun k hk => ?_⟩
      rcases List.mem_cons.mp hk with rfl | hk
      · exact .inr hl
      · exact hop.redeemed k hk

/-- So does opening them. -/
theorem redeems_openStream (hsource : l.source.Redeems []) (hl : l.ticket ∈ tickets) :
    l.openStream.Redeems tickets := fun w => by
  rw [openStream_world]
  exact redeems_take hsource hl w

end Lob

/-- Reading what is to be saved redeems the ticket of a large object, if it is one. -/
theorem Payload.redeems_toReader {payload : Payload σ} {tickets : List Nat}
    (h : ∀ l, payload = .lob l → l.source.Redeems [] ∧ l.ticket ∈ tickets)
    (charset : Encoding.Charset) : (payload.toReader charset).Redeems tickets :=
  frame_toReader Op.frame_redeems (fun l hl => Lob.redeems_take (h l hl).1 (h l hl).2) charset

namespace Adapter

variable {a : Adapter σ η} {tickets : List Nat}

/-- Carrying out a request redeems the ticket of the large object that is saved, if there is one. -/
theorem redeems_execute (ha : a.store.KeepsTickets) {request : Option (Request σ)}
    (h : ∀ r l, request = some r → r.content = some (.lob l) →
      l.source.Redeems [] ∧ l.ticket ∈ tickets) : (a.execute request).Redeems tickets :=
  frame_execute Op.frame_redeems (ha.has tickets) fun r _ hr hpayload =>
    Payload.redeems_toReader (fun l hl => h r l hr (hl ▸ hpayload)) _

/-- Making a record redeems no ticket, and the record has a ticket that was issued. -/
theorem redeems_record (ha : a.store.KeepsTickets) (c : Cursor η) (h : η) :
    (a.record c h).Redeems [] :=
  frame_record Op.frame_redeems (ha.has []) Op.redeems_issueTicket c h

theorem ticket_of_record {c : Cursor η} {h : η} {r : Record σ} {w w' : World σ}
    (hrecord : (a.record c h).exec w = (.ok r, w')) : r.content.ticket < w'.issued := by
  rw [record_exec] at hrecord
  split at hrecord
  · split at hrecord
    · cases hrecord
    · cases hrecord
      exact Nat.lt_succ_self _
  · cases hrecord
    exact Nat.lt_succ_self _

/-- So it is with passing all files that are left. -/
theorem drain_tickets (ha : a.store.KeepsTickets) (c : Cursor η) (w : World σ) :
    World.Redeems [] w (a.drain c w).2.2 ∧
      ∀ rs, (a.drain c w).1 = .ok rs → ∀ r ∈ rs, r.content.ticket < (a.drain c w).2.2.issued := by
  induction c, w using drain_induction (a := a) with
  | nil c w hnone =>
    rw [drain_nil hnone]
    refine ⟨.refl _ w, fun rs hrs r hr => ?_⟩
    obtain rfl := Except.ok.inj hrs
    cases hr
  | error c w h rest f w' hleft hrecord =>
    have hredeems := a.redeems_record ha c h w
    rw [hrecord] at hredeems
    rw [drain_error hleft hrecord]
    refine ⟨hredeems, fun rs hrs r hr => ?_⟩
    simp only at hrs
    split at hrs
    · obtain rfl := Except.ok.inj hrs
      cases hr
    · cases hrs
  | ok c w h rest r w' hleft hrecord ih =>
    have hredeems := a.redeems_record ha c h w
    rw [hrecord] at hredeems
    obtain ⟨hmore, htickets⟩ := ih
    rw [drain_ok hleft hrecord]
    refine ⟨hredeems.trans hmore, fun rs hrs x hx => ?_⟩
    obtain ⟨others, hothers, rfl⟩ := Outcome.map_eq_ok hrs
    rcases List.mem_cons.mp hx with rfl | hx
    · exact Nat.lt_of_lt_of_le (ticket_of_record hrecord) hmore.issued
    · exact htickets others hothers x hx

/-! ## Sessions -/

/-- What a session has is in order: its records are those of files, and their tickets were issued. -/
structure Fair (a : Adapter σ η) (s : Session σ η) : Prop where
  /-- no ticket is redeemed before it is issued -/
  sound : s.world.Sound
  /-- each record is that of its file -/
  records : ∀ p ∈ s.records, a.IsRecordOf p.1 p.2
  /-- its ticket was issued -/
  tickets : ∀ p ∈ s.records, p.2.content.ticket < s.world.issued

/-- A session that has got nothing yet is in order. -/
theorem fair_fresh (a : Adapter σ η) (store : σ) : a.Fair ⟨.fresh store, [], [], []⟩ :=
  ⟨World.sound_fresh store, fun _ hp => absurd hp List.not_mem_nil,
    fun _ hp => absurd hp List.not_mem_nil⟩

/-- What is left in order: tickets of records that are held are redeemed, and new records have new tickets. -/
theorem Fair.step {s t : Session σ η} (h : a.Fair s) (hredeems : World.Redeems tickets s.world t.world)
    (htickets : ∀ k ∈ tickets, k < s.world.issued) (new : List (η × Record σ))
    (hrecords : t.records = s.records ++ new) (hof : ∀ p ∈ new, a.IsRecordOf p.1 p.2)
    (hnew : ∀ p ∈ new, p.2.content.ticket < t.world.issued) : a.Fair t := by
  refine ⟨hredeems.sound h.sound htickets, fun p hp => ?_, fun p hp => ?_⟩
  · rw [hrecords] at hp
    rcases List.mem_append.mp hp with hp | hp
    · exact h.records p hp
    · exact hof p hp
  · rw [hrecords] at hp
    rcases List.mem_append.mp hp with hp | hp
    · exact Nat.lt_of_lt_of_le (h.tickets p hp) hredeems.issued
    · exact hnew p hp

/-- An operation that redeems tickets of records that are held leaves a session in order if keeping its value
does. -/
theorem Fair.perform {s : Session σ η} (h : a.Fair s) {op : Op σ α} (hop : op.Redeems tickets)
    (htickets : ∀ k ∈ tickets, k < s.world.issued) (reply : α → Session.Reply σ η)
    {keep : Session σ η → α → Session σ η}
    (hkeep : ∀ s x, (keep s x).world = s.world ∧ (keep s x).records = s.records) :
    a.Fair (s.perform op reply keep).2 := by
  have hop := hop s.world
  refine Session.perform_induction (P := a.Fair) (fun f w hexec => ?_) fun x w hexec => ?_
  · rw [hexec] at hop
    exact h.step hop htickets [] (List.append_nil _).symm (fun p hp => by cases hp)
      fun p hp => by cases hp
  · rw [hexec] at hop
    obtain ⟨hworld, hrecords⟩ := hkeep { s with world := w } x
    refine h.step (hworld ▸ hop) htickets [] ?_ (fun p hp => by cases hp)
      fun p hp => by cases hp
    rw [hrecords, List.append_nil]

section

variable (ha : a.store.KeepsTickets) {s : Session σ η} (h : a.Fair s)

/-- Where no tickets are redeemed and nothing new is held, a session stays in order. -/
theorem Fair.same {t : Session σ η} (h : a.Fair s) (hredeems : World.Redeems [] s.world t.world)
    (hrecords : t.records = s.records) : a.Fair t :=
  h.step hredeems (List.forall_mem_nil _) [] (hrecords.trans (List.append_nil _).symm)
    (List.forall_mem_nil _) (List.forall_mem_nil _)

include ha h

/-- The contents of a record that is held are those of its file, and its ticket was issued. -/
theorem Fair.held {i : Nat} {p : η × Record σ} (hp : s.records[i]? = some p) :
    p.2.content.source.Redeems [] ∧ ∀ k ∈ [p.2.content.ticket], k < s.world.issued := by
  have hmem := List.mem_of_getElem? hp
  obtain ⟨-, kind, length, ticket, hcontent⟩ := h.records p hmem
  refine ⟨hcontent ▸ ha.contents p.1, fun k hk => ?_⟩
  obtain rfl := List.mem_singleton.mp hk
  exact h.tickets p hmem

theorem Fair.openStream {i : Nat} {p : η × Record σ} (hp : s.records[i]? = some p) :
    p.2.content.openStream.Redeems [p.2.content.ticket] :=
  Lob.redeems_openStream (h.held ha hp).1 (List.mem_singleton_self _)

/-- **Execute.** A request that saves no large object redeems nothing. -/
theorem fair_execute {request : Option (Request σ)}
    (hplain : (Session.Call.execute request).IsPlain) :
    a.Fair (a.call s (.execute request)).2 := by
  refine h.perform (redeems_execute ha ?_) (List.forall_mem_nil _) _
    fun s c => ⟨rfl, rfl⟩
  rintro r l rfl hl
  exact absurd hl (hplain l)

/-- **Copy.** A record that is saved has its ticket redeemed. -/
theorem fair_copy (request : Request σ) (i : Nat) : a.Fair (a.call s (.copy request i)).2 := by
  rw [call]
  rcases hr : s.records[i]? with _ | p
  · exact h
  · obtain ⟨hsource, hissued⟩ := h.held ha hr
    refine h.perform (redeems_execute ha ?_) hissued _ fun s c => ⟨rfl, rfl⟩
    intro r l hrequest hl
    cases hrequest
    cases hl
    exact ⟨hsource, List.mem_singleton_self _⟩

/-- **Next.** The record of the next file is held with a new ticket. -/
theorem fair_next (j : Nat) : a.Fair (a.call s (.next j)).2 := by
  cases hc : s.cursors[j]? with
  | none =>
    rw [call, hc]
    exact h
  | some c =>
    cases hleft : c.remaining with
    | nil =>
      rw [call_next_nil hc hleft]
      exact h
    | cons k rest =>
      have hredeems := a.redeems_record ha c k s.world
      rcases hrecord : (a.record c k).exec s.world with ⟨f | r, w⟩
      · rw [hrecord] at hredeems
        rw [call_next_error hc hleft hrecord]
        exact h.same hredeems rfl
      · rw [hrecord] at hredeems
        rw [call_next_ok hc hleft hrecord]
        refine h.step hredeems (List.forall_mem_nil _) [(k, r)] rfl
          (fun p hp => ?_) fun p hp => ?_
        · obtain rfl := List.mem_singleton.mp hp
          exact isRecordOf_record hrecord
        · obtain rfl := List.mem_singleton.mp hp
          exact ticket_of_record hrecord

/-- **Iterate.** So are the records of all files that are left. -/
theorem fair_iterate (j : Nat) : a.Fair (a.call s (.iterate j)).2 := by
  rw [call]
  cases s.cursors[j]? with
  | none => exact h
  | some c =>
    obtain ⟨hredeems, htickets⟩ := drain_tickets ha c s.world
    simp only
    rcases hdrain : a.drain c s.world with ⟨f | rs, after, w⟩
    · rw [hdrain] at hredeems
      exact h.same hredeems rfl
    · have hof := a.isRecordOf_drain c s.world (congrArg Prod.fst hdrain)
      rw [hdrain] at hredeems htickets
      exact h.step hredeems (List.forall_mem_nil _) (c.remaining.zip rs) rfl hof
        fun p hp => htickets rs rfl p.2 (List.of_mem_zip hp).2

/-- **Row.** A row opens the contents of its record at most. -/
theorem fair_row (i : Nat) (columns : List String) (maxChars : Option Int) :
    a.Fair (a.call s (.row i columns maxChars)).2 := by
  rw [call]
  rcases hr : s.records[i]? with _ | p
  · exact h
  · have hrow (asText : Bool) (n : Int) :
        (Row.contents p.2 columns asText n).Redeems [p.2.content.ticket] := by
      rw [Row.contents]
      split
      · exact Op.redeems_pure _
      · split
        · exact Op.redeems_fail _
        · exact ((h.openStream ha hr).bind fun _ => Op.redeems_ofExcept _).map _
    refine h.perform ?_ (h.held ha hr).2 _ fun s row => ⟨rfl, rfl⟩
    cases maxChars with
    | some n => exact (hrow true n).bind fun _ => Op.redeems_ofExcept _
    | none => exact (hrow false 0).bind fun _ => Op.redeems_ofExcept _

/-- **Open.** Opening the contents of a record redeems its ticket. -/
theorem fair_openStream (i : Nat) : a.Fair (a.call s (.openStream i)).2 := by
  rw [call]
  rcases hr : s.records[i]? with _ | p
  · exact h
  · exact h.perform (h.openStream ha hr) (h.held ha hr).2 _ fun s stream => ⟨rfl, rfl⟩

/-- **Tickets, one call.** A call keeps a session in order. -/
theorem fair_call {x : Session.Call σ} (hx : x.IsPlain) : a.Fair (a.call s x).2 := by
  cases x with
  | execute request => exact fair_execute ha h hx
  | copy request i => exact fair_copy ha h request i
  | next j => exact fair_next ha h j
  | iterate j => exact fair_iterate ha h j
  | close j =>
    rw [call]
    cases s.cursors[j]? with
    | none => exact h
    | some c => exact h.same (.refl _ _) rfl
  | row i columns maxChars => exact fair_row ha h i columns maxChars
  | openStream i => exact fair_openStream ha h i
  | read i n room =>
    rw [call]
    cases s.streams[i]? with
    | none => exact h
    | some stream => exact h.same (.refl _ _) rfl
  | meanwhile change => exact h.same ⟨Nat.le_refl _, fun _ hk => .inl hk⟩ rfl

end

/-- **Tickets.** Calls keep a session in order. -/
theorem fair_calls (ha : a.store.KeepsTickets) {s : Session σ η} (h : a.Fair s)
    {calls : List (Session.Call σ)} (hcalls : ∀ x ∈ calls, x.IsPlain) : a.Fair (a.calls s calls) :=
  a.calls_induction s (fun _ x hx h => fair_call ha h (hcalls x hx)) h

end Adapter

end FileDepot
