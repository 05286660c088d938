import FileDepot.Adapter
import FileDepot.Store.Memory

/-!
# Frames

A property of operations is a *frame* when a value, a fault and a note have it, and it is kept by carrying out
one operation after the other and by rewording a fault. Whatever is built of operations that have it has it,
too: what the store in memory offers (`Memory.store_has`), reading what is to be saved
(`Payload.frame_toReader`), carrying out a request (`Adapter.frame_execute`) and making a record
(`Adapter.frame_record`).
-/

namespace FileDepot

open Encoding

variable {σ η : Type}

/-- A property of operations that everything built of them inherits. -/
structure Op.Frame (P : (α : Type) → Op σ α → Prop) : Prop where
  /-- a value has it -/
  pure : ∀ {α} (x : α), P α (pure x)
  /-- a fault has it -/
  fail : ∀ {α} (f : Fault), P α (Op.fail f)
  /-- making a note has it -/
  note : ∀ level topic text, P Unit (Op.note level topic text)
  /-- two operations in sequence have it if both do -/
  bind : ∀ {α β} {op : Op σ α} {f : α → Op σ β}, P α op → (∀ x, P β (f x)) → P β (op >>= f)
  /-- rewording a fault keeps it -/
  mapFault : ∀ {α} {op : Op σ α} (f : Fault → Fault), P α op → P α (Op.mapFault f op)

variable {P : (α : Type) → Op σ α → Prop}

theorem Op.Frame.ofExcept {α : Type} (hP : Op.Frame P) (e : Except Fault α) : P α (Op.ofExcept e) := by
  cases e with
  | error f => exact hP.fail f
  | ok x => exact hP.pure x

/-- Every operation of a store has a property. -/
structure Store.Has (P : (α : Type) → Op σ α → Prop) (s : Store σ η) : Prop where
  /-- resolving a pattern has it -/
  resolve : ∀ pattern, P _ (s.resolve pattern)
  /-- giving contents has it -/
  contents : ∀ h, P _ (s.contents h)
  /-- storing contents has it -/
  write : ∀ path content, P _ (s.write path content)
  /-- removing a file has it -/
  remove : ∀ path, P _ (s.remove path)
  /-- telling the time of the last change has it -/
  modified : ∀ h, P _ (s.modified h)
  /-- telling the time a file was made has it -/
  created : ∀ h, P _ (s.created h)
  /-- telling a size has it -/
  size : ∀ h, P _ (s.size h)

/-- The store in memory has a property that asking it and changing it have. -/
theorem Memory.store_has {P : (α : Type) → Op Memory α → Prop} (hP : Op.Frame P)
    (hask : ∀ {α} (question : Memory → Except Fault α), P α (Op.ask question))
    (hchange : ∀ {α} (step : Memory → Except Fault α × Memory), P α (Op.onStore step)) :
    store.Has P where
  resolve pattern := by
    simp only [store]
    exact hask _
  contents h := by
    simp only [store]
    exact hask _
  write path content := by
    simp only [store]
    exact hP.bind (hchange _) fun _ => hP.note _ _ _
  remove path := by
    simp only [store]
    refine hP.bind (hchange _) fun found => ?_
    cases found with
    | some p => exact hP.bind (hP.note _ _ _) fun _ => hP.pure _
    | none => exact hP.pure _
  modified h := by
    simp only [store]
    exact hP.pure _
  created h := by
    simp only [store]
    exact hP.pure _
  size h := by
    simp only [store]
    exact hP.pure _

/-- Taking the text of a large object has a property that taking its bytes has. -/
theorem Lob.frame_takeText (hP : Op.Frame P) {l : Lob σ} (htake : P Supply l.take)
    (charset : Charset) : P TextReader (l.takeText charset) := by
  refine hP.bind htake fun supply => hP.bind (hP.ofExcept _) fun codec => ?_
  split
  · exact hP.fail _
  · exact hP.pure _

/-- Reading what is to be saved has a property that taking the bytes of a large object has. -/
theorem Payload.frame_toReader (hP : Op.Frame P) {payload : Payload σ}
    (htake : ∀ l, payload = .lob l → P Supply l.take) (charset : Charset) :
    P ByteReader (payload.toReader charset) := by
  have hencoded (text : TextReader) : P ByteReader (toReader.encoded charset text) :=
    hP.bind (hP.ofExcept _) fun _ => hP.pure _
  cases payload with
  | characters text => exact hencoded text
  | binary data => exact hP.ofExcept _
  | xmlText document => exact hP.bind (hP.ofExcept _) fun _ => hP.pure _
  | xmlBytes document => exact hP.ofExcept _
  | lob l =>
    rw [toReader]
    cases l.charset with
    | none => exact hP.bind (htake l rfl) fun _ => hP.ofExcept _
    | some own => exact hP.bind (Lob.frame_takeText hP (htake l rfl) own) hencoded
  | other type => exact hP.fail _

namespace Adapter

variable {a : Adapter σ η}

/-- Carrying out a request has a property that the operations of the store have, and reading what is to be
saved. -/
theorem frame_execute (hP : Op.Frame P) (ha : a.store.Has P) {request : Option (Request σ)}
    (hread : ∀ r payload, request = some r → r.content = some payload →
      P _ (payload.toReader a.config.charset)) : P _ (a.execute request) := by
  cases request with
  | none => exact hP.fail _
  | some r =>
    have hlist : P _ (a.list r) := by
      rw [list]
      cases r.path with
      | none => exact hP.fail _
      | some pattern =>
        simp only
        split
        · exact hP.fail _
        · refine hP.bind (hP.mapFault _ (ha.resolve pattern)) fun files =>
            hP.bind (hP.note _ _ _) fun _ => ?_
          split
          · exact hP.fail _
          · exact hP.pure _
    have hsave : P _ (a.save r) := by
      refine hP.bind (hP.ofExcept _) fun path => ?_
      cases hcontent : r.content with
      | none => exact hP.fail _
      | some payload =>
        refine hP.bind (hP.note _ _ _) fun _ => hP.mapFault _ ?_
        exact hP.bind (hread r payload rfl hcontent) fun content => ha.write path content
    have hdelete : P _ (a.delete r) := by
      refine hP.bind (hP.ofExcept _) fun path => hP.bind (hP.note _ _ _) fun _ =>
        hP.bind (hP.mapFault _ (ha.remove path)) fun removed => ?_
      split
      · exact hP.pure _
      · split
        · exact hP.fail _
        · exact hP.note _ _ _
    rw [execute]
    cases r.kind with
    | listText => exact hlist
    | listBinary => exact hlist
    | save => exact hP.bind hsave fun _ => hP.pure _
    | delete => exact hP.bind hdelete fun _ => hP.pure _
    | other name => exact hP.fail _

/-- Making a record has a property that the operations of the store have, and issuing a ticket. -/
theorem frame_record (hP : Op.Frame P) (ha : a.store.Has P) (hissue : P _ Op.issueTicket)
    (c : Cursor η) (h : η) : P _ (a.record c h) := by
  have hmetadata : P _ (a.metadata h) := by
    refine hP.mapFault _ ?_
    refine hP.bind (ha.modified h) fun modified => hP.bind (ha.created h) fun created => ?_
    exact hP.bind (ha.size h) fun size => hP.pure _
  have hlob (length : Option Nat) : P _ (a.lob c.kind h length) :=
    hP.bind hissue fun _ => hP.pure _
  refine hP.bind (hP.note _ _ _) fun _ => ?_
  split
  · exact hP.bind hmetadata fun _ => hP.bind (hlob _) fun _ => hP.pure _
  · exact hP.bind (hlob _) fun _ => hP.pure _

end Adapter

end FileDepot
