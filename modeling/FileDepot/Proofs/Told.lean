import FileDepot.Proofs.Requests
import FileDepot.Proofs.Stream.Delivery
import FileDepot.Proofs.Stream.Trouble

/-!
# Faults that are told

An adapter tells trouble of the system as its own, and where it saves, also trouble with an encoding. Any
other fault of the store or of a payload leaves it as it is.

* **told** — a fault comes out as one of the adapter's own exactly if it is told
  (`isOwn_resolveFault_iff` and its siblings);
* **payload** — reading a payload that is tame fails with faults that are told (`Payload.toReader_ends`);
* **request** — a request ends with a fault that is none of the adapter's own exactly if something that it asks
  the store or its payload for fails with that fault, and the fault is not told (`Adapter.leaves_iff`).
-/

namespace FileDepot

open Encoding Outcome

namespace Fault

/-- Whether every operation tells a fault as one of its own. -/
def IsTold (f : Fault) : Prop := f.isOwn = true ∨ f.isSystem = true

/-- Whether a save tells a fault as one of its own. -/
def IsToldBySave (f : Fault) : Prop := f.IsTold ∨ f.family.isUnicode = true

instance (f : Fault) : Decidable f.IsTold := inferInstanceAs (Decidable (_ ∨ _))

instance (f : Fault) : Decidable f.IsToldBySave := inferInstanceAs (Decidable (_ ∨ _))

variable {f : Fault}

/-- Trouble with what is stored is told by a save as trouble of its own, and is one of the own faults. -/
theorem isOwn_of_storage (h : f.family = .storage) : f.isOwn = true := by
  rw [isOwn, h]
  rfl

theorem isOwn_resolveFault_iff (pattern : String) :
    (Adapter.resolveFault pattern f).isOwn = true ↔ f.IsTold := by
  rw [Adapter.resolveFault]
  split
  · exact iff_of_true rfl (.inr ‹_›)
  · exact ⟨.inl, fun h => h.resolve_right ‹_›⟩

theorem isOwn_deleteFault_iff (path : String) :
    (Adapter.deleteFault path f).isOwn = true ↔ f.IsTold := by
  rw [Adapter.deleteFault]
  split
  · exact iff_of_true rfl (.inr ‹_›)
  · exact ⟨.inl, fun h => h.resolve_right ‹_›⟩

theorem isOwn_writeFault_iff (path : String) :
    (Adapter.writeFault path f).isOwn = true ↔ f.IsToldBySave := by
  rw [Adapter.writeFault]
  split
  · rename_i htold
    refine iff_of_true rfl ?_
    simp only [Bool.or_eq_true, decide_eq_true_eq] at htold
    rcases htold with (hsystem | hunicode) | hstorage
    · exact .inl (.inr hsystem)
    · exact .inr hunicode
    · exact .inl (.inl (isOwn_of_storage hstorage))
  · rename_i hnot
    simp only [Bool.or_eq_true, not_or] at hnot
    obtain ⟨⟨hsystem, hunicode⟩, -⟩ := hnot
    exact ⟨fun hown => .inl (.inl hown), fun h => (h.resolve_right hunicode).resolve_right hsystem⟩

/-- A listing leaves a fault that it does not tell as it is. -/
theorem resolveFault_of_not_told (h : ¬f.IsTold) (pattern : String) :
    Adapter.resolveFault pattern f = f := if_neg fun hsystem => h (.inr hsystem)

/-- A removal does the same. -/
theorem deleteFault_of_not_told (h : ¬f.IsTold) (path : String) :
    Adapter.deleteFault path f = f := if_neg fun hsystem => h (.inr hsystem)

/-- So does a save. -/
theorem writeFault_of_not_told (h : ¬f.IsToldBySave) (path : String) :
    Adapter.writeFault path f = f := by
  refine if_neg fun htold => h ?_
  rw [← isOwn_writeFault_iff path, Adapter.writeFault, if_pos htold]
  rfl

end Fault

open Fault (IsTold IsToldBySave)

/-! ## Operations -/

/-- What an operation ends with, in every world: a fault with a property, or a value with one. -/
structure Op.Ends {σ α : Type} (P : Fault → Prop) (Q : α → Prop) (op : Op σ α) : Prop where
  /-- what it fails with -/
  fails : ∀ w, FailsOnly P (op.exec w).1
  /-- what it gives -/
  gives : ∀ {w x w'}, op.exec w = (.ok x, w') → Q x

namespace Op.Ends

variable {σ α β : Type} {P : Fault → Prop} {Q : α → Prop} {R : β → Prop}

theorem pure {x : α} (hx : Q x) : Ends P Q (Pure.pure x : Op σ α) where
  fails _ := failsOnly_ok x
  gives h := Except.ok.inj (Prod.mk.inj h).1 ▸ hx

theorem fail {f : Fault} (hf : P f) : Ends P Q (Op.fail f : Op σ α) where
  fails _ := failsOnly_error hf
  gives h := by cases h

theorem ofExcept {e : Except Fault α} (he : FailsOnly P e) (hx : ∀ x, e = .ok x → Q x) :
    Ends P Q (Op.ofExcept e : Op σ α) := by
  cases e with
  | error f => exact fail (he f rfl)
  | ok x => exact pure (hx x rfl)

theorem bind {op : Op σ α} {f : α → Op σ β} (h : Ends P Q op) (hf : ∀ x, Q x → Ends P R (f x)) :
    Ends P R (op >>= f) where
  fails w := by
    have hfails := h.fails w
    rw [bind_exec]
    rcases hexec : op.exec w with ⟨fault | x, w'⟩
    · rw [hexec] at hfails
      exact failsOnly_error (hfails fault rfl)
    · exact (hf x (h.gives hexec)).fails w'
  gives {w y w'} hy := by
    rw [bind_exec] at hy
    rcases hexec : op.exec w with ⟨fault | x, w₁⟩
    · rw [hexec] at hy
      cases hy
    · rw [hexec] at hy
      exact (hf x (h.gives hexec)).gives hy

end Op.Ends

/-! ## Payloads -/

theorem Charset.isText_of_requireText {c : Charset} {codec : Codec} (h : c.requireText = .ok codec) :
    codec.isText = true := by
  rw [Charset.requireText] at h
  split at h
  · obtain rfl := Except.ok.inj h
    rfl
  · obtain ⟨codec', -, h⟩ := Outcome.bind_eq_ok h
    split at h
    · rename_i htext
      rwa [← Except.ok.inj h]
    · cases h

/-- A stream is tame when text can be read from it and it ends plainly, or with a fault that a save tells. -/
structure Supply.IsTame (s : Supply) : Prop where
  /-- it is open -/
  opened : s.isClosed = false
  /-- the fault at its end is told -/
  ending : ∀ f, s.fault? = some f → f.IsToldBySave

/-- A payload is tame when its text and its bytes are in encodings of text and do not end with a fault that a
save does not tell, and a large object is one whose encoding can be used and that gives out a tame stream, or
fails with trouble that is told. -/
def Payload.IsTame {σ : Type} : Payload σ → Prop
  | .characters text => text.FailsWith IsToldBySave
  | .binary data => data.FailsWith IsToldBySave
  | .xmlBytes document => document.FailsWith IsToldBySave
  | .lob l => Op.Ends IsTold Supply.IsTame l.source ∧
      ∀ c, l.charset = some c → ∃ codec, c.requireText = .ok codec
  | .xmlText _ | .other _ => True

/-- What a save tells covers the trouble of encodings. -/
theorem coversCoding_told : CoversCoding IsToldBySave where
  coding e he := by cases e <;> first | exact .inr rfl | cases he
  shared f hf := by
    unfold BufferedText.sharedFault
    split
    · rcases hf with (hown | hsystem) | hunicode
      · cases hown
      · cases hsystem
      · cases hunicode
    · exact hf

/-- Taking the bytes of a large object fails with what opening them fails with, or because they were taken
before. -/
theorem Lob.take_ends {σ : Type} {l : Lob σ} (hsource : Op.Ends IsTold Supply.IsTame l.source) :
    Op.Ends IsToldBySave Supply.IsTame l.take where
  fails w := by
    have htold := hsource.fails w
    simp only [take, isOpened, Op.bind_exec, Op.isRedeemed_exec]
    split
    · exact failsOnly_error (.inl (.inl rfl))
    · simp only [Op.bind_exec, Op.mapFault_exec]
      rcases hexec : l.source.exec w with ⟨f | data, w'⟩
      · rw [hexec] at htold
        refine failsOnly_error (.inl ?_)
        rw [openFault]
        split
        · exact .inl rfl
        · exact htold f rfl
      · exact failsOnly_ok _
  gives {w supply w'} h := by
    simp only [take, isOpened, Op.bind_exec, Op.isRedeemed_exec] at h
    split at h
    · cases h
    · simp only [Op.bind_exec, Op.mapFault_exec] at h
      rcases hexec : l.source.exec w with ⟨f | data, w₁⟩
      · rw [hexec] at h
        cases h
      · rw [hexec] at h
        exact Except.ok.inj (Prod.mk.inj h).1 ▸ hsource.gives hexec

/-- **Payload.** Reading a payload that is tame fails with what a save tells, and so does reading the bytes
that come of it. -/
theorem Payload.toReader_ends {σ : Type} {payload : Payload σ} (h : payload.IsTame) {config : Config}
    (hcodec : config.codec ∈ Codec.pointwise) :
    Op.Ends IsToldBySave (ByteReader.FailsWith IsToldBySave) (payload.toReader config.charset) := by
  have hrequire : config.charset.require = .ok config.codec := require_ofCodec hcodec
  have hencoded {text : TextReader} (htext : text.FailsWith IsToldBySave) :
      Op.Ends IsToldBySave (ByteReader.FailsWith IsToldBySave)
        (toReader.encoded config.charset text : Op σ ByteReader) := by
    rw [toReader.encoded, hrequire]
    exact .pure (ByteReader.failsWith_ofText htext (.inl (Codec.isText_of_pointwise hcodec)))
  have hentered {bytes : ByteReader} (hbytes : bytes.FailsWith IsToldBySave) :
      Op.Ends IsToldBySave (ByteReader.FailsWith IsToldBySave)
        (Op.ofExcept bytes.enter : Op σ ByteReader) :=
    .ofExcept (ByteReader.enter_fails hbytes) fun _ hr => ByteReader.enter_eq_ok hr ▸ hbytes
  cases payload with
  | characters text => exact hencoded h
  | binary data => exact hentered h
  | xmlText document =>
    refine .bind (.ofExcept ?_ fun _ _ => trivial) fun _ _ => .pure trivial
    exact (encodeEach_fails _ _ _ _ _).mapError fun f hf => .inr hf
  | xmlBytes document => exact hentered h
  | lob l =>
    obtain ⟨hsource, hown⟩ := h
    rw [toReader]
    cases hlabel : l.charset with
    | none =>
      refine (Lob.take_ends hsource).bind fun supply hs => hentered ?_
      exact ByteReader.failsWith_ofSupply hs.ending fun hclosed => by
        cases hs.opened.symm.trans hclosed
    | some c =>
      obtain ⟨own, hrequire⟩ := hown c hlabel
      refine .bind (Q := TextReader.FailsWith IsToldBySave) ?_ fun text htext => hencoded htext
      rw [Lob.takeText, hrequire]
      refine (Lob.take_ends hsource).bind fun supply hs => ?_
      refine .bind (Q := fun codec => codec.isText = true) (.ofExcept (failsOnly_ok own) ?_)
        fun codec hcodec => ?_
      · rintro codec hcodec
        exact Except.ok.inj hcodec ▸ Charset.isText_of_requireText hrequire
      · rw [hs.opened]
        exact .pure (Decoding.failsWith_ofSupply (.inl hcodec) hs.ending)
  | other type => exact .fail (.inl (.inl rfl))

/-! ## Requests -/

/-- A world after one more note of the file operations. -/
def World.noted {σ : Type} (w : World σ) (text : String) : World σ :=
  { w with notes := ⟨.debug, .operations, text⟩ :: w.notes }

namespace Adapter

variable {σ η : Type} (a : Adapter σ η)

/-- A save gets as far as its payload, which is taken with some outcome. -/
structure Takes (r : Request σ) (path : String) (w : World σ)
    (outcome : Except Fault ByteReader × World σ) : Prop where
  /-- it is a save -/
  kind : r.kind = .save
  /-- it has a path -/
  target : requiredPath r = .ok path
  /-- it has a payload, and that is taken -/
  taken : ∃ payload, r.content = some payload ∧
    (payload.toReader a.config.charset).exec (w.noted ("Saving " ++ path)) = outcome

/-- How a request comes to end with a fault that is none of the adapter's own: what it asks for first that
fails does so with this fault, and the fault is not told. -/
inductive Leaves (r : Request σ) (w : World σ) (f : Fault) : Prop where
  /-- the pattern of a listing cannot be resolved -/
  | listing {pattern : String} (kind : r.kind.isListing = true) (target : r.path = some pattern)
    (fails : ((a.store.resolve pattern).exec w).1 = .error f) (untold : ¬f.IsTold)
  /-- the payload of a save cannot be taken -/
  | taking {path : String} {w' : World σ} (takes : a.Takes r path w (.error f, w'))
    (untold : ¬f.IsToldBySave)
  /-- the payload is taken and cannot be written -/
  | writing {path : String} {content : ByteReader} {w' : World σ}
    (takes : a.Takes r path w (.ok content, w'))
    (fails : ((a.store.write path content).exec w').1 = .error f) (untold : ¬f.IsToldBySave)
  /-- what is at the path of a removal cannot be removed -/
  | removal {path : String} (kind : r.kind = .delete) (target : requiredPath r = .ok path)
    (fails : ((a.store.remove path).exec (w.noted ("Deleting " ++ path))).1 = .error f)
    (untold : ¬f.IsTold)

variable {a} {r : Request σ} {w : World σ} {f : Fault}

/-- A fault that is reworded and not told comes out as it is; if it is told, an own one comes out. -/
theorem error_and_not_own_iff {reword : Fault → Fault} {told : Fault → Prop} {g : Fault}
    (hown : ∀ g, (reword g).isOwn = true ↔ told g) (hkeep : ∀ g, ¬told g → reword g = g) :
    reword g = f ∧ f.isOwn = false ↔ g = f ∧ ¬told f := by
  constructor
  · rintro ⟨rfl, hnot⟩
    have huntold : ¬told g := fun h => Bool.false_ne_true (hnot.symm.trans ((hown g).mpr h))
    rw [hkeep g huntold]
    exact ⟨rfl, huntold⟩
  · rintro ⟨rfl, huntold⟩
    refine ⟨hkeep g huntold, Bool.eq_false_iff.mpr fun h => huntold ?_⟩
    rw [← hown g, hkeep g huntold]
    exact h

/-- A listing ends with a fault that is not its own if its pattern cannot be resolved, and that is not told. -/
theorem listing_leaves_iff {pattern : String} (hkind : r.kind.isListing = true)
    (hpath : r.path = some pattern) (hsense : isRefused (some r) = false) :
    ((a.execute (some r)).exec w).1 = .error f ∧ f.isOwn = false ↔
      ((a.store.resolve pattern).exec w).1 = .error f ∧ ¬f.IsTold := by
  rw [a.execute_list hkind hpath hsense]
  rcases (a.store.resolve pattern).exec w with ⟨g | files, w'⟩
  · simpa only [Except.error.injEq] using error_and_not_own_iff
      (fun _ => Fault.isOwn_resolveFault_iff pattern) fun _ h => Fault.resolveFault_of_not_told h pattern
  · refine iff_of_false ?_ fun h => nomatch h.1
    rintro ⟨hfault, hown⟩
    dsimp only at hfault
    split at hfault
    · obtain rfl := Except.error.inj hfault
      cases hown
    · cases hfault

/-- A save ends with a fault that is not its own if its payload cannot be taken or written, and that is not
told. -/
theorem save_leaves_iff {path : String} {payload : Payload σ} (hkind : r.kind = .save)
    (hpath : requiredPath r = .ok path) (hcontent : r.content = some payload) :
    ((a.execute (some r)).exec w).1 = .error f ∧ f.isOwn = false ↔
      ((∃ w', a.Takes r path w (.error f, w')) ∨ ∃ content w', a.Takes r path w (.ok content, w') ∧
        ((a.store.write path content).exec w').1 = .error f) ∧ ¬f.IsToldBySave := by
  have htakes {outcome} : a.Takes r path w outcome ↔
      (payload.toReader a.config.charset).exec (w.noted ("Saving " ++ path)) = outcome := by
    constructor
    · rintro ⟨-, -, payload', hcontent', htaken⟩
      obtain rfl := Option.some.inj (hcontent.symm.trans hcontent')
      exact htaken
    · intro htaken
      exact ⟨hkind, hpath, payload, hcontent, htaken⟩
  have hreword (g : Fault) : writeFault path g = f ∧ f.isOwn = false ↔ g = f ∧ ¬f.IsToldBySave :=
    error_and_not_own_iff (fun _ => Fault.isOwn_writeFault_iff path)
      fun _ h => Fault.writeFault_of_not_told h path
  rw [a.execute_save hkind hpath hcontent]
  simp only [htakes, World.noted]
  rcases (payload.toReader a.config.charset).exec
    { w with notes := ⟨.debug, .operations, "Saving " ++ path⟩ :: w.notes } with ⟨g | content, w'⟩
  · simpa using hreword g
  · rcases hwrite : (a.store.write path content).exec w' with ⟨g | _, w''⟩
    · simpa [hwrite] using hreword g
    · simp [hwrite]

/-- A removal ends with a fault that is not its own if the store cannot remove what is at its path, and that is
not told. -/
theorem removal_leaves_iff {path : String} (hkind : r.kind = .delete)
    (hpath : requiredPath r = .ok path) :
    ((a.execute (some r)).exec w).1 = .error f ∧ f.isOwn = false ↔
      ((a.store.remove path).exec (w.noted ("Deleting " ++ path))).1 = .error f ∧ ¬f.IsTold := by
  rw [a.execute_delete hkind hpath, World.noted]
  rcases (a.store.remove path).exec
    { w with notes := ⟨.debug, .operations, "Deleting " ++ path⟩ :: w.notes } with ⟨g | removed, w'⟩
  · simpa only [Except.error.injEq] using error_and_not_own_iff
      (fun _ => Fault.isOwn_deleteFault_iff path) fun _ h => Fault.deleteFault_of_not_told h path
  · refine iff_of_false ?_ fun h => nomatch h.1
    rintro ⟨hfault, hown⟩
    cases removed with
    | true => cases hfault
    | false =>
      dsimp only at hfault
      split at hfault
      · obtain rfl := Except.error.inj hfault
        cases hown
      · cases hfault

/-! ### Which way a request takes -/

/-- A listing leaves what resolving its pattern fails with. -/
theorem leaves_of_listing {pattern : String} (hkind : r.kind.isListing = true)
    (hpath : r.path = some pattern) :
    a.Leaves r w f ↔ ((a.store.resolve pattern).exec w).1 = .error f ∧ ¬f.IsTold := by
  constructor
  · rintro (⟨-, hpath', hfails, huntold⟩ | ⟨htakes, -⟩ | ⟨htakes, -, -⟩ | ⟨hdelete, -, -, -⟩)
    · rw [Option.some.inj (hpath.symm.trans hpath')]
      exact ⟨hfails, huntold⟩
    · rw [htakes.kind] at hkind
      cases hkind
    · rw [htakes.kind] at hkind
      cases hkind
    · rw [hdelete] at hkind
      cases hkind
  · rintro ⟨hfails, huntold⟩
    exact .listing hkind hpath hfails huntold

/-- A save leaves what taking or writing its payload fails with. -/
theorem leaves_of_save {path : String} (hkind : r.kind = .save) (hpath : requiredPath r = .ok path) :
    a.Leaves r w f ↔
      ((∃ w', a.Takes r path w (.error f, w')) ∨ ∃ content w', a.Takes r path w (.ok content, w') ∧
        ((a.store.write path content).exec w').1 = .error f) ∧ ¬f.IsToldBySave := by
  constructor
  · rintro (⟨hlist, -, -, -⟩ | ⟨htakes, huntold⟩ | ⟨htakes, hfails, huntold⟩ | ⟨hdelete, -, -, -⟩)
    · rw [hkind] at hlist
      cases hlist
    · obtain rfl := Except.ok.inj (hpath.symm.trans htakes.target)
      exact ⟨.inl ⟨_, htakes⟩, huntold⟩
    · obtain rfl := Except.ok.inj (hpath.symm.trans htakes.target)
      exact ⟨.inr ⟨_, _, htakes, hfails⟩, huntold⟩
    · rw [hkind] at hdelete
      cases hdelete
  · rintro ⟨⟨w', htakes⟩ | ⟨content, w', htakes, hfails⟩, huntold⟩
    · exact .taking htakes huntold
    · exact .writing htakes hfails huntold

/-- A removal leaves what removing what is at its path fails with. -/
theorem leaves_of_removal {path : String} (hkind : r.kind = .delete) (hpath : requiredPath r = .ok path) :
    a.Leaves r w f ↔
      ((a.store.remove path).exec (w.noted ("Deleting " ++ path))).1 = .error f ∧ ¬f.IsTold := by
  constructor
  · rintro (⟨hlist, -, -, -⟩ | ⟨htakes, -⟩ | ⟨htakes, -, -⟩ | ⟨-, hpath', hfails, huntold⟩)
    · rw [hkind] at hlist
      cases hlist
    · cases hkind.symm.trans htakes.kind
    · cases hkind.symm.trans htakes.kind
    · obtain rfl := Except.ok.inj (hpath.symm.trans hpath')
      exact ⟨hfails, huntold⟩
  · rintro ⟨hfails, huntold⟩
    exact .removal hkind hpath hfails huntold

/-- **Request.** A request ends with a fault that is none of the adapter's own exactly if something that it asks
for fails with that fault, and the fault is not told. A request that makes no sense ends with an own one. -/
theorem leaves_iff {request : Option (Request σ)} :
    ((a.execute request).exec w).1 = .error f ∧ f.isOwn = false ↔
      ∃ r, request = some r ∧ isRefused (some r) = false ∧ a.Leaves r w f := by
  cases hrefused : isRefused request with
  | true =>
    refine iff_of_false ?_ ?_
    · rintro ⟨hfault, hown⟩
      obtain ⟨g, notes, hexec, hfamily⟩ := a.execute_refused hrefused w
      rw [hexec] at hfault
      obtain rfl := Except.error.inj hfault
      rw [Fault.isOwn, hfamily] at hown
      cases hown
    · rintro ⟨r, rfl, hsense, -⟩
      rw [hrefused] at hsense
      cases hsense
  | false =>
    cases request with
    | none => cases hrefused
    | some r =>
      have hwhole : (∃ r', some r = some r' ∧ isRefused (some r') = false ∧ a.Leaves r' w f) ↔
          a.Leaves r w f := by
        refine ⟨?_, fun h => ⟨r, rfl, hrefused, h⟩⟩
        rintro ⟨r', hr, -, h⟩
        rwa [Option.some.inj hr]
      rw [hwhole]
      have hlisting (hkind : r.kind.isListing = true) :
          ((a.execute (some r)).exec w).1 = .error f ∧ f.isOwn = false ↔ a.Leaves r w f := by
        obtain ⟨pattern, hpath⟩ := path_of_listing hkind hrefused
        rw [listing_leaves_iff hkind hpath hrefused, leaves_of_listing hkind hpath]
      cases hkind : r.kind with
      | listText => exact hlisting (by rw [hkind]; rfl)
      | listBinary => exact hlisting (by rw [hkind]; rfl)
      | save =>
        obtain ⟨path, payload, hpath, hcontent⟩ := save_of_not_refused hkind hrefused
        rw [save_leaves_iff hkind hpath hcontent, leaves_of_save hkind hpath]
      | delete =>
        obtain ⟨path, hpath⟩ := delete_of_not_refused hkind hrefused
        rw [removal_leaves_iff hkind hpath, leaves_of_removal hkind hpath]
      | other name =>
        rw [isRefused, hkind] at hrefused
        cases hrefused

end Adapter

end FileDepot
