import FileDepot.Proofs.Passing
import FileDepot.Proofs.Requests

/-!
# What a store is asked for

A store can be watched, so that it keeps what it is asked for (`Store.watched`). Each call of a session plans
what it is going to ask (`Adapter.plan`), and asks for this in order up to the first that fails
(`call_accesses`): a request that makes no sense asks for nothing, a listing for one resolution, the call for
the next file for its metadata if they are wanted. Contents are asked for when they are opened.
-/

namespace FileDepot

variable {σ η α : Type}

/-! ## Watching a store -/

/-- What a store is asked for. -/
inductive Access (η : Type) where
  /-- to resolve a pattern -/
  | resolve (pattern : String)
  /-- the contents of a file -/
  | contents (h : η)
  /-- to store contents at a path -/
  | write (path : String)
  /-- to remove the file at a path -/
  | remove (path : String)
  /-- the time of the last change of a file -/
  | modified (h : η)
  /-- the time a file was made -/
  | created (h : η)
  /-- the size of a file -/
  | size (h : η)
  deriving DecidableEq

/-- A store that is watched. -/
structure Watched (σ η : Type) where
  /-- the store -/
  state : σ
  /-- what it was asked for, and what each of these failed with if it did -/
  seen : List (Access η × Option Fault)

/-- The fault of an outcome, if there is one. -/
def faultOf? : Except Fault α → Option Fault
  | .ok _ => none
  | .error f => some f

/-- Carry out an operation on a watched store, which keeps that it was asked for it. -/
def Op.watch (x : Access η) (op : Op σ α) : Op (Watched σ η) α := fun w =>
  match op.exec ⟨w.store.state, w.notes, w.issued, w.redeemed⟩ with
  | (outcome, after) =>
    (outcome, ⟨⟨after.store, w.store.seen ++ [(x, faultOf? outcome)]⟩, after.notes, after.issued,
      after.redeemed⟩)

/-- A store that keeps what it is asked for. -/
def Store.watched (s : Store σ η) : Store (Watched σ η) η where
  resolve pattern := Op.watch (.resolve pattern) (s.resolve pattern)
  contents h := Op.watch (.contents h) (s.contents h)
  write path content := Op.watch (.write path) (s.write path content)
  remove path := Op.watch (.remove path) (s.remove path)
  path := s.path
  name := s.name
  modified h := Op.watch (.modified h) (s.modified h)
  created h := Op.watch (.created h) (s.created h)
  size h := Op.watch (.size h) (s.size h)
  medium := s.medium

/-- What a watched store has seen after it was asked for something. -/
theorem Op.seen_of_watch {x : Access η} {op : Op σ α} {w w' : World (Watched σ η)}
    {outcome : Except Fault α} (h : (Op.watch x op).exec w = (outcome, w')) :
    w'.store.seen = w.store.seen ++ [(x, faultOf? outcome)] := by
  have hseen : ((Op.watch x op).exec w).2.store.seen =
      w.store.seen ++ [(x, faultOf? ((Op.watch x op).exec w).1)] := rfl
  rwa [h] at hseen

/-- What is asked for follows a plan: all of it in order, up to the first that fails. -/
inductive Follows : List (Access η) → List (Access η × Option Fault) → Prop where
  /-- everything was asked for -/
  | done : Follows [] []
  /-- something fails, and nothing is asked for after it -/
  | fails (x : Access η) (f : Fault) (plan : List (Access η)) : Follows (x :: plan) [(x, some f)]
  /-- nothing failed yet -/
  | goesOn (x : Access η) {plan : List (Access η)} {made : List (Access η × Option Fault)} :
    Follows plan made → Follows (x :: plan) ((x, none) :: made)

namespace Follows

variable {plan : List (Access η)} {made : List (Access η × Option Fault)}

/-- A single thing is asked for, whether it fails or not. -/
theorem one (x : Access η) (fault : Option Fault) : Follows [x] [(x, fault)] := by
  cases fault with
  | none => exact .goesOn x .done
  | some f => exact .fails x f []

/-- What follows a plan follows a longer one when the first part of it did not fail. -/
theorem append (first : List (Access η)) (h : Follows plan made) :
    Follows (first ++ plan) (first.map (·, none) ++ made) := by
  induction first with
  | nil => exact h
  | cons x rest ih => exact .goesOn x ih

theorem all (plan : List (Access η)) : Follows plan (plan.map (·, none)) := by
  simpa using append plan .done

end Follows

/-- What is asked for between two worlds follows a plan. -/
def Makes (plan : List (Access η)) (w w' : World (Watched σ η)) : Prop :=
  ∃ made, w'.store.seen = w.store.seen ++ made ∧ Follows plan made

namespace Makes

variable {plan : List (Access η)} {w w₁ w₂ : World (Watched σ η)}

theorem none (h : w₁.store.seen = w.store.seen) : Makes [] w w₁ :=
  ⟨[], by rw [h, List.append_nil], .done⟩

/-- What is asked for after the first part of a plan did not fail. -/
theorem after {first : List (Access η)} (hfirst : w₁.store.seen = w.store.seen ++ first.map (·, .none))
    (h : Makes plan w₁ w₂) : Makes (first ++ plan) w w₂ := by
  obtain ⟨made, hseen, hfollows⟩ := h
  exact ⟨first.map (·, .none) ++ made, by rw [hseen, hfirst, List.append_assoc],
    hfollows.append first⟩

end Makes

/-- An operation asks for what a plan says. When it has a value, nothing of this failed. -/
structure Asks (plan : List (Access η)) (op : Op (Watched σ η) α) (w : World (Watched σ η)) :
    Prop where
  /-- what is asked for follows the plan -/
  makes : Makes plan w (op.exec w).2
  /-- nothing of it failed if there is a value -/
  clean : (op.exec w).1.isOk = true →
    (op.exec w).2.store.seen = w.store.seen ++ plan.map (·, none)

namespace Asks

variable {β : Type} {plan : List (Access η)} {op : Op (Watched σ η) α} {w : World (Watched σ η)}

/-- An operation that leaves what was seen asks for nothing. -/
theorem nothing (h : (op.exec w).2.store.seen = w.store.seen) : Asks [] op w :=
  ⟨.none h, fun _ => by rw [h, List.map_nil, List.append_nil]⟩

/-- A value is made into another one without asking for anything. -/
theorem bind {f : α → Op (Watched σ η) β} (h : Asks plan op w)
    (hf : ∀ x w', ((f x).exec w').2.store.seen = w'.store.seen) : Asks plan (op >>= f) w := by
  obtain ⟨hmakes, hclean⟩ := h
  have hexec := Op.bind_exec w op f
  rcases hop : op.exec w with ⟨fault | x, w₁⟩
  · rw [hop] at hexec hmakes
    exact ⟨hexec ▸ hmakes, fun hok => by rw [hexec] at hok; cases hok⟩
  · rw [hop] at hexec hclean
    have hseen := (hf x w₁).trans (hclean rfl)
    exact ⟨⟨_, hexec ▸ hseen, .all plan⟩, fun _ => hexec ▸ hseen⟩

theorem map (f : α → β) (h : Asks plan op w) : Asks plan (f <$> op) w := by
  have hexec := Op.map_exec w f op
  refine ⟨hexec ▸ h.makes, fun hok => ?_⟩
  rw [hexec] at hok ⊢
  refine h.clean ?_
  rcases hop : op.exec w with ⟨fault | x, w₁⟩
  · rw [hop] at hok
    cases hok
  · rfl

end Asks

/-! ## The plans of calls -/

namespace Adapter

/-- The world in which contents are read to be saved: that they are saved is noted. -/
def saving (path : String) (w : World σ) : World σ :=
  { w with notes := ⟨.debug, .operations, "Saving " ++ path⟩ :: w.notes }

/-- What opening the contents of a record asks for: its file, unless they were opened before. -/
def openingPlan (w : World σ) (h : η) (r : Record σ) : List (Access η) :=
  if w.redeemed.contains r.content.ticket then [] else [.contents h]

/-- What making the record of a file asks for. -/
def recordPlan (c : Cursor η) (h : η) : List (Access η) :=
  if c.metadata then [.modified h, .created h, .size h] else []

/-- Whether there are bytes to be saved. -/
def hasBytes (a : Adapter σ η) (w : World σ) (path : String) : Option (Payload σ) → Bool
  | none => false
  | some payload => ((payload.toReader a.config.charset).exec (saving path w)).1.isOk

/-- What a request asks for, where reading what is to be saved asks for `opening`. -/
def requestPlan (a : Adapter σ η) (w : World σ) (opening : List (Access η)) (request : Request σ) :
    List (Access η) :=
  if isRefused (some request) then []
  else match request.kind, request.path with
    | .listText, some path | .listBinary, some path => [.resolve path]
    | .save, some path =>
      opening ++ if a.hasBytes w path request.content then [.write path] else []
    | .delete, some path => [.remove path]
    | _, _ => []

/-- What a call asks for. -/
def plan (a : Adapter σ η) (s : Session σ η) : Session.Call σ → List (Access η)
  | .execute none => []
  | .execute (some request) => a.requestPlan s.world [] request
  | .copy request i =>
    match s.records[i]? with
    | none => []
    | some (h, r) => a.requestPlan s.world (openingPlan s.world h r)
        { request with content := some (.lob r.content) }
  | .next j =>
    match s.cursors[j]? with
    | none => []
    | some c =>
      match c.remaining with
      | [] => []
      | h :: _ => recordPlan c h
  | .iterate j =>
    match s.cursors[j]? with
    | none => []
    | some c => c.remaining.flatMap (recordPlan c)
  | .row i columns maxChars =>
    match s.records[i]? with
    | none => []
    | some (h, r) =>
      if columns.contains Column.file.name && r.content.charset.isSome == maxChars.isSome
        then openingPlan s.world h r else []
  | .openStream i =>
    match s.records[i]? with
    | none => []
    | some (h, r) => openingPlan s.world h r
  | .close _ | .read .. | .meanwhile _ => []

/-! ## What calls ask for -/

section

variable {store : Store σ η} {config : Config} {w : World (Watched σ η)}

/-- Making the record of a file asks for its metadata, up to the first that cannot be read. -/
theorem record_accesses (store : Store σ η) (config : Config) (c : Cursor η) (h : η)
    (w : World (Watched σ η)) :
    match ((⟨store.watched, config⟩ : Adapter _ _).record c h).exec w with
    | (.ok _, w') => w'.store.seen = w.store.seen ++ (recordPlan c h).map (·, none)
    | (.error _, w') => ∀ more, Makes (recordPlan c h ++ more) w w' := by
  rw [record_exec, recordPlan]
  cases hmeta : c.metadata with
  | false => exact (List.append_nil _).symm
  | true =>
    simp only [if_true, metadata_exec]
    rcases hmodified : (store.watched.modified h).exec _ with ⟨f | modified, w₁⟩
    · have hseen := Op.seen_of_watch hmodified
      exact fun more => ⟨_, hseen, .fails _ f _⟩
    simp only
    rcases hcreated : (store.watched.created h).exec w₁ with ⟨f | created, w₂⟩
    · have hseen := Op.seen_of_watch hmodified
      have hseen' := Op.seen_of_watch hcreated
      refine fun more => ⟨[(.modified h, none), (.created h, some f)], ?_, .goesOn _ (.fails _ f _)⟩
      rw [hseen', hseen, List.append_assoc]
      rfl
    simp only
    rcases hsize : (store.watched.size h).exec w₂ with ⟨f | size, w₃⟩
    · have hseen := Op.seen_of_watch hmodified
      have hseen' := Op.seen_of_watch hcreated
      have hseen'' := Op.seen_of_watch hsize
      refine fun more => ⟨[(.modified h, none), (.created h, none), (.size h, some f)], ?_,
        .goesOn _ (.goesOn _ (.fails _ f _))⟩
      rw [hseen'', hseen', hseen, List.append_assoc, List.append_assoc]
      rfl
    · have hseen := Op.seen_of_watch hmodified
      have hseen' := Op.seen_of_watch hcreated
      have hseen'' := Op.seen_of_watch hsize
      simp only
      rw [hseen'', hseen', hseen, List.append_assoc, List.append_assoc]
      rfl

/-- Passing all files that are left asks for the metadata of one after the other. -/
theorem drain_accesses (store : Store σ η) (config : Config) (c : Cursor η)
    (w : World (Watched σ η)) :
    Makes (c.remaining.flatMap (recordPlan c)) w
      ((⟨store.watched, config⟩ : Adapter _ _).drain c w).2.2 := by
  induction c, w using drain_induction (a := ⟨store.watched, config⟩) with
  | nil c w hnone =>
    rw [drain_nil hnone, hnone]
    exact .none rfl
  | error c w h rest f w' hleft hrecord =>
    have hmade := record_accesses store config c h w
    rw [hrecord] at hmade
    rw [drain_error hleft hrecord, hleft, List.flatMap_cons]
    exact hmade _
  | ok c w h rest r w' hleft hrecord ih =>
    have hmade := record_accesses store config c h w
    rw [hrecord] at hmade
    have hsame : recordPlan c.advance.2 = (recordPlan c : η → List (Access η)) := by
      funext h
      rw [recordPlan, recordPlan, c.metadata_advance]
    rw [(Cursor.advance_of_remaining_cons hleft).2, hsame] at ih
    rw [drain_ok hleft hrecord, hleft, List.flatMap_cons]
    exact ih.after hmade

/-- Taking the bytes of a record asks for its file, unless they were taken before. -/
theorem take_accesses {h : η} {r : Record (Watched σ η)}
    (hsource : r.content.source = store.watched.contents h) :
    Asks (openingPlan w h r) r.content.take w := by
  have hexec := Lob.take_exec_cases r.content w
  rw [openingPlan]
  cases hopened : w.redeemed.contains r.content.ticket with
  | true =>
    rw [hopened, if_pos rfl] at hexec
    exact .nothing (by rw [hexec])
  | false =>
    rw [hopened, if_neg Bool.false_ne_true, hsource] at hexec
    rcases hcontents : (store.watched.contents h).exec w with ⟨f | data, w'⟩
    · have hseen := Op.seen_of_watch hcontents
      simp only [hcontents] at hexec
      refine ⟨⟨[(.contents h, some f)], ?_, .fails _ f []⟩, fun hok => ?_⟩
      · rw [hexec]
        exact hseen
      · rw [hexec] at hok
        cases hok
    · have hseen := Op.seen_of_watch hcontents
      simp only [hcontents] at hexec
      refine ⟨⟨[(.contents h, none)], ?_, .goesOn _ .done⟩, fun _ => ?_⟩
      · rw [hexec]
        exact hseen
      · rw [hexec]
        exact hseen

/-- So does taking the text of a record. -/
theorem takeText_accesses {h : η} {r : Record (Watched σ η)}
    (hsource : r.content.source = store.watched.contents h) (charset : Encoding.Charset) :
    Asks (openingPlan w h r) (r.content.takeText charset) w := by
  refine (take_accesses hsource).bind fun supply w' => ?_
  rw [Op.bind_exec, Op.ofExcept_exec]
  cases charset.requireText.mapError Fault.charset with
  | error f => rfl
  | ok codec =>
    dsimp only
    split <;> rfl

/-- So does opening them in any form. -/
theorem openStream_accesses {h : η} {r : Record (Watched σ η)}
    (hsource : r.content.source = store.watched.contents h) :
    Asks (openingPlan w h r) r.content.openStream w := by
  rw [Lob.openStream]
  cases r.content.charset with
  | none => exact (take_accesses hsource).bind fun supply w' => rfl
  | some charset => exact (takeText_accesses hsource charset).bind fun text w' => rfl

/-- Reading what is to be saved asks for the file of a record, if it is the contents of one. -/
theorem toReader_accesses {h : η} {r : Record (Watched σ η)}
    (hsource : r.content.source = store.watched.contents h) (charset : Encoding.Charset) :
    Asks (openingPlan w h r) ((Payload.lob r.content).toReader charset) w := by
  rw [Payload.toReader]
  cases r.content.charset with
  | none =>
    refine (take_accesses hsource).bind fun supply w' => ?_
    rw [Op.ofExcept_exec]
  | some own =>
    refine (takeText_accesses hsource own).bind fun text w' => ?_
    rw [Payload.toReader.encoded, Op.bind_exec, Op.ofExcept_exec]
    cases charset.require.mapError Fault.charset <;> rfl

/-- Reading anything else that is to be saved asks for nothing. -/
theorem toReader_accesses_given {payload : Payload (Watched σ η)}
    (hgiven : ∀ l, payload ≠ .lob l) (charset : Encoding.Charset) :
    Asks [] (payload.toReader charset) w := by
  refine .nothing ?_
  cases payload with
  | characters text =>
    rw [Payload.toReader, Payload.toReader.encoded, Op.bind_exec, Op.ofExcept_exec]
    cases charset.require.mapError Fault.charset <;> rfl
  | xmlText document =>
    rw [Payload.toReader, Op.bind_exec, Op.ofExcept_exec]
    cases (Encoding.encodeUtf8 document).mapError Fault.coding <;> rfl
  | binary data | xmlBytes data => rw [Payload.toReader, Op.ofExcept_exec]
  | lob l => exact absurd rfl (hgiven l)
  | other type => rfl

/-- Showing a record asks for its file if the contents are wanted, in the form that they have. -/
theorem row_accesses {h : η} {r : Record (Watched σ η)}
    (hsource : r.content.source = store.watched.contents h) (columns : List String)
    (maxChars : Option Int) :
    Asks (if columns.contains Column.file.name && r.content.charset.isSome == maxChars.isSome
      then openingPlan w h r else []) (Session.rowOf r columns maxChars) w := by
  have hread : Asks (openingPlan w h r) r.content.read w :=
    (openStream_accesses hsource).bind fun s w' => by rw [Op.ofExcept_exec]
  have hcontents (asText : Bool) (n : Int) :
      Asks (if columns.contains Column.file.name && r.content.charset.isSome == asText
        then openingPlan w h r else []) (Row.contents r columns asText n) w := by
    rw [Row.contents]
    cases columns.contains Column.file.name with
    | false => exact .nothing rfl
    | true =>
      rw [Bool.true_and, Bool.not_true, if_neg Bool.false_ne_true, bne]
      by_cases hform : (r.content.charset.isSome == asText) = true
      · rw [if_pos hform, if_neg (by simp [hform])]
        exact hread.map _
      · rw [if_neg hform, if_pos (by simpa using hform)]
        exact .nothing rfl
  cases maxChars with
  | some n => exact (hcontents true n).bind fun cell w' => by rw [Op.ofExcept_exec]
  | none => exact (hcontents false 0).bind fun cell w' => by rw [Op.ofExcept_exec]

/-- Listing asks for one resolution. -/
theorem list_accesses {request : Request (Watched σ η)} (hkind : request.kind.isListing = true)
    (hvalid : isRefused (some request) = false) :
    let a : Adapter (Watched σ η) η := ⟨store.watched, config⟩
    ∃ pattern, request.path = some pattern ∧
      Makes [.resolve pattern] w ((a.execute (some request)).exec w).2 := by
  intro a
  obtain ⟨pattern, hpath⟩ := path_of_listing hkind hvalid
  refine ⟨pattern, hpath, ?_⟩
  rw [a.execute_list hkind hpath hvalid]
  rcases hfound : (store.watched.resolve pattern).exec w with ⟨f | files, w'⟩
  · have hseen := Op.seen_of_watch hfound
    exact ⟨_, hseen, .one _ _⟩
  · have hseen := Op.seen_of_watch hfound
    exact ⟨_, hseen, .one _ _⟩

/-- Removing a file asks for this once. -/
theorem delete_accesses {request : Request (Watched σ η)} {path : String}
    (hpath : requiredPath request = .ok path) :
    Makes [.remove path] w
      (((⟨store.watched, config⟩ : Adapter _ _).delete request).exec w).2 := by
  simp only [delete, hpath, Op.bind_exec, Op.ofExcept_exec, Op.note_exec, Op.mapFault_exec]
  rcases hremoved : (store.watched.remove path).exec _ with ⟨f | removed, w'⟩
  · have hseen := Op.seen_of_watch hremoved
    exact ⟨_, hseen, .one _ _⟩
  · have hseen := Op.seen_of_watch hremoved
    simp only [Outcome.mapError_ok]
    cases removed with
    | true => exact ⟨_, hseen, .one _ _⟩
    | false =>
      cases config.failOnMissing with
      | true => exact ⟨_, hseen, .one _ _⟩
      | false => exact ⟨_, hseen, .one _ _⟩

/-- Saving reads what is to be saved, and then asks for one write if there are bytes. -/
theorem save_accesses {request : Request (Watched σ η)} {path : String}
    {payload : Payload (Watched σ η)} {opening : List (Access η)}
    (hpath : requiredPath request = .ok path) (hcontent : request.content = some payload)
    (hread : Asks opening (payload.toReader config.charset) (saving path w)) :
    let a : Adapter (Watched σ η) η := ⟨store.watched, config⟩
    Makes (opening ++ if a.hasBytes w path (some payload) then [.write path] else []) w
      ((a.save request).exec w).2 := by
  intro a
  have hexec : ((a.save request).exec w).2 =
      match (payload.toReader config.charset).exec (saving path w) with
      | (.ok content, w) => ((store.watched.write path content).exec w).2
      | (.error _, w) => w := by
    simp only [save, hpath, hcontent, Op.bind_exec, Op.ofExcept_exec, Op.note_exec,
      Op.mapFault_exec, saving, a]
    rcases (payload.toReader config.charset).exec _ with ⟨f | content, w⟩ <;> rfl
  obtain ⟨hmakes, hclean⟩ := hread
  rw [hexec, hasBytes]
  rcases hbytes : (payload.toReader config.charset).exec (saving path w) with ⟨f | content, w₁⟩
  · rw [hbytes] at hmakes
    rw [Except.isOk, Except.toBool, if_neg Bool.false_ne_true, List.append_nil]
    exact hmakes
  · rw [hbytes] at hclean
    rcases hwrite : (store.watched.write path content).exec w₁ with ⟨outcome, w₂⟩
    have hseen := Op.seen_of_watch hwrite
    simp only [hwrite]
    exact Makes.after (hclean rfl) ⟨_, hseen, .one _ _⟩

/-- A request asks for what its plan says. -/
theorem execute_accesses {request : Request (Watched σ η)} {opening : List (Access η)}
    (hread : ∀ path payload, request.content = some payload →
      Asks opening (payload.toReader config.charset) (saving path w)) :
    let a : Adapter (Watched σ η) η := ⟨store.watched, config⟩
    Makes (a.requestPlan w opening request) w ((a.execute (some request)).exec w).2 := by
  intro a
  rw [requestPlan]
  cases hrefused : isRefused (some request) with
  | true =>
    obtain ⟨f, notes, hfail, -⟩ := a.execute_refused hrefused w
    rw [hfail]
    exact .none rfl
  | false =>
    obtain ⟨kind, path, content, columns⟩ := request
    cases kind with
    | listText =>
      obtain ⟨pattern, rfl, hmakes⟩ := list_accesses rfl hrefused
      exact hmakes
    | listBinary =>
      obtain ⟨pattern, rfl, hmakes⟩ := list_accesses rfl hrefused
      exact hmakes
    | save =>
      obtain ⟨hblank, hcontent⟩ := Bool.or_eq_false_iff.mp hrefused
      obtain ⟨p, rfl, hpath⟩ := requiredPath_of_not_blank ⟨.save, path, content, columns⟩ hblank
      cases content with
      | none => cases hcontent
      | some payload =>
        have hworld : ((a.execute (some ⟨.save, some p, some payload, columns⟩)).exec w).2 =
            ((a.save ⟨.save, some p, some payload, columns⟩).exec w).2 := Op.bind_pure_world w _ _
        rw [hworld]
        exact save_accesses hpath rfl (hread p payload rfl)
    | delete =>
      obtain ⟨p, rfl, hpath⟩ := requiredPath_of_not_blank ⟨.delete, path, content, columns⟩ hrefused
      have hworld : ((a.execute (some ⟨.delete, some p, content, columns⟩)).exec w).2 =
          ((a.delete ⟨.delete, some p, content, columns⟩).exec w).2 := Op.bind_pure_world w _ _
      rw [hworld]
      exact delete_accesses hpath
    | other name => cases hrefused

/-- What is asked for when an operation of a session is carried out. -/
theorem perform_accesses {s : Session (Watched σ η) η} {plan : List (Access η)}
    {op : Op (Watched σ η) α} (reply : α → Session.Reply (Watched σ η) η)
    {keep : Session (Watched σ η) η → α → Session (Watched σ η) η}
    (h : Makes plan s.world (op.exec s.world).2) (hkeep : ∀ s x, (keep s x).world = s.world) :
    Makes plan s.world (s.perform op reply keep).2.world := by
  rw [Session.perform]
  rcases hop : op.exec s.world with ⟨f | x, w⟩
  · rw [hop] at h
    exact h
  · rw [hop] at h
    simp only [hkeep]
    exact h

end

section

variable {store : Store σ η} {config : Config} {s : Session (Watched σ η) η}

/-- The contents of a record that is held are those of its file. -/
theorem source_of_held
    (hof : ∀ p ∈ s.records, (⟨store.watched, config⟩ : Adapter _ _).IsRecordOf p.1 p.2) {i : Nat} {h : η}
    {r : Record (Watched σ η)} (hr : s.records[i]? = some (h, r)) :
    r.content.source = store.watched.contents h := by
  obtain ⟨-, kind, length, ticket, hcontent⟩ := hof (h, r) (List.mem_of_getElem? hr)
  rw [hcontent]
  rfl

variable (store config s)

/-- Carrying out a request that saves no large object from elsewhere asks for what its plan says. -/
theorem call_execute_makes {request : Option (Request (Watched σ η))}
    (hplain : (Session.Call.execute request).IsPlain) :
    let a : Adapter (Watched σ η) η := ⟨store.watched, config⟩
    Makes (a.plan s (.execute request)) s.world (a.call s (.execute request)).2.world := by
  intro a
  cases request with
  | none => exact .none rfl
  | some request =>
    exact perform_accesses _ (execute_accesses fun path payload hpayload =>
      toReader_accesses_given (fun l hl => hplain l (hl ▸ hpayload)) _) fun s c => rfl

/-- So does saving the contents of a record. -/
theorem call_copy_makes
    (hof : ∀ p ∈ s.records, (⟨store.watched, config⟩ : Adapter _ _).IsRecordOf p.1 p.2)
    (request : Request (Watched σ η)) (i : Nat) :
    let a : Adapter (Watched σ η) η := ⟨store.watched, config⟩
    Makes (a.plan s (.copy request i)) s.world (a.call s (.copy request i)).2.world := by
  intro a
  rw [plan, call]
  rcases hr : s.records[i]? with _ | ⟨h, r⟩
  · exact .none rfl
  · refine perform_accesses _ (execute_accesses fun path payload hpayload => ?_) fun s c => rfl
    obtain rfl := Option.some.inj hpayload
    exact toReader_accesses (w := saving path s.world) (source_of_held hof hr) _

/-- Passing one file of a cursor asks for the metadata of this file, if they are wanted. -/
theorem call_next_makes (j : Nat) :
    let a : Adapter (Watched σ η) η := ⟨store.watched, config⟩
    Makes (a.plan s (.next j)) s.world (a.call s (.next j)).2.world := by
  intro a
  rw [plan]
  cases hc : s.cursors[j]? with
  | none =>
    rw [call, hc]
    exact .none rfl
  | some c =>
    cases hleft : c.remaining with
    | nil =>
      simp only [call_next_nil hc hleft, hleft]
      exact .none rfl
    | cons h rest =>
      have hmade := record_accesses store config c h s.world
      rcases hrecord : (a.record c h).exec s.world with ⟨f | r, w⟩
      · rw [hrecord] at hmade
        simp only [call_next_error hc hleft hrecord, hleft]
        rw [← List.append_nil (recordPlan c h)]
        exact hmade []
      · rw [hrecord] at hmade
        simp only [call_next_ok hc hleft hrecord, hleft]
        exact ⟨_, hmade, .all _⟩

/-- Passing all files of a cursor asks for those of one after the other. -/
theorem call_iterate_makes (j : Nat) :
    let a : Adapter (Watched σ η) η := ⟨store.watched, config⟩
    Makes (a.plan s (.iterate j)) s.world (a.call s (.iterate j)).2.world := by
  intro a
  rw [plan, call]
  cases s.cursors[j]? with
  | none => exact .none rfl
  | some c =>
    have hmade := drain_accesses store config c s.world
    simp only
    rcases hdrain : a.drain c s.world with ⟨f | rs, after, w⟩
    · rw [hdrain] at hmade
      exact hmade
    · rw [hdrain] at hmade
      exact hmade

/-- Showing a record asks for its contents, if they are wanted. -/
theorem call_row_makes
    (hof : ∀ p ∈ s.records, (⟨store.watched, config⟩ : Adapter _ _).IsRecordOf p.1 p.2) (i : Nat)
    (columns : List String) (maxChars : Option Int) :
    let a : Adapter (Watched σ η) η := ⟨store.watched, config⟩
    Makes (a.plan s (.row i columns maxChars)) s.world (a.call s (.row i columns maxChars)).2.world := by
  intro a
  rw [plan, call]
  rcases hr : s.records[i]? with _ | ⟨h, r⟩
  · exact .none rfl
  · exact perform_accesses _ (row_accesses (source_of_held hof hr) columns maxChars).makes
      fun s row => rfl

/-- Opening the contents of a record asks for them. -/
theorem call_openStream_makes
    (hof : ∀ p ∈ s.records, (⟨store.watched, config⟩ : Adapter _ _).IsRecordOf p.1 p.2) (i : Nat) :
    let a : Adapter (Watched σ η) η := ⟨store.watched, config⟩
    Makes (a.plan s (.openStream i)) s.world (a.call s (.openStream i)).2.world := by
  intro a
  rw [plan, call]
  rcases hr : s.records[i]? with _ | ⟨h, r⟩
  · exact .none rfl
  · exact perform_accesses _ (openStream_accesses (source_of_held hof hr)).makes fun s stream => rfl

/-- **Step.** A call asks for what its plan says, when the records that are held are those of their files. -/
theorem call_makes {x : Session.Call (Watched σ η)} (hx : x.IsPlain) (hown : x.isMeanwhile = false)
    (hof : ∀ p ∈ s.records, (⟨store.watched, config⟩ : Adapter _ _).IsRecordOf p.1 p.2) :
    let a : Adapter (Watched σ η) η := ⟨store.watched, config⟩
    Makes (a.plan s x) s.world (a.call s x).2.world := by
  intro a
  cases x with
  | execute request => exact call_execute_makes store config s hx
  | copy request i => exact call_copy_makes store config s hof request i
  | next j => exact call_next_makes store config s j
  | iterate j => exact call_iterate_makes store config s j
  | row i columns maxChars => exact call_row_makes store config s hof i columns maxChars
  | openStream i => exact call_openStream_makes store config s hof i
  | close j =>
    rw [plan, call]
    cases s.cursors[j]? with
    | none => exact .none rfl
    | some c => exact .none rfl
  | read i n room =>
    rw [call]
    cases s.streams[i]? with
    | none => exact .none rfl
    | some stream => exact .none rfl
  | meanwhile change => cases hown

/-- Only calls that open contents plan to ask for some. -/
theorem opens_of_mem_plan {a : Adapter σ η} {s : Session σ η} {x : Session.Call σ} {h : η}
    (hmem : .contents h ∈ a.plan s x) : x.opens = true := by
  have hrecord (c : Cursor η) (k : η) : .contents h ∉ recordPlan c k := by
    rw [recordPlan]
    split <;> simp
  cases x with
  | execute request =>
    cases request with
    | none => cases hmem
    | some request =>
      rw [plan, requestPlan] at hmem
      split at hmem
      · cases hmem
      · split at hmem
        all_goals simp at hmem
  | next j =>
    rw [plan] at hmem
    split at hmem
    · cases hmem
    · split at hmem
      · cases hmem
      · exact absurd hmem (hrecord _ _)
  | iterate j =>
    rw [plan] at hmem
    split at hmem
    · cases hmem
    · obtain ⟨k, -, hmem⟩ := List.mem_flatMap.mp hmem
      exact absurd hmem (hrecord _ _)
  | row i columns maxChars =>
    rw [plan] at hmem
    split at hmem
    · cases hmem
    · split at hmem
      · rename_i hwanted
        exact (Bool.and_eq_true_iff.mp hwanted).1
      · cases hmem
  | copy request i => rfl
  | openStream i => rfl
  | close j => cases hmem
  | read i n room => cases hmem
  | meanwhile change => cases hmem

/-- A request that makes no sense is refused without asking for anything. -/
theorem call_refused {a : Adapter σ η} {s : Session σ η} {x : Session.Call σ}
    {request : Option (Request σ)} (hrequest : s.request? x = some request)
    (hrefused : isRefused request = true) :
    a.plan s x = [] ∧ ∃ f, (a.call s x).1 = .error f ∧ f.family = .invalidRequest := by
  have hplan (opening : List (Access η)) {r : Request σ} (hr : request = some r) :
      a.requestPlan s.world opening r = [] := by
    rw [requestPlan, ← hr, if_pos hrefused]
  constructor
  · cases x with
    | execute r =>
      obtain rfl := Option.some.inj hrequest
      cases r with
      | none => rfl
      | some r => exact hplan [] rfl
    | copy r i =>
      rw [Session.request?] at hrequest
      rw [plan]
      rcases hr : s.records[i]? with _ | ⟨h, held⟩
      · rfl
      · rw [hr] at hrequest
        exact hplan _ (Option.some.inj hrequest).symm
    | _ => cases hrequest
  · obtain ⟨f, notes, hfail, hfamily⟩ := a.execute_refused hrefused s.world
    refine ⟨f, ?_, hfamily⟩
    rw [call_of_request hrequest, Session.perform, hfail]

/-- Columns want metadata exactly if one of them is neither the contents nor the name. -/
theorem projectsMetadata_iff (columns : List String) :
    projectsMetadata columns = true ↔ ∃ name ∈ columns, name ≠ "file" ∧ name ≠ "filePath" := by
  simp [projectsMetadata, Column.isPlain]

/-- The cursor that a request gives is held as the last one. -/
theorem call_cursor {a : Adapter σ η} {s : Session σ η} {x : Session.Call σ} {request : Request σ}
    (hrequest : s.request? x = some (some request)) {c : Cursor η}
    (hreply : (a.call s x).1 = .ok (.cursor c)) :
    (a.call s x).2.cursors[s.cursors.length]? = some c ∧
      c.metadata = projectsMetadata request.columns := by
  obtain ⟨w, hexec, hafter⟩ := call_eq_cursor hrequest hreply
  rw [hafter]
  exact ⟨List.getElem?_concat_length, (execute_eq_ok hexec).2.1⟩

end

end Adapter

/-- What the next file of a listing is asked for, where it has certain columns: all its metadata if one of them is
neither the contents nor the name, and otherwise nothing. -/
def columnPlan (columns : List String) (h : η) : List (Access η) :=
  if ∃ name ∈ columns, name ≠ "file" ∧ name ≠ "filePath" then [.modified h, .created h, .size h] else []

theorem recordPlan_eq {c : Cursor η} {columns : List String} (hmeta : c.metadata = projectsMetadata columns)
    (h : η) : Adapter.recordPlan c h = columnPlan columns h := by
  simp only [Adapter.recordPlan, columnPlan, hmeta, Adapter.projectsMetadata_iff]

/-- **Accesses.** A call asks the store for what its plan says, whatever happened before. Contents are asked
for by calls that open them only. A request that makes no sense is refused without asking for anything. After a
request that gives a cursor, and any more calls, passing the next file of this cursor asks for what the columns
of the request want, which are the metadata of the file or nothing, and so does passing all files that are
left, one after the other. -/
theorem call_accesses (store : Store σ η) (config : Config) (start : World (Watched σ η))
    (cursors : List (Cursor η)) (streams : List Stream) (calls : List (Session.Call (Watched σ η)))
    {x : Session.Call (Watched σ η)} (hx : x.IsPlain) (hown : x.isMeanwhile = false) :
    let a : Adapter (Watched σ η) η := ⟨store.watched, config⟩
    let s := a.calls ⟨start, cursors, [], streams⟩ calls
    Makes (a.plan s x) s.world (a.call s x).2.world ∧
      (∀ h, .contents h ∈ a.plan s x → x.opens = true) ∧
      (∀ request, s.request? x = some request → isRefused request = true →
        a.plan s x = [] ∧ ∃ f, (a.call s x).1 = .error f ∧ f.family = .invalidRequest) ∧
      (∀ request c, s.request? x = some (some request) → (a.call s x).1 = .ok (.cursor c) →
        ∀ more, let t := a.calls (a.call s x).2 more
          ∃ after, t.cursors[s.cursors.length]? = some after ∧
            a.plan t (.next s.cursors.length) =
              after.remaining.head?.toList.flatMap (columnPlan request.columns) ∧
            a.plan t (.iterate s.cursors.length) =
              after.remaining.flatMap (columnPlan request.columns)) := by
  intro a s
  have hof : ∀ p ∈ s.records, a.IsRecordOf p.1 p.2 := by
    obtain ⟨new, hnew, hof⟩ := a.records_calls ⟨start, cursors, [], streams⟩ calls
    rwa [← List.nil_append new, ← hnew] at hof
  refine ⟨Adapter.call_makes store config s hx hown hof, fun h => Adapter.opens_of_mem_plan,
    fun request => Adapter.call_refused, fun request c hrequest hreply more => ?_⟩
  obtain ⟨hheld, hmeta⟩ := Adapter.call_cursor hrequest hreply
  obtain ⟨after, hafter, -, hmeta', -⟩ := a.cursors_calls hheld more
  have hplan : Adapter.recordPlan after = (columnPlan request.columns : η → List (Access η)) :=
    funext (recordPlan_eq (hmeta'.trans hmeta))
  refine ⟨after, hafter, ?_, ?_⟩
  · simp only [Adapter.plan, hafter]
    cases after.remaining with
    | nil => rfl
    | cons h rest => simp [hplan]
  · simp only [Adapter.plan, hafter, hplan]

/-- The metadata of a file without a size are asked for up to the size, and the contents are not. A listing of
contents and names asks for no metadata at all. -/
theorem call_accesses_broken :
    let a : Adapter (Watched (List Call) ScriptedFile) ScriptedFile :=
      ⟨threeFiles.store.watched, ⟨.utf8, true⟩⟩
    let h : ScriptedFile := ⟨"b", [2], ⟨0⟩, none, some (.size, .given (.system .other) "gone")⟩
    let s := a.calls ⟨.fresh ⟨[], []⟩, [], [], []⟩
      [.execute (some ⟨.listText, some "*", none, ["file", "size"]⟩), .next 0]
    let t := (a.call s (.execute (some ⟨.listText, some "*", none, ["filePath", "file"]⟩))).2
    (Makes [.modified h, .created h, .size h] s.world (a.call s (.next 0)).2.world ∧
      s.world.store.seen.length = 4 ∧ (a.call s (.next 0)).2.world.store.seen.length = 7) ∧
    (∃ after, t.cursors[1]? = some after ∧ after.remaining.length = 3) ∧
    a.plan t (.next 1) = [] ∧ a.plan t (.iterate 1) = [] ∧
    t.world.store.seen.length = 5 ∧ (a.call t (.next 1)).2.world.store.seen.length = 5 := by
  intro a h s t
  have hplan : a.plan s (.next 0) = [.modified h, .created h, .size h] := by rfl
  have hmakes := (call_accesses threeFiles.store ⟨.utf8, true⟩ (.fresh ⟨[], []⟩) [] []
    [.execute (some ⟨.listText, some "*", none, ["file", "size"]⟩), .next 0]
    (x := .next 0) trivial rfl).1
  obtain ⟨after, hafter, hnext, hiterate⟩ := (call_accesses threeFiles.store ⟨.utf8, true⟩
    (.fresh ⟨[], []⟩) [] [] [.execute (some ⟨.listText, some "*", none, ["file", "size"]⟩), .next 0]
    (x := .execute (some ⟨.listText, some "*", none, ["filePath", "file"]⟩)) nofun rfl).2.2.2
    _ _ rfl rfl []
  have hnone (k : ScriptedFile) : columnPlan ["filePath", "file"] k = [] := if_neg (by decide)
  refine ⟨⟨hplan ▸ hmakes, by decide +kernel, by decide +kernel⟩, ⟨after, hafter, ?_⟩, ?_, ?_,
    by decide +kernel, by decide +kernel⟩
  · obtain rfl := Option.some.inj hafter
    decide +kernel
  · exact hnext.trans (List.flatMap_eq_nil_iff.mpr fun k _ => hnone k)
  · exact hiterate.trans (List.flatMap_eq_nil_iff.mpr fun k _ => hnone k)

end FileDepot
