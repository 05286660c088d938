import FileDepot.Adapter
import FileDepot.Proofs.Operation
import FileDepot.Proofs.Outcome

/-!
# Requests

A request that makes no sense is refused, whatever the store holds, and before it is asked for anything
(`Adapter.execute_refused`). Any other request that succeeds gives a cursor: a listing gives one over all
that its pattern is resolved to (`Adapter.execute_eq_ok`).
-/

namespace FileDepot

variable {σ η : Type}

/-- Whether a request makes no sense, whatever the store holds. -/
def isRefused : Option (Request σ) → Bool
  | none => true
  | some r =>
    match r.kind with
    | .listText | .listBinary =>
      r.path.isNone || r.columns.isEmpty || r.columns.any fun c => !Column.allNames.contains c
    | .save => isBlank r.path || (match r.content with | none | some (.other _) => true | _ => false)
    | .delete => isBlank r.path
    | .other _ => true
where
  /-- Whether a path is missing, or has nothing but blanks. -/
  isBlank : Option String → Bool
    | none => true
    | some p => (Text.trim p.toList).isEmpty

namespace Adapter

/-- A procedure is carried out as a request, for all columns if none are named. -/
theorem procedure_exec (a : Adapter σ η) {name : Option String} {kind : Kind}
    (hkind : Kind.ofProcedure name = .ok kind) (path : Option String) (content : Option (Payload σ))
    (columns : List String) (w : World σ) :
    (a.procedure name path content columns).exec w = (a.execute (some
      ⟨kind, path, if kind = .save then content else none,
        if columns.isEmpty then Column.allNames else columns⟩)).exec w := by
  simp only [procedure, Op.bind_exec, Op.ofExcept_exec, hkind]

theorem isNone_ofName? (s : String) :
    (Column.ofName? s).isNone = !Column.allNames.contains s := by
  rw [← Option.not_isSome, Bool.not_inj_iff, Bool.eq_iff_iff, Column.ofName?, List.find?_isSome]
  simp [Column.allNames]

/-- A path that is missing or blank is refused. -/
theorem requiredPath_of_blank (request : Request σ)
    (h : isRefused.isBlank request.path = true) :
    requiredPath request = .error (.refused .noPath) := by
  rw [requiredPath]
  cases hpath : request.path with
  | none => rfl
  | some p =>
    rw [hpath] at h
    exact if_pos h

theorem requiredPath_of_not_blank (request : Request σ)
    (h : isRefused.isBlank request.path = false) :
    ∃ path, request.path = some path ∧ requiredPath request = .ok path := by
  rw [requiredPath]
  cases hpath : request.path with
  | none =>
    rw [hpath] at h
    cases h
  | some p =>
    rw [hpath] at h
    exact ⟨p, rfl, if_neg (Bool.eq_false_iff.mp h)⟩

/-- The path of a request that must have one is the one that it was given. -/
theorem path_of_requiredPath {request : Request σ} {path : String}
    (h : requiredPath request = .ok path) : request.path = some path := by
  rw [requiredPath] at h
  cases hpath : request.path with
  | none =>
    rw [hpath] at h
    cases h
  | some p =>
    rw [hpath] at h
    dsimp only at h
    split at h
    · cases h
    · rw [Except.ok.inj h]

/-- **Refusal.** A request that makes no sense is refused by every adapter alike, before the store is asked for
anything. -/
theorem execute_refused_alike {request : Option (Request σ)} (h : isRefused request = true)
    (w : World σ) :
    ∃ f notes, (∀ a : Adapter σ η,
      (a.execute request).exec w = (.error f, { w with notes := notes })) ∧
      f.family = .invalidRequest := by
  cases request with
  | none => exact ⟨_, w.notes, fun a => rfl, rfl⟩
  | some request =>
    obtain ⟨kind, path, content, columns⟩ := request
    have hlist (h : (path.isNone || columns.isEmpty ||
        columns.any fun c => !Column.allNames.contains c) = true) :
        ∃ f notes, (∀ a : Adapter σ η, (a.list ⟨kind, path, content, columns⟩).exec w =
          (.error f, { w with notes := notes })) ∧ f.family = .invalidRequest := by
      cases path with
      | none => exact ⟨_, w.notes, fun a => rfl, rfl⟩
      | some pattern =>
        have hcolumns : (columns.isEmpty ||
            columns.any fun c => !Column.allNames.contains c) = true := h
        refine ⟨.refused (.columns columns), w.notes, fun a => ?_, rfl⟩
        simp only [list, isNone_ofName?, hcolumns, if_true]
        rfl
    cases kind with
    | listText => exact hlist h
    | listBinary => exact hlist h
    | save =>
      cases hblank : isRefused.isBlank path with
      | true =>
        simp only [execute, save, requiredPath_of_blank ⟨.save, path, content, columns⟩ hblank,
          Op.bind_exec, Op.ofExcept_exec]
        exact ⟨_, w.notes, fun a => rfl, rfl⟩
      | false =>
        obtain ⟨p, -, hpath⟩ := requiredPath_of_not_blank
          ⟨.save, path, content, columns⟩ hblank
        simp only [execute, save, hpath, Op.bind_exec, Op.ofExcept_exec]
        cases content with
        | none => exact ⟨_, w.notes, fun a => rfl, rfl⟩
        | some payload =>
          cases payload with
          | other type => exact ⟨_, _, fun a => rfl, rfl⟩
          | _ =>
            simp only [isRefused, hblank] at h
            cases h
    | delete =>
      simp only [execute, delete, requiredPath_of_blank ⟨.delete, path, content, columns⟩ h,
        Op.bind_exec, Op.ofExcept_exec]
      exact ⟨_, w.notes, fun a => rfl, rfl⟩
    | other name => exact ⟨_, w.notes, fun a => rfl, rfl⟩

theorem execute_refused (a : Adapter σ η) {request : Option (Request σ)}
    (h : isRefused request = true) (w : World σ) :
    ∃ f notes, (a.execute request).exec w = (.error f, { w with notes := notes }) ∧
      f.family = .invalidRequest := by
  obtain ⟨f, notes, hrefused, hfamily⟩ := @execute_refused_alike σ η _ h w
  exact ⟨f, notes, hrefused a, hfamily⟩

/-- A listing that makes sense has a path. -/
theorem path_of_listing {request : Request σ} (hkind : request.kind.isListing = true)
    (h : isRefused (some request) = false) : ∃ pattern, request.path = some pattern := by
  obtain ⟨kind, path, content, columns⟩ := request
  cases path with
  | some pattern => exact ⟨pattern, rfl⟩
  | none =>
    cases kind with
    | listText => cases h
    | listBinary => cases h
    | _ => cases hkind

/-- A save that makes sense has a path and contents. -/
theorem save_of_not_refused {request : Request σ} (hkind : request.kind = .save)
    (h : isRefused (some request) = false) :
    ∃ path payload, requiredPath request = .ok path ∧ request.content = some payload := by
  simp only [isRefused, hkind, Bool.or_eq_false_iff] at h
  obtain ⟨path, -, hpath⟩ := requiredPath_of_not_blank request h.1
  cases hcontent : request.content with
  | none =>
    rw [hcontent] at h
    cases h.2
  | some payload => exact ⟨path, payload, hpath, rfl⟩

/-- A removal that makes sense has a path. -/
theorem delete_of_not_refused {request : Request σ} (hkind : request.kind = .delete)
    (h : isRefused (some request) = false) : ∃ path, requiredPath request = .ok path := by
  simp only [isRefused, hkind] at h
  obtain ⟨path, -, hpath⟩ := requiredPath_of_not_blank request h
  exact ⟨path, hpath⟩

/-- **List.** A listing that makes sense has its pattern resolved. What is found is passed by its cursor; when
nothing is found, this may be a fault. -/
theorem execute_list (a : Adapter σ η) {request : Request σ} {pattern : String}
    (hkind : request.kind.isListing = true) (hpath : request.path = some pattern)
    (h : isRefused (some request) = false) (w : World σ) :
    (a.execute (some request)).exec w =
      match (a.store.resolve pattern).exec w with
      | (.error f, w) => (.error (resolveFault pattern f), w)
      | (.ok files, w) =>
        (if files.isEmpty && a.config.failOnMissing then .error (.notFound pattern)
          else .ok ⟨request.kind, projectsMetadata request.columns, files, 0, false⟩,
          { w with notes := ⟨.debug, .operations,
            "Getting " ++ toString files.length ++ " file(s)"⟩ :: w.notes }) := by
  obtain ⟨kind, path, content, columns⟩ := request
  obtain rfl : path = some pattern := hpath
  have hlist (hcolumns : (columns.isEmpty ||
      columns.any fun c => !Column.allNames.contains c) = false) :
      (a.list ⟨kind, some pattern, content, columns⟩).exec w =
        match (a.store.resolve pattern).exec w with
        | (.error f, w) => (.error (resolveFault pattern f), w)
        | (.ok files, w) =>
          (if files.isEmpty && a.config.failOnMissing then .error (.notFound pattern)
            else .ok ⟨kind, projectsMetadata columns, files, 0, false⟩,
            { w with notes := ⟨.debug, .operations,
              "Getting " ++ toString files.length ++ " file(s)"⟩ :: w.notes }) := by
    simp only [← isNone_ofName?] at hcolumns
    simp only [list, hcolumns, Bool.false_eq_true, if_false, Op.bind_exec, Op.mapFault_exec]
    rcases (a.store.resolve pattern).exec w with ⟨f | files, w₁⟩
    · rfl
    · simp only [Outcome.mapError_ok, Op.note_exec]
      split <;> rfl
  cases kind with
  | listText => exact hlist h
  | listBinary => exact hlist h
  | _ => cases hkind

/-- **Save.** A save that makes sense has its payload read, and then the store writes what was read. -/
theorem execute_save (a : Adapter σ η) {request : Request σ} {path : String} {payload : Payload σ}
    (hkind : request.kind = .save) (hpath : requiredPath request = .ok path)
    (hcontent : request.content = some payload) (w : World σ) :
    (a.execute (some request)).exec w =
      match (payload.toReader a.config.charset).exec
        { w with notes := ⟨.debug, .operations, "Saving " ++ path⟩ :: w.notes } with
      | (.error f, w) => (.error (writeFault path f), w)
      | (.ok content, w) =>
        match (a.store.write path content).exec w with
        | (.error f, w) => (.error (writeFault path f), w)
        | (.ok _, w) => (.ok (finished request), w) := by
  simp only [execute, hkind, save, hpath, hcontent, Op.bind_exec, Op.ofExcept_exec, Op.note_exec,
    Op.mapFault_exec, Op.pure_exec]
  rcases (payload.toReader a.config.charset).exec _ with ⟨f | content, w⟩
  · rfl
  · simp only
    rcases (a.store.write path content).exec w with ⟨f | _, w⟩ <;> rfl

/-- A save without contents, or at no path, is refused. -/
theorem execute_save_eq_error (a : Adapter σ η) {request : Request σ} (hkind : request.kind = .save)
    (h : ∀ path payload, requiredPath request = .ok path → request.content ≠ some payload)
    (w : World σ) :
    ∃ refusal, (a.execute (some request)).exec w = (.error (.refused refusal), w) := by
  simp only [execute, hkind, save, Op.bind_exec, Op.ofExcept_exec]
  cases hblank : isRefused.isBlank request.path with
  | true =>
    rw [requiredPath_of_blank request hblank]
    exact ⟨_, rfl⟩
  | false =>
    obtain ⟨path, -, hpath⟩ := requiredPath_of_not_blank request hblank
    rw [hpath]
    cases hcontent : request.content with
    | none => exact ⟨_, rfl⟩
    | some payload => exact absurd hcontent (h path payload hpath)

/-- **Delete.** A removal that makes sense is one of the store. When there was nothing to remove, this may be a
fault. -/
theorem execute_delete (a : Adapter σ η) {request : Request σ} {path : String}
    (hkind : request.kind = .delete) (hpath : requiredPath request = .ok path) (w : World σ) :
    (a.execute (some request)).exec w =
      match (a.store.remove path).exec
        { w with notes := ⟨.debug, .operations, "Deleting " ++ path⟩ :: w.notes } with
      | (.error f, w) => (.error (deleteFault path f), w)
      | (.ok true, w) => (.ok (finished request), w)
      | (.ok false, w) =>
        if a.config.failOnMissing then (.error (.notFound path), w)
        else (.ok (finished request), { w with notes :=
          ⟨.debug, .operations, "Nothing to delete at " ++ path⟩ :: w.notes }) := by
  simp only [execute, hkind, delete, hpath, Op.bind_exec, Op.ofExcept_exec, Op.note_exec,
    Op.mapFault_exec, Op.pure_exec]
  rcases (a.store.remove path).exec _ with ⟨f | removed, w⟩
  · rfl
  · cases removed with
    | true => rfl
    | false =>
      simp only [Outcome.mapError_ok, Bool.false_eq_true, if_false]
      cases a.config.failOnMissing <;> rfl

/-- **Cursor.** The cursor of a request that succeeds is at its beginning; that of a listing has the files
that the pattern is resolved to. -/
theorem execute_eq_ok {a : Adapter σ η} {request : Request σ} {w w' : World σ} {c : Cursor η}
    (h : (a.execute (some request)).exec w = (.ok c, w')) :
    c.kind = request.kind ∧ c.metadata = projectsMetadata request.columns ∧ c.index = 0 ∧
      c.closed = false ∧
      if request.kind.isListing then
        ∃ pattern w₁ note, request.path = some pattern ∧
          (a.store.resolve pattern).exec w = (.ok c.files, w₁) ∧
          w' = { w₁ with notes := note :: w₁.notes }
      else c.files = [] := by
  have hvalid : isRefused (some request) = false := by
    refine Bool.eq_false_iff.mpr fun hrefused => ?_
    obtain ⟨f, notes, hfail, -⟩ := a.execute_refused hrefused w
    rw [hfail] at h
    cases h
  cases hkind : request.kind.isListing with
  | true =>
    obtain ⟨pattern, hpath⟩ := path_of_listing hkind hvalid
    rw [a.execute_list hkind hpath hvalid] at h
    rcases hfound : (a.store.resolve pattern).exec w with ⟨f | files, w₁⟩
    · rw [hfound] at h
      cases h
    · rw [hfound] at h
      obtain ⟨hc, rfl⟩ := Prod.mk.inj h
      split at hc
      · cases hc
      · obtain rfl := Except.ok.inj hc
        exact ⟨rfl, rfl, rfl, rfl, pattern, w₁, _, hpath, hfound, rfl⟩
  | false =>
    have hdone {op : Op σ Unit}
        (h : (op >>= fun _ => pure (finished request : Cursor η)).exec w = (.ok c, w')) :
        c = finished request := by
      rw [Op.bind_exec] at h
      rcases hop : op.exec w with ⟨f | _, w₁⟩
      · rw [hop] at h
        cases h
      · rw [hop] at h
        exact (Except.ok.inj (Prod.mk.inj h).1).symm
    have hc : c = finished request := by
      rw [execute] at h
      split at h
      · rename_i hlisting
        rw [hlisting] at hkind
        cases hkind
      · rename_i hlisting
        rw [hlisting] at hkind
        cases hkind
      · exact hdone h
      · exact hdone h
      · cases h
    rw [hc]
    exact ⟨rfl, rfl, rfl, rfl, rfl⟩

end Adapter

end FileDepot
