import FileDepot.Proofs.Requests
import FileDepot.Tools

/-!
# Tools for listing

What a tool for listing does with any store: the pattern is resolved, and the files it stands for are shown
row by row (`Tools.listing_exec`).
-/

namespace FileDepot

variable {σ η : Type}

/-- The procedures are known by their names. -/
theorem Kind.ofProcedure_of_mem : ∀ p ∈ Kind.procedures, Kind.ofProcedure (some p.1) = .ok p.2 := by
  intro p hp
  have hfind : ∀ p ∈ procedures, procedures.find?
      (fun q => Text.lower q.1 == Text.lower (Text.strip p.1)) = some p := by decide +kernel
  simp only [ofProcedure, Option.getD_some, hfind p hp]

namespace Tools

/-- There are always columns that are wanted. -/
theorem wanted_ne_nil (columns : List String) : (wanted columns).isEmpty = false := by
  rw [wanted]
  cases hempty : columns.isEmpty with
  | true => rfl
  | false => exact hempty

/-- **Tool.** A tool for listing resolves its pattern and shows what it stands for, row by row; when this is
nothing, it may be a fault. -/
theorem listing_exec (a : Adapter σ η) {procedure : String} {kind : Kind}
    (hprocedure : (procedure, kind) ∈ Kind.procedures) (hkind : kind.isListing = true)
    {columns : List String} (hcolumns : ∀ n ∈ wanted columns, n ∈ Column.allNames)
    (row : Record σ → Op σ Row) (pattern : String) (w : World σ) :
    (listing a procedure (some (some pattern)) columns row).exec w =
      match (a.store.resolve pattern).exec w with
      | (.error f, w) => (.error (Adapter.resolveFault pattern f), w)
      | (.ok files, w) =>
        let w := { w with notes := ⟨.debug, .operations,
          "Getting " ++ toString files.length ++ " file(s)"⟩ :: w.notes }
        if files.isEmpty && a.config.failOnMissing then (.error (.notFound pattern), w)
        else (rows a ⟨kind, projectsMetadata (wanted columns), files, 0, false⟩ row files).exec w := by
  let request : Request σ := ⟨kind, some pattern, none, wanted columns⟩
  have hvalid : isRefused (some request) = false := by
    cases kind with
    | listText => simpa [isRefused, request, wanted_ne_nil] using hcolumns
    | listBinary => simpa [isRefused, request, wanted_ne_nil] using hcolumns
    | _ => cases hkind
  have hrequest : (a.procedure (some procedure) (some pattern) none (wanted columns)).exec w =
      (a.execute (some request)).exec w := by
    rw [a.procedure_exec (Kind.ofProcedure_of_mem _ hprocedure), ite_self, wanted_ne_nil]
    rfl
  have hlisting : request.kind.isListing = true := hkind
  simp only [listing, Op.bind_exec, hrequest, a.execute_list hlisting rfl hvalid]
  rcases (a.store.resolve pattern).exec w with ⟨f | files, w'⟩
  · rfl
  · simp only
    cases files.isEmpty && a.config.failOnMissing with
    | true => rfl
    | false =>
      simp only [Bool.false_eq_true, if_false, Cursor.remaining, hkind, request, Bool.not_false,
        Bool.and_self, if_true, List.drop_zero]

end Tools

end FileDepot
