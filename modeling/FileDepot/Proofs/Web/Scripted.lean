import FileDepot.Proofs.Outcome
import FileDepot.Web.Scripted.Network

/-!
# What a scripted network promises

A scripted network is an HTTP layer that keeps what layers promise, whatever its script is
(`documented_layer`). So what downloads come to over documented layers, they come to over scripts.

What is to be seen is that a network knows nothing of the trouble that file operations raise on their own
(`IsForeign`). Each stage fails with such trouble only: an address that is read, one that an answer names
(`directed_fails`), what an answer leads to (`ask_fails`), and so all requests that follow each other
(`run_fails`).
-/

namespace FileDepot.Web.Scripted

open Outcome

/-! ## Trouble -/

/-- Whether trouble is none of file operations. -/
def IsForeign (t : Trouble) : Prop := t.family.isOwn = false

theorem isForeign_codingTrouble (e : Encoding.Fault) : IsForeign (codingTrouble e) := by
  cases e <;> rfl

theorem isForeign_urlTrouble (e : UrlFault) : IsForeign (urlTrouble e) := by
  cases e with
  | coding e => exact isForeign_codingTrouble e
  | _ => rfl

/-- What tells faults as foreign trouble fails with nothing else. -/
theorem mapError_fails {ε α : Type} {reword : ε → Trouble} (h : ∀ e, IsForeign (reword e))
    (x : Except ε α) : FailsOnly IsForeign (x.mapError reword) := by
  have hany : FailsOnly (fun _ => True) x := fun _ _ => trivial
  exact hany.mapError fun e _ => h e

/-! ## Addresses -/

variable {url target : Url}

theorem read_fails (s : List Point) : FailsOnly IsForeign (read s) :=
  mapError_fails isForeign_urlTrouble _

theorem checkHost_fails (url : Url) : FailsOnly IsForeign (checkHost url) := by
  rw [checkHost]
  split
  · exact (mapError_fails (fun e => by rfl) _).map _
  · exact failsOnly_ok _

theorem checkAsked_fails (url : Url) : FailsOnly IsForeign (checkAsked url) :=
  (mapError_fails isForeign_codingTrouble _).bind fun _ => checkHost_fails url

theorem hosted_fails : FailsOnly IsForeign (hosted url target) := by
  rw [hosted]
  split
  · exact failsOnly_ok _
  · split
    · exact mapError_fails isForeign_urlTrouble _
    · exact (checkHost_fails target).map _

theorem completed_fails : FailsOnly IsForeign (completed url target) := by
  rw [completed]
  split
  · exact failsOnly_ok _
  · exact read_fails _

theorem marked_fails : FailsOnly IsForeign (marked url target) := by
  rw [marked]
  split
  · exact mapError_fails isForeign_urlTrouble _
  · exact failsOnly_ok _

theorem directed_fails : FailsOnly IsForeign (directed url target) :=
  hosted_fails.bind fun _ => completed_fails.bind fun _ => marked_fails.bind fun last =>
    (checkAsked_fails last).bind fun _ => failsOnly_ok _

theorem firstUrl_fails (s : List Point) : FailsOnly IsForeign (firstUrl s) :=
  (read_fails s).bind fun _ => (mapError_fails isForeign_urlTrouble _).bind fun first =>
    (checkAsked_fails first).bind fun _ => failsOnly_ok _

/-! ## Requests -/

/-- What an answer leads to is told with foreign trouble only. -/
theorem lead_fails (status : Nat) (headers : List (String × String)) (body : Bytes) :
    FailsOnly IsForeign (lead url status headers body) := by
  refine (mapError_fails isForeign_codingTrouble _).bind fun _ => ?_
  refine (mapError_fails (fun e => by rfl) _).bind fun data => ?_
  have hscheme : FailsOnly IsForeign (checkScheme url) := by
    rw [checkScheme]
    exact failsOnly_ite (failsOnly_ok _) (failsOnly_error rfl)
  refine hscheme.bind fun _ => ?_
  split
  · refine FailsOnly.map ?_ _
    exact (mapError_fails (fun e => by rfl) _).bind fun _ => directed_fails
  · exact failsOnly_ok _

theorem ask_fails (script : Script) (url : Url) : FailsOnly IsForeign (ask script url) := by
  rw [ask]
  split
  · exact failsOnly_error rfl
  · exact lead_fails _ _ _

/-- So is all that requests come to that follow each other. -/
theorem run_fails (script : Script) (accept : String) (left : Nat) (url : Url) :
    FailsOnly IsForeign (run script accept left url).1 := by
  induction left generalizing url with
  | zero => exact failsOnly_error rfl
  | succ left ih =>
    have hask := ask_fails script url
    rw [run]
    split
    · rename_i t h
      exact failsOnly_error (hask t h)
    · exact failsOnly_ok _
    · exact ih _

/-! ## The layer -/

theorem check_eq (script : Script) (a : Answer) : (layer script).check a =
    if 200 ≤ a.status ∧ a.status < 300 then .ok ()
    else .error (named statusKind (Status.report a.status a.url)) := by
  simp [layer, Status.isSuccess]

/-- **Layer.** A scripted network keeps what layers promise. -/
theorem documented_layer (script : Script) : (layer script).Documented where
  check_ok a := by
    rw [check_eq]
    split
    · exact ⟨fun _ => ‹_›, fun _ => rfl⟩
    · exact ⟨nofun, fun h => absurd h ‹_›⟩
  check_error {a t} h := by
    rw [check_eq] at h
    split at h
    · cases h
    · exact Except.error.inj h ▸ rfl
  isHttp_of_isStatus {k} h := by
    obtain rfl : k = .named statusKind := of_decide_eq_true h
    have hforeign : foreignKinds.contains statusKind = false := by decide
    exact congrArg not hforeign
  invalid := by
    have hforeign : foreignKinds.contains "InvalidURL" = true := by decide
    exact congrArg not hforeign
  foreign {q t log} h := by
    have hfirst := firstUrl_fails q.target
    simp only [layer] at h
    split at h
    · rename_i t' hfault
      rw [← Except.error.inj (Prod.mk.inj h).1]
      exact hfirst t' hfault
    · rename_i url hurl
      exact run_fails script q.accept (maxRedirects + 1) url t (Prod.mk.inj h).1

end FileDepot.Web.Scripted
