import FileDepot.Proofs.Outcome
import FileDepot.Web.Client
import Mathlib.Data.List.TakeWhile

/-!
# Outcomes of a download

A download asks an HTTP layer for its address. What the layer does then is not known beyond what it promises
(`Layer.Documented`): it may read addresses and follow answers as it likes, and report any trouble.

* **layer** — `Layer.Documented.answer_eq_ok_iff`, `Layer.Documented.answer_eq_error_iff`: a layer brings an
  answer with a status of success, or reports trouble on the way or with the status of the last answer;
* **trouble** — `layerFault_told`, `layerFault_passed`: trouble of HTTP is told as trouble of the other side,
  and any other is passed on;
* **download** — `download_outcome`: what a download comes to, and that its trouble is all of its own exactly
  where that of the layer is all of HTTP.
-/

namespace FileDepot.Web

open Outcome

variable {ρ : Type} {layer : Layer ρ} {q : Query} {t : Trouble} {log : List Exchange}

/-! ## What a layer does -/

namespace Layer

/-- A layer brings the body of the last answer, whose status is one of success. -/
def Brings (layer : Layer ρ) (q : Query) (data : Bytes) (log : List Exchange) : Prop :=
  ∃ r, layer.get q = (.ok r, log) ∧ (200 ≤ layer.status r ∧ layer.status r < 300) ∧
    layer.content r = data

/-- A layer reports trouble. -/
inductive Reports (layer : Layer ρ) (q : Query) : Trouble → List Exchange → Prop
  /-- on the way, before there is a last answer -/
  | onTheWay {t : Trouble} {log : List Exchange} (h : layer.get q = (.error t, log)) :
      Reports layer q t log
  /-- with the last answer, whose status is not one of success -/
  | status {r : ρ} {t : Trouble} {log : List Exchange} (h : layer.get q = (.ok r, log))
      (hstatus : ¬(200 ≤ layer.status r ∧ layer.status r < 300)) (hcheck : layer.check r = .error t) :
      Reports layer q t log

namespace Documented

variable (hlayer : layer.Documented)

include hlayer

theorem answer_eq_ok_iff {r : ρ} : layer.answer q = (.ok r, log) ↔
    layer.get q = (.ok r, log) ∧ 200 ≤ layer.status r ∧ layer.status r < 300 := by
  rw [← hlayer.check_ok]
  constructor
  · intro h
    rw [answer] at h
    rcases hget : layer.get q with ⟨t | r', log'⟩
    · rw [hget] at h
      cases h
    · rw [hget] at h
      cases hcheck : layer.check r' with
      | error t =>
        simp only [hcheck] at h
        cases h
      | ok u =>
        simp only [hcheck] at h
        cases h
        exact ⟨rfl, hcheck⟩
  · rintro ⟨hget, hcheck⟩
    simp only [answer, hget, hcheck, Except.map]

theorem answer_eq_error_iff : layer.answer q = (.error t, log) ↔ layer.Reports q t log := by
  constructor
  · intro h
    rw [answer] at h
    rcases hget : layer.get q with ⟨t' | r, log'⟩
    · rw [hget] at h
      cases h
      exact .onTheWay hget
    · rw [hget] at h
      cases hcheck : layer.check r with
      | ok u =>
        simp only [hcheck] at h
        cases h
      | error t' =>
        simp only [hcheck] at h
        cases h
        refine .status hget (fun hsuccess => ?_) hcheck
        cases hcheck.symm.trans ((hlayer.check_ok r).mpr hsuccess)
  · rintro (⟨hget⟩ | ⟨hget, -, hcheck⟩)
    · simp only [answer, hget]
    · simp only [answer, hget, hcheck, Except.map]

/-- Trouble with the status of an answer is trouble of HTTP; so what is not, is reported on the way. -/
theorem onTheWay_of_not_isHttp (h : layer.Reports q t log) (ht : layer.isHttp t.family = false) :
    layer.get q = (.error t, log) := by
  cases h with
  | onTheWay h => exact h
  | status _ _ hcheck =>
    cases ht.symm.trans (hlayer.isHttp_of_isStatus (hlayer.check_error hcheck))

end Documented

end Layer

/-! ## What a client makes of it -/

namespace Client

variable {c : Client} {address : List Point} {data : Bytes} {f : Fault}

/-- Trouble of HTTP is told as trouble of the other side, raised for what it was. -/
theorem layerFault_told (h : layer.isHttp t.family = true) :
    (layerFault layer t).family = .externalService ∧ (layerFault layer t).cause? = some t.family := by
  rw [layerFault, if_pos h]
  split <;> exact ⟨rfl, rfl⟩

/-- Trouble that is not of HTTP is passed on. -/
theorem layerFault_passed (hlayer : layer.Documented) (h : layer.isHttp t.family = false) :
    layerFault layer t = .network t := by
  have hstatus : ¬layer.isStatus t.family = true := fun hs => by
    cases h.symm.trans (hlayer.isHttp_of_isStatus hs)
  rw [layerFault, if_neg hstatus, if_neg (by simp [h])]

theorem trimPoints_isEmpty_iff (s : List Point) :
    (Text.trimPoints s).isEmpty = true ↔ ∀ p ∈ s, Text.isBlankPoint p = true := by
  rw [List.isEmpty_iff, Text.trimPoints, List.reverse_eq_nil_iff, List.dropWhile_eq_nil_iff]
  constructor
  · intro h p hp
    rw [← List.takeWhile_append_dropWhile (p := Text.isBlankPoint) (l := s), List.mem_append] at hp
    obtain hfront | hrest := hp
    · exact List.mem_takeWhile_imp hfront
    · exact h p (List.mem_reverse.mpr hrest)
  · intro h p hp
    exact h p (List.dropWhile_subset _ (List.mem_reverse.mp hp))

/-- Whether an address is blank. -/
def IsBlank (address : List Point) : Prop := ∀ p ∈ address, Text.isBlankPoint p = true

instance (address : List Point) : Decidable (IsBlank address) :=
  inferInstanceAs (Decidable (∀ p ∈ address, Text.isBlankPoint p = true))

/-- What a client asks for at an address: the address without the blanks at its edges. -/
def asks (c : Client) (address : List Point) : Query := c.query (Text.trimPoints address)

theorem fetch_of_blank (h : IsBlank address) :
    c.fetch layer address = (.error (.refused .noUrl), []) :=
  if_pos ((trimPoints_isEmpty_iff address).mpr h)

theorem fetch_blank_eq_error_iff (h : IsBlank address) :
    c.fetch layer address = (.error f, log) ↔ f = .refused .noUrl ∧ log = [] := by
  rw [fetch_of_blank h, Prod.mk.injEq, Except.error.injEq, eq_comm, eq_comm (a := [])]

/-- A download asks the layer unless its address is blank. -/
theorem fetch_of_not_blank (h : ¬IsBlank address) : c.fetch layer address =
    match layer.answer (c.asks address) with
    | (.error t, log) => (.error (layerFault layer t), log)
    | (.ok r, log) => (.ok (layer.content r), log) :=
  if_neg fun hempty => h ((trimPoints_isEmpty_iff address).mp hempty)

theorem fetch_eq_ok_iff (hlayer : layer.Documented) (h : ¬IsBlank address) :
    c.fetch layer address = (.ok data, log) ↔ layer.Brings (c.asks address) data log := by
  rw [fetch_of_not_blank h]
  constructor
  · intro hfetch
    rcases hanswer : layer.answer (c.asks address) with ⟨t | r, log'⟩
    · rw [hanswer] at hfetch
      cases hfetch
    · rw [hanswer] at hfetch
      cases hfetch
      obtain ⟨hget, hstatus⟩ := hlayer.answer_eq_ok_iff.mp hanswer
      exact ⟨r, hget, hstatus, rfl⟩
  · rintro ⟨r, hget, hstatus, rfl⟩
    rw [hlayer.answer_eq_ok_iff.mpr ⟨hget, hstatus⟩]

theorem fetch_eq_error_iff (hlayer : layer.Documented) (h : ¬IsBlank address) :
    c.fetch layer address = (.error f, log) ↔
      ∃ t, layer.Reports (c.asks address) t log ∧ f = layerFault layer t := by
  rw [fetch_of_not_blank h]
  constructor
  · intro hfetch
    rcases hanswer : layer.answer (c.asks address) with ⟨t | r, log'⟩
    · rw [hanswer] at hfetch
      cases hfetch
      exact ⟨t, hlayer.answer_eq_error_iff.mp hanswer, rfl⟩
    · rw [hanswer] at hfetch
      cases hfetch
  · rintro ⟨t, hreports, rfl⟩
    rw [hlayer.answer_eq_error_iff.mpr hreports]

/-- The trouble of a layer that is not of HTTP comes out of a download, where it is none of its own. -/
theorem fetch_of_not_isHttp (hlayer : layer.Documented) (h : ¬IsBlank address)
    (hget : layer.get (c.asks address) = (.error t, log)) (ht : layer.isHttp t.family = false) :
    c.fetch layer address = (.error (.network t), log) ∧ Fault.isOwn (.network t) = false :=
  ⟨(fetch_eq_error_iff hlayer h).mpr ⟨t, .onTheWay hget, (layerFault_passed hlayer ht).symm⟩,
    hlayer.foreign hget⟩

/-- A download of an address that is not blank fails with faults of its own only exactly where the layer reports
no trouble on the way but of HTTP. -/
theorem fetch_isOwn_iff (hlayer : layer.Documented) (h : ¬IsBlank address) :
    (∀ f log, c.fetch layer address = (.error f, log) → f.isOwn = true) ↔
      ∀ t log, layer.get (c.asks address) = (.error t, log) → layer.isHttp t.family = true := by
  constructor
  · intro hown t log hget
    by_contra ht
    obtain ⟨hfetch, hnot⟩ := fetch_of_not_isHttp hlayer h hget (Bool.eq_false_iff.mpr ht)
    cases hnot.symm.trans (hown _ _ hfetch)
  · intro hhttp f log hfetch
    obtain ⟨t, hreports, rfl⟩ := (fetch_eq_error_iff hlayer h).mp hfetch
    have ht : layer.isHttp t.family = true := by
      cases hreports with
      | onTheWay hget => exact hhttp t log hget
      | status _ _ hcheck => exact hlayer.isHttp_of_isStatus (hlayer.check_error hcheck)
    rw [Fault.isOwn, (layerFault_told ht).1]
    rfl

/-- **A download has the body of the last answer, tells trouble or passes it on.** A blank address is refused,
and nothing is exchanged. Else a download has data exactly where the layer brings it, and fails exactly where
the layer reports trouble. Trouble of HTTP, as that with the status of the last answer is, is told as trouble
of the other side, with its kind as the cause. Other trouble, as that with an address that cannot be read is,
is passed on as it is. So all trouble is a download's own exactly where the layer reports none but of HTTP on
the way. -/
theorem download_outcome {ρ : Type} (layer : Layer ρ) (hlayer : layer.Documented) (c : Client)
    (address : List Point) :
    (IsBlank address ↔ c.fetch layer address = (.error (.refused .noUrl), [])) ∧
    (∀ data log, c.fetch layer address = (.ok data, log) ↔
      ¬IsBlank address ∧ layer.Brings (c.asks address) data log) ∧
    (∀ f log, c.fetch layer address = (.error f, log) ↔
      (IsBlank address ∧ f = .refused .noUrl ∧ log = []) ∨
        ¬IsBlank address ∧ ∃ t, layer.Reports (c.asks address) t log ∧ f = layerFault layer t) ∧
    (∀ t log, layer.Reports (c.asks address) t log →
      (layer.isHttp t.family = true → (layerFault layer t).family = .externalService ∧
        (layerFault layer t).cause? = some t.family) ∧
      (layer.isHttp t.family = false → layerFault layer t = .network t ∧
        Fault.isOwn (.network t) = false ∧ layer.get (c.asks address) = (.error t, log))) ∧
    (∀ t log, ¬IsBlank address → layer.get (c.asks address) = (.error t, log) →
      t.family = Layer.invalidKind → c.fetch layer address = (.error (.network t), log)) ∧
    ((∀ f log, c.fetch layer address = (.error f, log) → f.isOwn = true) ↔
      IsBlank address ∨ ∀ t log, layer.get (c.asks address) = (.error t, log) →
        layer.isHttp t.family = true) := by
  have hpassed {t : Trouble} {log : List Exchange} (h : layer.Reports (c.asks address) t log)
      (ht : layer.isHttp t.family = false) : Fault.isOwn (.network t) = false :=
    hlayer.foreign (hlayer.onTheWay_of_not_isHttp h ht)
  refine ⟨⟨fetch_of_blank, fun h => ?_⟩, fun data log => ?_, fun f log => ?_, fun t log h => ?_,
    fun t log hgiven hget ht => ?_, ?_⟩
  · by_contra hgiven
    obtain ⟨t, hreports, hf⟩ := (fetch_eq_error_iff hlayer hgiven).mp h
    cases ht : layer.isHttp t.family with
    | true =>
      have hfamily := (layerFault_told ht).1
      rw [← hf] at hfamily
      cases hfamily
    | false =>
      rw [layerFault_passed hlayer ht] at hf
      cases hf
  · by_cases h : IsBlank address
    · simp [fetch_of_blank h, h]
    · simp only [h, not_false_eq_true, true_and]
      exact fetch_eq_ok_iff hlayer h
  · by_cases h : IsBlank address
    · simp only [fetch_blank_eq_error_iff h, h, true_and, not_true_eq_false, false_and, or_false]
    · simp only [h, false_and, not_false_eq_true, true_and, false_or]
      exact fetch_eq_error_iff hlayer h
  · exact ⟨layerFault_told, fun ht => ⟨layerFault_passed hlayer ht, hpassed h ht,
      hlayer.onTheWay_of_not_isHttp h ht⟩⟩
  · exact (fetch_of_not_isHttp hlayer hgiven hget (ht ▸ hlayer.invalid)).1
  · by_cases h : IsBlank address
    · refine iff_of_true (fun f log hfetch => ?_) (.inl h)
      rw [((fetch_blank_eq_error_iff h).mp hfetch).1]
      rfl
    · simpa only [h, false_or] using fetch_isOwn_iff hlayer h

/-! ### A layer with a few answers -/

/-- What a layer comes to at a few addresses, and which ones it asks for on the way: the server sends
`http://a/` on to `http://a/b` and has nothing at `http://b/`, nobody answers at `http://c/`, and an address
with a port that is no number cannot be read. -/
def fewReplies (target : List Point) : Except Trouble (Nat × Bytes) × List String :=
  if target = Point.ofString "http://a/" then (.ok (200, [80, 75]), ["http://a/", "http://a/b"])
  else if target = Point.ofString "http://b/" then (.ok (404, []), ["http://b/"])
  else if target = Point.ofString "http://x:y" then
    (.error ⟨Layer.invalidKind, "Invalid port: 'y'", none⟩, [])
  else (.error ⟨.named "ConnectError", "refused", none⟩, ["http://c/"])

/-- The layer with these replies. -/
def fewLayer : Layer (Nat × Bytes) where
  get q :=
    ((fewReplies q.target).1, .client q.timeout q.verify q.follow ::
      (fewReplies q.target).2.map fun url => .asked url q.accept)
  check r :=
    if 200 ≤ r.1 ∧ r.1 < 300 then .ok () else .error ⟨.named "HTTPStatusError", "Not Found", none⟩
  status r := r.1
  content r := r.2
  isStatus k := k = .named "HTTPStatusError"
  isHttp k := ["HTTPStatusError", "ConnectError"].any fun name => k = .named name

theorem documented_fewLayer : fewLayer.Documented where
  check_ok r := by
    have hcheck : fewLayer.check r = if 200 ≤ r.1 ∧ r.1 < 300 then .ok ()
      else .error ⟨.named "HTTPStatusError", "Not Found", none⟩ := rfl
    rw [hcheck]
    split
    · exact ⟨fun _ => ‹_›, fun _ => rfl⟩
    · exact ⟨nofun, fun h => absurd h ‹_›⟩
  check_error {r t} h := by
    have hcheck : fewLayer.check r = if 200 ≤ r.1 ∧ r.1 < 300 then .ok ()
      else .error ⟨.named "HTTPStatusError", "Not Found", none⟩ := rfl
    rw [hcheck] at h
    split at h
    · cases h
    · exact Except.error.inj h ▸ rfl
  isHttp_of_isStatus {k} h := by
    obtain rfl : k = .named "HTTPStatusError" := of_decide_eq_true h
    rfl
  invalid := by decide
  foreign {q t log} h := by
    have hreply : (fewReplies q.target).1 = .error t := (Prod.mk.inj h).1
    rw [fewReplies] at hreply
    split at hreply
    · cases hreply
    · split at hreply
      · cases hreply
      · split at hreply <;> exact Except.error.inj hreply ▸ rfl

/-- A download that is sent on has the data of the last answer; a status that is none of success and a server
that cannot be reached are told; and a blank address is refused. -/
theorem download_outcome_moved :
    let c : Client := ⟨.ofDecimal false 20 0, false⟩
    fewLayer.Documented ∧
    c.fetch fewLayer (Point.ofString " http://a/") = (.ok [80, 75],
      [.client c.timeout false true, .asked "http://a/" archiveForm,
        .asked "http://a/b" archiveForm]) ∧
    fewLayer.Brings (c.asks (Point.ofString " http://a/")) [80, 75]
      [.client c.timeout false true, .asked "http://a/" archiveForm,
        .asked "http://a/b" archiveForm] ∧
    (∃ t log, fewLayer.Reports (c.asks (Point.ofString "http://b/")) t log ∧
      t.family = .named "HTTPStatusError" ∧ (layerFault fewLayer t).family = .externalService) ∧
    (∃ t log, fewLayer.Reports (c.asks (Point.ofString "http://c/")) t log ∧
      t.family = .named "ConnectError" ∧ (layerFault fewLayer t).family = .externalService) ∧
    c.fetch fewLayer (Point.ofString "  ") = (.error (.refused .noUrl), []) := by
  intro c
  have hmoved := download_outcome fewLayer documented_fewLayer c (Point.ofString " http://a/")
  have hblank := download_outcome fewLayer documented_fewLayer c (Point.ofString "  ")
  have hdata : c.fetch fewLayer (Point.ofString " http://a/") = (.ok [80, 75],
      [.client c.timeout false true, .asked "http://a/" archiveForm,
        .asked "http://a/b" archiveForm]) := by
    decide +kernel
  have hreported {url : String} {t : Trouble} {log : List Exchange}
      (h : fewLayer.Reports (c.asks (Point.ofString url)) t log) (ht : fewLayer.isHttp t.family = true) :
      (layerFault fewLayer t).family = .externalService :=
    ((download_outcome fewLayer documented_fewLayer c (Point.ofString url)).2.2.2.1 t log h).1 ht |>.1
  refine ⟨documented_fewLayer, hdata, ((hmoved.2.1 _ _).mp hdata).2, ?_, ?_, hblank.1.mp (by decide)⟩
  · have hreports : fewLayer.Reports (c.asks (Point.ofString "http://b/"))
        ⟨.named "HTTPStatusError", "Not Found", none⟩
        [.client c.timeout false true, .asked "http://b/" archiveForm] :=
      .status (r := (404, [])) (by decide +kernel) (by decide) (by decide)
    exact ⟨_, _, hreports, rfl, hreported hreports (by decide)⟩
  · have hreports : fewLayer.Reports (c.asks (Point.ofString "http://c/"))
        ⟨.named "ConnectError", "refused", none⟩
        [.client c.timeout false true, .asked "http://c/" archiveForm] :=
      .onTheWay (by decide +kernel)
    exact ⟨_, _, hreports, rfl, hreported hreports (by decide)⟩

/-- An address with a port that is no number leaves a download as trouble that is none of its own. -/
theorem malformed_address_leaves :
    let c : Client := ⟨.ofDecimal false 20 0, false⟩
    fewLayer.Documented ∧
    c.fetch fewLayer (Point.ofString "http://x:y") =
      (.error (.network ⟨.named "InvalidURL", "Invalid port: 'y'", none⟩),
        [.client c.timeout false true]) ∧
    Fault.isOwn (.network ⟨.named "InvalidURL", "Invalid port: 'y'", none⟩) = false :=
  ⟨documented_fewLayer, by decide +kernel, rfl⟩

end Client

end FileDepot.Web
