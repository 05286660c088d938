import FileDepot.Proofs.Memory.Listing
import FileDepot.Proofs.Session
import FileDepot.Proofs.Still

/-!
# Columns

A tool for listing reads no more than its columns ask for: without a column of metadata it reads no metadata,
and without the column of contents it opens nothing. What it shows in some columns is nevertheless what it
shows in all of them, restricted to these.

What is shown is told by how the store looks (`Adapter.shown`), in whatever columns and however often the
store was asked before, as long as it stands still.

* **read** — `Lob.read_exec`: contents that were not opened are read from their bytes;
* **rows** — `Adapter.rows_looks` and `Tools.list_looks`: what a tool shows is told by how the store looks;
* **restrict** — `Adapter.shown_restrict` compares what is told in some columns and in all of them, and
  `Tools.columns_restrict` compares two calls.

There is one exception. A fault that stands for the end of an iteration ends a listing without a word. Where
reading metadata raises it (`Adapter.EndsEarly`), a call that reads no metadata goes on. The stores in memory
and on disk never raise it (`Memory.not_endsEarly`, `Local.not_endsEarly`); a scripted store can
(`Tools.columns_differ`).
-/

namespace FileDepot

open Encoding

variable {σ η ν : Type}

/-! ## Contents -/

/-- The world after a ticket is issued. -/
def World.issue (w : World σ) : World σ := { w with issued := w.issued + 1 }

theorem World.Looks.issue {view : σ → ν} {w x : World σ} (hw : w.Looks view x) :
    w.issue.Looks view x :=
  ⟨hw.store, fun k hk => Nat.lt_succ_of_lt (hw.sound k hk)⟩

namespace Lob

/-- What reading contents comes to once what their bytes come from is there. -/
def given (l : Lob σ) (supply : Supply) : Except FileDepot.Fault Content := do
  (← l.opening supply).readAll

/-- Contents that were not opened are read from their bytes. -/
theorem read_exec {l : Lob σ} {w : World σ} (hfresh : l.ticket ∉ w.redeemed) :
    l.read.exec w = match l.source.exec w with
      | (.error f, w) => (.error (openFault f), w)
      | (.ok supply, w) => (l.given supply, { w with redeemed := l.ticket :: w.redeemed }) := by
  have hopened : w.redeemed.contains l.ticket = false := by simpa using hfresh
  rw [read, Op.bind_exec, openStream_exec_cases, take_exec_cases, hopened, if_neg Bool.false_ne_true]
  rcases l.source.exec w with ⟨f | supply, w'⟩
  · rfl
  · simp only [given, Op.ofExcept_exec]
    cases l.opening supply <;> rfl

end Lob

/-! ## Rows -/

namespace Row

/-- Some columns of a row, in the order in which they are named. -/
def restrict (columns : List String) (row : Row) : Row :=
  columns.filterMap fun n => (row.lookup n).map fun x => (n, x)

variable {r : Record σ} {contents : Cell} {columns : List String} {n : String}

theorem exists_ofName? (h : n ∈ Column.allNames) : ∃ c, Column.ofName? n = some c := by
  rw [← Option.isSome_iff_exists, ← Option.not_isNone, Adapter.isNone_ofName?]
  simpa using h

/-- A row has a cell for every column that is known. -/
theorem ofRecord_eq (r : Record σ) (contents : Cell) (h : ∀ n ∈ columns, n ∈ Column.allNames) :
    ofRecord r contents columns = .ok (columns.filterMap fun n =>
      (Column.ofName? n).map fun c => (n, cell r contents c)) := by
  rw [ofRecord]
  induction columns with
  | nil => rfl
  | cons n columns ih =>
    obtain ⟨c, hc⟩ := exists_ofName? (h n (List.mem_cons_self ..))
    have hrest := ih fun m hm => h m (List.mem_cons_of_mem _ hm)
    simp only [List.mapM_cons, hc, hrest, Outcome.ok_bind, List.filterMap_cons, Option.map_some,
      Outcome.pure_eq_ok]

/-- The cell of a column is found by its name. -/
theorem lookup_ofRecord (h : ∀ n ∈ columns, n ∈ Column.allNames) (hn : n ∈ columns) :
    (columns.filterMap fun n => (Column.ofName? n).map fun c => (n, cell r contents c)).lookup n =
      (Column.ofName? n).map (cell r contents) := by
  induction columns with
  | nil => cases hn
  | cons m columns ih =>
    obtain ⟨c, hc⟩ := exists_ofName? (h m (List.mem_cons_self ..))
    rw [List.filterMap_cons, hc, Option.map_some, List.lookup_cons]
    by_cases hnm : n = m
    · simp [hnm, hc]
    · rw [beq_false_of_ne hnm]
      exact ih (fun k hk => h k (List.mem_cons_of_mem _ hk))
        ((List.mem_cons.mp hn).resolve_left hnm)

end Row

/-! ## What is shown -/

namespace Adapter

variable (a : Adapter σ η) (x : World σ)

/-- The metadata of a file: the time of its last change, the time it was made, and its size. -/
abbrev Metadata := Moment × Option Moment × Nat

/-- What is told of the metadata of a file. -/
def metadataIn (h : η) : Except Fault Metadata := ((a.metadata h).exec x).1

/-- What is told of them if columns ask for them. -/
def askedIn (columns : List String) (h : η) : Except Fault (Option Metadata) :=
  if projectsMetadata columns then (a.metadataIn x h).map some else .ok none

/-- What is listed: text where it may be cut, and bytes otherwise. -/
def listed (maxChars : Option Int) : Kind := if maxChars.isSome then .listText else .listBinary

/-- What is shown of the contents of a file, if columns ask for them. -/
def contentsIn (maxChars : Option Int) (columns : List String) (h : η) : Except Fault Cell :=
  if columns.contains Column.file.name then
    match ((a.store.contents h).exec x).1 with
    | .error f => .error (Lob.openFault f)
    | .ok supply =>
      ((a.contentOf h (listed maxChars) none 0).given supply).map (Row.contentCell (maxChars.getD 0))
  else .ok .empty

/-- The record of a file with what is known of its metadata. -/
def recordOf (c : Cursor η) (h : η) (ticket : Nat) : Option Metadata → Record σ
  | some (modified, created, size) => a.fullRecord c h ticket modified created size
  | none => a.plainRecord c h ticket

/-- The row of a file with what is known of its metadata. -/
def rowIn (maxChars : Option Int) (columns : List String) (h : η) (m : Option Metadata) :
    Except Fault Row := do
  let contents ← a.contentsIn x maxChars columns h
  Row.ofRecord (a.recordOf ⟨listed maxChars, m.isSome, [], 0, false⟩ h 0 m) contents columns

/-- The rows of files, up to one whose metadata end the listing. -/
def shown (maxChars : Option Int) (columns : List String) : List η → Except Fault (List Row)
  | [] => .ok []
  | h :: rest =>
    match a.askedIn x columns h with
    | .error f => if f.endsListing then .ok [] else .error f
    | .ok m => do
      let first ← a.rowIn x maxChars columns h m
      let more ← shown maxChars columns rest
      pure (first :: more)

variable {a x} {view : σ → ν} {w : World σ} {maxChars : Option Int} {columns : List String}

theorem content_recordOf (c : Cursor η) (h : η) (k : Nat) (m : Option Metadata) :
    ∃ length, (a.recordOf c h k m).content = a.contentOf h c.kind length k := by
  cases m <;> exact ⟨_, rfl⟩

/-- A row shows what is known of a file, whatever its ticket is. -/
theorem ofRecord_recordOf (c c' : Cursor η) (h : η) (k k' : Nat) (m : Option Metadata)
    (contents : Cell) (columns : List String) :
    Row.ofRecord (a.recordOf c h k m) contents columns =
      Row.ofRecord (a.recordOf c' h k' m) contents columns := by
  cases m <;> rfl

section

variable (ha : a.store.Still view) (hw : w.Looks view x)

include ha hw

/-- A record tells what is told of the metadata of its file. -/
theorem record_looks (c : Cursor η) (h : η) :
    ∃ w', w'.Looks view x ∧ (a.record c h).exec w =
      match if c.metadata then (a.metadataIn x h).map some else .ok none with
      | .error f => (.error f, w')
      | .ok m => (.ok (a.recordOf c h w'.issued m), w'.issue) := by
  rw [record_exec]
  cases c.metadata with
  | false => exact ⟨a.passing h w, ⟨hw.store, hw.sound⟩, rfl⟩
  | true =>
    have hpassing : (a.passing h w).Looks view x := ⟨hw.store, hw.sound⟩
    obtain ⟨w', hmeta, hw', -⟩ := (still_metadata ha h).exec hpassing
    refine ⟨w', hw', ?_⟩
    rw [if_pos rfl, if_pos rfl, hmeta, metadataIn]
    rcases ((a.metadata h).exec x).1 with f | ⟨modified, created, size⟩ <;> rfl

/-- The contents of a record that was just made are those that the store gives. -/
theorem contents_looks {c : Cursor η} (hkind : c.kind = listed maxChars) (h : η) (m : Option Metadata)
    (columns : List String) :
    ∃ w', w'.Looks view x ∧
      (Row.contents (a.recordOf c h w.issued m) columns maxChars.isSome (maxChars.getD 0)).exec w.issue =
        (a.contentsIn x maxChars columns h, w') := by
  obtain ⟨length, hcontent⟩ := a.content_recordOf c h w.issued m
  rw [Row.contents, hcontent, hkind, contentsIn]
  cases columns.contains Column.file.name with
  | false => exact ⟨w.issue, hw.issue, rfl⟩
  | true =>
    -- the ticket of the record is new, so that its contents can be opened
    have hfresh : (a.contentOf h (listed maxChars) length w.issued).ticket ∉ w.issue.redeemed :=
      hw.sound.not_mem
    have hform : (a.contentOf h (listed maxChars) length w.issued).charset.isSome =
        maxChars.isSome := by
      cases maxChars <;> rfl
    obtain ⟨w₂, hread, hw₂, hissued⟩ := (ha.contents h).exec hw.issue
    have hsource : (a.contentOf h (listed maxChars) length w.issued).source.exec w.issue =
        (((a.store.contents h).exec x).1, w₂) := hread
    simp only [Bool.not_true, Bool.false_eq_true, if_false, hform, bne_self_eq_false, if_true,
      Op.map_exec]
    rw [Lob.read_exec hfresh, hsource]
    rcases ((a.store.contents h).exec x).1 with f | supply
    · exact ⟨w₂, hw₂, rfl⟩
    · refine ⟨{ w₂ with redeemed := w.issued :: w₂.redeemed }, ⟨hw₂.store, fun k hk => ?_⟩, rfl⟩
      rcases List.mem_cons.mp hk with rfl | hk
      · exact hissued
      · exact hw₂.sound k hk

/-- A row shows what is told of its file. -/
theorem row_looks {c : Cursor η} (hkind : c.kind = listed maxChars) (h : η) (m : Option Metadata)
    (columns : List String) :
    ∃ w', w'.Looks view x ∧
      (Session.rowOf (a.recordOf c h w.issued m) columns maxChars).exec w.issue =
        (a.rowIn x maxChars columns h m, w') := by
  obtain ⟨w', hw', hcontents⟩ := contents_looks ha hw hkind h m columns
  have hrow : Session.rowOf (a.recordOf c h w.issued m) columns maxChars =
      (Row.contents (a.recordOf c h w.issued m) columns maxChars.isSome (maxChars.getD 0) >>=
        fun cell => Op.ofExcept (Row.ofRecord (a.recordOf c h w.issued m) cell columns)) := by
    cases maxChars <;> rfl
  refine ⟨w', hw', ?_⟩
  rw [hrow, Op.bind_exec, hcontents, rowIn]
  cases a.contentsIn x maxChars columns h with
  | error f => rfl
  | ok cell =>
    simp only [Op.ofExcept_exec, Outcome.ok_bind]
    rw [ofRecord_recordOf]

/-- **Rows.** What a tool shows of files is told by how the store looks. -/
theorem rows_looks {c : Cursor η} (hkind : c.kind = listed maxChars)
    (hmeta : c.metadata = projectsMetadata columns) (files : List η) :
    ∃ w', w'.Looks view x ∧
      (Tools.rows a c (fun r => Session.rowOf r columns maxChars) files).exec w =
        (a.shown x maxChars columns files, w') := by
  induction files generalizing w with
  | nil => exact ⟨w, hw, rfl⟩
  | cons h rest ih =>
    obtain ⟨w₁, hw₁, hrecord⟩ := record_looks ha hw c h
    rw [hmeta] at hrecord
    simp only [Tools.rows, Op.bind_exec, Op.attempt_exec, shown, askedIn, hrecord]
    cases if projectsMetadata columns then (a.metadataIn x h).map some else .ok none with
    | error f =>
      refine ⟨w₁, hw₁, ?_⟩
      simp only
      split <;> rfl
    | ok m =>
      obtain ⟨w₂, hw₂, hrow⟩ := row_looks ha hw₁ hkind h m columns
      simp only [Op.bind_exec, hrow]
      cases a.rowIn x maxChars columns h m with
      | error f => exact ⟨w₂, hw₂, rfl⟩
      | ok first =>
        obtain ⟨w₃, hw₃, hmore⟩ := ih hw₂
        refine ⟨w₃, hw₃, ?_⟩
        simp only [hmore, Outcome.ok_bind]
        cases a.shown x maxChars columns rest with
        | error f => rfl
        | ok more => rfl

end

/-! ## The law -/

/-- Reading the metadata of a file ends the listing, as if there were no more files. -/
def EndsEarly (a : Adapter σ η) (x : World σ) (files : List η) : Prop :=
  ∃ h ∈ files, ∃ f, a.metadataIn x h = .error f ∧ f.endsListing = true

/-- A file whose metadata are told ends no listing. -/
theorem endsEarly_cons {h : η} {m : Metadata} (hm : a.metadataIn x h = .ok m) (rest : List η) :
    a.EndsEarly x (h :: rest) ↔ a.EndsEarly x rest := by
  simp only [EndsEarly, List.mem_cons, exists_eq_or_imp, hm, reduceCtorEq, false_and, exists_false,
    false_or]

/-- Where metadata are told, columns that ask for them get them, and other columns get none. -/
theorem askedIn_of_told {h : η} {m : Metadata} (hm : a.metadataIn x h = .ok m) (columns : List String) :
    ∃ m', a.askedIn x columns h = .ok m' ∧
      (m' = some m ∨ m' = none ∧ projectsMetadata columns = false) := by
  rw [askedIn, hm]
  cases projectsMetadata columns with
  | true => exact ⟨some m, rfl, .inl rfl⟩
  | false => exact ⟨none, rfl, .inr ⟨rfl, rfl⟩⟩

theorem name_of_ofName? {n : String} {c : Column} (h : Column.ofName? n = some c) : c.name = n := by
  rw [Column.ofName?] at h
  simpa using List.find?_some h

/-- A cell shows the same in any columns: contents if they are asked for, the name in any case, and metadata
if they are asked for. -/
theorem cell_recordOf {c : Column} {n : String} (hc : Column.ofName? n = some c) (hn : n ∈ columns)
    {h : η} {m : Metadata} {m' : Option Metadata}
    (hm : m' = some m ∨ m' = none ∧ projectsMetadata columns = false) {contents contents' : Cell}
    (hcontents : Column.file.name ∈ columns → contents' = contents) (d d' : Cursor η) (k k' : Nat) :
    Row.cell (a.recordOf d h k m') contents' c = Row.cell (a.recordOf d' h k' (some m)) contents c := by
  obtain rfl := name_of_ofName? hc
  have hmetadata (hplain : Column.isPlain c.name = false) : m' = some m := by
    refine hm.resolve_right fun ⟨_, hnone⟩ => ?_
    have hasked : projectsMetadata columns = true :=
      List.any_eq_true.mpr ⟨c.name, hn, by rw [hplain]; rfl⟩
    rw [hnone] at hasked
    cases hasked
  cases c with
  | file => exact hcontents hn
  | filePath => cases m' <;> rfl
  | lastModified => rw [hmetadata (by decide)]; rfl
  | created => rw [hmetadata (by decide)]; rfl
  | size => rw [hmetadata (by decide)]; rfl

section

variable {full : List String} (hfull : ∀ n, n ∈ full ↔ n ∈ Column.allNames)
  (hcolumns : ∀ n ∈ columns, n ∈ Column.allNames)

include hfull hcolumns

/-- **Row.** A row in some columns is the row in all columns, restricted to them. -/
theorem row_restrict {h : η} {m : Metadata} {m' : Option Metadata}
    (hm : m' = some m ∨ m' = none ∧ projectsMetadata columns = false) {row : Row}
    (hrow : a.rowIn x maxChars full h (some m) = .ok row) :
    a.rowIn x maxChars columns h m' = .ok (row.restrict columns) := by
  obtain ⟨contents, hcontents, hrow⟩ := Outcome.bind_eq_ok hrow
  have hknown : ∀ n ∈ full, n ∈ Column.allNames := fun n => (hfull n).mp
  rw [Row.ofRecord_eq _ _ hknown] at hrow
  obtain rfl := Except.ok.inj hrow
  -- contents that are shown in all columns are shown wherever they are asked for
  have hfile : full.contains Column.file.name = true := by
    rw [List.contains_iff_mem, hfull]
    decide
  obtain ⟨contents', hcontents', hsame⟩ : ∃ contents', a.contentsIn x maxChars columns h = .ok contents' ∧
      (Column.file.name ∈ columns → contents' = contents) := by
    rw [contentsIn, if_pos hfile] at hcontents
    rw [contentsIn]
    by_cases hasked : columns.contains Column.file.name = true
    · exact ⟨contents, by rw [if_pos hasked, hcontents], fun _ => rfl⟩
    · refine ⟨.empty, by rw [if_neg hasked], fun hmem => ?_⟩
      exact absurd (List.contains_iff_mem.mpr hmem) hasked
  rw [rowIn, hcontents', Outcome.ok_bind, Row.ofRecord_eq _ _ hcolumns, Row.restrict]
  refine congrArg Except.ok (List.filterMap_congr fun n hn => ?_)
  obtain ⟨c, hc⟩ := Row.exists_ofName? (hcolumns n hn)
  rw [Row.lookup_ofRecord hknown ((hfull n).mpr (hcolumns n hn)), hc, Option.map_some, Option.map_some,
    Option.map_some, cell_recordOf hc hn hm hsame]

/-- **Rows.** What is shown in some columns is what is shown in all columns, restricted to them, unless reading
metadata, which the other columns do not ask for, ends the listing early. -/
theorem shown_restrict {files : List η} {rows : List Row}
    (hrows : a.shown x maxChars full files = .ok rows) :
    projectsMetadata columns = true ∨ ¬ a.EndsEarly x files ↔
      a.shown x maxChars columns files = .ok (rows.map (Row.restrict columns)) := by
  have hmeta : projectsMetadata full = true :=
    List.any_eq_true.mpr ⟨Column.size.name, (hfull _).mpr (by decide), by decide⟩
  induction files generalizing rows with
  | nil =>
    obtain rfl := Except.ok.inj hrows
    exact iff_of_true (.inr fun ⟨h, hh, _⟩ => List.not_mem_nil hh) rfl
  | cons h rest ih =>
    rw [shown, askedIn, if_pos hmeta] at hrows
    rw [shown]
    cases hm : a.metadataIn x h with
    | error f =>
      rw [hm] at hrows
      simp only [Except.map] at hrows
      split at hrows
      · rename_i hends
        obtain rfl := Except.ok.inj hrows
        cases hasked : projectsMetadata columns with
        | true =>
          rw [askedIn, hasked, if_pos rfl, hm]
          exact iff_of_true (.inl rfl) (if_pos hends)
        | false =>
          -- the file is shown here, and is not there
          have hearly : a.EndsEarly x (h :: rest) := ⟨h, List.mem_cons_self .., f, hm, hends⟩
          refine iff_of_false (by simp [hearly]) fun hshown => ?_
          rw [askedIn, hasked] at hshown
          obtain ⟨first, -, hshown⟩ := Outcome.bind_eq_ok hshown
          obtain ⟨more, -, hshown⟩ := Outcome.bind_eq_ok hshown
          cases hshown
      · cases hrows
    | ok m =>
      rw [hm] at hrows
      obtain ⟨first, hfirst, hrows⟩ := Outcome.bind_eq_ok hrows
      obtain ⟨more, hmore, hrows⟩ := Outcome.bind_eq_ok hrows
      obtain rfl := Except.ok.inj hrows
      obtain ⟨m', hasked, hm'⟩ := askedIn_of_told hm columns
      rw [hasked, endsEarly_cons hm]
      refine (ih hmore).trans ?_
      simp only [row_restrict hfull hcolumns hm' hfirst, Outcome.ok_bind]
      constructor
      · intro hshown
        rw [hshown]
        rfl
      · intro hshown
        obtain ⟨more', hmore', hshown⟩ := Outcome.bind_eq_ok hshown
        rw [hmore', (List.cons.inj (Except.ok.inj hshown)).2]

end

end Adapter

/-- Metadata of a file in memory are told, so that no listing ends early. -/
theorem Memory.not_endsEarly (config : Config) (x : World Memory) (files : List (String × MemoryFile)) :
    ¬ (⟨store, config⟩ : Adapter _ _).EndsEarly x files := by
  rintro ⟨h, -, f, hf, -⟩
  have htold : (⟨store, config⟩ : Adapter _ _).metadataIn x h =
      .ok (h.2.modified, h.2.created, h.2.data.length) := rfl
  rw [htold] at hf
  cases hf

/-- A location where nothing is found is trouble of the system. -/
theorem Local.isSystem_of_status {d : Disk} {l : Location} {f : Fault} (h : status d l = .error f) :
    f.isSystem = true := by
  rw [status] at h
  split at h
  · obtain rfl := Except.error.inj h
    rfl
  · split at h
    · cases h
    · obtain rfl := Except.error.inj h
      rfl

/-- Where metadata of a file on disk cannot be read, it is trouble of the system, and no listing ends early. -/
theorem Local.not_endsEarly (s : Local) (config : Config) (x : World Disk) (files : List LocalFile) :
    ¬ (⟨s.store, config⟩ : Adapter _ _).EndsEarly x files := by
  rintro ⟨h, -, f, hf, hends⟩
  rw [Adapter.metadataIn, Adapter.metadata_exec] at hf
  simp only [store, Op.ask_exec, Op.pure_exec] at hf
  cases hstatus : status x.store h.place with
  | ok n =>
    simp only [hstatus, Except.map] at hf
    cases hf
  | error e =>
    simp only [hstatus, Except.map] at hf
    obtain rfl := Except.error.inj hf
    have hfamily := (Adapter.family_metadataFault (isSystem_of_status hstatus) h.path).2
    rw [Fault.endsListing, hfamily] at hends
    cases hends

namespace Tools

open Adapter

/-- A tool for listing: the one for text, which may be cut, and the one for bytes. -/
def list (a : Adapter σ η) (maxChars : Option Int) (pattern : String) (columns : List String) :
    Op σ (List Row) :=
  match maxChars with
  | some n => getTextFiles a (some (some pattern)) columns n
  | none => getFiles a (some (some pattern)) columns

variable {view : σ → ν} {a : Adapter σ η} {x w v : World σ} {full columns : List String}

/-- What a tool for listing shows is told by how the store looks. -/
theorem list_looks (ha : a.store.Still view) (hw : w.Looks view x)
    (hcolumns : ∀ n ∈ wanted columns, n ∈ Column.allNames) (maxChars : Option Int) (pattern : String) :
    ∃ w', w'.Looks view x ∧ (list a maxChars pattern columns).exec w =
      (match ((a.store.resolve pattern).exec x).1 with
        | .error f => .error (resolveFault pattern f)
        | .ok files =>
          if files.isEmpty && a.config.failOnMissing then .error (.notFound pattern)
          else a.shown x maxChars (wanted columns) files, w') := by
  obtain ⟨procedure, hprocedure, hlist⟩ : ∃ procedure,
      (procedure, listed maxChars) ∈ Kind.procedures ∧ list a maxChars pattern columns =
        listing a procedure (some (some pattern)) columns fun r =>
          Session.rowOf r (wanted columns) maxChars := by
    cases maxChars with
    | none => exact ⟨"getFiles", by decide, rfl⟩
    | some n => exact ⟨"getTextFiles", List.mem_cons_self .., rfl⟩
  have hkind : (listed maxChars).isListing = true := by cases maxChars <;> rfl
  obtain ⟨w₁, hresolve, hw₁, -⟩ := (ha.resolve pattern).exec hw
  rw [hlist, listing_exec a hprocedure hkind hcolumns, hresolve]
  rcases ((a.store.resolve pattern).exec x).1 with f | files
  · exact ⟨w₁, hw₁, rfl⟩
  · have hnoted : World.Looks view { w₁ with notes := ⟨.debug, .operations,
        "Getting " ++ toString files.length ++ " file(s)"⟩ :: w₁.notes } x := ⟨hw₁.store, hw₁.sound⟩
    cases hmissing : files.isEmpty && a.config.failOnMissing with
    | true =>
      refine ⟨_, hnoted, ?_⟩
      simp only [hmissing, if_true]
    | false =>
      obtain ⟨w₂, hw₂, hrows⟩ := rows_looks ha hnoted
        (c := ⟨listed maxChars, projectsMetadata (wanted columns), files, 0, false⟩) rfl rfl files
      refine ⟨w₂, hw₂, ?_⟩
      simp only [hmissing, Bool.false_eq_true, if_false, hrows]

/-- **Columns.** Let a tool for listing show rows with all five columns, in whatever order they are named. While
the store looks the same, as it does after that, the same call for any of the columns shows the same
rows, each with the cells of those columns. There is one exception, and only where none of these is a column
of metadata: when the first call ended early, as reading the metadata of a file ended its listing. No call ends
early in memory or on disk. -/
theorem columns_restrict (ha : a.store.Still view) (hw : w.Sound) (hv : v.Looks view w)
    (maxChars : Option Int) (pattern : String) (hfull : ∀ n, n ∈ wanted full ↔ n ∈ Column.allNames)
    (hne : columns ≠ []) (hcolumns : ∀ n ∈ columns, n ∈ Column.allNames) {shown : List Row}
    (hshown : ((list a maxChars pattern full).exec w).1 = .ok shown) :
    ((list a maxChars pattern full).exec w).2.Looks view w ∧
    (∃ files, ((a.store.resolve pattern).exec w).1 = .ok files ∧
      (projectsMetadata columns = true ∨ ¬ a.EndsEarly w files ↔
        ((list a maxChars pattern columns).exec v).1 = .ok (shown.map (Row.restrict columns)))) ∧
    (∀ config x files, ¬ (⟨Memory.store, config⟩ : Adapter _ _).EndsEarly x files) ∧
    ∀ (s : Local) config x files, ¬ (⟨s.store, config⟩ : Adapter _ _).EndsEarly x files := by
  have hwanted : wanted columns = columns := by
    rw [wanted, if_neg (by simpa using hne)]
  obtain ⟨w', hw', hfirst⟩ :=
    list_looks ha ⟨rfl, hw⟩ (fun n => (hfull n).mp) maxChars pattern
  obtain ⟨v', -, hsecond⟩ := list_looks ha hv (by rwa [hwanted]) maxChars pattern
  rw [hfirst] at hshown
  rw [hfirst, hsecond, hwanted]
  refine ⟨hw', ?_, Memory.not_endsEarly, Local.not_endsEarly⟩
  cases hresolve : ((a.store.resolve pattern).exec w).1 with
  | error f =>
    rw [hresolve] at hshown
    cases hshown
  | ok files =>
    rw [hresolve] at hshown
    refine ⟨files, rfl, ?_⟩
    simp only at hshown ⊢
    split at hshown
    · cases hshown
    · rename_i hfound
      rw [if_neg hfound]
      exact shown_restrict hfull hcolumns hshown

/-- A file in memory is shown with its name in front of its contents and behind them. -/
theorem columns_restrict_twice :
    let a : Adapter Memory (String × MemoryFile) := ⟨Memory.store, ⟨.utf8, true⟩⟩
    let m : Memory := (Memory.empty fun n => ⟨n⟩).put "a" [65] ⟨0⟩
    let w := (list a none "a" []).exec (.fresh m)
    let columns := ["filePath", "file", "filePath"]
    let name : String × Cell := ("filePath", .text (Point.ofString "a"))
    let file : String × Cell := ("file", .text (Point.ofString "QQ=="))
    w.2.Looks id (.fresh m) ∧ (∀ n, n ∈ wanted [] ↔ n ∈ Column.allNames) ∧ columns ≠ [] ∧
      (∀ n ∈ columns, n ∈ Column.allNames) ∧
      w.1 = .ok [[file, name, ("lastModified", Row.moment (some ⟨0⟩)),
        ("created", Row.moment (some ⟨0⟩)), ("size", .number 1)]] ∧
      ((list a none "a" columns).exec w.2).1 = .ok [[name, file, name]] := by
  intro a m w columns name file
  have hfull : ∀ n, n ∈ wanted [] ↔ n ∈ Column.allNames := fun n => Iff.rfl
  have hcolumns : ∀ n ∈ columns, n ∈ Column.allNames := by decide
  have hsound := World.sound_fresh m
  have hget : m.files.get? "a" = some ⟨[65], ⟨0⟩, some ⟨0⟩⟩ := by decide +kernel
  obtain ⟨w', hw', hlist⟩ := list_looks (a := a) Memory.store_still ⟨rfl, hsound⟩
    (fun n => (hfull n).mp) none "a"
  have hlooks : w.2.Looks id (.fresh m) := by
    simp only [w, hlist]
    exact hw'
  have hshown : w.1 = .ok [[file, name, ("lastModified", Row.moment (some ⟨0⟩)),
      ("created", Row.moment (some ⟨0⟩)), ("size", .number 1)]] := by
    have hresolve : ((a.store.resolve "a").exec (.fresh m)).1 = .ok [("a", ⟨[65], ⟨0⟩, some ⟨0⟩⟩)] :=
      (Memory.resolve_letter hget).1
    simp only [w, hlist, hresolve]
    decide +kernel
  obtain ⟨-, ⟨files, -, hcommutes⟩, hnever, -⟩ :=
    columns_restrict (a := a) Memory.store_still hsound hlooks none "a" hfull (by decide) hcolumns hshown
  exact ⟨hlooks, hfull, by decide, hcolumns, hshown, hcommutes.mp (.inr (hnever _ _ files))⟩

/-- Reading the size of one file ends the listing of a scripted store. -/
theorem columns_differ :
    let file (path : String) (broken : Option (Field × Fault)) : ScriptedFile :=
      ⟨path, [65], ⟨0⟩, none, broken⟩
    let s : Script := ⟨[file "a" none, file "b" (some (.size, .given .exhausted "stop"))],
      none, none, none, none, true⟩
    let a : Adapter (List Call) ScriptedFile := ⟨s.store, ⟨.utf8, true⟩⟩
    let name (path : String) : String × Cell := ("filePath", .text (Point.ofString path))
    s.store.Still Script.view ∧
      ((list a none "*" []).exec (.fresh [])).1 =
        .ok [[("file", .text (Point.ofString "QQ==")), name "a", ("lastModified", Row.moment (some ⟨0⟩)),
          ("created", Row.moment (some ⟨0⟩)), ("size", .number 1)]] ∧
      ((list a none "*" ["filePath"]).exec (.fresh [])).1 = .ok [[name "a"], [name "b"]] := by
  intro file s a name
  exact ⟨s.store_still, by decide +kernel, by decide +kernel⟩

end Tools

end FileDepot
