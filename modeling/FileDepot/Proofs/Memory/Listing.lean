import FileDepot.Proofs.Memory.Resolve
import FileDepot.Proofs.Records
import FileDepot.Proofs.Tools

/-!
# Listings in memory

What the adapter of a store in memory makes of a listing, for text and for bytes. The cursor has the files as
they are stored when the pattern is resolved (`execute_list`), their records tell what the cursor has
(`record_file`), and the contents of a record are looked up when they are taken (`take_file`,
`take_missing`).
-/

namespace FileDepot

namespace Memory

open FileDepot.Path FileDepot.Text FileDepot.Encoding

/-- An adapter of a store in memory. -/
abbrev adapter (config : Config) : Adapter Memory (String × MemoryFile) := ⟨store, config⟩

variable {config : Config} {m : Memory} {w : World Memory} {k pattern : String} {f : MemoryFile}
  {request : Request Memory} {found : List (String × MemoryFile)}

/-! ## Cursors -/

/-- **List.** A listing leaves the store as it is. -/
theorem execute_list (config : Config) (hkind : request.kind.isListing = true)
    (hpath : request.path = some pattern) (hvalid : isRefused (some request) = false)
    (w : World Memory) :
    ∃ notes, ((adapter config).execute (some request)).exec w =
      (match w.store.resolve pattern with
        | .error f => .error (Adapter.resolveFault pattern f)
        | .ok found =>
          if found.isEmpty && config.failOnMissing then .error (.notFound pattern)
          else .ok ⟨request.kind, projectsMetadata request.columns, found, 0, false⟩,
        { w with notes := notes }) := by
  have hresolve : ((adapter config).store.resolve pattern).exec w = (w.store.resolve pattern, w) := by
    simp only [store, Op.ask_exec]
  rw [Adapter.execute_list _ hkind hpath hvalid, hresolve]
  cases w.store.resolve pattern with
  | error f => exact ⟨_, rfl⟩
  | ok found => exact ⟨_, rfl⟩

/-- A path of one letter stands for the file at it. -/
theorem resolve_letter {m : Memory} {f : MemoryFile} (hf : m.files.get? "a" = some f) :
    m.resolve "a" = .ok [("a", f)] ∧ m.contents "a" = .ok f.data := by
  have hsegments : Path.segments (Path.normalize "a") = ["a"] := by decide +kernel
  have hpath : ∀ n ∈ Path.segments (Path.normalize "a"), Path.hasWildcard n = false ∧ Text.Tidy n := by
    rw [hsegments]
    decide +kernel
  exact resolve_file (fun n hn => ⟨Path.isSegment_of_mem_segments hn, (hpath n hn).2⟩)
    (fun n hn => (hpath n hn).1) (by decide +kernel) hf

/-! ## Records -/

/-- The record of a file as the cursor has it. -/
def fileRecord (config : Config) (c : Cursor (String × MemoryFile)) (k : String) (f : MemoryFile)
    (ticket : Nat) : Record Memory :=
  if c.metadata then
    (adapter config).fullRecord c (k, f) ticket f.modified f.created f.data.length
  else (adapter config).plainRecord c (k, f) ticket

/-- **Record.** The record of a file tells what the cursor has, whatever is stored by now. -/
theorem record_file (config : Config) (c : Cursor (String × MemoryFile)) (k : String)
    (f : MemoryFile) (w : World Memory) :
    ∃ notes, ((adapter config).record c (k, f)).exec w =
      (.ok (fileRecord config c k f w.issued), ⟨w.store, notes, w.issued + 1, w.redeemed⟩) := by
  rw [Adapter.record_exec, fileRecord]
  cases c.metadata with
  | true => exact ⟨_, rfl⟩
  | false => exact ⟨_, rfl⟩

/-! ## Contents -/

/-- A path that is stored without blanks at the edges of its segments is looked up as it is. -/
theorem normalize_of_stored (hk : IsNormal k) (htidy : ∀ n ∈ parts k, Tidy n) :
    normalize k = .ok k := by
  refine normalize_of_normal hk ?_
  by_cases hroot : k = ""
  · rw [hroot]
    decide
  · have hsegments := (parts_of_normal hk hroot).1
    rw [← join_parts k]
    exact tidy_join (fun n hn => (hsegments n hn).ne_empty) htidy

section

variable {l : Lob Memory} (hsource : l.source = store.contents (k, f)) (hk : normalize k = .ok k)
  (hfresh : l.ticket ∉ w.redeemed)

include hsource hk hfresh

/-- **Take.** The contents of a record are those that are stored at its path when they are taken. -/
theorem take_file {g : MemoryFile} (hget : w.store.files.get? k = some g) :
    l.take.exec w = (.ok (.whole g.data), { w with redeemed := l.ticket :: w.redeemed }) := by
  have hopened : w.redeemed.contains l.ticket = false := by simpa using hfresh
  rw [Lob.take_exec_cases, hopened, hsource]
  simp only [Bool.false_eq_true, if_false, store, Op.ask_exec, contents, hk, Outcome.ok_bind, hget,
    Except.map]

/-- **Take.** Where no file is stored by then, nothing is taken, and the contents can be taken later. -/
theorem take_missing (hget : w.store.files.get? k = none) :
    l.take.exec w = (.error (.unopened (.memory (.missing k))), w) := by
  have hopened : w.redeemed.contains l.ticket = false := by simpa using hfresh
  rw [Lob.take_exec_cases, hopened, hsource]
  simp only [Bool.false_eq_true, if_false, store, Op.ask_exec, contents, hk, Outcome.ok_bind, hget]
  rfl

end

/-! ## Tools -/

/-- The row of a file with all columns, its contents shown as text. -/
def textRow (k : String) (f : MemoryFile) (s : List Point) : Row :=
  [("file", .text s), ("filePath", .text (Point.ofString (Path.baseName k))),
    ("lastModified", Row.moment (some f.modified)),
    ("created", Row.moment (some (f.created.getD f.modified))), ("size", .number f.data.length)]

@[simp] theorem lookup_file_textRow (k : String) (f : MemoryFile) (s : List Point) :
    (textRow k f s).lookup "file" = some (.text s) := rfl

@[simp] theorem lookup_filePath_textRow (k : String) (f : MemoryFile) (s : List Point) :
    (textRow k f s).lookup "filePath" = some (.text (Point.ofString (Path.baseName k))) := rfl

@[simp] theorem lookup_size_textRow (k : String) (f : MemoryFile) (s : List Point) :
    (textRow k f s).lookup "size" = some (.number f.data.length) := rfl

/-- A record with metadata has a cell for every column. -/
theorem ofRecord_fileRecord {c : Cursor (String × MemoryFile)} (hmeta : c.metadata = true)
    (ticket : Nat) (s : List Point) :
    Row.ofRecord (fileRecord config c k f ticket) (.text s) Column.allNames = .ok (textRow k f s) := by
  rw [fileRecord, if_pos hmeta]
  rfl

/-- **Tool.** A tool for listing shows what its pattern stands for, row by row; when this is nothing, it may
be a fault. -/
theorem listing_exec (config : Config) {procedure : String} {kind : Kind}
    (hprocedure : (procedure, kind) ∈ Kind.procedures) (hkind : kind.isListing = true)
    {columns : List String} (hcolumns : ∀ n ∈ columns, n ∈ Column.allNames)
    (row : Record Memory → Op Memory Row) (pattern : String) (w : World Memory) :
    ∃ notes, (Tools.listing (adapter config) procedure (some (some pattern)) columns row).exec w =
      match w.store.resolve pattern with
      | .error f => (.error (Adapter.resolveFault pattern f), { w with notes := notes })
      | .ok found =>
        if found.isEmpty && config.failOnMissing then
          (.error (.notFound pattern), { w with notes := notes })
        else (Tools.rows (adapter config)
          ⟨kind, projectsMetadata (Tools.wanted columns), found, 0, false⟩ row found).exec
            { w with notes := notes } := by
  have hknown : ∀ n ∈ Tools.wanted columns, n ∈ Column.allNames := by
    rw [Tools.wanted]
    split
    · exact fun n hn => hn
    · exact hcolumns
  have hresolve : ((adapter config).store.resolve pattern).exec w = (w.store.resolve pattern, w) := by
    simp only [store, Op.ask_exec]
  rw [Tools.listing_exec _ hprocedure hkind hknown, hresolve]
  cases w.store.resolve pattern with
  | error f => exact ⟨w.notes, rfl⟩
  | ok found =>
    exact ⟨⟨.debug, .operations, "Getting " ++ toString found.length ++ " file(s)"⟩ :: w.notes, rfl⟩

section

variable (config : Config) {procedure : String} {kind : Kind} {columns : List String}
  {row : Record Memory → Op Memory Row} (hprocedure : (procedure, kind) ∈ Kind.procedures)
  (hkind : kind.isListing = true) (hcolumns : ∀ n ∈ columns, n ∈ Column.allNames)

include hprocedure hkind hcolumns

/-- **Tool.** A pattern that stands for one file is shown as the row of its record. -/
theorem listing_file (hfound : w.store.resolve pattern = .ok [(k, f)]) {shown : Row}
    {redeemed : List Nat}
    (hrow : ∀ notes, (row (fileRecord config
        ⟨kind, projectsMetadata (Tools.wanted columns), [(k, f)], 0, false⟩ k f w.issued)).exec
        ⟨w.store, notes, w.issued + 1, w.redeemed⟩ =
      (.ok shown, ⟨w.store, notes, w.issued + 1, redeemed⟩)) :
    ∃ notes, (Tools.listing (adapter config) procedure (some (some pattern)) columns row).exec w =
      (.ok [shown], ⟨w.store, notes, w.issued + 1, redeemed⟩) := by
  obtain ⟨notes, hlist⟩ := listing_exec config hprocedure hkind hcolumns row pattern w
  obtain ⟨notes', hrecord⟩ := record_file config
    ⟨kind, projectsMetadata (Tools.wanted columns), [(k, f)], 0, false⟩ k f { w with notes := notes }
  refine ⟨notes', ?_⟩
  rw [hlist, hfound]
  simp only [List.isEmpty_cons, Bool.false_and, Bool.false_eq_true, if_false, Tools.rows,
    Op.bind_exec, Op.attempt_exec, hrecord, hrow, Op.pure_exec]

/-- **Tool.** When a pattern stands for nothing, there are no rows, or this is a fault. -/
theorem listing_nothing (row : Record Memory → Op Memory Row)
    (hfound : w.store.resolve pattern = .ok []) :
    ∃ notes, (Tools.listing (adapter config) procedure (some (some pattern)) columns row).exec w =
      (if config.failOnMissing then .error (.notFound pattern) else .ok [],
        { w with notes := notes }) := by
  obtain ⟨notes, hlist⟩ := listing_exec config hprocedure hkind hcolumns row pattern w
  refine ⟨notes, ?_⟩
  rw [hlist, hfound]
  cases config.failOnMissing with
  | true => rfl
  | false => rfl

end

end Memory

end FileDepot
