import FileDepot.Proofs.Blobs
import FileDepot.Proofs.Memory.Saving
import FileDepot.Proofs.Tickets

/-!
# Saving bytes, showing them and removing them again

Bytes that are saved in memory in base 64 are shown as they were, with the name of the file and their number.
When the file is removed, all others are as before the save, and its path is not found any more until
something is put there (`binary_round_trip`).

* **save** — `payload_blob`: what is written in base 64 is read as the bytes that it was written for;
* **show** — `Memory.getFiles_exec`: what is shown of a file;
* **nothing** — `Memory.FindsNothing`: what listings give where nothing is stored.
-/

namespace FileDepot

open Bytes

namespace Memory

open FileDepot.Path FileDepot.Text

variable {config : Config} {w : World Memory} {path q k : String} {f g : MemoryFile}

/-! ## Payloads -/

/-- Bytes are saved as they are. -/
theorem toReader_binary (config : Config) (data : Bytes) (w : World Memory) (notes : List Note) :
    ((Payload.binary (.bytes data)).toReader config.charset).exec { w with notes := notes } =
      (.ok (.bytes data), { w with notes := notes, redeemed := w.redeemed }) := rfl

/-! ## Rows -/

/-- **Row.** The row of a file shows the bytes that are stored in base 64. -/
theorem binary_exec {c : Cursor (String × MemoryFile)} (hkind : c.kind = .listBinary)
    (hmeta : c.metadata = true) (hk : normalize k = .ok k) (hget : w.store.files.get? k = some g)
    {ticket : Nat} (hfresh : ticket ∉ w.redeemed) :
    (Row.binary (fileRecord config c k f ticket) Column.allNames).exec w =
      (.ok (textRow k f (Point.ofString (Base64.encode g.data))),
        { w with redeemed := ticket :: w.redeemed }) := by
  have hfile : (fileRecord config c k f ticket).content.source = store.contents (k, f) ∧
      (fileRecord config c k f ticket).content.ticket = ticket ∧
      (fileRecord config c k f ticket).content.charset = none ∧
      (fileRecord config c k f ticket).content.medium = .memory := by
    rw [fileRecord, if_pos hmeta, Adapter.fullRecord, Adapter.contentOf, hkind]
    exact ⟨rfl, rfl, rfl, rfl⟩
  obtain ⟨hsource, hticket, hcharset, hmedium⟩ := hfile
  have htake := take_file hsource hk (w := w) (by rwa [hticket]) hget
  have hbytes : (fileRecord config c k f ticket).content.source? g.data =
      some (.bytes (.bytes g.data)) := by
    rw [Lob.source?, hcharset]
  have hopen := Lob.openStream_of_take htake hbytes
  have hread : (fileRecord config c k f ticket).content.read.exec w =
      (.ok (.bytes g.data), { w with redeemed := ticket :: w.redeemed }) := by
    have hall : Stream.readAll ⟨.bytes (.bytes g.data), .memory, false⟩ = .ok (.bytes g.data) := by rfl
    simp only [Lob.read, Op.bind_exec, hopen, hticket, hmedium, hall, Op.ofExcept_exec]
  have hwanted : (!Column.allNames.contains Column.file.name) = false := by decide +kernel
  have hcontents : (Row.contents (fileRecord config c k f ticket) Column.allNames false 0).exec w =
      (.ok (.text (Point.ofString (Base64.encode g.data))), { w with redeemed := ticket :: w.redeemed }) := by
    rw [Row.contents, hwanted, hcharset]
    change (Row.contentCell 0 <$> (fileRecord config c k f ticket).content.read).exec w = _
    rw [Op.map_exec, hread]
    rfl
  simp only [Row.binary, Op.bind_exec, hcontents, Op.ofExcept_exec, ofRecord_fileRecord hmeta]

/-- **Show.** The tool for listing shows a file with its bytes in base 64. -/
theorem getFiles_exec (config : Config) (hw : w.Sound) (hclear : Clear (segments (Path.normalize path)))
    (hliteral : ∀ n ∈ segments (Path.normalize path), hasWildcard n = false)
    (hq : normalize path = .ok q) (hget : w.store.files.get? q = some f) :
    ∃ notes, (Tools.getFiles (adapter config) (some (some path)) []).exec w =
      (.ok [textRow q f (Point.ofString (Base64.encode f.data))],
        ⟨w.store, notes, w.issued + 1, w.issued :: w.redeemed⟩) := by
  have hmeta : projectsMetadata (Tools.wanted []) = true := by decide +kernel
  have hback := (splitPattern_literal hclear hliteral hq).2
  have hprocedure : ("getFiles", Kind.listBinary) ∈ Kind.procedures := by decide
  refine listing_file config hprocedure rfl (fun n hn => absurd hn List.not_mem_nil)
    (resolve_file hclear hliteral hq hget).1 fun notes => ?_
  exact binary_exec (w := ⟨w.store, notes, w.issued + 1, w.redeemed⟩) rfl hmeta hback hget hw.not_mem

/-! ## Finding nothing -/

/-- Whether any listing of a path finds nothing in a store: this is a fault if something must be found. -/
structure FindsNothing (config : Config) (path : String) (m : Memory) : Prop where
  /-- the cursor of a listing has no files -/
  request : ∀ (w : World Memory) (request : Request Memory), w.store = m → request.kind.isListing = true →
    request.path = some path → isRefused (some request) = false →
    (((adapter config).execute (some request)).exec w).1 =
      if config.failOnMissing then .error (.notFound path)
      else .ok ⟨request.kind, projectsMetadata request.columns, [], 0, false⟩
  /-- the tools show no rows -/
  tools : ∀ (w : World Memory) (columns : List String) (maxChars : Int), w.store = m →
    (∀ n ∈ columns, n ∈ Column.allNames) →
    ((Tools.getFiles (adapter config) (some (some path)) columns).exec w).1 =
      (if config.failOnMissing then .error (.notFound path) else .ok []) ∧
    ((Tools.getTextFiles (adapter config) (some (some path)) columns maxChars).exec w).1 =
      (if config.failOnMissing then .error (.notFound path) else .ok [])

theorem findsNothing_of_resolve {m : Memory} (h : m.resolve path = .ok []) : FindsNothing config path m where
  request w request hw hkind hpath hvalid := by
    obtain ⟨notes, hlist⟩ := execute_list config hkind hpath hvalid w
    rw [hlist, hw, h]
    rfl
  tools w columns maxChars hw hcolumns := by
    have hfound : w.store.resolve path = .ok [] := hw ▸ h
    have hbinary : ("getFiles", Kind.listBinary) ∈ Kind.procedures := by decide
    have htext : ("getTextFiles", Kind.listText) ∈ Kind.procedures := by decide
    obtain ⟨notes, hfiles⟩ := listing_nothing config hbinary rfl hcolumns
      (fun r => Row.binary r (Tools.wanted columns)) hfound
    obtain ⟨notes', htexts⟩ := listing_nothing config htext rfl hcolumns
      (fun r => Row.text r (Tools.wanted columns) maxChars) hfound
    exact ⟨congrArg Prod.fst hfiles, congrArg Prod.fst htexts⟩

end Memory

open Memory in
/-- **Round trip.** Bytes that are saved in base 64 at a path without wildcards, and without blanks at the
edges of its segments, are shown as one row, with the last segment of the path and the number of the bytes; no
other file is changed. When the path is removed, all other files are as before, and any listing of the path
finds nothing, until something is put there or below. -/
theorem binary_round_trip (config : Config) {w : World Memory} (hw : w.Sound) {path : String}
    (hpath : ∀ n ∈ Path.segments (Path.normalize path), Path.hasWildcard n = false ∧ Text.Tidy n)
    {data : Bytes} {msg : String} {w₁ : World Memory}
    (hsave : (Tools.saveFile (adapter config) (some path)
      (some (Point.ofString (Base64.encode data))) (some "blob")).exec w = (.ok msg, w₁)) :
    ∃ q name, normalize path = .ok q ∧
      (Path.segments (Path.normalize path)).getLast? = some name ∧
      (∀ k, k ≠ q → w₁.store.files.get? k = w.store.files.get? k) ∧
      (∃ row w₂, (Tools.getFiles (adapter config) (some (some path)) []).exec w₁ = (.ok [row], w₂) ∧
        w₂.store = w₁.store ∧
        row.lookup "file" = some (.text (Point.ofString (Base64.encode data))) ∧
        row.lookup "filePath" = some (.text (Point.ofString name)) ∧
        row.lookup "size" = some (.number data.length)) ∧
      ∀ w₂ : World Memory, w₂.store = w₁.store →
        ∃ w₃, (Tools.deleteFile (adapter config) (some path)).exec w₂ = (.ok ("Deleted " ++ path), w₃) ∧
          w₃.store.files.get? q = none ∧
          (∀ k, k ≠ q → w₃.store.files.get? k = w.store.files.get? k) ∧
          ∀ later : List Act, (∀ a ∈ later, a.Spares q) →
            FindsNothing config path (run w₃.store later) := by
  have hclear : Clear (Path.segments (Path.normalize path)) := fun n hn =>
    ⟨Path.isSegment_of_mem_segments hn, (hpath n hn).2⟩
  have hliteral : ∀ n ∈ Path.segments (Path.normalize path), Path.hasWildcard n = false :=
    fun n hn => (hpath n hn).1
  have hread := toReader_binary config data w
  have hdrain : (ByteReader.bytes data).drain = .ok data := rfl
  -- the bytes are saved where a file fits
  obtain ⟨q, hq, hfits⟩ := fits_of_saved (payload_blob data) hread hsave
  obtain ⟨notes, hput⟩ := saveFile_put (payload_blob data) hread hdrain hq hfits
  rw [hput] at hsave
  obtain ⟨-, rfl⟩ := Prod.mk.inj hsave
  obtain ⟨f, hget, rfl⟩ := exists_get?_put w.store q data (w.store.clock w.store.ticks)
  have hothers (k : String) (hk : k ≠ q) :
      (w.store.put q f.data (w.store.clock w.store.ticks)).tick.files.get? k = w.store.files.get? k :=
    (Catalog.get?_insert w.store.files q k _).trans (if_neg hk)
  have hfits' := fits_put hfits f.data (w.store.clock w.store.ticks)
  obtain ⟨name, hname, hbase⟩ : ∃ name, (Path.segments (Path.normalize path)).getLast? = some name ∧
      Path.baseName q = name := by
    obtain ⟨-, rfl⟩ := normalize_eq_ok hq
    rcases List.eq_nil_or_concat (Path.segments (Path.normalize path)) with hnil | ⟨front, name, hsegs⟩
    · exact absurd (by rw [hnil, Path.join_nil]) hfits.1
    · have hmem : name ∈ Path.segments (Path.normalize path) := by simp [hsegs]
      rw [hsegs, List.concat_eq_append]
      exact ⟨name, List.getLast?_concat, Path.baseName_join_concat (hclear name hmem).1.no_slash front⟩
  obtain ⟨notes', hshow⟩ :=
    getFiles_exec config (w := ⟨_, notes, w.issued, w.redeemed⟩) hw hclear hliteral hq hget
  refine ⟨q, name, hq, hname, hothers, ⟨_, _, hshow, rfl, ?_, ?_, ?_⟩, fun w₂ hw₂ => ?_⟩
  · rw [lookup_file_textRow]
  · rw [lookup_filePath_textRow, hbase]
  · rw [lookup_size_textRow]
  · have hstored : w₂.store.files.contains q = true := by rw [Catalog.contains, hw₂, hget]; rfl
    obtain ⟨notes'', hdelete⟩ := deleteFile_stored config hq hfits.1 hstored
    refine ⟨_, hdelete, ?_, fun k hk => ?_, fun later hlater => ?_⟩
    · exact (Catalog.get?_erase _ q q).trans (if_pos rfl)
    · rw [Catalog.get?_erase, if_neg hk, hw₂, hothers k hk]
    · have hvacant : Vacant { w₂.store with files := w₂.store.files.erase q } q :=
        vacant_erase (hw₂ ▸ hfits')
      exact findsNothing_of_resolve
        (resolve_vacant hclear hliteral hq hfits.1 (vacant_run hvacant hlater))

open Memory in
/-- Two bytes are saved, shown by the name of their file, and not found any more once it is removed. -/
theorem binary_round_trip_removed :
    let w : World Memory := .fresh (empty fun n => ⟨n⟩)
    let a := adapter ⟨.utf8, true⟩
    ∃ w₁ row w₂ w₃,
      (Tools.saveFile a (some "notes/a") (some (Point.ofString "AP8=")) (some "blob")).exec w =
        (.ok "Saved notes/a", w₁) ∧
      (Tools.getFiles a (some (some "notes/a")) []).exec w₁ = (.ok [row], w₂) ∧
      row.lookup "file" = some (.text (Point.ofString "AP8=")) ∧
      row.lookup "filePath" = some (.text (Point.ofString "a")) ∧
      row.lookup "size" = some (.number 2) ∧
      (Tools.deleteFile a (some "notes/a")).exec w₂ = (.ok "Deleted notes/a", w₃) ∧
      ((Tools.getFiles a (some (some "notes/a")) []).exec w₃).1 = .error (.notFound "notes/a") := by
  intro w a
  have hsegments : Path.segments (Path.normalize "notes/a") = ["notes", "a"] := by decide +kernel
  have hpath : ∀ n ∈ Path.segments (Path.normalize "notes/a"),
      Path.hasWildcard n = false ∧ Text.Tidy n := by
    rw [hsegments]
    decide +kernel
  have hencoded : Base64.encode [0, 255] = "AP8=" := by decide +kernel
  obtain ⟨notes, hsave⟩ := saveFile_put (payload_blob [0, 255]) (toReader_binary ⟨.utf8, true⟩ [0, 255] w)
    rfl (by decide +kernel : normalize "notes/a" = .ok "notes/a") (by decide +kernel)
  obtain ⟨q, name, -, hname, -, ⟨row, w₂, hshow, hstore, hfile, hfilePath, hsize⟩, hdelete⟩ :=
    binary_round_trip ⟨.utf8, true⟩ (World.sound_fresh _) hpath hsave
  obtain ⟨w₃, hdeleted, -, -, hnothing⟩ := hdelete w₂ hstore
  have hlisted := ((hnothing [] fun x hx => absurd hx List.not_mem_nil).tools w₃ [] 0 rfl
    fun n hn => absurd hn List.not_mem_nil).1
  rw [hsegments] at hname
  obtain rfl := Option.some.inj hname
  rw [hencoded] at hsave hfile
  exact ⟨_, row, w₂, w₃, hsave, hshow, hfile, hfilePath, hsize, hdeleted, hlisted⟩

end FileDepot
