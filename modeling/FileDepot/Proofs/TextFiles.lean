import FileDepot.Proofs.Memory.Saving
import FileDepot.Proofs.Stream.Delivery
import FileDepot.Proofs.Tickets

/-!
# Text files in memory

What the adapter of a store in memory makes of text files, one step after the other: a record of a listing
stands for contents that are not opened (`record_exec`), opening them gives the bytes that are stored
(`Lob.take_exec`), and saving hands bytes to the store (`procedure_save_exec`). Each step is told with the
world after it; of the notes in it nothing depends.
-/

namespace FileDepot

open Encoding

section

variable {σ : Type}

namespace Lob

variable {l : Lob σ} {w : World σ} {data : Bytes}

/-- Contents that were not opened are taken. -/
theorem take_exec (hfresh : l.ticket ∉ w.redeemed) (hsource : l.source.exec w = (.ok (.whole data), w)) :
    l.take.exec w = (.ok (.whole data), { w with redeemed := l.ticket :: w.redeemed }) := by
  have hopened : w.redeemed.contains l.ticket = false := by simpa using hfresh
  simp only [take_exec_cases, hopened, Bool.false_eq_true, if_false, hsource]

/-- Text that was not opened is decoded from the bytes that are taken. -/
theorem takeText_exec {charset : Charset} {codec : Codec} (hcharset : charset.requireText = .ok codec)
    (hfresh : l.ticket ∉ w.redeemed) (hsource : l.source.exec w = (.ok (.whole data), w)) :
    (l.takeText charset).exec w =
      (.ok (.decoded (.start codec data)), { w with redeemed := l.ticket :: w.redeemed }) := by
  rw [takeText_exec_cases, take_exec hfresh hsource]
  simp only [decoding, hcharset]
  rfl

end Lob

end

/-- The encodings that write each code point for itself can be read as text by their names. -/
theorem requireText_ofCodec {c : Codec} (hc : c ∈ Codec.pointwise) :
    (Charset.ofCodec c).requireText = .ok c := by
  have hplace : (Charset.ofCodec c).label ≠ Charset.placeLabel ∧ c.isText = true := by
    simp only [Codec.pointwise, List.mem_cons, List.not_mem_nil, or_false] at hc
    rcases hc with rfl | rfl | rfl | rfl | rfl | rfl <;> decide
  rw [Charset.requireText, if_neg hplace.1, require_ofCodec hc, Outcome.ok_bind, if_pos hplace.2]

namespace Memory

/-- The text at a path, to be opened later. -/
def textLob (config : Config) (k : String) (ticket : Nat) (length : Option Int) : Lob Memory :=
  ⟨ticket, Op.ask fun m => (m.contents k).map .whole, length, some config.charset, .memory⟩

/-- The record of a text file, with its metadata if they are asked for. -/
def textRecord (config : Config) (k : String) (f : MemoryFile) (metadata : Bool) (ticket : Nat) :
    Record Memory :=
  if metadata then
    ⟨textLob config k ticket (some f.data.length), Path.baseName k, some f.modified,
      some (f.created.getD f.modified), some f.data.length, true⟩
  else ⟨textLob config k ticket none, Path.baseName k, none, none, none, false⟩

theorem content_textRecord (config : Config) (k : String) (f : MemoryFile) (metadata : Bool)
    (ticket : Nat) :
    ∃ length, (textRecord config k f metadata ticket).content = textLob config k ticket length := by
  cases metadata with
  | true => exact ⟨_, rfl⟩
  | false => exact ⟨_, rfl⟩

variable {config : Config} {m : Memory} {w : World Memory} {k path q : String} {f : MemoryFile}

/-- The record of a text file is that of its file for a listing of text. -/
theorem fileRecord_listText {c : Cursor (String × MemoryFile)} (hkind : c.kind = .listText) (ticket : Nat) :
    fileRecord config c k f ticket = textRecord config k f c.metadata ticket := by
  rw [fileRecord, textRecord, Adapter.fullRecord, Adapter.plainRecord, hkind]
  rfl

/-- **Record.** A record of a text listing stands for the text at its path, under the next ticket. -/
theorem record_exec (config : Config) (w : World Memory) (k : String) (f : MemoryFile)
    {c : Cursor (String × MemoryFile)} (hkind : c.kind = .listText) :
    ∃ notes, ((adapter config).record c (k, f)).exec w =
      (.ok (textRecord config k f c.metadata w.issued),
        ⟨w.store, notes, w.issued + 1, w.redeemed⟩) := by
  obtain ⟨notes, hrecord⟩ := record_file config c k f w
  rw [fileRecord_listText hkind] at hrecord
  exact ⟨notes, hrecord⟩

/-- **Open.** Text that is opened is decoded from the bytes that are stored. -/
theorem takeText_textLob (hc : config.codec ∈ Codec.pointwise) {data : Bytes}
    (hstored : w.store.contents k = .ok data) {ticket : Nat} (hfresh : ticket ∉ w.redeemed)
    (length : Option Int) :
    ((textLob config k ticket length).takeText config.charset).exec w =
      (.ok (.decoded (.start config.codec data)), { w with redeemed := ticket :: w.redeemed }) := by
  have hsource : (textLob config k ticket length).source.exec w = (.ok (.whole data), w) := by
    simp only [textLob, Op.ask_exec, hstored, Except.map]
  exact Lob.takeText_exec (requireText_ofCodec hc) hfresh hsource

/-- Text that is opened and read as a whole is the text that was written, with uniform line ends. -/
theorem read_textLob (hc : config.codec ∈ Codec.pointwise) {t : List Point} (ht : config.codec.Writes t)
    (hstored : w.store.contents k = .ok (config.codec.written t)) {ticket : Nat}
    (hfresh : ticket ∉ w.redeemed) (length : Option Int) :
    (textLob config k ticket length).read.exec w =
      (.ok (.text (Newline.unify t)), { w with redeemed := ticket :: w.redeemed }) := by
  have hread := Decoding.readAll_written hc ht
  have hstream : Stream.readAll
      ⟨.text (.decoded (.start config.codec (config.codec.written t))), .memory, false⟩ =
      (Decoding.start config.codec (config.codec.written t)).readAll.1.map .text := rfl
  have hopen : (textLob config k ticket length).openStream =
      (textLob config k ticket length).takeText config.charset >>= fun text =>
        pure ⟨.text text, .memory, false⟩ := rfl
  rw [hread] at hstream
  rw [Lob.read, hopen]
  simp only [Op.bind_exec, takeText_textLob hc hstored hfresh, Op.pure_exec, hstream,
    Op.ofExcept_exec]
  rfl

/-! ## Saving -/

theorem payload_clob (t : List Point) :
    (Tools.payload t (some "clob") : Except Fault (Payload Memory)) = .ok (.characters (.chars t)) := by
  have hkind : Text.lower (Text.strip "clob") = "clob" := by decide +kernel
  have hgiven : (if ("clob" : String).isEmpty then "clob" else "clob") = "clob" := ite_self _
  rw [Tools.payload]
  simp only [Option.getD_some, hgiven, hkind, if_true]

/-- A text is saved in the encoding of the adapter. -/
theorem toReader_characters (hc : config.codec ∈ Codec.pointwise) (t : List Point) (w : World Memory)
    (notes : List Note) : ((Payload.characters (.chars t)).toReader config.charset).exec
      { w with notes := notes } =
        (.ok (.ofText config.codec (.chars t)), { w with notes := notes, redeemed := w.redeemed }) := by
  simp only [Payload.toReader, Payload.toReader.encoded, Config.charset, require_ofCodec hc,
    Op.bind_exec, Op.ofExcept_exec, Op.pure_exec]
  rfl

/-! ## Listing -/

/-- **List.** The procedure for listing text gives a cursor over what the pattern stands for. -/
theorem procedure_list_exec (config : Config) {pattern : String} {found : List (String × MemoryFile)}
    (hfound : w.store.resolve pattern = .ok found) (hne : found ≠ []) :
    ∃ notes, ((adapter config).procedure (some "getTextFiles") (some pattern) none
        Column.allNames).exec w =
      (.ok ⟨.listText, true, found, 0, false⟩, { w with notes := notes }) := by
  let request : Request Memory := ⟨.listText, some pattern, none, Column.allNames⟩
  have hmeta : projectsMetadata Column.allNames = true := by decide +kernel
  have hvalid : isRefused (some request) = false := by simp [isRefused, request, Column.allNames, Column.all]
  have hlisting : request.kind.isListing = true := rfl
  obtain ⟨notes, hlist⟩ := execute_list config hlisting rfl hvalid w
  have hempty : found.isEmpty = false := by simpa using hne
  refine ⟨notes, ?_⟩
  rw [Adapter.procedure_exec _ (Kind.ofProcedure_of_mem ("getTextFiles", .listText) (by decide)), ite_self,
    ite_self, hlist, hfound]
  simp only [hempty, Bool.false_and, Bool.false_eq_true, if_false, request, hmeta]

/-- **List.** A listing of text passes what the pattern stands for, and leaves the store as it is. -/
theorem listing_of_procedure {path : Option String} {columns : List String}
    {c : Cursor (String × MemoryFile)} {w' : World Memory}
    (h : ((adapter config).procedure (some "getTextFiles") path none columns).exec w = (.ok c, w')) :
    c.kind = .listText ∧ c.closed = false ∧ w'.store = w.store ∧
      ∃ pattern, path = some pattern ∧ w.store.resolve pattern = .ok c.files := by
  rw [Adapter.procedure_exec _ (Kind.ofProcedure_of_mem ("getTextFiles", .listText) (by decide))] at h
  obtain ⟨hkind, -, -, hclosed, pattern, w₁, note, hpath, hresolve, rfl⟩ := Adapter.execute_eq_ok h
  simp only [store, Op.ask_exec] at hresolve
  obtain ⟨hfound, rfl⟩ := Prod.mk.inj hresolve
  exact ⟨hkind, hclosed, rfl, pattern, hpath, hfound⟩

/-- **Next.** A cursor that comes to a file gives its record. -/
theorem next_exec (config : Config) (w : World Memory) {c : Cursor (String × MemoryFile)}
    (hkind : c.kind = .listText) (hopen : c.closed = false) (hat : c.files[c.index]? = some (k, f)) :
    ∃ notes, ((adapter config).next c).1.exec w =
      (.ok (some (textRecord config k f c.metadata w.issued)),
        ⟨w.store, notes, w.issued + 1, w.redeemed⟩) := by
  obtain ⟨hlt, -⟩ := List.getElem?_eq_some_iff.mp hat
  have hleft : (!c.kind.isListing || c.exhausted) = false := by
    simpa [hkind, Kind.isListing, Cursor.exhausted, hopen] using hlt
  have hadvance : c.advance = (some (k, f), { c with index := c.index + 1 }) := by
    rw [Cursor.advance, hleft, hat]
    rfl
  obtain ⟨notes, hrecord⟩ := record_exec config w k f hkind
  refine ⟨notes, ?_⟩
  simp only [Adapter.next, hadvance, Op.map_exec, hrecord]
  rfl

/-- The row of a record shows its text, unless it is too long. -/
theorem text_exec (hc : config.codec ∈ Codec.pointwise) {t : List Point} (ht : config.codec.Writes t)
    (hstored : w.store.contents k = .ok (config.codec.written t)) {ticket : Nat}
    (hfresh : ticket ∉ w.redeemed) {maxChars : Int} (hmax : (Newline.unify t).length ≤ maxChars) :
    (Row.text (textRecord config k f true ticket) Column.allNames maxChars).exec w =
      (.ok (textRow k f (Newline.unify t)), { w with redeemed := ticket :: w.redeemed }) := by
  have hwanted : (!Column.allNames.contains Column.file.name) = false := by decide +kernel
  have hshort : Row.truncate (Newline.unify t) maxChars = Newline.unify t := by
    rw [Row.truncate, if_neg (by omega)]
  have hcontents : (Row.contents (textRecord config k f true ticket) Column.allNames true
      maxChars).exec w =
        (.ok (.text (Newline.unify t)), { w with redeemed := ticket :: w.redeemed }) := by
    have hform : ((textRecord config k f true ticket).content.charset.isSome != true) = false := rfl
    rw [Row.contents, hwanted, hform]
    change (Row.contentCell maxChars <$>
      (textLob config k ticket (some (f.data.length : Int))).read).exec w = _
    rw [Op.map_exec, read_textLob hc ht hstored hfresh]
    change (Except.ok (Cell.text (Row.truncate (Newline.unify t) maxChars)), _) = _
    rw [hshort]
  have hrow : Row.ofRecord (textRecord config k f true ticket) (.text (Newline.unify t))
      Column.allNames = .ok (textRow k f (Newline.unify t)) := by
    rfl
  simp only [Row.text, Op.bind_exec, hcontents, Op.ofExcept_exec, hrow]

/-- **Show.** The tool for listing text shows a file that was written, with uniform line ends. -/
theorem getTextFiles_exec (hc : config.codec ∈ Codec.pointwise) {t : List Point}
    (ht : config.codec.Writes t) (hw : w.Sound) {pattern : String}
    (hfound : w.store.resolve pattern = .ok [(k, f)])
    (hstored : w.store.contents k = .ok (config.codec.written t)) {maxChars : Int}
    (hmax : (Newline.unify t).length ≤ maxChars) :
    ∃ notes, (Tools.getTextFiles (adapter config) (some (some pattern)) [] maxChars).exec w =
      (.ok [textRow k f (Newline.unify t)],
        ⟨w.store, notes, w.issued + 1, w.issued :: w.redeemed⟩) := by
  have hmeta : projectsMetadata (Tools.wanted []) = true := by decide +kernel
  have hprocedure : ("getTextFiles", Kind.listText) ∈ Kind.procedures := by decide
  refine listing_file config hprocedure rfl (fun n hn => absurd hn List.not_mem_nil) hfound
    fun notes => ?_
  rw [fileRecord_listText rfl, hmeta]
  exact text_exec (w := ⟨w.store, notes, w.issued + 1, w.redeemed⟩) hc ht hstored hw.not_mem hmax

end Memory

end FileDepot
