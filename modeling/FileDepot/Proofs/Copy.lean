import FileDepot.Proofs.Memory.Resolve
import FileDepot.Proofs.TextFiles

/-!
# Copying a listed text

The contents of a listed text can be saved at another path. They are decoded piece by piece and encoded
again, and decoding makes the line ends uniform. So a copy has the bytes of the file exactly when its text has
no carriage return (`copy_text`); any other file is changed on the way (`copy_changes_returns`).
-/

namespace FileDepot

open Encoding

namespace Memory

variable {config : Config} {w : World Memory} {k dst q : String} {f : MemoryFile} {s : List Point}

/-- Contents that are to be saved are read again in the encoding that they are listed in. -/
theorem toReader_textLob (hc : config.codec ∈ Codec.pointwise) {data : Bytes}
    (hdata : w.store.contents k = .ok data) {ticket : Nat} (hfresh : ticket ∉ w.redeemed)
    (length : Option Int) :
    ((Payload.lob (textLob config k ticket length)).toReader config.charset).exec w =
      (.ok (.ofText config.codec (.decoded (.start config.codec data))),
        { w with redeemed := ticket :: w.redeemed }) := by
  have hform : (Payload.lob (textLob config k ticket length)).toReader config.charset =
      (textLob config k ticket length).takeText config.charset >>=
        Payload.toReader.encoded config.charset := rfl
  have hrequire : config.charset.require = .ok config.codec := require_ofCodec hc
  rw [hform]
  simp only [Op.bind_exec, takeText_textLob hc hdata hfresh, Payload.toReader.encoded, hrequire,
    Op.ofExcept_exec, Outcome.mapError_ok, Op.pure_exec]

/-- **Copy.** Saving the contents of a listed text puts its bytes with uniform line ends where a file
fits. -/
theorem copy_exec (config : Config) (hc : config.codec ∈ Codec.pointwise)
    (hmark : config.codec.mark = []) (hw : w.Sound) (hs : config.codec.Writes s)
    (hread : w.store.contents k = .ok (config.codec.written s))
    {c : Cursor (String × MemoryFile)} (hkind : c.kind = .listText) (hopen : c.closed = false)
    (hat : c.files[c.index]? = some (k, f)) (hq : normalize dst = .ok q) (hfits : w.store.Fits q)
    (columns : List String) :
    ∃ r w₁ done w₂ copy, ((adapter config).next c).1.exec w = (.ok (some r), w₁) ∧
      ((adapter config).procedure (some "saveFile") (some dst) (some (.lob r.content)) columns).exec
        w₁ = (.ok done, w₂) ∧
      w₂.store.files.get? q = some copy ∧ copy.data = config.codec.written (Newline.unify s) ∧
      ∀ p, p ≠ q → w₂.store.files.get? p = w.store.files.get? p := by
  obtain ⟨notes, hrecord⟩ := next_exec config w hkind hopen hat
  obtain ⟨length, hcontent⟩ := content_textRecord config k f c.metadata w.issued
  have hpath := trim_ne_nil_of_normalize hq hfits.1
  -- what is read for saving is the text with uniform line ends
  have htext : (TextReader.decoded (.start config.codec (config.codec.written s))).Holds
      (Newline.unify s) := Decoding.holds_start hc hmark hs
  have hdrain := ByteReader.drain_ofText hc htext (Codec.writes_unify hc hs)
  have htaken (notes : List Note) :
      ((Payload.lob (textLob config k w.issued length)).toReader config.charset).exec
        ⟨w.store, notes, w.issued + 1, w.redeemed⟩ =
        (.ok (.ofText config.codec (.decoded (.start config.codec (config.codec.written s)))),
          ⟨w.store, notes, w.issued + 1, w.issued :: w.redeemed⟩) :=
    toReader_textLob (w := ⟨w.store, notes, w.issued + 1, w.redeemed⟩) hc hread hw.not_mem length
  obtain ⟨done, notes', hsave⟩ :=
    procedure_save_exec config ⟨w.store, notes, w.issued + 1, w.redeemed⟩ hpath htaken columns
  rw [← hcontent, write_of_fits hq hdrain hfits] at hsave
  obtain ⟨copy, hget, hcopy⟩ := exists_get?_put w.store q (config.codec.written (Newline.unify s))
    (w.store.clock w.store.ticks)
  refine ⟨_, _, done, _, copy, hrecord, hsave, hget, hcopy, fun p hp => ?_⟩
  exact (Catalog.get?_insert w.store.files q p _).trans (if_neg hp)

end Memory

open Memory in
/-- **Copy.** The contents of a file that a listing of text passes are saved wherever its bytes could be:
with uniform line ends, and with no other file changed. The copy has the bytes of the file exactly when the
text has no carriage return. -/
theorem copy_text (config : Config) (hc : config.codec ∈ Codec.pointwise)
    (hmark : config.codec.mark = []) {w w₀ w₁ : World Memory} {pattern : Option String}
    {columns : List String} {c : Cursor (String × MemoryFile)}
    (hlist : ((adapter config).procedure (some "getTextFiles") pattern none columns).exec w₀ =
      (.ok c, w₁))
    (hw : w.Sound) (hsame : w.store = w₁.store) {i : Nat} {k : String} {f : MemoryFile}
    (hat : c.files[i]? = some (k, f)) (hk : normalize k = .ok k) {s : List Point}
    (hs : config.codec.Writes s) (hdata : f.data = config.codec.written s) {dst q : String} {n : Nat}
    (hwrite : (w.store.write dst (.bytes f.data)).1 = .ok (q, n)) (columns' : List String) :
    ∃ r w₂ done w₃ copy, ((adapter config).next { c with index := i }).1.exec w = (.ok (some r), w₂) ∧
      ((adapter config).procedure (some "saveFile") (some dst) (some (.lob r.content)) columns').exec
        w₂ = (.ok done, w₃) ∧
      w₃.store.files.get? q = some copy ∧ copy.data = config.codec.written (Newline.unify s) ∧
      (copy.data = f.data ↔ Newline.cr ∉ s) ∧
      ∀ p, p ≠ q → w₃.store.files.get? p = w.store.files.get? p := by
  obtain ⟨hkind, hopen, hstore, pattern, rfl, hfound⟩ := listing_of_procedure hlist
  rw [← hstore, ← hsame] at hfound
  obtain ⟨p, hp, -⟩ := Outcome.bind_eq_ok hfound
  have hstored := ((mem_resolve_iff hp hfound).mp (List.mem_of_getElem? hat)).2
  have hread : w.store.contents k = .ok (config.codec.written s) := by
    rw [contents, hk, Outcome.ok_bind, hstored, ← hdata]
  obtain ⟨hq, hfits⟩ := fits_of_write hwrite
  obtain ⟨r, w₂, done, w₃, copy, hrecord, hsave, hget, hcopy, hframe⟩ :=
    copy_exec config (f := f) hc hmark hw hs hread (c := { c with index := i }) hkind hopen hat hq
      hfits columns'
  refine ⟨r, w₂, done, w₃, copy, hrecord, hsave, hget, hcopy, ?_, hframe⟩
  rw [hcopy, hdata, ← Newline.unify_eq_self_iff]
  constructor
  · exact Codec.written_inj hc (Codec.writes_unify hc hs) hs
  · exact congrArg config.codec.written

open Memory in
/-- A listed text without a carriage return is copied byte by byte. -/
theorem copy_text_lines :
    let w : World Memory := .fresh (run (empty fun n => ⟨n⟩) [.write "a" (.bytes [97, 10, 98])])
    let a := adapter ⟨.utf8, true⟩
    ∃ c w₁ r w₂ done w₃ copy,
      (a.procedure (some "getTextFiles") (some "a") none Column.allNames).exec w = (.ok c, w₁) ∧
      (a.next c).1.exec w₁ = (.ok (some r), w₂) ∧
      (a.procedure (some "saveFile") (some "copies/b") (some (.lob r.content)) []).exec w₂ =
        (.ok done, w₃) ∧
      w₃.store.files.get? "copies/b" = some copy ∧ copy.data = [97, 10, 98] := by
  intro w a
  have hstored : w.store.files.get? "a" = some ⟨[97, 10, 98], ⟨0⟩, some ⟨0⟩⟩ := by decide +kernel
  have hwrites : Codec.utf8.Writes (Point.ofString "a\nb") := by decide
  have hwrite : (w.store.write "copies/b" (.bytes [97, 10, 98])).1 = .ok ("copies/b", 3) := by
    decide +kernel
  have hw : w.Sound := World.sound_fresh _
  obtain ⟨notes, hlist⟩ :=
    procedure_list_exec ⟨.utf8, true⟩ (resolve_letter hstored).1 (List.cons_ne_nil _ _)
  obtain ⟨r, w₂, done, w₃, copy, hnext, hsave, hget, -, hsame, -⟩ :=
    copy_text ⟨.utf8, true⟩ (by decide) (by decide) hlist (w := { w with notes := notes }) hw rfl
      (i := 0) rfl (by decide +kernel) hwrites (by decide) hwrite []
  exact ⟨_, _, r, w₂, done, w₃, copy, hlist, hnext, hsave, hget, hsame.mpr (by decide)⟩

open Memory in
/-- The copy of a listed text lacks the carriage returns of its file. -/
theorem copy_changes_returns :
    let w : World Memory := .fresh (run (empty fun n => ⟨n⟩) [.write "a" (.bytes [97, 13, 10, 98])])
    let a := adapter ⟨.utf8, true⟩
    ∃ c w₁ r w₂ done w₃ copy,
      (a.procedure (some "getTextFiles") (some "a") none Column.allNames).exec w = (.ok c, w₁) ∧
      (a.next c).1.exec w₁ = (.ok (some r), w₂) ∧
      (a.procedure (some "saveFile") (some "b") (some (.lob r.content)) []).exec w₂ =
        (.ok done, w₃) ∧
      w₃.store.files.get? "b" = some copy ∧ copy.data = [97, 10, 98] := by
  intro w a
  have hstored : w.store.files.get? "a" = some ⟨[97, 13, 10, 98], ⟨0⟩, some ⟨0⟩⟩ := by
    decide +kernel
  have hwrites : Codec.utf8.Writes (Point.ofString "a\r\nb") := by decide
  have hfits : w.store.Fits "b" := by decide +kernel
  have hw : w.Sound := World.sound_fresh _
  obtain ⟨hfound, hread⟩ := resolve_letter hstored
  obtain ⟨notes, hlist⟩ :=
    procedure_list_exec ⟨.utf8, true⟩ hfound (List.cons_ne_nil _ _)
  obtain ⟨r, w₂, done, w₃, copy, hnext, hsave, hget, hcopy, -⟩ :=
    copy_exec ⟨.utf8, true⟩ (by decide) (by decide) (w := { w with notes := notes }) hw hwrites hread
      (c := ⟨.listText, true, [("a", _)], 0, false⟩) rfl rfl rfl
      (by decide +kernel : normalize "b" = .ok "b") hfits []
  exact ⟨_, _, r, w₂, done, w₃, copy, hlist, hnext, hsave, hget, hcopy.trans (by decide)⟩

end FileDepot
