import FileDepot.Proofs.Encoding.LineEnds
import FileDepot.Proofs.Memory.Resolve
import FileDepot.Proofs.TextFiles

/-!
# Saving text and reading it again

A text that is saved in memory and listed again comes back with uniform line ends, and with the size of what
it was written as (`text_round_trip`). So it comes back as it was exactly when it has no carriage return; and
what comes back can be saved at the same path, and then comes back as it is.

* **save** — `Memory.saveFile_fits`, `Memory.fits_of_saveFile`: where saving works, and what it leaves;
* **show** — `Memory.getTextFiles_file`: what is shown of the file that was saved.
-/

namespace FileDepot

open Encoding

namespace Memory

open FileDepot.Path FileDepot.Text

variable {path q : String} {f : MemoryFile} {config : Config} {w : World Memory}
  {t : List Point}

/-! ## Saving -/

/-- **Save.** Where a file fits, a text is saved as it is written. -/
theorem saveFile_fits (config : Config) (hc : config.codec ∈ Codec.pointwise)
    (ht : config.codec.Writes t) (hq : normalize path = .ok q) (hfits : w.store.Fits q) :
    ∃ w' f, (Tools.saveFile (adapter config) (some path) (some t) (some "clob")).exec w =
        (.ok ("Saved " ++ optionText (some path)), w') ∧
      w'.store.files.get? q = some f ∧ f.data = config.codec.written t ∧ w'.store.Fits q ∧
      (w.Sound → w'.Sound) := by
  have htext : (TextReader.chars t).Holds t := rfl
  obtain ⟨notes, hsave⟩ := saveFile_put (payload_clob t) (toReader_characters hc t w)
    (ByteReader.drain_ofText hc htext ht) hq hfits
  obtain ⟨f, hget, hdata⟩ :=
    exists_get?_put w.store q (config.codec.written t) (w.store.clock w.store.ticks)
  exact ⟨_, f, hsave, hget, hdata, fits_put hfits _ _, fun hw => hw⟩

/-- **Save.** A text is saved only where a file fits. -/
theorem fits_of_saveFile (hc : config.codec ∈ Codec.pointwise) {msg : String} {w' : World Memory}
    (h : (Tools.saveFile (adapter config) (some path) (some t) (some "clob")).exec w = (.ok msg, w')) :
    ∃ q, normalize path = .ok q ∧ w.store.Fits q :=
  fits_of_saved (payload_clob t) (toReader_characters hc t w) h

/-! ## Showing -/

/-- **Show.** What is shown of the file is the text that it was written from, with uniform line ends. -/
theorem getTextFiles_file (hc : config.codec ∈ Codec.pointwise) (ht : config.codec.Writes t)
    (hw : w.Sound) (hclear : Clear (segments (Path.normalize path)))
    (hliteral : ∀ n ∈ segments (Path.normalize path), hasWildcard n = false)
    (hq : normalize path = .ok q) (hf : w.store.files.get? q = some f)
    (hdata : f.data = config.codec.written t) {maxChars : Int}
    (hmax : (Newline.unify t).length ≤ maxChars) :
    ∃ w', (Tools.getTextFiles (adapter config) (some (some path)) [] maxChars).exec w =
        (.ok [textRow q f (Newline.unify t)], w') ∧ w'.store = w.store ∧ w'.Sound := by
  obtain ⟨hresolve, hcontents⟩ := resolve_file hclear hliteral hq hf
  rw [hdata] at hcontents
  obtain ⟨notes, hshow⟩ := getTextFiles_exec hc ht hw hresolve hcontents hmax
  exact ⟨_, hshow, rfl, hw.redeem _ _⟩

end Memory

open Memory in
/-- **Round trip.** A text that is saved at a path without wildcards, and without blanks at the edges of
its segments, is shown as one row, with uniform line ends and the size of what it is encoded as. This is the
text as it was exactly when it has no carriage return. Saving what is shown works again, and then the same
is shown. -/
theorem text_round_trip {config : Config} (hc : config.codec ∈ Codec.pointwise) {w : World Memory}
    (hw : w.Sound) {path : String}
    (hpath : ∀ n ∈ Path.segments (Path.normalize path), Path.hasWildcard n = false ∧ Text.Tidy n)
    {t : List Point} {data : Bytes} (ht : ((Encoder.start config.codec).feed t true).1 = .ok data)
    {msg : String} {w₁ : World Memory}
    (hsave : (Tools.saveFile (adapter config) (some path) (some t) (some "clob")).exec w =
      (.ok msg, w₁)) {maxChars : Int} (hmax : t.length ≤ maxChars) :
    let shown := Newline.replaceReturns (Newline.joinPairs t)
    (shown = t ↔ Newline.cr ∉ t) ∧
    ∃ row w₂, (Tools.getTextFiles (adapter config) (some (some path)) [] maxChars).exec w₁ =
        (.ok [row], w₂) ∧
      row.lookup "file" = some (.text shown) ∧ row.lookup "size" = some (.number data.length) ∧
      ∃ w₃ row' w₄ again, ((Encoder.start config.codec).feed shown true).1 = .ok again ∧
        (Tools.saveFile (adapter config) (some path) (some shown) (some "clob")).exec w₂ =
          (.ok msg, w₃) ∧
        (Tools.getTextFiles (adapter config) (some (some path)) [] maxChars).exec w₃ =
          (.ok [row'], w₄) ∧
        row'.lookup "file" = some (.text shown) ∧ row'.lookup "size" = some (.number again.length) := by
  intro shown
  have hshown : shown = Newline.unify t := (Newline.unify_eq t).symm
  have hclear : Clear (Path.segments (Path.normalize path)) := fun n hn =>
    ⟨Path.isSegment_of_mem_segments hn, (hpath n hn).2⟩
  have hliteral : ∀ n ∈ Path.segments (Path.normalize path), Path.hasWildcard n = false :=
    fun n hn => (hpath n hn).1
  obtain ⟨hwrites, rfl⟩ := Encoder.writes_of_feed_start hc ht
  have hagain : config.codec.Writes shown := hshown ▸ Codec.writes_unify hc hwrites
  have hshort := Newline.length_unify_le t
  have hmax' : ((Newline.unify t).length : Int) ≤ maxChars := by omega
  -- the text is saved where a file fits, and shown from there
  obtain ⟨q, hq, hfits⟩ := fits_of_saveFile hc hsave
  obtain ⟨w₁', f, hsaved, hget, hdata, hfits₁, hsound₁⟩ :=
    saveFile_fits config hc hwrites hq hfits
  rw [hsaved] at hsave
  obtain ⟨hmsg, rfl⟩ := Prod.mk.inj hsave
  obtain rfl := Except.ok.inj hmsg
  obtain ⟨w₂, hrow, hstore, hw₂⟩ :=
    getTextFiles_file hc hwrites (hsound₁ hw) hclear hliteral hq hget hdata hmax'
  -- what is shown is saved there once more, and shown as it is
  obtain ⟨w₃, f', hsaved', hget', hdata', -, hsound₃⟩ :=
    saveFile_fits config hc hagain hq (hstore ▸ hfits₁)
  have hsame : Newline.unify shown = shown := by rw [hshown, Newline.unify_unify]
  have hmax'' : ((Newline.unify shown).length : Int) ≤ maxChars := by
    rw [hsame, hshown]
    exact hmax'
  obtain ⟨w₄, hrow', -, -⟩ :=
    getTextFiles_file hc hagain (hsound₃ hw₂) hclear hliteral hq hget' hdata' hmax''
  rw [hsame] at hrow'
  refine ⟨?_, _, w₂, hrow, ?_, ?_, w₃, _, w₄, _, Encoder.feed_start hc hagain, hsaved', hrow', ?_, ?_⟩
  · rw [hshown, Newline.unify_eq_self_iff]
  · rw [lookup_file_textRow, hshown]
  · rw [lookup_size_textRow, hdata]
  · rw [lookup_file_textRow]
  · rw [lookup_size_textRow, hdata']

open Memory in
/-- Of two carriage returns before a line feed, the first one is a line end for itself. -/
theorem text_round_trip_returns :
    let w : World Memory := .fresh (empty fun n => ⟨n⟩)
    let a := adapter ⟨.utf16 none, true⟩
    ∃ w₁ row w₂,
      (Tools.saveFile a (some "notes/a") (some (Point.ofString "a\r\r\n😀")) (some "clob")).exec w =
        (.ok "Saved notes/a", w₁) ∧
      (Tools.getTextFiles a (some (some "notes/a")) [] 5).exec w₁ = (.ok [row], w₂) ∧
      row.lookup "file" = some (.text (Point.ofString "a\n\n😀")) ∧
      row.lookup "size" = some (.number 14) := by
  intro w a
  have hc : Codec.utf16 none ∈ Codec.pointwise := by decide
  have hsegments : Path.segments (Path.normalize "notes/a") = ["notes", "a"] := by decide +kernel
  have hpath : ∀ n ∈ Path.segments (Path.normalize "notes/a"),
      Path.hasWildcard n = false ∧ Text.Tidy n := by
    rw [hsegments]
    decide +kernel
  have hwrites : (Codec.utf16 none).Writes (Point.ofString "a\r\r\n😀") := by decide
  have hmax : ((Point.ofString "a\r\r\n😀").length : Int) ≤ 5 := by decide
  obtain ⟨w₁, f, hsave, -⟩ := saveFile_fits (w := w) ⟨.utf16 none, true⟩ hc hwrites
    (by decide +kernel : normalize "notes/a" = .ok "notes/a") (by decide +kernel)
  obtain ⟨-, row, w₂, hrow, hfile, hsize, -⟩ :=
    text_round_trip hc (World.sound_fresh _) hpath (Encoder.feed_start hc hwrites) hsave hmax
  refine ⟨w₁, row, w₂, hsave, hrow, ?_, ?_⟩
  · rw [hfile]
    rfl
  · rw [hsize]
    rfl

end FileDepot
