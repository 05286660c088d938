import FileDepot.Proofs.Encoding.Trouble
import FileDepot.Stream.ByteReader

/-!
# Trouble with streams

A text that is read piece by piece, and the bytes that it is encoded as, fail with trouble of their encodings,
or with the fault that a stream has at its end, and with nothing else, however much is asked for at a time. Let a
property hold of all these faults. Then each read keeps the reader one of which it does
(`TextReader.read_steady`, `EncodedText.readSome_steady`, `ByteReader.give_steady`), so that all reads that drain
it fail with such faults only (`ByteReader.drain_fails`, `ByteReader.drainBlocks_fails`). What matters is the
fault that a stream raises, if there is a stream (`ByteReader.failsWith_of_raised`).
-/

namespace FileDepot

open Encoding Outcome
open Encoding.Fault (IsUnicode)

/-- A property of faults that trouble of an encoding has, and that a fault keeps on its way through a
buffer. -/
structure CoversCoding (P : Fault → Prop) : Prop where
  /-- trouble of an encoding has it -/
  coding : ∀ e, IsUnicode e → P (.coding e)
  /-- a fault keeps it on its way -/
  shared : ∀ f, P f → P (BufferedText.sharedFault f)

theorem coversCoding_of_all {P : Fault → Prop} (hall : ∀ e, P (.coding e)) : CoversCoding P where
  coding e _ := hall e
  shared f hf := by
    unfold BufferedText.sharedFault
    split
    · exact hall _
    · exact hf

/-- An encoding suits a property of faults when it is one of text, or else the property holds of all trouble of
encodings. -/
def Suits (P : Fault → Prop) (codec : Codec) : Prop := codec.isText = true ∨ ∀ e, P (.coding e)

section

variable {P : Fault → Prop}

theorem Decoder.feed_suits (hP : CoversCoding P) {d : Decoder} (h : Suits P d.codec) (piece : Bytes)
    (final : Bool) :
    Steady (fun e => P (.coding e)) (fun d => Suits P d.codec) (d.feed piece final) := by
  rcases h with htext | hall
  · have hfeed := Decoder.feed_steady (Decoder.of_codec d) htext piece final
    exact ⟨hfeed.fails.mono hP.coding, .inl ((congrArg Codec.isText hfeed.keeps).trans htext)⟩
  · exact ⟨fun e _ => hall e, .inr hall⟩

theorem Encoder.feed_suits (hP : CoversCoding P) {e : Encoder} (h : Suits P e.codec) (s : List Point)
    (final : Bool) :
    Steady (fun f => P (.coding f) ∧ (f = EncodedText.stuckFault → ∀ g, P (.coding g)))
      (fun e => Suits P e.codec) (e.feed s final) := by
  rcases h with htext | hall
  · have hfeed := Encoder.feed_steady (Encoder.of_codec e) htext s final
    refine ⟨hfeed.fails.mono fun f hf => ⟨hP.coding f hf, ?_⟩,
      .inl ((congrArg Codec.isText hfeed.keeps).trans htext)⟩
    rintro rfl
    cases hf
  · exact ⟨fun f _ => ⟨hall f, fun _ => hall⟩, .inr hall⟩

/-! ## Texts -/

/-- Bytes that are read as text, where all that this fails with has a property. -/
structure Decoding.FailsWith (P : Fault → Prop) (d : Decoding) : Prop where
  /-- the encoding suits it -/
  codec : Suits P d.decoder.codec
  /-- the fault at their end has it -/
  ending : ∀ f, d.fault? = some f → P f

namespace Decoding

variable {d : Decoding}

theorem failsWith_ofSupply {codec : Codec} (hcodec : Suits P codec) {s : Supply}
    (hs : ∀ f, s.fault? = some f → P f) : (ofSupply codec s).FailsWith P :=
  ⟨hcodec, hs⟩

theorem faultAt?_fails (hd : d.FailsWith P) {chunk : Bytes} {f : Fault} (h : d.faultAt? chunk = some f) :
    P f := by
  rw [faultAt?] at h
  split at h
  · exact hd.ending f h
  · cases h

variable (hP : CoversCoding P)

include hP

theorem decode_steady (hd : d.FailsWith P) (piece : Bytes) (final : Bool) :
    Steady (fun e => P (.coding e)) (FailsWith P) (d.decode piece final) := by
  rw [decode]
  rcases (Decoder.feed_suits hP hd.codec piece final).cases with
    ⟨f, after, hfeed, hf, hcodec⟩ | ⟨s, after, hfeed, hcodec⟩
  · rw [hfeed]
    exact steady_error hf ⟨hcodec, hd.ending⟩
  · rw [hfeed]
    exact steady_ok _ ⟨hcodec, hd.ending⟩

theorem fill_steady (hd : d.FailsWith P) (wanted : Nat) : Steady P (FailsWith P) (d.fill wanted) := by
  have hrest : FailsWith P { d with bytes := d.bytes.drop (d.chunkSize wanted) } := ⟨hd.codec, hd.ending⟩
  have hdecode := decode_steady hP hrest (d.bytes.take (d.chunkSize wanted))
    (d.bytes.take (d.chunkSize wanted)).isEmpty
  simp only [fill]
  split
  · rename_i f hfault
    exact steady_error (faultAt?_fails hrest hfault) hrest
  · rcases hdecode.cases with ⟨f, after, hanswer, hf, hafter⟩ | ⟨s, after, hanswer, hafter⟩
    · rw [hanswer]
      exact steady_error hf hafter
    · rw [hanswer]
      exact steady_ok _ ⟨hafter.codec, hafter.ending⟩

theorem readMore_steady (hd : d.FailsWith P) (fuel wanted : Nat) (out : List Point) :
    Steady P (FailsWith P) (readMore fuel d wanted out) := by
  induction fuel generalizing d wanted out with
  | zero => exact steady_ok _ hd
  | succ fuel ih =>
    rw [readMore]
    split
    · exact steady_ok _ hd
    · rcases (fill_steady hP hd wanted).cases with
        ⟨f, after, hfill, hf, hafter⟩ | ⟨more, after, hfill, hafter⟩
      · rw [hfill]
        exact steady_error hf hafter
      · rw [hfill]
        cases more with
        | false => exact steady_ok _ hafter
        | true =>
          exact ih (d := { after with ready := after.ready.drop wanted })
            ⟨hafter.codec, hafter.ending⟩ _ _

theorem read_steady (hd : d.FailsWith P) (n : Nat) : Steady P (FailsWith P) (d.read n) :=
  readMore_steady (d := { d with ready := d.ready.drop n }) hP ⟨hd.codec, hd.ending⟩ _ _ _

theorem readAll_steady (hd : d.FailsWith P) : Steady P (FailsWith P) d.readAll := by
  have hrest : FailsWith P { d with bytes := [] } := ⟨hd.codec, hd.ending⟩
  rw [readAll]
  split
  · rename_i f hfault
    exact steady_error (hd.ending f hfault) hrest
  · rcases (decode_steady hP hrest d.bytes true).cases with
      ⟨f, after, hdecode, hf, hafter⟩ | ⟨s, after, hdecode, hafter⟩
    · rw [hdecode]
      exact steady_error hf hafter
    · rw [hdecode]
      exact steady_ok _ ⟨hafter.codec, hafter.ending⟩

end Decoding

/-- A text where all that reading it fails with has a property. -/
def TextReader.FailsWith (P : Fault → Prop) : TextReader → Prop
  | .chars _ => True
  | .decoded d => d.FailsWith P
  | .failing _ why => P why

variable (hP : CoversCoding P)

include hP

/-- **Text.** Reading a text fails at bytes that stand for none, or at its end. -/
theorem TextReader.read_steady {r : TextReader} (hr : r.FailsWith P) (n : Int) :
    Steady P (FailsWith P) (r.read n) := by
  cases r with
  | chars rest =>
    rw [read]
    split <;> exact steady_ok _ trivial
  | decoded d =>
    have hread : Steady P (Decoding.FailsWith P) (if n < 0 then d.readAll else d.read n.toNat) := by
      split
      · exact Decoding.readAll_steady hP hr
      · exact Decoding.read_steady hP hr _
    exact ⟨hread.fails, hread.keeps⟩
  | failing rest why =>
    rw [read]
    split
    · exact steady_error hr hr
    · exact steady_ok _ hr

omit hP

/-! ## The bytes of a text -/

/-- A text that is read as bytes, where all that this fails with has a property. -/
structure EncodedText.FailsWith (P : Fault → Prop) (r : EncodedText) : Prop where
  /-- the text is one of which this holds -/
  text : r.text.FailsWith P
  /-- the encoding suits the property -/
  codec : Suits P r.encoder.codec
  /-- text is pending where bytes are needed only if all trouble of encodings has the property -/
  stuck : r.stuck = true → ∀ e, P (.coding e)

namespace EncodedText

variable {r : EncodedText}

theorem failsWith_start {codec : Codec} {text : TextReader} (htext : text.FailsWith P)
    (hcodec : Suits P codec) (chunk : Int) : (start codec text chunk).FailsWith P :=
  ⟨htext, hcodec, nofun⟩

include hP

theorem fillFrom_steady (hr : r.FailsWith P) (fuel : Nat) : Steady P (FailsWith P) (fillFrom fuel r) := by
  induction fuel generalizing r with
  | zero => exact steady_ok _ hr
  | succ fuel ih =>
    rw [fillFrom]
    split
    · rename_i hstuck
      exact steady_error (hr.stuck hstuck _) hr
    split
    · exact steady_ok _ hr
    · rcases (TextReader.read_steady hP hr.text r.chunk).cases with
        ⟨f, text, hread, hf, htext⟩ | ⟨s, text, hread, htext⟩
      · rw [hread]
        exact steady_error hf ⟨htext, hr.codec, hr.stuck⟩
      · rw [hread]
        dsimp only
        rcases (Encoder.feed_suits hP hr.codec s s.isEmpty).cases with
          ⟨e, encoder, hfeed, ⟨he, hstuck⟩, hcodec⟩ | ⟨data, encoder, hfeed, hcodec⟩
        · rw [hfeed]
          exact steady_error he ⟨htext, hcodec, fun h => hstuck (beq_iff_eq.mp h)⟩
        · rw [hfeed]
          exact ih ⟨htext, hcodec, hr.stuck⟩

/-- **Bytes.** Reading the bytes of a text fails where the text cannot be read, or has none. -/
theorem readSome_steady (hr : r.FailsWith P) (n : Nat) : Steady P (FailsWith P) (r.readSome n) := by
  rw [readSome, fill]
  rcases (fillFrom_steady hP hr (r.text.bound + 3)).cases with
    ⟨f, after, hfill, hf, hafter⟩ | ⟨_, after, hfill, hafter⟩
  · rw [hfill]
    exact steady_error hf hafter
  · rw [hfill]
    exact steady_ok _ ⟨hafter.text, hafter.codec, hafter.stuck⟩

theorem readOn_steady (hr : r.FailsWith P) (fuel : Nat) (out : List Bytes) :
    Steady P (FailsWith P) (readOn fuel r out) := by
  induction fuel generalizing r out with
  | zero => exact steady_ok _ hr
  | succ fuel ih =>
    rw [readOn]
    rcases (readSome_steady hP hr bufferSize).cases with
      ⟨f, after, hread, hf, hafter⟩ | ⟨data, after, hread, hafter⟩
    · rw [hread]
      exact steady_error hf hafter
    · rw [hread]
      cases data with
      | nil => exact steady_ok _ hafter
      | cons b data => exact ih hafter _

end EncodedText

/-! ## Through a buffer -/

namespace BufferedText

open EncodedText (bufferSize)

variable {r : EncodedText} {b : BufferedText}

include hP

theorem readBlocks_steady (hr : r.FailsWith P) (fuel wanted : Nat) (out : Bytes) :
    Steady P (EncodedText.FailsWith P) (readBlocks fuel r wanted out) := by
  induction fuel generalizing r wanted out with
  | zero => exact steady_ok _ hr
  | succ fuel ih =>
    rw [readBlocks]
    split
    · exact steady_ok _ hr
    · rcases (EncodedText.readSome_steady hP hr (wanted / bufferSize * bufferSize)).cases with
        ⟨f, after, hread, hf, hafter⟩ | ⟨data, after, hread, hafter⟩
      · rw [hread]
        exact steady_error hf hafter
      · rw [hread]
        cases data with
        | nil => exact steady_ok _ hafter
        | cons a data => exact ih hafter _ _

theorem fillBuffer_steady (hr : r.FailsWith P) (fuel wanted : Nat) (ahead : Bytes) :
    Steady P (EncodedText.FailsWith P) (fillBuffer fuel r wanted ahead) := by
  induction fuel generalizing r ahead with
  | zero => exact steady_ok _ hr
  | succ fuel ih =>
    rw [fillBuffer]
    split
    · exact steady_ok _ hr
    · rcases (EncodedText.readSome_steady hP hr (bufferSize - ahead.length)).cases with
        ⟨f, after, hread, hf, hafter⟩ | ⟨data, after, hread, hafter⟩
      · rw [hread]
        exact steady_error hf hafter
      · rw [hread]
        cases data with
        | nil => exact steady_ok _ hafter
        | cons a data => exact ih hafter _

/-- **Buffer.** A read through a buffer fails where one without it does. -/
theorem readExactly_steady (hb : b.source.FailsWith P) (n : Nat) :
    Steady P (fun b => b.source.FailsWith P) (b.readExactly n) := by
  rw [readExactly]
  split
  · exact steady_ok _ hb
  · rcases (readBlocks_steady hP hb (n + 1) (n - b.ahead.length) b.ahead).cases with
      ⟨f, after, hblocks, hf, hafter⟩ | ⟨⟨out, wanted, ended⟩, after, hblocks, hafter⟩
    · rw [hblocks]
      exact steady_error (hP.shared f hf) hafter
    · rw [hblocks]
      cases ended with
      | true => exact steady_ok _ hafter
      | false =>
        dsimp only
        rcases (fillBuffer_steady hP hafter (bufferSize + 1) wanted []).cases with
          ⟨f, last, hfill, hf, hlast⟩ | ⟨ahead, last, hfill, hlast⟩
        · rw [hfill]
          exact steady_error (hP.shared f hf) hlast
        · rw [hfill]
          exact steady_ok _ hlast

theorem readAll_steady (hb : b.source.FailsWith P) :
    Steady P (fun b => b.source.FailsWith P) b.readAll := by
  rw [readAll, EncodedText.readAll]
  rcases (EncodedText.readOn_steady hP hb b.source.readsLeft []).cases with
    ⟨f, after, hread, hf, hafter⟩ | ⟨data, after, hread, hafter⟩
  · rw [hread]
    exact steady_error hf hafter
  · rw [hread]
    exact steady_ok _ hafter

end BufferedText

/-! ## All bytes -/

/-- The fault that a stream raises at the end of its text, where the text is that of such a stream. -/
def TextReader.raised? : TextReader → Option Fault
  | .chars _ => none
  | .decoded d => d.fault?
  | .failing _ why => some why

/-- The fault that a stream raises at its end, where the bytes are those of such a stream, or of its text. -/
def ByteReader.raised? : ByteReader → Option Fault
  | .bytes _ | .pieces _ => none
  | .encoded b => b.source.text.raised?
  | .failing _ why => some why
  | .closed => some (.value .closed)

/-- Bytes where all that reading them fails with has a property. -/
def ByteReader.FailsWith (P : Fault → Prop) : ByteReader → Prop
  | .bytes _ | .pieces _ => True
  | .encoded b => b.source.FailsWith P
  | .failing _ why => P why
  | .closed => P (.value .closed)

namespace ByteReader

variable {r : ByteReader}

theorem failsWith_ofText {codec : Codec} {text : TextReader} (htext : text.FailsWith P)
    (hcodec : Suits P codec) : (ofText codec text).FailsWith P :=
  EncodedText.failsWith_start htext hcodec _

theorem failsWith_ofSupply {s : Supply} (hs : ∀ f, s.fault? = some f → P f)
    (hclosed : s.isClosed = true → P (.value .closed)) : (ofSupply s).FailsWith P := by
  rw [ofSupply]
  split
  · exact hclosed ‹_›
  · split
    · exact trivial
    · rename_i f hfault
      exact hs f hfault

/-- Where a property holds of all trouble of encodings, it only matters what a stream raises. -/
theorem failsWith_of_raised (hall : ∀ e, P (.coding e)) (h : ∀ f, r.raised? = some f → P f) :
    r.FailsWith P := by
  cases r with
  | bytes rest => exact trivial
  | pieces rest => exact trivial
  | encoded b =>
    refine ⟨?_, .inr hall, fun _ => hall⟩
    rw [raised?] at h
    cases htext : b.source.text with
    | chars rest => exact trivial
    | decoded d => exact ⟨.inr hall, fun f hf => h f (by rw [htext]; exact hf)⟩
    | failing rest why => exact h why (by rw [htext]; rfl)
  | failing rest why => exact h why rfl
  | closed => exact h _ rfl

/-- Beginning to read bytes fails with a fault of the property, and otherwise gives the same bytes. -/
theorem enter_fails (hr : r.FailsWith P) : FailsOnly P r.enter := by
  cases r with
  | closed => exact failsOnly_error hr
  | bytes rest | pieces rest | encoded b | failing rest why => exact failsOnly_ok _

theorem enter_eq_ok {r' : ByteReader} (h : r.enter = .ok r') : r' = r := by
  rw [enter] at h
  split at h
  · cases h
  · exact (Except.ok.inj h).symm

include hP

/-- **Bytes.** However much is asked for, a read fails with a fault of the property, and leaves a reader of
the same kind. -/
theorem give_steady (hr : r.FailsWith P) (asked : Option Nat) : Steady P (FailsWith P) (r.give asked) := by
  cases r with
  | bytes rest => cases asked <;> exact steady_ok _ trivial
  | pieces rest =>
    cases asked with
    | none => exact steady_ok _ trivial
    | some n =>
      rw [give]
      split <;> exact steady_ok _ trivial
  | encoded b =>
    cases asked with
    | none =>
      have hread := BufferedText.readAll_steady hP hr
      exact ⟨hread.fails, hread.keeps⟩
    | some n =>
      have hread := BufferedText.readExactly_steady hP hr n
      exact ⟨hread.fails, hread.keeps⟩
  | failing rest why =>
    cases asked with
    | none => exact steady_error hr hr
    | some n =>
      rw [give]
      split
      · exact steady_error hr hr
      · exact steady_ok _ hr
  | closed =>
    rw [give]
    exact steady_error hr hr

/-- **All.** Draining bytes fails with faults of the property only. -/
theorem drain_fails (hr : r.FailsWith P) : FailsOnly P r.drain := (give_steady hP hr none).fails

theorem copyBlocks_fails (hr : r.FailsWith P) (fuel : Nat) (out : List Bytes) :
    FailsOnly P (copyBlocks fuel r out) := by
  induction fuel generalizing r out with
  | zero => exact failsOnly_ok _
  | succ fuel ih =>
    rw [copyBlocks]
    rcases (give_steady hP hr (some blockSize)).cases with
      ⟨f, after, hread, hf, -⟩ | ⟨data, after, hread, hafter⟩
    · rw [hread]
      exact failsOnly_error hf
    · rw [hread]
      cases data with
      | nil => exact failsOnly_ok _
      | cons a data => exact ih hafter _

/-- **All.** So does draining them block by block. -/
theorem drainBlocks_fails (hr : r.FailsWith P) : FailsOnly P r.drainBlocks := copyBlocks_fails hP hr _ _

end ByteReader

end

end FileDepot
