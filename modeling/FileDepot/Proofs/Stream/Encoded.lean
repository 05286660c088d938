import FileDepot.Proofs.Stream.Text
import FileDepot.Stream.ByteReader

/-!
# What an encoded text gives

A text that is read as bytes has bytes left (`EncodedText.Left`): those up to the first code point that
cannot be written, and whether there is no such code point. Every read takes the front of what is left, and
gives nothing only when all is given; or it fails, which it does only because of such a code point.

* **chunk** — `EncodedText.fill_serves`: what taking the next chunk does;
* **read** — `EncodedText.readSome_left`: a read of the chunk;
* **all** — `EncodedText.readAll_left`: all reads up to the end.
-/

namespace FileDepot

open Encoding

/-- Whether a piece of bytes is what was asked for, with some bytes left after it: all of them, or at most
so many, and none only at the end. `clean` tells that the bytes that are left end with the text. -/
def IsAsked (clean : Prop) (data rest : Bytes) : Option Nat → Prop
  | none => rest = [] ∧ clean
  | some n => data.length ≤ n ∧ (data = [] → n = 0 ∨ rest = [] ∧ clean)

/-- Whether a fault tells of a code point that cannot be written. -/
def IsUnwritable (f : Fault) : Prop :=
  ∃ codec p start stop reason, f = .coding (.encode codec p start stop reason)

/-- How a read goes where some bytes are left: it gives the front of them, or it fails. `left` tells what a
reader has left. -/
inductive Reads {ρ : Type} (left : ρ → Bytes → Prop → Prop) (front : Bytes) (clean : Prop)
    (asked : Option Nat) : Except Fault Bytes × ρ → Prop where
  /-- it gives the front -/
  | gives {data rest : Bytes} {r : ρ} (hfront : front = data ++ rest) (hleft : left r rest clean)
    (hasked : IsAsked clean data rest asked) : Reads left front clean asked (.ok data, r)
  /-- it fails -/
  | fails {f : Fault} {r : ρ} (hfault : IsUnwritable f) (hclean : ¬clean) :
    Reads left front clean asked (.error f, r)

namespace EncodedText

/-- What holds while a text is read as bytes. -/
structure Serves (r : EncodedText) (t : List Point) : Prop where
  /-- the encoding writes each code point for itself -/
  codec : r.encoder.codec ∈ Codec.pointwise
  /-- this text is not encoded yet -/
  text : r.text.Holds t
  /-- a chunk is not empty -/
  chunk : 0 < r.chunk
  /-- its size is a number to count with -/
  countable : r.chunk < ReadLength.limit
  /-- no text is pending where bytes are needed -/
  free : r.stuck = false
  /-- past the end of the text, nothing is left to be encoded -/
  ended : r.ended = true → t = [] ∧ r.encoder.markLeft = []

/-- The bytes that are left up to the first code point that cannot be written, where a text is not encoded
yet. -/
def front (r : EncodedText) (t : List Point) : Bytes :=
  r.pending ++ (r.encoder.markLeft ++ r.encoder.codec.body (r.encoder.codec.writable t))

/-- The bytes that are left, and whether the text ends with them. -/
def Left (r : EncodedText) (front : Bytes) (clean : Prop) : Prop :=
  ∃ t, r.Serves t ∧ front = r.front t ∧ (clean ↔ r.encoder.codec.Writes t)

variable {r : EncodedText} {t : List Point} {front : Bytes} {clean : Prop}

theorem left_start {c : Codec} (hc : c ∈ Codec.pointwise) {text : TextReader} (ht : text.Holds t)
    {chunk : Int} (hpos : 0 < chunk) (hcount : chunk < ReadLength.limit) :
    (start c text chunk).Left (c.written (c.writable t)) (c.Writes t) :=
  ⟨t, ⟨hc, ht, hpos, hcount, rfl, fun h => by cases h⟩, rfl, Iff.rfl⟩

/-- No chunk is taken while bytes are pending, and none past the end of the text. -/
theorem fillFrom_done (hfree : r.stuck = false) (hdone : r.pending ≠ [] ∨ r.ended = true) (fuel : Nat) :
    fillFrom (fuel + 1) r = (.ok (), r) := by
  have hfull : (!r.pending.isEmpty || r.ended) = true := by simpa using hdone
  rw [fillFrom, if_neg (by simp [hfree]), if_pos hfull]

/-- A chunk is taken when no bytes are pending before the end of the text. -/
theorem fillFrom_takes (h : r.Serves t) (hpending : r.pending = []) (hended : r.ended = false)
    (fuel : Nat) :
    ∃ text, text.Holds (t.drop r.chunk.toNat) ∧
      fillFrom (fuel + 1) r =
        match r.encoder.feed (t.take r.chunk.toNat) (t.take r.chunk.toNat).isEmpty with
        | (.error e, encoder) =>
          (.error (.coding e), { r with text := text, encoder := encoder, stuck := e == stuckFault })
        | (.ok data, encoder) =>
          fillFrom fuel
            { r with
              text := text
              encoder := encoder
              pending := data
              ended := (t.take r.chunk.toNat).isEmpty } := by
  obtain ⟨text, hread, htext⟩ := TextReader.read_holds h.text (Int.le_of_lt h.chunk)
  refine ⟨text, htext, ?_⟩
  rw [fillFrom, if_neg (by simp [h.free]), if_neg (by simp [hpending, hended])]
  generalize r.text.read r.chunk = answer at hread ⊢
  subst hread
  rfl

/-- The state after a chunk that can be written. -/
theorem serves_chunk (h : r.Serves t) (hpending : r.pending = []) {n : Nat} (hn : 0 < n)
    (hwrites : r.encoder.codec.Writes (t.take n)) {text : TextReader} (htext : text.Holds (t.drop n))
    {e : Encoder} (hcodec : e.codec = r.encoder.codec) (hmark : e.markLeft = []) {r' : EncodedText}
    (hr' : r' = { r with
      text := text
      encoder := e
      pending := r.encoder.markLeft ++ r.encoder.codec.body (t.take n)
      ended := (t.take n).isEmpty }) :
    r'.Serves (t.drop n) ∧ r'.front (t.drop n) = r.front t ∧
      (r'.encoder.codec.Writes (t.drop n) ↔ r.encoder.codec.Writes t) ∧
      (r'.pending ≠ [] ∨ r'.ended = true) := by
  subst hr'
  have hsplit := List.take_append_drop n t
  refine ⟨⟨hcodec ▸ h.codec, htext, h.chunk, h.countable, h.free, fun hempty => ⟨?_, hmark⟩⟩, ?_,
    ?_, ?_⟩
  · rcases List.take_eq_nil_iff.mp (List.isEmpty_iff.mp hempty) with hzero | hnil
    · omega
    · rw [hnil, List.drop_nil]
  · simp only [front, hcodec, hmark, hpending]
    conv_rhs => rw [← hsplit, Codec.writable_append hwrites, Codec.body_append]
    simp only [List.nil_append, List.append_assoc]
  · conv_rhs => rw [← hsplit, Codec.writes_append]
    simp only [hcodec, hwrites, true_and]
  · by_cases hnil : t.take n = []
    · exact .inr (List.isEmpty_iff.mpr hnil)
    · left
      intro happend
      exact hnil ((Codec.body_eq_nil_iff hwrites).mp (List.append_eq_nil_iff.mp happend).2)

/-- Where no bytes are pending past the end of the text, none are left. -/
theorem front_of_ended (h : r.Serves t) (hdone : r.pending ≠ [] ∨ r.ended = true)
    (hnil : r.pending = []) : r.front t = [] ∧ r.encoder.codec.Writes t := by
  obtain ⟨rfl, hmark⟩ := h.ended (hdone.resolve_left (not_not_intro hnil))
  refine ⟨?_, Codec.writes_nil⟩
  rw [front, hnil, hmark]
  rfl

/-- **Chunk.** Taking chunks changes nothing in the bytes that are left, and makes some of them pending
unless there are none; or it fails at a code point that cannot be written. -/
theorem fill_serves (h : r.Serves t) :
    (∃ r' t', r.fill = (.ok (), r') ∧ r'.Serves t' ∧ r'.front t' = r.front t ∧
      (r'.encoder.codec.Writes t' ↔ r.encoder.codec.Writes t) ∧
      (r'.pending ≠ [] ∨ r'.ended = true)) ∨
    ∃ f r', r.fill = (.error f, r') ∧ IsUnwritable f ∧ ¬r.encoder.codec.Writes t := by
  by_cases hdone : r.pending ≠ [] ∨ r.ended = true
  · left
    exact ⟨r, t, fillFrom_done h.free hdone _, h, rfl, Iff.rfl, hdone⟩
  · rw [not_or, not_not, Bool.not_eq_true] at hdone
    obtain ⟨hpending, hended⟩ := hdone
    obtain ⟨text, htext, hfill⟩ := fillFrom_takes h hpending hended (r.text.bound + 2)
    rw [fill, hfill]
    by_cases hwrites : r.encoder.codec.Writes (t.take r.chunk.toNat)
    · left
      obtain ⟨after, hfeed, hcodec, hmark, -⟩ :=
        Encoder.feed_writes h.codec hwrites (t.take r.chunk.toNat).isEmpty
      have hpos : 0 < r.chunk.toNat := by
        have := h.chunk
        omega
      obtain ⟨hserves, hfront, hclean, hdone⟩ :=
        serves_chunk h hpending hpos hwrites htext hcodec hmark rfl
      rw [hfeed]
      exact ⟨_, _, fillFrom_done hserves.free hdone _, hserves, hfront, hclean, hdone⟩
    · right
      obtain ⟨name, p, start, stop, reason, hfeed⟩ :=
        Encoder.feed_stops h.codec hwrites (t.take r.chunk.toNat).isEmpty
      rw [hfeed]
      refine ⟨_, _, rfl, ⟨name, p, start, stop, reason, rfl⟩, fun hall => hwrites ?_⟩
      exact fun q hq => hall q (List.mem_of_mem_take hq)

/-! ## Reads -/

/-- **Read.** A read of the chunk takes the front of what is left. -/
theorem readSome_left (h : r.Left front clean) (n : Nat) :
    Reads Left front clean (some n) (r.readSome n) := by
  obtain ⟨t, hserves, rfl, hclean⟩ := h
  rw [readSome]
  rcases fill_serves hserves with ⟨r', t', hfill, hserves', hfront, hclean', hdone⟩ |
    ⟨f, r', hfill, hfault, hunclean⟩
  · have hcut : r.front t = r'.pending.take n ++
        EncodedText.front { r' with pending := r'.pending.drop n } t' := by
      rw [← hfront]
      simp only [EncodedText.front]
      rw [← List.append_assoc (List.take n r'.pending), List.take_append_drop]
    have hleft : Left { r' with pending := r'.pending.drop n }
        (EncodedText.front { r' with pending := r'.pending.drop n } t') clean :=
      ⟨t', ⟨hserves'.codec, hserves'.text, hserves'.chunk, hserves'.countable, hserves'.free,
        hserves'.ended⟩, rfl, hclean.trans hclean'.symm⟩
    rw [hfill]
    refine .gives hcut hleft ⟨List.length_take_le n _, fun hdata => ?_⟩
    rcases List.take_eq_nil_iff.mp hdata with hzero | hnil
    · exact .inl hzero
    · obtain ⟨hend, hwrites⟩ := front_of_ended hserves' hdone hnil
      rw [← hfront, hend] at hcut
      exact .inr ⟨(List.append_eq_nil_iff.mp hcut.symm).2, hclean.mpr (hclean'.mp hwrites)⟩
  · rw [hfill]
    exact .fails hfault fun hc => hunclean (hclean.mp hc)

/-- **All.** Reading on to the end gives all that is left. -/
theorem readOn_left {fuel : Nat} (h : r.Left front clean) (hfuel : front.length < fuel)
    (out : List Bytes) :
    (∃ r', r.readOn fuel out = (.ok (out.reverse.flatten ++ front), r') ∧ r'.Left [] clean ∧ clean) ∨
    ∃ f r', r.readOn fuel out = (.error f, r') ∧ IsUnwritable f ∧ ¬clean := by
  induction fuel generalizing r front out with
  | zero => omega
  | succ fuel ih =>
    have hread := readSome_left h bufferSize
    rw [readOn]
    generalize r.readSome bufferSize = answer at hread ⊢
    cases hread with
    | @gives data rest r' hfront hleft hasked =>
      cases data with
      | nil =>
        left
        obtain ⟨-, hend⟩ := hasked
        obtain ⟨rfl, hclean⟩ := (hend rfl).resolve_left (by decide)
        exact ⟨r', by simp [hfront], hleft, hclean⟩
      | cons b data =>
        have hless : rest.length < fuel := by
          rw [hfront, List.length_append, List.length_cons] at hfuel
          omega
        rcases ih hleft hless ((b :: data) :: out) with ⟨r'', hread, hleft', hclean⟩ |
          ⟨f, r'', hread, hfault, hclean⟩
        · exact .inl ⟨r'', by simp [hread, hfront], hleft', hclean⟩
        · exact .inr ⟨f, r'', hread, hfault, hclean⟩
    | fails hfault hclean => exact .inr ⟨_, _, rfl, hfault, hclean⟩

/-- The fuel is enough: each read takes a byte. -/
theorem length_front_lt (h : r.Left front clean) : front.length < r.readsLeft := by
  obtain ⟨t, hserves, rfl, -⟩ := h
  have hmark : r.encoder.markLeft.length ≤ 2 := by
    unfold Encoder.markLeft
    split
    · exact Nat.zero_le _
    · exact Codec.length_mark_le _
  have hbody := Codec.length_body_le (c := r.encoder.codec) (r.encoder.codec.writable t)
  have hwritable : (r.encoder.codec.writable t).length ≤ t.length :=
    (List.takeWhile_prefix _).length_le
  have hbound := TextReader.length_le_bound hserves.text
  rw [EncodedText.front, List.length_append, List.length_append, readsLeft, mostBytes]
  omega

/-- **All.** Reading all gives all that is left. -/
theorem readAll_left (h : r.Left front clean) : Reads Left front clean none r.readAll := by
  rw [readAll]
  rcases readOn_left h (length_front_lt h) [] with ⟨r', hread, hleft, hclean⟩ |
    ⟨f, r', hread, hfault, hclean⟩
  · rw [hread]
    exact .gives (List.append_nil _).symm hleft ⟨rfl, hclean⟩
  · rw [hread]
    exact .fails hfault hclean

end EncodedText

end FileDepot
