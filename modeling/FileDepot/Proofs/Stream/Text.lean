import FileDepot.Proofs.Encoding.LineEnds
import FileDepot.Proofs.Encoding.Read
import FileDepot.Stream.TextReader

/-!
# What a text reader gives

A text reader *holds* a text when that is what is left to be read from it (`TextReader.Holds`). Asked for
some code points, it gives the front of the text and holds the rest; it never fails, and it gives nothing
only at the end. For a text that is decoded from bytes, this rests on what one chunk does
(`Decoding.fill_undecoded`): the text of the bytes to come is the text that is now ready, and the text of
the bytes that are still to come.
-/

namespace FileDepot

open Encoding

namespace Encoding

/-- Uniform line ends can be written where the text can. -/
theorem Codec.writes_unify {c : Codec} (hc : c ∈ Codec.pointwise) {t : List Point} (ht : c.Writes t) :
    c.Writes (Newline.unify t) := by
  have hfeed : (c.pointBytes? Newline.lf).isSome = true := by
    simp only [Codec.pointwise, List.mem_cons, List.not_mem_nil, or_false] at hc
    rcases hc with rfl | rfl | rfl | rfl | rfl | rfl <;> decide
  intro p hp
  rcases Newline.mem_of_mem_unify hp with hp | rfl
  · exact ht p hp
  · exact hfeed

end Encoding

namespace Decoding

/-- The bytes that are not decoded yet are those of a text, without a mark in front. -/
structure Undecoded (d : Decoding) (t : List Point) : Prop where
  /-- the encoding writes each code point for itself -/
  codec : d.decoder.codec ∈ Codec.pointwise
  /-- it puts no mark in front -/
  unmarked : d.decoder.codec.mark = []
  /-- the text can be written -/
  writes : d.decoder.codec.Writes t
  /-- the bytes are its bytes -/
  body : d.decoder.held ++ d.bytes = d.decoder.codec.body t
  /-- they end, and do not fail -/
  ends : d.fault? = none

/-- The text that the bytes to come give. -/
def coming (d : Decoding) (t : List Point) : List Point :=
  Newline.unify (Newline.waitingText d.returnWaits ++ t)

/-- A text that is left to be read. -/
def Holds (d : Decoding) (s : List Point) : Prop :=
  ∃ t, d.Undecoded t ∧ s = d.ready ++ d.coming t

variable {d : Decoding} {s t : List Point}

theorem holds_start {c : Codec} (hc : c ∈ Codec.pointwise) (hmark : c.mark = []) (ht : c.Writes t) :
    (start c (c.written t)).Holds (Newline.unify t) := by
  refine ⟨t, ⟨hc, hmark, ht, ?_, rfl⟩, rfl⟩
  change c.mark ++ c.body t = c.body t
  rw [hmark, List.nil_append]

theorem leastChunk_le_chunkSize (d : Decoding) (wanted : Nat) : leastChunk ≤ d.chunkSize wanted := by
  unfold chunkSize
  extract_lets _ size
  split
  · exact Nat.le_refl _
  · exact Nat.le_max_left _ _

/-- **Decode.** A piece of the bytes to come gives the text up to where the piece is cut. -/
theorem decode_undecoded (h : d.Undecoded t) {piece rest : Bytes} (hcut : d.bytes = piece ++ rest) :
    ∃ s d' t', { d with bytes := rest }.decode piece false = (.ok s, d') ∧ d'.Undecoded t' ∧
      d'.bytes = rest ∧ d.coming t = s ++ d'.coming t' := by
  have hbody : (d.decoder.held ++ piece) ++ rest = d.decoder.codec.body t := by
    rw [List.append_assoc, ← hcut, h.body]
  obtain ⟨t₁, t₂, part, rfl, hfront, hback, hpart⟩ := Codec.body_cut h.writes hbody
  obtain ⟨hw₁, hw₂⟩ := Codec.writes_append.mp h.writes
  have hfeed := Decoder.feed_body h.codec h.unmarked hw₁ hpart hfront
  refine ⟨(Newline.feed d.returnWaits t₁ false).1,
    { d with
      bytes := rest
      decoder := { d.decoder with held := part }
      returnWaits := (Newline.feed d.returnWaits t₁ false).2 },
    t₂, ?_, ⟨h.codec, h.unmarked, hw₂, hback, h.ends⟩, rfl, Newline.feed_more _ _ _⟩
  rw [decode]
  simp only [hfeed]

/-- **Decode.** The last bytes give all text that is left. -/
theorem decode_last (h : d.Undecoded t) :
    ∃ d', { d with bytes := [] }.decode d.bytes true = (.ok (d.coming t), d') ∧ d'.Undecoded [] ∧
      d'.bytes = [] ∧ d'.coming [] = [] := by
  have hbody : d.decoder.held ++ d.bytes = d.decoder.codec.body t ++ [] := by
    rw [List.append_nil, h.body]
  have hnone : d.decoder.codec.Held true [] := .inl rfl
  have hfeed := Decoder.feed_body h.codec h.unmarked h.writes hnone hbody
  refine ⟨{ d with
      bytes := []
      decoder := { d.decoder with held := [] }
      returnWaits := false }, ?_, ⟨h.codec, h.unmarked, Codec.writes_nil, rfl, h.ends⟩, rfl, ?_⟩
  · rw [decode]
    simp only [hfeed, Newline.feed_last]
    rfl
  · exact Newline.unify_nil

/-- Bytes that end meet no fault at their end. -/
theorem faultAt?_of_ends (h : d.fault? = none) {bytes chunk : Bytes} :
    { d with bytes := bytes }.faultAt? chunk = none := by
  rw [faultAt?]
  split
  · exact h
  · rfl

/-- How many more chunks may give something: each takes a byte, but for the last one. -/
def chunksLeft (d : Decoding) (t : List Point) : Nat :=
  d.bytes.length + if d.coming t = [] then 0 else 1

/-- **Chunk.** A chunk makes the front of the coming text ready, and says that there is no more only when
no text was coming. -/
theorem fill_undecoded (h : d.Undecoded t) (wanted : Nat) :
    ∃ more d' t', d.fill wanted = (.ok more, d') ∧ d'.Undecoded t' ∧
      d.coming t = d'.ready ++ d'.coming t' ∧
      (more = true → d'.chunksLeft t' < d.chunksLeft t) ∧ (more = false → d.coming t = []) := by
  have hsize : 0 < d.chunkSize wanted :=
    Nat.lt_of_lt_of_le (by decide) (leastChunk_le_chunkSize d wanted)
  rw [fill, faultAt?_of_ends h.ends]
  by_cases hbytes : d.bytes = []
  · -- at the end the chunk is empty, and gives what waited
    obtain ⟨d', hdecode, hd', hend, hnone⟩ := decode_last h
    rw [hbytes] at hdecode
    simp only [hbytes, List.take_nil, List.drop_nil, List.isEmpty_nil, hdecode]
    refine ⟨_, _, [], rfl, ⟨hd'.codec, hd'.unmarked, hd'.writes, hd'.body, hd'.ends⟩, ?_, ?_, ?_⟩
    · change _ = d.coming t ++ d'.coming []
      rw [hnone, List.append_nil]
    · intro hmore
      have hcoming : d.coming t ≠ [] := by simpa using hmore
      change d'.bytes.length + (if d'.coming [] = [] then 0 else 1) < _
      rw [chunksLeft, hend, hnone, if_pos rfl, if_neg hcoming, List.length_nil]
      omega
    · intro hmore
      simpa using hmore
  · have hchunk : d.bytes.take (d.chunkSize wanted) ≠ [] := by
      rw [Ne, List.take_eq_nil_iff, not_or]
      exact ⟨Nat.pos_iff_ne_zero.mp hsize, hbytes⟩
    have hempty : (d.bytes.take (d.chunkSize wanted)).isEmpty = false := by simpa using hchunk
    obtain ⟨s, d', t', hdecode, hd', hrest, hcoming⟩ :=
      decode_undecoded h (List.take_append_drop (d.chunkSize wanted) d.bytes).symm
    simp only [hempty, hdecode]
    refine ⟨_, _, t', rfl, ⟨hd'.codec, hd'.unmarked, hd'.writes, hd'.body, hd'.ends⟩, hcoming, ?_, ?_⟩
    · intro _
      have hless : (d.bytes.drop (d.chunkSize wanted)).length < d.bytes.length := by
        have hpos := List.length_pos_iff.mpr hbytes
        rw [List.length_drop]
        omega
      change d'.bytes.length + (if d'.coming t' = [] then 0 else 1) < _
      rw [chunksLeft, hrest]
      -- if no text was coming before the chunk, none is coming after it
      by_cases hnil : d.coming t = []
      · have hnil' : d'.coming t' = [] := (List.append_eq_nil_iff.mp (hcoming ▸ hnil)).2
        rw [if_pos hnil, if_pos hnil']
        omega
      · rw [if_neg hnil]
        split <;> omega
    · intro hmore
      simp at hmore

/-- Taking from two texts one after the other. -/
theorem take_append_eq (a b : List Point) (n : Nat) :
    (a ++ b).take n = a.take n ++ (a.drop n ++ b).take (n - (a.take n).length) := by
  rcases Nat.le_total n a.length with h | h
  · have hlen : (a.take n).length = n := List.length_take_of_le h
    rw [hlen, Nat.sub_self, List.take_zero, List.append_nil, List.take_append_of_le_length h]
  · rw [List.take_of_length_le h, List.drop_of_length_le h, List.nil_append, List.take_append,
      List.take_of_length_le h]

theorem drop_append_eq (a b : List Point) (n : Nat) :
    (a ++ b).drop n = (a.drop n ++ b).drop (n - (a.take n).length) := by
  rcases Nat.le_total n a.length with h | h
  · have hlen : (a.take n).length = n := List.length_take_of_le h
    rw [hlen, Nat.sub_self, List.drop_zero, List.drop_append_of_le_length h]
  · rw [List.take_of_length_le h, List.drop_of_length_le h, List.nil_append, List.drop_append,
      List.drop_of_length_le h, List.nil_append]

/-- **Read.** Reading on takes the front of the text that is left. -/
theorem readMore_holds {fuel wanted : Nat} (h : d.Undecoded t) (out : List Point)
    (hready : wanted ≠ 0 → d.ready = []) (hfuel : d.chunksLeft t < fuel) :
    ∃ d', d.readMore fuel wanted out = (.ok (out ++ (d.ready ++ d.coming t).take wanted), d') ∧
      d'.Holds ((d.ready ++ d.coming t).drop wanted) := by
  induction fuel generalizing d t wanted out with
  | zero => omega
  | succ fuel ih =>
    rw [readMore]
    by_cases hwanted : wanted = 0
    · subst hwanted
      rw [if_pos rfl]
      exact ⟨d, by simp, t, h, by simp⟩
    · obtain ⟨more, d', t', hfill, hd', hcoming, hless, hend⟩ := fill_undecoded h wanted
      rw [if_neg hwanted, hready hwanted, List.nil_append, hfill]
      cases more with
      | false =>
        have hnil := hend rfl
        simp only
        refine ⟨d', by simp [hnil], t', hd', ?_⟩
        rw [← hcoming, hnil, List.drop_nil]
      | true =>
        -- the chunk is ready: what is taken of it counts, and what is left of it stays ready
        have hready' : wanted - (d'.ready.take wanted).length ≠ 0 → d'.ready.drop wanted = [] := by
          intro hne
          rw [List.length_take] at hne
          exact List.drop_of_length_le (by omega)
        obtain ⟨d'', hread, hholds⟩ := ih (d := { d' with ready := d'.ready.drop wanted }) (t := t')
          ⟨hd'.codec, hd'.unmarked, hd'.writes, hd'.body, hd'.ends⟩ (out ++ d'.ready.take wanted) hready'
          (Nat.lt_of_lt_of_le (hless rfl) (Nat.le_of_lt_succ hfuel))
        refine ⟨d'', ?_, ?_⟩
        · rw [hcoming, take_append_eq, ← List.append_assoc]
          exact hread
        · rw [hcoming, drop_append_eq]
          exact hholds

/-- **Read.** Asked for some code points, it gives the front of the text that is left. -/
theorem read_holds (h : d.Holds s) (n : Nat) :
    ∃ d', d.read n = (.ok (s.take n), d') ∧ d'.Holds (s.drop n) := by
  obtain ⟨t, hd, rfl⟩ := h
  have hready : n - (d.ready.take n).length ≠ 0 → d.ready.drop n = [] := by
    intro hne
    rw [List.length_take] at hne
    exact List.drop_of_length_le (by omega)
  have hfuel : d.chunksLeft t < d.bytes.length + 2 := by
    unfold chunksLeft
    split <;> omega
  obtain ⟨d', hread, hholds⟩ := readMore_holds (d := { d with ready := d.ready.drop n })
    ⟨hd.codec, hd.unmarked, hd.writes, hd.body, hd.ends⟩ (d.ready.take n) hready hfuel
  refine ⟨d', ?_, ?_⟩
  · rw [take_append_eq]
    exact hread
  · rw [drop_append_eq]
    exact hholds

/-- All that is left is what is ready and what the decoder makes of the bytes. -/
theorem readAll_of_feed (h : (d.decoder.feed d.bytes true).1 = .ok t) (hends : d.fault? = none) :
    (d.readAll).1 = .ok (d.ready ++ d.coming t) := by
  obtain ⟨after, hfeed⟩ : ∃ after, d.decoder.feed d.bytes true = (.ok t, after) :=
    ⟨_, Prod.ext h rfl⟩
  simp only [readAll, hends, decode, hfeed, Newline.feed_last, coming]

/-- **Whole.** Read as a whole, the written form of a text gives the text with uniform line ends. -/
theorem readAll_written {c : Codec} (hc : c ∈ Codec.pointwise) (ht : c.Writes t) :
    ((start c (c.written t)).readAll).1 = .ok (Newline.unify t) :=
  readAll_of_feed (d := start c (c.written t)) (Decoder.feed_written hc ht) rfl

end Decoding

/-! ## Readers -/

namespace TextReader

/-- A text that is left to be read. A reader that fails beyond its text holds none: its end cannot be read. -/
def Holds : TextReader → List Point → Prop
  | .chars rest, s => rest = s
  | .decoded d, s => d.Holds s
  | .failing .., _ => False

variable {r : TextReader} {s : List Point}

/-- **Read.** Asked for some code points, a reader gives the front of the text that is left. -/
theorem read_holds (h : r.Holds s) {n : Int} (hn : 0 ≤ n) :
    ∃ r', r.read n = (.ok (s.take n.toNat), r') ∧ r'.Holds (s.drop n.toNat) := by
  have hpos : ¬n < 0 := by omega
  cases r with
  | chars rest =>
    obtain rfl : rest = s := h
    exact ⟨.chars (rest.drop n.toNat), by rw [read, if_neg hpos], rfl⟩
  | decoded d =>
    obtain ⟨d', hread, hholds⟩ := Decoding.read_holds h n.toNat
    refine ⟨.decoded d', ?_, hholds⟩
    simp only [read, if_neg hpos, hread]
  | failing rest why => exact h.elim

/-- The bound on what is left bounds it. -/
theorem length_le_bound (h : r.Holds s) : s.length ≤ r.bound := by
  cases r with
  | chars rest =>
    obtain rfl : rest = s := h
    exact Nat.le_refl _
  | decoded d =>
    obtain ⟨t, hd, rfl⟩ := h
    have hbody := Codec.length_le_body hd.writes
    have hunify := Newline.length_unify_le (Newline.waitingText d.returnWaits ++ t)
    have hwait := Newline.length_waitingText_le d.returnWaits
    rw [← hd.body, List.length_append] at hbody
    rw [List.length_append] at hunify
    rw [List.length_append, Decoding.coming, bound]
    omega
  | failing rest why => exact h.elim

end TextReader

end FileDepot
