import FileDepot.Encoding.Encoder
import Mathlib.Data.List.TakeWhile

/-!
# What a text is written as

Some encodings write each code point for itself, after a mark at most (`Codec.pointwise`). In these a
text is written as the mark and the bytes of its code points, one after the other (`Codec.written`), and
it can be written when each of its code points can. An encoder that takes the text piece by piece writes
just that: the mark with the first piece, and nothing else beside the code points.

* **piece** — `Encoder.feed_writes`, `Encoder.feed_stops`: what an encoder makes of a piece;
* **whole** — `Encoder.feed_start`: what it makes of a text in one piece.
-/

namespace FileDepot.Encoding

namespace Codec

/-- The encodings that write each code point for itself, after a mark at most. -/
def pointwise : List Codec :=
  [.utf8, .utf16 none, .utf16 (some .little), .utf16 (some .big), .latin1, .ascii]

theorem isText_of_pointwise {c : Codec} (hc : c ∈ pointwise) : c.isText = true := by
  revert c
  decide

/-- The bytes of a code point, if it has some. -/
def pointBytes? : Codec → Point → Option Bytes
  | .utf8, p => p.char?.map utf8Bytes
  | .utf16 order, p => p.char?.map (utf16Bytes (order.getD .little))
  | .latin1, p => byteBelow 256 p
  | .ascii, p => byteBelow 128 p
  | _, _ => none

/-- What stands before a text. -/
def mark : Codec → Bytes
  | .utf16 none => twoBytes .little 0xfeff
  | _ => []

variable (c : Codec)

/-- The bytes of the code points of a text. -/
def body (s : List Point) : Bytes := s.flatMap fun p => (c.pointBytes? p).getD []

/-- What a text is written as. -/
def written (s : List Point) : Bytes := c.mark ++ c.body s

/-- Whether a text can be written. -/
def Writes (s : List Point) : Prop := ∀ p ∈ s, (c.pointBytes? p).isSome = true

instance (s : List Point) : Decidable (c.Writes s) := by
  unfold Writes
  infer_instance

/-- A text up to its first code point that cannot be written. -/
def writable (s : List Point) : List Point := s.takeWhile fun p => (c.pointBytes? p).isSome

/-! ## Bodies -/

variable {c} {s t : List Point} {p : Point} {b : Bytes}

@[simp] theorem body_nil : c.body [] = [] := rfl

theorem body_cons (p : Point) (s : List Point) :
    c.body (p :: s) = (c.pointBytes? p).getD [] ++ c.body s := List.flatMap_cons

@[simp] theorem body_append (s t : List Point) : c.body (s ++ t) = c.body s ++ c.body t :=
  List.flatMap_append

theorem writes_nil : c.Writes [] := by simp [Writes]

theorem writes_append : c.Writes (s ++ t) ↔ c.Writes s ∧ c.Writes t := List.forall_mem_append

theorem writes_cons : c.Writes (p :: s) ↔ (c.pointBytes? p).isSome = true ∧ c.Writes s :=
  List.forall_mem_cons

theorem writable_eq_self (h : c.Writes s) : c.writable s = s := List.takeWhile_eq_self_iff.mpr h

theorem writable_append (h : c.Writes s) (t : List Point) :
    c.writable (s ++ t) = s ++ c.writable t := List.takeWhile_append_of_pos h

theorem length_twoBytes (order : ByteOrder) (n : Nat) : (twoBytes order n).length = 2 := by
  cases order <;> rfl

/-- A code point has one to four bytes. -/
theorem length_of_pointBytes? (h : c.pointBytes? p = some b) : 0 < b.length ∧ b.length ≤ 4 := by
  have hbelow {bound : Nat} (h : byteBelow bound p = some b) : 0 < b.length ∧ b.length ≤ 4 := by
    rw [byteBelow] at h
    split at h
    · obtain rfl := Option.some.inj h
      exact ⟨by simp, by simp⟩
    · cases h
  cases c with
  | utf8 =>
    obtain ⟨d, -, rfl⟩ := Option.map_eq_some_iff.mp h
    rw [utf8Bytes]
    split_ifs <;> simp
  | utf16 order =>
    obtain ⟨d, -, rfl⟩ := Option.map_eq_some_iff.mp h
    rw [utf16Bytes]
    split_ifs <;> simp [length_twoBytes]
  | latin1 => exact hbelow h
  | ascii => exact hbelow h
  | _ => cases h

theorem length_body_le (s : List Point) : (c.body s).length ≤ 4 * s.length := by
  induction s with
  | nil => simp
  | cons p s ih =>
    rw [body_cons, List.length_append, List.length_cons]
    cases hp : c.pointBytes? p with
    | none =>
      simp only [Option.getD_none, List.length_nil]
      omega
    | some b =>
      have hb := (length_of_pointBytes? hp).2
      simp only [Option.getD_some]
      omega

theorem length_le_body (h : c.Writes s) : s.length ≤ (c.body s).length := by
  induction s with
  | nil => exact Nat.zero_le _
  | cons p s ih =>
    obtain ⟨hp, hs⟩ := writes_cons.mp h
    obtain ⟨b, hb⟩ := Option.isSome_iff_exists.mp hp
    have hpos := (length_of_pointBytes? hb).1
    have hle := ih hs
    rw [body_cons, hb, Option.getD_some, List.length_append, List.length_cons]
    omega

/-- A text that can be written and is not empty has bytes. -/
theorem body_eq_nil_iff (h : c.Writes s) : c.body s = [] ↔ s = [] := by
  cases s with
  | nil => simp
  | cons p s =>
    obtain ⟨b, hb⟩ := Option.isSome_iff_exists.mp (writes_cons.mp h).1
    have hpos := (length_of_pointBytes? hb).1
    simp only [body_cons, hb, Option.getD_some, List.append_eq_nil_iff, reduceCtorEq, iff_false]
    rintro ⟨rfl, -⟩
    simp at hpos

theorem length_mark_le (c : Codec) : c.mark.length ≤ 2 := by
  unfold mark
  split <;> simp [length_twoBytes]

end Codec

/-! ## Writing a piece -/

theorem encodeEach_writes {codec reason : String} {together : Bool} {bytes? : Point → Option Bytes}
    {s : List Point} (h : ∀ p ∈ s, (bytes? p).isSome = true) :
    encodeEach codec reason together bytes? s = .ok (s.flatMap fun p => (bytes? p).getD []) := by
  have hnone : (s.dropWhile fun p => (bytes? p).isSome) = [] := List.dropWhile_eq_nil_iff.mpr h
  rw [encodeEach, hnone]

theorem encodeEach_stops (codec reason : String) (together : Bool) {bytes? : Point → Option Bytes}
    {s : List Point} (h : ¬ ∀ p ∈ s, (bytes? p).isSome = true) :
    ∃ p start stop, encodeEach codec reason together bytes? s =
      .error (.encode codec p start stop reason) := by
  rw [encodeEach]
  split
  · rename_i hnone
    exact absurd (List.dropWhile_eq_nil_iff.mp hnone) h
  · exact ⟨_, _, _, rfl⟩

namespace Encoder

variable {e : Encoder} {s : List Point}

/-- The mark that an encoder still has to write. -/
def markLeft (e : Encoder) : Bytes := if e.begun then [] else e.codec.mark

/-- What an encoder makes of a piece: the mark that is left and the code points, after which no mark is
left; or a fault, after which it is as it was. -/
theorem feed_eq (hc : e.codec ∈ Codec.pointwise) (s : List Point) (final : Bool) :
    ∃ name reason together after, after.codec = e.codec ∧ after.markLeft = [] ∧
      after.held = e.held ∧
      e.feed s final = match encodeEach name reason together e.codec.pointBytes? s with
        | .ok data => (.ok (e.markLeft ++ data), after)
        | .error f => (.error f, e) := by
  -- without a mark, the encoder stays as it is
  have hplain {name reason : String} {together : Bool} (hmark : e.codec.mark = [])
      (hfeed : e.feed s final =
        e.plainly (encodeEach name reason together e.codec.pointBytes? s)) :
      ∃ name reason together after, after.codec = e.codec ∧ after.markLeft = [] ∧
        after.held = e.held ∧
        e.feed s final = match encodeEach name reason together e.codec.pointBytes? s with
          | .ok data => (.ok (e.markLeft ++ data), after)
          | .error f => (.error f, e) := by
    have hleft : e.markLeft = [] := by simp [markLeft, hmark]
    refine ⟨name, reason, together, e, rfl, hleft, rfl, ?_⟩
    rw [hfeed, plainly, hleft]
    cases encodeEach name reason together e.codec.pointBytes? s <;> rfl
  simp only [Codec.pointwise, List.mem_cons, List.not_mem_nil, or_false] at hc
  rcases hc with h | h | h | h | h | h
  · exact hplain (by rw [h]; rfl) (by rw [feed, h]; rfl)
  · cases hbegun : e.begun with
    | true =>
      have hleft : e.markLeft = [] := by simp [markLeft, hbegun]
      refine ⟨"utf-16-le", surrogateReason, false, e, rfl, hleft, rfl, ?_⟩
      simp only [feed, h, marked, hbegun, if_true, hleft, List.nil_append]
      rw [encodeUtf16]
      change _ = match encodeEach _ _ _ (fun p => p.char?.map (utf16Bytes .little)) s with
        | .ok data => _
        | .error f => _
      cases encodeEach "utf-16-le" surrogateReason false
        (fun p => p.char?.map (utf16Bytes .little)) s <;> rfl
    | false =>
      have hleft : e.markLeft = twoBytes .little 0xfeff := by simp [markLeft, hbegun, h, Codec.mark]
      refine ⟨"utf-16", surrogateReason, false, { e with begun := true }, rfl, rfl, rfl, ?_⟩
      simp only [feed, h, marked, hbegun, Bool.false_eq_true, if_false, hleft]
      rfl
  · exact hplain (by rw [h]; rfl) (by rw [feed, h]; rfl)
  · exact hplain (by rw [h]; rfl) (by rw [feed, h]; rfl)
  · exact hplain (by rw [h]; rfl) (by rw [feed, h]; rfl)
  · exact hplain (by rw [h]; rfl) (by rw [feed, h]; rfl)

/-- **Piece.** A piece that can be written gives the mark that is left and its code points. -/
theorem feed_writes (hc : e.codec ∈ Codec.pointwise) (hs : e.codec.Writes s) (final : Bool) :
    ∃ after, e.feed s final = (.ok (e.markLeft ++ e.codec.body s), after) ∧
      after.codec = e.codec ∧ after.markLeft = [] ∧ after.held = e.held := by
  obtain ⟨name, reason, together, after, hcodec, hleft, hheld, hfeed⟩ := feed_eq hc s final
  refine ⟨after, ?_, hcodec, hleft, hheld⟩
  rw [hfeed, encodeEach_writes hs]
  rfl

/-- **Piece.** A piece that cannot be written gives a fault. -/
theorem feed_stops (hc : e.codec ∈ Codec.pointwise) (hs : ¬ e.codec.Writes s) (final : Bool) :
    ∃ name p start stop reason, e.feed s final = (.error (.encode name p start stop reason), e) := by
  obtain ⟨name, reason, together, after, -, -, -, hfeed⟩ := feed_eq hc s final
  obtain ⟨p, start, stop, hfault⟩ := encodeEach_stops name reason together hs
  refine ⟨name, p, start, stop, reason, ?_⟩
  rw [hfeed, hfault]

/-- **Whole.** A text in one piece is written as its written form. -/
theorem feed_start {c : Codec} (hc : c ∈ Codec.pointwise) (hs : c.Writes s) :
    ((Encoder.start c).feed s true).1 = .ok (c.written s) := by
  obtain ⟨after, hfeed, -⟩ := feed_writes (e := .start c) hc hs true
  rw [hfeed]
  rfl

/-- **Whole.** A text that an encoding takes in one piece can be written, and is written as that. -/
theorem writes_of_feed_start {c : Codec} (hc : c ∈ Codec.pointwise) {data : Bytes}
    (h : ((Encoder.start c).feed s true).1 = .ok data) : c.Writes s ∧ data = c.written s := by
  by_cases hs : c.Writes s
  · rw [feed_start hc hs] at h
    exact ⟨hs, (Except.ok.inj h).symm⟩
  · obtain ⟨name, p, start, stop, reason, hfeed⟩ := feed_stops (e := .start c) hc hs true
    rw [hfeed] at h
    cases h

end Encoder

end FileDepot.Encoding
