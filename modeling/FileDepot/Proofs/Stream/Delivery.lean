import FileDepot.Payload
import FileDepot.Proofs.Operation
import FileDepot.Proofs.Stream.Buffered

/-!
# Encoding piece by piece is encoding as a whole

A text that is read as bytes, for any sizes asked one after the other, gives its written form
(`text_givesWritten`): what is given so far is always a front of it, a read for something gives nothing
only when all of it is given, and a code point that cannot be written ends the bytes before it with a
fault, never as if the text were over. Only sizes that the machine cannot count with or has no room for are
refused (`text_read_refused`); this takes nothing. How much room there is, is left open throughout.

One step — `EncodedText.read_answers` without a buffer, `ByteReader.read_answers` with one — takes the front
of what is left, and a run of them takes one front after the other (`giveEach_left`).
-/

namespace FileDepot

open Encoding

/-! ## Runs -/

/-- Whether a size is one that cannot be asked for: it is negative and not minus one, more than there is room
for, or more than a piece of bytes can have. -/
def ReadLength.IsUnfit (room : Nat) (n : Int) : Prop := n < -1 ∨ room < n ∨ limit - overhead ≤ n

/-- How a read of a size goes where some bytes are left. `left` tells what a reader has left. -/
inductive Answers {ρ : Type} (room : Nat) (left : ρ → Bytes → Prop → Prop) (r : ρ) (front : Bytes)
    (clean : Prop) (n : Int) : Except Fault Bytes × ρ → Prop where
  /-- it gives the front -/
  | gives {data rest : Bytes} {r' : ρ} (hfront : front = data ++ rest) (hleft : left r' rest clean)
    (hasked : IsAsked clean data rest (ReadLength.ofInt n)) :
    Answers room left r front clean n (.ok data, r')
  /-- it fails -/
  | fails {f : Fault} {r' : ρ} (hfault : IsUnwritable f) (hclean : ¬clean) :
    Answers room left r front clean n (.error f, r')
  /-- the size is refused, and the reader stays as it is -/
  | refused {e : ReadLength.Fault} (hn : ReadLength.IsUnfit room n) :
    Answers room left r front clean n (.error (.length e), r)

section Run

variable {ρ : Type} (read : ρ → Int → Except Fault Bytes × ρ)

/-- Ask a reader for one size after the other: the bytes that it gives, and the reader after them. A
refused size gives none. There is nothing where a read fails. -/
def giveEach (r : ρ) : List Int → Option (Bytes × ρ)
  | [] => some ([], r)
  | n :: ns =>
    match read r n with
    | (.ok data, r) => (giveEach r ns).map fun (more, r) => (data ++ more, r)
    | (.error (.length _), r) => giveEach r ns
    | (.error _, _) => none

variable {read} {left : ρ → Bytes → Prop → Prop} {clean : Prop} {room : Nat}

/-- **Run.** A run of reads gives a front of what is left. -/
theorem giveEach_left (hread : ∀ {r front} n, left r front clean →
      Answers room left r front clean n (read r n))
    {ns : List Int} {r after : ρ} {front before : Bytes} (h : left r front clean)
    (hrun : giveEach read r ns = some (before, after)) :
    ∃ rest, front = before ++ rest ∧ left after rest clean := by
  induction ns generalizing r front before with
  | nil =>
    obtain ⟨rfl, rfl⟩ := Prod.mk.inj (Option.some.inj hrun)
    exact ⟨front, rfl, h⟩
  | cons n ns ih =>
    have hstep := hread n h
    rw [giveEach] at hrun
    generalize read r n = answer at hstep hrun
    cases hstep with
    | @gives data rest r' hfront hleft hasked =>
      obtain ⟨⟨more, after'⟩, hmore, heq⟩ := Option.map_eq_some_iff.mp hrun
      obtain ⟨rfl, rfl⟩ := Prod.mk.inj heq
      obtain ⟨rest', rfl, hleft'⟩ := ih hleft hmore
      exact ⟨rest', by rw [hfront, List.append_assoc], hleft'⟩
    | fails hfault =>
      obtain ⟨codec, p, start, stop, reason, rfl⟩ := hfault
      cases hrun
    | refused => exact ih h hrun

end Run

/-! ## Sizes -/

namespace ReadLength

variable {n : Int}

theorem isCountable_iff : isCountable n = true ↔ -limit ≤ n ∧ n < limit := by simp [isCountable]

/-- A size that is no number to count with is too small or too large to ask for. -/
theorem isUnfit_of_not_countable {room : Nat} (h : ¬isCountable n = true) : IsUnfit room n := by
  rw [isCountable_iff, limit] at h
  rw [IsUnfit, limit, overhead]
  omega

/-- Without a buffer, only sizes that are too small or too large to ask for are refused. -/
theorem unbuffered_cases (room : Nat) (n : Int) :
    unbuffered room n = .ok (ofInt n) ∨ ∃ e, unbuffered room n = .error e ∧ IsUnfit room n := by
  rw [unbuffered]
  split
  · rename_i hcount
    exact .inr ⟨_, rfl, isUnfit_of_not_countable (by simpa using hcount)⟩
  · split
    · rename_i hroom
      exact .inr ⟨_, rfl, .inr (.inl hroom)⟩
    · exact .inl rfl

/-- The same holds with a buffer. -/
theorem buffered_cases (room : Nat) (n : Int) :
    buffered room n = .ok (ofInt n) ∨ ∃ e, buffered room n = .error e ∧ IsUnfit room n := by
  rw [buffered]
  split
  · rename_i hcount
    exact .inr ⟨_, rfl, isUnfit_of_not_countable (by simpa using hcount)⟩
  · split
    · rename_i hneg
      exact .inr ⟨_, rfl, .inl hneg⟩
    · rw [withRoom]
      split
      · rename_i hlarge
        exact .inr ⟨_, rfl, .inr (.inr hlarge)⟩
      · split
        · rename_i hroom
          exact .inr ⟨_, rfl, .inr (.inl hroom)⟩
        · exact .inl rfl

end ReadLength

/-! ## Readers -/

theorem Reads.answers {ρ : Type} {left : ρ → Bytes → Prop → Prop} {r : ρ} {front : Bytes} {clean : Prop}
    {n : Int} {answer : Except Fault Bytes × ρ}
    (h : Reads left front clean (ReadLength.ofInt n) answer) (room : Nat) :
    Answers room left r front clean n answer := by
  cases h with
  | gives hfront hleft hasked => exact .gives hfront hleft hasked
  | fails hfault hclean => exact .fails hfault hclean

/-- **Step.** Without a buffer, a read takes the front of what is left, or is refused. -/
theorem EncodedText.read_answers {r : EncodedText} {front : Bytes} {clean : Prop}
    (h : r.Left front clean) (room : Nat) (n : Int) :
    Answers room Left r front clean n (r.read room n) := by
  have hcount : ReadLength.isCountable r.chunk = true := by
    obtain ⟨t, hserves, -⟩ := h
    have hpos := hserves.chunk
    rw [ReadLength.isCountable_iff]
    refine ⟨?_, hserves.countable⟩
    rw [ReadLength.limit]
    omega
  rw [read]
  rcases ReadLength.unbuffered_cases room n with hasked | ⟨e, hasked, hn⟩
  · rw [hasked]
    simp only [hcount, Bool.not_true, Bool.false_eq_true, if_false]
    refine Reads.answers ?_ room
    cases ReadLength.ofInt n with
    | none => exact readAll_left h
    | some k => exact readSome_left h k
  · rw [hasked]
    exact .refused hn

/-- The bytes that an encoded text has left. -/
def ByteReader.Left (r : ByteReader) (front : Bytes) (clean : Prop) : Prop :=
  ∃ b, r = .encoded b ∧ b.Left front clean

/-- What a buffer gives for a number of bytes, or for all of them, is the front of what is left. -/
theorem ByteReader.give_left {b : BufferedText} {front : Bytes} {clean : Prop} (h : b.Left front clean)
    (asked : Option Nat) : Reads Left front clean asked (ByteReader.give (.encoded b) asked) := by
  have hlift {answer : Except Fault Bytes × BufferedText}
      (h : Reads BufferedText.Left front clean asked answer) :
      Reads Left front clean asked (answer.1, ByteReader.encoded answer.2) := by
    cases h with
    | gives hfront hleft hasked => exact .gives hfront ⟨_, rfl, hleft⟩ hasked
    | fails hfault hclean => exact .fails hfault hclean
  cases asked with
  | none => exact hlift (BufferedText.readAll_left h)
  | some n => exact hlift (BufferedText.readExactly_left h n)

/-- **Step.** With a buffer, a read takes the front of what is left, or is refused. -/
theorem ByteReader.read_answers {r : ByteReader} {front : Bytes} {clean : Prop}
    (h : r.Left front clean) (room : Nat) (n : Int) :
    Answers room Left r front clean n (r.read room n) := by
  obtain ⟨b, rfl, hleft⟩ := h
  rw [read, asked]
  rcases ReadLength.buffered_cases room n with hasked | ⟨e, hasked, hn⟩
  · rw [hasked]
    exact Reads.answers (give_left hleft _) room
  · rw [hasked]
    exact .refused hn

/-- All that is left of a text that can be written is its bytes. -/
theorem ByteReader.drain_left {r : ByteReader} {front : Bytes} {clean : Prop} (h : r.Left front clean)
    (hclean : clean) : r.drain = .ok front := by
  obtain ⟨b, rfl, hleft⟩ := h
  have hall := give_left hleft none
  rw [drain]
  generalize ByteReader.give (.encoded b) none = answer at hall ⊢
  cases hall with
  | @gives data rest _ hfront _ hasked =>
    obtain ⟨rfl, -⟩ : rest = [] ∧ clean := hasked
    rw [hfront, List.append_nil]
  | fails _ hunclean => exact absurd hclean hunclean

/-- **Drain.** Read to the end, a text that can be written gives its written form, whatever it is read
from. -/
theorem ByteReader.drain_ofText {c : Codec} (hc : c ∈ Codec.pointwise) {text : TextReader} {t : List Point}
    (htext : text.Holds t) (ht : c.Writes t) : (ofText c text).drain = .ok (c.written t) := by
  have hleft : (ofText c text).Left (c.written t) (c.Writes t) := by
    refine ⟨_, rfl, ?_⟩
    have hstart := BufferedText.left_start hc htext
    rwa [Codec.writable_eq_self ht] at hstart
  exact drain_left hleft ht

/-! ## Texts -/

section

variable (room : Nat) (c : Codec) (t : List Point)

/-- How an answer to a size goes on after the bytes given before: as the written form of a text does. -/
inductive Continues (before : Bytes) (n : Int) : Except Fault Bytes → Prop where
  /-- bytes of the written form, none only at its end, and all of them if asked for -/
  | given {data : Bytes} (hfront : before ++ data <+: c.written (c.writable t))
    (hsize : 0 ≤ n → data.length ≤ n.toNat)
    (hend : 0 < n → data = [] → c.Writes t ∧ before = c.written t)
    (hall : n < 0 → c.Writes t ∧ before ++ data = c.written t) : Continues before n (.ok data)
  /-- a fault of a code point that cannot be written, after bytes of those before it -/
  | unwritable {f : Fault} (hfront : before <+: c.written (c.writable t))
    (hfault : IsUnwritable f) (hclean : ¬c.Writes t) : Continues before n (.error f)
  /-- a refusal of the size -/
  | refused {e : ReadLength.Fault} (hn : ReadLength.IsUnfit room n) :
    Continues before n (.error (.length e))

/-- Whether a reader gives the written form of a text, whatever sizes it is asked for. -/
def GivesWritten {ρ : Type} (read : ρ → Int → Except Fault Bytes × ρ) (r : ρ) : Prop :=
  ∀ ns before after n, giveEach read r ns = some (before, after) →
    Continues room c t before n (read after n).1

end

/-- A reader that has the written form left, and takes the front of what is left, gives the written form. -/
theorem givesWritten_of_left {ρ : Type} {read : ρ → Int → Except Fault Bytes × ρ}
    {left : ρ → Bytes → Prop → Prop} {c : Codec} {t : List Point} {room : Nat}
    (hread : ∀ {r front} n, left r front (c.Writes t) →
      Answers room left r front (c.Writes t) n (read r n))
    {r : ρ} (h : left r (c.written (c.writable t)) (c.Writes t)) : GivesWritten room c t read r := by
  intro ns before after n hrun
  obtain ⟨rest, hfront, hleft⟩ := giveEach_left hread h hrun
  have hstep := hread n hleft
  -- where nothing is left and the text can be written, all of it is given
  have hwhole (hrest : rest = []) (hclean : c.Writes t) : c.Writes t ∧ before = c.written t := by
    rw [hrest, List.append_nil, Codec.writable_eq_self hclean] at hfront
    exact ⟨hclean, hfront.symm⟩
  generalize read after n = answer at hstep ⊢
  cases hstep with
  | @gives data rest' _ hrest _ hasked =>
    refine .given ⟨rest', ?_⟩ ?_ ?_ ?_
    · rw [hfront, hrest, List.append_assoc]
    · intro hn
      rw [ReadLength.ofInt, if_neg (by omega)] at hasked
      exact hasked.1
    · intro hn hdata
      rw [ReadLength.ofInt, if_neg (by omega)] at hasked
      obtain ⟨hnil, hclean⟩ := (hasked.2 hdata).resolve_left (by omega)
      exact hwhole (by rw [hrest, hdata, hnil]; rfl) hclean
    · intro hn
      rw [ReadLength.ofInt, if_pos hn] at hasked
      obtain ⟨hnil, hclean⟩ := hasked
      refine ⟨hclean, ?_⟩
      rw [hrest, hnil, List.append_nil, Codec.writable_eq_self hclean] at hfront
      exact hfront.symm
  | fails hfault hclean => exact .unwritable ⟨rest, hfront.symm⟩ hfault hclean
  | refused hn => exact .refused hn

/-- The encodings that write each code point for itself can be asked for by their names. -/
theorem require_ofCodec {c : Codec} (hc : c ∈ Codec.pointwise) : (Charset.ofCodec c).require = .ok c := by
  simp only [Codec.pointwise, List.mem_cons, List.not_mem_nil, or_false] at hc
  rcases hc with rfl | rfl | rfl | rfl | rfl | rfl <;>
    simp [Charset.require, Charset.ofCodec, Codec.name]

/-- **Delivery.** Read as bytes, a text gives its written form, whatever sizes are asked for: directly with
any number of characters in a chunk, and through the buffer that characters are saved by, however much room
there is. The written form is what the text is encoded as in one piece. -/
theorem text_givesWritten {c : Codec} (hc : c ∈ Codec.pointwise) {chunk : Int} (hpos : 1 ≤ chunk)
    (hcount : chunk < ReadLength.limit) (t : List Point) (room : Nat) :
    GivesWritten room c t (EncodedText.read room) (.start c (.chars t) chunk) ∧
      GivesWritten room c t (ByteReader.read room) (.ofText c (.chars t)) ∧
      (∀ {σ : Type} (w : World σ),
        ((Payload.characters (.chars t)).toReader (.ofCodec c)).exec w =
          (.ok (.ofText c (.chars t)), w)) ∧
      (c.Writes t → ((Encoder.start c).feed t true).1 = .ok (c.written t)) ∧
      (¬c.Writes t → ∃ e, IsUnwritable (.coding e) ∧ ((Encoder.start c).feed t true).1 = .error e) := by
  have htext : (TextReader.chars t).Holds t := rfl
  refine ⟨?_, ?_, fun w => ?_, Encoder.feed_start hc, fun hclean => ?_⟩
  · exact givesWritten_of_left (fun n h => EncodedText.read_answers h room n)
      (EncodedText.left_start hc htext hpos hcount)
  · exact givesWritten_of_left (fun n h => ByteReader.read_answers h room n)
      ⟨_, rfl, BufferedText.left_start hc htext⟩
  · simp only [Payload.toReader, Payload.toReader.encoded, require_ofCodec hc, Op.bind_exec,
      Op.ofExcept_exec, Op.pure_exec]
    rfl
  · obtain ⟨name, p, start, stop, reason, hfeed⟩ :=
      Encoder.feed_stops (e := .start c) hc hclean true
    exact ⟨_, ⟨name, p, start, stop, reason, rfl⟩, by rw [hfeed]⟩

/-- A text of two characters is read with its mark, in chunks of one character. -/
theorem text_givesWritten_marked :
    Codec.utf16 none ∈ Codec.pointwise ∧ (1 : Int) ≤ 1 ∧ (1 : Int) < ReadLength.limit ∧
      GivesWritten 4096 (.utf16 none) (Point.ofString "aé") (EncodedText.read 4096)
        (.start (.utf16 none) (.chars (Point.ofString "aé")) 1) :=
  ⟨by decide, by decide, by decide, (text_givesWritten (by decide) (by decide) (by decide) _ _).1⟩

/-- A number of characters in a chunk, or of bytes in a read, that is too large to count with is refused,
though the text is not over, however much room there is. -/
theorem text_read_refused :
    (∀ room, ¬∀ chunk : Int, 1 ≤ chunk →
      ∃ data, (EncodedText.read room (.start .utf8 (.chars [.char 'a']) chunk) 1).1 = .ok data) ∧
    ∀ room, ¬∀ n : Int, 0 < n →
      ∃ data, (ByteReader.read room (.ofText .utf8 (.chars [.char 'a'])) n).1 = .ok data := by
  constructor
  · intro room h
    obtain ⟨data, hdata⟩ := h ReadLength.limit (by decide)
    rw [EncodedText.read] at hdata
    split at hdata
    · cases hdata
    · cases hdata
  · intro room h
    obtain ⟨data, hdata⟩ := h ReadLength.limit (by decide)
    cases hdata

/-- The mark is written once, before an empty text, too. -/
example :
    (giveEach (EncodedText.read 8) (.start (.utf16 none) (.chars []) 8192) [1, 8, 8]).map Prod.fst =
      some [0xff, 0xfe] := by
  decide

end FileDepot
