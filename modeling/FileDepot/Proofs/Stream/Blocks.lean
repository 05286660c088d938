import FileDepot.Proofs.Stream.Delivery
import FileDepot.Proofs.Stream.Trouble

/-!
# Copying block by block

A payload is copied in blocks, each as much as the reader gives at once, up to an empty one. Nothing is lost
in this, and nothing comes in addition: whatever a reader has left (`ByteReader.Holds`), in one piece, in
pieces of any sizes or as a text that is encoded on the way, is what the copy holds.

* **step** — `ByteReader.readBlock_holds`: a block is the front of what is left, and empty only at the end;
* **run** — `ByteReader.drainBlocks_holds`: all blocks together are all that is left.
-/

namespace FileDepot.ByteReader

open Encoding

/-- The bytes that a reader gives when it is read to the end. -/
inductive Holds : ByteReader → Bytes → Prop where
  /-- bytes at hand -/
  | bytes (data : Bytes) : Holds (.bytes data) data
  /-- pieces, one after the other -/
  | pieces (rest : List Bytes) : Holds (.pieces rest) rest.flatten
  /-- the encoded form of a text that can be written -/
  | encoded {b : BufferedText} {data : Bytes} (h : b.Left data True) : Holds (.encoded b) data

variable {r : ByteReader} {data : Bytes}

/-- A text that can be written holds its written form. -/
theorem holds_ofText {c : Codec} (hc : c ∈ Codec.pointwise) {text : TextReader} {t : List Point}
    (htext : text.Holds t) (ht : c.Writes t) : (ofText c text).Holds (c.written t) := by
  have hstart := BufferedText.left_start hc htext
  rw [Codec.writable_eq_self ht] at hstart
  refine .encoded ?_
  rwa [eq_true ht] at hstart

/-- Empty pieces in front do not count. -/
theorem flatten_dropWhile_isEmpty (pieces : List Bytes) :
    (pieces.dropWhile List.isEmpty).flatten = pieces.flatten := by
  induction pieces with
  | nil => rfl
  | cons piece rest ih =>
    cases piece with
    | nil => simpa using ih
    | cons b piece => simp

/-- **Step.** A block is the front of what is left, and empty only at the end. -/
theorem readBlock_holds (h : r.Holds data) :
    ∃ block rest r', r.give (some blockSize) = (.ok block, r') ∧ data = block ++ rest ∧ r'.Holds rest ∧
      (block = [] → rest = []) := by
  have hpos : 0 < blockSize := by decide
  cases h with
  | bytes =>
    refine ⟨data.take blockSize, data.drop blockSize, .bytes (data.drop blockSize), ?_,
      (List.take_append_drop ..).symm, .bytes _, fun hnil => ?_⟩
    · rw [give]
    · rcases List.take_eq_nil_iff.mp hnil with hzero | rfl
      · omega
      · rfl
  | pieces rest =>
    rw [← flatten_dropWhile_isEmpty]
    simp only [give, takePiece?]
    cases hrest : rest.dropWhile List.isEmpty with
    | nil => exact ⟨[], [], _, rfl, rfl, .pieces [], fun _ => rfl⟩
    | cons piece more =>
      refine ⟨piece.take blockSize, (piece.drop blockSize :: more).flatten, _, rfl, ?_, .pieces _,
        fun hnil => ?_⟩
      · rw [List.flatten_cons, List.flatten_cons, ← List.append_assoc, List.take_append_drop]
      · -- the next piece is not empty
        have hpiece := List.head?_dropWhile_not List.isEmpty rest
        simp only [hrest, List.head?_cons] at hpiece
        rcases List.take_eq_nil_iff.mp hnil with hzero | rfl
        · omega
        · cases hpiece
  | @encoded b _ hleft =>
    have hstep := BufferedText.readExactly_left hleft blockSize
    simp only [give]
    generalize b.readExactly blockSize = answer at hstep ⊢
    cases hstep with
    | @gives block rest b' hfront hleft' hasked =>
      refine ⟨block, rest, .encoded b', rfl, hfront, .encoded hleft', fun hnil => ?_⟩
      exact ((hasked.2 hnil).resolve_left (by omega)).1
    | fails _ hclean => exact absurd trivial hclean

/-- There are no more blocks than bytes. -/
theorem length_le_blocksLeft (h : r.Holds data) : data.length ≤ r.blocksLeft := by
  cases h with
  | bytes => exact Nat.le_refl _
  | pieces rest => exact Nat.le_refl _
  | @encoded b _ hleft =>
    obtain ⟨rest, hrest, rfl⟩ := hleft
    have hfront := EncodedText.length_front_lt hrest
    rw [blocksLeft, List.length_append]
    omega

/-- Copying goes on to the end, if there are enough blocks. -/
theorem copyBlocks_holds {fuel : Nat} (h : r.Holds data) (hfuel : data.length < fuel)
    (out : List Bytes) : copyBlocks fuel r out = .ok (out.reverse.flatten ++ data) := by
  induction fuel generalizing r data out with
  | zero => omega
  | succ fuel ih =>
    obtain ⟨block, rest, r', hread, rfl, hrest, hend⟩ := readBlock_holds h
    rw [copyBlocks, hread]
    cases block with
    | nil => simp [hend rfl]
    | cons b block =>
      have hless : rest.length < fuel := by
        rw [List.length_append, List.length_cons] at hfuel
        omega
      refine (ih hrest hless _).trans ?_
      simp

/-- **Run.** Block by block, a reader gives all that it has left. -/
theorem drainBlocks_holds (h : r.Holds data) : r.drainBlocks = .ok data :=
  copyBlocks_holds h (Nat.lt_succ_of_le (length_le_blocksLeft h)) []

end FileDepot.ByteReader
