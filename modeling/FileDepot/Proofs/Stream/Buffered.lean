import FileDepot.Proofs.Stream.Encoded

/-!
# What a buffer in front of an encoded text gives

A buffer adds its own bytes to what the encoded text has left (`BufferedText.Left`), and takes the bytes
that are asked for from there on: whole buffers first, and then a buffer of which the front is given. Each
of these two loops moves bytes from what is left to what is given (`readBlocks_left`, `fillBuffer_left`), so
that reads through a buffer go as reads without one do: `BufferedText.readExactly_left` and
`BufferedText.readAll_left`.
-/

namespace FileDepot

open Encoding

namespace BufferedText

open EncodedText (bufferSize)

/-- The bytes that are left, and whether the text ends with them. -/
def Left (b : BufferedText) (front : Bytes) (clean : Prop) : Prop :=
  ∃ rest, b.source.Left rest clean ∧ front = b.ahead ++ rest

variable {b : BufferedText} {r : EncodedText} {front : Bytes} {clean : Prop}

theorem left_start {c : Codec} (hc : c ∈ Codec.pointwise) {text : TextReader} {t : List Point}
    (ht : text.Holds t) :
    Left ⟨.start c text EncodedText.usualChunk, []⟩ (c.written (c.writable t)) (c.Writes t) :=
  ⟨_, EncodedText.left_start hc ht (by decide) (by decide), rfl⟩

/-- Whole buffers are moved to what is given, until less is wanted or nothing is left. -/
theorem readBlocks_left (fuel wanted : Nat) (h : r.Left front clean) (out : Bytes) :
    (∃ data rest left ended r', readBlocks fuel r wanted out = (.ok (out ++ data, left, ended), r') ∧
      front = data ++ rest ∧ r'.Left rest clean ∧ data.length + left = wanted ∧
      (ended = true → rest = [] ∧ clean)) ∨
    ∃ f r', readBlocks fuel r wanted out = (.error f, r') ∧ IsUnwritable f ∧ ¬clean := by
  induction fuel generalizing r front wanted out with
  | zero => exact .inl ⟨[], front, wanted, false, r, by simp [readBlocks], rfl, h, by simp, by simp⟩
  | succ fuel ih =>
    rw [readBlocks]
    split
    · exact .inl ⟨[], front, wanted, false, r, by simp, rfl, h, by simp, by simp⟩
    · rename_i hmany
      have hblocks : 0 < wanted / bufferSize * bufferSize :=
        Nat.mul_pos (Nat.div_pos (Nat.not_lt.mp hmany) (by decide)) (by decide)
      have hfew : wanted / bufferSize * bufferSize ≤ wanted := Nat.div_mul_le_self _ _
      have hread := EncodedText.readSome_left h (wanted / bufferSize * bufferSize)
      generalize r.readSome (wanted / bufferSize * bufferSize) = answer at hread ⊢
      cases hread with
      | @gives data rest r' hfront hleft hasked =>
        obtain ⟨hsize, hend⟩ := hasked
        cases data with
        | nil =>
          have hdone : rest = [] ∧ clean := (hend rfl).resolve_left (Nat.pos_iff_ne_zero.mp hblocks)
          exact .inl ⟨[], rest, wanted, true, r', by simp, hfront, hleft, by simp, fun _ => hdone⟩
        | cons a data =>
          rcases ih (wanted - (a :: data).length) hleft (out ++ a :: data) with
            ⟨data', rest', left, ended, r'', hblocks, hrest, hleft', hlength, hend'⟩ |
            ⟨f, r'', hblocks, hfault, hclean⟩
          · left
            refine ⟨a :: data ++ data', rest', left, ended, r'', ?_, ?_, hleft', ?_, hend'⟩
            · rw [← List.append_assoc]
              exact hblocks
            · rw [hfront, hrest, List.append_assoc]
            · rw [List.length_append]
              omega
          · exact .inr ⟨f, r'', hblocks, hfault, hclean⟩
      | fails hfault hclean => exact .inr ⟨_, _, rfl, hfault, hclean⟩

/-- The buffer is filled until it holds what is wanted, is full, or nothing is left. -/
theorem fillBuffer_left (fuel wanted : Nat) (h : r.Left front clean) (ahead : Bytes)
    (hfuel : fuel = 0 → ahead ≠ []) :
    (∃ data rest r', fillBuffer fuel r wanted ahead = (.ok (ahead ++ data), r') ∧
      front = data ++ rest ∧ r'.Left rest clean ∧
      (ahead ++ data = [] → wanted = 0 ∨ rest = [] ∧ clean)) ∨
    ∃ f r', fillBuffer fuel r wanted ahead = (.error f, r') ∧ IsUnwritable f ∧ ¬clean := by
  induction fuel generalizing r front ahead with
  | zero =>
    left
    refine ⟨[], front, r, by simp [fillBuffer], rfl, h, fun hnil => ?_⟩
    exact absurd (by simpa using hnil) (hfuel rfl)
  | succ fuel ih =>
    rw [fillBuffer]
    split
    · rename_i hfull
      left
      refine ⟨[], front, r, by simp, rfl, h, fun hnil => .inl ?_⟩
      rw [List.append_nil] at hnil
      subst hnil
      simpa [bufferSize] using hfull
    · rename_i hroom
      rw [Bool.or_eq_true, decide_eq_true_eq, decide_eq_true_eq, not_or] at hroom
      have hread := EncodedText.readSome_left h (bufferSize - ahead.length)
      generalize r.readSome (bufferSize - ahead.length) = answer at hread ⊢
      cases hread with
      | @gives data rest r' hfront hleft hasked =>
        cases data with
        | nil =>
          have hdone : rest = [] ∧ clean := (hasked.2 rfl).resolve_left (by omega)
          exact .inl ⟨[], rest, r', by simp, hfront, hleft, fun _ => .inr hdone⟩
        | cons a data =>
          rcases ih hleft (ahead ++ a :: data) (by simp) with
            ⟨data', rest', r'', hfill, hrest, hleft', hend⟩ | ⟨f, r'', hfill, hfault, hclean⟩
          · left
            refine ⟨a :: data ++ data', rest', r'', ?_, ?_, hleft', ?_⟩
            · rw [← List.append_assoc]
              exact hfill
            · rw [hfront, hrest, List.append_assoc]
            · rw [← List.append_assoc]
              exact hend
          · exact .inr ⟨f, r'', hfill, hfault, hclean⟩
      | fails hfault hclean => exact .inr ⟨_, _, rfl, hfault, hclean⟩

/-- A place that others see changes no fault of a code point that cannot be written. -/
theorem isUnwritable_sharedFault {f : Fault} (h : IsUnwritable f) :
    IsUnwritable (sharedFault f) := by
  obtain ⟨codec, p, start, stop, reason, rfl⟩ := h
  exact ⟨codec, p, start, stop, reason, rfl⟩

/-- **Read.** A read through a buffer takes the front of what is left. -/
theorem readExactly_left (h : b.Left front clean) (n : Nat) :
    Reads Left front clean (some n) (b.readExactly n) := by
  obtain ⟨rest, hleft, rfl⟩ := h
  rw [readExactly]
  split
  · rename_i hahead
    -- what is asked for is in the buffer
    have hcut : b.ahead ++ rest = b.ahead.take n ++ (b.ahead.drop n ++ rest) := by
      rw [← List.append_assoc, List.take_append_drop]
    refine .gives hcut ⟨rest, hleft, rfl⟩ ⟨List.length_take_le n _, fun hnil => .inl ?_⟩
    have hlength := congrArg List.length hnil
    rw [List.length_take, Nat.min_eq_left hahead] at hlength
    exact hlength
  · rename_i hmore
    rcases readBlocks_left (n + 1) (n - b.ahead.length) hleft b.ahead with
      ⟨data, rest, left, ended, r, hblocks, rfl, hleft, hlength, hend⟩ |
      ⟨f, r, hblocks, hfault, hclean⟩
    · rw [hblocks]
      cases ended with
      | true =>
        obtain ⟨rfl, hclean⟩ := hend rfl
        refine .gives (by simp) ⟨[], hleft, rfl⟩ ⟨?_, fun _ => .inr ⟨rfl, hclean⟩⟩
        rw [List.length_append]
        omega
      | false =>
        rcases fillBuffer_left (bufferSize + 1) left hleft [] (by simp) with
          ⟨ahead, rest, r, hfill, rfl, hleft, hend⟩ | ⟨f, r, hfill, hfault, hclean⟩
        · have hcut : b.ahead ++ (data ++ (ahead ++ rest)) =
              b.ahead ++ data ++ ahead.take left ++ (ahead.drop left ++ rest) := by
            rw [List.append_assoc, List.append_assoc, ← List.append_assoc (ahead.take left),
              List.take_append_drop]
          simp only [hfill, List.nil_append]
          refine .gives hcut ⟨rest, hleft, rfl⟩ ⟨?_, fun hnil => ?_⟩
          · rw [List.length_append, List.length_append, List.length_take]
            omega
          · -- nothing is given where nothing was wanted, or where the filled buffer stayed empty
            rw [List.append_eq_nil_iff, List.append_eq_nil_iff] at hnil
            obtain ⟨⟨hahead, rfl⟩, htake⟩ := hnil
            rw [hahead, List.length_nil] at hlength
            rcases List.take_eq_nil_iff.mp htake with hzero | rfl
            · exact .inl (by omega)
            · rw [List.drop_nil]
              exact (hend rfl).imp_left fun hzero => by omega
        · simp only [hfill]
          exact .fails (isUnwritable_sharedFault hfault) hclean
    · rw [hblocks]
      exact .fails (isUnwritable_sharedFault hfault) hclean

/-- **All.** Reading all gives all that is left. -/
theorem readAll_left (h : b.Left front clean) : Reads Left front clean none b.readAll := by
  obtain ⟨rest, hleft, rfl⟩ := h
  have hread := EncodedText.readAll_left hleft
  rw [readAll]
  generalize b.source.readAll = answer at hread ⊢
  cases hread with
  | @gives data rest' r' hfront hleft' hasked =>
    obtain ⟨rfl, hclean⟩ := hasked
    rw [List.append_nil] at hfront
    subst hfront
    exact .gives (List.append_nil _).symm ⟨[], hleft', rfl⟩ ⟨rfl, hclean⟩
  | fails hfault hclean => exact .fails hfault hclean

end BufferedText

end FileDepot
