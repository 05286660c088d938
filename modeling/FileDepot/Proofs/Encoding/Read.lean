import FileDepot.Encoding.Decoder
import FileDepot.Proofs.Encoding.Written

/-!
# Reading what was written

The bytes of a text are read as the text again: `Decoder.feed_written` for a text in one piece. Where no
mark stands in front, the bytes may come in pieces that are cut anywhere. A cut falls between two code
points or inside one (`Codec.body_cut`), and what stands before the cut of a code point is held back until
the rest of it comes (`Decoder.feed_body`).
-/

namespace FileDepot

/-- A character is the code point with its number. -/
theorem Point.ofNat_toNat (c : Char) : Point.ofNat c.toNat = .char c := by
  have hvalid : c.toNat.isValidChar := c.valid
  have hout : ¬(0xd800 ≤ c.toNat ∧ c.toNat < 0xe000) := by
    rcases hvalid with h | ⟨h, -⟩ <;> omega
  rw [Point.ofNat, dif_neg hout, Char.ofNat_toNat]

theorem Point.eq_char {p : Point} {d : Char} (h : p.char? = some d) : p = .char d := by
  cases p with
  | char e => rw [Option.some.inj h]
  | surrogate place => cases h

namespace Encoding

theorem toNat_ofNat {n : Nat} (h : n < 256) : (UInt8.ofNat n).toNat = n := UInt8.toNat_ofNat_of_lt' h

/-! ## Characters of one to four bytes -/

/-- The bytes that a scan takes for the code point with a number. -/
inductive Utf8Form (n : Nat) : Bytes → Prop where
  /-- one byte -/
  | one {a : UInt8} (ha : a.toNat < 0x80) (hn : a.toNat = n) : Utf8Form n [a]
  /-- two bytes -/
  | two {a b : UInt8} (ha : 0xc2 ≤ a.toNat ∧ a.toNat < 0xe0) (hb : isContinuation b = true)
    (hn : (a.toNat - 0xc0) * 64 + low6 b = n) : Utf8Form n [a, b]
  /-- three bytes -/
  | three {a b c : UInt8} (ha : 0xe0 ≤ a.toNat ∧ a.toNat < 0xf0) (hb : mayFollow a b = true)
    (hc : isContinuation c = true) (hn : (a.toNat - 0xe0) * 4096 + low6 b * 64 + low6 c = n) :
    Utf8Form n [a, b, c]
  /-- four bytes -/
  | four {a b c d : UInt8} (ha : 0xf0 ≤ a.toNat ∧ a.toNat < 0xf5) (hb : mayFollow a b = true)
    (hc : isContinuation c = true) (hd : isContinuation d = true)
    (hn : (a.toNat - 0xf0) * 262144 + low6 b * 4096 + low6 c * 64 + low6 d = n) :
    Utf8Form n [a, b, c, d]

theorem isContinuation_iff {b : UInt8} :
    isContinuation b = true ↔ 0x80 ≤ b.toNat ∧ b.toNat < 0xc0 := by
  simp [isContinuation, UInt8.lt_iff_toNat_lt, UInt8.le_iff_toNat_le]

theorem mayFollow_iff {a b : UInt8} :
    mayFollow a b = true ↔ (0x80 ≤ b.toNat ∧ b.toNat < 0xc0) ∧
      (a.toNat = 0xe0 → 0xa0 ≤ b.toNat) ∧ (a.toNat = 0xed → b.toNat < 0xa0) ∧
      (a.toNat = 0xf0 → 0x90 ≤ b.toNat) ∧ (a.toNat = 0xf4 → b.toNat < 0x90) := by
  simp only [mayFollow, Bool.and_eq_true, isContinuation_iff, Bool.not_eq_true',
    Bool.and_eq_false_imp, beq_iff_eq, decide_eq_false_iff_not, ← UInt8.toNat_inj,
    UInt8.lt_iff_toNat_lt, UInt8.le_iff_toNat_le, UInt8.reduceToNat, not_lt, not_le, and_assoc]

namespace Utf8Form

variable {n : Nat} {data : Bytes}

/-- A scan takes such bytes for the code point, whatever comes after them. -/
theorem scan (h : Utf8Form n data) (final : Bool) (rest : Bytes) :
    scanUtf8 final (data ++ rest) = .point n (data.length - 1) := by
  cases h with
  | one ha hn =>
    subst hn
    simp only [List.cons_append, scanUtf8, UInt8.lt_iff_toNat_lt, UInt8.reduceToNat, if_pos ha]
    rfl
  | two ha hb hn =>
    subst hn
    simp (disch := omega) only [List.cons_append, scanUtf8, UInt8.lt_iff_toNat_lt, UInt8.reduceToNat,
      if_neg, if_pos, hb]
    rfl
  | three ha hb hc hn =>
    subst hn
    simp (disch := omega) only [List.cons_append, scanUtf8, UInt8.lt_iff_toNat_lt, UInt8.reduceToNat,
      if_neg, if_pos, hb, hc, Bool.not_true, Bool.false_eq_true]
    rfl
  | four ha hb hc hd hn =>
    subst hn
    simp (disch := omega) only [List.cons_append, scanUtf8, UInt8.lt_iff_toNat_lt, UInt8.reduceToNat,
      if_neg, if_pos, hb, hc, hd, Bool.not_true, Bool.false_eq_true]
    rfl

/-- A scan waits for the rest of such bytes. -/
theorem scan_take (h : Utf8Form n data) {k : Nat} (hpos : 0 < k) (hk : k < data.length) :
    scanUtf8 false (data.take k) = .hold := by
  cases h with
  | one ha =>
    simp only [List.length_cons, List.length_nil] at hk
    omega
  | two ha hb =>
    simp only [List.length_cons, List.length_nil] at hk
    obtain rfl : k = 1 := by omega
    simp (disch := omega) only [List.take_succ_cons, List.take_zero, scanUtf8, UInt8.lt_iff_toNat_lt,
      UInt8.reduceToNat, if_neg, if_pos]
    rfl
  | three ha hb hc =>
    simp only [List.length_cons, List.length_nil] at hk
    obtain rfl | rfl : k = 1 ∨ k = 2 := by omega
    all_goals
      simp (disch := omega) only [List.take_succ_cons, List.take_zero, scanUtf8,
        UInt8.lt_iff_toNat_lt, UInt8.reduceToNat, if_neg, if_pos, hb]
      rfl
  | four ha hb hc hd =>
    simp only [List.length_cons, List.length_nil] at hk
    obtain rfl | rfl | rfl : k = 1 ∨ k = 2 ∨ k = 3 := by omega
    all_goals
      simp (disch := omega) only [List.take_succ_cons, List.take_zero, scanUtf8,
        UInt8.lt_iff_toNat_lt, UInt8.reduceToNat, if_neg, if_pos, hb, hc, Bool.not_true,
        Bool.false_eq_true]
      rfl

section

variable {a b c d : UInt8}

theorem of_two (hn : 0x80 ≤ n ∧ n < 0x800) (ha : a.toNat = 0xc0 + n / 64)
    (hb : b.toNat = 0x80 + n % 64) : Utf8Form n [a, b] := by
  refine .two (by omega) (isContinuation_iff.mpr (by omega)) ?_
  unfold low6
  omega

theorem of_three (hn : 0x800 ≤ n ∧ n < 0x10000) (hvalid : n.isValidChar)
    (ha : a.toNat = 0xe0 + n / 4096) (hb : b.toNat = 0x80 + n / 64 % 64)
    (hc : c.toNat = 0x80 + n % 64) : Utf8Form n [a, b, c] := by
  -- a surrogate has no bytes, which the second byte would show
  have hout : 0xd800 ≤ n → 0xe000 ≤ n := by rcases hvalid with h | ⟨h, -⟩ <;> omega
  refine .three (by omega) (mayFollow_iff.mpr (by omega)) (isContinuation_iff.mpr (by omega)) ?_
  unfold low6
  omega

theorem of_four (hn : 0x10000 ≤ n ∧ n < 0x110000) (ha : a.toNat = 0xf0 + n / 262144)
    (hb : b.toNat = 0x80 + n / 4096 % 64) (hc : c.toNat = 0x80 + n / 64 % 64)
    (hd : d.toNat = 0x80 + n % 64) : Utf8Form n [a, b, c, d] := by
  refine .four (by omega) (mayFollow_iff.mpr (by omega)) (isContinuation_iff.mpr (by omega))
    (isContinuation_iff.mpr (by omega)) ?_
  unfold low6
  omega

end

/-- The bytes of a character are such bytes. -/
theorem of_char (c : Char) : Utf8Form c.toNat (utf8Bytes c) := by
  have hvalid : c.toNat.isValidChar := c.valid
  rw [utf8Bytes]
  generalize c.toNat = n at hvalid ⊢
  split_ifs with h1 h2 h3
  · have ha : (UInt8.ofNat n).toNat = n := toNat_ofNat (by omega)
    exact .one (by omega) ha
  · exact of_two ⟨by omega, h2⟩ (toNat_ofNat (by omega)) (toNat_ofNat (by omega))
  · exact of_three ⟨by omega, h3⟩ hvalid (toNat_ofNat (by omega)) (toNat_ofNat (by omega))
      (toNat_ofNat (by omega))
  · have hlast : n < 0x110000 := by rcases hvalid with h | ⟨-, h⟩ <;> omega
    exact of_four ⟨by omega, hlast⟩ (toNat_ofNat (by omega)) (toNat_ofNat (by omega))
      (toNat_ofNat (by omega)) (toNat_ofNat (by omega))

end Utf8Form

/-! ## Units of two bytes -/

/-- The bytes that a scan in units of two bytes takes for the code point with a number. -/
inductive Utf16Form (order : ByteOrder) (n : Nat) : Bytes → Prop where
  /-- one unit -/
  | one {a b : UInt8} (hn : twoBytesToNat order a b = n) (hout : n < 0xd800 ∨ 0xe000 ≤ n) :
    Utf16Form order n [a, b]
  /-- a pair of units -/
  | two {a b c d : UInt8} {first second : Nat} (hfirst : twoBytesToNat order a b = first)
    (hsecond : twoBytesToNat order c d = second) (hf : 0xd800 ≤ first ∧ first < 0xdc00)
    (hs : 0xdc00 ≤ second ∧ second < 0xe000)
    (hn : 0x10000 + (first - 0xd800) * 1024 + (second - 0xdc00) = n) :
    Utf16Form order n [a, b, c, d]

theorem exists_twoBytes (order : ByteOrder) {n : Nat} (h : n < 0x10000) :
    ∃ a b, twoBytes order n = [a, b] ∧ twoBytesToNat order a b = n := by
  have hlow : (UInt8.ofNat n).toNat = n % 256 := UInt8.toNat_ofNat'
  have hhigh : (UInt8.ofNat (n / 256)).toNat = n / 256 := toNat_ofNat (by omega)
  cases order with
  | little =>
    refine ⟨_, _, rfl, ?_⟩
    simp only [twoBytesToNat, hlow, hhigh]
    omega
  | big =>
    refine ⟨_, _, rfl, ?_⟩
    simp only [twoBytesToNat, hlow, hhigh]
    omega

namespace Utf16Form

variable {order : ByteOrder} {n : Nat} {data : Bytes}

/-- A scan takes such bytes for the code point, whatever comes after them. -/
theorem scan (h : Utf16Form order n data) (final : Bool) (rest : Bytes) :
    scanUtf16 order final (data ++ rest) = .point n (data.length - 1) := by
  cases h with
  | one hn hout => simp [scanUtf16, hn, hout]
  | @two a b c d first second hfirst hsecond hf hs hn =>
    have hin : ¬(first < 0xd800 ∨ 0xe000 ≤ first) := by omega
    subst hn
    simp [scanUtf16, hfirst, hsecond, hin, hs, Nat.not_le.mpr hf.2, Scan.point, Point.joined]

/-- A scan waits for the rest of such bytes. -/
theorem scan_take (h : Utf16Form order n data) {k : Nat} (hpos : 0 < k) (hk : k < data.length) :
    scanUtf16 order false (data.take k) = .hold := by
  cases h with
  | one hn hout =>
    simp only [List.length_cons, List.length_nil] at hk
    obtain rfl : k = 1 := by omega
    rfl
  | @two a b c d first second hfirst hsecond hf hs hn =>
    simp only [List.length_cons, List.length_nil] at hk
    have hin : ¬(first < 0xd800 ∨ 0xe000 ≤ first) := by omega
    obtain rfl | rfl | rfl : k = 1 ∨ k = 2 ∨ k = 3 := by omega
    · rfl
    all_goals
      simp [scanUtf16, hfirst, hin, Nat.not_le.mpr hf.2, Scan.short]

/-- The bytes of a character are such bytes. -/
theorem of_char (order : ByteOrder) (c : Char) : Utf16Form order c.toNat (utf16Bytes order c) := by
  have hvalid : c.toNat.isValidChar := c.valid
  rw [utf16Bytes]
  generalize c.toNat = n at hvalid ⊢
  split_ifs with hone
  · obtain ⟨a, b, hdata, hn⟩ := exists_twoBytes order hone
    rw [hdata]
    exact .one hn (by rcases hvalid with h | ⟨h, -⟩ <;> omega)
  · have hlast : n < 0x110000 := by rcases hvalid with h | ⟨-, h⟩ <;> omega
    obtain ⟨a, b, hdata, hfirst⟩ :=
      exists_twoBytes order (n := 0xd800 + (n - 0x10000) / 1024) (by omega)
    obtain ⟨c, d, hdata', hsecond⟩ :=
      exists_twoBytes order (n := 0xdc00 + (n - 0x10000) % 1024) (by omega)
    rw [hdata, hdata']
    exact .two hfirst hsecond (by omega) (by omega) (by omega)

end Utf16Form

/-! ## Code points for themselves -/

namespace Codec

/-- The scan for the code points that an encoding writes for themselves. -/
def scan : Codec → Bool → PlainScan
  | .utf16 order, final => scanUtf16 (order.getD .little) final
  | .latin1, _ => scanByte "" fun b => some (.ofNat b.toNat)
  | .ascii, _ =>
    scanByte "ordinal not in range(128)" fun b => if b < 0x80 then some (.ofNat b.toNat) else none
  | _, final => scanUtf8 final

variable {c : Codec} {p : Point} {b : Bytes} {s t : List Point}

theorem byteBelow_eq_some {bound : Nat} (hbound : bound ≤ 256) (h : byteBelow bound p = some b) :
    ∃ a : UInt8, b = [a] ∧ a.toNat < bound ∧ Point.ofNat a.toNat = p := by
  rw [byteBelow] at h
  split at h
  · rename_i hlt
    obtain rfl := Option.some.inj h
    have hnum : (UInt8.ofNat p.toNat).toNat = p.toNat := toNat_ofNat (by omega)
    refine ⟨_, rfl, by omega, ?_⟩
    rw [hnum]
    cases p with
    | char d => exact Point.ofNat_toNat d
    | surrogate place =>
      simp only [Point.toNat] at hlt
      omega
  · cases h

/-- A scan takes the bytes of a code point for it, whatever comes after them. -/
theorem scan_point (h : c.pointBytes? p = some b) (final : Bool) (rest : Bytes) :
    c.scan final (b ++ rest) = .text [p] (b.length - 1) () := by
  cases c with
  | utf8 =>
    obtain ⟨d, hd, rfl⟩ := Option.map_eq_some_iff.mp h
    change scanUtf8 final (utf8Bytes d ++ rest) = _
    rw [(Utf8Form.of_char d).scan, Scan.point, Point.ofNat_toNat, Point.eq_char hd]
  | utf16 order =>
    obtain ⟨d, hd, rfl⟩ := Option.map_eq_some_iff.mp h
    rw [scan, (Utf16Form.of_char _ d).scan, Scan.point, Point.ofNat_toNat, Point.eq_char hd]
  | latin1 =>
    obtain ⟨a, rfl, -, rfl⟩ := byteBelow_eq_some (by omega) h
    rfl
  | ascii =>
    obtain ⟨a, rfl, hlt, rfl⟩ := byteBelow_eq_some (by omega) h
    have hbelow : a < 0x80 := UInt8.lt_iff_toNat_lt.mpr hlt
    simp [scan, scanByte, hbelow]
  | _ => cases h

/-- A scan waits for the rest of the bytes of a code point. -/
theorem scan_take (h : c.pointBytes? p = some b) {k : Nat} (hpos : 0 < k) (hk : k < b.length) :
    c.scan false (b.take k) = .hold := by
  have hone {bound : Nat} (hbound : bound ≤ 256) (h : byteBelow bound p = some b) : False := by
    obtain ⟨a, rfl, -⟩ := byteBelow_eq_some hbound h
    simp only [List.length_cons, List.length_nil] at hk
    omega
  cases c with
  | utf8 =>
    obtain ⟨d, -, rfl⟩ := Option.map_eq_some_iff.mp h
    exact (Utf8Form.of_char d).scan_take hpos hk
  | utf16 order =>
    obtain ⟨d, -, rfl⟩ := Option.map_eq_some_iff.mp h
    exact (Utf16Form.of_char _ d).scan_take hpos hk
  | latin1 => exact (hone (by omega) h).elim
  | ascii => exact (hone (by omega) h).elim
  | _ => cases h

/-- Bytes that end a piece where a text is cut: none, or the front of a code point. -/
def Held (c : Codec) (final : Bool) (part : Bytes) : Prop :=
  part = [] ∨ c.scan final part = .hold

/-- **Cut.** The bytes of a text may be cut anywhere: between two code points, or inside one, whose front
is held. -/
theorem body_cut (hs : c.Writes s) {front back : Bytes} (h : front ++ back = c.body s) :
    ∃ t u part, s = t ++ u ∧ front = c.body t ++ part ∧ part ++ back = c.body u ∧
      c.Held false part := by
  induction s generalizing front with
  | nil =>
    obtain ⟨rfl, rfl⟩ := List.append_eq_nil_iff.mp h
    exact ⟨[], [], [], rfl, rfl, rfl, .inl rfl⟩
  | cons p s ih =>
    obtain ⟨hp, hs⟩ := writes_cons.mp hs
    obtain ⟨b, hb⟩ := Option.isSome_iff_exists.mp hp
    have hbody : c.body (p :: s) = b ++ c.body s := by rw [body_cons, hb, Option.getD_some]
    rw [hbody] at h
    rcases List.append_eq_append_iff.mp h with ⟨more, hmore, hback⟩ | ⟨front', rfl, hrest⟩
    · -- the front is a part of the first code point
      by_cases hmore' : more = []
      · subst hmore'
        rw [List.append_nil] at hmore
        subst hmore
        rw [List.nil_append] at hback
        refine ⟨[p], s, [], rfl, ?_, hback, .inl rfl⟩
        simp [body_cons, hb]
      · have hlen : b.length = front.length + more.length := by rw [hmore, List.length_append]
        have hpos : 0 < more.length := List.length_pos_iff.mpr hmore'
        have hheld : c.Held false front := by
          by_cases hfront : front = []
          · exact .inl hfront
          · have htake : front = b.take front.length := by rw [hmore, List.take_left]
            right
            rw [htake]
            exact scan_take hb (List.length_pos_iff.mpr hfront) (by omega)
        exact ⟨[], p :: s, front, rfl, rfl, by rw [hbody, h], hheld⟩
    · obtain ⟨t, u, part, rfl, rfl, hpart, hheld⟩ := ih hs hrest.symm
      refine ⟨p :: t, u, part, rfl, ?_, hpart, hheld⟩
      rw [body_cons, hb, Option.getD_some, List.append_assoc]

end Codec

/-- The bytes that belong to the last text are passed. -/
theorem run_skip {μ : Type} {name : String} {scan : μ → Bytes → Scan μ} {mode : μ}
    (skipped rest : Bytes) (place : Nat) (out : List (List Point)) :
    run name scan mode skipped.length place out (skipped ++ rest) =
      run name scan mode 0 (place + skipped.length) out rest := by
  induction skipped generalizing place with
  | nil => rfl
  | cons b skipped ih =>
    rw [List.length_cons, List.cons_append, run, ih, Nat.add_assoc, Nat.add_comm 1]

/-- **Run.** Repeating the scan over the bytes of a text gives the text, and holds what is held. -/
theorem run_body {c : Codec} {s : List Point} {final : Bool} {part : Bytes} (name : String)
    (hs : c.Writes s) (hpart : c.Held final part) (place : Nat) (out : List (List Point)) :
    (run name (fun _ => c.scan final) () 0 place out (c.body s ++ part)).1 =
      .ok (out.reverse.flatten ++ s, part) := by
  induction s generalizing place out with
  | nil =>
    rw [Codec.body_nil, List.nil_append, List.append_nil]
    cases part with
    | nil => rfl
    | cons b part =>
      obtain hnil | hhold := hpart
      · cases hnil
      · rw [run]
        simp only [hhold]
  | cons p s ih =>
    obtain ⟨hp, hs⟩ := Codec.writes_cons.mp hs
    obtain ⟨b, hb⟩ := Option.isSome_iff_exists.mp hp
    have hscan := Codec.scan_point hb final (c.body s ++ part)
    have hpos := (Codec.length_of_pointBytes? hb).1
    rw [Codec.body_cons, hb, Option.getD_some, List.append_assoc]
    cases b with
    | nil => simp at hpos
    | cons a b =>
      rw [List.length_cons, Nat.add_sub_cancel] at hscan
      rw [List.cons_append] at hscan ⊢
      rw [run]
      simp only [hscan]
      rw [run_skip, ih hs]
      simp

namespace Decoder

variable {d : Decoder} {s : List Point} {final : Bool}

theorem feed_eq_plainly (hc : d.codec ∈ Codec.pointwise) (hmark : d.codec.mark = []) (piece : Bytes)
    (final : Bool) :
    ∃ name, d.feed piece final = d.plainly name (d.codec.scan final) (d.held ++ piece) := by
  simp only [Codec.pointwise, List.mem_cons, List.not_mem_nil, or_false] at hc
  rcases hc with h | h | h | h | h | h
  · exact ⟨_, by rw [feed, h]; rfl⟩
  · rw [h] at hmark
    cases hmark
  · exact ⟨_, by rw [feed, h]; rfl⟩
  · exact ⟨_, by rw [feed, h]; rfl⟩
  · exact ⟨_, by rw [feed, h]; rfl⟩
  · exact ⟨_, by rw [feed, h]; rfl⟩

/-- **Piece.** A piece that ends the bytes of a text gives the text; what is held of the next code point
stays. -/
theorem feed_body (hc : d.codec ∈ Codec.pointwise) (hmark : d.codec.mark = [])
    (hs : d.codec.Writes s) {piece part : Bytes} (hpart : d.codec.Held final part)
    (h : d.held ++ piece = d.codec.body s ++ part) :
    d.feed piece final = (.ok s, { d with held := part }) := by
  obtain ⟨name, hfeed⟩ := feed_eq_plainly hc hmark piece final
  rw [hfeed, plainly, h, run_body name hs hpart]
  rfl

/-- A first piece that begins with a mark is read in the order that the mark tells. -/
theorem feed_marked (rest : Bytes) (final : Bool) :
    (start (.utf16 none)).feed (Codec.mark (.utf16 none) ++ rest) final =
      match (run "utf-16-le" (fun _ => Codec.scan (.utf16 none) final) () 0 2 [] rest).1 with
      | .ok (s, held) => (.ok s, { start (.utf16 none) with held := held, order := some .little })
      | .error f => (.error f, start (.utf16 none)) := rfl

/-- **Whole.** The written form of a text in one piece gives the text. -/
theorem feed_written {c : Codec} (hc : c ∈ Codec.pointwise) (hs : c.Writes s) :
    ((start c).feed (c.written s) true).1 = .ok s := by
  have hnone : c.Held true [] := .inl rfl
  by_cases hmark : c.mark = []
  · have hwritten : (start c).held ++ c.written s = c.body s ++ [] := by
      rw [Codec.written, hmark, List.append_nil]
      rfl
    rw [feed_body (d := start c) hc hmark hs hnone hwritten]
  · obtain rfl : c = .utf16 none := by
      simp only [Codec.pointwise, List.mem_cons, List.not_mem_nil, or_false] at hc
      rcases hc with rfl | rfl | rfl | rfl | rfl | rfl
      case inr.inl => rfl
      all_goals exact absurd rfl hmark
    have hrun := run_body "utf-16-le" hs hnone 2 []
    rw [List.append_nil] at hrun
    rw [Codec.written, feed_marked, hrun]
    rfl

end Decoder

/-- Texts with the same written form are the same. -/
theorem Codec.written_inj {c : Codec} (hc : c ∈ pointwise) {s t : List Point} (hs : c.Writes s)
    (ht : c.Writes t) (h : c.written s = c.written t) : s = t := by
  have hread := Decoder.feed_written hc hs
  rw [h, Decoder.feed_written hc ht] at hread
  exact (Except.ok.inj hread).symm

end Encoding

end FileDepot
