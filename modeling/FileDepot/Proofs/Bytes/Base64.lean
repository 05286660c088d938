import FileDepot.Bytes.Base64

/-!
# Bytes in base 64 and back

Three bytes are four digits, and reading four digits completes three bytes (`decodeFrom_first` and what
follows it). So reading what was written gives the bytes back (`decode_encode`).
-/

namespace FileDepot.Bytes.Base64

/-! ## Digits -/

/-- Digits are read back as the values that they were written for. -/
theorem value?_digit {n : Nat} (h : n < 64) : value? (digit n) = some n := by
  have hall : ∀ n < 64, value? (digit n) = some n := by decide +kernel
  exact hall n h

theorem digit_ne_pad {n : Nat} (h : n < 64) : digit n ≠ '=' := by
  have hall : ∀ n < 64, digit n ≠ '=' := by decide +kernel
  exact hall n h

theorem toNat_digit_lt {n : Nat} (h : n < 64) : (digit n).toNat < 128 := by
  have hall : ∀ n < 64, (digit n).toNat < 128 := by decide +kernel
  exact hall n h

/-! ## Reading -/

/-- A digit is taken into the group under way, as long as there was no padding. -/
theorem decodeFrom_digit {n : Nat} (h : n < 64) (place left pads : Nat) (out : Bytes)
    (rest : List Char) :
    decodeFrom ⟨place, left, pads, false⟩ out (digit n :: rest) =
      match Group.take ⟨place, left, pads, false⟩ n with
      | (g, some b) => decodeFrom g (b :: out) rest
      | (g, none) => decodeFrom g out rest := by
  rw [decodeFrom, if_neg (digit_ne_pad h), value?_digit h]
  rfl

/-- Padding that fills up the last group ends the text. -/
theorem decodeFrom_pads (left : Nat) (out : Bytes) :
    decodeFrom ⟨2, left, 0, false⟩ out ['=', '='] = .ok out.reverse ∧
      decodeFrom ⟨3, left, 0, false⟩ out ['='] = .ok out.reverse := by
  constructor <;> simp [decodeFrom]

/-- A byte is the number that its bits spell. -/
theorem ofNat_eq {a : UInt8} {n : Nat} (h : n = a.toNat) : UInt8.ofNat n = a := by
  rw [h, UInt8.ofNat_toNat]

/-- The first digit of a group completes no byte. The second one completes the first byte. -/
theorem decodeFrom_first {m n : Nat} {a : UInt8} (hm : m < 64) (hn : n < 64)
    (ha : m * 4 + n / 16 = a.toNat) (out : Bytes) (rest : List Char) :
    decodeFrom ⟨0, 0, 0, false⟩ out (digit m :: digit n :: rest) =
      decodeFrom ⟨2, n % 16, 0, false⟩ (a :: out) rest := by
  simp only [decodeFrom_digit hm, decodeFrom_digit hn, Group.take, ofNat_eq ha]

/-- The third digit completes the second byte. -/
theorem decodeFrom_second {left n : Nat} {b : UInt8} (hn : n < 64)
    (hb : left * 16 + n / 4 = b.toNat) (out : Bytes) (rest : List Char) :
    decodeFrom ⟨2, left, 0, false⟩ out (digit n :: rest) =
      decodeFrom ⟨3, n % 4, 0, false⟩ (b :: out) rest := by
  simp only [decodeFrom_digit hn, Group.take, ofNat_eq hb]

/-- The fourth digit completes the third byte, and with it the group. -/
theorem decodeFrom_third {left n : Nat} {c : UInt8} (hn : n < 64)
    (hc : left * 64 + n = c.toNat) (out : Bytes) (rest : List Char) :
    decodeFrom ⟨3, left, 0, false⟩ out (digit n :: rest) =
      decodeFrom ⟨0, 0, 0, false⟩ (c :: out) rest := by
  simp only [decodeFrom_digit hn, Group.take, ofNat_eq hc]

/-- **Read.** What was written for some bytes is read back, behind what was read before. -/
theorem decodeFrom_encodeChars (data out : Bytes) :
    decodeFrom ⟨0, 0, 0, false⟩ out (encodeChars data) = .ok (out.reverse ++ data) := by
  -- three bytes at a time, as they are written
  induction data using encodeChars.induct generalizing out with
  | case1 a b c rest ih =>
    have ha := a.toNat_lt
    have hb := b.toNat_lt
    have hc := c.toNat_lt
    rw [encodeChars, decodeFrom_first (a := a) (by omega) (by omega) (by omega),
      decodeFrom_second (b := b) (by omega) (by omega),
      decodeFrom_third (c := c) (by omega) (by omega), ih]
    simp
  | case2 a b =>
    have ha := a.toNat_lt
    have hb := b.toNat_lt
    rw [encodeChars, decodeFrom_first (a := a) (by omega) (by omega) (by omega),
      decodeFrom_second (b := b) (by omega) (by omega), (decodeFrom_pads _ _).2]
    simp
  | case3 a =>
    have ha := a.toNat_lt
    rw [encodeChars, decodeFrom_first (a := a) (by omega) (by omega) (by omega),
      (decodeFrom_pads _ _).1]
    simp
  | case4 =>
    rw [encodeChars]
    simp [decodeFrom]

/-! ## Written text -/

/-- What is written begins with a digit, if there are bytes, and consists of ASCII characters. -/
theorem encodeChars_plain (data : Bytes) :
    (encodeChars data).head? ≠ some '=' ∧ ∀ c ∈ encodeChars data, c.toNat < 128 := by
  have hpad : '='.toNat < 128 := by decide
  induction data using encodeChars.induct with
  | case1 a b c rest ih =>
    have ha := a.toNat_lt
    have hb := b.toNat_lt
    have hc := c.toNat_lt
    rw [encodeChars]
    refine ⟨by simpa using digit_ne_pad (by omega), ?_⟩
    simp only [List.forall_mem_cons]
    exact ⟨toNat_digit_lt (by omega), toNat_digit_lt (by omega), toNat_digit_lt (by omega),
      toNat_digit_lt (by omega), ih.2⟩
  | case2 a b =>
    have ha := a.toNat_lt
    have hb := b.toNat_lt
    rw [encodeChars]
    refine ⟨by simpa using digit_ne_pad (by omega), ?_⟩
    simp only [List.forall_mem_cons]
    exact ⟨toNat_digit_lt (by omega), toNat_digit_lt (by omega), toNat_digit_lt (by omega), hpad,
      fun c hc => by cases hc⟩
  | case3 a =>
    have ha := a.toNat_lt
    rw [encodeChars]
    refine ⟨by simpa using digit_ne_pad (by omega), ?_⟩
    simp only [List.forall_mem_cons]
    exact ⟨toNat_digit_lt (by omega), toNat_digit_lt (by omega), hpad, hpad, fun c hc => by cases hc⟩
  | case4 =>
    rw [encodeChars]
    simp

/-- **Bytes come back.** Reading what was written for some bytes gives these bytes. -/
theorem decode_encode (data : Bytes) : decode (encode data).toList = .ok data := by
  rw [encode, String.toList_ofList, decode, if_neg (encodeChars_plain data).1,
    decodeFrom_encodeChars]
  rfl

end FileDepot.Bytes.Base64
