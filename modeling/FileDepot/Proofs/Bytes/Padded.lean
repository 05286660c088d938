import FileDepot.Proofs.Bytes.Base64

/-!
# Which texts are base 64

A text is read exactly if it is digits and then padding that fills up the last group (`IsPadded`): two
characters of padding behind two digits, one behind three. Behind a group that is full, any more padding is
passed over, but it must not stand alone.

* **digits** — `decodeFrom_digits` reads them, whatever follows;
* **padding** — `isOk_pads_iff` says which padding may end a text;
* **stop** — `decodeFrom_stops`: no other character, and no digit behind padding, is read;
* **read** — `isOk_decode_iff` puts them together.
-/

namespace FileDepot.Bytes.Base64

/-- Whether a character is one of the 64 of the alphabet. -/
def IsDigit (c : Char) : Prop := c.isAlphanum = true ∨ c = '+' ∨ c = '/'

instance (c : Char) : Decidable (IsDigit c) := by
  unfold IsDigit
  infer_instance

/-- Whether padding of `k` characters fills up the last group of `n` digits. -/
def Fills (n k : Nat) : Prop :=
  (n % 4 = 0 ∧ (n = 0 → k = 0)) ∨ (n % 4 = 2 ∧ k = 2) ∨ (n % 4 = 3 ∧ k = 1)

/-- Whether a text is digits and the padding that they need. -/
def IsPadded (s : List Char) : Prop :=
  ∃ digits k, s = digits ++ List.replicate k '=' ∧ (∀ c ∈ digits, IsDigit c) ∧ Fills digits.length k

variable {c : Char} {s digits : List Char} {k place left pads : Nat} {padded : Bool} {out : Bytes}

/-! ## Characters -/

theorem isAlphanum_iff (c : Char) : c.isAlphanum = true ↔
    (65 ≤ c.toNat ∧ c.toNat ≤ 90) ∨ (97 ≤ c.toNat ∧ c.toNat ≤ 122) ∨ (48 ≤ c.toNat ∧ c.toNat ≤ 57) := by
  change (decide (65 ≤ c.val ∧ c.val ≤ 90) || decide (97 ≤ c.val) && decide (c.val ≤ 122) ||
    decide (48 ≤ c.val) && decide (c.val ≤ 57)) = true ↔ _
  simp only [Bool.or_eq_true, Bool.and_eq_true, decide_eq_true_eq, UInt32.le_iff_toNat_le, or_assoc]
  rfl

theorem not_isDigit_pad : ¬ IsDigit '=' := by decide

/-- The alphabet has ASCII characters only. -/
theorem toNat_lt_of_isDigit (h : IsDigit c) : c.toNat < 128 := by
  rcases h with h | rfl | rfl
  · have := (isAlphanum_iff c).mp h
    omega
  · decide
  · decide

/-- A character of the alphabet is the digit of its value. -/
theorem exists_digit (h : IsDigit c) : ∃ n < 64, c = digit n := by
  have hall : ∀ m < 128, IsDigit (Char.ofNat m) → ∃ n < 64, Char.ofNat m = digit n := by
    decide +kernel
  have hc := hall c.toNat (toNat_lt_of_isDigit h)
  rw [Char.ofNat_toNat] at hc
  exact hc h

/-- No other character has a value. -/
theorem value?_of_not_isDigit (h : ¬ IsDigit c) : value? c = none := by
  simp only [IsDigit, isAlphanum_iff, not_or] at h
  obtain ⟨⟨hupper, hlower, hdecimal⟩, hplus, hslash⟩ := h
  simp only [value?, hplus, hslash, if_false, Bool.and_eq_true, decide_eq_true_eq]
  rw [if_neg (by omega), if_neg (by omega), if_neg (by omega)]

/-! ## Digits -/

/-- **Digits.** Digits are read one after the other, whatever follows, and the group under way is where their
number leads. -/
theorem decodeFrom_digits (h : ∀ c ∈ digits, IsDigit c) (hplace : place < 4) (left : Nat) (out : Bytes)
    (rest : List Char) : ∃ left' out', decodeFrom ⟨place, left, 0, false⟩ out (digits ++ rest) =
      decodeFrom ⟨(place + digits.length) % 4, left', 0, false⟩ out' rest := by
  induction digits generalizing place left out with
  | nil => exact ⟨left, out, by rw [List.length_nil, Nat.add_zero, Nat.mod_eq_of_lt hplace]; rfl⟩
  | cons c digits ih =>
    obtain ⟨n, hn, rfl⟩ := exists_digit (h c (List.mem_cons_self ..))
    -- the next digit is read in the place after this one
    have hnext (next : Nat) (hlt : next < 4) (heq : next = (place + 1) % 4) (left : Nat) (out : Bytes) :
        ∃ left' out', decodeFrom ⟨next, left, 0, false⟩ out (digits ++ rest) =
          decodeFrom ⟨(place + (digits.length + 1)) % 4, left', 0, false⟩ out' rest := by
      obtain ⟨left', out', hread⟩ := ih (fun d hd => h d (List.mem_cons_of_mem _ hd)) hlt left out
      refine ⟨left', out', ?_⟩
      rw [hread, show (next + digits.length) % 4 = (place + (digits.length + 1)) % 4 by omega]
    rw [List.cons_append, decodeFrom_digit hn, List.length_cons]
    obtain rfl | rfl | rfl | rfl : place = 0 ∨ place = 1 ∨ place = 2 ∨ place = 3 := by omega
    · exact hnext 1 (by omega) rfl _ _
    · exact hnext 2 (by omega) rfl _ _
    · exact hnext 3 (by omega) rfl _ _
    · exact hnext 0 (by omega) rfl _ _

/-! ## Padding -/

/-- Padding behind fewer than two digits of a group is passed over. -/
theorem decodeFrom_pad_early (h : place < 2) (left pads : Nat) (padded : Bool) (out : Bytes)
    (rest : List Char) : decodeFrom ⟨place, left, pads, padded⟩ out ('=' :: rest) =
      decodeFrom ⟨place, left, pads, true⟩ out rest := by
  rw [decodeFrom, if_pos rfl, if_neg (by simpa using h)]

/-- So is any number of it. -/
theorem decodeFrom_pads_early (h : place < 2) (k left pads : Nat) (padded : Bool) (out : Bytes) :
    ∃ padded', decodeFrom ⟨place, left, pads, padded⟩ out (List.replicate k '=') =
      decodeFrom ⟨place, left, pads, padded'⟩ out [] := by
  induction k generalizing padded with
  | zero => exact ⟨padded, rfl⟩
  | succ k ih =>
    rw [List.replicate_succ, decodeFrom_pad_early h]
    exact ih true

/-- **Padding.** Padding may end a text behind a full group, or where it fills up the group. -/
theorem isOk_pads_iff (h : place < 4) (left : Nat) (out : Bytes) (k : Nat) :
    (∃ data, decodeFrom ⟨place, left, 0, false⟩ out (List.replicate k '=') = .ok data) ↔
      place = 0 ∨ (place = 2 ∧ k = 2) ∨ (place = 3 ∧ k = 1) := by
  obtain rfl | rfl | rfl | rfl : place = 0 ∨ place = 1 ∨ place = 2 ∨ place = 3 := by omega
  · obtain ⟨padded, hread⟩ := decodeFrom_pads_early (show 0 < 2 by omega) k left 0 false out
    simp [hread, decodeFrom]
  · obtain ⟨padded, hread⟩ := decodeFrom_pads_early (show 1 < 2 by omega) k left 0 false out
    simp [hread, decodeFrom]
  · rcases k with _ | _ | _ | k <;> simp [decodeFrom, List.replicate_succ]
  · rcases k with _ | _ | k <;> simp [decodeFrom, List.replicate_succ]

/-! ## Anything else -/

/-- **Stop.** Behind any padding, a character that is not in the alphabet is refused, and so is one of the
alphabet once there was padding. -/
theorem decodeFrom_stops (hc : c ≠ '=') (h : ¬ IsDigit c ∨ padded = true ∨ 0 < k) (place left pads : Nat)
    (out : Bytes) (rest : List Char) :
    ∃ e, decodeFrom ⟨place, left, pads, padded⟩ out (List.replicate k '=' ++ c :: rest) = .error e := by
  induction k generalizing pads padded with
  | zero =>
    rw [List.replicate_zero, List.nil_append, decodeFrom, if_neg hc]
    by_cases hdigit : IsDigit c
    · obtain ⟨n, hn, rfl⟩ := exists_digit hdigit
      have hpadded : padded = true := by
        rcases h with h | h | h
        · exact absurd hdigit h
        · exact h
        · omega
      rw [value?_digit hn, hpadded]
      exact ⟨_, rfl⟩
    · rw [value?_of_not_isDigit hdigit]
      exact ⟨_, rfl⟩
  | succ k ih =>
    have hpadded : ¬ IsDigit c ∨ true = true ∨ 0 < k := .inr (.inl rfl)
    rw [List.replicate_succ, List.cons_append, decodeFrom, if_pos rfl]
    split
    · split
      · rw [if_neg (by simp)]
        exact ⟨_, rfl⟩
      · exact ih hpadded _
    · exact ih hpadded _

/-- A text is digits, then padding, and then something that can follow neither. -/
theorem exists_split (s : List Char) : ∃ digits k rest, s = digits ++ (List.replicate k '=' ++ rest) ∧
    (∀ c ∈ digits, IsDigit c) ∧
    (rest = [] ∨ ∃ c more, rest = c :: more ∧ c ≠ '=' ∧ (¬ IsDigit c ∨ 0 < k)) := by
  have hnone : ∀ c ∈ [], IsDigit c := List.forall_mem_nil _
  induction s with
  | nil => exact ⟨[], 0, [], rfl, hnone, .inl rfl⟩
  | cons c s ih =>
    obtain ⟨digits, k, rest, rfl, hdigits, hrest⟩ := ih
    by_cases hdigit : IsDigit c
    · refine ⟨c :: digits, k, rest, rfl, fun d hd => ?_, hrest⟩
      exact (List.mem_cons.mp hd).elim (fun h => h ▸ hdigit) (hdigits d)
    · by_cases hpad : c = '='
      · subst hpad
        cases digits with
        | nil =>
          refine ⟨[], k + 1, rest, rfl, hnone, hrest.imp_right ?_⟩
          rintro ⟨d, more, hmore, hd, -⟩
          exact ⟨d, more, hmore, hd, .inr (Nat.succ_pos k)⟩
        | cons d digits =>
          have hd : d ≠ '=' := by
            rintro rfl
            exact not_isDigit_pad (hdigits '=' (List.mem_cons_self ..))
          exact ⟨[], 1, _, rfl, hnone, .inr ⟨d, _, rfl, hd, .inr Nat.one_pos⟩⟩
      · exact ⟨[], 0, _, rfl, hnone, .inr ⟨c, _, rfl, hpad, .inl hdigit⟩⟩

/-- **Read.** A text is read exactly if it is digits and the padding that they need. -/
theorem isOk_decode_iff (s : List Char) : (∃ data, decode s = .ok data) ↔ IsPadded s := by
  constructor
  · rintro ⟨data, hread⟩
    obtain ⟨digits, k, rest, rfl, hdigits, hrest⟩ := exists_split s
    rw [decode] at hread
    split at hread
    · cases hread
    · rename_i hhead
      obtain ⟨left, out, hstart⟩ := decodeFrom_digits hdigits (show 0 < 4 by omega) 0 []
        (List.replicate k '=' ++ rest)
      rw [hstart, Nat.zero_add] at hread
      rcases hrest with rfl | ⟨c, more, rfl, hc, hstop⟩
      · rw [List.append_nil] at hread hhead ⊢
        have hlt : digits.length % 4 < 4 := Nat.mod_lt _ (by omega)
        refine ⟨digits, k, rfl, hdigits, ?_⟩
        rcases (isOk_pads_iff hlt left out k).mp ⟨data, hread⟩ with hfull | hfills
        · refine .inl ⟨hfull, fun hempty => ?_⟩
          -- padding alone is refused
          rw [List.length_eq_zero_iff.mp hempty, List.nil_append] at hhead
          cases k with
          | zero => rfl
          | succ k => exact absurd rfl hhead
        · exact .inr hfills
      · have hends : ¬ IsDigit c ∨ false = true ∨ 0 < k := hstop.imp_right .inr
        obtain ⟨e, herror⟩ := decodeFrom_stops hc hends (digits.length % 4) left 0 out more
        rw [herror] at hread
        cases hread
  · rintro ⟨digits, k, rfl, hdigits, hfills⟩
    have hhead : (digits ++ List.replicate k '=').head? ≠ some '=' := by
      cases digits with
      | nil =>
        have hk : k = 0 := by
          rcases hfills with ⟨-, h⟩ | ⟨h, -⟩ | ⟨h, -⟩
          · exact h rfl
          · cases h
          · cases h
        rw [hk]
        decide
      | cons d digits =>
        intro h
        obtain rfl : d = '=' := Option.some.inj h
        exact not_isDigit_pad (hdigits '=' (List.mem_cons_self ..))
    obtain ⟨left, out, hstart⟩ := decodeFrom_digits hdigits (show 0 < 4 by omega) 0 []
      (List.replicate k '=')
    rw [decode, if_neg hhead, hstart, Nat.zero_add]
    exact (isOk_pads_iff (Nat.mod_lt _ (by omega)) left out k).mpr (hfills.imp_left And.left)

/-! ## What a padded text holds -/

namespace IsPadded

/-- Digits and padding. -/
theorem plain (h : IsPadded s) : ∀ c ∈ s, IsDigit c ∨ c = '=' := by
  obtain ⟨digits, k, rfl, hdigits, -⟩ := h
  intro c hc
  rcases List.mem_append.mp hc with hc | hc
  · exact .inl (hdigits c hc)
  · exact .inr (List.eq_of_mem_replicate hc)

/-- Behind padding, only padding. -/
theorem after_pad {before after : List Char} (h : IsPadded (before ++ '=' :: after)) :
    ∀ c ∈ after, c = '=' := by
  obtain ⟨digits, k, hs, hdigits, -⟩ := h
  intro c hc
  rcases List.append_eq_append_iff.mp hs with ⟨more, rfl, hmore⟩ | ⟨more, -, hmore⟩
  · cases more with
    | nil =>
      rw [List.nil_append] at hmore
      exact List.eq_of_mem_replicate (hmore ▸ List.mem_cons_of_mem _ hc)
    | cons d more =>
      obtain ⟨rfl, -⟩ := List.cons.inj hmore
      exact absurd (hdigits '=' (by simp)) not_isDigit_pad
  · refine List.eq_of_mem_replicate (n := k) (hmore ▸ ?_)
    exact List.mem_append_right _ (List.mem_cons_of_mem _ hc)

end IsPadded

end FileDepot.Bytes.Base64
