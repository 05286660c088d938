import FileDepot.Proofs.Bytes.Padded
import FileDepot.Proofs.Operation
import FileDepot.Store.Memory
import FileDepot.Tools

/-!
# Bytes that are saved in base 64

A client gives the bytes that are to be saved in base 64. What was written for some bytes stands for them
(`payload_blob`). A text that is not base 64 is refused, if it has ASCII characters only (`payload_ascii`);
any other text is trouble of another kind (`payload_beyond_ascii`). Neither reaches the store.
-/

namespace FileDepot

open Bytes

variable {σ η : Type} {s : List Point}

/-- Whether a code point is a digit of base 64. -/
def Point.IsDigit (p : Point) : Prop := ∃ c, p = .char c ∧ Base64.IsDigit c

/-- Whether a text of code points is digits of base 64 and the padding that they need. -/
def IsBlob (s : List Point) : Prop := ∃ chars, s = chars.map .char ∧ Base64.IsPadded chars

theorem toNat_lt_of_isBlob (h : IsBlob s) : ∀ p ∈ s, p.toNat < 128 := by
  obtain ⟨chars, rfl, hpadded⟩ := h
  intro p hp
  obtain ⟨c, hc, rfl⟩ := List.mem_map.mp hp
  rcases hpadded.plain c hc with hdigit | rfl
  · exact Base64.toNat_lt_of_isDigit hdigit
  · decide

/-- Code points below 128 are characters. -/
theorem exists_chars (h : ∀ p ∈ s, p.toNat < 128) : ∃ chars : List Char, s = chars.map .char := by
  induction s with
  | nil => exact ⟨[], rfl⟩
  | cons p rest ih =>
    obtain ⟨chars, rfl⟩ := ih fun q hq => h q (List.mem_cons_of_mem _ hq)
    cases p with
    | char c => exact ⟨c :: chars, rfl⟩
    | surrogate place =>
      have := h _ (List.mem_cons_self ..)
      rw [Point.toNat] at this
      omega

/-! ## Payloads -/

/-- What is made of a text by which bytes are to be saved. -/
theorem payload_eq (s : List Point) : (Tools.payload s (some "blob") : Except Fault (Payload σ)) =
    if s.any fun p => 128 ≤ p.toNat then .error (.value .notAscii)
    else match Base64.decode (s.filterMap Point.char?) with
      | .ok data => .ok (.binary (.bytes data))
      | .error e => .error (.refused (.base64 e)) := by
  have hblob : Text.lower (Text.strip "blob") = "blob" := by decide +kernel
  have hclob : Text.lower (Text.strip "blob") ≠ "clob" := by rw [hblob]; decide
  have hxml : Text.lower (Text.strip "blob") ≠ "xml" := by rw [hblob]; decide
  rw [Tools.payload]
  refine (if_neg hclob).trans ?_
  refine (if_neg hxml).trans ?_
  exact if_pos hblob

/-- A text of ASCII characters is read as base 64, or refused. -/
theorem payload_ascii {chars : List Char} (h : ∀ c ∈ chars, c.toNat < 128) :
    (Tools.payload (chars.map .char) (some "blob") : Except Fault (Payload σ)) =
      match Base64.decode chars with
      | .ok data => .ok (.binary (.bytes data))
      | .error e => .error (.refused (.base64 e)) := by
  have hplain : ((chars.map Point.char).any fun p => decide (128 ≤ p.toNat)) = false := by
    rw [List.any_eq_false]
    intro p hp
    obtain ⟨c, hc, rfl⟩ := List.mem_map.mp hp
    exact fun hlarge => absurd (of_decide_eq_true hlarge) (Nat.not_le.mpr (h c hc))
  have hchars : (chars.map Point.char).filterMap Point.char? = chars := by
    rw [List.filterMap_map]
    exact List.filterMap_some
  rw [payload_eq, hplain, hchars, if_neg Bool.false_ne_true]

/-- A text with any other character is not read at all. -/
theorem payload_beyond_ascii (h : ∃ p ∈ s, 128 ≤ p.toNat) :
    (Tools.payload s (some "blob") : Except Fault (Payload σ)) = .error (.value .notAscii) := by
  have hany : (s.any fun p => decide (128 ≤ p.toNat)) = true := by
    obtain ⟨p, hp, hlarge⟩ := h
    exact List.any_eq_true.mpr ⟨p, hp, decide_eq_true hlarge⟩
  rw [payload_eq, if_pos hany]

/-- What is written for some bytes in base 64 is read as these bytes. -/
theorem payload_blob (data : Bytes) :
    (Tools.payload (Point.ofString (Base64.encode data)) (some "blob") : Except Fault (Payload σ)) =
      .ok (.binary (.bytes data)) := by
  have hascii : ∀ c ∈ (Base64.encode data).toList, c.toNat < 128 := by
    rw [Base64.encode, String.toList_ofList]
    exact (Base64.encodeChars_plain data).2
  rw [Point.ofString, payload_ascii hascii, Base64.decode_encode]

/-- Contents that are not understood are not saved, and nothing happens. -/
theorem saveFile_of_payload_error (a : Adapter σ η) (path : Option String) {contentType : Option String}
    {f : Fault} (h : (Tools.payload s contentType : Except Fault (Payload σ)) = .error f) (w : World σ) :
    (Tools.saveFile a path (some s) contentType).exec w = (.error f, w) := by
  simp only [Tools.saveFile, Op.bind_exec, Op.ofExcept_exec, h]

/-- A text that is not base 64 stands for no bytes; whether it is refused as a request that makes no sense
depends on whether it has ASCII characters only. -/
theorem payload_not_blob (h : ¬ IsBlob s) :
    ∃ f, (Tools.payload s (some "blob") : Except Fault (Payload σ)) = .error f ∧
      (f.family = .invalidRequest ∧ (∀ p ∈ s, p.toNat < 128) ∨
        f = .value .notAscii ∧ ∃ p ∈ s, 128 ≤ p.toNat) := by
  by_cases hascii : ∀ p ∈ s, p.toNat < 128
  · obtain ⟨chars, rfl⟩ := exists_chars hascii
    have hread := payload_ascii (σ := σ) fun c hc => hascii _ (List.mem_map_of_mem hc)
    cases hdecode : Base64.decode chars with
    | ok data => exact absurd ⟨chars, rfl, (Base64.isOk_decode_iff chars).mp ⟨data, hdecode⟩⟩ h
    | error e =>
      rw [hdecode] at hread
      exact ⟨_, hread, .inl ⟨rfl, hascii⟩⟩
  · have hlarge : ∃ p ∈ s, 128 ≤ p.toNat := by simpa using hascii
    exact ⟨_, payload_beyond_ascii hlarge, .inr ⟨rfl, hlarge⟩⟩

/-! ## What is no base 64 -/

/-- Every code point of base 64 is a digit or padding. -/
theorem not_isBlob_of_foreign {p : Point} (hp : p ∈ s) (hdigit : ¬ p.IsDigit) (hpad : p ≠ .char '=') :
    ¬ IsBlob s := by
  rintro ⟨chars, rfl, hpadded⟩
  obtain ⟨c, hc, rfl⟩ := List.mem_map.mp hp
  rcases hpadded.plain c hc with hc | rfl
  · exact hdigit ⟨c, rfl, hc⟩
  · exact hpad rfl

/-- No digit comes behind padding. -/
theorem not_isBlob_of_pad {before after : List Point} {p : Point} (hp : p ∈ after) (hdigit : p.IsDigit) :
    ¬ IsBlob (before ++ .char '=' :: after) := by
  rintro ⟨chars, hs, hpadded⟩
  obtain ⟨front, back, rfl, rfl, hback⟩ := List.map_eq_append_iff.mp hs.symm
  obtain ⟨d, back, rfl, hd, rfl⟩ := List.map_eq_cons_iff.mp hback
  obtain rfl := Point.char.inj hd
  obtain ⟨c, hc, rfl⟩ := List.mem_map.mp hp
  obtain ⟨d, hd, hdigit⟩ := hdigit
  obtain rfl := Point.char.inj hd
  exact Base64.not_isDigit_pad (hpadded.after_pad c hc ▸ hdigit)

/-- **Blobs.** What is written for some bytes in base 64 stands for exactly these bytes, and a text stands for
bytes exactly if it is digits of base 64 and the padding that they need; so it does not if it has any other
code point, or a digit behind padding. A text that stands for no bytes is not saved, and the store stays as it
is, whatever the store is. It is refused as a request that makes no sense exactly if it has ASCII characters
only, and with any other character it is told as a value of no use. -/
theorem blobs_taken_or_refused (a : Adapter σ η) (path : Option String) (w : World σ) :
    (∀ data, (Tools.payload (Point.ofString (Base64.encode data)) (some "blob") :
      Except Fault (Payload σ)) = .ok (.binary (.bytes data))) ∧
    ∀ s : List Point,
      ((∃ data, (Tools.payload s (some "blob") : Except Fault (Payload σ)) =
        .ok (.binary (.bytes data))) ↔ IsBlob s) ∧
      ((∃ p ∈ s, ¬ p.IsDigit ∧ p ≠ .char '=') ∨
        (∃ before after, s = before ++ .char '=' :: after ∧ ∃ p ∈ after, p.IsDigit) → ¬ IsBlob s) ∧
      (¬ IsBlob s → ∃ f, (Tools.payload s (some "blob") : Except Fault (Payload σ)) = .error f ∧
        (Tools.saveFile a path (some s) (some "blob")).exec w = (.error f, w) ∧
        (f.family = .invalidRequest ∧ (∀ p ∈ s, p.toNat < 128) ∨
          f = .value .notAscii ∧ ∃ p ∈ s, 128 ≤ p.toNat)) := by
  refine ⟨payload_blob, fun s => ⟨⟨?_, ?_⟩, ?_, fun h => ?_⟩⟩
  · rintro ⟨data, hread⟩
    by_cases h : IsBlob s
    · exact h
    · obtain ⟨f, herror, -⟩ := payload_not_blob (σ := σ) h
      rw [herror] at hread
      cases hread
  · intro h
    have hascii := toNat_lt_of_isBlob h
    obtain ⟨chars, rfl, hpadded⟩ := h
    obtain ⟨data, hdecode⟩ := (Base64.isOk_decode_iff chars).mpr hpadded
    refine ⟨data, ?_⟩
    rw [payload_ascii fun c hc => hascii _ (List.mem_map_of_mem hc), hdecode]
  · rintro (⟨p, hp, hdigit, hpad⟩ | ⟨before, after, rfl, p, hp, hdigit⟩)
    · exact not_isBlob_of_foreign hp hdigit hpad
    · exact not_isBlob_of_pad hp hdigit
  · obtain ⟨f, hread, hkind⟩ := payload_not_blob (σ := σ) h
    exact ⟨f, hread, saveFile_of_payload_error a path hread w, hkind⟩

/-- Two bytes are taken from three digits and one character of padding, and refused with a digit behind it. -/
theorem blobs_taken_or_refused_padded :
    let a : Adapter Memory (String × MemoryFile) := ⟨Memory.store, ⟨.utf8, true⟩⟩
    let w : World Memory := .fresh (.empty fun n => ⟨n⟩)
    (Tools.payload (Point.ofString "AP8=") (some "blob") : Except Fault (Payload Memory)) =
        .ok (.binary (.bytes [0, 255])) ∧
      ¬ IsBlob (Point.ofString "AP8=A") ∧
      ∃ f, (Tools.saveFile a (some "a") (some (Point.ofString "AP8=A")) (some "blob")).exec w =
        (.error f, w) ∧ f.family = .invalidRequest := by
  intro a w
  have hencoded : Base64.encode [0, 255] = "AP8=" := by decide +kernel
  obtain ⟨htaken, hrefused⟩ := blobs_taken_or_refused a (some "a") w
  obtain ⟨-, hforeign, hnot⟩ := hrefused (Point.ofString "AP8=A")
  have hpad : Point.ofString "AP8=A" = Point.ofString "AP8" ++ .char '=' :: [.char 'A'] := by
    decide +kernel
  have hblob : ¬ IsBlob (Point.ofString "AP8=A") :=
    hforeign (.inr ⟨_, _, hpad, .char 'A', List.mem_singleton_self _, 'A', rfl, by decide⟩)
  obtain ⟨f, -, hsave, hkind⟩ := hnot hblob
  have hascii : ¬ ∃ p ∈ Point.ofString "AP8=A", 128 ≤ p.toNat := by decide +kernel
  refine ⟨hencoded ▸ htaken [0, 255], hblob, f, hsave, ?_⟩
  exact hkind.elim And.left fun h => absurd h.2 hascii

/-- A letter with an accent is no digit, and it is not refused as a request that makes no sense. -/
theorem accented_blob_not_refused :
    let s : List Point := [.char 'é']
    (∃ p ∈ s, ¬ p.IsDigit ∧ p ≠ .char '=') ∧
      (Tools.payload s (some "blob") : Except Fault (Payload Memory)) = .error (.value .notAscii) ∧
      (Fault.value .notAscii).family ≠ .invalidRequest ∧ (Fault.value .notAscii).isOwn = false := by
  intro s
  refine ⟨⟨.char 'é', List.mem_singleton_self _, ?_, by decide⟩, ?_, by decide, by decide⟩
  · rintro ⟨c, hc, hdigit⟩
    obtain rfl := Point.char.inj hc
    exact absurd hdigit (by decide)
  · exact payload_beyond_ascii ⟨_, List.mem_singleton_self _, by decide⟩

end FileDepot
