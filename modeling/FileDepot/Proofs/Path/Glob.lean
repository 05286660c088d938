import FileDepot.Path.Glob
import FileDepot.Proofs.Path.Segments

/-!
# What a glob covers

`Covers` says which lists of segments a glob stands for: `**` for any number of segments, any other
segment for exactly one that it matches. The matching in use decides it (`matchSegments_iff`), although
it tries the ends of a list one after the other. A segment without a wildcard matches itself only
(`matchToken_iff_of_literal`), so that such segments at the front of a glob fix the front of what it
covers (`covers_append_iff`).
-/

namespace FileDepot.Path.Glob

open FileDepot.Text

theorem mem_suffixes {α : Type} {s t : List α} : t ∈ suffixes s ↔ t <:+ s := by
  induction s with
  | nil => simp [suffixes]
  | cons x s ih => rw [suffixes, List.mem_cons, ih, List.suffix_cons_iff]

/-! ## Segments -/

/-- The lists of segments that a glob stands for. -/
inductive Covers : List String → List String → Prop where
  /-- nothing stands for nothing -/
  | nil : Covers [] []
  /-- two stars stand for any number of segments -/
  | stars {g s t : List String} (hts : t <:+ s) (h : Covers g t) : Covers ("**" :: g) s
  /-- any other segment stands for one that it matches -/
  | token {t x : String} {g s : List String} (ht : t ≠ "**") (hx : matchToken t x = true)
      (h : Covers g s) : Covers (t :: g) (x :: s)

theorem covers_nil_iff {s : List String} : Covers [] s ↔ s = [] :=
  ⟨fun h => by cases h; rfl, fun h => h ▸ .nil⟩

theorem covers_stars_iff {g s : List String} :
    Covers ("**" :: g) s ↔ ∃ t, t <:+ s ∧ Covers g t := by
  constructor
  · intro h
    cases h with
    | stars hts h => exact ⟨_, hts, h⟩
    | token ht hx h => exact absurd rfl ht
  · rintro ⟨t, hts, h⟩
    exact .stars hts h

theorem covers_token_iff {t : String} {g s : List String} (ht : t ≠ "**") :
    Covers (t :: g) s ↔ ∃ x rest, s = x :: rest ∧ matchToken t x = true ∧ Covers g rest := by
  constructor
  · intro h
    cases h with
    | stars hts h => exact absurd rfl ht
    | token _ hx h => exact ⟨_, _, rfl, hx, h⟩
  · rintro ⟨x, rest, rfl, hx, h⟩
    exact .token ht hx h

/-- The matching of globs decides what they cover. -/
theorem matchSegments_iff (g s : List String) : matchSegments g s = true ↔ Covers g s := by
  induction g generalizing s with
  | nil => simp [matchSegments, covers_nil_iff]
  | cons t g ih =>
    by_cases ht : t = "**"
    · subst ht
      simp only [matchSegments, if_true, covers_stars_iff, List.any_eq_true, mem_suffixes, ih]
    · rw [covers_token_iff ht]
      cases s with
      | nil => simp [matchSegments, ht]
      | cons x rest => simp [matchSegments, ht, ih]

/-! ## Tokens without a wildcard -/

theorem partsWithin_literal (s : List Char) (h : s.any isWildcard = false) :
    partsWithin s.length s = s.map Part.literal := by
  induction s with
  | nil => rfl
  | cons c rest ih =>
    simp only [List.any_cons, Bool.or_eq_false_iff, isWildcard, decide_eq_false_iff_not] at h
    obtain ⟨⟨⟨hstar, hany⟩, hbracket⟩, hrest⟩ := h
    rw [List.length_cons, partsWithin, if_neg hstar, if_neg hany, if_neg hbracket, ih hrest,
      List.map_cons]

theorem mergeStars_literal (s : List Char) :
    mergeStars (s.map Part.literal) = s.map Part.literal := by
  induction s with
  | nil => rfl
  | cons c rest ih => simp [mergeStars, ih]

theorem matchParts_literal (s t : List Char) :
    matchParts (s.map Part.literal) t = true ↔ t = s := by
  induction s generalizing t with
  | nil => simp [matchParts]
  | cons c rest ih =>
    cases t with
    | nil => simp [matchParts]
    | cons d t => simp [matchParts, Part.takes, ih]

/-- A token without a wildcard matches itself only. -/
theorem matchToken_iff_of_literal {t : String} (h : hasWildcard t = false) (x : String) :
    matchToken t x = true ↔ x = t := by
  rw [matchToken_eq, parts, partsWithin_literal _ h, mergeStars_literal, matchParts_literal,
    String.toList_inj]

theorem ne_stars_of_literal {t : String} (h : hasWildcard t = false) : t ≠ "**" := by
  rintro rfl
  simp [hasWildcard, isWildcard] at h

/-- Segments without a wildcard at the front of a glob stand for themselves. -/
theorem covers_append_iff {base : List String} (hbase : ∀ t ∈ base, hasWildcard t = false)
    (g s : List String) : Covers (base ++ g) s ↔ ∃ rest, s = base ++ rest ∧ Covers g rest := by
  induction base generalizing s with
  | nil => simp
  | cons t base ih =>
    -- two stars have a wildcard, so that each of these segments takes exactly one
    have ht := hbase t (List.mem_cons_self ..)
    have ih := fun s => ih (fun u hu => hbase u (List.mem_cons_of_mem _ hu)) s
    rw [List.cons_append, covers_token_iff (ne_stars_of_literal ht)]
    constructor
    · rintro ⟨x, rest, rfl, hx, h⟩
      obtain ⟨more, rfl, hmore⟩ := (ih rest).mp h
      exact ⟨more, by rw [(matchToken_iff_of_literal ht x).mp hx, List.cons_append], hmore⟩
    · rintro ⟨rest, rfl, h⟩
      exact ⟨t, base ++ rest, rfl, (matchToken_iff_of_literal ht t).mpr rfl,
        (ih _).mpr ⟨rest, rfl, h⟩⟩

/-! ## Globs that cover themselves -/

/-- What parts match, they still match once stars in a row are one. -/
theorem matchParts_mergeStars {ps : List Part} {s : List Char} (h : matchParts ps s = true) :
    matchParts (mergeStars ps) s = true := by
  induction ps using mergeStars.induct generalizing s with
  | case1 rest ih =>
    rw [mergeStars]
    refine ih ?_
    rw [matchParts, List.any_eq_true] at h ⊢
    obtain ⟨t, hts, ht⟩ := h
    rw [matchParts, List.any_eq_true] at ht
    obtain ⟨u, hut, hu⟩ := ht
    exact ⟨u, mem_suffixes.mpr ((mem_suffixes.mp hut).trans (mem_suffixes.mp hts)), hu⟩
  | case2 p rest hrest ih =>
    rw [mergeStars]
    · cases p with
      | star =>
        rw [matchParts, List.any_eq_true] at h ⊢
        obtain ⟨t, hts, ht⟩ := h
        exact ⟨t, hts, ih ht⟩
      | any | oneOf | literal =>
        cases s with
        | nil => simp [matchParts] at h
        | cons c s =>
          simp only [matchParts, Bool.and_eq_true] at h ⊢
          exact ⟨h.1, ih h.2⟩
    · exact hrest
  | case3 => exact h

/-- A text without brackets is matched by its parts: a star takes itself, and so does any other
character. -/
theorem matchParts_partsWithin (s : List Char) (h : '[' ∉ s) :
    matchParts (partsWithin s.length s) s = true := by
  induction s with
  | nil => rfl
  | cons c rest ih =>
    obtain ⟨hc, hrest⟩ := not_or.mp (List.mem_cons.not.mp h)
    have ih := ih hrest
    rw [List.length_cons, partsWithin]
    split
    · rw [matchParts, List.any_eq_true]
      exact ⟨rest, mem_suffixes.mpr (List.suffix_cons ..), ih⟩
    · split
      · simp [matchParts, Part.takes, ih]
      · rw [if_neg (Ne.symm hc)]
        simp [matchParts, Part.takes, ih]

/-- A token without brackets matches itself. -/
theorem matchToken_self {t : String} (h : '[' ∉ t.toList) : matchToken t t = true := by
  rw [matchToken_eq, parts]
  exact matchParts_mergeStars (matchParts_partsWithin t.toList h)

/-- A glob without brackets covers itself. -/
theorem covers_self {g : List String} (h : ∀ t ∈ g, '[' ∉ t.toList) : Covers g g := by
  induction g with
  | nil => exact .nil
  | cons t g ih =>
    have ih := ih fun u hu => h u (List.mem_cons_of_mem _ hu)
    by_cases ht : t = "**"
    · exact ht ▸ .stars (List.suffix_cons ..) ih
    · exact .token ht (matchToken_self (h t (List.mem_cons_self ..))) ih

/-! ## Globs as they are written -/

/-- The segments of a tidy glob are those that were joined. -/
theorem globSegments_join {g : List String} (hne : g ≠ []) (hg : ∀ t ∈ g, IsSegment t)
    (ht : Tidy (join g)) : globSegments (join g) = g := by
  have hedges := edges_join_ne_slash hg
  have hslash : trimBy (· = '/') (join g).toList = (join g).toList :=
    trimBy_eq_self_iff.mpr ⟨fun c hc => by simpa using hedges.1 c hc,
      fun c hc => by simpa using hedges.2 c hc⟩
  have hjoin : (join g).toList ≠ [] := fun hnil =>
    hne ((join_eq_empty_iff hg).mp (by simpa using hnil))
  simp only [globSegments, tidy_iff.mp ht, unifySeparators_eq_self (backslash_not_mem_join hg),
    hslash, if_neg hjoin, String.ofList_toList]
  exact segments_join hg ht

/-- Whether a tidy path matches a tidy glob, by their segments. -/
theorem isMatch_join_iff {g s : List String} (hne : g ≠ []) (hg : ∀ t ∈ g, IsSegment t)
    (hgt : Tidy (join g)) (hs : ∀ n ∈ s, IsSegment n) (hst : Tidy (join s)) :
    isMatch (join s) (join g) = true ↔ Covers g s := by
  rw [isMatch, globSegments_join hne hg hgt, segments_join hs hst, matchSegments_iff]

end FileDepot.Path.Glob
