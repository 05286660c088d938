import FileDepot.Proofs.Path.Glob

/-!
# Matching globs by search

What a glob covers can be searched for segment by segment: two stars first stand for nothing, and where
that fails they take one segment more. `matchWithin` is this search, given up as soon as more than some
number of its calls are nested. It is never given up when that number is larger than the glob and the path
together (`matchWithin_eq`), so the search ends and finds what the glob covers.

* **parts** — `covers_append_iff_split`: globs one after the other cover paths one after the other;
* **stars** — `covers_stars_again`: two stars again right behind two stars change nothing;
* **matching** — `isMatch_decides`: what the matching of a path as it is written tells.
-/

namespace FileDepot.Path.Glob

open FileDepot.Text

/-! ## Globs in parts -/

/-- **Parts.** A glob in two parts covers what falls into two parts that they cover. -/
theorem covers_append_iff_split {g h s : List String} :
    Covers (g ++ h) s ↔ ∃ a b, s = a ++ b ∧ Covers g a ∧ Covers h b := by
  constructor
  · intro hs
    induction g generalizing s with
    | nil => exact ⟨[], s, rfl, .nil, hs⟩
    | cons t g ih =>
      cases hs with
      | stars hts hs =>
        -- what two stars skip goes to the first part
        obtain ⟨skipped, rfl⟩ := hts
        obtain ⟨a, b, rfl, ha, hb⟩ := ih hs
        exact ⟨skipped ++ a, b, (List.append_assoc ..).symm, .stars (List.suffix_append ..) ha, hb⟩
      | token ht hx hs =>
        obtain ⟨a, b, rfl, ha, hb⟩ := ih hs
        exact ⟨_ :: a, b, rfl, .token ht hx ha, hb⟩
  · rintro ⟨a, b, rfl, ha, hb⟩
    induction ha with
    | nil => exact hb
    | stars hts _ ih => exact .stars ((List.suffix_append_inj_of_length_eq rfl).mpr ⟨hts, rfl⟩) ih
    | token ht hx _ ih => exact .token ht hx ih

/-- Two stars again right behind two stars cover nothing new. -/
theorem covers_stars_twice_iff {g s : List String} :
    Covers ("**" :: "**" :: g) s ↔ Covers ("**" :: g) s := by
  constructor
  · intro hs
    obtain ⟨t, hts, ht⟩ := covers_stars_iff.mp hs
    obtain ⟨u, hut, hu⟩ := covers_stars_iff.mp ht
    exact .stars (hut.trans hts) hu
  · intro hs
    exact .stars (List.suffix_refl s) hs

/-- **Stars.** However often two stars follow each other in a glob, they cover what they cover once. -/
theorem covers_stars_again {g h s : List String} (n : Nat) :
    Covers (g ++ List.replicate (n + 1) "**" ++ h) s ↔ Covers (g ++ "**" :: h) s := by
  have hstars (t : List String) :
      Covers (List.replicate (n + 1) "**" ++ h) t ↔ Covers ("**" :: h) t := by
    induction n with
    | zero => rfl
    | succ n ih => exact covers_stars_twice_iff.trans ih
  simp only [List.append_assoc, covers_append_iff_split, hstars]

/-! ## Search -/

/-- Search for what the segments of a glob cover, with at most so many calls one inside the other. At two
stars it is first tried to go on behind them, and then to skip a segment. There is no answer when more
calls would be needed. -/
def matchWithin : Nat → List String → List String → Option Bool
  | 0, _, _ => none
  | _ + 1, [], s => some s.isEmpty
  | depth + 1, t :: g, s =>
    if t = "**" then do
      if ← matchWithin depth g s then pure true
      else match s with
        | [] => pure false
        | _ :: rest => matchWithin depth (t :: g) rest
    else match s with
      | [] => some false
      | x :: rest => if matchToken t x then matchWithin depth g rest else some false

/-- Two stars match what is matched behind them, here or later. -/
theorem matchSegments_stars_cons (g : List String) (x : String) (rest : List String) :
    matchSegments ("**" :: g) (x :: rest) =
      (matchSegments g (x :: rest) || matchSegments ("**" :: g) rest) := by
  simp [matchSegments, suffixes]

/-- The search ends, and tells what the glob matches. -/
theorem matchWithin_eq {depth : Nat} {g s : List String} (h : g.length + s.length < depth) :
    matchWithin depth g s = some (matchSegments g s) := by
  induction depth generalizing g s with
  | zero => exact absurd h (Nat.not_lt_zero _)
  | succ depth ih =>
    -- each call is about a glob or a path that is one segment shorter
    cases g with
    | nil => rfl
    | cons t g =>
      simp only [List.length_cons] at h
      by_cases ht : t = "**"
      · subst ht
        have hbehind := ih (g := g) (s := s) (by omega)
        cases s with
        | nil =>
          rw [matchWithin, if_pos rfl, hbehind]
          cases hg : matchSegments g [] <;> simp [matchSegments, suffixes, hg]
        | cons x rest =>
          simp only [List.length_cons] at h
          have hskip := ih (g := "**" :: g) (s := rest) (by simp only [List.length_cons]; omega)
          rw [matchWithin, if_pos rfl, hbehind, hskip, matchSegments_stars_cons]
          cases matchSegments g (x :: rest) <;> rfl
      · cases s with
        | nil => simp [matchWithin, matchSegments, ht]
        | cons x rest =>
          simp only [List.length_cons] at h
          have hrest := ih (g := g) (s := rest) (by omega)
          rw [matchWithin, if_neg ht, matchSegments, if_neg ht, hrest]
          cases matchToken t x <;> rfl

/-! ## Paths and globs as they are written -/

/-- **Matching.** A path matches a glob when the segments of the glob cover those of the path, where a
glob of blanks and separators alone stands for everything. The search for it ends with this answer, and no
more of its calls are nested than there are segments, and one. Globs one after the other cover paths one
after the other, and two stars in a row are as good as one pair. -/
theorem isMatch_decides :
    (∀ path pattern : String,
      let pat := trimBy (· = '/') (unifySeparators (trim pattern.toList))
      let g := if pat = [] then ["**", "*"] else segments (String.ofList pat)
      let s := segments path
      (isMatch path pattern = true ↔ Covers g s) ∧
        ∀ n, matchWithin (g.length + s.length + 1 + n) g s = some (isMatch path pattern)) ∧
    (∀ g h s t, Covers g s → Covers h t → Covers (g ++ h) (s ++ t)) ∧
    ∀ g h s n, Covers (g ++ List.replicate (n + 1) "**" ++ h) s ↔ Covers (g ++ "**" :: h) s := by
  refine ⟨fun path pattern => ⟨matchSegments_iff _ _, fun n => matchWithin_eq (by omega)⟩,
    fun g h s t hg hh => covers_append_iff_split.mpr ⟨s, t, rfl, hg, hh⟩,
    fun g h s n => covers_stars_again n⟩

/-- A glob in two parts with stars in each, and a path with marks and separators too many. -/
theorem isMatch_decides_parts :
    (Covers ["**", "l?gs"] ["var", "logs"] ∧ Covers ["**", "*.txt"] ["2024", "a.txt"]) ∧
      isMatch "/var//logs/./2024/a.txt" " \\**/l?gs\\**/*.txt/" = true := by
  obtain ⟨hmatch, happend, -⟩ := isMatch_decides
  have hlogs : Covers ["**", "l?gs"] ["var", "logs"] := by
    rw [← matchSegments_iff]
    decide +kernel
  have hfile : Covers ["**", "*.txt"] ["2024", "a.txt"] := by
    rw [← matchSegments_iff]
    decide +kernel
  refine ⟨⟨hlogs, hfile⟩, (hmatch _ _).1.mpr ?_⟩
  exact happend _ _ _ _ hlogs hfile

end FileDepot.Path.Glob
