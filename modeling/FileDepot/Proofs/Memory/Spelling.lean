import FileDepot.Proofs.Memory.Resolve
import FileDepot.Proofs.Path.Spelling

/-!
# Paths in memory, however they are written

The store in memory brings every path to its normal form before it looks at its files. All spellings of the
same segments have one normal form (`normalize_of_spelling`), and other segments have another one
(`join_inj_of_clear`), so that a path names the same file however it is written.
-/

namespace FileDepot.Memory

open FileDepot.Path FileDepot.Text

variable {segs others : List String} {p q : String}

/-- The normal form of a spelling is its segments with single separators. -/
theorem normalize_of_spelling (hclear : Clear segs) (hup : ".." ∉ segs) (hp : IsSpelling segs p) :
    normalize p = .ok (join segs) := by
  obtain ⟨-, hsegments⟩ := segments_of_spelling hp hclear
  rw [normalize_of_not_mem (by rwa [hsegments]), hsegments]

/-- Different segments have different normal forms. -/
theorem join_inj_of_clear (hclear : Clear segs) (hothers : Clear others) (h : join others = join segs) :
    others = segs := by
  rw [← segments_join hothers.isSegment hothers.tidy_join, h,
    segments_join hclear.isSegment hclear.tidy_join]

/-- Two answers with the same store behind them, and with the same value or the same kind of trouble: a fault
may tell the path as it was written. -/
def AnswersAlike {α : Type} (x y : Except Fault α × Memory) : Prop :=
  x.1.mapError Fault.family = y.1.mapError Fault.family ∧ x.2 = y.2

/-- Writing looks at the normal form of a path alone, but for what a fault tells. -/
theorem write_alike (hnormal : normalize p = normalize q) (hp : ∃ k, normalize p = .ok k) (m : Memory)
    (content : ByteReader) : AnswersAlike (m.write p content) (m.write q content) := by
  obtain ⟨k, hk⟩ := hp
  rw [write, write, ← hnormal, hk]
  cases content.drain with
  | error f => exact ⟨rfl, rfl⟩
  | ok data =>
    simp only
    by_cases hdir : m.isDirectory k = true
    · rw [if_pos hdir, if_pos hdir]
      exact ⟨rfl, rfl⟩
    · rw [if_neg hdir, if_neg hdir]
      by_cases hbelow : (ancestors k).any m.files.contains = true
      · rw [if_pos hbelow, if_pos hbelow]
        exact ⟨rfl, rfl⟩
      · rw [if_neg hbelow, if_neg hbelow]
        exact ⟨rfl, rfl⟩

/-- So does removing. -/
theorem remove_alike (hnormal : normalize p = normalize q) (hp : ∃ k, normalize p = .ok k) (m : Memory) :
    AnswersAlike (m.remove p) (m.remove q) := by
  obtain ⟨k, hk⟩ := hp
  rw [remove, remove, ← hnormal, hk]
  simp only
  by_cases hfile : m.files.contains k = true
  · rw [if_pos hfile, if_pos hfile]
    exact ⟨rfl, rfl⟩
  · rw [if_neg hfile, if_neg hfile]
    by_cases hdir : m.isDirectory k = true
    · rw [if_pos hdir, if_pos hdir]
      exact ⟨rfl, rfl⟩
    · rw [if_neg hdir, if_neg hdir]
      exact ⟨rfl, rfl⟩

/-- **Spellings.** Whatever separators, marks for the directory itself and blanks at the edges segments are
written with, the normal form is the segments with single separators. So all spellings find the same files,
write and remove the same file with the same outcome, and mount an archive at the same place, in every store.
Other segments have another normal form. -/
theorem spellings_alike (hclear : Clear segs) (hup : ".." ∉ segs) :
    (∀ p, IsSpelling segs p → normalize p = .ok (join segs)) ∧
    (∀ p q, IsSpelling segs p → IsSpelling segs q → ∀ m : Memory,
      m.resolve p = m.resolve q ∧ (∀ data, m.mount data p = m.mount data q) ∧
      (∀ content, AnswersAlike (m.write p content) (m.write q content)) ∧
      AnswersAlike (m.remove p) (m.remove q)) ∧
    ∀ others, Clear others → join others = join segs → others = segs := by
  have hspelling {p : String} (hp : IsSpelling segs p) : normalize p = .ok (join segs) :=
    normalize_of_spelling hclear hup hp
  refine ⟨fun p => hspelling, fun p q hp hq m => ?_, fun others => join_inj_of_clear hclear⟩
  have hnormal : normalize p = normalize q := (hspelling hp).trans (hspelling hq).symm
  refine ⟨?_, fun data => ?_, fun content => write_alike hnormal ⟨_, hspelling hp⟩ m content,
    remove_alike hnormal ⟨_, hspelling hp⟩ m⟩
  · rw [resolve, resolve, hnormal]
  · rw [mount, mount, hnormal]

/-- A path with blanks, backslashes and marks is written to, found and removed as the plain one. -/
theorem spellings_alike_marked :
    let p := " .//a\\./b c\\. "
    let m := run (empty fun n => ⟨n⟩) [.write p (.bytes [1])]
    normalize p = .ok "a/b c" ∧ m.files.contains "a/b c" = true ∧
      m.resolve p = m.resolve "a/b c" ∧ AnswersAlike (m.remove p) (m.remove "a/b c") ∧
      ∀ others, Clear others → join others = "a/b c" → others = ["a", "b c"] := by
  intro p m
  have hclear : Clear ["a", "b c"] := by
    intro n hn
    obtain rfl | rfl : n = "a" ∨ n = "b c" := by simpa using hn
    · exact ⟨⟨by decide, by decide, by decide, by decide⟩, by decide⟩
    · exact ⟨⟨by decide, by decide, by decide, by decide⟩, by decide⟩
  have hspells : Spells ["a", "b c"] ".//a\\./b c\\.".toList :=
    .hereThen (.inl rfl) <| .separator (.inl rfl) <| .segment "a" (.inr rfl) <|
      .hereThen (.inl rfl) <| .segment "b c" (.inr rfl) .here
  have hblank : ∀ c ∈ [' '], Text.isBlank c = true := List.forall_mem_singleton.mpr rfl
  have hp : IsSpelling ["a", "b c"] p :=
    ⟨[' '], _, [' '], by decide +kernel, hspells, hblank, hblank⟩
  have hplain : IsSpelling ["a", "b c"] "a/b c" := isSpelling_join ["a", "b c"]
  obtain ⟨hnormal, halike, hother⟩ := spellings_alike hclear (by decide)
  obtain ⟨hresolve, -, -, hremove⟩ := halike p "a/b c" hp hplain m
  exact ⟨hnormal p hp, by decide +kernel, hresolve, hremove, hother⟩

end FileDepot.Memory
