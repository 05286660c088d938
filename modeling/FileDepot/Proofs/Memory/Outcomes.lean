import FileDepot.Proofs.Memory.Canonical
import FileDepot.Proofs.Memory.Confine
import FileDepot.Proofs.Stream.Trouble

/-!
# What a write and a removal come to

Directories are not kept, so that what a write or a removal comes to is told by the stored paths above and
below its own. A path lies above another one when its segments are the first ones of the other
(`IsAncestor`): the root lies above all other paths.

* **write** — `writeOutcome`: over a directory and below a file nothing is written, in this order, and
  anywhere else the contents are stored;
* **removal** — `removeOutcome`: a file is taken away, and where there is none, a directory is told from
  nothing;
* **tree** — `UnmixedBelowRoot.write`, `unmixed_write_iff`: no file comes to lie above another one, unless
  one is at the root.
-/

namespace FileDepot.Memory

open FileDepot.Path

variable {m n : Memory} {path p q k : String} {content : ByteReader} {data : Bytes}

/-! ## Above and below, by segments -/

/-- Whether a path lies above another one: its segments are the first ones of the other. -/
def IsAncestor (p q : String) : Prop := steps p <+: steps q ∧ p ≠ q

instance (p q : String) : Decidable (IsAncestor p q) := inferInstanceAs (Decidable (_ ∧ _))

theorem not_isAncestor_self (p : String) : ¬ IsAncestor p p := fun h => h.2 rfl

/-- The root lies above all other paths. -/
theorem isAncestor_root_iff : IsAncestor "" q ↔ q ≠ "" := by
  simp [IsAncestor, steps, eq_comm]

theorem not_isAncestor_root (p : String) : ¬ IsAncestor p "" := by
  rintro ⟨hinit, hne⟩
  exact steps_ne_nil hne (List.prefix_nil.mp hinit)

theorem ne_root_of_isAbove (h : IsAbove p q) : q ≠ "" := by
  obtain ⟨rest, rfl⟩ := h
  intro hroot
  have hlength := congrArg (fun s => s.toList.length) hroot
  simp at hlength

/-- Below the root, a path lies above those that go on from it with a separator. -/
theorem isAncestor_iff_isAbove (hp : p ≠ "") : IsAncestor p q ↔ IsAbove p q := by
  by_cases hq : q = ""
  · subst hq
    exact iff_of_false (not_isAncestor_root p) fun habove => ne_root_of_isAbove habove rfl
  · rw [IsAncestor, steps, steps, if_neg hp, if_neg hq]
    constructor
    · rintro ⟨⟨more, hmore⟩, hne⟩
      have hnil : more ≠ [] := by
        rintro rfl
        rw [List.append_nil] at hmore
        exact hne (by rw [← join_parts p, hmore, join_parts])
      exact ⟨join more, by rw [← join_parts q, ← hmore, join_append (parts_ne_nil p) hnil, join_parts]⟩
    · intro habove
      refine ⟨?_, fun hpq => not_isAbove_self p (hpq ▸ habove)⟩
      obtain ⟨rest, rfl⟩ := habove
      exact ⟨parts rest, (parts_append_slash p rest).symm⟩

/-- Whether a path is a directory: it is the root or lies above a stored path. -/
def IsBranch (m : Memory) (p : String) : Prop :=
  p = "" ∨ ∃ q, m.files.contains q = true ∧ IsAncestor p q

/-- Whether a file other than one at the root lies above a path. -/
def IsBlocked (m : Memory) (p : String) : Prop :=
  ∃ q, q ≠ "" ∧ m.files.contains q = true ∧ IsAncestor q p

theorem isDirectory_iff_isBranch : m.isDirectory p = true ↔ m.IsBranch p := by
  rw [isDirectory_iff, IsBranch]
  by_cases hp : p = ""
  · simp [hp]
  · simp only [hp, false_or, isAncestor_iff_isAbove hp]

/-- A normal path has no empty segment in front, so that the root is not found above it. -/
theorem not_isAbove_root (h : IsNormal p) : ¬ IsAbove "" p := by
  intro habove
  have hsegs := (parts_of_normal h (ne_root_of_isAbove habove)).1
  obtain ⟨rest, rfl⟩ := habove
  have hempty : "" ∈ parts ("" ++ "/" ++ rest) := by
    rw [parts_append_slash]
    exact List.mem_append_left _ (by decide)
  exact (hsegs "" hempty).1 rfl

theorem any_ancestors_iff (h : IsNormal p) :
    (ancestors p).any m.files.contains = true ↔ m.IsBlocked p := by
  simp only [List.any_eq_true, mem_ancestors_iff]
  constructor
  · rintro ⟨q, habove, hq⟩
    have hne : q ≠ "" := by
      rintro rfl
      exact not_isAbove_root h habove
    exact ⟨q, hne, hq, (isAncestor_iff_isAbove hne).mpr habove⟩
  · rintro ⟨q, hne, hq, habove⟩
    exact ⟨q, (isAncestor_iff_isAbove hne).mp habove, hq⟩

instance (m : Memory) (p : String) : Decidable (m.IsBranch p) := decidable_of_iff _ isDirectory_iff_isBranch

instance (m : Memory) (p : String) : Decidable (m.IsBlocked p) :=
  decidable_of_iff (∃ q ∈ m.files.keys, q ≠ "" ∧ IsAncestor q p) (by
    simp only [Catalog.mem_keys, IsBlocked]
    exact exists_congr fun q => and_left_comm)

/-! ## Writing -/

/-- The file that a write stores over another one, if there is one: it keeps the time at which that was made,
and a new file is made now. -/
def replacing (old : Option MemoryFile) (data : Bytes) (now : Moment) : MemoryFile :=
  ⟨data, now, (old.map (·.created)).getD (some now)⟩

theorem put_eq (m : Memory) (p : String) (data : Bytes) (now : Moment) :
    m.put p data now = { m with files := m.files.insert p (replacing (m.files.get? p) data now) } := by
  rw [put, replacing]
  cases m.files.get? p <;> rfl

/-- A payload that cannot be read changes nothing. -/
theorem write_unread {f : Fault} (hp : normalize path = .ok p) (hfail : content.drain = .error f) :
    m.write path content = (.error f, m) := by
  simp only [write, hp, hfail]

/-- **Write.** A write of contents at a path with a normal form is told by the stored paths above and
below. -/
theorem write_eq (hp : normalize path = .ok p) (hdata : content.drain = .ok data) :
    m.write path content =
      if m.IsBranch p then (.error (.memory (.overDirectory path)), m.tick)
      else if m.IsBlocked p then (.error (.memory (.belowFile path)), m.tick)
      else (.ok (p, data.length), (m.put p data (m.clock m.ticks)).tick) := by
  have hnormal := isNormal_of_normalize hp
  simp only [write, hp, hdata, isDirectory_iff_isBranch, any_ancestors_iff hnormal]

/-- **Removal.** A removal at a path with a normal form is told by whether it is stored, and by the stored
paths below. -/
theorem remove_eq (hp : normalize path = .ok p) :
    m.remove path =
      if m.files.contains p = true then (.ok (some p), { m with files := m.files.erase p })
      else if m.IsBranch p then (.error (.memory (.removeDirectory path)), m)
      else (.ok none, m) := by
  simp only [remove, hp, isDirectory_iff_isBranch]

/-- What a write of contents at a normal path answers, and what it leaves. -/
structure WriteOutcome (m : Memory) (path p : String) (data : Bytes)
    (answer : Except Fault (String × Nat)) (after : Memory) : Prop where
  /-- it is refused over a directory -/
  overDirectory : answer = .error (.memory (.overDirectory path)) ↔ m.IsBranch p
  /-- it is refused below a file, unless it is over a directory -/
  belowFile : answer = .error (.memory (.belowFile path)) ↔ ¬ m.IsBranch p ∧ m.IsBlocked p
  /-- anywhere else it succeeds -/
  stored : answer = .ok (p, data.length) ↔ ¬ m.IsBranch p ∧ ¬ m.IsBlocked p
  /-- a refused write reads the clock and changes nothing -/
  refused : (∀ a, answer ≠ .ok a) → after = m.tick
  /-- the contents are stored at the path, and every other file is as it was -/
  files : ∀ a, answer = .ok a → ∀ q, after.files.get? q =
    if q = p then some (replacing (m.files.get? p) data (m.clock m.ticks)) else m.files.get? q

/-- What a removal at a normal path answers, and what it leaves. -/
structure RemoveOutcome (m : Memory) (path p : String) (answer : Except Fault (Option String))
    (after : Memory) : Prop where
  /-- a file is removed where there is one -/
  removed : answer = .ok (some p) ↔ m.files.contains p = true
  /-- a directory is not removed -/
  directory : answer = .error (.memory (.removeDirectory path)) ↔
    m.files.contains p = false ∧ m.IsBranch p
  /-- anywhere else there is nothing -/
  nothing : answer = .ok none ↔ m.files.contains p = false ∧ ¬ m.IsBranch p
  /-- nothing changes then -/
  unchanged : answer ≠ .ok (some p) → after = m
  /-- the file at the path is gone, and every other file is as it was -/
  files : answer = .ok (some p) → ∀ q, after.files.get? q = if q = p then none else m.files.get? q

theorem writeOutcome (hp : normalize path = .ok p) (hdata : content.drain = .ok data) :
    WriteOutcome m path p data (m.write path content).1 (m.write path content).2 := by
  rw [write_eq hp hdata]
  by_cases hbranch : m.IsBranch p
  · rw [if_pos hbranch]
    exact ⟨by simp [hbranch], by simp [hbranch], by simp [hbranch], fun _ => rfl, fun a ha => by cases ha⟩
  · rw [if_neg hbranch]
    by_cases hblocked : m.IsBlocked p
    · rw [if_pos hblocked]
      exact ⟨by simp [hbranch], by simp [hbranch, hblocked], by simp [hblocked], fun _ => rfl,
        fun a ha => by cases ha⟩
    · rw [if_neg hblocked]
      refine ⟨by simp [hbranch], by simp [hblocked], by simp [hbranch, hblocked],
        fun h => absurd rfl (h (p, data.length)), fun a _ q => ?_⟩
      rw [tick, put_eq, Catalog.get?_insert]

theorem removeOutcome (hp : normalize path = .ok p) :
    RemoveOutcome m path p (m.remove path).1 (m.remove path).2 := by
  rw [remove_eq hp]
  by_cases hstored : m.files.contains p = true
  · rw [if_pos hstored]
    exact ⟨by simp [hstored], by simp [hstored], by simp [hstored], fun h => absurd rfl h,
      fun _ q => Catalog.get?_erase m.files p q⟩
  · rw [if_neg hstored]
    have hfree : m.files.contains p = false := Bool.eq_false_iff.mpr hstored
    by_cases hbranch : m.IsBranch p
    · rw [if_pos hbranch]
      exact ⟨by simp [hfree], by simp [hfree, hbranch], by simp [hbranch], fun _ => rfl,
        fun h => by cases h⟩
    · rw [if_neg hbranch]
      exact ⟨by simp [hfree], by simp [hbranch], by simp [hfree, hbranch], fun _ => rfl,
        fun h => by cases h⟩

/-! ## Files above files -/

/-- No file lies above another one. -/
def Unmixed (m : Memory) : Prop :=
  ∀ p q, m.files.contains p = true → m.files.contains q = true → ¬ IsAncestor p q

/-- No file lies above another one, except that one may be at the root. -/
def UnmixedBelowRoot (m : Memory) : Prop :=
  ∀ p q, p ≠ "" → m.files.contains p = true → m.files.contains q = true → ¬ IsAncestor p q

instance (m : Memory) : Decidable m.Unmixed :=
  decidable_of_iff (∀ p ∈ m.files.keys, ∀ q ∈ m.files.keys, ¬ IsAncestor p q) (by
    simp only [Catalog.mem_keys, Unmixed]
    exact ⟨fun h p q hp hq => h p hp q hq, fun h p hp q hq => h p q hp hq⟩)

/-- Where a file is at the root, no file lies above another one only if it is the only one. -/
theorem unmixed_iff : m.Unmixed ↔ m.UnmixedBelowRoot ∧
    ∀ q, m.files.contains "" = true → m.files.contains q = true → q = "" := by
  constructor
  · intro h
    refine ⟨fun p q _ => h p q, fun q hroot hq => ?_⟩
    by_contra hne
    exact h "" q hroot hq (isAncestor_root_iff.mpr hne)
  · rintro ⟨h, halone⟩ p q hp hq habove
    by_cases hroot : p = ""
    · subst hroot
      exact isAncestor_root_iff.mp habove (halone q hp hq)
    · exact h p q hroot hp hq habove

/-- Fewer files are unmixed still. -/
theorem Unmixed.of_subset (h : m.Unmixed)
    (hsub : ∀ p, n.files.contains p = true → m.files.contains p = true) : n.Unmixed :=
  fun p q hp hq => h p q (hsub p hp) (hsub q hq)

theorem UnmixedBelowRoot.of_subset (h : m.UnmixedBelowRoot)
    (hsub : ∀ p, n.files.contains p = true → m.files.contains p = true) : n.UnmixedBelowRoot :=
  fun p q hne hp hq => h p q hne (hsub p hp) (hsub q hq)

/-- A file joins the others where a write is not refused. -/
theorem UnmixedBelowRoot.of_insert (h : m.UnmixedBelowRoot) (hbranch : ¬ m.IsBranch p)
    (hblocked : ¬ m.IsBlocked p)
    (hnew : ∀ q, n.files.contains q = true ↔ q = p ∨ m.files.contains q = true) :
    n.UnmixedBelowRoot := by
  intro a b hne ha hb habove
  rcases (hnew a).mp ha with rfl | ha
  · rcases (hnew b).mp hb with rfl | hb
    · exact not_isAncestor_self b habove
    · exact hbranch (.inr ⟨b, hb, habove⟩)
  · rcases (hnew b).mp hb with rfl | hb
    · exact hblocked ⟨a, hne, ha, habove⟩
    · exact h a b hne ha hb habove

/-- What a write does to the stored paths: nothing, or it adds one that is no directory and has no file above
it but at the root. -/
theorem stored_write_cases (m : Memory) (path : String) (content : ByteReader) :
    ((∀ a, (m.write path content).1 ≠ .ok a) ∧ (m.write path content).2.files = m.files) ∨
    ∃ p, ¬ m.IsBranch p ∧ ¬ m.IsBlocked p ∧ (∃ a, (m.write path content).1 = .ok a) ∧
      ∀ q, (m.write path content).2.files.contains q = true ↔ q = p ∨ m.files.contains q = true := by
  rcases write_cases m path content with ⟨f, hw, -⟩ | ⟨p, data, f, -, -, hw⟩ |
    ⟨p, data, hp, -, hdir, habove, hw⟩
  · rw [hw]
    exact .inl ⟨nofun, rfl⟩
  · rw [hw]
    exact .inl ⟨nofun, rfl⟩
  · rw [hw]
    refine .inr ⟨p, ?_, ?_, ⟨_, rfl⟩, fun q => ?_⟩
    · rw [← isDirectory_iff_isBranch, hdir]
      exact Bool.false_ne_true
    · rw [← any_ancestors_iff (isNormal_of_normalize hp), habove]
      exact Bool.false_ne_true
    · exact @contains_insert q m.files p _

theorem contains_of_remove (h : (m.remove path).2.files.contains q = true) :
    m.files.contains q = true := by
  rcases remove_cases m path with ⟨f, hr⟩ | hr | ⟨p, -, -, hr⟩
  · rw [hr] at h
    exact h
  · rw [hr] at h
    exact h
  · rw [hr] at h
    exact contains_of_erase h

theorem UnmixedBelowRoot.write (h : m.UnmixedBelowRoot) (path : String) (content : ByteReader) :
    (m.write path content).2.UnmixedBelowRoot := by
  rcases stored_write_cases m path content with ⟨-, hsame⟩ | ⟨p, hbranch, hblocked, -, hnew⟩
  · exact h.of_subset fun q hq => by rwa [hsame] at hq
  · exact h.of_insert hbranch hblocked hnew

/-- **Tree.** A write leaves no file above another one, unless it succeeds while a file is at the root. -/
theorem unmixed_write_iff (h : m.Unmixed) (path : String) (content : ByteReader) :
    (m.write path content).2.Unmixed ↔
      ¬ (m.files.contains "" = true ∧ ∃ a, (m.write path content).1 = .ok a) := by
  rcases stored_write_cases m path content with ⟨hfail, hsame⟩ | ⟨p, hbranch, hblocked, hok, hnew⟩
  · refine iff_of_true (h.of_subset fun q hq => by rwa [hsame] at hq) ?_
    rintro ⟨-, a, ha⟩
    exact hfail a ha
  · -- the new file is not at the root, so that one at the root was there before, and lies above it
    have hne : p ≠ "" := fun hp => hbranch (.inl hp)
    obtain ⟨hbelow, -⟩ := unmixed_iff.mp h
    rw [unmixed_iff, and_iff_right (hbelow.of_insert hbranch hblocked hnew)]
    constructor
    · rintro halone ⟨hroot, -⟩
      exact hne (halone p ((hnew "").mpr (.inr hroot)) ((hnew p).mpr (.inl rfl)))
    · intro hnot q hroot
      rcases (hnew "").mp hroot with hp | hroot
      · exact absurd hp.symm hne
      · exact absurd ⟨hroot, hok⟩ hnot

/-- **Exact outcome of a write and of a removal.** On any store, a path with a step upwards is refused as one
that leads out of the root, before a payload is read, and nothing changes. Any other path has a normal form.
Then a payload that cannot be read changes nothing, and this looks like such a refusal only where a stream
raises one; otherwise the stored paths above and below say what
the write comes to, and what the removal does. Neither puts a file above another one, where a file at the
root does not count. Where it does, a removal leaves no file above another one, and a write does so unless
it succeeds while a file is at the root. -/
theorem write_remove_outcome (m : Memory) (path : String) :
    (".." ∈ segments (Path.normalize path) →
      (∀ content, m.write path content = (.error (.upward path), m)) ∧
      m.remove path = (.error (.upward path), m)) ∧
    (".." ∉ segments (Path.normalize path) → ∃ p, normalize path = .ok p ∧
      (∀ content f, content.drain = .error f → m.write path content = (.error f, m) ∧
        (f.family = .accessDenied → ∃ g, content.raised? = some g ∧ g.family = .accessDenied)) ∧
      (∀ content data, content.drain = .ok data →
        WriteOutcome m path p data (m.write path content).1 (m.write path content).2) ∧
      RemoveOutcome m path p (m.remove path).1 (m.remove path).2) ∧
    ((Fault.upward path).family = .accessDenied ∧
      (Fault.memory (.overDirectory path)).family = .system .isADirectory ∧
      (Fault.memory (.belowFile path)).family = .system .notADirectory ∧
      (Fault.memory (.removeDirectory path)).family = .system .isADirectory) ∧
    (m.UnmixedBelowRoot → (m.remove path).2.UnmixedBelowRoot ∧
      ∀ content, (m.write path content).2.UnmixedBelowRoot) ∧
    (m.Unmixed → (m.remove path).2.Unmixed ∧ ∀ content, ((m.write path content).2.Unmixed ↔
      ¬ (m.files.contains "" = true ∧ ∃ a, (m.write path content).1 = .ok a))) := by
  refine ⟨fun hup => ⟨write_upward m hup, remove_upward m hup⟩, fun hup => ?_, ⟨rfl, rfl, rfl, rfl⟩,
    fun h => ⟨h.of_subset fun q => contains_of_remove, h.write path⟩,
    fun h => ⟨h.of_subset fun q => contains_of_remove, unmixed_write_iff h path⟩⟩
  have hp := normalize_of_not_mem hup
  refine ⟨_, hp, fun content f hfail => ⟨write_unread hp hfail, fun hdenied => ?_⟩,
    fun content data => writeOutcome hp, removeOutcome hp⟩
  -- trouble of encodings is no refusal, so that a refusal is what a stream raises
  by_contra hnone
  have hcoding (e : Encoding.Fault) : (Fault.coding e).family ≠ .accessDenied := by cases e <;> exact nofun
  have hraised : content.FailsWith fun g => g.family ≠ .accessDenied :=
    ByteReader.failsWith_of_raised hcoding fun g hg hgdenied => hnone ⟨g, hg, hgdenied⟩
  exact ByteReader.drain_fails (coversCoding_of_all hcoding) hraised f hfail hdenied

/-- A store with a file in a directory. -/
def nestedStore : Memory := run (empty fun n => ⟨n⟩) [.write "a/b" (.bytes [1])]

/-- Nothing is written over the directory, it is not removed, and no path leads out. A file beside the other
one can be written, and none is above another then. -/
theorem write_remove_outcome_nested :
    (nestedStore.write "a" (.bytes [2])).1 = .error (.memory (.overDirectory "a")) ∧
    (nestedStore.remove "a").1 = .error (.memory (.removeDirectory "a")) ∧
    nestedStore.write "../a" (.bytes [2]) = (.error (.upward "../a"), nestedStore) ∧
    (nestedStore.write "./a//c" (.bytes [2])).1 = .ok ("a/c", 1) ∧
    (nestedStore.write "./a//c" (.bytes [2])).2.Unmixed := by
  have hnormal : normalize "a" = .ok "a" ∧ normalize "./a//c" = .ok "a/c" := by decide +kernel
  have hunmixed : nestedStore.Unmixed := by decide +kernel
  obtain ⟨-, hdirectory, -⟩ := write_remove_outcome nestedStore "a"
  obtain ⟨p, hp, -, hover, hremove⟩ := hdirectory (by decide +kernel)
  obtain rfl : "a" = p := Except.ok.inj (hnormal.1.symm.trans hp)
  obtain ⟨hupward, -⟩ := write_remove_outcome nestedStore "../a"
  obtain ⟨-, hfile, -, -, htree⟩ := write_remove_outcome nestedStore "./a//c"
  obtain ⟨q, hq, -, hbeside, -⟩ := hfile (by decide +kernel)
  obtain rfl : "a/c" = q := Except.ok.inj (hnormal.2.symm.trans hq)
  refine ⟨(hover (.bytes [2]) [2] rfl).overDirectory.mpr (by decide +kernel),
    hremove.directory.mpr (by decide +kernel), (hupward (by decide +kernel)).1 _,
    (hbeside (.bytes [2]) [2] rfl).stored.mpr (by decide +kernel), ((htree hunmixed).2 _).mpr ?_⟩
  rintro ⟨hroot, -⟩
  exact absurd hroot (by decide +kernel)

/-- A mount puts a file at the root, and a write then puts another one below it. -/
theorem write_below_root_file :
    let m := run (empty fun n => ⟨n⟩) [.mount (archiveOfEmptyFiles ["."]) ""]
    m.Unmixed ∧ (m.write "a" (.bytes [1])).1 = .ok ("a", 1) ∧
      ¬ (m.write "a" (.bytes [1])).2.Unmixed := by
  decide +kernel

end FileDepot.Memory
