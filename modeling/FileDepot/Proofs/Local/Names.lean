import FileDepot.Proofs.Local.Place
import FileDepot.Proofs.Operation
import FileDepot.Proofs.Outcome
import FileDepot.Store.Volume

/-!
# Paths that a volume has no place for

A path has no place on a volume, for a reason that the store does not tell as its own, where a NUL character, a
name that cannot be encoded or a circle of links is in its way (`Fault.IsPlaceless`). Any other path that is not
accepted leads out of the root (`Volume.place_eq_error`), and a path that is accepted has the place that the
store finds (`Volume.realPlace_of_place`).

Where the encoding of names lacks nothing, a volume is its store (`Volume.store_full`), so that what holds of
stores holds of such volumes.
-/

namespace FileDepot

/-- Whether a fault says that a path has no place on a disk: for a NUL character, a name that cannot be encoded,
or links that lead in a circle. -/
inductive Fault.IsPlaceless : Fault → Prop where
  /-- a NUL character -/
  | nul : IsPlaceless (.value .nulInPath)
  /-- a name that cannot be encoded -/
  | name (codec : String) (first : Point) (start stop : Nat) (reason : String) :
    IsPlaceless (.coding (.encode codec first start stop reason))
  /-- links that lead in a circle -/
  | circle (path : String) : IsPlaceless (.linkLoop path)

/-- A path that the store does not accept leads out of the root or has no place. -/
theorem Local.realPlace_eq_error {s : Local} {d : Disk} {path : String} {f : Fault}
    (h : s.realPlace d path = .error f) : f = .outside path ∨ f.IsPlaceless := by
  rw [realPlace] at h
  split at h
  · exact .inr (Except.error.inj h ▸ .circle _)
  · exact .inr (Except.error.inj h ▸ .nul)
  · split at h
    · cases h
    · exact .inl (Except.error.inj h).symm

namespace Volume

variable {v : Volume} {d : Disk} {path : String} {f : Fault} {l : Location}

theorem isPlaceless_refusal (v : Volume) (d : Disk) (names : List String) :
    (v.refusal d names).IsPlaceless := by
  rw [refusal]
  extract_lets before
  split
  · split
    · exact .name ..
    · exact .nul
  · exact .nul

/-- The place of a path is that of the store, or there is none. -/
theorem place_cases (v : Volume) (d : Disk) (path : String) :
    v.place d path = v.files.realPlace d path ∨
      ∃ f, v.place d path = .error f ∧ f.IsPlaceless := by
  rw [place]
  split
  · exact .inr ⟨_, rfl, isPlaceless_refusal v d _⟩
  · dsimp only
    split
    · exact .inr ⟨_, rfl, .name ..⟩
    · exact .inl rfl
  · exact .inl rfl

/-- A path that is not accepted leads out of the root or has no place. -/
theorem place_eq_error (h : v.place d path = .error f) : f = .outside path ∨ f.IsPlaceless := by
  rcases v.place_cases d path with hplace | ⟨g, hplace, hg⟩
  · exact Local.realPlace_eq_error (hplace.symm.trans h)
  · rw [hplace] at h
    exact .inr (Except.error.inj h ▸ hg)

/-- A path that is accepted has the place that the store finds. -/
theorem realPlace_of_place (h : v.place d path = .ok l) : v.files.realPlace d path = .ok l := by
  rcases v.place_cases d path with hplace | ⟨g, hplace, -⟩
  · exact hplace.symm.trans h
  · rw [hplace] at h
    cases h

/-! ## An encoding that lacks nothing -/

theorem fails_full (name : String) : NameCodec.full.fails name = false := by
  rw [NameCodec.fails, List.any_eq_false]
  exact fun _ _ => Bool.false_ne_true

theorem met_full (name : String) : NameCodec.full.met name = name :=
  if_neg (Bool.eq_false_iff.mp (fails_full name))

/-- Where the encoding lacks nothing, a path that is refused has a NUL character. -/
theorem refusal_full (s : Local) (d : Disk) (names : List String) :
    (⟨s, .full⟩ : Volume).refusal d names = .value .nulInPath := by
  rw [refusal]
  extract_lets before
  split
  · rw [if_neg (Bool.eq_false_iff.mp (fails_full _))]
  · rfl

theorem place_full (s : Local) (d : Disk) (path : String) :
    (⟨s, .full⟩ : Volume).place d path = s.realPlace d path := by
  have hmet : (s.joined path).map NameCodec.full.met = s.joined path :=
    List.map_id'' met_full _
  rw [place]
  dsimp only
  rw [hmet]
  split
  · rename_i hreal
    rw [refusal_full, Local.realPlace, Disk.resolve, hreal]
  · rw [if_neg]
    rw [List.any_eq_true]
    rintro ⟨name, -, hname⟩
    exact Bool.false_ne_true ((fails_full name).symm.trans hname)
  · rfl

/-- What comes after a look at a path that fails where that does, need not look. -/
theorem look_bind {s : Local} {α : Type} (path : String) (op : Op Disk α)
    (hop : ∀ w f, s.realPlace w.store path = .error f → op.exec w = (.error f, w)) :
    ((⟨s, .full⟩ : Volume).look path >>= fun _ => op) = op := by
  funext w
  change Op.exec _ w = op.exec w
  rw [Op.bind_exec, look, Op.ask_exec, place_full]
  cases hplace : s.realPlace w.store path with
  | error f => exact (hop w f hplace).symm
  | ok l => rfl

/-- **All names.** Where the encoding lacks nothing, a volume is its store. -/
theorem store_full (s : Local) : (⟨s, .full⟩ : Volume).store = s.store := by
  have hresolve (pattern : String) := look_bind (s := s)
    (Path.splitPattern (Path.normalize pattern)).1 (s.store.resolve pattern) fun w f hplace => by
      simp only [Local.store, Op.ask_exec, Local.resolve, hplace]
      rfl
  have hcontents (h : LocalFile) := look_bind (s := s) h.path (s.store.contents h)
    fun w f hplace => by
      simp only [Local.store, Op.ask_exec, Local.contents, hplace]
      rfl
  have hwrite (path : String) (content : ByteReader) :=
    look_bind (s := s) path (s.store.write path content) fun w f hplace => by
      simp only [Local.store, Op.bind_exec, Op.onStore_exec, Local.write, hplace]
  have hremove (path : String) := look_bind (s := s) path (s.store.remove path)
    fun w f hplace => by
      simp only [Local.store, Op.bind_exec, Op.onStore_exec, Local.remove, hplace]
  simp only [store, hresolve, hcontents, hwrite, hremove]

end Volume

end FileDepot
