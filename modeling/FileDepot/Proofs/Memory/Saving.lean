import FileDepot.Proofs.Memory.Listing
import FileDepot.Proofs.Memory.Tree
import FileDepot.Proofs.Tasks

/-!
# Saving and removing in memory

A file is saved where it fits (`saveFile_put`, `fits_of_saved`), and a file that is stored is removed
(`deleteFile_stored`). Where nothing is stored at a path or below it (`Vacant`), the path stands for nothing
(`resolve_vacant`), and this stays so until something is put there (`vacant_run`).
-/

namespace FileDepot.Memory

open FileDepot.Path FileDepot.Text

variable {config : Config} {m : Memory} {w : World Memory} {path q : String}

/-! ## Writing -/

/-- A path that leads below the root is not blank. -/
theorem trim_ne_nil_of_normalize (hq : normalize path = .ok q) (hne : q ≠ "") :
    Text.trim path.toList ≠ [] := by
  intro hblank
  have hlength := length_of_normalize hq
  rw [hblank, List.length_nil, Nat.le_zero, List.length_eq_zero_iff] at hlength
  exact hne (String.toList_inj.mp hlength)

/-- Where a file fits, a write is not refused. -/
theorem write_of_fits {content : ByteReader} {data : Bytes} (hq : normalize path = .ok q)
    (hdata : content.drain = .ok data) (hfits : m.Fits q) :
    m.write path content = (.ok (q, data.length), (m.put q data (m.clock m.ticks)).tick) := by
  have hdir : m.isDirectory q = false := by
    rw [Bool.eq_false_iff, Ne, isDirectory_iff, not_or]
    exact ⟨hfits.1, fun ⟨k, hk, habove⟩ => (hfits.2 k hk).1 habove⟩
  have hanc : (ancestors q).any m.files.contains = false := by
    rw [List.any_eq_false]
    exact fun k hk hstored => (hfits.2 k hstored).2 (mem_ancestors_iff.mp hk)
  simp only [write, hq, hdata, hdir, hanc, Bool.false_eq_true, if_false]

/-- A write is carried out only where a file fits. -/
theorem fits_of_write {content : ByteReader} {n : Nat} (h : (m.write path content).1 = .ok (q, n)) :
    normalize path = .ok q ∧ m.Fits q := by
  rcases write_cases m path content with ⟨e, hfail, -⟩ | ⟨q', data, e, -, -, hfail⟩ |
    ⟨q', data, hq, -, hdir, hanc, hput⟩
  · rw [hfail] at h
    cases h
  · rw [hfail] at h
    cases h
  · rw [hput] at h
    obtain ⟨rfl, -⟩ := Prod.mk.inj (Except.ok.inj h)
    exact ⟨hq, fits_of_accepted hdir hanc⟩

/-- Putting a file where it fits leaves a place where it fits. -/
theorem fits_put (hfits : m.Fits q) (data : Bytes) (now : Moment) : (m.put q data now).tick.Fits q := by
  refine ⟨hfits.1, fun k hk => ?_⟩
  rcases contains_insert.mp hk with rfl | hk
  · exact ⟨not_isAbove_self k, not_isAbove_self k⟩
  · exact hfits.2 k hk

/-! ## Saving -/

/-- **Save.** The procedure for saving hands the bytes of its payload to the store. -/
theorem procedure_save_exec (config : Config) (w : World Memory)
    (hpath : Text.trim path.toList ≠ []) {payload : Payload Memory} {content : ByteReader}
    {redeemed : List Nat}
    (hread : ∀ notes, (payload.toReader config.charset).exec { w with notes := notes } =
      (.ok content, { w with notes := notes, redeemed := redeemed })) (columns : List String) :
    ∃ c notes, ((adapter config).procedure (some "saveFile") (some path) (some payload) columns).exec w =
      (((w.store.write path content).1.mapError (Adapter.writeFault path)).map fun _ => c,
        ⟨(w.store.write path content).2, notes, w.issued, redeemed⟩) := by
  refine ⟨Adapter.finished ⟨.save, some path, some payload,
    if columns.isEmpty then Column.allNames else columns⟩, ?_⟩
  rw [Adapter.procedure_exec _ (Kind.ofProcedure_of_mem ("saveFile", .save) (by decide)), if_pos rfl]
  simp only [Adapter.execute, Adapter.save, Adapter.requiredPath_eq_ok hpath, Op.bind_exec,
    Op.ofExcept_exec, Op.note_exec, Op.mapFault_exec, hread, store, Op.onStore_exec, Op.pure_exec]
  rcases w.store.write path content with ⟨f | ⟨p, size⟩, after⟩
  · exact ⟨_, rfl⟩
  · exact ⟨_, rfl⟩

section

variable {file : List Point} {contentType : Option String} {payload : Payload Memory}
  {content : ByteReader} {redeemed : List Nat}
  (hpayload : Tools.payload file contentType = .ok payload)
  (hread : ∀ notes, (payload.toReader config.charset).exec { w with notes := notes } =
    (.ok content, { w with notes := notes, redeemed := redeemed }))

include hpayload

/-- Nothing is saved at a blank path. -/
theorem saveFile_blank (config : Config) (w : World Memory) (hpath : trim path.toList = []) :
    ∃ f w', (Tools.saveFile (adapter config) (some path) (some file) contentType).exec w =
      (.error f, w') := by
  have hrefused : isRefused (some (⟨.save, some path, some payload, Column.allNames⟩ : Request Memory)) =
      true := by
    simp [isRefused, isRefused.isBlank, hpath]
  obtain ⟨f, notes, hfail, -⟩ := (adapter config).execute_refused hrefused w
  refine ⟨f, { w with notes := notes }, ?_⟩
  have hsave : ((adapter config).procedure (some "saveFile") (some path) (some payload) []).exec w =
      (.error f, { w with notes := notes }) := by
    rw [Adapter.procedure_exec _ (Kind.ofProcedure_of_mem ("saveFile", .save) (by decide)), if_pos rfl]
    exact hfail
  simp only [Tools.saveFile, Op.bind_exec, Op.ofExcept_exec, hpayload, Op.discard_exec, hsave]
  rfl

include hread

/-- **Save.** The tool for saving hands the bytes of what is to be saved to the store. -/
theorem saveFile_exec (hpath : trim path.toList ≠ []) :
    let written := w.store.write path content
    ∃ notes, (Tools.saveFile (adapter config) (some path) (some file) contentType).exec w =
      ((written.1.mapError (Adapter.writeFault path)).map fun _ => "Saved " ++ path,
        ⟨written.2, notes, w.issued, redeemed⟩) := by
  intro written
  obtain ⟨c, notes, hsave⟩ := procedure_save_exec config w hpath hread []
  refine ⟨notes, ?_⟩
  simp only [Tools.saveFile, Op.bind_exec, Op.ofExcept_exec, hpayload, Op.discard_exec, hsave,
    Op.pure_exec, written]
  rcases w.store.write path content with ⟨f | done, after⟩ <;> rfl

/-- **Save.** A tool saves something only where a file fits. -/
theorem fits_of_saved {msg : String} {w' : World Memory}
    (h : (Tools.saveFile (adapter config) (some path) (some file) contentType).exec w = (.ok msg, w')) :
    ∃ q, normalize path = .ok q ∧ w.store.Fits q := by
  have hpath : trim path.toList ≠ [] := by
    intro hblank
    obtain ⟨f, w'', hfail⟩ := saveFile_blank hpayload config w hblank
    rw [hfail] at h
    cases h
  obtain ⟨notes, hsave⟩ := saveFile_exec hpayload hread hpath
  rw [hsave] at h
  rcases hwrite : w.store.write path content with ⟨e | ⟨q, n⟩, after⟩
  · rw [hwrite] at h
    cases h
  · exact ⟨q, fits_of_write (congrArg Prod.fst hwrite)⟩

/-- **Save.** Where a file fits, it is saved. -/
theorem saveFile_put {data : Bytes} (hdrain : content.drain = .ok data) (hq : normalize path = .ok q)
    (hfits : w.store.Fits q) :
    ∃ notes, (Tools.saveFile (adapter config) (some path) (some file) contentType).exec w =
      (.ok ("Saved " ++ path),
        ⟨(w.store.put q data (w.store.clock w.store.ticks)).tick, notes, w.issued, redeemed⟩) := by
  obtain ⟨notes, hsave⟩ := saveFile_exec hpayload hread (trim_ne_nil_of_normalize hq hfits.1)
  rw [write_of_fits hq hdrain hfits] at hsave
  exact ⟨notes, hsave⟩

end

/-! ## Removing -/

/-- **Remove.** A file that is stored is removed, and nothing else happens to the store. -/
theorem deleteFile_stored (config : Config) (hq : normalize path = .ok q) (hne : q ≠ "")
    (hstored : w.store.files.contains q = true) :
    ∃ notes, (Tools.deleteFile (adapter config) (some path)).exec w =
      (.ok ("Deleted " ++ path),
        ⟨{ w.store with files := w.store.files.erase q }, notes, w.issued, w.redeemed⟩) := by
  have hpath := trim_ne_nil_of_normalize hq hne
  have hremove : w.store.remove path = (.ok (some q), { w.store with files := w.store.files.erase q }) := by
    simp only [remove, hq, hstored, if_true]
  simp only [Tools.deleteFile, Op.bind_exec, Op.discard_exec,
    Adapter.procedure_exec _ (Kind.ofProcedure_of_mem ("deleteFile", .delete) (by decide)),
    Adapter.execute, Adapter.delete, Adapter.requiredPath_eq_ok hpath, Op.ofExcept_exec, Op.note_exec,
    Op.mapFault_exec, store, Op.onStore_exec, hremove, Op.pure_exec, Outcome.mapError_ok, if_true]
  exact ⟨_, rfl⟩

/-! ## Vacant paths -/

/-- Whether nothing is stored at a path or below it. -/
def Vacant (m : Memory) (q : String) : Prop :=
  ∀ k, m.files.contains k = true → k ≠ q ∧ ¬ IsAbove q k

/-- Whether an act puts nothing at a path or below it. -/
def Act.Spares (q : String) : Act → Prop
  | .write path _ => ∀ p, normalize path = .ok p → p ≠ q ∧ ¬ IsAbove q p
  | .remove _ => True
  | .mount data place => ∀ p ∈ (Act.mount data place).mounted, p ≠ q ∧ ¬ IsAbove q p

/-- Where a file fits, its path is vacant once it is removed. -/
theorem vacant_erase (hfits : m.Fits q) : Vacant { m with files := m.files.erase q } q := by
  intro k hk
  refine ⟨?_, (hfits.2 k (contains_of_erase hk)).1⟩
  rintro rfl
  rw [Catalog.contains, Catalog.get?_erase, if_pos rfl] at hk
  cases hk

/-- **Step.** A path stays vacant when nothing is put there. -/
theorem Vacant.act (h : m.Vacant q) {a : Act} (ha : a.Spares q) : (a.run m).Vacant q := by
  intro k hk
  cases a with
  | write path content =>
    rcases write_cases m path content with ⟨f, hw, -⟩ | ⟨p, data, f, -, -, hw⟩ |
      ⟨p, data, hp, -, -, -, hw⟩
    · rw [Act.run, hw] at hk
      exact h k hk
    · rw [Act.run, hw] at hk
      exact h k hk
    · rw [Act.run, hw] at hk
      rcases contains_insert.mp hk with rfl | hk
      · exact ha k hp
      · exact h k hk
  | remove path =>
    rcases remove_cases m path with ⟨f, hr⟩ | hr | ⟨p, -, -, hr⟩
    · rw [Act.run, hr] at hk
      exact h k hk
    · rw [Act.run, hr] at hk
      exact h k hk
    · rw [Act.run, hr] at hk
      exact h k (contains_of_erase hk)
  | mount data place =>
    rw [Act.Spares] at ha
    rw [Act.run, contains_mount] at hk
    rcases hk with hk | hk
    · exact ha k hk
    · exact h k hk

/-- **Run.** A path stays vacant as long as nothing is put there. -/
theorem vacant_run (h : m.Vacant q) {acts : List Act} (hacts : ∀ a ∈ acts, a.Spares q) :
    (run m acts).Vacant q :=
  run_induction (P := fun m => m.Vacant q) (fun _ a ha h => Vacant.act h (hacts a ha)) h

/-- A vacant path without wildcards stands for nothing. -/
theorem resolve_vacant (hclear : Clear (segments (Path.normalize path)))
    (hliteral : ∀ n ∈ segments (Path.normalize path), hasWildcard n = false)
    (hq : normalize path = .ok q) (hne : q ≠ "") (h : m.Vacant q) : m.resolve path = .ok [] := by
  obtain ⟨hsplit, -⟩ := splitPattern_literal hclear hliteral hq
  have hfile : ¬ m.files.contains q = true := fun hstored => (h q hstored).1 rfl
  have hfront : front q = q ++ "/" := by
    rw [front, if_neg (by simpa using hne)]
  have hbelow : ∀ k ∈ m.files.keys, stripFront? (q ++ "/") k = none := fun k hk => by
    rw [← Option.not_isSome_iff_eq_none, isSome_stripFront?_iff]
    exact (h k (Catalog.mem_keys.mp hk)).2
  have hselect : m.select q "" = [] := by
    rw [select, if_pos (by rfl), if_neg hfile, hfront, List.filter_eq_nil_iff]
    intro k hk
    rw [hbelow k hk]
    simp
  rw [resolve_eq hq, hsplit, hselect]
  simp

end FileDepot.Memory
