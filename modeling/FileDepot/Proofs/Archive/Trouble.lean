import FileDepot.Archive.Entry
import FileDepot.Proofs.Outcome

/-!
# Trouble with archives

What reading the directory of an archive fails with, which entries can be read, and which of them have a
time.

* **directory** — `entries_fails`: what reading the directory fails with;
* **contents** — `contents_eq_ok`: what contents that can be read are like;
* **moment** — `modified_eq_error_iff`: the fields that name no moment.
-/

namespace FileDepot.Archive

open Outcome

/-! ## The directory -/

/-- The faults that reading the directory of an archive can meet. -/
inductive Fault.OfDirectory : Fault → Prop
  /-- the data as a whole is no archive -/
  | structural {f : Fault} (h : f.isStructural = true) : OfDirectory f
  /-- an entry needs a later version -/
  | version (tenths : Nat) : OfDirectory (.version tenths)
  /-- the name of an entry cannot be decoded -/
  | badName (f : Encoding.Fault) : OfDirectory (.badName f)

theorem decodeName_fails {P : Fault → Prop} (hP : ∀ f, P (.badName f)) (isUtf8 : Bool)
    (data : Bytes) : FailsOnly P (decodeName isUtf8 data) := by
  unfold decodeName
  dsimp only
  split
  · exact failsOnly_ok _
  · exact failsOnly_error (hP _)

theorem takeLarge_fails (field : String) (data : Bytes) :
    FailsOnly Fault.OfDirectory (takeLarge field data) :=
  failsOnly_ite (failsOnly_error (.structural rfl)) (failsOnly_ok _)

theorem entryWithLarge_fails (e : Entry) (data : Bytes) :
    FailsOnly Fault.OfDirectory (e.withLarge data) := by
  unfold Entry.withLarge
  refine failsOnly_ite_bind (takeLarge_fails _ _) fun (size, data) => ?_
  refine failsOnly_ite_bind (takeLarge_fails _ _) fun (packed, data) => ?_
  refine failsOnly_ite ?_ (failsOnly_ok _)
  exact (takeLarge_fails _ _).bind fun _ => failsOnly_ok _

theorem withExtra_fails (fuel : Nat) (e : Entry) (extra : Bytes) :
    FailsOnly Fault.OfDirectory (e.withExtra fuel extra) := by
  induction fuel generalizing e extra with
  | zero => exact failsOnly_ok _
  | succ fuel ih =>
    unfold Entry.withExtra
    refine failsOnly_ite (failsOnly_ok _) ?_
    refine failsOnly_ite (failsOnly_error (.structural rfl)) ?_
    exact failsOnly_ite_bind (entryWithLarge_fails _ _) fun _ => ih _ _

theorem readEntry_fails (shift : Int) (d : Bytes) :
    FailsOnly Fault.OfDirectory (readEntry shift d) := by
  unfold readEntry
  refine failsOnly_ite (failsOnly_error (.structural rfl)) ?_
  refine failsOnly_ite (failsOnly_error (.structural rfl)) ?_
  refine (decodeName_fails .badName _ _).bind fun name => ?_
  refine failsOnly_ite (failsOnly_error (.version _)) ?_
  exact (withExtra_fails _ _ _).bind fun _ => failsOnly_ok _

theorem readEntries_fails (shift : Int) (fuel left : Nat) (d : Bytes) :
    FailsOnly Fault.OfDirectory (readEntries shift fuel left d) := by
  induction fuel generalizing left d with
  | zero => exact failsOnly_ok _
  | succ fuel ih =>
    unfold readEntries
    refine failsOnly_ite (failsOnly_ok _) ?_
    exact (readEntry_fails shift d).bind fun _ => (ih _ _).bind fun _ => failsOnly_ok _

theorem withLarge_fails (data : Bytes) (r : EndRecord) :
    FailsOnly Fault.OfDirectory (withLarge data r) := by
  unfold withLarge
  refine failsOnly_ite (failsOnly_ok _) ?_
  refine failsOnly_ite (failsOnly_error (.structural rfl)) ?_
  exact failsOnly_ite (failsOnly_ok _) (failsOnly_ok _)

theorem endRecord_fails (data : Bytes) : FailsOnly Fault.OfDirectory (endRecord data) := by
  unfold endRecord
  extract_lets last read begin
  have hread (place : Nat) : FailsOnly Fault.OfDirectory (read place) := withLarge_fails _ _
  refine failsOnly_ite (hread _) ?_
  cases Bytes.findLast? endMark (data.drop begin) with
  | none => exact failsOnly_error (.structural rfl)
  | some i => exact failsOnly_ite (failsOnly_error (.structural rfl)) (hread _)

/-- **Directory.** The directory of an archive cannot be read because the data as a whole is no archive, an
entry needs a later version, or the name of one cannot be decoded. -/
theorem entries_fails (data : Bytes) : FailsOnly Fault.OfDirectory (entries data) := by
  unfold entries
  refine (endRecord_fails data).bind fun r => ?_
  refine failsOnly_ite (failsOnly_error (.structural rfl)) ?_
  exact (readEntries_fails _ _ _ _).bind fun _ => failsOnly_ok _

/-! ## Contents -/

/-- The header of an entry is accepted when the entry is not encrypted and its method is known. -/
theorem contentsStart_eq_ok {e : Entry} {data : Bytes} {start : Nat}
    (h : e.contentsStart data = .ok start) : e.hasFlag 0 = false ∧ e.method ∈ Entry.methods := by
  unfold Entry.contentsStart at h
  -- the place, the header and the flags for what is not supported
  obtain ⟨-, h⟩ := check_eq_ok h
  obtain ⟨-, h⟩ := check_eq_ok h
  obtain ⟨-, h⟩ := check_eq_ok h
  obtain ⟨-, h⟩ := check_eq_ok h
  obtain ⟨-, h⟩ := check_eq_ok h
  obtain ⟨-, h⟩ := check_eq_ok h
  obtain ⟨name, -, h⟩ := bind_eq_ok h
  -- the name and the bound
  obtain ⟨-, h⟩ := check_eq_ok h
  obtain ⟨-, h⟩ := check_eq_ok h
  obtain ⟨hencrypted, h⟩ := check_eq_ok h
  obtain ⟨hmethod, -⟩ := check_eq_ok h
  exact ⟨by simpa using hencrypted, by simpa using hmethod⟩

/-- **Contents.** Contents are read only from an entry that is not encrypted, by a known method, and they fit
their checksum and their size. -/
theorem contents_eq_ok {e : Entry} {data contents : Bytes} (h : e.contents data = .ok contents) :
    e.hasFlag 0 = false ∧ e.method ∈ Entry.methods ∧ Bytes.Crc32.checksum contents = e.crc ∧
      contents.length ≤ e.size := by
  obtain ⟨start, hstart, h⟩ := bind_eq_ok h
  obtain ⟨-, h⟩ := check_eq_ok h
  obtain ⟨u, -, h⟩ := bind_eq_ok h
  obtain ⟨-, h⟩ := check_eq_ok h
  obtain ⟨hcrc, h⟩ := check_eq_ok h
  obtain rfl := Except.ok.inj h
  obtain ⟨hencrypted, hmethod⟩ := contentsStart_eq_ok hstart
  exact ⟨hencrypted, hmethod, Decidable.not_not.mp hcrc, List.length_take_le _ _⟩

/-! ## The time of an entry -/

/-- Whether the packed fields of an entry name a moment. -/
structure Entry.IsDated (e : Entry) : Prop where
  /-- the month is one of the twelve -/
  month : 1 ≤ e.date / 32 % 16 ∧ e.date / 32 % 16 ≤ 12
  /-- the month has such a day -/
  day : 1 ≤ e.date % 32 ∧
    e.date % 32 ≤ Moment.daysInMonth (e.date / 512 + 1980) (e.date / 32 % 16)
  /-- the day has such an hour -/
  hour : e.time / 2048 ≤ 23
  /-- the hour has such a minute -/
  minute : e.time / 32 % 64 ≤ 59
  /-- the minute has such a second -/
  second : e.time % 32 * 2 ≤ 59

theorem modified_of_isDated {e : Entry} (h : e.IsDated) : ∃ t, e.modified = .ok t := by
  obtain ⟨⟨hmonth₁, hmonth₂⟩, ⟨hday₁, hday₂⟩, hhour, hminute, hsecond⟩ := h
  rw [Entry.modified, Moment.ofFields, if_neg (by simp; omega), if_neg (by simp; omega),
    if_neg (by omega), if_neg (by omega), if_neg (by omega)]
  exact ⟨_, rfl⟩

theorem isDated_of_modified {e : Entry} {t : Moment} (h : e.modified = .ok t) : e.IsDated := by
  rw [Entry.modified, Moment.ofFields] at h
  split at h
  · cases h
  · rename_i hmonth
    split at h
    · cases h
    · rename_i hday
      split at h
      · cases h
      · split at h
        · cases h
        · split at h
          · cases h
          · simp only [Bool.or_eq_true, decide_eq_true_eq] at hmonth hday
            exact ⟨by omega, by omega, by omega, by omega, by omega⟩

/-- **Moment.** An entry has no time exactly when its packed fields name no moment. -/
theorem modified_eq_error_iff (e : Entry) : (∃ f, e.modified = .error f) ↔ ¬ e.IsDated := by
  constructor
  · rintro ⟨f, hf⟩ hdated
    obtain ⟨t, ht⟩ := modified_of_isDated hdated
    rw [hf] at ht
    cases ht
  · intro hdated
    cases h : e.modified with
    | error f => exact ⟨f, rfl⟩
    | ok t => exact absurd (isDated_of_modified h) hdated

end FileDepot.Archive
