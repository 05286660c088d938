import FileDepot.Proofs.Memory.Acts

/-!
# What a mount leaves behind

Mounting puts the entries of an archive at their paths one after the other, and stops at the first one
that fails. What was put by then stays. `entryFault?` says why an entry fails, `mountedFiles` what the
others become.

* **entries** — `mountEntries_eq`: all entries are put, or those in front of the first one that fails;
* **mount** — `mount_fails`: what a failed mount leaves, exactly.
-/

namespace FileDepot.Memory

/-- Why an entry of an archive cannot be mounted at a normal place, if it cannot. -/
def entryFault? (place : String) (data : Bytes) (e : Archive.Entry) : Option Fault :=
  if e.name.isEmpty then some (.archive .noName)
  else if e.isDirectory then none
  else match mountedEntry place data e with
    | .error f => some f
    | .ok _ => none

/-- The files that entries are mounted as at a normal place, in order. A directory is none. -/
def mountedFiles (place : String) (data : Bytes) (entries : List Archive.Entry) :
    List (String × MemoryFile) :=
  entries.filterMap fun e =>
    if e.isDirectory then none else (mountedEntry place data e).toOption

/-- Put files at their paths, one after the other. -/
def load (m : Memory) (files : List (String × MemoryFile)) : Memory :=
  files.foldl (fun m f => { m with files := m.files.insert f.1 f.2 }) m

/-! ## Putting files -/

@[simp] theorem load_nil (m : Memory) : m.load [] = m := rfl

@[simp] theorem load_cons (m : Memory) (f : String × MemoryFile) (files : List (String × MemoryFile)) :
    m.load (f :: files) = { m with files := m.files.insert f.1 f.2 }.load files := rfl

theorem load_clock (files : List (String × MemoryFile)) (m : Memory) :
    (m.load files).clock = m.clock ∧ (m.load files).ticks = m.ticks := by
  induction files generalizing m with
  | nil => exact ⟨rfl, rfl⟩
  | cons f rest ih => exact ih _

/-- A path holds the last file that was put there, or what it held before. -/
theorem get?_load (files : List (String × MemoryFile)) (m : Memory) (p : String) :
    (m.load files).files.get? p = (files.reverse.lookup p).or (m.files.get? p) := by
  induction files generalizing m with
  | nil => simp
  | cons f rest ih =>
    obtain ⟨q, file⟩ := f
    rw [load_cons, ih, Catalog.get?_insert, List.reverse_cons, List.lookup_append, Option.or_assoc]
    by_cases hp : p = q
    · subst hp
      simp
    · have hq : (p == q) = false := by simpa using hp
      simp [List.lookup_cons, hp, hq]

/-! ## Entries -/

variable {place : String} {data : Bytes} {e : Archive.Entry} {entries rest : List Archive.Entry}

/-- An entry that does not fail is a directory or is mounted as a file. -/
theorem entryFault?_eq_none (h : entryFault? place data e = none) :
    e.name.isEmpty = false ∧
      (e.isDirectory = true ∨ ∃ file, e.isDirectory = false ∧ mountedEntry place data e = .ok file) := by
  rw [entryFault?] at h
  split at h
  · cases h
  · rename_i hname
    refine ⟨by simpa using hname, ?_⟩
    split at h
    · rename_i hdir
      exact .inl hdir
    · rename_i hdir
      split at h
      · cases h
      · rename_i file hfile
        exact .inr ⟨file, by simpa using hdir, hfile⟩

/-- Mounting stops at an entry that fails. -/
theorem mountEntries_cons_fault {f : Fault} (h : entryFault? place data e = some f) (m : Memory)
    (count : Nat) : mountEntries place data count m (e :: rest) = (.error f, m) := by
  rw [entryFault?] at h
  rw [mountEntries]
  split at h
  · rename_i hname
    rw [if_pos hname, Option.some.inj h]
  · rename_i hname
    rw [if_neg hname]
    split at h
    · cases h
    · rename_i hdir
      rw [if_neg hdir]
      split at h
      · rename_i hfile
        rw [hfile, Option.some.inj h]
      · cases h

/-- Mounting goes on after an entry that does not fail. -/
theorem mountEntries_cons (h : entryFault? place data e = none) (m : Memory) (count : Nat) :
    mountEntries place data count m (e :: rest) =
      mountEntries place data (count + (mountedFiles place data [e]).length)
        (m.load (mountedFiles place data [e])) rest := by
  obtain ⟨hname, hdir | ⟨file, hdir, hfile⟩⟩ := entryFault?_eq_none h
  · simp [mountEntries, mountedFiles, hname, hdir]
  · simp [mountEntries, mountedFiles, hname, hdir, hfile, Except.toOption]

theorem mountedFiles_cons (e : Archive.Entry) (rest : List Archive.Entry) :
    mountedFiles place data (e :: rest) = mountedFiles place data [e] ++ mountedFiles place data rest :=
  List.filterMap_append (l := [e])

theorem load_append (m : Memory) (files more : List (String × MemoryFile)) :
    m.load (files ++ more) = (m.load files).load more :=
  List.foldl_append

/-- The entries in front of the first one that fails: all of them when none does. -/
def mountable (place : String) (data : Bytes) (entries : List Archive.Entry) : List Archive.Entry :=
  entries.takeWhile fun e => (entryFault? place data e).isNone

/-- **Entries.** Mounting puts the entries in front of the first one that fails. -/
theorem mountEntries_eq (entries : List Archive.Entry) (m : Memory) (count : Nat) :
    mountEntries place data count m entries =
      (match entries.findSome? (entryFault? place data) with
        | none => .ok (count + (mountedFiles place data (mountable place data entries)).length)
        | some f => .error f,
      m.load (mountedFiles place data (mountable place data entries))) := by
  induction entries generalizing m count with
  | nil => rfl
  | cons e rest ih =>
    cases h : entryFault? place data e with
    | some f =>
      rw [mountEntries_cons_fault h]
      simp [h, mountable, mountedFiles]
    | none =>
      have hmountable : mountable place data (e :: rest) = e :: mountable place data rest := by
        simp [mountable, h]
      rw [mountEntries_cons h, ih, hmountable, mountedFiles_cons e (mountable place data rest),
        load_append, List.length_append, List.findSome?_cons, h, Nat.add_assoc]

/-- Mounting fails at the first entry that does, when those in front of it are put. -/
theorem mountEntries_eq_error_iff {m m' : Memory} {count : Nat} {f : Fault} :
    mountEntries place data count m entries = (.error f, m') ↔
      ∃ before e after, entries = before ++ e :: after ∧
        (∀ b ∈ before, entryFault? place data b = none) ∧ entryFault? place data e = some f ∧
        m' = m.load (mountedFiles place data before) := by
  have hmountable {before after : List Archive.Entry} {e : Archive.Entry}
      (hbefore : ∀ b ∈ before, entryFault? place data b = none)
      (he : entryFault? place data e = some f) :
      mountable place data (before ++ e :: after) = before := by
    rw [mountable, List.takeWhile_append_of_pos (fun b hb => by simp [hbefore b hb]),
      List.takeWhile_cons_of_neg (by simp [he]), List.append_nil]
  rw [mountEntries_eq, Prod.mk.injEq]
  constructor
  · rintro ⟨hfault, rfl⟩
    split at hfault
    · cases hfault
    · rename_i g hg
      obtain rfl := Except.error.inj hfault
      obtain ⟨before, e, after, rfl, he, hbefore⟩ := List.findSome?_eq_some_iff.mp hg
      exact ⟨before, e, after, rfl, hbefore, he, by rw [hmountable hbefore he]⟩
  · rintro ⟨before, e, after, rfl, hbefore, he, rfl⟩
    rw [hmountable hbefore he, List.findSome?_eq_some_iff.mpr ⟨before, e, after, rfl, he, hbefore⟩]
    exact ⟨rfl, rfl⟩

/-! ## Archives -/

/-- A mount that is not refused as a whole fails when putting its entries does. -/
theorem mount_eq_error_iff {p : String} (hplace : normalize place = .ok p)
    (hentries : archiveEntries data = .ok entries) {m m' : Memory} {f : Fault} :
    m.mount data place = (.error f, m') ↔ mountEntries p data 0 m entries = (.error f, m') := by
  simp only [mount, hplace, hentries]
  rcases mountEntries p data 0 m entries with ⟨_ | count, k⟩ <;> simp

/-- **A failed mount keeps what it had put.** Mounting fails because the place or the data as a whole is
refused, and then the store is left as it was; or it fails at an entry, and then the store is left with
the files of the entries in front of that one put at their paths. Putting files sets each of their paths
to the last file for it, leaves every other path alone, and does not read the clock. -/
theorem mount_fails (m : Memory) (data : Bytes) (place : String) :
    (∀ f m', m.mount data place = (.error f, m') ↔
      (m' = m ∧ (normalize place = .error f ∨
        ∃ p, normalize place = .ok p ∧ archiveEntries data = .error f)) ∨
      ∃ p before e after, normalize place = .ok p ∧
        archiveEntries data = .ok (before ++ e :: after) ∧
        (∀ b ∈ before, entryFault? p data b = none) ∧ entryFault? p data e = some f ∧
        m' = m.load (mountedFiles p data before)) ∧
    ∀ files, (m.load files).clock = m.clock ∧ (m.load files).ticks = m.ticks ∧
      ∀ p, (m.load files).files.get? p = (files.reverse.lookup p).or (m.files.get? p) := by
  refine ⟨fun f m' => ?_, fun files => ?_⟩
  · cases hplace : normalize place with
    | error g => simp [mount, hplace, eq_comm, and_comm]
    | ok p =>
      cases hentries : archiveEntries data with
      | error g => simp [mount, hplace, hentries, eq_comm, and_comm]
      | ok entries =>
        rw [mount_eq_error_iff hplace hentries, mountEntries_eq_error_iff]
        simp
  · obtain ⟨hclock, hticks⟩ := load_clock files m
    exact ⟨hclock, hticks, get?_load files m⟩

/-! ### An archive that shows it -/

/-- A number in so many bytes, lowest byte first. -/
def littleEndian : (size n : Nat) → Bytes
  | 0, _ => []
  | size + 1, n => UInt8.ofNat n :: littleEndian size (n / 256)

/-- What the header of an empty file of the first day of 1980 and its entry in the directory share. -/
def emptyFileFields (name : Bytes) : Bytes :=
  littleEndian 2 20 ++ List.replicate 6 0 ++ littleEndian 2 33 ++ List.replicate 12 0 ++
    littleEndian 4 name.length

/-- An archive of empty files, one for each name. -/
def archiveOfEmptyFiles (names : List String) : Bytes :=
  let names := names.map fun n => n.toList.map fun c => UInt8.ofNat c.toNat
  let headers := names.map fun n => [0x50, 0x4b, 3, 4] ++ emptyFileFields n ++ n
  let directory := (List.range names.length).flatMap fun i =>
    let name := names[i]?.getD []
    [0x50, 0x4b, 1, 2] ++ littleEndian 2 20 ++ emptyFileFields name ++ List.replicate 10 0 ++
      littleEndian 4 (headers.take i).flatten.length ++ name
  headers.flatten ++ directory ++ [0x50, 0x4b, 5, 6, 0, 0, 0, 0] ++ littleEndian 2 names.length ++
    littleEndian 2 names.length ++ littleEndian 4 directory.length ++
    littleEndian 4 headers.flatten.length ++ [0, 0]

/-- The entry of an empty file in such an archive. -/
def emptyFileEntry (name : String) (place bound : Int) : Archive.Entry :=
  ⟨name, 20, 0, 0, 0, 33, 0, 0, 0, 0, place, bound⟩

/-- The entries of an archive, by the record at its end and by what its directory lists. -/
theorem entries_of_read {data : Bytes} {r : Archive.EndRecord} {start : Nat}
    {list : List Archive.Entry} (hrecord : Archive.endRecord data = .ok r)
    (hstart : (r.place : Int) - r.size - (if r.isLarge then 76 else 0) = start)
    (hread : Archive.readEntries (start - r.offset) (r.size / 46 + 2) r.size
      (data.slice start r.size) = .ok list) :
    Archive.entries data = .ok (Archive.withBounds start list) := by
  simp only [Archive.entries, hrecord, Outcome.ok_bind, hstart, Int.toNat_natCast, hread]
  rw [if_neg (by omega)]
  rfl

theorem archiveEntries_eq_ok {data : Bytes} {list : List Archive.Entry}
    (h : Archive.entries data = .ok list) : archiveEntries data = .ok list := by
  unfold archiveEntries
  rw [h]

/-- Mounting an archive whose second name leads upwards fails, and the first file is there. -/
theorem mount_keeps_front :
    let m := empty fun n => ⟨n⟩
    let data := archiveOfEmptyFiles ["a", ".."]
    (m.mount data "").1 = .error (.upward "..") ∧ m.files.contains "a" = false ∧
      (m.mount data "").2.files.get? "a" = some ⟨[], ⟨315532800000000⟩, none⟩ := by
  intro m data
  -- the bounds of the entries are sorted by recursion on their number, which does not compute
  have hsort : ([(0, 0), (31, 1)] : List (Int × Nat)).mergeSort (fun a b => b.1 ≤ a.1) =
      [(31, 1), (0, 0)] := by
    simp [List.mergeSort, List.MergeSort.Internal.splitInTwo, List.splitAt, List.splitAt.go]
  have hbounds : Archive.withBounds 63 [emptyFileEntry "a" 0 0, emptyFileEntry ".." 31 0] =
      [emptyFileEntry "a" 0 31, emptyFileEntry ".." 31 63] := by
    have hplaces : ([emptyFileEntry "a" 0 0, emptyFileEntry ".." 31 0].map (·.place)).zipIdx =
      [(0, 0), (31, 1)] := rfl
    simp only [Archive.withBounds, hplaces, hsort]
    rfl
  have hentries : archiveEntries data = .ok [emptyFileEntry "a" 0 31, emptyFileEntry ".." 31 63] := by
    have hrecord : Archive.endRecord data = .ok ⟨158, 95, 63, false⟩ := by decide +kernel
    have hstart : ((158 : Nat) : Int) - (95 : Nat) - (if false then 76 else 0) = (63 : Nat) := rfl
    have hread : Archive.readEntries ((63 : Nat) - (63 : Nat)) (95 / 46 + 2) 95 (data.slice 63 95) =
        .ok [emptyFileEntry "a" 0 0, emptyFileEntry ".." 31 0] := by decide +kernel
    exact archiveEntries_eq_ok
      ((entries_of_read hrecord hstart hread).trans (congrArg Except.ok hbounds))
  have hplace : normalize "" = .ok "" := by decide +kernel
  have hmount : m.mount data "" = (.error (.upward ".."),
      m.load (mountedFiles "" data [emptyFileEntry "a" 0 31])) := by
    rw [mount_eq_error_iff hplace hentries, mountEntries_eq_error_iff]
    refine ⟨[emptyFileEntry "a" 0 31], emptyFileEntry ".." 31 63, [], rfl, ?_, ?_, rfl⟩
    · decide +kernel
    · decide +kernel
  rw [hmount]
  decide +kernel

end FileDepot.Memory
