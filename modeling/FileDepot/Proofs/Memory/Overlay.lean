import FileDepot.Proofs.Memory.Mount
import FileDepot.Proofs.Operation
import FileDepot.Server
import Mathlib.Data.List.TakeWhile
import Mathlib.Data.Prod.Basic

/-!
# Archives over files

A mount that succeeds puts every entry of its archive that is no directory at the path that the name of the
entry leads to. Where several lead to one path, the last of them stays. What an archive puts does not depend
on the store that it is mounted in, so a mount lays the files of its archive over those that are there.

* **last** — `lookup_mountedFiles`: what an archive has for a path;
* **over** — `get?_mount_over`: a mount in any store is one in an empty store, laid over the files;
* **mount** — `mount_overlays`: what a mount that succeeds leaves behind, and two of them in a row.
-/

namespace FileDepot.Memory

variable {m m' : Memory} {place p q : String} {data : Bytes} {entries : List Archive.Entry}

/-- Whether an entry of an archive that is mounted at a normal place is a file that goes to a path. -/
def GoesTo (p q : String) (e : Archive.Entry) : Prop :=
  e.isDirectory = false ∧ normalize (Path.append p e.name) = .ok q

instance (p q : String) (e : Archive.Entry) : Decidable (GoesTo p q e) :=
  inferInstanceAs (Decidable (_ ∧ _))

/-! ## The files of an archive -/

/-- A mount that succeeds has put all entries. -/
theorem mount_eq_ok {count : Nat} (h : m.mount data place = (.ok (count, p), m')) :
    ∃ entries, normalize place = .ok p ∧ archiveEntries data = .ok entries ∧
      (∀ e ∈ entries, entryFault? p data e = none) ∧
      count = (mountedFiles p data entries).length ∧ m' = m.load (mountedFiles p data entries) := by
  rw [mount] at h
  cases hplace : normalize place with
  | error f =>
    rw [hplace] at h
    cases h
  | ok r =>
    rw [hplace] at h
    cases hentries : archiveEntries data with
    | error f =>
      rw [hentries] at h
      cases h
    | ok entries =>
      simp only [hentries, mountEntries_eq] at h
      cases hfault : entries.findSome? (entryFault? r data) with
      | some f =>
        rw [hfault] at h
        cases h
      | none =>
        have hall := List.findSome?_eq_none_iff.mp hfault
        have hmountable : mountable r data entries = entries :=
          List.takeWhile_eq_self_iff.mpr fun e he => by simp [hall e he]
        rw [hfault, hmountable] at h
        obtain ⟨hvalue, rfl⟩ := Prod.mk.inj h
        obtain ⟨rfl, rfl⟩ := Prod.mk.inj (Except.ok.inj hvalue)
        exact ⟨entries, rfl, rfl, hall, Nat.zero_add _, rfl⟩

/-- Of entries that do not fail, those that are no directories are mounted as files. -/
theorem length_mountedFiles (hall : ∀ e ∈ entries, entryFault? p data e = none) :
    (mountedFiles p data entries).length = (entries.filter (!·.isDirectory)).length := by
  induction entries with
  | nil => rfl
  | cons e rest ih =>
    have hrest := ih fun b hb => hall b (List.mem_cons_of_mem _ hb)
    rw [mountedFiles_cons, List.length_append, hrest]
    obtain ⟨-, hdir | ⟨file, hdir, hfile⟩⟩ := entryFault?_eq_none (hall e (List.mem_cons_self ..))
    · simp [mountedFiles, hdir]
    · simp [mountedFiles, hdir, hfile, Except.toOption, Nat.add_comm]

/-- An entry that goes to a path and does not fail is mounted there, with its contents and its time. -/
theorem mountedFiles_of_goesTo {e : Archive.Entry} (hfault : entryFault? p data e = none)
    (he : GoesTo p q e) : ∃ contents modified, e.contents data = .ok contents ∧
      e.modified = .ok modified ∧ mountedFiles p data [e] = [(q, ⟨contents, modified, none⟩)] := by
  obtain ⟨hdir, hpath⟩ := he
  obtain ⟨-, hdir' | ⟨⟨r, file⟩, -, hfile⟩⟩ := entryFault?_eq_none hfault
  · rw [hdir] at hdir'
    cases hdir'
  · obtain ⟨hr, hcontents, hmodified, hcreated⟩ := mountedEntry_eq_ok hfile
    obtain rfl := Except.ok.inj (hpath.symm.trans hr)
    obtain ⟨contents, modified, created⟩ := file
    obtain rfl : created = none := hcreated
    exact ⟨contents, modified, hcontents, hmodified,
      by simp [mountedFiles, hdir, hfile, Except.toOption]⟩

/-- An archive has nothing for a path that none of its entries goes to. -/
theorem lookup_mountedFiles_eq_none (hnone : ∀ e ∈ entries, ¬ GoesTo p q e) :
    (mountedFiles p data entries).reverse.lookup q = none := by
  rw [List.lookup_eq_none_iff]
  intro ⟨r, file⟩ hin
  obtain ⟨e, he, hfile⟩ := List.mem_filterMap.mp (List.mem_reverse.mp hin)
  split at hfile
  · cases hfile
  · rename_i hdir
    cases hentry : mountedEntry p data e with
    | error f =>
      rw [hentry] at hfile
      cases hfile
    | ok found =>
      rw [hentry] at hfile
      obtain rfl : found = (r, file) := Option.some.inj hfile
      have hne : q ≠ r := by
        rintro rfl
        exact hnone e he ⟨by simpa using hdir, (mountedEntry_eq_ok hentry).1⟩
      simpa using hne

/-- **Last.** What an archive has for a path is the last of the entries that go there. -/
theorem lookup_mountedFiles (before : List Archive.Entry) {after : List Archive.Entry}
    {e : Archive.Entry} (hfault : entryFault? p data e = none) (he : GoesTo p q e)
    (hafter : ∀ x ∈ after, ¬ GoesTo p q x) : ∃ contents modified, e.contents data = .ok contents ∧
      e.modified = .ok modified ∧
      (mountedFiles p data (before ++ e :: after)).reverse.lookup q =
        some ⟨contents, modified, none⟩ := by
  obtain ⟨contents, modified, hcontents, hmodified, hfile⟩ := mountedFiles_of_goesTo hfault he
  refine ⟨contents, modified, hcontents, hmodified, ?_⟩
  have hparts : mountedFiles p data (before ++ e :: after) =
      mountedFiles p data before ++ (mountedFiles p data [e] ++ mountedFiles p data after) := by
    rw [← mountedFiles_cons]
    exact List.filterMap_append
  rw [hparts, hfile, List.reverse_append, List.reverse_append, List.lookup_append,
    List.lookup_append, lookup_mountedFiles_eq_none hafter]
  simp

/-! ## Over other files -/

/-- Whether a mount succeeds, and with which answer, does not depend on the store. -/
theorem mount_answer (m m' : Memory) (data : Bytes) (place : String) :
    (m.mount data place).1 = (m'.mount data place).1 := by
  rw [mount, mount]
  cases normalize place with
  | error f => rfl
  | ok p =>
    cases archiveEntries data with
    | error f => rfl
    | ok entries =>
      simp only [mountEntries_eq]
      cases entries.findSome? (entryFault? p data) <;> rfl

/-- **Over.** A mount in any store is one in an empty store, laid over the files that are there. -/
theorem get?_mount_over (m : Memory) (clock : Nat → Moment) (data : Bytes) (place q : String) :
    (m.mount data place).2.files.get? q =
      (((empty clock).mount data place).2.files.get? q).or (m.files.get? q) := by
  have hempty : (empty clock).files.get? q = none := Catalog.get?_empty q
  rcases mount_cases m data place with ⟨hm, hrefused⟩ | ⟨p, entries, hplace, hentries, hm⟩
  · rcases mount_cases (empty clock) data place with ⟨hm', -⟩ | ⟨p, entries, hplace, hentries, -⟩
    · rw [hm, hm', hempty, Option.none_or]
    · rcases hrefused with ⟨f, hf⟩ | ⟨f, hf⟩
      · cases hf.symm.trans hplace
      · cases hf.symm.trans hentries
  · rcases mount_cases (empty clock) data place with ⟨-, hrefused⟩ | ⟨p', entries', hplace', hentries', hm'⟩
    · rcases hrefused with ⟨f, hf⟩ | ⟨f, hf⟩
      · cases hf.symm.trans hplace
      · cases hf.symm.trans hentries
    · obtain rfl := Except.ok.inj (hplace.symm.trans hplace')
      obtain rfl := Except.ok.inj (hentries.symm.trans hentries')
      rw [hm, hm', mountEntries_eq, mountEntries_eq, get?_load, get?_load, hempty, Option.or_none]

/-- Mounting as an operation changes the store as mounting does. -/
theorem mountOp_exec {count : Nat} {w : World Memory}
    (h : w.store.mount data place = (.ok (count, p), m')) :
    ∃ w', (mountOp data place).exec w = (.ok count, w') ∧ w'.store = m' := by
  simp only [mountOp, Op.bind_exec, Op.onStore_exec, h, Op.note_exec, Op.pure_exec]
  exact ⟨_, rfl, rfl⟩

/-- Filling a store mounts one archive and then the other. -/
theorem fill_exec {s : Sources} {path : String} {first second : Bytes} {time : Moment}
    {count₁ count₂ : Nat} {p₁ p₂ : String} {m₁ m₂ : Memory}
    (hread : s.disk.readFile s.here path = .ok (first, time))
    (h₁ : m.mount first "" = (.ok (count₁, p₁), m₁))
    (h₂ : m₁.mount second "" = (.ok (count₂, p₂), m₂)) :
    ∃ w, (s.fill (some path) (some second)).exec (.fresh m) = (.ok (), w) ∧ w.store = m₂ := by
  obtain ⟨w₁, hfirst, rfl⟩ := mountOp_exec (w := .fresh m) h₁
  obtain ⟨w₂, hsecond, hstore⟩ := mountOp_exec h₂
  refine ⟨w₂, ?_, hstore⟩
  simp only [Sources.fill, Sources.mountFile, hread, Op.bind_exec, Op.ofExcept_exec,
    Outcome.mapError_ok, Op.discard_exec, hfirst, hsecond, Except.map]

/-! ## Mounting -/

/-- **A mount lays the files of its archive over the others.** When a mount succeeds, its answer counts the
entries that are no directories; a path that some of them go to holds the contents and the time of the last
one, and it is not known when it was made; any other path holds what it held before. When a store is filled
from two archives that can both be mounted, each path holds what the second archive has for it, or what the
first one has where the second has nothing. -/
theorem mount_overlays :
    (∀ (m m' : Memory) (data : Bytes) (place p : String) (count : Nat),
      m.mount data place = (.ok (count, p), m') →
      ∃ entries, normalize place = .ok p ∧ archiveEntries data = .ok entries ∧
        count = (entries.filter (!·.isDirectory)).length ∧
        m'.clock = m.clock ∧ m'.ticks = m.ticks ∧
        ∀ q, (∀ before e after, entries = before ++ e :: after → GoesTo p q e →
            (∀ x ∈ after, ¬ GoesTo p q x) →
            ∃ contents modified, e.contents data = .ok contents ∧ e.modified = .ok modified ∧
              m'.files.get? q = some ⟨contents, modified, none⟩) ∧
          ((∀ e ∈ entries, ¬ GoesTo p q e) → m'.files.get? q = m.files.get? q)) ∧
    Backend.ofName (some "virtual") = .ok .inMemory ∧
    ∀ (s : Sources) (path : String) (first second : Bytes) (time : Moment) (r₁ r₂ : Nat × String)
      (m₁ m₂ : Memory), s.disk.readFile s.here path = .ok (first, time) →
      (empty s.clock).mount first "" = (.ok r₁, m₁) →
      (empty s.clock).mount second "" = (.ok r₂, m₂) →
      ∃ w, (s.fill (some path) (some second)).exec (.fresh (empty s.clock)) = (.ok (), w) ∧
        ∀ q, w.store.files.get? q = (m₂.files.get? q).or (m₁.files.get? q) := by
  refine ⟨fun m m' data place p count h => ?_, by decide +kernel, ?_⟩
  · obtain ⟨entries, hplace, hentries, hall, hcount, rfl⟩ := mount_eq_ok h
    obtain ⟨hclock, hticks⟩ := load_clock (mountedFiles p data entries) m
    refine ⟨entries, hplace, hentries, hcount.trans (length_mountedFiles hall), hclock, hticks,
      fun q => ⟨?_, fun hnone => ?_⟩⟩
    · rintro before e after rfl he hafter
      obtain ⟨contents, modified, hcontents, hmodified, hlast⟩ :=
        lookup_mountedFiles before (hall e (by simp)) he hafter
      exact ⟨contents, modified, hcontents, hmodified, by rw [get?_load, hlast, Option.some_or]⟩
    · rw [get?_load, lookup_mountedFiles_eq_none hnone, Option.none_or]
  · intro s path first second time ⟨count₁, p₁⟩ ⟨count₂, p₂⟩ m₁ m₂ hread h₁ h₂
    -- the second archive is mounted over the first one, with the same answer as alone
    have hanswer : (m₁.mount second "").1 = .ok (count₂, p₂) :=
      (mount_answer m₁ (empty s.clock) second "").trans (congrArg Prod.fst h₂)
    obtain ⟨w, hfill, hstore⟩ := fill_exec hread h₁ (Prod.fst_eq_iff.mp hanswer)
    refine ⟨w, hfill, fun q => ?_⟩
    rw [hstore, get?_mount_over m₁ s.clock, h₂]

/-! ### Archives that show it -/

/-- A file as an archive stores it, without compression. -/
structure Packed where
  /-- the name -/
  name : String
  /-- the contents -/
  contents : Bytes
  /-- the packed time of day of the last change -/
  time : Nat
  /-- the packed day of the last change -/
  date : Nat
  /-- what the archive gives as the checksum of the contents -/
  crc : UInt32
  deriving Repr

namespace Packed

/-- A file of the first day of 1980, with the checksum of its contents. -/
def of (name : String) (contents : Bytes) : Packed :=
  ⟨name, contents, 0, 33, Bytes.Crc32.checksum contents⟩

/-- The name in bytes. -/
def nameBytes (f : Packed) : Bytes := f.name.toList.map fun c => UInt8.ofNat c.toNat

/-- What the header of a file and its entry in the directory share. -/
def fields (f : Packed) : Bytes :=
  littleEndian 2 20 ++ littleEndian 4 0 ++ littleEndian 2 f.time ++ littleEndian 2 f.date ++
    littleEndian 4 f.crc.toNat ++ littleEndian 4 f.contents.length ++
    littleEndian 4 f.contents.length ++ littleEndian 4 f.nameBytes.length

/-- A file with its header. -/
def stored (f : Packed) : Bytes := [0x50, 0x4b, 3, 4] ++ f.fields ++ f.nameBytes ++ f.contents

/-- The entry of a file that is stored at a place. -/
def listed (f : Packed) (place : Nat) : Bytes :=
  [0x50, 0x4b, 1, 2] ++ littleEndian 2 20 ++ f.fields ++ littleEndian 10 0 ++ littleEndian 4 place ++
    f.nameBytes

/-- What is read of the entry of a file. -/
def entry (f : Packed) (place bound : Int) : Archive.Entry :=
  ⟨f.name, 20, 0, 0, f.time, f.date, f.crc, f.contents.length, f.contents.length, 0, place, bound⟩

end Packed

/-- An archive of files. -/
def archiveOf (files : List Packed) : Bytes :=
  let stored := files.map Packed.stored
  let listed := files.zipIdx.flatMap fun (f, i) => f.listed (stored.take i).flatten.length
  stored.flatten ++ listed ++ [0x50, 0x4b, 5, 6] ++ littleEndian 4 0 ++
    littleEndian 2 files.length ++ littleEndian 2 files.length ++ littleEndian 4 listed.length ++
    littleEndian 4 stored.flatten.length ++ littleEndian 2 0

/-- Of two names for one path the second one stays, and an archive that is mounted later covers it where
both have a file. -/
theorem mount_overlays_twice :
    let time : Moment := ⟨315532800000000⟩
    let lower := archiveOf [.of "a" [1], .of ".\\a" [2], .of "b" [3]]
    let upper := archiveOf [.of "b" [4]]
    let disk : Disk := ⟨⟨[(["lower.zip"], .file lower ⟨0⟩)], by decide⟩⟩
    let s : Sources := ⟨disk, [], fun n => ⟨n⟩, ""⟩
    (∃ m, (empty s.clock).mount lower "" = (.ok (3, ""), m) ∧
      m.files.get? "a" = some ⟨[2], time, none⟩ ∧ m.files.get? "c" = none) ∧
    ∃ w, (s.fill (some "/lower.zip") (some upper)).exec (.fresh (empty s.clock)) = (.ok (), w) ∧
      w.store.files.get? "a" = some ⟨[2], time, none⟩ ∧
      w.store.files.get? "b" = some ⟨[4], time, none⟩ := by
  intro time lower upper disk s
  let a₁ := (Packed.of "a" [1]).entry 0
  let a₂ := (Packed.of ".\\a" [2]).entry 32
  let b := (Packed.of "b" [3]).entry 66
  have hplace : normalize "" = .ok "" := by decide +kernel
  have hentries : archiveEntries lower = .ok [a₁ 32, a₂ 66, b 98] := by
    have hrecord : Archive.endRecord lower = .ok ⟨241, 143, 98, false⟩ := by decide +kernel
    have hstart : ((241 : Nat) : Int) - (143 : Nat) - (if false then 76 else 0) = (98 : Nat) := rfl
    have hread : Archive.readEntries ((98 : Nat) - (98 : Nat)) (143 / 46 + 2) 143
        (lower.slice 98 143) = .ok [a₁ 0, a₂ 0, b 0] := by decide +kernel
    -- the bounds of the entries are sorted by recursion on their number, which does not compute
    have hsort : ([(0, 0), (32, 1), (66, 2)] : List (Int × Nat)).mergeSort (fun a b => b.1 ≤ a.1) =
        [(66, 2), (32, 1), (0, 0)] := by
      simp [List.mergeSort, List.MergeSort.Internal.splitInTwo, List.splitAt, List.splitAt.go]
    have hbounds : Archive.withBounds 98 [a₁ 0, a₂ 0, b 0] = [a₁ 32, a₂ 66, b 98] := by
      have hplaces : ([a₁ 0, a₂ 0, b 0].map (·.place)).zipIdx = [(0, 0), (32, 1), (66, 2)] := rfl
      simp only [Archive.withBounds, hplaces, hsort]
      rfl
    exact archiveEntries_eq_ok
      ((entries_of_read hrecord hstart hread).trans (congrArg Except.ok hbounds))
  have hlower : ((empty s.clock).mount lower "").1 = .ok (3, "") := by
    rw [mount, hplace, hentries]
    decide +kernel
  have hupper : ((empty s.clock).mount upper "").1 = .ok (1, "") := by decide +kernel
  obtain ⟨entries, -, hentries', -, -, -, hpaths⟩ :=
    mount_overlays.1 _ _ _ _ _ _ (Prod.fst_eq_iff.mp hlower)
  obtain rfl : [a₁ 32, a₂ 66, b 98] = entries := Except.ok.inj (hentries.symm.trans hentries')
  have ha : ((empty s.clock).mount lower "").2.files.get? "a" = some ⟨[2], time, none⟩ := by
    obtain ⟨contents, modified, hcontents, hmodified, ha⟩ :=
      (hpaths "a").1 [a₁ 32] (a₂ 66) [b 98] rfl (by decide +kernel) (by decide +kernel)
    have hdata : (a₂ 66).contents lower = .ok [2] := by decide +kernel
    have htime : (a₂ 66).modified = .ok time := by decide +kernel
    rw [ha, ← Except.ok.inj (hdata.symm.trans hcontents), ← Except.ok.inj (htime.symm.trans hmodified)]
  have hc : ((empty s.clock).mount lower "").2.files.get? "c" = none :=
    (hpaths "c").2 (by decide +kernel)
  obtain ⟨w, hfill, hstore⟩ := mount_overlays.2.2 s "/lower.zip" lower upper ⟨0⟩ _ _ _ _
    (by decide +kernel) (Prod.fst_eq_iff.mp hlower) (Prod.fst_eq_iff.mp hupper)
  refine ⟨⟨_, Prod.fst_eq_iff.mp hlower, ha, hc⟩, w, hfill, ?_, ?_⟩
  · have hnone : ((empty s.clock).mount upper "").2.files.get? "a" = none := by decide +kernel
    rw [hstore, hnone, Option.none_or, ha]
  · have hb : ((empty s.clock).mount upper "").2.files.get? "b" = some ⟨[4], time, none⟩ := by
      decide +kernel
    rw [hstore, hb, Option.some_or]

end FileDepot.Memory
