import FileDepot.Proofs.Archive.Trouble
import FileDepot.Proofs.Memory.Overlay

/-!
# Faults of a mount

Of what can go wrong with an archive, a mount tells three things as trouble of its own: that the place leads
upwards, that the data as a whole is no archive, and that the name of an entry leads upwards. Anything else
leaves the mount as it was met: a directory that cannot be read for another reason, an empty name, contents
that cannot be read, fields that name no moment.

* **entry** — `entryFault?_eq_some_iff`: why an entry cannot be mounted;
* **mount** — `mount_faults`: what a mount fails with, and which of it is its own.
-/

namespace FileDepot.Memory

variable {m : Memory} {place p q : String} {data : Bytes} {x : Archive.Entry} {f : Fault}

/-! ## Entries -/

/-- A file of an archive cannot be put at a place because its name leads upwards, its contents cannot be
read, or its fields name no moment. -/
theorem mountedEntry_eq_error_iff : mountedEntry p data x = .error f ↔
    normalize (Path.append p x.name) = .error f ∨
      ∃ q, normalize (Path.append p x.name) = .ok q ∧
        ((∃ e, x.contents data = .error e ∧ f = .archive e) ∨
          ∃ contents e, x.contents data = .ok contents ∧ x.modified = .error e ∧ f = .moment e) := by
  unfold mountedEntry
  cases hpath : normalize (Path.append p x.name) with
  | error g => simp
  | ok q =>
    cases hcontents : x.contents data with
    | error e => simp [eq_comm]
    | ok contents =>
      cases hmodified : x.modified with
      | error e => simp [eq_comm]
      | ok t => simp

/-- **Entry.** An entry cannot be mounted because it has no name, or because it is a file that cannot be put
at its place. -/
theorem entryFault?_eq_some_iff : entryFault? p data x = some f ↔
    (x.name = "" ∧ f = .archive .noName) ∨
      (x.name ≠ "" ∧ x.isDirectory = false ∧ mountedEntry p data x = .error f) := by
  rw [entryFault?]
  by_cases hname : x.name = ""
  · simp [hname, @eq_comm _ f]
  · cases hdir : x.isDirectory with
    | true => simp [hname]
    | false =>
      cases hfile : mountedEntry p data x with
      | error g => simp [hname]
      | ok file => simp [hname]

/-- Whether mounting an archive at a place comes to an entry: the place has a normal form, and the entries
in front of this one can be mounted there. -/
structure ComesTo (data : Bytes) (place p : String) (x : Archive.Entry) : Prop where
  /-- the normal form of the place -/
  place : normalize place = .ok p
  /-- the entries in front -/
  front : ∃ before after, archiveEntries data = .ok (before ++ x :: after) ∧
    ∀ b ∈ before, entryFault? p data b = none

/-! ## Mounting -/

/-- What a mount tells as trouble of its own. -/
inductive MountTells (data : Bytes) (place : String) : Fault → Prop
  /-- the place leads upwards -/
  | place (h : normalize place = .error (.upward place)) : MountTells data place (.upward place)
  /-- the data as a whole is no archive -/
  | noArchive {p : String} {e : Archive.Fault} (hplace : normalize place = .ok p)
      (h : Archive.entries data = .error e) (hwhole : e.isStructural = true) :
      MountTells data place (.refused (.archive e))
  /-- the name of the first entry that fails leads upwards -/
  | name {p : String} {x : Archive.Entry} (hx : ComesTo data place p x) (hname : x.name ≠ "")
      (hfile : x.isDirectory = false)
      (h : normalize (Path.append p x.name) = .error (.upward (Path.append p x.name))) :
      MountTells data place (.upward (Path.append p x.name))

/-- What leaves a mount as it was met. -/
inductive LeavesMount (data : Bytes) (place : String) : Fault → Prop
  /-- the directory asks for a later version -/
  | version {p : String} {tenths : Nat} (hplace : normalize place = .ok p)
      (h : Archive.entries data = .error (.version tenths)) :
      LeavesMount data place (.archive (.version tenths))
  /-- a name in the directory cannot be decoded -/
  | badName {p : String} {c : Encoding.Fault} (hplace : normalize place = .ok p)
      (h : Archive.entries data = .error (.badName c)) :
      LeavesMount data place (.archive (.badName c))
  /-- the first entry that fails has no name -/
  | noName {p : String} {x : Archive.Entry} (hx : ComesTo data place p x) (h : x.name = "") :
      LeavesMount data place (.archive .noName)
  /-- the contents of the first entry that fails cannot be read -/
  | contents {p q : String} {x : Archive.Entry} {e : Archive.Fault} (hx : ComesTo data place p x)
      (hname : x.name ≠ "") (hq : GoesTo p q x) (h : x.contents data = .error e) :
      LeavesMount data place (.archive e)
  /-- the fields of the first entry that fails name no moment -/
  | moment {p q : String} {x : Archive.Entry} {contents : Bytes} {e : Moment.Fault}
      (hx : ComesTo data place p x) (hname : x.name ≠ "") (hq : GoesTo p q x)
      (hcontents : x.contents data = .ok contents) (h : x.modified = .error e) :
      LeavesMount data place (.moment e)

theorem archiveEntries_eq_error_iff : archiveEntries data = .error f ↔
    ∃ e, Archive.entries data = .error e ∧
      f = if e.isStructural then .refused (.archive e) else .archive e := by
  unfold archiveEntries
  cases Archive.entries data <;> simp [@eq_comm _ f]

/-- A mount fails with its place, with the directory of the archive, or with the first entry that fails. -/
theorem mount_error_iff : (m.mount data place).1 = .error f ↔
    normalize place = .error f ∨
      (∃ p, normalize place = .ok p ∧ archiveEntries data = .error f) ∨
      ∃ p x, ComesTo data place p x ∧ entryFault? p data x = some f := by
  constructor
  · intro h
    cases hplace : normalize place with
    | error g =>
      rw [mount, hplace] at h
      obtain rfl := Except.error.inj h
      exact .inl rfl
    | ok p =>
      cases hentries : archiveEntries data with
      | error g =>
        rw [mount, hplace, hentries] at h
        obtain rfl := Except.error.inj h
        exact .inr (.inl ⟨p, rfl, rfl⟩)
      | ok entries =>
        have hm := (mount_eq_error_iff hplace hentries).mp (Prod.fst_eq_iff.mp h)
        obtain ⟨before, x, after, rfl, hbefore, hx, -⟩ := mountEntries_eq_error_iff.mp hm
        exact .inr (.inr ⟨p, x, ⟨hplace, before, after, hentries, hbefore⟩, hx⟩)
  · rintro (hplace | ⟨p, hplace, hentries⟩ | ⟨p, x, ⟨hplace, before, after, hentries, hbefore⟩, hx⟩)
    · rw [mount, hplace]
    · rw [mount, hplace, hentries]
    · have hm : mountEntries p data 0 m (before ++ x :: after) =
          (.error f, m.load (mountedFiles p data before)) :=
        mountEntries_eq_error_iff.mpr ⟨before, x, after, rfl, hbefore, hx, rfl⟩
      rw [(mount_eq_error_iff hplace hentries).mpr hm]

/-- A directory that cannot be read makes a mount fail, and is told where the data is no archive. -/
theorem mount_of_directory {e : Archive.Fault} (hplace : normalize place = .ok p)
    (he : Archive.entries data = .error e) : (m.mount data place).1 =
      .error (if e.isStructural then .refused (.archive e) else .archive e) :=
  mount_error_iff.mpr (.inr (.inl ⟨p, hplace, archiveEntries_eq_error_iff.mpr ⟨e, he, rfl⟩⟩))

/-- A file that cannot be put at its place makes a mount fail that comes to it. -/
theorem mount_of_file (hx : ComesTo data place p x) (hname : x.name ≠ "")
    (hfile : x.isDirectory = false) (hf : mountedEntry p data x = .error f) :
    (m.mount data place).1 = .error f :=
  mount_error_iff.mpr (.inr (.inr ⟨p, x, hx, entryFault?_eq_some_iff.mpr (.inr ⟨hname, hfile, hf⟩)⟩))

theorem mount_of_tells (h : MountTells data place f) : (m.mount data place).1 = .error f := by
  cases h with
  | place h => exact mount_error_iff.mpr (.inl h)
  | noArchive hplace h hwhole =>
    rw [mount_of_directory hplace h, if_pos hwhole]
  | name hx hname hfile h =>
    exact mount_of_file hx hname hfile (mountedEntry_eq_error_iff.mpr (.inl h))

theorem mount_of_leaves (h : LeavesMount data place f) : (m.mount data place).1 = .error f := by
  cases h with
  | version hplace h => exact mount_of_directory hplace h
  | badName hplace h => exact mount_of_directory hplace h
  | noName hx h =>
    exact mount_error_iff.mpr (.inr (.inr ⟨_, _, hx, entryFault?_eq_some_iff.mpr (.inl ⟨h, rfl⟩)⟩))
  | contents hx hname hq h =>
    exact mount_of_file hx hname hq.1
      (mountedEntry_eq_error_iff.mpr (.inr ⟨_, hq.2, .inl ⟨_, h, rfl⟩⟩))
  | moment hx hname hq hcontents h =>
    exact mount_of_file hx hname hq.1
      (mountedEntry_eq_error_iff.mpr (.inr ⟨_, hq.2, .inr ⟨_, _, hcontents, h, rfl⟩⟩))

theorem tells_or_leaves_of_mount (h : (m.mount data place).1 = .error f) :
    MountTells data place f ∨ LeavesMount data place f := by
  obtain hplace | ⟨p, hplace, hentries⟩ | ⟨p, x, hx, hfault⟩ := mount_error_iff.mp h
  · obtain rfl := normalize_eq_error hplace
    exact .inl (.place hplace)
  · obtain ⟨e, he, rfl⟩ := archiveEntries_eq_error_iff.mp hentries
    cases Archive.entries_fails data e he with
    | structural hwhole =>
      rw [if_pos hwhole]
      exact .inl (.noArchive hplace he hwhole)
    | version tenths => exact .inr (.version hplace he)
    | badName c => exact .inr (.badName hplace he)
  · obtain ⟨hname, rfl⟩ | ⟨hname, hfile, hentry⟩ := entryFault?_eq_some_iff.mp hfault
    · exact .inr (.noName hx hname)
    · obtain hpath | ⟨q, hq, ⟨e, he, rfl⟩ | ⟨contents, e, hcontents, he, rfl⟩⟩ :=
        mountedEntry_eq_error_iff.mp hentry
      · obtain rfl := normalize_eq_error hpath
        exact .inl (.name hx hname hfile hpath)
      · exact .inr (.contents hx hname ⟨hfile, hq⟩ he)
      · exact .inr (.moment hx hname ⟨hfile, hq⟩ hcontents he)

/-- Trouble with an archive as it is met is none of a mount's own. -/
theorem archive_isOwn (e : Archive.Fault) : (Fault.archive e).isOwn = false := by
  cases e with
  | badName c => cases c <;> rfl
  | _ => rfl

/-- **A mount tells some trouble of an archive, and leaves the rest as it was met.** A mount fails exactly
with what it tells and with what leaves it. What it tells is its own: the place leads upwards, the data as a
whole is no archive, or the name of the first entry that fails leads upwards. What leaves it is not. So all
trouble is a mount's own exactly when nothing leaves it, and something does whenever it comes to a file that
cannot be read, that is encrypted or compressed in an unknown way, or whose fields name no moment. -/
theorem mount_faults (m : Memory) (data : Bytes) (place : String) :
    (∀ f, (m.mount data place).1 = .error f ↔ MountTells data place f ∨ LeavesMount data place f) ∧
    (∀ f, MountTells data place f →
      f.isOwn = true ∧ (f.family = .accessDenied ∨ f.family = .invalidRequest)) ∧
    (∀ f, LeavesMount data place f → f.isOwn = false) ∧
    ((∀ f, (m.mount data place).1 = .error f → f.isOwn = true) ↔ ∀ f, ¬ LeavesMount data place f) ∧
    ∀ p q x, ComesTo data place p x → x.name ≠ "" → GoesTo p q x →
      (∀ contents, x.contents data ≠ .ok contents) ∨ x.hasFlag 0 = true ∨
        x.method ∉ Archive.Entry.methods ∨ ¬ x.IsDated →
      ∃ f, LeavesMount data place f := by
  have htold (f : Fault) (h : MountTells data place f) :
      f.isOwn = true ∧ (f.family = .accessDenied ∨ f.family = .invalidRequest) := by
    cases h with
    | place | name => exact ⟨rfl, .inl rfl⟩
    | noArchive => exact ⟨rfl, .inr rfl⟩
  have hleft (f : Fault) (h : LeavesMount data place f) : f.isOwn = false := by
    cases h with
    | version | badName | noName | contents => exact archive_isOwn _
    | moment => rfl
  refine ⟨fun f => ⟨tells_or_leaves_of_mount, fun h => h.elim mount_of_tells mount_of_leaves⟩,
    htold, hleft, ⟨fun hown f h => ?_, fun hnone f hf => ?_⟩, ?_⟩
  · have hf := hown f (mount_of_leaves h)
    rw [hleft f h] at hf
    cases hf
  · exact (htold f ((tells_or_leaves_of_mount hf).resolve_right (hnone f))).1
  · intro p q x hx hname hq hbad
    cases hcontents : x.contents data with
    | error e => exact ⟨_, .contents hx hname hq hcontents⟩
    | ok contents =>
      obtain ⟨hencrypted, hmethod, -⟩ := Archive.contents_eq_ok hcontents
      obtain hdamaged | hflag | hunknown | hdated := hbad
      · exact absurd hcontents (hdamaged contents)
      · rw [hencrypted] at hflag
        cases hflag
      · exact absurd hmethod hunknown
      · obtain ⟨e, he⟩ := (Archive.modified_eq_error_iff x).mpr hdated
        exact ⟨_, .moment hx hname hq hcontents he⟩

/-- A mount at a place above the root tells so, and a file of a month that is none leaves it. -/
theorem mount_faults_undated :
    let m := empty fun n => ⟨n⟩
    let data := archiveOf [{ Packed.of "a" [1] with date := 0 }]
    (MountTells data ".." (.upward "..") ∧ Fault.isOwn (.upward "..") = true) ∧
      (LeavesMount data "" (.moment .month) ∧ Fault.isOwn (.moment .month) = false) ∧
      (¬ ∀ f, (m.mount data "").1 = .error f → f.isOwn = true) ∧
      ∃ x, ComesTo data "" "" x ∧ GoesTo "" "a" x ∧ ¬ x.IsDated ∧ ∃ f, LeavesMount data "" f := by
  intro m data
  have hroot := mount_faults m data ""
  have htells : MountTells data ".." (.upward "..") := .place (by decide +kernel)
  have hleaves : LeavesMount data "" (.moment .month) :=
    ((hroot.1 _).mp (by decide +kernel)).resolve_left nofun
  let x : Archive.Entry := { Packed.of "a" [1] with date := 0 : Packed }.entry 0 32
  have hx : ComesTo data "" "" x := ⟨by decide +kernel, [], [], by decide +kernel, nofun⟩
  have hq : GoesTo "" "a" x := by decide +kernel
  have hdated : ¬ x.IsDated := fun h => absurd h.month (by decide)
  exact ⟨⟨htells, ((mount_faults m data "..").2.1 _ htells).1⟩, ⟨hleaves, hroot.2.2.1 _ hleaves⟩,
    fun hown => hroot.2.2.2.1.mp hown _ hleaves,
    x, hx, hq, hdated, hroot.2.2.2.2 _ _ _ hx (by decide) hq (.inr (.inr (.inr hdated)))⟩

/-- A file whose contents do not fit their checksum leaves a mount with trouble that is not its own, and so
does a file of a month that is none. -/
theorem mount_leaves_damage :
    let m := empty fun n => ⟨n⟩
    let damaged := archiveOf [{ Packed.of "a" [1] with crc := 0 }]
    let undated := archiveOf [{ Packed.of "a" [1] with date := 0 }]
    ((m.mount damaged "").1 = .error (.archive (.badChecksum "a")) ∧
        Fault.isOwn (.archive (.badChecksum "a")) = false) ∧
      (m.mount undated "").1 = .error (.moment .month) ∧ Fault.isOwn (.moment .month) = false := by
  decide +kernel

end FileDepot.Memory
