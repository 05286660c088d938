import FileDepot.Proofs.Agreement.Change

/-!
# The same tasks for both stores

Tasks are done in turns, each on a store in memory and on a store on disk (`Turn`). Nothing can tell the
two stores apart but directories that are left when their files are gone, and the longer name of the
scratch file (`tasks_agree`):

* **step** — `Turn.agrees`: what a turn comes to in both, from stores with the same files;
* **run** — `sameFiles_run`: stores with the same files hold the same ones after any turns that the disk
  alone does not refuse.
-/

namespace FileDepot

open FileDepot.Path Text Disk Location Adapter

/-- The bytes of the longest name that is saved. -/
def maxOrdinary : Nat := 200

/-- The bytes by which the name of a scratch file is longer than that of its target. -/
def scratchExtra : Nat := 10

/-- A turn: a task, with the moment at which it is done on a disk and the eight characters that end the
name of its scratch file there. -/
structure Turn where
  /-- what is to be done -/
  task : Task
  /-- when it is done -/
  now : Moment
  /-- how the name of the scratch file ends -/
  scratch : String
  deriving DecidableEq, Repr

namespace Turn

variable (t : Turn) (config : Config) (root : Location)

/-- The names in the path of a turn. -/
def names : List String := parts t.task.path

/-- The place of a turn on a disk. -/
def place : Location := root ++ t.names

/-- The store on disk that a turn is done on. -/
def disk : Local := ⟨root, t.now, t.scratch⟩

/-- What a turn comes to in memory. -/
def inMemory (w : World Memory) : Option Family × World Memory :=
  perform ⟨Memory.store, config⟩ t.task w

/-- What a turn comes to on a disk. -/
def onDisk (v : World Disk) : Option Family × World Disk :=
  perform ⟨(t.disk root).store, config⟩ t.task v

/-- A turn with an ordinary path, of legal names that are not long, within the limit of the system. -/
structure IsOrdinary : Prop where
  /-- the names are legal -/
  legal : Legal t.names
  /-- no name is long -/
  short : ∀ n ∈ t.names, n.utf8ByteSize ≤ maxOrdinary
  /-- the whole is not too long -/
  within : (t.place root).text.utf8ByteSize ≤ maxPath
  /-- the name of the scratch file can stand in a directory -/
  scratch : '/' ∉ t.scratch.toList ∧ '\x00' ∉ t.scratch.toList ∧ t.scratch.utf8ByteSize = 8

/-- The name that is chosen for a scratch file is free. -/
def IsFree (d : Disk) : Prop :=
  t.task.data?.isSome = true → d.at? ((t.disk root).scratchPlace (t.place root)) = none

/-- A save that the disk alone refuses: over an abandoned directory, or, where nothing else is in the
way, without room for the name of the scratch file. -/
def IsRefused (d : Disk) : Prop :=
  t.task.data?.isSome = true ∧ (Abandoned d (t.place root) ∨
    d.at? (t.place root) ≠ some .directory ∧ ¬ d.Blocked (t.place root).parent ∧
      maxPath < (t.place root).text.utf8ByteSize + scratchExtra)

/-- A removal of an abandoned directory. -/
def IsLeftover (d : Disk) : Prop := t.task.data? = none ∧ Abandoned d (t.place root)

section

variable (d : Disk)

theorem isOrdinary_iff : t.IsOrdinary root ↔ Legal t.names ∧
    (∀ n ∈ t.names, n.utf8ByteSize ≤ maxOrdinary) ∧ (t.place root).text.utf8ByteSize ≤ maxPath ∧
    ('/' ∉ t.scratch.toList ∧ '\x00' ∉ t.scratch.toList ∧ t.scratch.utf8ByteSize = 8) :=
  ⟨fun h => ⟨h.legal, h.short, h.within, h.scratch⟩, fun ⟨hlegal, hshort, hwithin, hscratch⟩ =>
    ⟨hlegal, hshort, hwithin, hscratch⟩⟩

instance : Decidable (t.IsOrdinary root) := decidable_of_iff' _ (t.isOrdinary_iff root)

instance : Decidable (t.IsFree root d) := inferInstanceAs (Decidable (_ → _))

instance : Decidable (t.IsRefused root d) := inferInstanceAs (Decidable (_ ∧ _))

instance : Decidable (t.IsLeftover root d) := inferInstanceAs (Decidable (_ ∧ _))

end

/-- What a turn comes to in both stores. -/
structure Agrees (w : World Memory) (v : World Disk) : Prop where
  /-- both end alike, unless the disk alone refuses or an abandoned directory is removed -/
  verdict : ¬ t.IsRefused root v.store → ¬ t.IsLeftover root v.store →
    (t.inMemory config w).1 = (t.onDisk config root v).1
  /-- both hold the same files after it, unless the disk alone refuses -/
  files : ¬ t.IsRefused root v.store →
    SameFiles (t.inMemory config w).2.store root (t.onDisk config root v).2.store
  /-- what the disk alone refuses is saved in memory, and no file changes on the disk -/
  refused : t.IsRefused root v.store →
    (t.inMemory config w).1 = none ∧ (t.onDisk config root v).1 = some .write ∧
      (∀ p, ((t.inMemory config w).2.store.files.get? p).map (·.data) =
        if p = t.task.path then t.task.data? else (w.store.files.get? p).map (·.data)) ∧
      ∀ l, (t.onDisk config root v).2.store.bytes? l = v.store.bytes? l
  /-- an abandoned directory is nothing in memory, and is removed from the disk if nothing is in it -/
  leftover : t.IsLeftover root v.store →
    (t.inMemory config w).1 = absent config ∧ (t.inMemory config w).2.store = w.store ∧
      ((t.onDisk config root v).1, (t.onDisk config root v).2.store) =
        if v.store.children (t.place root) = [] then (none, v.store.unset (t.place root))
        else (some .delete, v.store)
  /-- the disk stays plain -/
  plain : Local.Plain root (t.onDisk config root v).2.store

variable {t config root} {w : World Memory} {v : World Disk}

theorem names_ne_nil (t : Turn) : t.names ≠ [] := parts_ne_nil _

theorem join_names (t : Turn) : join t.names = t.task.path := join_parts _

section

variable (ht : t.IsOrdinary root)

include ht

theorem IsOrdinary.path_ne_blank : trim t.task.path.toList ≠ [] := by
  have htidy : trim (join t.names).toList = (join t.names).toList :=
    trimBy_eq_self_iff.mpr ht.legal.tidy_join
  have hne : join t.names ≠ "" := by
    rw [ne_eq, join_eq_empty_iff ht.legal.isSegment]
    exact t.names_ne_nil
  rw [← t.join_names, htidy]
  simpa using hne

theorem IsOrdinary.within_place {d : Disk} (hplain : Local.Plain root d) : Within (t.place root) :=
  hplain.within_append (fun n hn => (ht.legal n hn).size) ht.within

/-- The name of the scratch file is ten bytes longer. -/
theorem IsOrdinary.size_scratchPlace : ((t.disk root).scratchPlace (t.place root)).text.utf8ByteSize =
    (t.place root).text.utf8ByteSize + scratchExtra := by
  have hnil : t.place root ≠ [] := by simp [place, t.names_ne_nil]
  rw [Local.utf8ByteSize_scratchPlace _ hnil, disk, ht.scratch.2.2]
  rfl

/-- A scratch file whose name is free and not too long has room. -/
theorem IsOrdinary.hasRoom {d : Disk} (hplain : Local.Plain root d)
    (hfree : d.at? ((t.disk root).scratchPlace (t.place root)) = none)
    (hshort : (t.place root).text.utf8ByteSize + scratchExtra ≤ maxPath) :
    Local.HasRoom (t.disk root) d (t.place root) := by
  obtain ⟨dir, name, hnames⟩ : ∃ dir name, t.names = dir ++ [name] :=
    ⟨_, _, (List.dropLast_append_getLast t.names_ne_nil).symm⟩
  have hplace : t.place root = root ++ dir ++ [name] := by rw [place, hnames, List.append_assoc]
  have hlast : (t.place root).name = name := by rw [hplace, name_concat]
  refine Local.hasRoom_of_sizes (hlast ▸ (ht.legal name (by simp [hnames])).name)
    (ht.within_place hplain) ht.scratch.1 ht.scratch.2.1 hfree ?_ (by rwa [ht.size_scratchPlace])
  have hshort := ht.short name (by simp [hnames])
  rw [Local.utf8ByteSize_scratchName, hlast, disk, ht.scratch.2.2]
  simp only [maxOrdinary, maxName] at hshort ⊢
  omega

/-- A save in memory is a write at the joined names. -/
theorem inMemory_save (config : Config) (w : World Memory) {path : String} {data : Bytes}
    (htask : t.task = .save path data) :
    (t.inMemory config w).1 = saved (join t.names) (w.store.write (join t.names) (.bytes data)).1 ∧
      (t.inMemory config w).2.store = (w.store.write (join t.names) (.bytes data)).2 := by
  rw [t.join_names, inMemory, htask]
  exact save_in_memory config (by simpa only [htask, Task.path] using ht.path_ne_blank) data w

/-- A save on a disk is a write at the joined names. -/
theorem onDisk_save (config : Config) (v : World Disk) {path : String} {data : Bytes}
    (htask : t.task = .save path data) :
    (t.onDisk config root v).1 =
        saved (join t.names) ((t.disk root).write v.store (join t.names) (.bytes data)).1 ∧
      (t.onDisk config root v).2.store =
        ((t.disk root).write v.store (join t.names) (.bytes data)).2 := by
  rw [t.join_names, onDisk, htask]
  exact save_on_disk config (by simpa only [htask, Task.path] using ht.path_ne_blank) (t.disk root)
    data v

/-- A removal in memory is one at the joined names. -/
theorem inMemory_delete (config : Config) (w : World Memory) {path : String}
    (htask : t.task = .delete path) :
    (t.inMemory config w).1 = removed config (join t.names) (w.store.remove (join t.names)).1 ∧
      (t.inMemory config w).2.store = (w.store.remove (join t.names)).2 := by
  rw [t.join_names, inMemory, htask]
  exact delete_in_memory config (by simpa only [htask, Task.path] using ht.path_ne_blank) w

/-- A removal on a disk is one at the joined names. -/
theorem onDisk_delete (config : Config) (v : World Disk) {path : String}
    (htask : t.task = .delete path) :
    (t.onDisk config root v).1 =
        removed config (join t.names) ((t.disk root).remove v.store (join t.names)).1 ∧
      (t.onDisk config root v).2.store = ((t.disk root).remove v.store (join t.names)).2 := by
  rw [t.join_names, onDisk, htask]
  exact delete_on_disk config (by simpa only [htask, Task.path] using ht.path_ne_blank) (t.disk root) v

end

section

variable (h : SameFiles w.store root v.store) (hplain : Local.Plain root v.store)
  (ht : t.IsOrdinary root)

include h hplain ht

/-- What a save comes to in both stores. -/
theorem agrees_save {path : String} {data : Bytes} (htask : t.task = .save path data)
    (hfree : t.IsFree root v.store) : t.Agrees config root w v := by
  have hwithin := ht.within_place hplain
  have hdata : t.task.data? = some data := by rw [htask]; rfl
  have hsave : t.task.data?.isSome = true := by rw [hdata]; rfl
  obtain ⟨hmemory, hfiles⟩ := inMemory_save ht config w htask
  obtain ⟨hdisk, hnodes⟩ := onDisk_save ht config v htask
  have hother : ¬ t.IsLeftover root v.store := fun hleft => by
    rw [hleft.1] at hdata
    cases hdata
  by_cases hrefused : t.IsRefused root v.store
  · have hwhy := hrefused.2.imp_right fun ⟨hdir, hopen, hlong⟩ =>
      And.intro hdir (And.intro hopen (ht.size_scratchPlace ▸ hlong))
    obtain ⟨hwritten, hverdict, hbytes, hplain'⟩ :=
      write_refused (s := t.disk root) h hplain ht.legal t.names_ne_nil hwithin data hwhy
    rw [hwritten] at hmemory hfiles
    refine ⟨fun hkept => absurd hrefused hkept, fun hkept => absurd hrefused hkept, fun _ => ?_,
      fun hleft => absurd hleft hother, hnodes ▸ hplain'⟩
    refine ⟨hmemory, hdisk.trans hverdict, fun p => ?_, fun l => hnodes ▸ hbytes l⟩
    rw [hfiles, hdata, ← t.join_names]
    exact Memory.get?_put _ _ data _ p
  · have hleft : ¬ Abandoned v.store (t.place root) := fun hleft => hrefused ⟨hsave, .inl hleft⟩
    obtain ⟨hverdict, hsame, hplain'⟩ :=
      write_agrees (s := t.disk root) h hplain ht.legal t.names_ne_nil hwithin data hleft
        fun hdir hopen => ht.hasRoom hplain (hfree hsave)
          (Nat.le_of_not_lt fun hlong => hrefused ⟨hsave, .inr ⟨hdir, hopen, hlong⟩⟩)
    refine ⟨fun _ _ => ?_, fun _ => ?_, fun h => absurd h hrefused, fun h => absurd h hother,
      hnodes ▸ hplain'⟩
    · rw [hmemory, hdisk, hverdict]
    · rw [hfiles, hnodes]
      exact hsame

/-- What a removal comes to in both stores. -/
theorem agrees_delete {path : String} (htask : t.task = .delete path) : t.Agrees config root w v := by
  have hwithin := ht.within_place hplain
  have hdata : t.task.data? = none := by rw [htask]; rfl
  have hkept : ¬ t.IsRefused root v.store := fun hrefused => by
    have hsave := hrefused.1
    rw [hdata] at hsave
    cases hsave
  obtain ⟨hmemory, hfiles⟩ := inMemory_delete ht config w htask
  obtain ⟨hdisk, hnodes⟩ := onDisk_delete ht config v htask
  by_cases hleft : Abandoned v.store (t.place root)
  · obtain ⟨hnothing, hended, hsame, hplain'⟩ :=
      remove_abandoned (s := t.disk root) h hplain ht.legal t.names_ne_nil hwithin config hleft
    rw [hnothing] at hmemory hfiles
    refine ⟨fun _ hother => absurd ⟨hdata, hleft⟩ hother, fun _ => ?_, fun h => absurd h hkept,
      fun _ => ⟨hmemory, hfiles, by rw [hdisk, hnodes]; exact hended⟩, hnodes ▸ hplain'⟩
    rw [hfiles, hnodes]
    exact hsame
  · obtain ⟨hverdict, hsame, hplain'⟩ :=
      remove_agrees (s := t.disk root) h hplain ht.legal t.names_ne_nil hwithin config hleft
    refine ⟨fun _ _ => ?_, fun _ => ?_, fun h => absurd h hkept, fun h => absurd h.2 hleft,
      hnodes ▸ hplain'⟩
    · rw [hmemory, hdisk, hverdict]
    · rw [hfiles, hnodes]
      exact hsame

end

/-- **Step.** What a turn comes to in both stores, from stores with the same files. -/
theorem agrees (h : SameFiles w.store root v.store) (hplain : Local.Plain root v.store)
    (ht : t.IsOrdinary root) (hfree : t.IsFree root v.store) : t.Agrees config root w v := by
  cases htask : t.task with
  | save path data => exact agrees_save h hplain ht htask hfree
  | delete path => exact agrees_delete h hplain ht htask

end Turn

/-! ## Runs -/

section

variable (config : Config) (root : Location)

/-- The world with a store in memory after some turns. -/
def runInMemory (w : World Memory) (turns : List Turn) : World Memory :=
  turns.foldl (fun w t => (t.inMemory config w).2) w

/-- The world with a store on disk after some turns. -/
def runOnDisk (v : World Disk) (turns : List Turn) : World Disk :=
  turns.foldl (fun v t => (t.onDisk config root v).2) v

/-- Ordinary turns with free names for scratch files, none of which the disk alone refuses. -/
def Fair (v : World Disk) : List Turn → Prop
  | [] => True
  | t :: rest => (t.IsOrdinary root ∧ t.IsFree root v.store ∧ ¬ t.IsRefused root v.store) ∧
      Fair (t.onDisk config root v).2 rest

instance decidableFair : (v : World Disk) → (turns : List Turn) → Decidable (Fair config root v turns)
  | _, [] => inferInstanceAs (Decidable True)
  | v, t :: rest =>
    have := decidableFair (t.onDisk config root v).2 rest
    inferInstanceAs (Decidable ((_ ∧ _) ∧ Fair config root (t.onDisk config root v).2 rest))

variable {config root} {w : World Memory} {v : World Disk} {turns : List Turn}

/-- **Run.** Stores with the same files hold the same ones after turns that the disk alone does not
refuse. -/
theorem sameFiles_run (h : SameFiles w.store root v.store) (hplain : Local.Plain root v.store)
    (hturns : Fair config root v turns) :
    SameFiles (runInMemory config w turns).store root (runOnDisk config root v turns).store ∧
      Local.Plain root (runOnDisk config root v turns).store := by
  induction turns generalizing w v with
  | nil => exact ⟨h, hplain⟩
  | cons t rest ih =>
    -- a turn hands on what the next one needs: the same files, and a plain disk
    obtain ⟨⟨ht, hfree, hkept⟩, hrest⟩ := hturns
    have hagrees : t.Agrees config root w v := Turn.agrees h hplain ht hfree
    exact ih (hagrees.files hkept) hagrees.plain hrest

/-- A store in memory without files and a disk with an empty root hold the same files. -/
theorem sameFiles_empty (clock : Nat → Moment) {d : Disk} (hplain : Local.Plain root d)
    (hempty : d.below root = []) : SameFiles (Memory.empty clock) root d := by
  have hnone (names : List String) : d.bytes? (root ++ names) = none := by
    by_contra hfile
    have hbelow := mem_below_iff.mpr ⟨at?_ne_none_of_bytes? hfile, List.prefix_append root names,
      by simpa using hplain.ne_nil_of_bytes? hfile⟩
    rw [hempty] at hbelow
    cases hbelow
  refine ⟨fun p hp => ?_, fun names hfile => absurd (hnone names) hfile, fun names _ _ => ?_⟩
  · simp [Memory.empty, Catalog.contains] at hp
  · rw [hnone]
    rfl

/-- **Both stores do the same.** Let ordinary saves and removals be done in turns on an empty store in
memory and on a disk with an empty root and no links, none of them a save that the disk alone refuses.
Then both stores hold the same files, and a further turn agrees: it ends alike in both and leaves the
same files, but for a save that the disk alone refuses and the removal of an abandoned directory. -/
theorem tasks_agree (clock : Nat → Moment) {d : Disk} (hplain : Local.Plain root d)
    (hempty : d.below root = []) (hturns : Fair config root (World.fresh d) turns) {t : Turn}
    (ht : t.IsOrdinary root)
    (hfree : t.IsFree root (runOnDisk config root (World.fresh d) turns).store) :
    let w := runInMemory config (World.fresh (Memory.empty clock)) turns
    let v := runOnDisk config root (World.fresh d) turns
    SameFiles w.store root v.store ∧ t.Agrees config root w v := by
  intro w v
  have hstart : SameFiles (World.fresh (Memory.empty clock)).store root (World.fresh d).store :=
    sameFiles_empty clock hplain hempty
  obtain ⟨hsame, hplain'⟩ := sameFiles_run hstart hplain hturns
  exact ⟨hsame, Turn.agrees hsame hplain' ht hfree⟩

/-- A directory is neither saved over nor removed in both stores, after another file in it was. -/
theorem tasks_agree_held :
    let config : Config := ⟨.utf8, true⟩
    let turn (task : Task) : Turn := ⟨task, ⟨0⟩, "xxxxxxxx"⟩
    let turns := [turn (.save "a/b" [1]), turn (.save "a/c" [2]), turn (.delete "a/c")]
    let w := runInMemory config (World.fresh (Memory.empty fun n => ⟨n⟩)) turns
    let v := runOnDisk config ["root"] (World.fresh bareDisk) turns
    let t := turn (.save "a" [3])
    Local.Plain ["root"] bareDisk ∧ bareDisk.below ["root"] = [] ∧
      Fair config ["root"] (World.fresh bareDisk) turns ∧ t.IsOrdinary ["root"] ∧
      t.IsFree ["root"] v.store ∧ SameFiles w.store ["root"] v.store ∧ t.Agrees config ["root"] w v := by
  intro config turn turns w v t
  have hplain : Local.Plain ["root"] bareDisk := by decide +kernel
  have hempty : bareDisk.below ["root"] = [] := by decide +kernel
  have hturns : Fair config ["root"] (World.fresh bareDisk) turns := by decide +kernel
  have ht : t.IsOrdinary ["root"] := by decide +kernel
  have hfree : t.IsFree ["root"] v.store := by decide +kernel
  exact ⟨hplain, hempty, hturns, ht, hfree, tasks_agree (fun n => ⟨n⟩) hplain hempty hturns ht hfree⟩

/-- Names that reach the limit of the system, up to four bytes. -/
def longNames : List String := List.replicate 20 (letters 200) ++ [letters 65]

theorem legal_longNames : Legal longNames := by
  intro n hn
  rcases List.mem_append.mp hn with hn | hn
  · exact List.eq_of_mem_replicate hn ▸ isLegal_letters (by decide) (by decide)
  · exact List.mem_singleton.mp hn ▸ isLegal_letters (by decide) (by decide)

theorem size_longNames : (Location.text (["root"] ++ longNames)).utf8ByteSize = 4091 := by
  have hroot : ("root" : String).utf8ByteSize = 4 := rfl
  rw [utf8ByteSize_text (by simp), longNames]
  simp only [byteSize_append, byteSize_replicate, byteSize_cons, byteSize_nil, utf8ByteSize_letters,
    hroot]

/-- A save at these names is ordinary, but there is no room for the scratch file. -/
theorem refused_longNames {t : Turn} {data : Bytes} (htask : t.task = .save (join longNames) data)
    (hscratch : '/' ∉ t.scratch.toList ∧ '\x00' ∉ t.scratch.toList ∧ t.scratch.utf8ByteSize = 8) :
    t.IsOrdinary ["root"] ∧ t.IsFree ["root"] bareDisk ∧ t.IsRefused ["root"] bareDisk := by
  have hnames : t.names = longNames := by
    rw [Turn.names, htask]
    exact legal_longNames.parts_join (by simp [longNames])
  have hplace : t.place ["root"] = ["root"] ++ longNames := by rw [Turn.place, hnames]
  refine ⟨⟨hnames ▸ legal_longNames, fun n hn => ?_, ?_, hscratch⟩, fun _ => ?_, ?_⟩
  · rw [hnames] at hn
    rcases List.mem_append.mp hn with hn | hn
    · rw [List.eq_of_mem_replicate hn, utf8ByteSize_letters]
      decide
    · rw [List.mem_singleton.mp hn, utf8ByteSize_letters]
      decide
  · rw [hplace, size_longNames]
    decide
  · exact at?_bareDisk (by simp [Local.scratchPlace, parent, hplace, longNames])
  · refine ⟨by rw [htask]; rfl, .inr ⟨?_, ?_, ?_⟩⟩
    · simp [hplace, at?_bareDisk, longNames]
    · rintro ⟨k, -, hfile⟩
      exact hfile (bytes?_bareDisk k)
    · rw [hplace, size_longNames]
      decide

/-- A directory that is left on the disk when its file is gone is nothing in memory: there a file is
saved in its place, and a removal finds nothing. A path at the limit of the system has no room for the
name of a scratch file. -/
theorem tasks_differ :
    let config : Config := ⟨.utf8, true⟩
    let turn (task : Task) : Turn := ⟨task, ⟨0⟩, "xxxxxxxx"⟩
    let memory := World.fresh (Memory.empty fun n => ⟨n⟩)
    let disk := World.fresh bareDisk
    let before := [turn (.save "a/b" [1]), turn (.delete "a/b")]
    let again := turn (.save "a" [2])
    let gone := turn (.delete "a")
    let long := turn (.save (join longNames) [1])
    (again.IsOrdinary ["root"] ∧ (again.inMemory config (runInMemory config memory before)).1 = none ∧
      (again.onDisk config ["root"] (runOnDisk config ["root"] disk before)).1 = some .write) ∧
    (gone.IsOrdinary ["root"] ∧
      (gone.inMemory config (runInMemory config memory before)).1 = some .notFound ∧
      (gone.onDisk config ["root"] (runOnDisk config ["root"] disk before)).1 = none) ∧
    (long.IsOrdinary ["root"] ∧ (long.inMemory config memory).1 = none ∧
      (long.onDisk config ["root"] disk).1 = some .write) := by
  intro config turn memory disk before again gone long
  refine ⟨by decide +kernel, by decide +kernel, ?_⟩
  have hplain : Local.Plain ["root"] bareDisk := by decide +kernel
  have hsame : SameFiles memory.store ["root"] disk.store :=
    sameFiles_empty (fun n => ⟨n⟩) hplain (by decide +kernel)
  obtain ⟨hlong, hfree, hrefused⟩ := refused_longNames (t := long) rfl (by decide +kernel)
  have hagrees : long.Agrees config ["root"] memory disk := Turn.agrees hsame hplain hlong hfree
  obtain ⟨hmemory, hdisk, -⟩ := hagrees.refused hrefused
  exact ⟨hlong, hmemory, hdisk⟩

end

end FileDepot
