import FileDepot.Proofs.Memory.Acts

/-!
# The history of a store in memory

What an act changes is told by its *events*: contents that were put at a path, or a removal. An act that
fails has none, but for a mount, which keeps what it had put before it failed. `trace` lists the events
of a whole run, and `life` what was put at one path since its last removal.

* **step** — `Agrees.act`: when every path holds what the events so far recall, it does so after an act;
* **run** — `agrees_run`: hence a store is a function of its trace;
* **file** — `run_remembers`: what this says of a single file, in terms of its life.
-/

namespace FileDepot.Memory

/-- Whether an act reads the clock: a write does once its path is accepted and its contents are read,
even if it fails then. -/
def Act.readsClock : Act → Bool
  | .write path content => (normalize path).isOk && content.drain.isOk
  | _ => false

/-! ## Events -/

/-- Contents that were put at a path. -/
structure Deposit where
  /-- the contents -/
  data : Bytes
  /-- what the clock showed, or the time that an archive tells -/
  time : Moment
  /-- whether they came from an archive -/
  fromArchive : Bool
  deriving DecidableEq, Repr

/-- What happens to a path. -/
inductive Event where
  /-- contents were put there -/
  | stored (p : String) (d : Deposit)
  /-- the file there was removed -/
  | removed (p : String)
  deriving DecidableEq, Repr

/-- The event of mounting an entry at a normal place, if it does not fail. -/
@[irreducible] def entryEvent? (place : String) (data : Bytes) (e : Archive.Entry) :
    Option Event := do
  let p ← (normalize (Path.append place e.name)).toOption
  let contents ← (e.contents data).toOption
  let time ← e.modified.toOption
  some (.stored p ⟨contents, time, true⟩)

/-- The events of mounting entries at a normal place, up to the first entry that fails. -/
def mountEvents (place : String) (data : Bytes) : List Archive.Entry → List Event
  | [] => []
  | e :: rest =>
    if e.name.isEmpty then []
    else if e.isDirectory then mountEvents place data rest
    else match entryEvent? place data e with
      | none => []
      | some event => event :: mountEvents place data rest

/-- The events of an act. A write that succeeds puts its contents at its path, at the moment that its
reading of the clock shows. -/
def Act.events (m : Memory) : Act → List Event
  | .write path content =>
    match (m.write path content).1, content.drain with
    | .ok (p, _), .ok data => [.stored p ⟨data, m.clock m.ticks, false⟩]
    | _, _ => []
  | .remove path =>
    match (m.remove path).1 with
    | .ok (some p) => [.removed p]
    | _ => []
  | .mount data place =>
    match normalize place, archiveEntries data with
    | .ok p, .ok entries => mountEvents p data entries
    | _, _ => []

/-- The events of some acts, in order. -/
def trace (m : Memory) : List Act → List Event
  | [] => []
  | a :: acts => a.events m ++ trace (a.run m) acts

/-- What an event puts at a path. -/
def Event.depositAt? (p : String) : Event → Option Deposit
  | .stored q d => if q = p then some d else none
  | .removed _ => none

@[simp] theorem Event.depositAt?_stored (p q : String) (d : Deposit) :
    (Event.stored q d).depositAt? p = if q = p then some d else none := rfl

@[simp] theorem Event.depositAt?_removed (p q : String) : (Event.removed q).depositAt? p = none := rfl

/-- What was put at a path since its last removal. -/
def life (p : String) (events : List Event) : List Deposit :=
  (events.reverse.takeWhile (· ≠ .removed p)).reverse.filterMap (·.depositAt? p)

/-- The file that deposits leave behind: the latest one, made when the first one was put there. Where
one of them came from an archive, it is not known when the file was made. -/
def recalled (deposits : List Deposit) : Option MemoryFile :=
  deposits.getLast?.map fun d =>
    ⟨d.data, d.time, if deposits.any (·.fromArchive) then none else deposits.head?.map (·.time)⟩

@[simp] theorem life_nil (p : String) : life p [] = [] := rfl

theorem life_stored (p q : String) (d : Deposit) (events : List Event) :
    life p (events ++ [.stored q d]) =
      if q = p then life p events ++ [d] else life p events := by
  by_cases h : q = p <;> simp [life, h]

theorem life_removed (p q : String) (events : List Event) :
    life p (events ++ [.removed q]) = if q = p then [] else life p events := by
  by_cases h : q = p <;> simp [life, h]

@[simp] theorem recalled_nil : recalled [] = none := rfl

/-- What deposits leave behind, when there are any. -/
theorem recalled_cons (d : Deposit) (rest : List Deposit) :
    recalled (d :: rest) = some ⟨((d :: rest).getLast (by simp)).data,
      ((d :: rest).getLast (by simp)).time,
      if (d :: rest).any (·.fromArchive) then none else some d.time⟩ := by
  rw [recalled, List.getLast?_eq_some_getLast (by simp)]
  rfl

theorem recalled_concat (deposits : List Deposit) (d : Deposit) :
    recalled (deposits ++ [d]) = some ⟨d.data, d.time,
      if d.fromArchive then none
      else match recalled deposits with
        | some f => f.created
        | none => some d.time⟩ := by
  cases deposits with
  | nil => cases h : d.fromArchive <;> simp [recalled, h]
  | cons x rest =>
    have hlast (hne : x :: (rest ++ [d]) ≠ []) : (x :: (rest ++ [d])).getLast hne = d :=
      List.getLast_concat (l := x :: rest)
    rw [List.cons_append, recalled_cons, recalled_cons]
    cases h : d.fromArchive <;> simp [h, hlast]

/-! ## What an act does -/

/-- A store agrees with events when every path holds what they recall. -/
def Agrees (m : Memory) (events : List Event) : Prop :=
  ∀ p, m.files.get? p = recalled (life p events)

theorem agrees_empty (clock : Nat → Moment) : Agrees (empty clock) [] := fun _ => rfl

/-- Putting a file at a path agrees with one deposit more, when it is what the deposits then recall. -/
theorem Agrees.insert {m n : Memory} {events : List Event} (h : Agrees m events) {q : String}
    {d : Deposit} {f : MemoryFile} (hfiles : n.files = m.files.insert q f)
    (hf : recalled (life q events ++ [d]) = some f) : Agrees n (events ++ [.stored q d]) := by
  intro p
  rw [hfiles, Catalog.get?_insert, life_stored]
  by_cases hq : p = q
  · subst hq
    rw [if_pos rfl, if_pos rfl, hf]
  · rw [if_neg hq, if_neg (Ne.symm hq), h p]

theorem Agrees.put {m : Memory} {events : List Event} (h : Agrees m events) (q : String)
    (data : Bytes) (now : Moment) :
    Agrees (m.put q data now) (events ++ [.stored q ⟨data, now, false⟩]) := by
  apply h.insert rfl
  rw [recalled_concat, ← h q]
  rfl

theorem Agrees.mount {m : Memory} {events : List Event} (h : Agrees m events) (q : String)
    (data : Bytes) (time : Moment) :
    Agrees { m with files := m.files.insert q ⟨data, time, none⟩ }
      (events ++ [.stored q ⟨data, time, true⟩]) := by
  apply h.insert rfl
  rw [recalled_concat]
  rfl

theorem Agrees.erase {m : Memory} {events : List Event} (h : Agrees m events) (q : String) :
    Agrees { m with files := m.files.erase q } (events ++ [.removed q]) := by
  intro p
  rw [Catalog.get?_erase, life_removed]
  by_cases hq : p = q
  · subst hq
    rw [if_pos rfl, if_pos rfl, recalled_nil]
  · rw [if_neg hq, if_neg (Ne.symm hq), h p]

/-- An entry has an event when it can be mounted. -/
theorem entryEvent?_eq (place : String) (data : Bytes) (e : Archive.Entry) :
    entryEvent? place data e = match mountedEntry place data e with
      | .error _ => none
      | .ok (p, file) => some (.stored p ⟨file.data, file.modified, true⟩) := by
  unfold entryEvent? mountedEntry
  cases normalize (Path.append place e.name) with
  | error f => rfl
  | ok p =>
    cases e.contents data with
    | error f => rfl
    | ok contents => cases e.modified <;> rfl

/-- Mounting entries does what its events tell, also when an entry fails. -/
theorem Agrees.entries {place : String} {data : Bytes} (entries : List Archive.Entry) :
    ∀ {m : Memory} {events : List Event} (count : Nat), Agrees m events →
      Agrees (mountEntries place data count m entries).2
        (events ++ mountEvents place data entries) := by
  induction entries with
  | nil => intro m events count h; simpa [Memory.mountEntries, mountEvents] using h
  | cons e rest ih =>
    intro m events count h
    simp only [Memory.mountEntries, mountEvents]
    by_cases hname : e.name.isEmpty
    · simpa [hname] using h
    by_cases hdir : e.isDirectory
    · simpa [hname, hdir] using ih count h
    rw [if_neg hname, if_neg hname, if_neg hdir, if_neg hdir]
    rw [entryEvent?_eq]
    cases hfile : mountedEntry place data e with
    | error f => simpa using h
    | ok found =>
      obtain ⟨p, file⟩ := found
      have hcreated : file = ⟨file.data, file.modified, none⟩ := by
        rw [← (mountedEntry_eq_ok hfile).2.2.2]
      have hstep := Agrees.mount h p file.data file.modified
      rw [← hcreated] at hstep
      have := ih (count + 1) hstep
      simpa using this

/-- **Step.** An act does what its events tell, whether it fails or not. -/
theorem Agrees.act {m : Memory} {events : List Event} (h : Agrees m events) (a : Act) :
    Agrees (a.run m) (events ++ a.events m) := by
  cases a with
  | write path content =>
    rcases write_cases m path content with ⟨f, hw, -⟩ | ⟨p, data, f, -, hd, hw⟩ |
      ⟨p, data, -, hd, -, -, hw⟩
    · simpa [Act.run, Act.events, hw] using h
    · have htick : Agrees m.tick events := h
      simpa [Act.run, Act.events, hw] using htick
    · simp only [Act.run, Act.events, hw, hd]
      exact h.put p data (m.clock m.ticks)
  | remove path =>
    rcases remove_cases m path with ⟨f, hr⟩ | hr | ⟨p, -, -, hr⟩
    · simpa [Act.run, Act.events, hr] using h
    · simpa [Act.run, Act.events, hr] using h
    · simp only [Act.run, Act.events, hr]
      exact h.erase p
  | mount data place =>
    -- a mount that is refused as a whole has no events; one that fails on the way has some
    rcases mount_cases m data place with ⟨hm, hnone⟩ | ⟨p, entries, hp, hlist, hm⟩
    · have hevents : (Act.mount data place).events m = [] := by
        rcases hnone with ⟨f, hf⟩ | ⟨f, hf⟩
        · simp [Act.events, hf]
        · cases hp : normalize place <;> simp [Act.events, hf, hp]
      rw [hevents, List.append_nil, Act.run, hm]
      exact h
    · simp only [Act.run, Act.events, hp, hlist, hm]
      exact h.entries entries 0

/-- **Run.** A store is a function of its trace. -/
theorem Agrees.run {acts : List Act} : ∀ {m : Memory} {events : List Event}, Agrees m events →
    Agrees (run m acts) (events ++ trace m acts) := by
  induction acts with
  | nil => intro m events h; simpa [trace] using h
  | cons a rest ih =>
    intro m events h
    have := ih (h.act a)
    rwa [List.append_assoc] at this

theorem agrees_run (clock : Nat → Moment) (acts : List Act) :
    Agrees (Memory.run (empty clock) acts) (trace (empty clock) acts) := by
  rw [← List.nil_append (trace _ _)]
  exact (agrees_empty clock).run

/-! ## The clock -/

/-- Mounting does not read the clock. -/
theorem mountEntries_clock (place : String) (data : Bytes) (entries : List Archive.Entry)
    (m : Memory) (count : Nat) :
    (mountEntries place data count m entries).2.clock = m.clock ∧
      (mountEntries place data count m entries).2.ticks = m.ticks :=
  mountEntries_induction (P := fun k => k.clock = m.clock ∧ k.ticks = m.ticks)
    (fun _ _ _ _ _ _ hk => hk) count ⟨rfl, rfl⟩

/-- No act sets the clock; an act that reads it goes on by one reading. -/
theorem Act.run_clock (m : Memory) (a : Act) :
    (a.run m).clock = m.clock ∧
      (a.run m).ticks = m.ticks + if a.readsClock then 1 else 0 := by
  cases a with
  | write path content =>
    rcases write_cases m path content with ⟨f, hw, hf | ⟨p, hp, hf⟩⟩ | ⟨p, data, f, hp, hd, hw⟩ |
      ⟨p, data, hp, hd, -, -, hw⟩
    · simp [Act.run, hw, Act.readsClock, hf, Except.isOk, Except.toBool]
    · simp [Act.run, hw, Act.readsClock, hp, hf, Except.isOk, Except.toBool]
    · simp [Act.run, hw, Act.readsClock, hp, hd, Except.isOk, Except.toBool, tick]
    · simp [Act.run, hw, Act.readsClock, hp, hd, Except.isOk, Except.toBool, tick, put]
  | remove path =>
    rcases remove_cases m path with ⟨f, hr⟩ | hr | ⟨p, -, -, hr⟩ <;>
      simp [Act.run, hr, Act.readsClock]
  | mount data place =>
    rcases mount_cases m data place with ⟨hm, -⟩ | ⟨p, entries, -, -, hm⟩
    · simp [Act.run, hm, Act.readsClock]
    · simpa [Act.run, hm, Act.readsClock] using mountEntries_clock p data entries m 0

/-- The number of readings is the number of acts that read the clock. -/
theorem run_clock (acts : List Act) : ∀ m : Memory, (run m acts).clock = m.clock ∧
    (run m acts).ticks = m.ticks + acts.countP Act.readsClock := by
  induction acts with
  | nil => exact fun _ => ⟨rfl, rfl⟩
  | cons a rest ih =>
    intro m
    obtain ⟨hclock, hticks⟩ := a.run_clock m
    obtain ⟨hclock', hticks'⟩ := ih (a.run m)
    rw [run_cons, hclock', hclock, hticks', hticks, List.countP_cons]
    exact ⟨rfl, by omega⟩

/-- The reading of the clock that an event tells. -/
def Event.reading? : Event → Option Moment
  | .stored _ d => if d.fromArchive then none else some d.time
  | .removed _ => none

@[simp] theorem Event.reading?_stored (p : String) (d : Deposit) :
    (Event.stored p d).reading? = if d.fromArchive then none else some d.time := rfl

@[simp] theorem Event.reading?_removed (p : String) : (Event.removed p).reading? = none := rfl

theorem mountEvents_readings (place : String) (data : Bytes) (entries : List Archive.Entry) :
    (mountEvents place data entries).filterMap Event.reading? = [] := by
  induction entries with
  | nil => rfl
  | cons e rest ih =>
    rw [mountEvents]
    by_cases hname : e.name.isEmpty
    · rw [if_pos hname]
      rfl
    by_cases hdir : e.isDirectory
    · rw [if_neg hname, if_pos hdir]
      exact ih
    rw [if_neg hname, if_neg hdir, entryEvent?_eq]
    cases mountedEntry place data e with
    | error f => rfl
    | ok found => simpa using ih

/-- An act tells at most one reading, the one it takes. -/
theorem Act.events_readings (m : Memory) (a : Act) :
    (a.events m).filterMap Event.reading? = [] ∨
      (a.readsClock = true ∧ (a.events m).filterMap Event.reading? = [m.clock m.ticks]) := by
  cases a with
  | write path content =>
    rcases write_cases m path content with ⟨f, hw, -⟩ | ⟨p, data, f, -, hd, hw⟩ |
      ⟨p, data, hp, hd, -, -, hw⟩
    · exact .inl (by simp [events, hw])
    · exact .inl (by simp [events, hw])
    · exact .inr ⟨by simp [readsClock, hp, hd, Except.isOk, Except.toBool],
        by simp [events, hw, hd]⟩
  | remove path =>
    refine .inl ?_
    rcases remove_cases m path with ⟨f, hr⟩ | hr | ⟨p, -, -, hr⟩ <;>
      simp [events, hr]
  | mount data place =>
    refine .inl ?_
    cases hp : normalize place with
    | error f => simp [events, hp]
    | ok p =>
      cases hlist : archiveEntries data with
      | error f => simp [events, hp, hlist]
      | ok entries => simpa only [events, hp, hlist] using mountEvents_readings p data entries

/-- A clock that does not run backwards. -/
def Forward (clock : Nat → Moment) : Prop :=
  ∀ i j, i ≤ j → (clock i).micros ≤ (clock j).micros

/-- The readings that a trace tells come one after the other. -/
theorem trace_readings {clock : Nat → Moment} (hf : Forward clock) (acts : List Act) :
    ∀ {m : Memory}, m.clock = clock →
      (∀ t ∈ (trace m acts).filterMap Event.reading?, (clock m.ticks).micros ≤ t.micros) ∧
      ((trace m acts).filterMap Event.reading?).Pairwise fun t u => t.micros ≤ u.micros := by
  induction acts with
  | nil => intro m _; simp [trace]
  | cons a rest ih =>
    intro m hclock
    obtain ⟨hclock', hticks⟩ := a.run_clock m
    obtain ⟨hlow, hsorted⟩ := ih (hclock'.trans hclock)
    have hlow' : ∀ t ∈ (trace (a.run m) rest).filterMap Event.reading?,
        (clock m.ticks).micros ≤ t.micros :=
      fun t ht => Int.le_trans (hf m.ticks (a.run m).ticks (by omega)) (hlow t ht)
    rw [trace, List.filterMap_append]
    -- a reading that the act takes is not later than those that the rest of the run takes
    rcases a.events_readings m with hnone | ⟨-, hone⟩
    · rw [hnone, List.nil_append]
      exact ⟨hlow', hsorted⟩
    · rw [hone, hclock]
      refine ⟨fun t ht => ?_, List.pairwise_cons.mpr ⟨hlow', hsorted⟩⟩
      rcases List.mem_cons.mp ht with rfl | ht
      · exact Int.le_refl _
      · exact hlow' t ht

/-! ## A single file -/

/-- The readings in the life of a path are among those of the whole trace, in the same order. -/
theorem life_readings (p : String) (events : List Event) :
    (((life p events).filter fun d => !d.fromArchive).map (·.time)).Sublist
      (events.filterMap Event.reading?) := by
  have hsub : (events.reverse.takeWhile (· ≠ .removed p)).reverse.Sublist events := by
    have := (List.takeWhile_sublist (l := events.reverse) (· ≠ .removed p)).reverse
    rwa [List.reverse_reverse] at this
  refine List.Sublist.trans ?_ (hsub.filterMap _)
  rw [life]
  -- how the part was cut out does not matter any more
  generalize (events.reverse.takeWhile (· ≠ .removed p)).reverse = part
  induction part with
  | nil => exact List.Sublist.refl _
  | cons e rest ih =>
    cases e with
    | removed q => exact ih
    | stored q d =>
      cases harchive : d.fromArchive <;> by_cases hq : q = p
      · simpa [harchive, hq] using ih
      · simpa [harchive, hq] using ih.cons _
      · simpa [harchive, hq] using ih
      · simpa [harchive, hq] using ih

/-- What a file tells of its life. -/
structure Remembers (life : List Deposit) (f : MemoryFile) : Prop where
  /-- it has the contents and the time of the latest deposit -/
  latest : ∃ d, life.getLast? = some d ∧ f.data = d.data ∧ f.modified = d.time
  /-- it is not known when it was made exactly if a deposit came from an archive -/
  unknown : f.created = none ↔ ∃ d ∈ life, d.fromArchive = true
  /-- otherwise it was made when it was first written -/
  first : f.created ≠ none →
    f.created = (life.find? fun d => !d.fromArchive).map (·.time)

theorem remembers_of_recalled {deposits : List Deposit} {f : MemoryFile}
    (h : recalled deposits = some f) : Remembers deposits f := by
  cases deposits with
  | nil => simp at h
  | cons d rest =>
    rw [recalled_cons, Option.some.injEq] at h
    subst h
    refine ⟨⟨_, List.getLast?_eq_some_getLast (by simp), rfl, rfl⟩, ?_, ?_⟩
    · simp only [ite_eq_left_iff, reduceCtorEq, imp_false, not_not, List.any_eq_true]
    · intro hknown
      have hany : ¬ (d :: rest).any (·.fromArchive) = true := fun hany => hknown (if_pos hany)
      have hd : d.fromArchive = false := by
        simp only [List.any_cons, Bool.or_eq_true, not_or, Bool.not_eq_true] at hany
        exact hany.1
      simp only [if_neg hany, List.find?_cons, hd, Bool.not_false, Option.map_some]

/-- A file whose time of making is known was not made after its last change. -/
theorem Remembers.made_le {deposits : List Deposit} {f : MemoryFile} (h : Remembers deposits f)
    (hsorted : ((deposits.filter fun d => !d.fromArchive).map (·.time)).Pairwise
      fun t u => t.micros ≤ u.micros) {t : Moment} (ht : f.created = some t) :
    t.micros ≤ f.modified.micros := by
  have hown : ∀ d ∈ deposits, d.fromArchive = false := by
    intro d hd
    by_contra harchive
    have hnone := h.unknown.mpr ⟨d, hd, by simpa using harchive⟩
    simp [hnone] at ht
  have hall : (deposits.filter fun d => !d.fromArchive) = deposits :=
    List.filter_eq_self.mpr fun d hd => by simp [hown d hd]
  obtain ⟨last, hlast, -, hmodified⟩ := h.latest
  have hfirst := h.first (by simp [ht])
  rw [hall] at hsorted
  cases deposits with
  | nil => simp at hlast
  | cons d rest =>
    have hd : t = d.time := by
      simpa [ht, hown d (List.mem_cons_self ..)] using hfirst
    rw [hd, hmodified]
    rcases List.mem_cons.mp (List.mem_of_getLast? hlast) with rfl | hmem
    · exact Int.le_refl _
    · exact (List.pairwise_cons.mp hsorted).1 _ (List.mem_map_of_mem hmem)

/-- **A file is what its life made it.** After any acts on a store that was empty, each file has the
contents and the time of the latest deposit at its path since the last removal, and was made when it was
first written since then, unless an archive put something there. A path without a deposit since its last
removal holds nothing. The clock is read once by each write whose path is accepted and whose contents
can be read. -/
theorem run_remembers (clock : Nat → Moment) (acts : List Act) (p : String) :
    (∀ f, (run (empty clock) acts).files.get? p = some f →
      Remembers (life p (trace (empty clock) acts)) f ∧
      (Forward clock → ∀ t, f.created = some t → t.micros ≤ f.modified.micros)) ∧
    ((run (empty clock) acts).files.get? p = none ↔ life p (trace (empty clock) acts) = []) ∧
    (run (empty clock) acts).clock = clock ∧
    (run (empty clock) acts).ticks = acts.countP Act.readsClock := by
  have hagrees := agrees_run clock acts p
  obtain ⟨hclock, hticks⟩ := run_clock acts (empty clock)
  refine ⟨fun f hfile => ?_, ?_, hclock, by simpa [empty] using hticks⟩
  · have hremembers := remembers_of_recalled (hagrees.symm.trans hfile)
    refine ⟨hremembers, fun hforward t ht => hremembers.made_le ?_ ht⟩
    exact (trace_readings hforward acts (m := empty clock) rfl).2.sublist (life_readings p _)
  · rw [hagrees]
    cases life p (trace (empty clock) acts) with
    | nil => simp
    | cons d rest => simp [recalled_cons]

/-- A file that is written twice was made at the first reading and changed at the second. -/
theorem run_remembers_rewritten :
    let clock : Nat → Moment := fun n => ⟨n⟩
    let acts : List Act := [.write "a" (.bytes [1]), .write "./a/" (.bytes [2, 3])]
    let f : MemoryFile := ⟨[2, 3], ⟨1⟩, some ⟨0⟩⟩
    (run (empty clock) acts).files.get? "a" = some f ∧ Forward clock ∧
      Remembers (life "a" (trace (empty clock) acts)) f ∧ (0 : Int) ≤ 1 := by
  intro clock acts f
  have hfile : (run (empty clock) acts).files.get? "a" = some f := by decide +kernel
  have hforward : Forward clock := fun i j hij => Int.ofNat_le.mpr hij
  obtain ⟨hremembers, hmade⟩ := (run_remembers clock acts "a").1 f hfile
  exact ⟨hfile, hforward, hremembers, hmade hforward ⟨0⟩ rfl⟩

end FileDepot.Memory
