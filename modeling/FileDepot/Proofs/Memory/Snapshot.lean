import FileDepot.Proofs.Memory.Listing
import FileDepot.Proofs.Passing
import FileDepot.Proofs.Tickets

/-!
# Listings as snapshots

A listing in memory has the files as they were when it was made: whatever happens to the store, its records
tell the names, times and sizes of these. The contents of a record are those of the store when they are
opened, and where no file is stored by then they can be opened later (`listing_snapshot`).
-/

namespace FileDepot.Memory

open FileDepot.Path FileDepot.Text

variable {config : Config} {k : String} {f : MemoryFile} {request : Request Memory}

/-- What the record of a file tells: its name, its metadata if some are wanted, and how its contents are
read. -/
structure Shows (config : Config) (request : Request Memory) (k : String) (f : MemoryFile)
    (r : Record Memory) : Prop where
  /-- the name is the last segment of the path -/
  name : r.name = baseName k
  /-- a file whose making is not known counts as made when it last changed -/
  metadata : projectsMetadata request.columns = true → r.modified = some f.modified ∧
    r.created = some (f.created.getD f.modified) ∧ r.size = some f.data.length
  /-- the contents are text when text is listed -/
  charset : r.content.charset = if request.kind = .listText then some config.charset else none

/-- The record that a cursor makes tells what the cursor has. -/
theorem shows_fileRecord {c : Cursor (String × MemoryFile)} (hkind : c.kind = request.kind)
    (hmeta : c.metadata = projectsMetadata request.columns) (ticket : Nat) :
    Shows config request k f (fileRecord config c k f ticket) := by
  rw [fileRecord]
  cases hwanted : c.metadata with
  | true => exact ⟨rfl, fun _ => ⟨rfl, rfl, rfl⟩, by rw [← hkind]; rfl⟩
  | false =>
    refine ⟨rfl, fun h => ?_, by rw [← hkind]; rfl⟩
    rw [← hmeta, hwanted] at h
    cases h

/-- What the call for the next file of a cursor gives, whatever is stored by now: a record that shows the file
as it was listed, and whose contents are not opened yet. -/
structure GivesNext (config : Config) (t : Session Memory (String × MemoryFile)) (j : Nat)
    (request : Request Memory) (k : String) (f : MemoryFile) (r : Record Memory) : Prop where
  /-- the call gives the record -/
  reply : ((adapter config).call t (.next j)).1 = .ok (.record (some r))
  /-- the record is kept -/
  records : ((adapter config).call t (.next j)).2.records = t.records ++ [((k, f), r)]
  /-- what is stored stays as it is -/
  store : ((adapter config).call t (.next j)).2.world.store = t.world.store
  /-- the contents are not opened yet -/
  unopened : r.content.ticket ∉ ((adapter config).call t (.next j)).2.world.redeemed
  /-- the record shows the file as it was listed -/
  shows : Shows config request k f r

/-- What opening the contents of a record comes to when they are not opened yet. -/
structure OpensStored (config : Config) (t : Session Memory (String × MemoryFile)) (i : Nat) (k : String)
    (r : Record Memory) : Prop where
  /-- where a file is stored by now, its bytes are read, and the contents count as opened -/
  stored : ∀ g source, t.world.store.files.get? k = some g → r.content.source? g.data = some source →
    (adapter config).call t (.openStream i) = (.ok (.stream ⟨source, .memory, false⟩),
      { t with world := { t.world with redeemed := r.content.ticket :: t.world.redeemed },
               streams := t.streams ++ [⟨source, .memory, false⟩] })
  /-- where no file is stored by now, this is a fault of the storage, and nothing happens: they can be opened
  later -/
  missing : t.world.store.files.get? k = none → ∃ f : Fault, f.family = .storage ∧
    (adapter config).call t (.openStream i) = (.error f, t)
  /-- this is the only fault of the storage -/
  only : ∀ f : Fault, ((adapter config).call t (.openStream i)).1 = .error f → f.family = .storage →
    t.world.store.files.get? k = none

/-! ## Steps -/

section

variable {s t : Session Memory (String × MemoryFile)} {c : Cursor (String × MemoryFile)} {i j : Nat}
  {r : Record Memory}

/-- The cursor of a listing has the files that its pattern is resolved to, and is all that the listing
adds. -/
theorem files_of_listing (hkind : request.kind.isListing = true)
    (hlist : ((adapter config).call s (.execute (some request))).1 = .ok (.cursor c)) :
    c.kind = request.kind ∧ c.metadata = projectsMetadata request.columns ∧ c.remaining = c.files ∧
      (∃ notes, ((adapter config).call s (.execute (some request))).2 =
        { s with world := ⟨s.world.store, notes, s.world.issued, s.world.redeemed⟩,
                 cursors := s.cursors ++ [c] }) ∧
      ∃ pattern, request.path = some pattern ∧ s.world.store.resolve pattern = .ok c.files := by
  obtain ⟨w, hexec, hafter⟩ := Adapter.call_eq_cursor (x := .execute (some request)) rfl hlist
  obtain ⟨hk, hmeta, hindex, hclosed, hfiles⟩ := Adapter.execute_eq_ok hexec
  rw [if_pos hkind] at hfiles
  obtain ⟨pattern, w₁, note, hpath, hresolve, rfl⟩ := hfiles
  simp only [store, Op.ask_exec] at hresolve
  obtain ⟨hfound, rfl⟩ := Prod.mk.inj hresolve
  refine ⟨hk, hmeta, ?_, ⟨_, hafter⟩, pattern, hpath, hfound⟩
  rw [Cursor.remaining, hk, hkind, hclosed, hindex]
  rfl

/-- **Next.** The call for the next file makes its record from what the cursor has. -/
theorem gives_next (hsound : t.world.Sound) (hc : t.cursors[j]? = some c)
    (hkind : c.kind = request.kind) (hmeta : c.metadata = projectsMetadata request.columns)
    {rest : List (String × MemoryFile)} (hleft : c.remaining = (k, f) :: rest) :
    ∃ r, GivesNext config t j request k f r := by
  obtain ⟨notes, hrecord⟩ := record_file config c k f t.world
  have hcall := Adapter.call_next_ok hc hleft hrecord
  have hticket : (fileRecord config c k f t.world.issued).content.ticket = t.world.issued := by
    rw [fileRecord]
    split <;> rfl
  refine ⟨fileRecord config c k f t.world.issued, ?_, ?_, ?_, ?_,
    shows_fileRecord hkind hmeta t.world.issued⟩
  · rw [hcall]
  · rw [hcall]
  · rw [hcall]
  · rw [hcall, hticket]
    exact hsound.not_mem

/-- **Open.** The contents of a record are looked up when they are opened. -/
theorem opens_stored (hr : t.records[i]? = some ((k, f), r))
    (hof : (adapter config).IsRecordOf (k, f) r) (hk : normalize k = .ok k)
    (hfresh : r.content.ticket ∉ t.world.redeemed) : OpensStored config t i k r := by
  obtain ⟨-, kind, length, ticket, hcontent⟩ := hof
  have hsource : r.content.source = store.contents (k, f) := by rw [hcontent]; rfl
  have hmedium : r.content.medium = .memory := by rw [hcontent]; rfl
  have hcall : (adapter config).call t (.openStream i) =
      t.perform r.content.openStream .stream Session.addStream := by
    rw [Adapter.call, hr]
  constructor
  case stored =>
    intro g source hget hdecoded
    have hopen := Lob.openStream_of_take (take_file hsource hk hfresh hget) hdecoded
    rw [hcall, Session.perform, hopen, hmedium]
    rfl
  case missing =>
    intro hget
    have hopen := Lob.openStream_of_take_error (take_missing hsource hk hfresh hget)
    refine ⟨.unopened (.memory (.missing k)), rfl, ?_⟩
    rw [hcall, Session.perform, hopen]
  case only =>
    intro f hfail hfamily
    cases hget : t.world.store.files.get? k with
    | none => rfl
    | some g =>
      have htake := take_file hsource hk hfresh hget
      rw [hcall, Session.perform] at hfail
      cases hdecoded : r.content.source? g.data with
      | some source =>
        rw [Lob.openStream_of_take htake hdecoded] at hfail
        cases hfail
      | none =>
        obtain ⟨charset, e, -, -, hopen⟩ := Lob.openStream_of_take_charset htake hdecoded
        rw [hopen] at hfail
        obtain rfl := Except.error.inj hfail
        cases e <;> cases hfamily

end

/-! ## Snapshots -/

/-- **Snapshot.** The cursor of a listing has the files that its pattern stands for when the listing is made.
After any later calls, among them changes of the store, the call for the next file gives a record of the first
that is not passed yet, as it was listed. Contents are those that are stored at the path when they are opened;
where no file is stored by then, they are not opened, and can be opened later. -/
theorem listing_snapshot (config : Config) (m₀ : Memory) (before later : List (Session.Call Memory))
    (hbefore : ∀ x ∈ before, x.IsPlain) (hlater : ∀ x ∈ later, x.IsPlain) {clock : Nat → Moment}
    {acts : List Act} {request : Request Memory} {c : Cursor (String × MemoryFile)} :
    let a := adapter config
    let s := a.calls ⟨.fresh m₀, [], [], []⟩ before
    let listed := a.call s (.execute (some request))
    let j := s.cursors.length
    let t := a.calls listed.2 later
    s.world.store = run (empty clock) acts →
    (∀ k ∈ s.world.store.files.keys, ∀ n ∈ parts k, Tidy n) →
    request.kind.isListing = true → listed.1 = .ok (.cursor c) →
    (∃ pattern, request.path = some pattern ∧ s.world.store.resolve pattern = .ok c.files) ∧
    (∀ k f, (k, f) ∈ c.files → s.world.store.files.get? k = some f) ∧
    (∀ k f rest, (if later.any (Session.Call.isClose j) then []
        else c.files.drop (a.passed j listed.2 later)) = (k, f) :: rest →
      ∃ r, GivesNext config t j request k f r) ∧
    (∀ i k f r, t.records[i]? = some ((k, f), r) → (k, f) ∈ c.files →
      r.content.ticket ∉ t.world.redeemed → OpensStored config t i k r) := by
  intro a s listed j t hstore hkeys hkind hlist
  obtain ⟨hk, hmeta, hall, ⟨notes, hlisted⟩, pattern, hpath, hresolve⟩ := files_of_listing hkind hlist
  have hheld : listed.2.cursors[j]? = some c := by
    rw [hlisted]
    exact List.getElem?_concat_length
  have hget : ∀ k f, (k, f) ∈ c.files → s.world.store.files.get? k = some f := by
    obtain ⟨p, hp, -⟩ := Outcome.bind_eq_ok hresolve
    exact fun k f hmem => ((mem_resolve_iff hp hresolve).mp hmem).2
  have hkeeps : a.store.KeepsTickets := store_keepsTickets
  have hfair : a.Fair t := by
    have hs : a.Fair s := Adapter.fair_calls hkeeps (a.fair_fresh m₀) hbefore
    have hafter : a.Fair listed.2 := by
      rw [hlisted]
      exact ⟨hs.sound, hs.records, hs.tickets⟩
    exact Adapter.fair_calls hkeeps hafter hlater
  refine ⟨⟨pattern, hpath, hresolve⟩, hget, ?_, ?_⟩
  · intro k f rest hleft
    obtain ⟨after, hafter, hkind', hmeta', hremaining, -⟩ := a.cursors_calls hheld later
    rw [hall] at hremaining
    exact gives_next hfair.sound hafter (hkind'.trans hk) (hmeta'.trans hmeta) (hremaining.trans hleft)
  · intro i k f r hr hmem hfresh
    have hstored := hget k f hmem
    have hnormal : IsNormal k := by
      rw [hstore] at hstored
      exact normal_of_run (by rw [Catalog.contains, hstored]; rfl)
    have htidy : ∀ n ∈ parts k, Tidy n :=
      hkeys k (Catalog.mem_keys.mpr (by rw [Catalog.contains, hstored]; rfl))
    exact opens_stored hr (hfair.records _ (List.mem_of_getElem? hr))
      (normalize_of_stored hnormal htidy) hfresh

section

variable {m : Memory} (config : Config) (request : Request Memory) (hf : m.files.get? "a" = some f)
  (hkind : request.kind.isListing = true) (hpath : request.path = some "a")
  (hvalid : isRefused (some request) = false)

include hf hkind hpath hvalid

/-- A listing of one file in a new session. -/
theorem call_listing_letter :
    ∃ notes, (adapter config).call ⟨.fresh m, [], [], []⟩ (.execute (some request)) =
      (.ok (.cursor ⟨request.kind, projectsMetadata request.columns, [("a", f)], 0, false⟩),
        ⟨⟨m, notes, 0, []⟩,
          [⟨request.kind, projectsMetadata request.columns, [("a", f)], 0, false⟩], [], []⟩) := by
  obtain ⟨notes, hexec⟩ := execute_list config hkind hpath hvalid (.fresh m)
  have hresolve : (World.fresh m).store.resolve "a" = .ok [("a", f)] := (resolve_letter hf).1
  rw [hresolve] at hexec
  refine ⟨notes, ?_⟩
  rw [Adapter.call, Session.perform, hexec]
  rfl

/-- The record of the file that is listed in a new session. -/
theorem call_next_letter :
    let r := fileRecord config ⟨request.kind, projectsMetadata request.columns, [("a", f)], 0, false⟩
      "a" f 0
    ∃ notes c, (adapter config).call
        ((adapter config).call ⟨.fresh m, [], [], []⟩ (.execute (some request))).2 (.next 0) =
      (.ok (.record (some r)), ⟨⟨m, notes, 1, []⟩, [c], [(("a", f), r)], []⟩) := by
  intro r
  obtain ⟨notes, hcall⟩ := call_listing_letter config request hf hkind hpath hvalid
  let c : Cursor (String × MemoryFile) :=
    ⟨request.kind, projectsMetadata request.columns, [("a", f)], 0, false⟩
  have hleft : c.remaining = [("a", f)] := by
    rw [Cursor.remaining, hkind]
    rfl
  obtain ⟨notes', hrecord⟩ := record_file config c "a" f ⟨m, notes, 0, []⟩
  rw [hcall]
  exact ⟨notes', _, Adapter.call_next_ok (c := c) rfl hleft hrecord⟩

end

/-- A file that is removed after the listing is still passed, and its contents cannot be opened. -/
theorem listing_snapshot_removed :
    let a := adapter ⟨.utf8, true⟩
    let m := run (empty fun n => ⟨n⟩) [.write "a" (.bytes [1])]
    let request : Request Memory := ⟨.listBinary, some "a", none, ["size"]⟩
    let listed := (a.call ⟨.fresh m, [], [], []⟩ (.execute (some request))).2
    let t := a.calls listed [.meanwhile fun m => run m [.remove "a"]]
    (∃ r, (a.call t (.next 0)).1 = .ok (.record (some r)) ∧ r.size = some 1) ∧
      ∃ f : Fault, f.family = .storage ∧
        (a.call (a.call t (.next 0)).2 (.openStream 0)).1 = .error f := by
  intro a m request listed t
  let f : MemoryFile := ⟨[1], ⟨0⟩, some ⟨0⟩⟩
  let removal : Session.Call Memory := .meanwhile fun m => run m [.remove "a"]
  have hf : m.files.get? "a" = some f := by decide +kernel
  have hgone : (run m [.remove "a"]).files.get? "a" = none := by decide +kernel
  have hkeys : ∀ k ∈ m.files.keys, ∀ n ∈ parts k, Tidy n := by decide +kernel
  obtain ⟨notes, hcall⟩ := call_listing_letter ⟨.utf8, true⟩ request hf rfl rfl (by decide +kernel)
  have hlisted : listed = ⟨⟨m, notes, 0, []⟩, [⟨.listBinary, true, [("a", f)], 0, false⟩], [], []⟩ :=
    congrArg Prod.snd hcall
  have hstored : t.world.store = run m [.remove "a"] ∧ t.records = [] := by
    simp only [t, hlisted]
    exact ⟨rfl, rfl⟩
  have hleft : (if [removal].any (Session.Call.isClose 0) then []
      else [("a", f)].drop (a.passed 0 listed [removal])) = [("a", f)] := by
    rw [hlisted]
    rfl
  have hbefore : ∀ x ∈ ([] : List (Session.Call Memory)), x.IsPlain := fun x hx =>
    absurd hx List.not_mem_nil
  obtain ⟨-, -, hnext, -⟩ := listing_snapshot ⟨.utf8, true⟩ m [] [removal] hbefore
    (by simp [removal, Session.Call.IsPlain]) rfl hkeys rfl (congrArg Prod.fst hcall)
  obtain ⟨r, hgives⟩ : ∃ r, GivesNext ⟨.utf8, true⟩ t 0 request "a" f r := hnext "a" f [] hleft
  -- the record is held after the call for the next file
  obtain ⟨-, -, -, hopen⟩ := listing_snapshot ⟨.utf8, true⟩ m [] [removal, .next 0] hbefore
    (by simp [removal, Session.Call.IsPlain]) rfl hkeys rfl (congrArg Prod.fst hcall)
  have hheld : (a.call t (.next 0)).2.records[0]? = some (("a", f), r) := by
    rw [hgives.records, hstored.2]
    rfl
  have hmissing : (a.call t (.next 0)).2.world.store.files.get? "a" = none := by
    rw [hgives.store, hstored.1, hgone]
  obtain ⟨fault, hfamily, hfails⟩ :=
    (hopen 0 "a" f r hheld (List.mem_singleton_self _) hgives.unopened).missing hmissing
  exact ⟨⟨r, hgives.reply, (hgives.shows.metadata rfl).2.2⟩, fault, hfamily, congrArg Prod.fst hfails⟩

/-- A listing of contents alone tells no sizes and times, and contents are not opened as text in an encoding
of bytes, though their file is stored. -/
theorem listing_snapshot_limits :
    let m := run (empty fun n => ⟨n⟩) [.write "a" (.bytes [97])]
    let s : Session Memory (String × MemoryFile) := ⟨.fresh m, [], [], []⟩
    let request (columns : List String) : Session.Call Memory :=
      .execute (some ⟨.listText, some "a", none, columns⟩)
    let a := adapter ⟨.utf8, true⟩
    let b := adapter ⟨.transform .hex, true⟩
    (m.files.get? "a").map (·.data.length) = some 1 ∧
    (∃ r, (a.call (a.call s (request ["file"])).2 (.next 0)).1 = .ok (.record (some r)) ∧
      r.size = none ∧ r.modified = none ∧ r.created = none) ∧
    let t := b.calls s [request ["size"], .next 0]
    t.world.store.files.get? "a" = m.files.get? "a" ∧
      ∃ r f, t.records = [(("a", ⟨[97], ⟨0⟩, some ⟨0⟩⟩), r)] ∧ r.size = some 1 ∧
        (b.call t (.openStream 0)).1 = .error f ∧ f.family = .lookup := by
  intro m s request a b
  let f : MemoryFile := ⟨[97], ⟨0⟩, some ⟨0⟩⟩
  have hf : m.files.get? "a" = some f := by decide +kernel
  refine ⟨by rw [hf]; rfl, ?_, ?_⟩
  · obtain ⟨notes, c, hcall⟩ := call_next_letter ⟨.utf8, true⟩
      ⟨.listText, some "a", none, ["file"]⟩ hf rfl rfl (by decide +kernel)
    exact ⟨_, congrArg Prod.fst hcall, rfl, rfl, rfl⟩
  · obtain ⟨notes, c, hcall⟩ := call_next_letter ⟨.transform .hex, true⟩
      ⟨.listText, some "a", none, ["size"]⟩ hf rfl rfl (by decide +kernel)
    intro t
    have ht : t = _ := congrArg Prod.snd hcall
    let r := fileRecord ⟨.transform .hex, true⟩ ⟨.listText, true, [("a", f)], 0, false⟩ "a" f 0
    have hheld : t.records = [(("a", f), r)] := by rw [ht]; rfl
    have htake := take_file (l := r.content) (w := t.world) (k := "a") (f := f) rfl
      (by decide +kernel) (by rw [ht]; exact List.not_mem_nil) (g := f) (by rw [ht]; exact hf)
    have hcodec : (Encoding.Charset.ofCodec (.transform .hex)).requireText = .error (.notText "hex") := by
      simp [Encoding.Charset.requireText, Encoding.Charset.require, Encoding.Charset.ofCodec,
        Encoding.Charset.placeLabel, Encoding.Codec.name, Encoding.Transform.name, Encoding.Codec.isText]
    have hsource : r.content.source? f.data = none := by
      have hcharset : r.content.charset = some (.ofCodec (.transform .hex)) := rfl
      rw [Lob.source?, hcharset]
      simp only [hcodec]
    obtain ⟨charset, e, hcharset, he, hopen⟩ := Lob.openStream_of_take_charset htake hsource
    obtain rfl := Option.some.inj hcharset
    obtain rfl := Except.error.inj (hcodec.symm.trans he)
    have hcall' : b.call t (.openStream 0) = t.perform r.content.openStream .stream Session.addStream := by
      rw [Adapter.call, hheld]
      rfl
    refine ⟨by rw [ht], r, .charset (.notText "hex"), hheld, rfl, ?_, rfl⟩
    rw [hcall', Session.perform, hopen]

end FileDepot.Memory
