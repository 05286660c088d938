import FileDepot.Proofs.Disk.Entries
import FileDepot.Proofs.Local.Place

/-!
# Listed files

What a store on disk lists are files: at a place below the root where a file is found
(`resolve_spec`). Where no link is below the root, the file is at that very place
(`listed_of_resolve`), and its path leads back there exactly when it is clean (`realPlace_join`,
`realPlace_join_ne`).
-/

namespace FileDepot.Local

open Disk Location FileDepot.Path Text

variable {s : Local} {d : Disk} {l k : Location}

/-! ## What is listed -/

theorem mem_filterMapM {ε α β : Type} {f : α → Except ε (Option β)} {b : β} :
    ∀ {l : List α} {r : List β}, l.filterMapM f = .ok r → b ∈ r → ∃ a ∈ l, f a = .ok (some b) := by
  intro l
  induction l with
  | nil =>
    intro r h hb
    cases h
    simp at hb
  | cons a l ih =>
    intro r h hb
    rw [List.filterMapM_cons] at h
    obtain ⟨o, ho, h⟩ := Outcome.bind_eq_ok h
    cases o with
    | none =>
      obtain ⟨x, hx, hfx⟩ := ih h hb
      exact ⟨x, List.mem_cons_of_mem _ hx, hfx⟩
    | some c =>
      obtain ⟨rest, hrest, h⟩ := Outcome.bind_eq_ok h
      cases h
      rcases List.mem_cons.mp hb with rfl | hb
      · exact ⟨a, List.mem_cons_self .., ho⟩
      · obtain ⟨x, hx, hfx⟩ := ih hrest hb
        exact ⟨x, List.mem_cons_of_mem _ hx, hfx⟩

/-- Listing names places behind the location that is listed. -/
theorem mem_listing (htree : d.IsTree) {deep : Bool} (hk : k ∈ d.listing deep l) :
    ∃ rest, IsProper rest ∧ k = l ++ rest := by
  rw [listing] at hk
  split at hk
  · simp at hk
  · rename_i found hfound
    obtain ⟨q, hq, rfl⟩ := List.mem_map.mp hk
    have hkeys : q ∈ d.nodes.keys := by
      split at hq
      · exact (List.mem_filter.mp hq).1
      · exact (List.mem_filter.mp hq).1
    refine ⟨q.drop found.length, fun n hn => ?_, rfl⟩
    have hmem := List.mem_of_mem_drop hn
    have hne : q ≠ [] := by
      rintro rfl
      simp at hmem
    exact htree.proper q ((at?_ne_none_iff hne).mpr hkeys) n hmem

theorem mem_filesAmong {places : List Location} {found : List LocalFile}
    (h : s.filesAmong d places = .ok found) {f : LocalFile} (hf : f ∈ found) :
    ∃ l ∈ places, f = s.fileAt l ∧ d.isFile l = .ok true := by
  obtain ⟨l, hl, hfile⟩ := mem_filterMapM h hf
  refine ⟨l, List.mem_mergeSort.mp hl, ?_⟩
  split at hfile
  · rename_i htest
    exact ⟨(Option.some.inj (Except.ok.inj hfile)).symm, htest⟩
  · cases hfile
  · cases hfile

/-- What is listed are places below the root at which a file is found. -/
theorem resolve_spec (htree : d.IsTree) (hroot : IsProper s.root) {text : String}
    {found : List LocalFile} (h : s.resolve d text = .ok found) {f : LocalFile} (hf : f ∈ found) :
    ∃ l, f = s.fileAt l ∧ d.isFile l = .ok true ∧ IsProper l ∧ s.root <+: l := by
  obtain ⟨l, hl, h⟩ := Outcome.bind_eq_ok h
  obtain ⟨hproper, hin⟩ := realPlace_spec hroot hl
  have hamong {places : List Location} (hplaces : ∀ k ∈ places, ∃ deep, k ∈ d.listing deep l)
      (h : s.filesAmong d places = .ok found) :
      ∃ l, f = s.fileAt l ∧ d.isFile l = .ok true ∧ IsProper l ∧ s.root <+: l := by
    obtain ⟨k, hk, rfl, hfile⟩ := mem_filesAmong h hf
    obtain ⟨deep, hk⟩ := hplaces k hk
    obtain ⟨rest, hrest, rfl⟩ := mem_listing htree hk
    refine ⟨l ++ rest, rfl, hfile, fun n hn => ?_, hin.trans (List.prefix_append ..)⟩
    rcases List.mem_append.mp hn with hn | hn
    · exact hproper n hn
    · exact hrest n hn
  split at h
  · obtain ⟨isFile, hfile, h⟩ := Outcome.bind_eq_ok h
    split at h
    · rename_i htest
      cases h
      rw [List.mem_singleton] at hf
      exact ⟨l, hf, htest ▸ Outcome.mapError_eq_ok.mp hfile, hproper, hin⟩
    · obtain ⟨isDirectory, -, h⟩ := Outcome.bind_eq_ok h
      split at h
      · exact hamong (fun k hk => ⟨_, hk⟩) h
      · cases h
        simp at hf
  · obtain ⟨isDirectory, -, h⟩ := Outcome.bind_eq_ok h
    split at h
    · exact hamong (fun k hk => ⟨_, (List.mem_filter.mp hk).1⟩) h
    · cases h
      simp at hf

/-- A pattern with a wildcard in its first segment lists the files that it matches below the root. No
sorting is needed where their locations are held in order. -/
theorem resolve_of_sorted {pattern : String} {places : List Location} {listed : List LocalFile}
    (hsplit : splitPattern (normalize pattern) = ("", pattern)) (hglob : pattern.isEmpty = false)
    (hplace : s.realPlace d "" = .ok s.root) (hdir : d.isDirectory s.root = .ok true)
    (hplaces : (d.listing (isDeep pattern) s.root).filter
      (fun q => Glob.isMatch (join (q.drop s.root.length)) pattern) = places)
    (hsorted : places.Pairwise (placeOrder · ·))
    (hlisted : (places.filterMapM fun l => match d.isFile l with
      | .ok true => .ok (some (s.fileAt l))
      | .ok false => .ok none
      | .error e => .error (.disk e)) = Except.ok (ε := Fault) listed) :
    s.resolve d pattern = .ok listed := by
  simp only [resolve, hsplit, hplace, hglob, hdir, Outcome.ok_bind, Outcome.mapError_ok,
    Bool.false_eq_true, if_false, if_true, hplaces, filesAmong]
  rw [List.mergeSort_of_pairwise hsorted]
  exact hlisted

/-! ## Where no link is below the root -/

/-- Whether no link is at the root or below it. -/
def LinkFree (s : Local) (d : Disk) : Prop :=
  ∀ l target, s.root <+: l → d.at? l ≠ some (.link target)

/-- Without links below the root, every proper location below it is real. -/
theorem LinkFree.isReal (hfree : s.LinkFree d) (htree : d.IsTree)
    (hroot : d.at? s.root = some .directory) (hproper : IsProper l) (hin : s.root <+: l) :
    d.IsReal l := by
  refine ⟨hproper, fun k hk target => ?_⟩
  rcases List.prefix_or_prefix_of_prefix hin hk with hk' | hk'
  · exact hfree k target hk'
  · exact (isReal_root htree hroot).unlinked k hk' target

/-- A file that is found at a real location is there itself. -/
theorem file_of_isFile (htree : d.IsTree) (hreal : d.IsReal l) (h : d.isFile l = .ok true) :
    ∃ data modified, d.locate l = .ok l ∧ d.at? l = some (.file data modified) := by
  obtain ⟨k, data, modified, hk, hnode⟩ := isFile_spec h
  obtain rfl := (locate_leads htree hreal.proper hk).unique hreal.leads
  exact ⟨data, modified, hk, hnode⟩

/-! ## The path of a file -/

theorem fileAt_append {names : List String} (hne : names ≠ []) :
    s.fileAt (s.root ++ names) = ⟨s.root ++ names, join names⟩ := by
  simp [fileAt, relative?, relativeText, List.isPrefixOf_iff_prefix, hne]

/-- Whether a path is clean: no blank at its edges, and no backslash. -/
def IsClean (path : String) : Prop := Tidy path ∧ '\\' ∉ path.toList

instance (path : String) : Decidable (IsClean path) := inferInstanceAs (Decidable (_ ∧ _))

variable {names : List String}

/-- A clean path below the root is followed from the root, name by name. -/
theorem joined_join (hnames : IsProper names) (hclean : IsClean (join names)) :
    s.joined (join names) = s.root ++ names := by
  have hsegs : ∀ n ∈ names, IsSegment n := fun n hn =>
    ⟨(hnames n hn).ne_empty, (hnames n hn).ne_dot, (hnames n hn).no_slash,
      fun hback => hclean.2 (mem_join_of_mem hn hback)⟩
  rw [joined, normalize_join hsegs hclean.1, isAbsolute_join hnames, names_join hnames]
  rfl

/-- The path of a file leads back to it when it is clean. -/
theorem realPlace_join (hroot : IsProper s.root) (hreal : d.IsReal (s.root ++ names))
    (hclean : IsClean (join names)) : s.realPlace d (join names) = .ok (s.root ++ names) := by
  have hnames : IsProper names := fun n hn => hreal.proper n (by simp [hn])
  have hleads : Leads d [] (s.joined (join names)) (s.root ++ names) := by
    rw [joined_join hnames hclean]
    exact hreal.leads
  rw [realPlace_of_leads hroot hleads, if_pos (List.prefix_append ..)]

/-! ### Paths that are not clean -/

/-- Without links, what is accepted is where the names of the path lead. -/
theorem leads_of_realPlace (hlinks : ∀ l target, d.at? l ≠ some (.link target))
    (hroot : IsProper s.root) {path : String} (h : s.realPlace d path = .ok l) :
    Leads d [] (s.joined path) l := by
  rw [realPlace] at h
  split at h
  · cases h
  · cases h
  · rename_i m hresolve
    split at h
    · obtain rfl := Except.ok.inj h
      exact leads_of_resolve hlinks (slashless_joined hroot path) hresolve
    · cases h

/-- The path of a file leads elsewhere when it is not clean, on a disk without links. -/
theorem realPlace_join_ne (hlinks : ∀ l target, d.at? l ≠ some (.link target))
    (hroot : IsProper s.root) (hne : names ≠ []) (hclean : ¬ IsClean (join names)) :
    s.realPlace d (join names) ≠ .ok (s.root ++ names) := by
  intro h
  -- every step from the path to its names takes characters away at most, and leading back to the place
  -- leaves no room for any
  have hsize := (leads_of_realPlace hlinks hroot h).eq_or_size_lt hlinks
  have hjoin := size_eq_length_join hne
  have hnormal := length_normalize_le (join names)
  have htrim := length_trim_le (join names).toList
  have hread := size_names_le (normalize (join names))
  rw [joined] at hsize
  by_cases habsolute : isAbsolute (normalize (join names)) = true
  · rw [if_pos habsolute] at hread hsize
    rcases hsize with hsize | hsize
    · have := congrArg size hsize
      simp only [size_append, List.nil_append] at this
      omega
    · simp only [size_append, size_nil] at hsize
      omega
  · rw [if_neg habsolute] at hread hsize
    rcases hsize with hsize | hsize
    · -- nothing was cut off, and no backslash is left
      have hread' : names = Location.names (normalize (join names)) := by simpa using hsize
      rw [← hread'] at hread
      refine hclean ⟨trimBy_eq_self_of_length (by rw [trim] at hnormal; omega), fun hback => ?_⟩
      rcases mem_join hback with hslash | ⟨n, hn, hback⟩
      · simp at hslash
      · rw [hread'] at hn
        exact backslash_not_mem_normalize _ (mem_of_mem_names hn hback)
    · simp only [size_append, size_nil] at hsize
      omega

/-! ## Reading a listed file -/

theorem readFile_of_locate {data : Bytes} {modified : Moment} (hlocate : d.locate l = .ok k)
    (hnode : d.at? k = some (.file data modified)) :
    d.readFile [] l.text = .ok (data, modified) := by
  rw [locate] at hlocate
  rw [readFile, hlocate]
  simp only [hnode]

theorem status_of_locate {n : Node} (hlocate : d.locate l = .ok k) (hnode : d.at? k = some n) :
    status d l = .ok n := by
  simp only [status, hlocate, hnode]

/-- What holds of a listed file: it is at its place, which tells its size, and opening it by its path
comes back to that place exactly when the path is clean. -/
structure Listed (s : Local) (d : Disk) (f : LocalFile) : Prop where
  /-- a file is at its place, and it is read back when the path is clean -/
  file : ∃ data modified, d.at? f.place = some (.file data modified) ∧
    status d f.place = .ok (.file data modified) ∧
    (IsClean f.path → s.contents d f.path = .ok data)
  /-- a clean path leads back to the place -/
  back : IsClean f.path → s.realPlace d f.path = .ok f.place
  /-- on a disk without links, any other path leads elsewhere -/
  elsewhere : (∀ l target, d.at? l ≠ some (.link target)) → ¬ IsClean f.path →
    s.realPlace d f.path ≠ .ok f.place

theorem listed_of_resolve (htree : d.IsTree) (hroot : d.at? s.root = some .directory)
    (hfree : s.LinkFree d) {text : String} {found : List LocalFile}
    (h : s.resolve d text = .ok found) {f : LocalFile} (hf : f ∈ found) : s.Listed d f := by
  have hproper := (isReal_root htree hroot).proper
  obtain ⟨l, rfl, hfile, hl, hin⟩ := resolve_spec htree hproper h hf
  have hreal := hfree.isReal htree hroot hl hin
  obtain ⟨data, modified, hlocate, hnode⟩ := file_of_isFile htree hreal hfile
  obtain ⟨names, rfl⟩ := hin
  have hne : names ≠ [] := by
    rintro rfl
    simp [hroot] at hnode
  rw [fileAt_append hne]
  have hback : IsClean (join names) → s.realPlace d (join names) = .ok (s.root ++ names) :=
    realPlace_join hproper hreal
  refine ⟨⟨data, modified, hnode, status_of_locate hlocate hnode, fun hclean => ?_⟩, hback,
    fun hlinks => realPlace_join_ne hlinks hproper hne⟩
  rw [contents, hback hclean, Outcome.ok_bind, readFile_of_locate hlocate hnode]
  rfl

/-- Files with different paths are at different places. -/
theorem place_ne_of_path_ne (htree : d.IsTree) (hroot : IsProper s.root) {text : String}
    {found : List LocalFile} (h : s.resolve d text = .ok found) {f g : LocalFile} (hf : f ∈ found)
    (hg : g ∈ found) (hpath : f.path ≠ g.path) : f.place ≠ g.place := by
  obtain ⟨l, rfl, -⟩ := resolve_spec htree hroot h hf
  obtain ⟨k, rfl, -⟩ := resolve_spec htree hroot h hg
  intro hplace
  exact hpath (congrArg (fun l => (s.fileAt l).path) hplace)

end FileDepot.Local
