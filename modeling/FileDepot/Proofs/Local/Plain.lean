import FileDepot.Proofs.Disk.Found
import FileDepot.Proofs.Local.Listing
import FileDepot.Proofs.Path.Pattern
import Mathlib.Data.List.Nodup

/-!
# Plain disks

A disk is plain below a root when nothing there is a link and nothing there is too long for the system
(`Plain`). On a plain disk a store finds what is there: `resolve_literal` and `resolve_glob` say which
files a pattern finds, each once, and `resolve_tooLong` that none are looked for where the part of a
pattern before its first wildcard is too long.
-/

namespace FileDepot.Local

open Disk Location FileDepot.Path Text

variable {s : Local} {d : Disk} {root l k : Location} {names base : List String}

/-- A disk on which nothing at a root or below it is a link, or too long. -/
structure Plain (root : Location) (d : Disk) : Prop where
  /-- what is on the disk forms a tree -/
  tree : d.IsTree
  /-- the root is a directory -/
  directory : d.at? root = some .directory
  /-- nothing at the root or below it is a link -/
  linkFree : ∀ l target, root <+: l → d.at? l ≠ some (.link target)
  /-- nothing at the root or below it is too long -/
  within : ∀ l, root <+: l → d.at? l ≠ none → Within l

/-- Whether a disk is plain is told by the nodes that it lists. -/
theorem plain_iff : Plain root d ↔ d.IsTree ∧ d.at? root = some .directory ∧ Within root ∧
    ∀ l ∈ d.nodes.keys, root.isPrefixOf l = true →
      ((d.at? l).any fun | .link _ => true | _ => false) = false ∧ Within l := by
  constructor
  · intro h
    refine ⟨h.tree, h.directory, h.within _ (List.prefix_refl _) (by simp [h.directory]),
      fun l hl hin => ?_⟩
    rw [List.isPrefixOf_iff_prefix] at hin
    by_cases hne : l = []
    · subst hne
      refine ⟨by simp, h.within _ hin (by simp)⟩
    · refine ⟨?_, h.within _ hin ((at?_ne_none_iff hne).mpr hl)⟩
      cases hnode : d.at? l with
      | none => rfl
      | some node =>
        cases node with
        | link target => exact absurd hnode (h.linkFree l target hin)
        | directory | file => rfl
  · rintro ⟨htree, hroot, hwithin, hnodes⟩
    refine ⟨htree, hroot, fun l target hin hlink => ?_, fun l hin hnode => ?_⟩
    · by_cases hne : l = []
      · simp [hne] at hlink
      · have hl := (at?_ne_none_iff hne).mp (by rw [hlink]; nofun)
        have hno := (hnodes l hl (List.isPrefixOf_iff_prefix.mpr hin)).1
        simp [hlink] at hno
    · by_cases hne : l = []
      · subst hne
        exact List.prefix_nil.mp hin ▸ hwithin
      · exact (hnodes l ((at?_ne_none_iff hne).mp hnode) (List.isPrefixOf_iff_prefix.mpr hin)).2

instance (root : Location) (d : Disk) : Decidable (Plain root d) := decidable_of_iff' _ plain_iff

namespace Plain

variable (h : Plain root d)

include h

theorem proper_root : IsProper root := h.tree.proper _ (by simp [h.directory])

theorem isReal (hnames : IsProper names) : d.IsReal (root ++ names) := by
  refine ⟨fun n hn => ?_, fun k hk target hlink => ?_⟩
  · rcases List.mem_append.mp hn with hn | hn
    · exact h.proper_root n hn
    · exact hnames n hn
  · -- what is on the way is a directory up to the root, and no link from there on
    rcases List.prefix_or_prefix_of_prefix (List.prefix_append root names) hk with hk | hk
    · exact h.linkFree k target hk hlink
    · by_cases hne : k = root
      · simp [hne, h.directory] at hlink
      · simp [h.tree.directory_of_prefix hk hne (by simp [h.directory])] at hlink

/-- Below the root a location is too long only if a name of its own or the whole is. -/
theorem within_append (hnames : ∀ n ∈ names, n.utf8ByteSize ≤ maxName)
    (htext : (text (root ++ names)).utf8ByteSize ≤ maxPath) : Within (root ++ names) := by
  refine ⟨fun n hn => ?_, htext⟩
  rcases List.mem_append.mp hn with hn | hn
  · exact (h.within root (List.prefix_refl _) (by simp [h.directory])).name n hn
  · exact hnames n hn

/-- What is below the root has proper names. -/
theorem proper_of_node (hnode : d.at? (root ++ names) ≠ none) : IsProper names := fun n hn =>
  h.tree.proper _ hnode n (by simp [hn])

/-- Files are below directories only. -/
theorem directory_of_bytes? {more : List String} (hmore : more ≠ [])
    (hbytes : d.bytes? (root ++ (names ++ more)) ≠ none) :
    d.at? (root ++ names) = some .directory := by
  rw [← List.append_assoc] at hbytes
  exact h.tree.directory_of_prefix (List.prefix_append ..) (by simpa using hmore)
    (at?_ne_none_of_bytes? hbytes)

theorem ne_nil_of_bytes? (hbytes : d.bytes? (root ++ names) ≠ none) : names ≠ [] := by
  rintro rfl
  rw [List.append_nil] at hbytes
  exact hbytes (bytes?_of_directory h.directory)

end Plain

/-! ## Files among places -/

theorem filterMapM_eq_ok {ε α β : Type} {f : α → Except ε (Option β)} {test : α → Bool} {g : α → β} :
    ∀ {l : List α}, (∀ a ∈ l, f a = .ok (if test a then some (g a) else none)) →
      l.filterMapM f = .ok ((l.filter test).map g) := by
  intro l
  induction l with
  | nil => exact fun _ => rfl
  | cons a l ih =>
    intro h
    rw [List.filterMapM_cons, h a (List.mem_cons_self ..), Outcome.ok_bind,
      ih fun b hb => h b (List.mem_cons_of_mem _ hb), List.filter_cons]
    cases test a <;> rfl

theorem join_injective (hnames : IsProper names) {more : List String} (hmore : IsProper more)
    (h : join names = join more) : names = more := by
  rw [← names_join hnames, h, names_join hmore]

/-- The files among places on a plain disk. -/
theorem filesAmong_eq (h : Plain s.root d) {places : List Location}
    (hplaces : ∀ l ∈ places, s.root <+: l ∧ d.at? l ≠ none) :
    s.filesAmong d places =
      .ok (((places.mergeSort placeOrder).filter fun l => (d.bytes? l).isSome).map s.fileAt) := by
  refine filterMapM_eq_ok fun l hl => ?_
  obtain ⟨⟨names, rfl⟩, hnode⟩ := hplaces l (List.mem_mergeSort.mp hl)
  rw [isFile_real h.tree (h.isReal (h.proper_of_node hnode))
    (h.within _ (List.prefix_append ..) hnode)]
  cases (d.bytes? (s.root ++ names)).isSome <;> rfl

/-- The paths of the files among places on a plain disk, each once when the places are. -/
theorem filesAmong_plain (h : Plain s.root d) {places : List Location} (hnodup : places.Nodup)
    (hplaces : ∀ l ∈ places, s.root <+: l ∧ d.at? l ≠ none) :
    ∃ found, s.filesAmong d places = .ok found ∧ (found.map (·.path)).Nodup ∧
      ∀ p, p ∈ found.map (·.path) ↔
        ∃ names, p = join names ∧ s.root ++ names ∈ places ∧ d.bytes? (s.root ++ names) ≠ none := by
  have hpath : ∀ l ∈ (places.mergeSort placeOrder).filter fun l => (d.bytes? l).isSome,
      ∃ names, l = s.root ++ names ∧ IsProper names ∧ l ∈ places ∧ d.bytes? l ≠ none ∧
        (s.fileAt l).path = join names := by
    intro l hl
    obtain ⟨hmem, hbytes⟩ := List.mem_filter.mp hl
    rw [List.mem_mergeSort] at hmem
    rw [Option.isSome_iff_ne_none] at hbytes
    obtain ⟨⟨names, rfl⟩, hnode⟩ := hplaces l hmem
    exact ⟨names, rfl, h.proper_of_node hnode, hmem, hbytes,
      by rw [fileAt_append (h.ne_nil_of_bytes? hbytes)]⟩
  refine ⟨_, filesAmong_eq h hplaces, ?_, fun p => ?_⟩
  · rw [List.map_map]
    refine List.Nodup.map_on (fun l hl k hk hlk => ?_)
      (((List.mergeSort_perm places placeOrder).nodup_iff.mpr hnodup).filter _)
    obtain ⟨names, rfl, hnames, -, -, hl⟩ := hpath l hl
    obtain ⟨more, rfl, hmore, -, -, hk⟩ := hpath k hk
    rw [Function.comp_apply, Function.comp_apply, hl, hk] at hlk
    rw [join_injective hnames hmore hlk]
  · rw [List.map_map, List.mem_map]
    constructor
    · rintro ⟨l, hl, rfl⟩
      obtain ⟨names, rfl, -, hmem, hbytes, hpath⟩ := hpath l hl
      exact ⟨names, hpath, hmem, hbytes⟩
    · rintro ⟨names, rfl, hmem, hbytes⟩
      refine ⟨s.root ++ names, List.mem_filter.mpr ⟨List.mem_mergeSort.mpr hmem,
        Option.isSome_iff_ne_none.mpr hbytes⟩, ?_⟩
      rw [Function.comp_apply, fileAt_append (h.ne_nil_of_bytes? hbytes)]

/-- The paths of the files that are listed in a directory on a plain disk and pass a test. -/
theorem filesAmong_listing (h : Plain s.root d) (hl : d.at? (s.root ++ base) = some .directory)
    (deep : Bool) (test : Location → Bool) :
    ∃ found, s.filesAmong d ((d.listing deep (s.root ++ base)).filter test) = .ok found ∧
      (found.map (·.path)).Nodup ∧
      ∀ p, p ∈ found.map (·.path) ↔
        ∃ more, p = join (base ++ more) ∧ more ≠ [] ∧ (deep = true ∨ ∃ n, more = [n]) ∧
          test (s.root ++ base ++ more) = true ∧ d.bytes? (s.root ++ (base ++ more)) ≠ none := by
  have hnode : d.at? (s.root ++ base) ≠ none := by simp [hl]
  have hwithin := h.within _ (List.prefix_append ..) hnode
  have hreal := h.isReal (h.proper_of_node hnode)
  have hlisting := listing_real h.tree hreal hwithin hnode deep
  have hplaces : ∀ k ∈ (d.listing deep (s.root ++ base)).filter test,
      s.root <+: k ∧ d.at? k ≠ none := by
    intro k hk
    obtain ⟨hk, more, -, -, rfl⟩ := (mem_listing_iff hlisting).mp (List.mem_filter.mp hk).1
    exact ⟨⟨base ++ more, by simp⟩, hk⟩
  obtain ⟨found, hfound, hnodup, hpaths⟩ :=
    filesAmong_plain h ((nodup_listing ..).filter test) hplaces
  refine ⟨found, hfound, hnodup, fun p => ?_⟩
  rw [hpaths]
  constructor
  · rintro ⟨names, rfl, hin, hbytes⟩
    obtain ⟨hin, htest⟩ := List.mem_filter.mp hin
    obtain ⟨-, more, hmore, hdeep, hnames⟩ := (mem_listing_iff hlisting).mp hin
    rw [List.append_assoc, List.append_cancel_left_eq] at hnames
    subst hnames
    exact ⟨more, rfl, hmore, hdeep, by rwa [List.append_assoc], hbytes⟩
  · rintro ⟨more, rfl, hmore, hdeep, htest, hbytes⟩
    rw [List.append_assoc] at htest
    have hin := (mem_listing_iff hlisting).mpr
      ⟨at?_ne_none_of_bytes? hbytes, more, hmore, hdeep, (List.append_assoc ..).symm⟩
    exact ⟨base ++ more, rfl, List.mem_filter.mpr ⟨hin, htest⟩, hbytes⟩

/-! ## Resolving -/

section Resolve

variable {pattern glob : String}

/-- The place of the part of a pattern before its first wildcard. -/
theorem realPlace_base (h : Plain s.root d) (hbase : IsProper base) (hclean : IsClean (join base)) :
    s.realPlace d (join base) = .ok (s.root ++ base) :=
  realPlace_join h.proper_root (h.isReal hbase) hclean

/-- Where the part of a pattern before its first wildcard is too long, no file is looked for. -/
theorem resolve_tooLong (h : Plain s.root d)
    (hsplit : splitPattern (normalize pattern) = (join base, glob))
    (hbase : IsProper base) (hclean : IsClean (join base))
    (hlong : maxPath < (text (s.root ++ base)).utf8ByteSize) :
    s.resolve d pattern = .error (.disk ⟨.tooLong, text (s.root ++ base)⟩) := by
  simp only [resolve, hsplit, realPlace_base h hbase hclean, Outcome.ok_bind, isFile, isDirectory,
    ask_tooLong hlong, Outcome.mapError_error, Outcome.error_bind, ite_self]

/-- A glob for which only the directory itself is looked at matches single names only. -/
theorem single_of_isMatch {g more : List String} (hg : ∀ t ∈ g, IsLoose t) (hne : g ≠ [])
    (hdeep : isDeep (join g) = false) (hmore : ∀ n ∈ more, IsSegment n) (ht : Tidy (join more))
    (hmatch : Glob.isMatch (join more) (join g) = true) : ∃ n, more = [n] := by
  rw [isDeep, segments_join_loose hg, length_trimEdges, Bool.or_eq_false_iff, decide_eq_false_iff_not,
    List.any_eq_false] at hdeep
  obtain ⟨hlength, hstars⟩ := hdeep
  obtain ⟨t, rfl⟩ : ∃ t, g = [t] := by
    rw [← List.length_eq_one_iff]
    have := List.length_pos_of_ne_nil hne
    omega
  rw [isMatch_join_loose hne hg hmore ht] at hmatch
  have hedges : trimEdges [t] = [trimEnd (trimFront t)] := rfl
  rw [hedges] at hmatch
  -- two stars would be found in the text of the glob
  have htoken : trimEnd (trimFront t) ≠ "**" := by
    intro htwo
    have htrim : trim t.toList = ['*', '*'] := by
      have := trim_join hg
      rwa [hedges, htwo, join_singleton, join_singleton] at this
    obtain ⟨front, rest, hinfix⟩ := trimBy_infix isBlank t.toList
    rw [← trim, htrim] at hinfix
    refine hstars (['*', '*'] ++ rest) (Glob.mem_suffixes.mpr ⟨front, ?_⟩) ?_
    · rw [join_singleton, ← hinfix, List.append_assoc]
    · exact List.isPrefixOf_iff_prefix.mpr (List.prefix_append ..)
  obtain ⟨n, rest, rfl, -, hrest⟩ := (Glob.covers_token_iff htoken).mp hmatch
  rw [Glob.covers_nil_iff.mp hrest]
  exact ⟨n, rfl⟩

/-- Without a wildcard, a pattern finds the file at its place, or the files in the directory there. -/
theorem resolve_literal (h : Plain s.root d)
    (hsplit : splitPattern (normalize pattern) = (join base, ""))
    (hbase : IsProper base) (hclean : IsClean (join base)) (hl : Within (s.root ++ base)) :
    ∃ found, s.resolve d pattern = .ok found ∧ (found.map (·.path)).Nodup ∧
      ∀ p, p ∈ found.map (·.path) ↔
        ∃ names, p = join names ∧
          Finds (fun names => d.bytes? (s.root ++ names) ≠ none) base "" names := by
  have hreal := h.isReal hbase
  simp only [resolve, hsplit, realPlace_base h hbase hclean, isFile_real h.tree hreal hl,
    isDirectory_real h.tree hreal hl, Outcome.ok_bind, Outcome.mapError_ok, Finds, if_pos]
  by_cases hbytes : d.bytes? (s.root ++ base) = none
  · rw [hbytes]
    by_cases hdir : d.at? (s.root ++ base) = some .directory
    · obtain ⟨found, hfound, hnodup, hpaths⟩ := filesAmong_listing h hdir false fun _ => true
      rw [List.filter_true] at hfound
      refine ⟨found, by simpa [hdir] using hfound, hnodup, fun p => ?_⟩
      rw [hpaths]
      constructor
      · rintro ⟨more, rfl, -, hdeep | ⟨n, rfl⟩, -, hfile⟩
        · cases hdeep
        · exact ⟨base ++ [n], rfl, hfile, .inr ⟨by simp, n, rfl⟩⟩
      · rintro ⟨names, rfl, hfile, ⟨hno, -⟩ | ⟨-, n, rfl⟩⟩
        · exact absurd rfl hno
        · exact ⟨[n], rfl, by simp, .inr ⟨n, rfl⟩, rfl, hfile⟩
    · refine ⟨[], by simp [hdir], by simp, fun p => ?_⟩
      simp only [List.map_nil, List.not_mem_nil, false_iff]
      rintro ⟨names, rfl, hfile, ⟨hno, -⟩ | ⟨-, n, rfl⟩⟩
      · exact absurd rfl hno
      · exact hdir (h.directory_of_bytes? (by simp) hfile)
  · refine ⟨_, by simp [Option.isSome_iff_ne_none.mpr hbytes]; rfl, by simp, fun p => ?_⟩
    rw [List.map_singleton, List.mem_singleton, fileAt_append (h.ne_nil_of_bytes? hbytes)]
    constructor
    · rintro rfl
      exact ⟨base, rfl, hbytes, .inl ⟨hbytes, rfl⟩⟩
    · rintro ⟨names, rfl, -, ⟨-, rfl⟩ | ⟨hno, -⟩⟩
      · rfl
      · exact absurd hbytes hno

/-- Without a wildcard, a pattern finds the file at its place alone. -/
theorem resolve_literal_file (h : Plain s.root d)
    (hsplit : splitPattern (normalize pattern) = (join base, ""))
    (hclean : IsClean (join base)) {data : Bytes} (hfile : d.bytes? (s.root ++ base) = some data) :
    s.resolve d pattern = .ok [⟨s.root ++ base, join base⟩] := by
  have hbytes : d.bytes? (s.root ++ base) ≠ none := by simp [hfile]
  have hnode := at?_ne_none_of_bytes? hbytes
  have hbase := h.proper_of_node hnode
  have hempty : ("" : String).isEmpty = true := rfl
  simp only [resolve, hsplit, realPlace_base h hbase hclean, Outcome.ok_bind, hempty, if_true,
    isFile_real h.tree (h.isReal hbase) (h.within _ (List.prefix_append ..) hnode), hfile,
    Outcome.mapError_ok, Option.isSome_some, fileAt_append (h.ne_nil_of_bytes? hbytes)]
  rfl

/-- With a wildcard, a pattern finds the files below its base whose remaining path matches the rest, in
the directory itself unless the rest is deep. -/
theorem resolve_below (h : Plain s.root d)
    (hsplit : splitPattern (normalize pattern) = (join base, glob))
    (hbase : IsProper base) (hclean : IsClean (join base)) (hl : Within (s.root ++ base))
    (hglob : glob ≠ "") :
    ∃ found, s.resolve d pattern = .ok found ∧ (found.map (·.path)).Nodup ∧
      ∀ p, p ∈ found.map (·.path) ↔
        ∃ more, p = join (base ++ more) ∧ more ≠ [] ∧ (isDeep glob = true ∨ ∃ n, more = [n]) ∧
          Glob.isMatch (join more) glob = true ∧ d.bytes? (s.root ++ (base ++ more)) ≠ none := by
  have hreal := h.isReal hbase
  have hempty : glob.isEmpty = false := by simpa using hglob
  simp only [resolve, hsplit, realPlace_base h hbase hclean, isDirectory_real h.tree hreal hl,
    Outcome.ok_bind, Outcome.mapError_ok, hempty, Bool.false_eq_true, if_false]
  by_cases hdir : d.at? (s.root ++ base) = some .directory
  · obtain ⟨found, hfound, hnodup, hpaths⟩ := filesAmong_listing h hdir (isDeep glob)
      fun q => Glob.isMatch (join (q.drop (s.root ++ base).length)) glob
    refine ⟨found, by simpa [hdir] using hfound, hnodup, fun p => ?_⟩
    rw [hpaths]
    simp only [List.drop_left]
  · refine ⟨[], by simp [hdir], by simp, fun p => ?_⟩
    simp only [List.map_nil, List.not_mem_nil, false_iff]
    rintro ⟨more, rfl, hmore, -, -, hfile⟩
    exact hdir (h.directory_of_bytes? hmore hfile)

/-- With a wildcard, a pattern finds the files below its base whose remaining path matches the rest. A
glob for which only the directory itself is looked at must match single names only. -/
theorem resolve_glob (h : Plain s.root d)
    (hsplit : splitPattern (normalize pattern) = (join base, glob))
    (hbase : IsProper base) (hclean : IsClean (join base)) (hl : Within (s.root ++ base))
    (hglob : glob ≠ "") (hshallow : isDeep glob = false →
      ∀ more, d.bytes? (s.root ++ (base ++ more)) ≠ none →
        Glob.isMatch (join more) glob = true → ∃ n, more = [n]) :
    ∃ found, s.resolve d pattern = .ok found ∧ (found.map (·.path)).Nodup ∧
      ∀ p, p ∈ found.map (·.path) ↔
        ∃ names, p = join names ∧
          Finds (fun names => d.bytes? (s.root ++ names) ≠ none) base glob names := by
  obtain ⟨found, hfound, hnodup, hpaths⟩ := resolve_below h hsplit hbase hclean hl hglob
  refine ⟨found, hfound, hnodup, fun p => ?_⟩
  simp only [hpaths, Finds, if_neg hglob]
  constructor
  · rintro ⟨more, rfl, hmore, -, hmatch, hfile⟩
    exact ⟨base ++ more, rfl, hfile, more, hmore, rfl, hmatch⟩
  · rintro ⟨names, rfl, hfile, more, hmore, rfl, hmatch⟩
    refine ⟨more, rfl, hmore, ?_, hmatch, hfile⟩
    cases hdeep : isDeep glob with
    | true => exact .inl rfl
    | false => exact .inr (hshallow hdeep more hfile hmatch)

end Resolve

end FileDepot.Local
