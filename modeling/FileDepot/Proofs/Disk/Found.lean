import FileDepot.Proofs.Disk.Entries
import Mathlib.Data.List.Infix
import Mathlib.Data.List.Nodup

/-!
# What is found at a real location

At a location with no link on the way, a system finds what is there, as long as no name and no written
path is too long for it (`Within`).

* **walk** — `walk_real_cases`: a walk ends at the location, or where the way to it ends;
* **answers** — `ask_real`: a question is answered by what is there;
* **entries** — `vacancy_real_cases`, `entryOf_real`: where a new entry goes, and where an old one is;
* **listings** — `listing_real`: what is listed is what is there, each place once.
-/

namespace FileDepot.Disk

open Location

variable {d : Disk} {l k here : Location} {names : List String}

/-- A location that a system takes: no name is too long, and neither is the written form. -/
structure Within (l : Location) : Prop where
  /-- no name is too long -/
  name : ∀ n ∈ l, n.utf8ByteSize ≤ maxName
  /-- the written form is not too long -/
  text : l.text.utf8ByteSize ≤ maxPath

/-- How many bytes names take, with one more for each. -/
def byteSize (names : List String) : Nat := names.foldr (fun n size => n.utf8ByteSize + 1 + size) 0

@[simp] theorem byteSize_nil : byteSize [] = 0 := rfl

@[simp] theorem byteSize_cons (n : String) (rest : List String) :
    byteSize (n :: rest) = n.utf8ByteSize + 1 + byteSize rest := rfl

@[simp] theorem byteSize_append (names more : List String) :
    byteSize (names ++ more) = byteSize names + byteSize more := by
  induction names with
  | nil => simp
  | cons n rest ih =>
    rw [List.cons_append, byteSize_cons, ih, byteSize_cons]
    omega

theorem byteSize_replicate (k : Nat) (n : String) :
    byteSize (List.replicate k n) = k * (n.utf8ByteSize + 1) := by
  induction k with
  | zero => simp
  | succ k ih => rw [List.replicate_succ, byteSize_cons, ih, Nat.succ_mul, Nat.add_comm]

/-- The written form of a location takes one byte more than each of its names. -/
theorem utf8ByteSize_text (hl : l ≠ []) : l.text.utf8ByteSize = byteSize l := by
  have hslash : ("/" : String).utf8ByteSize = 1 := rfl
  induction l with
  | nil => exact absurd rfl hl
  | cons n rest ih =>
    by_cases hrest : rest = []
    · simp [hrest, text, String.utf8ByteSize_append, hslash, Nat.add_comm]
    · have ih := ih hrest
      simp only [text, String.utf8ByteSize_append, hslash] at ih
      rw [text, Path.join_cons hrest, byteSize_cons, ← ih]
      simp only [String.utf8ByteSize_append, hslash]
      omega

/-- The written form of a location takes no more than that of a location below it. -/
theorem utf8ByteSize_text_le (h : l <+: k) : l.text.utf8ByteSize ≤ k.text.utf8ByteSize := by
  obtain ⟨more, rfl⟩ := h
  by_cases hl : l = []
  · simp [hl, text, String.utf8ByteSize_append]
  · rw [utf8ByteSize_text hl, utf8ByteSize_text (by simp [hl]), byteSize_append]
    exact Nat.le_add_right ..

theorem Within.of_prefix (h : Within k) (hl : l <+: k) : Within l :=
  ⟨fun n hn => h.name n (hl.subset hn), Nat.le_trans (utf8ByteSize_text_le hl) h.text⟩

theorem within_iff : Within l ↔ (∀ n ∈ l, n.utf8ByteSize ≤ maxName) ∧ l.text.utf8ByteSize ≤ maxPath :=
  ⟨fun h => ⟨h.name, h.text⟩, fun ⟨hname, htext⟩ => ⟨hname, htext⟩⟩

instance (l : Location) : Decidable (Within l) := decidable_of_iff' _ within_iff

/-- The contents of the file at a location. -/
def bytes? (d : Disk) (l : Location) : Option Bytes :=
  match d.at? l with
  | some (.file data _) => some data
  | _ => none

theorem bytes?_eq_some_iff {data : Bytes} :
    d.bytes? l = some data ↔ ∃ modified, d.at? l = some (.file data modified) := by
  rw [bytes?]
  split
  · rename_i contents modified h
    simp [h]
  · rename_i h
    constructor
    · nofun
    · rintro ⟨modified, hfile⟩
      exact absurd hfile (h data modified)

theorem bytes?_of_directory (h : d.at? l = some .directory) : d.bytes? l = none := by
  rw [bytes?, h]

theorem bytes?_of_none (h : d.at? l = none) : d.bytes? l = none := by
  rw [bytes?, h]

theorem at?_ne_none_of_bytes? (h : d.bytes? l ≠ none) : d.at? l ≠ none := fun hnone =>
  h (bytes?_of_none hnone)

/-- Nothing is below a file. -/
theorem IsTree.none_of_file (htree : d.IsTree) (hk : k <+: l) (hne : k ≠ l)
    (hfile : d.bytes? k ≠ none) : d.at? l = none := by
  by_contra hnode
  exact hfile (bytes?_of_directory (htree.directory_of_prefix hk hne hnode))

/-- Whether a file stands on the way to a location, or at it. -/
def Blocked (d : Disk) (l : Location) : Prop := ∃ k, k <+: l ∧ d.bytes? k ≠ none

instance (d : Disk) (l : Location) : Decidable (d.Blocked l) :=
  decidable_of_iff (∃ k ∈ l.inits, d.bytes? k ≠ none) (by simp only [Blocked, List.mem_inits])

theorem not_blocked_of_directory (htree : d.IsTree) (hl : d.at? l = some .directory) :
    ¬ d.Blocked l := by
  rintro ⟨k, hk, hfile⟩
  by_cases hne : k = l
  · exact hfile (bytes?_of_directory (hne ▸ hl))
  · exact hfile (bytes?_of_directory (htree.directory_of_prefix hk hne (by simp [hl])))

/-- Where nothing is, a file on the way stands above. -/
theorem blocked_concat_iff {name : String} (hnone : d.at? (l ++ [name]) = none) :
    d.Blocked (l ++ [name]) ↔ d.Blocked l := by
  constructor
  · rintro ⟨k, hk, hfile⟩
    rcases List.prefix_concat_iff.mp hk with rfl | hk
    · exact absurd (bytes?_of_none hnone) hfile
    · exact ⟨k, hk, hfile⟩
  · rintro ⟨k, hk, hfile⟩
    exact ⟨k, hk.trans (List.prefix_append ..), hfile⟩

/-! ## Walking -/

/-- A walk enters a directory by the next name. -/
theorem walkOver_enter {jump : Location → List String → Except Trouble Location} {follow : Bool}
    {name : String} (hdir : d.at? here = some .directory) (hname : IsName name)
    (hsize : name.utf8ByteSize ≤ maxName) :
    d.walkOver follow jump here (name :: names) =
      match d.at? (here ++ [name]) with
      | none => .error .missing
      | some (.link target) =>
        if names.isEmpty && !follow then .ok (here ++ [name])
        else jump (targetStart here target) (targetNames target ++ names)
      | some _ => d.walkOver follow jump (here ++ [name]) names := by
  have hlength : ¬ maxName < name.utf8ByteSize := Nat.not_lt.mpr hsize
  rw [walkOver, if_neg (not_not.mpr hdir), if_neg hname.ne_dot, if_neg hname.ne_up]
  exact if_neg hlength

/-- A walk along a real location from a place on it ends at the location if anything is there, and
otherwise fails at the first place on the way that is no directory. -/
theorem walkOver_real_cases {jump : Location → List String → Except Trouble Location}
    (htree : d.IsTree) (hhere : d.at? here ≠ none) (hreal : d.IsReal (here ++ names))
    (hsize : ∀ n ∈ names, n.utf8ByteSize ≤ maxName) :
    (d.at? (here ++ names) ≠ none ∧ d.walkOver true jump here names = .ok (here ++ names)) ∨
    (d.at? (here ++ names) = none ∧ d.Blocked (here ++ names) ∧
      d.walkOver true jump here names = .error .notDirectory) ∨
    (d.at? (here ++ names) = none ∧ ¬ d.Blocked (here ++ names) ∧
      d.walkOver true jump here names = .error .missing) := by
  induction names generalizing here with
  | nil => exact .inl ⟨by simpa using hhere, by simp [walkOver]⟩
  | cons name rest ih =>
    have hname := hreal.proper name (by simp)
    have hnext : here ++ [name] <+: here ++ name :: rest := ⟨rest, by simp⟩
    have hlength := hsize name (by simp)
    cases hnode : d.at? here with
    | none => exact absurd hnode hhere
    | some node =>
      cases node with
      | link target => exact absurd hnode (hreal.unlinked here (List.prefix_append ..) target)
      | file data modified =>
        have hfile : d.bytes? here ≠ none := by simp [bytes?, hnode]
        refine .inr (.inl ⟨htree.none_of_file (List.prefix_append ..) (by simp) hfile,
          ⟨here, List.prefix_append .., hfile⟩, ?_⟩)
        simp [walkOver, hnode]
      | directory =>
        rw [walkOver_enter hnode hname hlength]
        cases hnode' : d.at? (here ++ [name]) with
        | none =>
          refine .inr (.inr ⟨htree.none_of_prefix hnext hnode', ?_, rfl⟩)
          rintro ⟨k, hk, hfile⟩
          -- what is on the way is above the place where nothing is, or below it
          rcases List.prefix_or_prefix_of_prefix hk hnext with hk | hk
          · exact not_blocked_of_directory htree hnode
              ((blocked_concat_iff hnode').mp ⟨k, hk, hfile⟩)
          · exact hfile (bytes?_of_none (htree.none_of_prefix hk hnode'))
        | some node =>
          have hrest : here ++ name :: rest = here ++ [name] ++ rest := by simp
          rw [hrest] at hreal ⊢
          have hthere : d.at? (here ++ [name]) ≠ none := by simp [hnode']
          have ih := ih hthere hreal fun n hn => hsize n (by simp [hn])
          cases node with
          | link target => exact absurd hnode' (hreal.unlinked _ (List.prefix_append ..) target)
          | directory => exact ih
          | file data modified => exact ih

/-- **Walk.** A walk to a real location ends there if anything is there. Otherwise a file is on the way,
or something is missing. -/
theorem walk_real_cases (htree : d.IsTree) (hreal : d.IsReal l)
    (hsize : ∀ n ∈ l, n.utf8ByteSize ≤ maxName) (links : Nat) :
    (d.at? l ≠ none ∧ d.walk true links [] l = .ok l) ∨
    (d.at? l = none ∧ d.Blocked l ∧ d.walk true links [] l = .error .notDirectory) ∨
    (d.at? l = none ∧ ¬ d.Blocked l ∧ d.walk true links [] l = .error .missing) := by
  have htop : d.at? [] ≠ none := by simp
  cases links with
  | zero =>
    rw [walk_zero]
    exact walkOver_real_cases htree htop hreal hsize
  | succ links =>
    rw [walk_succ]
    exact walkOver_real_cases htree htop hreal hsize

/-! ## Asking -/

theorem locate_eq (hreal : d.IsReal l) (hl : l.text.utf8ByteSize ≤ maxPath) :
    d.locate l = d.walk true maxLinks [] l := by
  rw [locate, find, if_neg (Nat.not_lt.mpr hl), isAbsolute_text, if_pos rfl, names_text hreal.proper]

/-- What is at a real location is found there. -/
theorem locate_real (htree : d.IsTree) (hreal : d.IsReal l) (hl : Within l) (hnode : d.at? l ≠ none) :
    d.locate l = .ok l := by
  rw [locate_eq hreal hl.text]
  rcases walk_real_cases htree hreal hl.name maxLinks with ⟨-, h⟩ | ⟨hnone, -⟩ | ⟨hnone, -⟩
  · exact h
  · exact absurd hnone hnode
  · exact absurd hnone hnode

/-- **Answers.** A question about a real location is answered by what is there. -/
theorem ask_real (htree : d.IsTree) (hreal : d.IsReal l) (hl : Within l) (test : Node → Bool) :
    d.ask test l = .ok ((d.at? l).any test) := by
  rw [ask, locate_eq hreal hl.text]
  rcases walk_real_cases htree hreal hl.name maxLinks with ⟨-, h⟩ | ⟨hnone, -, h⟩ | ⟨hnone, -, h⟩
  · rw [h]
  · simp [h, hnone, Trouble.isAbsence]
  · simp [h, hnone, Trouble.isAbsence]

/-- A question about a location that is too long is not answered. -/
theorem ask_tooLong (hl : maxPath < l.text.utf8ByteSize) (test : Node → Bool) :
    d.ask test l = .error ⟨.tooLong, l.text⟩ := by
  rw [ask, locate, find, if_pos hl]
  rfl

theorem isFile_real (htree : d.IsTree) (hreal : d.IsReal l) (hl : Within l) :
    d.isFile l = .ok (d.bytes? l).isSome := by
  rw [isFile, ask_real htree hreal hl, bytes?]
  rcases d.at? l with _ | _ | _ | _ <;> rfl

theorem isDirectory_real (htree : d.IsTree) (hreal : d.IsReal l) (hl : Within l) :
    d.isDirectory l = .ok (d.at? l = some .directory) := by
  rw [isDirectory, ask_real htree hreal hl]
  rcases d.at? l with _ | _ | _ | _ <;> rfl

theorem exists?_real (htree : d.IsTree) (hreal : d.IsReal l) (hl : Within l) :
    d.exists? l = .ok (d.at? l).isSome := by
  rw [exists?, ask_real htree hreal hl]
  cases d.at? l <;> rfl

/-! ## Entries -/

/-- **Entries.** A new entry at a real location goes there, if nothing is there and its directory is. -/
theorem vacancy_real_cases (htree : d.IsTree) (hreal : d.IsReal l) (hl : Within l) :
    (d.at? l ≠ none ∧ d.vacancy l = .error ⟨.occupied, l.text⟩) ∨
    (d.at? l = none ∧ d.Blocked l ∧ d.vacancy l = .error ⟨.notDirectory, l.text⟩) ∨
    (d.at? l = none ∧ ¬ d.Blocked l ∧ d.at? l.parent = none ∧
      d.vacancy l = .error ⟨.missing, l.text⟩) ∨
    (d.at? l = none ∧ ¬ d.Blocked l ∧ d.at? l.parent = some .directory ∧ d.vacancy l = .ok l) := by
  have hwithin := hl.of_prefix (List.dropLast_prefix l)
  have hwalk := walk_real_cases htree hreal.parent hwithin.name maxLinks
  simp only [vacancy, if_neg (Nat.not_lt.mpr hl.text)]
  by_cases hne : l = []
  · subst hne
    have hparent : parent [] = [] := rfl
    rw [hparent] at hwalk ⊢
    rcases hwalk with ⟨-, hwalk⟩ | ⟨hnone, -⟩ | ⟨hnone, -⟩
    · exact .inl ⟨by simp, by simp [hwalk, name]⟩
    · simp at hnone
    · simp at hnone
  · obtain ⟨dir, name, rfl⟩ : ∃ dir name, l = dir ++ [name] :=
      ⟨l.parent, l.name, (parent_append_name hne).symm⟩
    have hsize : ¬ maxName < name.utf8ByteSize := Nat.not_lt.mpr (hl.name name (by simp))
    have hin : dir <+: dir ++ [name] := List.prefix_append ..
    simp only [parent_concat, name_concat] at hwalk ⊢
    rcases hwalk with ⟨hdir, hwalk⟩ | ⟨hdir, hblocked, hwalk⟩ | ⟨hdir, hopen, hwalk⟩
    · cases hnode : d.at? dir with
      | none => exact absurd hnode hdir
      | some node =>
        cases node with
        | link target => exact absurd hnode (hreal.unlinked dir hin target)
        | file data modified =>
          have hfile : d.bytes? dir ≠ none := by simp [bytes?, hnode]
          exact .inr (.inl ⟨htree.none_of_file hin (by simp) hfile, ⟨dir, hin, hfile⟩,
            by simp [hwalk, hnode]⟩)
        | directory =>
          cases hplace : d.at? (dir ++ [name]) with
          | none =>
            exact .inr (.inr (.inr ⟨rfl,
              fun h => not_blocked_of_directory htree hnode ((blocked_concat_iff hplace).mp h), rfl,
              by simp [hwalk, hnode, hsize, hplace]⟩))
          | some node => exact .inl ⟨by simp, by simp [hwalk, hnode, hsize, hplace]⟩
    · have hnone := htree.none_of_prefix hin hdir
      exact .inr (.inl ⟨hnone, (blocked_concat_iff hnone).mpr hblocked, by simp [hwalk]⟩)
    · have hnone := htree.none_of_prefix hin hdir
      exact .inr (.inr (.inl ⟨hnone, fun h => hopen ((blocked_concat_iff hnone).mp h), hdir,
        by simp [hwalk]⟩))

/-- The entry of what is at a real location is there. -/
theorem entryOf_real (htree : d.IsTree) (hreal : d.IsReal l) (hl : Within l) (hne : l ≠ [])
    (hnode : d.at? l ≠ none) : d.entryOf l = .ok l := by
  have hwithin := hl.of_prefix (List.dropLast_prefix l)
  have hlast := parent_append_name hne
  have hparent : d.at? l.parent = some .directory := htree.held l.parent l.name (by rwa [hlast])
  rw [entryOf]
  rcases walk_real_cases htree hreal.parent hwithin.name maxLinks with
    ⟨-, hwalk⟩ | ⟨hnone, -⟩ | ⟨hnone, -⟩
  · rw [hwalk]
    exact congrArg Except.ok hlast
  · simp [hparent] at hnone
  · simp [hparent] at hnone

/-! ## Listing -/

theorem mem_below_iff : k ∈ d.below l ↔ d.at? k ≠ none ∧ l <+: k ∧ k ≠ l := by
  simp only [below, List.mem_filter, Bool.and_eq_true, List.isPrefixOf_iff_prefix, decide_eq_true_eq]
  refine and_congr_left fun ⟨hk, hne⟩ => (at?_ne_none_iff ?_).symm
  rintro rfl
  exact hne (List.prefix_nil.mp hk).symm

/-- A directory with a file below it is not empty. -/
theorem children_ne_nil (htree : d.IsTree) (hne : names ≠ []) (hfile : d.bytes? (l ++ names) ≠ none) :
    d.children l ≠ [] := by
  intro hempty
  obtain ⟨name, rest, rfl⟩ := List.exists_cons_of_ne_nil hne
  refine at?_ne_none_of_bytes? hfile (htree.none_of_prefix ?_ (at?_concat_eq_none hempty name))
  exact ⟨rest, by simp⟩

/-- What is in a directory, or below it, is behind its location. -/
theorem prefix_of_mem {deep : Bool} (hk : k ∈ if deep then d.below l else d.children l) :
    l <+: k ∧ k ≠ l := by
  split at hk
  · exact (mem_below_iff.mp hk).2
  · obtain ⟨-, n, rfl⟩ := mem_children_iff.mp hk
    exact ⟨List.prefix_append .., by simp⟩

/-- **Listings.** What is listed at a real location is what is there. -/
theorem listing_real (htree : d.IsTree) (hreal : d.IsReal l) (hl : Within l) (hnode : d.at? l ≠ none)
    (deep : Bool) : d.listing deep l = if deep then d.below l else d.children l := by
  rw [listing, locate_real htree hreal hl hnode]
  refine (List.map_congr_left fun k hk => ?_).trans (List.map_id' _)
  obtain ⟨rest, rfl⟩ := (prefix_of_mem hk).1
  simp

theorem mem_listing_iff (hlisting : d.listing deep l = if deep then d.below l else d.children l) :
    k ∈ d.listing deep l ↔ d.at? k ≠ none ∧
      ∃ more, more ≠ [] ∧ (deep = true ∨ ∃ n, more = [n]) ∧ k = l ++ more := by
  rw [hlisting]
  cases deep with
  | true =>
    rw [if_pos rfl, mem_below_iff]
    refine and_congr_right fun _ => ⟨?_, ?_⟩
    · rintro ⟨⟨more, rfl⟩, hne⟩
      exact ⟨more, by simpa using hne, .inl rfl, rfl⟩
    · rintro ⟨more, hmore, -, rfl⟩
      exact ⟨List.prefix_append .., by simpa using hmore⟩
  | false =>
    rw [if_neg Bool.false_ne_true, mem_children_iff]
    refine and_congr_right fun _ => ⟨?_, ?_⟩
    · rintro ⟨n, rfl⟩
      exact ⟨[n], by simp, .inr ⟨n, rfl⟩, rfl⟩
    · rintro ⟨more, -, hdeep | ⟨n, rfl⟩, rfl⟩
      · cases hdeep
      · exact ⟨n, rfl⟩

/-- What is listed is behind the location that is listed, by one name unless the listing is deep. -/
theorem exists_of_mem_listing {deep : Bool} (hk : k ∈ d.listing deep l) :
    ∃ rest, rest ≠ [] ∧ (deep = true ∨ ∃ n, rest = [n]) ∧ k = l ++ rest := by
  rw [listing] at hk
  split at hk
  · cases hk
  · rename_i found hfound
    obtain ⟨q, hq, rfl⟩ := List.mem_map.mp hk
    obtain ⟨⟨rest, rfl⟩, hne⟩ := prefix_of_mem hq
    refine ⟨rest, by simpa using hne, ?_, by simp⟩
    cases deep with
    | true => exact .inl rfl
    | false =>
      obtain ⟨-, n, hn⟩ := mem_children_iff.mp hq
      exact .inr ⟨n, List.append_cancel_left hn⟩

/-- No location is listed twice. -/
theorem nodup_listing (d : Disk) (deep : Bool) (l : Location) : (d.listing deep l).Nodup := by
  rw [listing]
  split
  · exact List.nodup_nil
  · rename_i found hfound
    refine List.Nodup.map_on (fun q hq k hk hqk => ?_) ?_
    · obtain ⟨more, rfl⟩ := (prefix_of_mem hq).1
      obtain ⟨rest, rfl⟩ := (prefix_of_mem hk).1
      simpa using hqk
    · split
      · exact d.nodes.nodup.filter _
      · exact d.nodes.nodup.filter _

end FileDepot.Disk
