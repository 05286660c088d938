import FileDepot.Proofs.Memory.Tree
import FileDepot.Proofs.Path.Append
import Mathlib.Data.List.TakeWhile

/-!
# Where a mount puts its files

An archive is mounted at a place, but the names of its entries have a say in where their files land. A
name that begins at the root stands alone, so that the place plays no part in it; any other name adds its
segments to those of the place (`landing`). A file lands below the place exactly when the name leads
there (`StaysBelow`), and a name without a segment makes a file of the place itself.

* **landing** — `normalize_append`: the path at which an entry lands;
* **below** — `below_landing_iff`: when that is below the place;
* **mount** — `mount_stays`: what a mount changes.
-/

namespace FileDepot.Memory

open FileDepot.Text FileDepot.Path

variable {q name : String}

/-- Whether a path is that of a normal place, followed by a separator and at least one segment. Below the
root this is any path but the root. -/
def Below (q p : String) : Prop :=
  ∃ more, more ≠ [] ∧ (∀ n ∈ more, IsSegment n) ∧ p = front q ++ join more

/-- The segments of a normal path. The root has none. -/
def steps (p : String) : List String := if p = "" then [] else parts p

/-- The segments of the path at which an entry lands: its name alone when it begins at the root, and
otherwise those of the place with those of the name behind them. -/
def landing (q name : String) : List String :=
  if q = "" ∨ IsAbsolute name then segments (Path.normalize name) else steps q ++ behind name

/-- Whether a name leads below a place. -/
def StaysBelow (q name : String) : Prop :=
  if IsAbsolute name then steps q <+: landing q name ∧ steps q ≠ landing q name
  else landing q name ≠ steps q

instance (q name : String) : Decidable (StaysBelow q name) := by
  unfold StaysBelow
  infer_instance

/-! ## The segments of a normal path -/

theorem join_steps (p : String) : join (steps p) = p := by
  rw [steps]
  split
  · rename_i hp
    exact hp.symm
  · exact join_parts p

theorem steps_ne_nil (h : q ≠ "") : steps q ≠ [] := by
  rw [steps, if_neg h]
  exact parts_ne_nil q

/-- What a path below a place begins with. -/
theorem front_append_join (q : String) {more : List String} (hmore : more ≠ []) :
    front q ++ join more = join (steps q ++ more) := by
  by_cases hroot : q = ""
  · simp [front, steps, hroot]
  · have hempty : q.isEmpty = false := by simpa using hroot
    rw [join_append (steps_ne_nil hroot) hmore, join_steps]
    simp [front, hempty]

theorem isSegment_of_mem_steps (h : IsNormal q) : ∀ n ∈ steps q, IsSegment n := by
  rw [steps]
  split
  · simp
  · rename_i hq
    exact (parts_of_normal h hq).1

theorem isSegment_of_mem_landing (h : IsNormal q) : ∀ n ∈ landing q name, IsSegment n := by
  rw [landing]
  split
  · exact fun n hn => isSegment_of_mem_segments hn
  · intro n hn
    rcases List.mem_append.mp hn with hn | hn
    · exact isSegment_of_mem_steps h n hn
    · exact isSegment_of_mem_behind hn

theorem prefix_landing (hname : ¬ IsAbsolute name) : steps q <+: landing q name := by
  rw [landing]
  split
  · rename_i h
    rcases h with rfl | h
    · exact List.nil_prefix
    · exact absurd h hname
  · exact List.prefix_append ..

/-! ## Landing -/

/-- A normal path does not end with a separator. -/
theorem getLast?_ne_slash (h : IsNormal q) : q.toList.getLast? ≠ some '/' := by
  intro hlast
  obtain ⟨segs, hsegs, -, rfl⟩ := h
  exact (edges_join_ne_slash hsegs).2 '/' hlast rfl

/-- **Landing.** The normal form of a name behind a tidy place has the segments at which it lands. -/
theorem segments_append (h : IsNormal q) (hq : Tidy q) (name : String) :
    segments (Path.normalize (Path.append q name)) = landing q name := by
  rw [Path.append, landing]
  by_cases hname : IsAbsolute name
  · have hhead : name.toList.head? = some '/' := hname
    rw [if_pos hhead, if_pos (.inr hname)]
  · have hhead : ¬ name.toList.head? = some '/' := hname
    rw [if_neg hhead]
    by_cases hroot : q = ""
    · subst hroot
      simp
    · have hempty : q.isEmpty = false := by simpa using hroot
      have hends : ¬ (q.isEmpty || q.toList.getLast? = some '/') = true := by
        simp [hempty, getLast?_ne_slash h]
      rw [if_neg hends, if_neg (by simp [hroot, hname])]
      have happend := segments_normalize_append (isSegment_of_mem_steps h) (steps_ne_nil hroot)
        (by rwa [join_steps]) name
      rwa [join_steps] at happend

theorem normalize_append (h : IsNormal q) (hq : Tidy q) {p : String} :
    normalize (Path.append q name) = .ok p ↔ ".." ∉ landing q name ∧ join (landing q name) = p := by
  rw [normalize, segments_append h hq]
  by_cases hup : ".." ∈ landing q name
  · simp [hup]
  · simp [hup]

/-! ## Below -/

theorem below_join_iff {segs : List String} (h : IsNormal q) (hsegs : ∀ n ∈ segs, IsSegment n) :
    Below q (join segs) ↔ steps q <+: segs ∧ steps q ≠ segs := by
  constructor
  · rintro ⟨more, hmore, hin, hp⟩
    rw [front_append_join q hmore] at hp
    have hall : ∀ n ∈ steps q ++ more, IsSegment n := fun n hn =>
      (List.mem_append.mp hn).elim (isSegment_of_mem_steps h n) (hin n)
    have hlong : steps q ++ more ≠ [] := List.append_ne_nil_of_right_ne_nil _ hmore
    have hne : segs ≠ [] := by
      rintro rfl
      exact hlong ((join_eq_empty_iff hall).mp (hp.symm.trans join_nil))
    -- both lists of segments can be read off the same path
    obtain rfl : segs = steps q ++ more := by
      rw [← parts_join_of_segments hne hsegs, hp, parts_join_of_segments hlong hall]
    exact ⟨List.prefix_append .., fun h => hmore (List.self_eq_append_right.mp h)⟩
  · rintro ⟨⟨more, rfl⟩, hstrict⟩
    have hmore : more ≠ [] := by
      rintro rfl
      exact hstrict (List.append_nil _).symm
    exact ⟨more, hmore, fun n hn => hsegs n (List.mem_append_right _ hn),
      (front_append_join q hmore).symm⟩

/-- A place is not below itself. -/
theorem not_below_self (h : IsNormal q) : ¬ Below q q := by
  have hself := below_join_iff h (isSegment_of_mem_steps h)
  rw [join_steps] at hself
  exact fun hbelow => (hself.mp hbelow).2 rfl

/-- **Below.** An entry lands below a place exactly when its name leads there. -/
theorem below_landing_iff (h : IsNormal q) (name : String) :
    Below q (join (landing q name)) ↔ StaysBelow q name := by
  rw [below_join_iff h (isSegment_of_mem_landing h), StaysBelow]
  split
  · rfl
  · rename_i hname
    exact ⟨fun hb => hb.2.symm, fun hne => ⟨prefix_landing hname, hne.symm⟩⟩

/-! ## Mounting -/

/-- The names of the entries that an act puts as files from an archive, before it fails if it does. -/
def Act.names : Act → List String
  | .mount data place =>
    match normalize place, archiveEntries data with
    | .ok p, .ok entries =>
      ((mountable p data entries).filter (!·.isDirectory)).map (·.name)
    | _, _ => []
  | _ => []

/-- A file of an archive lands where its name leads. -/
theorem mountedFiles_paths (h : IsNormal q) (hq : Tidy q) {data : Bytes}
    {entries : List Archive.Entry} (hall : ∀ e ∈ entries, entryFault? q data e = none) :
    (mountedFiles q data entries).map Prod.fst =
      ((entries.filter (!·.isDirectory)).map (·.name)).map fun name => join (landing q name) := by
  induction entries with
  | nil => rfl
  | cons e rest ih =>
    have hrest := ih fun b hb => hall b (List.mem_cons_of_mem _ hb)
    rw [mountedFiles_cons, List.map_append, hrest]
    obtain ⟨-, hdir | ⟨⟨p, file⟩, hdir, hfile⟩⟩ := entryFault?_eq_none (hall e (List.mem_cons_self ..))
    · simp [mountedFiles, hdir]
    · have hland := ((normalize_append h hq).mp (mountedEntry_eq_ok hfile).1).2
      simp [mountedFiles, hdir, hfile, Except.toOption, hland]

theorem mounted_eq {data : Bytes} {place : String} (hplace : normalize place = .ok q) (hq : Tidy q) :
    (Act.mount data place).mounted =
      (Act.mount data place).names.map fun name => join (landing q name) := by
  cases hentries : archiveEntries data with
  | error f => simp [Act.mounted, Act.names, hplace, hentries]
  | ok entries =>
    have hall : ∀ e ∈ mountable q data entries, entryFault? q data e = none := by
      intro e he
      simpa using List.mem_takeWhile_imp he
    simp only [Act.mounted, Act.names, hplace, hentries]
    exact mountedFiles_paths (isNormal_of_normalize hplace) hq hall

/-- A mount changes nothing but the files that it puts. -/
theorem get?_mount_of_not_mem {data : Bytes} {place p : String} (m : Memory)
    (hp : p ∉ (Act.mount data place).mounted) :
    (m.mount data place).2.files.get? p = m.files.get? p := by
  rcases mount_cases m data place with ⟨hm, -⟩ | ⟨q, entries, hplace, hentries, hm⟩
  · rw [hm]
  · have hlookup : (mountedFiles q data (mountable q data entries)).reverse.lookup p = none := by
      rw [List.lookup_eq_none_iff]
      intro f hf
      simp only [Act.mounted, hplace, hentries, List.mem_map, not_exists, not_and] at hp
      have hne := hp f (List.mem_reverse.mp hf)
      simpa using fun heq => hne heq.symm
    rw [hm, mountEntries_eq, get?_load, hlookup, Option.none_or]

/-- **A mount stays below its place as far as the names of its entries do.** At a tidy place, each entry
that is put lands where its name leads, and no other path changes. It lands below the place exactly when
the name says so. A name that does not begin at the root lands at the place itself when it has no segment;
one that does lands where it would without a place. Hence a mount changes paths below its place only,
provided that all names stay below it. -/
theorem mount_stays (m : Memory) (data : Bytes) {place q : String} (hplace : normalize place = .ok q)
    (hq : Tidy q) :
    let names := (Act.mount data place).names
    let after := (m.mount data place).2
    (∀ name ∈ names, after.files.contains (join (landing q name)) = true) ∧
    (∀ p, p ∉ names.map (fun name => join (landing q name)) → after.files.get? p = m.files.get? p) ∧
    (∀ name, Below q (join (landing q name)) ↔ StaysBelow q name) ∧
    (∀ name, ¬ IsAbsolute name →
      (StaysBelow q name ↔ join (landing q name) ≠ q)) ∧
    (∀ name, IsAbsolute name → landing q name = landing "" name) ∧
    ((∀ name ∈ names, StaysBelow q name) →
      (∀ p, after.files.get? p ≠ m.files.get? p → Below q p) ∧
      after.files.get? q = m.files.get? q) := by
  intro names after
  have hnormal := isNormal_of_normalize hplace
  have hmounted : (Act.mount data place).mounted = names.map fun name => join (landing q name) :=
    mounted_eq hplace hq
  have hframe : ∀ p, p ∉ names.map (fun name => join (landing q name)) →
      after.files.get? p = m.files.get? p := by
    intro p hp
    exact get?_mount_of_not_mem m (by rwa [hmounted])
  have hbelow : (∀ name ∈ names, StaysBelow q name) →
      ∀ p, after.files.get? p ≠ m.files.get? p → Below q p := by
    intro hstays p hp
    by_contra hnot
    refine hp (hframe p fun hin => hnot ?_)
    obtain ⟨name, hname, rfl⟩ := List.mem_map.mp hin
    exact (below_landing_iff hnormal name).mpr (hstays name hname)
  refine ⟨?_, hframe, below_landing_iff hnormal, ?_, ?_, fun hstays => ⟨hbelow hstays, ?_⟩⟩
  · intro name hname
    refine (contains_mount m data place _).mpr (.inl ?_)
    rw [hmounted]
    exact List.mem_map_of_mem hname
  · intro name hname
    rw [← below_landing_iff hnormal name]
    constructor
    · intro hb heq
      rw [heq] at hb
      exact not_below_self hnormal hb
    · intro hne
      refine (below_join_iff hnormal (isSegment_of_mem_landing hnormal)).mpr
        ⟨prefix_landing hname, fun heq => hne ?_⟩
      rw [← heq, join_steps]
  · intro name hname
    rw [landing, landing, if_pos (.inr hname), if_pos (.inr hname)]
  · by_contra hne
    exact not_below_self hnormal (hbelow hstays q hne)

/-- A name with marks and blanks around its segment stays below the place. -/
theorem mount_stays_marked :
    let m := empty fun n => ⟨n⟩
    let data := archiveOfEmptyFiles [".\\b "]
    normalize "/pre/" = .ok "pre" ∧ Tidy "pre" ∧ (Act.mount data "/pre/").names = [".\\b "] ∧
      (m.mount data "/pre/").2.files.contains "pre/b" = true ∧
      ∀ p, (m.mount data "/pre/").2.files.get? p ≠ m.files.get? p → Below "pre" p := by
  intro m data
  have hplace : normalize "/pre/" = .ok "pre" := by decide +kernel
  have htidy : Tidy "pre" := by decide +kernel
  have hnames : (Act.mount data "/pre/").names = [".\\b "] := by decide +kernel
  have hland : join (landing "pre" ".\\b ") = "pre/b" := by decide +kernel
  obtain ⟨hput, -, -, -, -, hbelow⟩ := mount_stays m data hplace htidy
  rw [hnames] at hput hbelow
  refine ⟨hplace, htidy, hnames, ?_, (hbelow (by decide +kernel)).1⟩
  rw [← hland]
  exact hput _ (List.mem_singleton_self _)

/-- Mounting at a place puts a file elsewhere when its name begins at the root, and at the place itself
when its name has no segment. Where a blank stands at the front of the place, it is lost behind it. -/
theorem mount_leaves_place :
    let m := empty fun n => ⟨n⟩
    (normalize "pre" = .ok "pre" ∧ ¬ Below "pre" "x" ∧
      (m.mount (archiveOfEmptyFiles ["/x"]) "pre").2.files.contains "x" = true) ∧
    (m.mount (archiveOfEmptyFiles ["."]) "pre").2.files.contains "pre" = true ∧
    (normalize ".// a" = .ok " a" ∧ ¬ Below " a" "a/x" ∧
      (m.mount (archiveOfEmptyFiles ["x"]) ".// a").2.files.contains "a/x" = true) := by
  intro m
  have hfirst : ¬ Below "pre" "x" := by
    rintro ⟨more, -, -, hp⟩
    have hchar := congrArg (fun s => s.toList.head?) hp
    simp [front] at hchar
  have hsecond : ¬ Below " a" "a/x" := by
    rintro ⟨more, -, -, hp⟩
    have hchar := congrArg (fun s => s.toList.head?) hp
    simp [front] at hchar
  exact ⟨⟨by decide +kernel, hfirst, by decide +kernel⟩, by decide +kernel, by decide +kernel,
    hsecond, by decide +kernel⟩

end FileDepot.Memory
