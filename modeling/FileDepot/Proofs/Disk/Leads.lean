import FileDepot.Disk.Resolve
import FileDepot.Proofs.Disk.Tree
import Mathlib.Data.Nat.Find

/-!
# Where names lead

`Leads` says where names lead on a disk when every link is replaced by its target, also where nothing is
there: such names stand for themselves. Names lead to one place at most (`Leads.unique`), and to none
when a link leads back to itself.

* **system** — `Leads.of_walk`: what a system finds is where the names lead;
* **soundness, completeness** — `real_iff`: following links with a bound, and giving up on a link that is
  met again while its own target is followed, finds the place exactly when there is one.
-/

namespace FileDepot.Disk

open Location

variable {d : Disk}

/-- Where names lead from a location, over links inside each other's targets up to a depth. -/
inductive LeadsWithin (d : Disk) : Nat → Location → List String → Location → Prop where
  /-- no names lead nowhere else -/
  | nil {depth l} : LeadsWithin d depth l [] l
  /-- an empty name and `.` stay -/
  | stay {depth l name rest k} (hname : name = "" ∨ name = ".")
      (h : LeadsWithin d depth l rest k) : LeadsWithin d depth l (name :: rest) k
  /-- `..` goes to the directory above -/
  | up {depth l rest k} (h : LeadsWithin d depth l.parent rest k) :
      LeadsWithin d depth l (".." :: rest) k
  /-- a name that is no link stands for itself -/
  | enter {depth l name rest k} (hname : IsName name)
      (hnode : ∀ target, d.at? (l ++ [name]) ≠ some (.link target))
      (h : LeadsWithin d depth (l ++ [name]) rest k) : LeadsWithin d depth l (name :: rest) k
  /-- a link stands for where its target leads -/
  | follow {depth l name target m rest k} (hname : IsName name)
      (hnode : d.at? (l ++ [name]) = some (.link target))
      (htarget : LeadsWithin d depth (targetStart l target) (pieces target) m)
      (h : LeadsWithin d (depth + 1) m rest k) : LeadsWithin d (depth + 1) l (name :: rest) k

/-- Where names lead from a location. -/
def Leads (d : Disk) (l : Location) (names : List String) (k : Location) : Prop :=
  ∃ depth, LeadsWithin d depth l names k

/-! ## Steps -/

theorem LeadsWithin.mono {depth : Nat} {l k : Location} {names : List String}
    (h : LeadsWithin d depth l names k) : ∀ {more : Nat}, depth ≤ more →
      LeadsWithin d more l names k := by
  induction h with
  | nil => exact fun _ => .nil
  | stay hname _ ih => exact fun hle => .stay hname (ih hle)
  | up _ ih => exact fun hle => .up (ih hle)
  | enter hname hnode _ ih => exact fun hle => .enter hname hnode (ih hle)
  | follow hname hnode _ _ ihtarget ih =>
    intro more hle
    obtain ⟨more, rfl⟩ := Nat.exists_eq_add_of_lt (Nat.lt_of_lt_of_le (Nat.succ_pos _) hle)
    rw [Nat.zero_add] at hle ⊢
    exact .follow hname hnode (ihtarget (Nat.le_of_succ_le_succ hle)) (ih hle)

namespace Leads

variable {l k m : Location} {name target : String} {rest names more : List String}

theorem nil : Leads d l [] l := ⟨0, .nil⟩

theorem stay (hname : name = "" ∨ name = ".") (h : Leads d l rest k) : Leads d l (name :: rest) k :=
  h.imp fun _ h => .stay hname h

theorem up (h : Leads d l.parent rest k) : Leads d l (".." :: rest) k := h.imp fun _ h => .up h

theorem enter (hname : IsName name) (hnode : ∀ target, d.at? (l ++ [name]) ≠ some (.link target))
    (h : Leads d (l ++ [name]) rest k) : Leads d l (name :: rest) k :=
  h.imp fun _ h => .enter hname hnode h

theorem follow (hname : IsName name) (hnode : d.at? (l ++ [name]) = some (.link target))
    (htarget : Leads d (targetStart l target) (pieces target) m) (h : Leads d m rest k) :
    Leads d l (name :: rest) k := by
  obtain ⟨i, htarget⟩ := htarget
  obtain ⟨j, h⟩ := h
  exact ⟨max i j + 1, .follow hname hnode (htarget.mono (Nat.le_max_left i j))
    (h.mono (Nat.le_succ_of_le (Nat.le_max_right i j)))⟩

/-- Names lead where they lead one part after the other. -/
theorem append (h : Leads d l names m) (hmore : Leads d m more k) : Leads d l (names ++ more) k := by
  obtain ⟨depth, h⟩ := h
  induction h with
  | nil => exact hmore
  | stay hname _ ih => exact stay hname (ih hmore)
  | up _ ih => exact up (ih hmore)
  | enter hname hnode _ ih => exact enter hname hnode (ih hmore)
  | follow hname hnode htarget _ _ ih => exact follow hname hnode ⟨_, htarget⟩ (ih hmore)

/-- Names lead first where the first one leads. -/
theorem of_cons (h : Leads d l (name :: rest) k) : ∃ m, Leads d l [name] m ∧ Leads d m rest k := by
  obtain ⟨depth, h⟩ := h
  cases h with
  | stay hname h => exact ⟨l, stay hname nil, _, h⟩
  | up h => exact ⟨l.parent, up nil, _, h⟩
  | enter hname hnode h => exact ⟨l ++ [name], enter hname hnode nil, _, h⟩
  | follow hname hnode htarget h => exact ⟨_, follow hname hnode ⟨_, htarget⟩ nil, _, h⟩

theorem of_append (h : Leads d l (names ++ more) k) :
    ∃ m, Leads d l names m ∧ Leads d m more k := by
  induction names generalizing l with
  | nil => exact ⟨l, nil, h⟩
  | cons name rest ih =>
    obtain ⟨i, hname, h⟩ := of_cons h
    obtain ⟨m, hrest, hmore⟩ := ih h
    exact ⟨m, append hname hrest, hmore⟩

end Leads

/-! ## One place at most -/

theorem not_isName_of_stay {name : String} (h : name = "" ∨ name = ".") : ¬ IsName name := by
  rintro hname
  rcases h with rfl | rfl
  · exact hname.ne_empty rfl
  · exact hname.ne_dot rfl

theorem LeadsWithin.unique {depth more : Nat} {l k k' : Location} {names : List String}
    (h : LeadsWithin d depth l names k) (h' : LeadsWithin d more l names k') : k = k' := by
  induction h generalizing more k' with
  | nil => cases h'; rfl
  | stay hname h ih =>
    cases h' with
    | stay _ h' => exact ih h'
    | up h' => simp at hname
    | enter hname' _ _ => exact absurd hname' (not_isName_of_stay hname)
    | follow hname' _ _ _ => exact absurd hname' (not_isName_of_stay hname)
  | up h ih =>
    cases h' with
    | stay hname _ => simp at hname
    | up h' => exact ih h'
    | enter hname _ _ => exact absurd rfl hname.ne_up
    | follow hname _ _ _ => exact absurd rfl hname.ne_up
  | enter hname hnode h ih =>
    cases h' with
    | stay hname' _ => exact absurd hname (not_isName_of_stay hname')
    | up _ => exact absurd rfl hname.ne_up
    | enter _ _ h' => exact ih h'
    | follow _ hnode' _ _ => exact absurd hnode' (hnode _)
  | follow hname hnode htarget h ihtarget ih =>
    cases h' with
    | stay hname' _ => exact absurd hname (not_isName_of_stay hname')
    | up _ => exact absurd rfl hname.ne_up
    | enter _ hnode' _ => exact absurd hnode (hnode' _)
    | follow _ hnode' htarget' h' =>
      obtain rfl := Node.link.inj (Option.some.inj (hnode.symm.trans hnode'))
      obtain rfl := ihtarget htarget'
      exact ih h'

/-- Names lead to one place at most. -/
theorem Leads.unique {l k k' : Location} {names : List String} (h : Leads d l names k)
    (h' : Leads d l names k') : k = k' := by
  obtain ⟨_, h⟩ := h
  obtain ⟨_, h'⟩ := h'
  exact h.unique h'

/-- Where names lead depends on the links of a disk only. -/
theorem Leads.congr {e : Disk} (hlinks : ∀ l target, d.at? l = some (.link target) ↔
    e.at? l = some (.link target)) {l k : Location} {names : List String} (h : Leads d l names k) :
    Leads e l names k := by
  obtain ⟨depth, h⟩ := h
  induction h with
  | nil => exact .nil
  | stay hname _ ih => exact .stay hname ih
  | up _ ih => exact .up ih
  | enter hname hnode _ ih =>
    exact .enter hname (fun target => mt (hlinks _ target).mpr (hnode target)) ih
  | follow hname hnode _ _ ihtarget ih => exact .follow hname ((hlinks _ _).mp hnode) ihtarget ih

/-! ## Real places -/

/-- A location with no link on the way to it. -/
def Unlinked (d : Disk) (l : Location) : Prop :=
  ∀ k, k <+: l → ∀ target, d.at? k ≠ some (.link target)

theorem unlinked_nil (d : Disk) : d.Unlinked [] := by
  intro k hk target
  rw [List.prefix_nil.mp hk]
  simp [at?]

theorem Unlinked.of_prefix {l k : Location} (h : d.Unlinked l) (hk : k <+: l) : d.Unlinked k :=
  fun j hj => h j (hj.trans hk)

theorem Unlinked.parent {l : Location} (h : d.Unlinked l) : d.Unlinked l.parent :=
  h.of_prefix (List.dropLast_prefix l)

theorem Unlinked.concat {l : Location} {name : String} (h : d.Unlinked l)
    (hnode : ∀ target, d.at? (l ++ [name]) ≠ some (.link target)) : d.Unlinked (l ++ [name]) := by
  intro k hk
  rcases List.prefix_concat_iff.mp hk with rfl | hk
  · exact hnode
  · exact h k hk

/-- A real location: its names can stand in directories, and no link is on the way. -/
structure IsReal (d : Disk) (l : Location) : Prop where
  /-- its names can stand in directories -/
  proper : IsProper l
  /-- no link is on the way to it -/
  unlinked : d.Unlinked l

theorem isReal_nil (d : Disk) : d.IsReal [] := ⟨isProper_nil, unlinked_nil d⟩

theorem IsReal.targetStart {l : Location} (h : d.IsReal l) (target : String) :
    d.IsReal (targetStart l target) := by
  rw [Disk.targetStart]
  split
  · exact isReal_nil d
  · exact h

theorem IsReal.parent {l : Location} (h : d.IsReal l) : d.IsReal l.parent :=
  ⟨h.proper.parent, h.unlinked.parent⟩

/-- The place that names lead to is real. -/
theorem Leads.isReal {l k : Location} {names : List String} (h : Leads d l names k)
    (hl : d.IsReal l) : d.IsReal k := by
  obtain ⟨depth, h⟩ := h
  induction h with
  | nil => exact hl
  | stay _ _ ih => exact ih hl
  | up _ ih => exact ih hl.parent
  | enter hname hnode _ ih => exact ih ⟨hl.proper.concat hname, hl.unlinked.concat hnode⟩
  | follow _ _ _ _ ihtarget ih => exact ih (ihtarget (hl.targetStart _))

/-- A real location leads to itself. -/
theorem IsReal.leads {l : Location} (h : d.IsReal l) : Leads d [] l l := by
  induction l using List.reverseRecOn with
  | nil => exact .nil
  | append_singleton l name ih =>
    have hl : d.IsReal l := by simpa using h.parent
    exact (ih hl).append (.enter (h.proper name (by simp)) (h.unlinked _ (List.prefix_refl _)) .nil)

/-- Where nothing is, a location leads to its place in the directory that it leads to. -/
theorem Leads.of_parent {l q : Location} (hl : IsProper l) (hne : l ≠ [])
    (hdir : Leads d [] l.parent q) (hnone : d.at? (q ++ [l.name]) = none) :
    Leads d [] l (q ++ [l.name]) := by
  have hname : Leads d q [l.name] (q ++ [l.name]) := .enter (hl.name hne) (by simp [hnone]) .nil
  have hleads := hdir.append hname
  rwa [parent_append_name hne] at hleads

/-! ## What a system finds -/

/-- Empty names do not count. -/
theorem Leads.of_filter {l k : Location} {names : List String}
    (h : Leads d l (names.filter (· ≠ "")) k) : Leads d l names k := by
  induction names generalizing l with
  | nil => exact h
  | cons name rest ih =>
    by_cases hname : name = ""
    · rw [List.filter_cons_of_neg (by simp [hname])] at h
      exact .stay (.inl hname) (ih h)
    · rw [List.filter_cons_of_pos (by simp [hname])] at h
      obtain ⟨m, hname, hrest⟩ := Leads.of_cons h
      exact hname.append (ih hrest)

/-- A `.` at the end of a target does not count. -/
theorem Leads.of_targetNames {l k : Location} {target : String}
    (h : Leads d l (targetNames target) k) : Leads d l (pieces target) k := by
  obtain ⟨m, hpieces, hdot⟩ := Leads.of_append h
  split at hdot
  · have hm : Leads d m ["."] m := .stay (.inr rfl) .nil
    exact hm.unique hdot ▸ hpieces.of_filter
  · exact Leads.nil.unique hdot ▸ hpieces.of_filter

/-- **System.** What a system finds is where the names lead. -/
theorem Leads.of_walk (htree : d.IsTree) {links : Nat} {l k : Location} {names : List String}
    (h : d.walk true links l names = .ok k) : Leads d l names k := by
  -- what holds of the jump over a link holds of a walk along names; the links that are left carry
  -- the induction
  have hover {jump : Location → List String → Except Trouble Location}
      (hjump : ∀ {l names k}, jump l names = .ok k → Leads d l names k) {l k : Location}
      {names : List String} (h : d.walkOver true jump l names = .ok k) : Leads d l names k := by
    fun_induction walkOver d true jump l names with
    | case1 l => exact Except.ok.inj h ▸ .nil
    | case2 | case5 | case6 => cases h
    | case3 l rest _ ih => exact .stay (.inr rfl) (ih h)
    | case4 l rest _ _ ih => exact .up (ih h)
    | case7 l name rest _ _ _ _ next target _ hlast => simp at hlast
    | case8 l name rest _ _ _ _ next target hnode =>
      have hname : IsName name := htree.isName (l := l) (by rw [hnode]; nofun)
      obtain ⟨m, htarget, hrest⟩ := Leads.of_append (hjump h)
      exact .follow hname hnode htarget.of_targetNames hrest
    | case9 l name rest _ _ _ _ next node hnolink hnode ih =>
      have hname : IsName name := htree.isName (l := l) (by rw [hnode]; nofun)
      refine .enter hname (fun target htarget => ?_) (ih h)
      exact hnolink target (Option.some.inj (hnode.symm.trans htarget))
  induction links generalizing l names k with
  | zero =>
    rw [walk_zero] at h
    exact hover (fun h => by cases h) h
  | succ links ih =>
    rw [walk_succ] at h
    exact hover ih h

/-! ## Following links with a bound -/

/-- A name that stands for itself or a link, as it is recognized. -/
theorem isName_of_tests {name : String} (hstay : ¬ (decide (name = "") || decide (name = ".")) = true)
    (hup : ¬ name = "..") (hslash : '/' ∉ name.toList) (hnul : ¬ name.toList.contains '\x00' = true) :
    IsName name := by
  simp only [Bool.or_eq_true, decide_eq_true_eq, not_or] at hstay
  exact ⟨hstay.1, hstay.2, hup, hslash, by simpa using hnul⟩

/-- What following the links of names finds is where they lead. -/
theorem Leads.of_realFrom {fuel : Nat} {active : List Location} {l k : Location}
    {names : List String} (hnames : Slashless names)
    (h : d.realFrom fuel active l names = .found k) : Leads d l names k := by
  have hover {jump : Location → Location → List String → Real}
      (hjump : ∀ {next l names k}, Slashless names → jump next l names = .found k →
        Leads d l names k) {l : Location} {names : List String} (hnames : Slashless names) :
      ∀ {k}, d.realOver jump l names = .found k → Leads d l names k := by
    fun_induction realOver d jump l names with
    | case1 l => exact fun h => Real.found.inj h ▸ .nil
    | case2 l name rest hname ih => exact fun h => .stay (by simpa using hname) (ih hnames.tail h)
    | case3 l rest _ ih => exact fun h => .up (ih hnames.tail h)
    | case4 | case6 | case7 => exact nofun
    | case5 l name rest hstay hup hnul next target hnode m htarget ih =>
      have hname := isName_of_tests hstay hup hnames.head hnul
      intro k h
      exact .follow hname hnode (hjump (slashless_pieces target) htarget) (ih hnames.tail h)
    | case8 l name rest hstay hup hnul next hnode ih =>
      have hname := isName_of_tests hstay hup hnames.head hnul
      intro k h
      exact .enter hname hnode (ih hnames.tail h)
  induction fuel generalizing active l names k with
  | zero =>
    rw [realFrom_zero] at h
    exact hover (fun _ h => by cases h) hnames h
  | succ fuel ih =>
    rw [realFrom_succ] at h
    refine hover (fun {next l names k} hnames h => ?_) hnames h
    split at h
    · cases h
    · exact ih hnames h

section Equations

variable {fuel : Nat} {active : List Location} {l m : Location} {name target : String}
  {rest : List String}

theorem realFrom_nil : d.realFrom fuel active l [] = .found l := by
  cases fuel <;> simp only [realFrom_zero, realFrom_succ, realOver]

theorem realFrom_stay (hname : name = "" ∨ name = ".") :
    d.realFrom fuel active l (name :: rest) = d.realFrom fuel active l rest := by
  cases fuel <;> simp [realFrom_zero, realFrom_succ, realOver, hname]

theorem realFrom_up :
    d.realFrom fuel active l (".." :: rest) = d.realFrom fuel active l.parent rest := by
  cases fuel <;> simp [realFrom_zero, realFrom_succ, realOver]

theorem realOver_enter {jump : Location → Location → List String → Real} (hname : IsName name)
    (hnode : ∀ target, d.at? (l ++ [name]) ≠ some (.link target)) :
    d.realOver jump l (name :: rest) = d.realOver jump (l ++ [name]) rest := by
  rw [realOver, if_neg (by simp [hname.ne_empty, hname.ne_dot]), if_neg hname.ne_up,
    if_neg (by simpa using hname.no_nul)]
  dsimp only
  split
  · rename_i target htarget
    exact absurd htarget (hnode target)
  · rfl

theorem realFrom_enter (hname : IsName name)
    (hnode : ∀ target, d.at? (l ++ [name]) ≠ some (.link target)) :
    d.realFrom fuel active l (name :: rest) = d.realFrom fuel active (l ++ [name]) rest := by
  cases fuel <;> simp only [realFrom_zero, realFrom_succ, realOver_enter hname hnode]

theorem realFrom_follow (hname : IsName name)
    (hnode : d.at? (l ++ [name]) = some (.link target)) (hactive : l ++ [name] ∉ active)
    (htarget : d.realFrom fuel ((l ++ [name]) :: active) (targetStart l target) (pieces target) =
      .found m) :
    d.realFrom (fuel + 1) active l (name :: rest) = d.realFrom (fuel + 1) active m rest := by
  rw [realFrom_succ, realOver, if_neg (by simp [hname.ne_empty, hname.ne_dot]), if_neg hname.ne_up,
    if_neg (by simpa using hname.no_nul)]
  simp [hnode, hactive, htarget]

end Equations

/-- Whether the target of a link leads anywhere, over links up to a depth. -/
def Expands (d : Disk) (depth : Nat) (a : Location) : Prop :=
  ∃ target m, d.at? a = some (.link target) ∧
    LeadsWithin d depth (targetStart a.parent target) (pieces target) m

theorem Expands.exists_least {depth : Nat} {a : Location} (h : Expands d depth a) :
    ∃ i, i ≤ depth ∧ Expands d i a ∧ ∀ j < i, ¬ Expands d j a := by
  classical
  have hex : ∃ i, Expands d i a := ⟨depth, h⟩
  exact ⟨Nat.find hex, Nat.find_min' hex h, Nat.find_spec hex, fun j hj => Nat.find_min hex hj⟩

/-- Links that are followed inside each other are no more than the nodes of the disk. -/
theorem length_active_le {active : List Location} (hnodup : active.Nodup)
    (hlinks : ∀ a ∈ active, ∃ target, d.at? a = some (.link target)) :
    active.length ≤ d.nodes.entries.length := by
  have hsub : active ⊆ d.nodes.keys := by
    intro a ha
    obtain ⟨target, htarget⟩ := hlinks a ha
    rw [Catalog.mem_keys, Catalog.contains]
    by_cases hnil : a = []
    · simp [hnil] at htarget
    · rw [at?, if_neg hnil] at htarget
      simp [htarget]
  simpa [Catalog.keys] using hnodup.length_le_of_subset hsub

/-- Where names lead is found, when no link whose target is being followed can be met again and the
bound leaves room for the other links. -/
theorem LeadsWithin.realFrom {depth : Nat} {l k : Location} {names : List String}
    (h : LeadsWithin d depth l names k) {fuel : Nat} {active : List Location}
    (hnodup : active.Nodup) (hlinks : ∀ a ∈ active, ∃ target, d.at? a = some (.link target))
    (hactive : ∀ a ∈ active, ∀ i < depth, ¬ Expands d i a)
    (hfuel : d.nodes.entries.length < fuel + active.length) :
    d.realFrom fuel active l names = .found k := by
  -- the outer induction is for targets, which are followed to a depth of their own, the inner one for
  -- the names that are left at the same depth
  induction depth using Nat.strongRecOn generalizing l k names fuel active with
  | _ depth ihdepth =>
  induction h generalizing fuel active with
  | nil => exact realFrom_nil
  | stay hname h ih =>
    rw [realFrom_stay hname]
    exact ih ihdepth hnodup hlinks hactive hfuel
  | up h ih =>
    rw [realFrom_up]
    exact ih ihdepth hnodup hlinks hactive hfuel
  | enter hname hnode h ih =>
    rw [realFrom_enter hname hnode]
    exact ih ihdepth hnodup hlinks hactive hfuel
  | @follow depth l name target m rest k hname hnode htarget h ihtarget ih =>
    have hexpands : Expands d depth (l ++ [name]) := ⟨target, m, hnode, by simpa using htarget⟩
    have hnext : l ++ [name] ∉ active := fun hmem =>
      hactive _ hmem depth (Nat.lt_succ_self depth) hexpands
    have hnodup' : ((l ++ [name]) :: active).Nodup := List.nodup_cons.mpr ⟨hnext, hnodup⟩
    have hlinks' : ∀ a ∈ (l ++ [name]) :: active, ∃ target, d.at? a = some (.link target) := by
      intro a ha
      rcases List.mem_cons.mp ha with rfl | ha
      · exact ⟨target, hnode⟩
      · exact hlinks a ha
    -- the target is followed to the least depth that will do, so that this link is not met in it again
    obtain ⟨i, hi, ⟨target', m', hnode', hleast⟩, hmin⟩ := hexpands.exists_least
    obtain rfl := Node.link.inj (Option.some.inj (hnode.symm.trans hnode'))
    rw [parent_concat] at hleast
    obtain rfl := htarget.unique hleast
    have hbound := length_active_le hnodup' hlinks'
    rw [List.length_cons] at hbound
    obtain ⟨room, rfl⟩ : ∃ room, fuel = room + 1 := ⟨fuel - 1, by omega⟩
    rw [realFrom_follow hname hnode hnext]
    · exact ih ihdepth hnodup hlinks hactive hfuel
    · refine ihdepth i (by omega) hleast hnodup' hlinks' ?_ (by rw [List.length_cons]; omega)
      intro a ha j hj
      rcases List.mem_cons.mp ha with rfl | ha
      · exact hmin j hj
      · exact hactive a ha j (by omega)

/-- Where links lead in a circle, what is left of the names holds no `/` either. -/
theorem slashless_of_looped {fuel : Nat} {active : List Location} {l : Location}
    {names ps : List String} (hnames : Slashless names) (hl : d.IsReal l)
    (h : d.realFrom fuel active l names = .looped ps) : Slashless ps := by
  have hover {jump : Location → Location → List String → Real}
      (hfound : ∀ {next l names k}, Slashless names → jump next l names = .found k →
        Leads d l names k)
      (hlooped : ∀ {next l names ps}, Slashless next → d.IsReal l → Slashless names →
        jump next l names = .looped ps → Slashless ps)
      {l : Location} {names : List String} (hnames : Slashless names) (hl : d.IsReal l) :
      ∀ {ps}, d.realOver jump l names = .looped ps → Slashless ps := by
    fun_induction realOver d jump l names with
    | case1 | case4 | case7 => exact nofun
    | case2 l name rest _ ih => exact fun h => ih hnames.tail hl h
    | case3 l rest _ ih => exact fun h => ih hnames.tail hl.parent h
    | case5 l name rest hstay hup hnul next target hnode m htarget ih =>
      have hm := (hfound (slashless_pieces target) htarget).isReal (hl.targetStart _)
      intro ps h
      exact ih hnames.tail hm h
    | case6 l name rest hstay hup hnul next target hnode qs htarget =>
      intro ps h
      have hnext : Slashless (l ++ [name]) :=
        hl.proper.slashless.append fun n hn => List.mem_singleton.mp hn ▸ hnames.head
      have hqs := hlooped hnext (hl.targetStart _) (slashless_pieces target) htarget
      exact Real.looped.inj h ▸ hqs.goOn hnames.tail
    | case8 l name rest hstay hup hnul next hnode ih =>
      have hname := isName_of_tests hstay hup hnames.head hnul
      intro ps h
      exact ih hnames.tail ⟨hl.proper.concat hname, hl.unlinked.concat hnode⟩ h
  induction fuel generalizing active l names ps with
  | zero =>
    rw [realFrom_zero] at h
    exact hover (fun _ h => by cases h) (fun hnext _ _ h => Real.looped.inj h ▸ hnext) hnames hl h
  | succ fuel ih =>
    rw [realFrom_succ] at h
    refine hover (fun hnames h => ?_) (fun hnext hl hnames h => ?_) hnames hl h
    · split at h
      · cases h
      · exact .of_realFrom hnames h
    · split at h
      · exact Real.looped.inj h ▸ hnext
      · exact ih hnames hl h

/-- **Soundness and completeness.** Following the links of names from the top finds a place exactly when
the names lead there. -/
theorem real_iff {names : List String} (hnames : Slashless names) {k : Location} :
    d.real names = .found k ↔ Leads d [] names k := by
  constructor
  · exact Leads.of_realFrom hnames
  · rintro ⟨depth, h⟩
    exact h.realFrom List.nodup_nil nofun nofun (by simp)

/-- The real location of a path is proper, unless two separators stand in front of it. -/
theorem proper_of_resolve {names : List String} (hnames : Slashless names) {l : Location}
    (h : d.resolve names = .ok l) (hhead : l.head? ≠ some "") : IsProper l := by
  rw [resolve] at h
  cases hreal : d.real names with
  | found k =>
    rw [hreal] at h
    cases h
    exact (((real_iff hnames).mp hreal).isReal (isReal_nil d)).proper
  | nul => simp [hreal] at h
  | looped ps =>
    simp only [hreal] at h
    split at h
    · cases h
    · rename_i hnul
      have hl : ofPieces ps = l := by
        split at h
        · cases h
        · exact Except.ok.inj h
      subst hl
      exact isProper_ofPieces (slashless_of_looped hnames (isReal_nil d) hreal)
        (by simpa using hnul) hhead

/-! ## Disks without links -/

/-- Without links, names lead to themselves, or to a place that takes less. -/
theorem Leads.eq_or_size_lt (hlinks : ∀ l target, d.at? l ≠ some (.link target)) {l k : Location}
    {names : List String} (h : Leads d l names k) :
    k = l ++ names ∨ size k < size l + size names := by
  obtain ⟨depth, h⟩ := h
  induction h with
  | nil => simp
  | stay _ _ ih =>
    refine .inr ?_
    rcases ih with rfl | ih
    · simp only [size_append, size_cons]; omega
    · rw [size_cons]; omega
  | @up _ l _ _ _ ih =>
    -- the two dots alone make up for what is gained above
    refine .inr ?_
    have hparent := size_parent_le l
    rcases ih with rfl | ih
    · rw [size_append, size_cons]; omega
    · rw [size_cons]; omega
  | enter _ _ _ ih =>
    rcases ih with rfl | ih
    · exact .inl (by simp)
    · refine .inr ?_
      simp only [size_append, size_cons, size_nil] at ih ⊢
      omega
  | follow _ hnode _ _ _ _ => exact absurd hnode (hlinks _ _)

/-- Without links, the real location of a path is where its names lead. -/
theorem leads_of_resolve (hlinks : ∀ l target, d.at? l ≠ some (.link target)) {names : List String}
    (hnames : Slashless names) {l : Location} (h : d.resolve names = .ok l) : Leads d [] names l := by
  have hover (jump : Location → Location → List String → Real) (l : Location) (names ps) :
      d.realOver jump l names ≠ .looped ps := by
    fun_induction realOver d jump l names with
    | case1 | case4 => nofun
    | case2 | case3 | case8 => assumption
    | case5 l name rest _ _ _ next target hnode => exact absurd hnode (hlinks _ _)
    | case6 l name rest _ _ _ next target hnode => exact absurd hnode (hlinks _ _)
    | case7 l name rest _ _ _ next target hnode => exact absurd hnode (hlinks _ _)
  rw [resolve] at h
  cases hreal : d.real names with
  | found k =>
    rw [hreal] at h
    cases h
    exact (real_iff hnames).mp hreal
  | nul => simp [hreal] at h
  | looped ps =>
    rw [real, realFrom_succ] at hreal
    exact absurd hreal (hover _ _ _ _)

end FileDepot.Disk
