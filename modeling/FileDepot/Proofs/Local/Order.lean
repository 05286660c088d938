import FileDepot.Proofs.Disk.Found
import FileDepot.Proofs.Local.Listing
import FileDepot.Proofs.Path.Order
import FileDepot.Proofs.Text.Order

/-!
# The order of a listing on disk

Locations are sorted name by name, so what a store on disk lists is in strictly increasing order of the
names of its paths (`resolve_increasing`), links or not. The paths themselves, as texts, are in order
exactly when no two of them are crossed (`paths_increasing_iff`).
-/

namespace FileDepot.Local

open Disk Location FileDepot.Path

variable {s : Local} {d : Disk}

/-- Locations are compared name by name. -/
theorem placeOrder_iff (l k : Location) : placeOrder l k = true ↔ ¬ k < l := by
  induction l generalizing k with
  | nil => simp [placeOrder]
  | cons a l ih =>
    cases k with
    | nil => simp [placeOrder]
    | cons b k =>
      rw [placeOrder, List.cons_lt_cons_iff]
      by_cases h : a = b
      · subst h
        simpa [String.lt_irrefl] using ih k
      · simp [h, Ne.symm h, textOrder_iff]

/-! ## Listing in order -/

/-- Where each element kept by a filter becomes a fixed value, those kept are told in their order. -/
theorem filterMapM_sublist {ε α β : Type} {f : α → Except ε (Option β)} {g : α → β}
    (hf : ∀ a b, f a = .ok (some b) → b = g a) :
    ∀ {l : List α} {r : List β}, l.filterMapM f = .ok r →
      ∃ kept, List.Sublist kept l ∧ r = kept.map g := by
  intro l
  induction l with
  | nil =>
    intro r h
    cases h
    exact ⟨[], .slnil, rfl⟩
  | cons a l ih =>
    intro r h
    rw [List.filterMapM_cons] at h
    obtain ⟨o, ho, h⟩ := Outcome.bind_eq_ok h
    cases o with
    | none =>
      obtain ⟨kept, hkept, rfl⟩ := ih h
      exact ⟨kept, hkept.cons a, rfl⟩
    | some b =>
      obtain ⟨rest, hrest, h⟩ := Outcome.bind_eq_ok h
      cases h
      obtain ⟨kept, hkept, rfl⟩ := ih hrest
      exact ⟨a :: kept, hkept.cons_cons a, by rw [hf a b ho, List.map_cons]⟩

/-- The files among different locations are told in the order of the locations. -/
theorem filesAmong_increasing {places : List Location} (hnodup : places.Nodup)
    {found : List LocalFile} (h : s.filesAmong d places = .ok found) :
    ∃ kept : List Location, kept.Pairwise (· < ·) ∧ (∀ l ∈ kept, l ∈ places) ∧
      found = kept.map s.fileAt := by
  obtain ⟨kept, hkept, rfl⟩ := filterMapM_sublist (g := s.fileAt) (fun l f hf => by
    split at hf
    · exact (Option.some.inj (Except.ok.inj hf)).symm
    · cases hf
    · cases hf) h
  refine ⟨kept, ?_, fun l hl => List.mem_mergeSort.mp (hkept.subset hl), rfl⟩
  exact (increasing_mergeSort_of placeOrder_iff hnodup).sublist hkept

/-- The store below a directory `root`. -/
def rootStore : Local := ⟨["root"], ⟨0⟩, "xxxxxxxx"⟩

/-- What a pattern stands for is one file at most, or files behind a location below the root in the order
of their names. -/
theorem resolve_cases (hroot : IsProper s.root) {text : String} {found : List LocalFile}
    (h : s.resolve d text = .ok found) :
    found.length ≤ 1 ∨ ∃ (l : Location) (kept : List Location), IsProper l ∧ s.root <+: l ∧
      kept.Pairwise (· < ·) ∧
      (∀ k ∈ kept, k ∈ d.listing (isDeep (splitPattern (normalize text)).2) l) ∧
      found = kept.map s.fileAt := by
  obtain ⟨l, hl, h⟩ := Outcome.bind_eq_ok h
  obtain ⟨hproper, hin⟩ := realPlace_spec hroot hl
  have hnone {r : List LocalFile} (hr : (pure [] : Except Fault _) = .ok r) : r.length ≤ 1 := by
    cases hr
    exact Nat.zero_le 1
  split at h
  · rename_i hglob
    obtain ⟨isFile, -, h⟩ := Outcome.bind_eq_ok h
    split at h
    · refine .inl ?_
      obtain rfl := Except.ok.inj h
      simp
    · obtain ⟨isDirectory, -, h⟩ := Outcome.bind_eq_ok h
      split at h
      · obtain ⟨kept, hkept, hmem, rfl⟩ := filesAmong_increasing (nodup_listing ..) h
        have hempty : (splitPattern (normalize text)).2 = "" := String.isEmpty_iff.mp hglob
        have hshallow : isDeep (splitPattern (normalize text)).2 = false := by
          rw [hempty]
          decide +kernel
        exact .inr ⟨l, kept, hproper, hin, hkept, hshallow ▸ hmem, rfl⟩
      · exact .inl (hnone h)
  · obtain ⟨isDirectory, -, h⟩ := Outcome.bind_eq_ok h
    split at h
    · obtain ⟨kept, hkept, hmem, rfl⟩ := filesAmong_increasing ((nodup_listing ..).filter _) h
      exact .inr ⟨l, kept, hproper, hin, hkept, fun k hk => (List.mem_filter.mp (hmem k hk)).1, rfl⟩
    · exact .inl (hnone h)

/-- The names of a path that is listed are those behind the root. -/
theorem parts_fileAt {names : List String} (hne : names ≠ []) (hnames : IsProper names) :
    parts (s.fileAt (s.root ++ names)).path = names := by
  rw [fileAt_append hne]
  exact parts_join hne fun n hn => (hnames n hn).no_slash

/-- Where a listing holds more than one file, it is told by names behind one base: in their order, and by
one name each unless the pattern reaches below the directory itself. -/
theorem resolve_names (htree : d.IsTree) (hroot : IsProper s.root) {text : String}
    {found : List LocalFile} (h : s.resolve d text = .ok found) :
    found.length ≤ 1 ∨ (found.map fun f => parts f.path).Pairwise (· < ·) ∧
      ∃ base, ∀ f ∈ found, ∃ rest, parts f.path = base ++ rest ∧
        (isDeep (splitPattern (normalize text)).2 = true ∨ ∃ n, rest = [n]) := by
  refine (resolve_cases hroot h).imp_right ?_
  rintro ⟨l, kept, hproper, ⟨base, rfl⟩, hkept, hmem, rfl⟩
  have hnames : ∀ k ∈ kept, ∃ rest, k = s.root ++ (base ++ rest) ∧
      parts (s.fileAt k).path = base ++ rest ∧
      (isDeep (splitPattern (normalize text)).2 = true ∨ ∃ n, rest = [n]) := by
    intro k hk
    obtain ⟨rest, hne, hdeep, rfl⟩ := exists_of_mem_listing (hmem k hk)
    obtain ⟨rest', hrest, heq⟩ := mem_listing htree (hmem _ hk)
    obtain rfl := List.append_cancel_left heq
    rw [List.append_assoc]
    refine ⟨rest, rfl, parts_fileAt (by simp [hne]) fun n hn => ?_, hdeep⟩
    rcases List.mem_append.mp hn with hn | hn
    · exact hproper n (List.mem_append_right _ hn)
    · exact hrest n hn
  refine ⟨?_, base, ?_⟩
  · rw [List.map_map, List.pairwise_map]
    refine hkept.imp_of_mem fun {k m} hk hm hkm => ?_
    obtain ⟨rest, rfl, hrest, -⟩ := hnames k hk
    obtain ⟨more, rfl, hmore, -⟩ := hnames m hm
    rw [Function.comp_apply, Function.comp_apply, hrest, hmore]
    exact (append_lt_append_iff _).mp hkm
  · rw [List.forall_mem_map]
    intro k hk
    obtain ⟨rest, -, hrest, hdeep⟩ := hnames k hk
    exact ⟨rest, hrest, hdeep⟩

/-- A listing with one file at most is in any order. -/
theorem pairwise_of_length_le {α : Type} {R : α → α → Prop} {l : List α} (h : l.length ≤ 1) :
    l.Pairwise R :=
  match l, h with
  | [], _ => .nil
  | [_], _ => List.pairwise_singleton ..

/-- **Order of names.** What a store on disk lists is in strictly increasing order of the names of its
paths. -/
theorem resolve_increasing (htree : d.IsTree) (hroot : IsProper s.root) {text : String}
    {found : List LocalFile} (h : s.resolve d text = .ok found) :
    (found.map fun f => parts f.path).Pairwise (· < ·) := by
  rcases resolve_names htree hroot h with hsingle | ⟨hnames, -⟩
  · exact pairwise_of_length_le (by rwa [List.length_map])
  · exact hnames

/-- **Order of paths.** What a store on disk lists is in strictly increasing order of its paths as texts
exactly when no two of them are crossed. -/
theorem paths_increasing_iff (htree : d.IsTree) (hroot : IsProper s.root) {text : String}
    {found : List LocalFile} (h : s.resolve d text = .ok found) :
    (found.map (·.path)).Pairwise (· < ·) ↔
      ∀ f ∈ found, ∀ g ∈ found, ¬ Crossed (parts f.path) (parts g.path) := by
  have hnames : ((found.map (·.path)).map parts).Pairwise (· < ·) := by
    rw [List.map_map]
    exact resolve_increasing htree hroot h
  rw [increasing_iff_not_crossed hnames]
  simp only [List.forall_mem_map]

/-- What a pattern finds in one directory is in order. -/
theorem paths_increasing_of_shallow (htree : d.IsTree) (hroot : IsProper s.root) {text : String}
    {found : List LocalFile} (h : s.resolve d text = .ok found)
    (hshallow : isDeep (splitPattern (normalize text)).2 = false) :
    (found.map (·.path)).Pairwise (· < ·) := by
  rcases resolve_names htree hroot h with hsingle | ⟨-, base, hbase⟩
  · exact pairwise_of_length_le (by rwa [List.length_map])
  · have hlast : ∀ f ∈ found, ∃ n, parts f.path = base ++ [n] := by
      intro f hf
      obtain ⟨rest, hrest, hdeep | ⟨n, rfl⟩⟩ := hbase f hf
      · simp [hshallow] at hdeep
      · exact ⟨n, hrest⟩
    refine (paths_increasing_iff htree hroot h).mpr fun f hf g hg => ?_
    obtain ⟨n, hn⟩ := hlast f hf
    obtain ⟨m, hm⟩ := hlast g hg
    rw [hn, hm]
    exact not_crossed_concat base n m

end FileDepot.Local
