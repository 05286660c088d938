import FileDepot.Disk.Basic
import FileDepot.Proofs.Path.Segments

/-!
# Names

The names that can stand in a directory are those with a character, other than `.` and `..`, that hold
neither a `/` nor a NUL character. A location of such names is read back from its written form
(`names_text`), and so is a path that joins them (`names_join`).
-/

namespace FileDepot.Location

open FileDepot.Path

/-- A name that can stand in a directory. -/
structure IsName (n : String) : Prop where
  /-- it is not empty -/
  ne_empty : n ≠ ""
  /-- it is not the mark for the directory itself -/
  ne_dot : n ≠ "."
  /-- it is not the mark for the directory above -/
  ne_up : n ≠ ".."
  /-- it holds no `/` -/
  no_slash : '/' ∉ n.toList
  /-- it holds no NUL character -/
  no_nul : '\x00' ∉ n.toList

theorem isName_iff {n : String} :
    IsName n ↔ n ≠ "" ∧ n ≠ "." ∧ n ≠ ".." ∧ '/' ∉ n.toList ∧ '\x00' ∉ n.toList :=
  ⟨fun h => ⟨h.ne_empty, h.ne_dot, h.ne_up, h.no_slash, h.no_nul⟩,
    fun ⟨hempty, hdot, hup, hslash, hnul⟩ => ⟨hempty, hdot, hup, hslash, hnul⟩⟩

instance (n : String) : Decidable (IsName n) := decidable_of_iff' _ isName_iff

/-- A location of names that can stand in a directory. -/
def IsProper (l : Location) : Prop := ∀ n ∈ l, IsName n

/-- Names without a `/`. -/
def Slashless (names : List String) : Prop := ∀ n ∈ names, '/' ∉ n.toList

theorem Slashless.head {n : String} {rest : List String} (h : Slashless (n :: rest)) :
    '/' ∉ n.toList :=
  h n (List.mem_cons_self ..)

theorem Slashless.tail {n : String} {rest : List String} (h : Slashless (n :: rest)) :
    Slashless rest :=
  fun m hm => h m (List.mem_cons_of_mem _ hm)

theorem Slashless.append {names more : List String} (h : Slashless names) (hmore : Slashless more) :
    Slashless (names ++ more) := by
  intro n hn
  rcases List.mem_append.mp hn with hn | hn
  · exact h n hn
  · exact hmore n hn

theorem Slashless.goOn {pieces rest : List String} (h : Slashless pieces) (hrest : Slashless rest) :
    Slashless (goOn pieces rest) := by
  unfold Location.goOn
  split
  · exact hrest
  · exact h.append hrest

theorem isProper_nil : IsProper [] := nofun

theorem IsProper.slashless {l : Location} (h : IsProper l) : Slashless l := fun n hn => (h n hn).no_slash

theorem IsProper.concat {l : Location} {n : String} (h : IsProper l) (hn : IsName n) :
    IsProper (l ++ [n]) := by
  intro x hx
  rcases List.mem_append.mp hx with hx | hx
  · exact h x hx
  · exact List.mem_singleton.mp hx ▸ hn

theorem IsProper.parent {l : Location} (h : IsProper l) : IsProper l.parent :=
  fun n hn => h n (List.dropLast_subset l hn)

theorem parent_append_name {l : Location} (h : l ≠ []) : l.parent ++ [l.name] = l := by
  rw [parent, name, List.getLast?_eq_some_getLast h, Option.getD_some,
    List.dropLast_append_getLast h]

@[simp] theorem parent_concat (l : Location) (n : String) : parent (l ++ [n]) = l := by
  simp [parent]

@[simp] theorem name_concat (l : Location) (n : String) : name (l ++ [n]) = n := by
  simp [name]

theorem IsProper.name {l : Location} (h : IsProper l) (hne : l ≠ []) : IsName l.name := by
  refine h _ ?_
  rw [Location.name, List.getLast?_eq_some_getLast hne, Option.getD_some]
  exact List.getLast_mem hne

/-- A location is not on the way to its own directory. -/
theorem not_concat_isPrefix (l : Location) (n : String) : ¬ l ++ [n] <+: l := fun h => by
  have hlength := h.length_le
  rw [List.length_append, List.length_singleton] at hlength
  omega

/-- What is on the way to a location, other than itself, is on the way to its directory. -/
theorem prefix_iff_parent {l k : Location} (hl : l ≠ []) (hk : k ≠ l) : k <+: l ↔ k <+: l.parent := by
  rw [← parent_append_name hl, List.prefix_concat_iff, parent_append_name hl, or_iff_right hk]

/-! ## Reading names -/

theorem mem_names {p n : String} (h : n ∈ names p) : n ≠ "" ∧ n ≠ "." ∧ '/' ∉ n.toList := by
  obtain ⟨q, hq, rfl⟩ := List.mem_map.mp h
  obtain ⟨hmem, hcounts⟩ := List.mem_filter.mp hq
  simp only [ne_eq, Bool.and_eq_true, decide_eq_true_eq] at hcounts
  refine ⟨fun hempty => hcounts.1 ?_, fun hdot => hcounts.2 ?_, ?_⟩
  · simpa using congrArg String.toList hempty
  · simpa using congrArg String.toList hdot
  · simpa using slash_not_mem_of_mem_pieces hmem

/-- A name holds characters of the path only. -/
theorem mem_of_mem_names {p n : String} (h : n ∈ names p) {c : Char} (hc : c ∈ n.toList) :
    c ∈ p.toList := by
  obtain ⟨q, hq, rfl⟩ := List.mem_map.mp h
  exact mem_of_mem_pieces (List.mem_filter.mp hq).1 (by simpa using hc)

theorem slashless_names (p : String) : Slashless (names p) := fun _ hn => (mem_names hn).2.2

theorem slashless_pieces (p : String) : Slashless (pieces p) := by
  intro n hn
  obtain ⟨q, hq, rfl⟩ := List.mem_map.mp hn
  simpa using slash_not_mem_of_mem_pieces hq

/-- The names of joined names are those that were joined. -/
theorem names_join {l : List String} (h : IsProper l) : names (join l) = l := by
  have hcounts : ∀ q ∈ l.map String.toList, (decide (q ≠ []) && decide (q ≠ ['.'])) = true := by
    intro q hq
    obtain ⟨n, hn, rfl⟩ := List.mem_map.mp hq
    have hempty : n.toList ≠ [] := by simpa using (h n hn).ne_empty
    have hdot : n.toList ≠ ['.'] := fun hdot =>
      (h n hn).ne_dot (String.toList_injective (by simpa using hdot))
    simp [hempty, hdot]
  by_cases hne : l = []
  · subst hne
    rfl
  · rw [names, toList_join, pieces_intercalate (by simpa using hne)
      (by simpa using fun n hn => (h n hn).no_slash), List.filter_eq_self.mpr hcounts, List.map_map]
    simp

/-- The names in the written form of a location are its own. -/
theorem names_text {l : Location} (h : IsProper l) : names l.text = l := by
  have hpieces : Path.pieces l.text.toList = [] :: Path.pieces (join l).toList := by
    simp [text, pieces_slash]
  rw [names, hpieces, List.filter_cons_of_neg (by simp)]
  exact names_join h

@[simp] theorem isAbsolute_text (l : Location) : isAbsolute l.text = true := by
  simp [isAbsolute, text]

/-- A path of joined names does not start at the top. -/
theorem isAbsolute_join {l : List String} (h : IsProper l) : isAbsolute (join l) = false := by
  rw [isAbsolute, decide_eq_false_iff_not]
  intro hslash
  cases l with
  | nil => simp at hslash
  | cons n rest =>
    have hn := h n (List.mem_cons_self ..)
    rw [head?_join_cons hn.ne_empty] at hslash
    exact hn.no_slash (List.mem_of_mem_head? hslash)

/-! ## Sizes -/

/-- How many characters names take, with one more for each. -/
def size (names : List String) : Nat := extent (names.map String.toList)

@[simp] theorem size_nil : size [] = 0 := rfl

@[simp] theorem size_cons (n : String) (rest : List String) :
    size (n :: rest) = n.toList.length + 1 + size rest := by
  simp [size]

@[simp] theorem size_append (names more : List String) :
    size (names ++ more) = size names + size more := by
  simp [size]

theorem size_parent_le (l : Location) : size l.parent ≤ size l := by
  by_cases hl : l = []
  · simp [hl, parent]
  · rw [← parent_append_name hl, parent_concat, size_append]
    exact Nat.le_add_right ..

/-- Joined names are one shorter than their size. -/
theorem size_eq_length_join {l : List String} (hl : l ≠ []) : size l = (join l).toList.length + 1 := by
  have hpos : 0 < size l := by
    obtain ⟨n, rest, rfl⟩ := List.exists_cons_of_ne_nil hl
    rw [size_cons]
    omega
  rw [toList_join, length_intercalate]
  exact (Nat.sub_add_cancel hpos).symm

/-- The names of a path take no more than the path and one, and no more than the path where it starts at
the top. -/
theorem size_names_le (p : String) :
    size (names p) ≤ p.toList.length + if isAbsolute p then 0 else 1 := by
  have hsize (ps : List (List Char)) :
      size ((ps.filter fun q => q ≠ [] && q ≠ ['.']).map String.ofList) ≤ extent ps := by
    have := extent_le (ps.filter_sublist (p := fun q => q ≠ [] && q ≠ ['.']))
    simpa [size, Function.comp_def] using this
  by_cases hslash : isAbsolute p = true
  · obtain ⟨rest, hrest⟩ := List.head?_eq_some_iff.mp (of_decide_eq_true hslash)
    rw [if_pos hslash, names, hrest, pieces_slash, List.filter_cons_of_neg (by simp)]
    have := hsize (Path.pieces rest)
    rwa [extent_pieces] at this
  · rw [if_neg hslash, names, ← extent_pieces]
    exact hsize _

/-! ## Names alone -/

/-- What is left of names by themselves are names that were there, and none leads upwards. -/
theorem mem_lexical {names : List String} {n : String} (h : n ∈ lexical names) :
    n ∈ names ∧ n ≠ ".." := by
  have hfold : ∀ (names : List String) (l : Location) (n : String),
      n ∈ names.foldl (fun l n => if n = ".." then l.dropLast else l ++ [n]) l →
      n ∈ l ∨ (n ∈ names ∧ n ≠ "..") := by
    intro names
    induction names with
    | nil => exact fun l n hn => .inl hn
    | cons a rest ih =>
      intro l n hn
      rw [List.foldl_cons] at hn
      rcases ih _ n hn with hl | ⟨hrest, hup⟩
      · by_cases ha : a = ".."
        · rw [if_pos ha] at hl
          exact .inl (List.dropLast_subset l hl)
        · rw [if_neg ha, List.mem_append, List.mem_singleton] at hl
          rcases hl with hl | rfl
          · exact .inl hl
          · exact .inr ⟨List.mem_cons_self .., ha⟩
      · exact .inr ⟨List.mem_cons_of_mem _ hrest, hup⟩
  rcases hfold names [] n h with hnil | hmem
  · simp at hnil
  · exact hmem

theorem ofPieces_cases (ps : List String) :
    ofPieces ps = lexical (ps.filter fun p => p ≠ "" && p ≠ ".") ∨
      ofPieces ps = "" :: lexical (ps.filter fun p => p ≠ "" && p ≠ ".") := by
  unfold ofPieces
  split
  · exact .inl rfl
  · exact .inr rfl
  · exact .inl rfl

/-- The location of a path by its pieces alone is proper, unless two separators stand in front. -/
theorem isProper_ofPieces {ps : List String} (hps : Slashless ps)
    (hnul : (ofPieces ps).any (·.toList.contains '\x00') = false) (hhead : (ofPieces ps).head? ≠ some "") :
    IsProper (ofPieces ps) := by
  have hlexical : ∀ n ∈ lexical (ps.filter fun p => p ≠ "" && p ≠ "."),
      n ≠ "" ∧ n ≠ "." ∧ n ≠ ".." ∧ '/' ∉ n.toList := by
    intro n hn
    obtain ⟨hmem, hup⟩ := mem_lexical hn
    obtain ⟨hps', hcounts⟩ := List.mem_filter.mp hmem
    simp only [ne_eq, Bool.and_eq_true, decide_eq_true_eq] at hcounts
    exact ⟨hcounts.1, hcounts.2, hup, hps n hps'⟩
  have hof : ofPieces ps = lexical (ps.filter fun p => p ≠ "" && p ≠ ".") := by
    rcases ofPieces_cases ps with h | h
    · exact h
    · simp [h] at hhead
  intro n hn
  have hn' := hlexical n (hof ▸ hn)
  rw [List.any_eq_false] at hnul
  exact ⟨hn'.1, hn'.2.1, hn'.2.2.1, hn'.2.2.2, by simpa using hnul n hn⟩

end FileDepot.Location
