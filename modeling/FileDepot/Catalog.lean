/-!
# Catalogs

A catalog holds one value for each of its keys. Its operations are described by `get?`, the value at a
key: `get?_insert` and `get?_erase` say that a change at one key leaves every other key alone.
-/

namespace FileDepot

/-- A finite map, as a list of keys with their values in which no key occurs twice. -/
structure Catalog (κ ν : Type) where
  /-- the keys with their values -/
  entries : List (κ × ν)
  /-- no key occurs twice -/
  nodup : (entries.map Prod.fst).Nodup

namespace Catalog

variable {κ ν : Type} [DecidableEq κ]

/-- The catalog without keys. -/
def empty : Catalog κ ν := ⟨[], List.nodup_nil⟩

instance : Inhabited (Catalog κ ν) := ⟨empty⟩

/-- The keys. -/
def keys (c : Catalog κ ν) : List κ := c.entries.map Prod.fst

/-- The value at a key. -/
def get? (c : Catalog κ ν) (k : κ) : Option ν := c.entries.lookup k

/-- Whether a key has a value. -/
def contains (c : Catalog κ ν) (k : κ) : Bool := (c.get? k).isSome

/-- The entries without the one at a key. -/
def without (k : κ) (entries : List (κ × ν)) : List (κ × ν) :=
  entries.filter fun e => e.1 ≠ k

theorem nodup_without {entries : List (κ × ν)} (h : (entries.map Prod.fst).Nodup) (k : κ) :
    ((without k entries).map Prod.fst).Nodup :=
  (List.Sublist.map Prod.fst List.filter_sublist).nodup h

theorem not_mem_without (entries : List (κ × ν)) (k : κ) :
    k ∉ (without k entries).map Prod.fst := by
  simp [without]

/-- Forget the value at a key. -/
def erase (c : Catalog κ ν) (k : κ) : Catalog κ ν :=
  ⟨without k c.entries, nodup_without c.nodup k⟩

/-- Set the value at a key. -/
def insert (c : Catalog κ ν) (k : κ) (v : ν) : Catalog κ ν :=
  ⟨(k, v) :: without k c.entries,
    List.nodup_cons.mpr ⟨not_mem_without c.entries k, nodup_without c.nodup k⟩⟩

/-! ## The value at a key -/

theorem lookup_without_self (entries : List (κ × ν)) (k : κ) :
    (without k entries).lookup k = none := by
  rw [List.lookup_eq_none_iff]
  intro e he
  have := (List.mem_filter.mp he).2
  simp at this
  simpa using fun h => this h.symm

theorem lookup_without_ne (entries : List (κ × ν)) {k q : κ} (h : q ≠ k) :
    (without k entries).lookup q = entries.lookup q := by
  induction entries with
  | nil => rfl
  | cons e rest ih =>
    obtain ⟨a, v⟩ := e
    by_cases ha : a = k
    · subst ha
      have hq : (q == a) = false := by simpa using h
      simp only [without, List.filter_cons, ne_eq, not_true_eq_false, decide_false,
        Bool.false_eq_true, if_false, List.lookup_cons, hq]
      exact ih
    · simp only [without, List.filter_cons, ne_eq, ha, not_false_eq_true, decide_true, if_true,
        List.lookup_cons]
      cases q == a
      · exact ih
      · rfl

@[simp] theorem get?_empty (k : κ) : (empty : Catalog κ ν).get? k = none := rfl

/-- Setting the value at one key leaves every other key alone. -/
theorem get?_insert (c : Catalog κ ν) (k q : κ) (v : ν) :
    (c.insert k v).get? q = if q = k then some v else c.get? q := by
  by_cases h : q = k
  · subst h; simp [get?, insert]
  · have hq : (q == k) = false := by simpa using h
    simp [get?, insert, List.lookup_cons, hq, h, lookup_without_ne c.entries h]

/-- Forgetting the value at one key leaves every other key alone. -/
theorem get?_erase (c : Catalog κ ν) (k q : κ) :
    (c.erase k).get? q = if q = k then none else c.get? q := by
  by_cases h : q = k
  · subst h; simp [get?, erase, lookup_without_self]
  · simp [get?, erase, h, lookup_without_ne c.entries h]

/-- The keys are those that have a value. -/
theorem mem_keys {c : Catalog κ ν} {k : κ} : k ∈ c.keys ↔ c.contains k = true := by
  simp [keys, contains, get?]

end Catalog

end FileDepot
