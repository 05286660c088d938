import FileDepot.Proofs.Columns
import FileDepot.Proofs.TextFiles

/-!
# Cut texts

The tool that lists text shows each text whole, or cut and marked where it is longer than a limit. What it does
beside that is what it does without a limit (`Tools.wholeTexts`), fault for fault and world for world.

A limit is meant as the number of characters that are shown at most (`Row.limited`). A limit below zero is read
as a place counted from the end of the text instead, so that all but as many characters are shown.

* **text** — `Row.truncate_eq_limited_iff`, `Row.length_shownPart_le_iff`, `Row.shownPart_prefix_iff`: when a cut
  text is what the limit asks for, keeps to it, and goes on where the limit is raised;
* **row** — `Row.text_exec`: a row is the whole row, cut;
* **tool** — `Tools.texts_cut`: what the tool shows, and when it is what its limit asks for.
-/

namespace FileDepot

open Encoding

variable {σ η : Type}

/-! ## Texts -/

namespace Row

variable {s : List Point} {n m : Int}

/-- How many characters of a text are shown. -/
def shownLength (s : List Point) (n : Int) : Nat :=
  if 0 ≤ n then min n.toNat s.length else s.length - n.natAbs

/-- What is shown of a text. -/
def shownPart (s : List Point) (n : Int) : List Point := s.take (shownLength s n)

/-- A text as a limit asks for it: whole if it is no longer, and else as many characters of it as may be shown,
with a mark. -/
def limited (s : List Point) (n : Int) : List Point :=
  if s.length ≤ n then s else s.take n.toNat ++ truncatedMark

theorem length_shownPart (s : List Point) (n : Int) : (shownPart s n).length = shownLength s n := by
  rw [shownPart, List.length_take, shownLength]
  split <;> omega

/-- A cut text is what is shown of it, with a mark if it is longer than the limit. -/
theorem truncate_eq (s : List Point) (n : Int) :
    truncate s n = shownPart s n ++ if n < s.length then truncatedMark else [] := by
  rw [truncate, shownPart, shownLength, firstPoints]
  by_cases hlong : n < s.length
  · rw [if_pos hlong, if_pos hlong]
    by_cases hneg : 0 ≤ n
    · rw [if_pos hneg, if_pos hneg, Nat.min_eq_left (by omega)]
    · rw [if_neg hneg, if_neg hneg]
  · have hneg : 0 ≤ n := by omega
    rw [if_neg hlong, if_neg hlong, if_pos hneg, Nat.min_eq_right (by omega), List.take_length,
      List.append_nil]

/-- What is shown keeps to the limit unless the limit is below zero and the text reaches beyond it. -/
theorem length_shownPart_le_iff : (shownPart s n).length ≤ n.toNat ↔ 0 ≤ n ∨ s.length ≤ n.natAbs := by
  rw [length_shownPart, shownLength]
  split <;> omega

/-- **Text.** A cut text is what the limit asks for under the same condition. -/
theorem truncate_eq_limited_iff : truncate s n = limited s n ↔ 0 ≤ n ∨ s.length ≤ n.natAbs := by
  by_cases hshort : s.length ≤ n
  · have hneg : 0 ≤ n := by omega
    rw [truncate, limited, if_neg (by omega), if_pos hshort]
    exact iff_of_true rfl (.inl hneg)
  · rw [truncate_eq, limited, if_pos (by omega), if_neg hshort, List.append_left_inj,
      ← length_shownPart_le_iff, length_shownPart, shownPart]
    constructor
    · intro h
      have hlength := congrArg List.length h
      rw [← shownPart, length_shownPart, List.length_take] at hlength
      omega
    · intro h
      have hneg : 0 ≤ n ∨ s.length ≤ n.natAbs :=
        length_shownPart_le_iff.mp (by rwa [length_shownPart])
      congr 1
      rw [shownLength] at h ⊢
      split <;> omega

/-- More is shown where the limit is raised, unless it is raised from below zero too little for the text. -/
theorem shownPart_prefix_iff (h : n ≤ m) :
    shownPart s n <+: shownPart s m ↔ 0 ≤ n ∨ m < 0 ∨ s.length ≤ n.natAbs + m.toNat := by
  have hle : shownPart s n <+: shownPart s m ↔ shownLength s n ≤ shownLength s m := by
    constructor
    · intro hprefix
      have hlength := hprefix.length_le
      rwa [length_shownPart, length_shownPart] at hlength
    · exact List.take_prefix_take_left
  rw [hle, shownLength, shownLength]
  split <;> split <;> omega

end Row

/-! ## Contents as text -/

/-- What is read from text is text. -/
theorem Stream.readAll_text {r : TextReader} {medium : Medium} {content : Content}
    (h : readAll ⟨.text r, medium, false⟩ = .ok content) : ∃ s, content = .text s := by
  rw [readAll, read] at h
  split at h
  · cases h
  · simp only [Bool.false_eq_true, if_false] at h
    split at h
    · cases h
    · obtain ⟨s, -, hs⟩ := Outcome.map_eq_ok h
      exact ⟨s, hs.symm⟩

/-- Contents that have an encoding are text. -/
theorem Lob.read_text {l : Lob σ} (hcharset : l.charset.isSome = true) {w w' : World σ} {content : Content}
    (h : l.read.exec w = (.ok content, w')) : ∃ s, content = .text s := by
  obtain ⟨charset, hcharset⟩ := Option.isSome_iff_exists.mp hcharset
  simp only [read, openStream, hcharset, Op.bind_exec] at h
  rcases htake : (l.takeText charset).exec w with ⟨f | r, w₁⟩
  · rw [htake] at h
    cases h
  · simp only [htake, Op.pure_exec, Op.ofExcept_exec] at h
    exact Stream.readAll_text (Prod.mk.inj h).1

namespace Row

variable {r : Record σ} {columns : List String} {n : Int} {w w' : World σ} {row : Row} {x y : Cell}

/-- Contents as they are shown if nothing is cut. -/
def wholeCell : Content → Cell
  | .text s => .text s
  | .bytes data => .text (Point.ofString (Bytes.Base64.encode data))

/-- Read the contents of a record as text, if they are wanted, and cut nothing. -/
def wholeContents (r : Record σ) (columns : List String) : Op σ Cell :=
  if !columns.contains Column.file.name then pure .empty
  else if r.content.charset.isSome != true then Op.fail (.wrongForm true)
  else wholeCell <$> r.content.read

/-- The row of a record with its contents as text, of which nothing is cut. -/
def whole (r : Record σ) (columns : List String) : Op σ Row := do
  let c ← wholeContents r columns
  Op.ofExcept (ofRecord r c columns)

/-- What a column holds, with its text cut. -/
def limitCell (n : Int) : Cell → Cell
  | .text s => .text (truncate s n)
  | x => x

/-- A row with the contents that it shows cut. -/
def limit (n : Int) (row : Row) : Row :=
  row.map fun (name, x) => (name, if name = Column.file.name then limitCell n x else x)

/-- Contents are shown as they are if nothing is cut, and then cut. -/
theorem contents_exec (r : Record σ) (columns : List String) (n : Int) (w : World σ) :
    (contents r columns true n).exec w =
      (((wholeContents r columns).exec w).1.map (limitCell n), ((wholeContents r columns).exec w).2) := by
  rw [contents, wholeContents]
  split
  · rfl
  · split
    · rfl
    · rename_i hform
      have hcharset : r.content.charset.isSome = true := of_not_not (mt bne_iff_ne.mpr hform)
      simp only [Op.map_exec]
      rcases hread : r.content.read.exec w with ⟨f | content, w'⟩
      · rfl
      · obtain ⟨s, rfl⟩ := Lob.read_text hcharset hread
        rfl

/-- Only the column of contents is cut. -/
theorem cell_limit {name : String} {c : Column} (hc : Column.ofName? name = some c) (r : Record σ)
    (x : Cell) (n : Int) :
    (if name = Column.file.name then limitCell n (cell r x c) else cell r x c) =
      cell r (limitCell n x) c := by
  obtain rfl := Adapter.name_of_ofName? hc
  cases c with
  | file => exact if_pos rfl
  | filePath | lastModified | created | size => exact if_neg (by decide)

/-- A row has the cell of its first column in front of the row of the others. -/
theorem ofRecord_cons (r : Record σ) (x : Cell) (name : String) (columns : List String) :
    ofRecord r x (name :: columns) = match Column.ofName? name with
      | some c => (ofRecord r x columns).map ((name, cell r x c) :: ·)
      | none => .error (.missingColumn name) := by
  rw [ofRecord, List.mapM_cons, ← ofRecord]
  cases Column.ofName? name with
  | none => rfl
  | some c => cases ofRecord r x columns <;> rfl

theorem ofRecord_limit (r : Record σ) (x : Cell) (columns : List String) (n : Int) :
    ofRecord r (limitCell n x) columns = (ofRecord r x columns).map (limit n) := by
  induction columns with
  | nil => rfl
  | cons name columns ih =>
    rw [ofRecord_cons, ofRecord_cons, ih]
    cases hc : Column.ofName? name with
    | none => rfl
    | some c =>
      dsimp only
      rw [← cell_limit hc]
      cases ofRecord r x columns <;> rfl

/-- **Row.** A row is the whole row, cut. -/
theorem text_exec (r : Record σ) (columns : List String) (n : Int) (w : World σ) :
    (text r columns n).exec w =
      (((whole r columns).exec w).1.map (limit n), ((whole r columns).exec w).2) := by
  simp only [text, whole, Op.bind_exec, contents_exec]
  rcases (wholeContents r columns).exec w with ⟨f | x, w'⟩
  · rfl
  · simp only [Except.map, Op.ofExcept_exec, ofRecord_limit]

/-- A column of contents shows the contents, and was asked for. -/
theorem mem_ofRecord (h : ofRecord r x columns = .ok row) (hy : (Column.file.name, y) ∈ row) :
    Column.file.name ∈ columns ∧ y = x := by
  induction columns generalizing row with
  | nil =>
    obtain rfl := Except.ok.inj h
    cases hy
  | cons name columns ih =>
    rw [ofRecord_cons] at h
    cases hc : Column.ofName? name with
    | none =>
      rw [hc] at h
      cases h
    | some c =>
      rw [hc] at h
      obtain ⟨more, hmore, rfl⟩ := Outcome.map_eq_ok h
      obtain hfirst | hy := List.mem_cons.mp hy
      · obtain ⟨rfl, rfl⟩ := Prod.mk.inj hfirst
        have hfile : Column.ofName? Column.file.name = some .file := by decide
        obtain rfl := Option.some.inj (hfile.symm.trans hc)
        exact ⟨List.mem_cons_self .., rfl⟩
      · exact (ih hmore hy).imp_left (List.mem_cons_of_mem _)

/-- What a whole row shows as contents is text. -/
theorem text_of_mem_whole (h : (whole r columns).exec w = (.ok row, w'))
    (hx : (Column.file.name, x) ∈ row) : ∃ s, x = .text s := by
  simp only [whole, Op.bind_exec] at h
  rcases hcontents : (wholeContents r columns).exec w with ⟨f | y, w₁⟩
  · rw [hcontents] at h
    cases h
  · rw [hcontents] at h
    simp only [Op.ofExcept_exec] at h
    obtain ⟨hasked, rfl⟩ := mem_ofRecord (Prod.mk.inj h).1 hx
    rw [wholeContents, if_neg (by simpa using hasked)] at hcontents
    split at hcontents
    · cases hcontents
    · rename_i hform
      simp only [Op.map_exec] at hcontents
      obtain ⟨content, hread, rfl⟩ := Outcome.map_eq_ok (Prod.mk.inj hcontents).1
      obtain ⟨s, rfl⟩ := Lob.read_text (of_not_not (mt bne_iff_ne.mpr hform)) (Prod.ext hread rfl)
      exact ⟨s, rfl⟩

end Row

/-! ## Listings -/

namespace Tools

variable {a : Adapter σ η} {procedure : String} {pattern : Argument} {columns : List String}
variable {row row' : Record σ → Op σ Row} {g : Row → Row} {P : Row → Prop} {w : World σ} {shown : List Row}

/-- List files with their contents as text, of which nothing is cut. -/
def wholeTexts (a : Adapter σ η) (pattern : Argument) (columns : List String) : Op σ (List Row) :=
  listing a "getTextFiles" pattern columns fun r => Row.whole r (wanted columns)

/-- Rows that are made of others, one by one, leave the same world. -/
theorem rows_map (h : ∀ r w, (row r).exec w = (((row' r).exec w).1.map g, ((row' r).exec w).2))
    (c : Cursor η) (files : List η) (w : World σ) : (rows a c row files).exec w =
      (((rows a c row' files).exec w).1.map (List.map g), ((rows a c row' files).exec w).2) := by
  induction files generalizing w with
  | nil => rfl
  | cons x rest ih =>
    simp only [rows, Op.bind_exec, Op.attempt_exec]
    rcases (a.record c x).exec w with ⟨f | r, w₁⟩
    · simp only
      split <;> rfl
    · simp only [Op.bind_exec, h]
      rcases (row' r).exec w₁ with ⟨f | first, w₂⟩
      · rfl
      · simp only [Except.map, ih]
        rcases (rows a c row' rest).exec w₂ with ⟨f | more, w₃⟩ <;> rfl

theorem listing_map (h : ∀ r w, (row r).exec w = (((row' r).exec w).1.map g, ((row' r).exec w).2))
    (w : World σ) : (listing a procedure pattern columns row).exec w =
      (((listing a procedure pattern columns row').exec w).1.map (List.map g),
        ((listing a procedure pattern columns row').exec w).2) := by
  cases pattern with
  | none => rfl
  | some pattern =>
    simp only [listing, Op.bind_exec]
    rcases (a.procedure (some procedure) pattern none (wanted columns)).exec w with ⟨f | c, w₁⟩
    · rfl
    · exact rows_map h c c.remaining w₁

/-- What holds of every row that can be made holds of the rows of files. -/
theorem rows_forall (h : ∀ r w x w', (row r).exec w = (.ok x, w') → P x) {c : Cursor η} {files : List η}
    {w' : World σ} (hrows : (rows a c row files).exec w = (.ok shown, w')) : ∀ x ∈ shown, P x := by
  induction files generalizing w shown with
  | nil =>
    obtain rfl := Except.ok.inj (Prod.mk.inj hrows).1
    nofun
  | cons y rest ih =>
    simp only [rows, Op.bind_exec, Op.attempt_exec] at hrows
    rcases hrecord : (a.record c y).exec w with ⟨f | r, w₁⟩
    · rw [hrecord] at hrows
      simp only at hrows
      split at hrows
      · obtain rfl := Except.ok.inj (Prod.mk.inj hrows).1
        nofun
      · cases hrows
    · simp only [hrecord, Op.bind_exec] at hrows
      rcases hfirst : (row r).exec w₁ with ⟨f | first, w₂⟩
      · rw [hfirst] at hrows
        cases hrows
      · simp only [hfirst] at hrows
        rcases hmore : (rows a c row rest).exec w₂ with ⟨f | more, w₃⟩
        · rw [hmore] at hrows
          cases hrows
        · simp only [hmore] at hrows
          obtain ⟨hshown, rfl⟩ := Prod.mk.inj hrows
          obtain rfl := Except.ok.inj hshown
          exact List.forall_mem_cons.mpr ⟨h r w₁ first w₂ hfirst, ih hmore⟩

theorem listing_forall (h : ∀ r w x w', (row r).exec w = (.ok x, w') → P x) {w' : World σ}
    (hshown : (listing a procedure pattern columns row).exec w = (.ok shown, w')) : ∀ x ∈ shown, P x := by
  cases pattern with
  | none => cases hshown
  | some pattern =>
    simp only [listing, Op.bind_exec] at hshown
    rcases hcursor : (a.procedure (some procedure) pattern none (wanted columns)).exec w with ⟨f | c, w₁⟩
    · rw [hcursor] at hshown
      cases hshown
    · rw [hcursor] at hshown
      exact rows_forall h hshown

/-- **Tool.** The tool that lists text shows what it would show if nothing were cut, with each text cut: what is
shown of the text, and a mark if the text is longer than the limit. This is what the limit asks for exactly if
the limit is not below zero or the text is no longer than the limit is below it, and no more characters are shown
than the limit allows under the same condition. A raised limit goes on with what was shown unless it is raised
from below zero too little for the text. -/
theorem texts_cut (a : Adapter σ η) (pattern : Argument) (columns : List String) (n : Int) (w : World σ) :
    (getTextFiles a pattern columns n).exec w =
      (((wholeTexts a pattern columns).exec w).1.map (List.map (Row.limit n)),
        ((wholeTexts a pattern columns).exec w).2) ∧
    (∀ whole, ((wholeTexts a pattern columns).exec w).1 = .ok whole →
      ∀ row ∈ whole, ∀ x, (Column.file.name, x) ∈ row → ∃ s, x = .text s) ∧
    ∀ s : List Point,
      Row.limitCell n (.text s) =
        .text (Row.shownPart s n ++ if n < s.length then Row.truncatedMark else []) ∧
      (Row.limitCell n (.text s) = .text (Row.limited s n) ↔ 0 ≤ n ∨ s.length ≤ n.natAbs) ∧
      ((Row.shownPart s n).length ≤ n.toNat ↔ 0 ≤ n ∨ s.length ≤ n.natAbs) ∧
      ∀ m, n ≤ m → (Row.shownPart s n <+: Row.shownPart s m ↔
        0 ≤ n ∨ m < 0 ∨ s.length ≤ n.natAbs + m.toNat) := by
  refine ⟨listing_map (fun r w => Row.text_exec r (wanted columns) n w) w, fun whole hwhole row hrow => ?_,
    fun s => ⟨congrArg Cell.text (Row.truncate_eq s n), ?_, Row.length_shownPart_le_iff,
      fun m => Row.shownPart_prefix_iff⟩⟩
  · have hcell (r : Record σ) (w : World σ) (row : Row) (w' : World σ)
        (h : (Row.whole r (wanted columns)).exec w = (.ok row, w')) :
        ∀ x, (Column.file.name, x) ∈ row → ∃ s, x = .text s := fun x hx => Row.text_of_mem_whole h hx
    exact listing_forall hcell (Prod.ext hwhole rfl) row hrow
  · rw [Row.limitCell, Cell.text.injEq]
    exact Row.truncate_eq_limited_iff

/-- The tool shows the text of a file in memory, cut. -/
theorem getTextFiles_letter {m : Memory} {f : MemoryFile} {t : List Point} (hf : m.files.get? "a" = some f)
    (hread : Stream.readAll ⟨.text (.decoded (.start .utf8 f.data)), .memory, false⟩ = .ok (.text t))
    (n : Int) :
    ((getTextFiles ⟨Memory.store, ⟨.utf8, true⟩⟩ (some (some "a")) ["file"] n).exec (.fresh m)).1 =
      .ok [[("file", .text (Row.truncate t n))]] := by
  let a : Adapter Memory (String × MemoryFile) := ⟨Memory.store, ⟨.utf8, true⟩⟩
  obtain ⟨hresolve, hcontents⟩ := Memory.resolve_letter hf
  have hfound : ((a.store.resolve "a").exec (.fresh m)).1 = .ok [("a", f)] := hresolve
  have hopened : ((a.store.contents ("a", f)).exec (.fresh m)).1 = .ok (.whole f.data) := by
    simp only [a, Memory.store, Op.ask_exec, World.fresh, hcontents, Except.map]
  have hgiven : (a.contentOf ("a", f) .listText none 0).given (.whole f.data) = .ok (.text t) := by
    have hcharset : (a.contentOf ("a", f) .listText none 0).charset = some (.ofCodec .utf8) := rfl
    rw [Lob.given, Lob.opening, hcharset]
    simp only [Lob.decoding, requireText_ofCodec (c := .utf8) (by decide)]
    exact hread
  have hcell : a.contentsIn (.fresh m) (some n) ["file"] ("a", f) = .ok (.text (Row.truncate t n)) := by
    have hkind : Adapter.listed (some n) = .listText := rfl
    rw [Adapter.contentsIn, if_pos (by decide), hopened]
    simp only [hkind, hgiven]
    rfl
  have hasked : a.askedIn (.fresh m) ["file"] ("a", f) = .ok none := rfl
  have hrows : a.shown (.fresh m) (some n) ["file"] [("a", f)] =
      .ok [[("file", .text (Row.truncate t n))]] := by
    simp only [Adapter.shown, hasked, Adapter.rowIn, hcell]
    rfl
  have hcolumns : ∀ n ∈ wanted ["file"], n ∈ Column.allNames := by decide
  obtain ⟨w', -, hlist⟩ :=
    list_looks (a := a) Memory.store_still ⟨rfl, World.sound_fresh m⟩ hcolumns (some n) "a"
  rw [hfound] at hlist
  exact (congrArg Prod.fst hlist).trans hrows

/-- A text of three letters is shown up to the second one with a limit of two, and goes on with a limit of
three. -/
theorem texts_cut_letters :
    let a : Adapter Memory (String × MemoryFile) := ⟨Memory.store, ⟨.utf8, true⟩⟩
    let w : World Memory := .fresh ((Memory.empty fun n => ⟨n⟩).put "a" [97, 98, 99] ⟨0⟩)
    let abc := Point.ofString "abc"
    (∃ row, ((wholeTexts a (some (some "a")) ["file"]).exec w).1 = .ok [row] ∧
      ∃ x, (Column.file.name, x) ∈ row ∧ ∃ s, x = .text s) ∧
      Row.limitCell 2 (.text abc) = .text (Row.limited abc 2) ∧ (2 : Int) ≤ 3 ∧
        Row.shownPart abc 2 <+: Row.shownPart abc 3 := by
  intro a w abc
  obtain ⟨hexec, htext, habc⟩ := texts_cut a (some (some "a")) ["file"] 2 w
  have hshown : ((getTextFiles a (some (some "a")) ["file"] 2).exec w).1 =
      .ok [[("file", .text (Row.truncate abc 2))]] :=
    getTextFiles_letter (f := ⟨[97, 98, 99], ⟨0⟩, some ⟨0⟩⟩) (by decide +kernel) (by decide +kernel) 2
  rw [hexec] at hshown
  obtain ⟨whole, hwhole, hcut⟩ := Outcome.map_eq_ok hshown
  obtain ⟨row, rfl, hrow⟩ := List.map_eq_singleton_iff.mp hcut
  obtain ⟨⟨name, x⟩, rfl, hx⟩ := List.map_eq_singleton_iff.mp hrow
  obtain rfl : name = Column.file.name := (Prod.mk.inj hx).1
  have hmem : (Column.file.name, x) ∈ [(Column.file.name, x)] := List.mem_singleton_self _
  exact ⟨⟨_, hwhole, x, hmem, htext _ hwhole _ (List.mem_singleton_self _) x hmem⟩,
    (habc abc).2.1.mpr (.inl (by decide)), by decide, ((habc abc).2.2.2 3 (by decide)).mpr (.inl (by decide))⟩

/-- With a limit of minus one, two of three letters are shown, where the limit asks for none; with a limit of
zero, none are. -/
theorem negative_limit_shows :
    let a : Adapter Memory (String × MemoryFile) := ⟨Memory.store, ⟨.utf8, true⟩⟩
    let w : World Memory := .fresh ((Memory.empty fun n => ⟨n⟩).put "a" [97, 98, 99] ⟨0⟩)
    let shows (n : Int) := ((getTextFiles a (some (some "a")) ["file"] n).exec w).1
    shows (-1) = .ok [[("file", .text (Point.ofString "ab\n\n...[TRUNCATED]..."))]] ∧
      Row.limited (Point.ofString "abc") (-1) = Point.ofString "\n\n...[TRUNCATED]..." ∧
      shows 0 = .ok [[("file", .text (Point.ofString "\n\n...[TRUNCATED]..."))]] := by
  intro a w shows
  have hshows (n : Int) : shows n = .ok [[("file", .text (Row.truncate (Point.ofString "abc") n))]] :=
    getTextFiles_letter (f := ⟨[97, 98, 99], ⟨0⟩, some ⟨0⟩⟩) (by decide +kernel) (by decide +kernel) n
  rw [hshows, hshows]
  decide +kernel

end Tools

end FileDepot
