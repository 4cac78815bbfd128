import Mathlib.Tactic
import Mathlib.Data.List.Nodup

/-!
# Tables with a primary key

A table is a list of rows whose keys are distinct.  An update replaces the row
with the key of the new row (`replaceRow`); the lemmas say which rows it keeps,
which it brings in, and that a selection which meets neither the old nor the new
row does not see it.  `upsertRow` adds the row where its key is new.  A lookup by
key finds the row (`find?_key`), after upserts the last one written
(`find?_foldl_upsertRow`), and a query with an order takes the first match of the
sorted table (`find?_of_pairwise`).
-/

namespace LunchLineup.Lib

variable {Row Key : Type*}

/-- Two rows of a table with the same key are the same row. -/
theorem eq_of_key {key : Row → Key} {rows : List Row} (hkeys : (rows.map key).Nodup)
    {first second : Row} (hfirst : first ∈ rows) (hsecond : second ∈ rows)
    (heq : key first = key second) : first = second :=
  List.inj_on_of_nodup_map hkeys hfirst hsecond heq

/-- A new row with a fresh key keeps the keys distinct. -/
theorem nodup_keys_append {key : Row → Key} {rows : List Row} {new : Row}
    (hkeys : (rows.map key).Nodup) (hfresh : ∀ row ∈ rows, key row ≠ key new) :
    ((rows ++ [new]).map key).Nodup := by
  rw [List.map_append, List.nodup_append]
  refine ⟨hkeys, List.nodup_singleton _, ?_⟩
  intro first hfirst second hsecond
  obtain ⟨row, hrow, rfl⟩ := List.mem_map.mp hfirst
  rw [List.map_singleton, List.mem_singleton] at hsecond
  rw [hsecond]
  exact hfresh row hrow

/-- Distinct rows that are all the same row are that row alone. -/
theorem eq_singleton_of_nodup {rows : List Row} (hnodup : rows.Nodup) {row : Row}
    (hmem : row ∈ rows) (hunique : ∀ other ∈ rows, other = row) : rows = [row] := by
  apply List.perm_singleton.mp
  refine (List.perm_ext_iff_of_nodup hnodup (List.nodup_singleton row)).mpr ?_
  intro other
  rw [List.mem_singleton]
  constructor
  · exact hunique other
  · rintro rfl
    exact hmem

/-- Distinct rows of which any two are the same are at most one. -/
theorem length_le_one_of_eq {rows : List Row} (hnodup : rows.Nodup)
    (heq : ∀ first ∈ rows, ∀ second ∈ rows, first = second) : rows.length ≤ 1 := by
  cases rows with
  | nil => simp
  | cons row rest =>
      have hrest := eq_singleton_of_nodup hnodup List.mem_cons_self
        fun other hother => heq other hother row List.mem_cons_self
      rw [hrest]
      rfl

/-- `ORDER BY`: sorting by a total preorder sorts. -/
theorem pairwise_mergeSort_of {R : Row → Row → Prop} [DecidableRel R]
    (htrans : ∀ {a b c}, R a b → R b c → R a c) (htotal : ∀ a b, R a b ∨ R b a)
    (rows : List Row) : (rows.mergeSort fun a b => decide (R a b)).Pairwise R := by
  have hsorted : (rows.mergeSort fun a b => decide (R a b)).Pairwise
      fun a b => decide (R a b) = true := by
    apply List.pairwise_mergeSort
    · intro a b c hab hbc
      exact decide_eq_true (htrans (of_decide_eq_true hab) (of_decide_eq_true hbc))
    · intro a b
      simpa using htotal a b
  exact hsorted.imp of_decide_eq_true

/-- A relation between neighbours of a sorted list holds between all its rows in order, if it
extends along the order. -/
theorem pairwise_of_isChain {R S : Row → Row → Prop} {rows : List Row} (hsorted : rows.Pairwise S)
    (hchain : rows.IsChain R) (hextends : ∀ {a b c}, S a b → S b c → S a c → R a b → R a c) :
    rows.Pairwise R := by
  induction rows with
  | nil => exact .nil
  | cons a rest ih =>
      cases rest with
      | nil => exact List.pairwise_singleton _ _
      | cons b rest =>
          obtain ⟨hfirst, hrest⟩ := List.pairwise_cons.mp hsorted
          obtain ⟨hneighbour, hchain⟩ := List.isChain_cons_cons.mp hchain
          refine List.pairwise_cons.mpr ⟨?_, ih hrest hchain⟩
          intro c hc
          rcases List.mem_cons.mp hc with rfl | hc
          · exact hneighbour
          · exact hextends (hfirst b List.mem_cons_self) ((List.pairwise_cons.mp hrest).1 c hc)
              (hfirst c (List.mem_cons_of_mem _ hc)) hneighbour

/-- The first match in a sorted list comes before every other match. -/
theorem find?_of_pairwise {R : Row → Row → Prop} {rows : List Row} (hsorted : rows.Pairwise R)
    {p : Row → Bool} {row : Row} (hfind : rows.find? p = some row) :
    row ∈ rows ∧ p row = true ∧ ∀ other ∈ rows, p other = true → other = row ∨ R row other := by
  refine ⟨List.mem_of_find?_eq_some hfind, List.find?_some hfind, ?_⟩
  intro other hother hmatch
  obtain ⟨_, skipped, rest, rfl, hskipped⟩ := List.find?_eq_some_iff_append.mp hfind
  rcases List.mem_append.mp hother with hother | hother
  · exact absurd hmatch (by simpa using hskipped other hother)
  · rcases List.mem_cons.mp hother with rfl | hother
    · exact .inl rfl
    · rw [List.pairwise_append, List.pairwise_cons] at hsorted
      exact .inr (hsorted.2.1.1 other hother)

variable [DecidableEq Key]

/-- The table after the row with the key of `new` became `new`. -/
def replaceRow (key : Row → Key) (rows : List Row) (new : Row) : List Row :=
  rows.map fun row => if key row = key new then new else row

variable {key : Row → Key} {rows : List Row} {new : Row}

theorem keys_replaceRow : (replaceRow key rows new).map key = rows.map key := by
  rw [replaceRow, List.map_map]
  apply List.map_congr_left
  intro row _
  by_cases h : key row = key new
  · simp [h]
  · simp [h]

/-- A column that an update leaves alone is the same in all rows. -/
theorem map_replaceRow {Value : Type*} {column : Row → Value} (hkeys : (rows.map key).Nodup)
    {old : Row} (hold : old ∈ rows) (hkey : key new = key old) (hsame : column new = column old) :
    (replaceRow key rows new).map column = rows.map column := by
  rw [replaceRow, List.map_map]
  apply List.map_congr_left
  intro row hrow
  by_cases h : key row = key new
  · obtain rfl := eq_of_key hkeys hrow hold (h.trans hkey)
    simp [h, hsame]
  · simp [h]

theorem mem_replaceRow_of_ne {row : Row} (hrow : row ∈ rows) (hne : key row ≠ key new) :
    row ∈ replaceRow key rows new :=
  List.mem_map.mpr ⟨row, hrow, if_neg hne⟩

theorem new_mem_replaceRow {old : Row} (hold : old ∈ rows) (heq : key old = key new) :
    new ∈ replaceRow key rows new :=
  List.mem_map.mpr ⟨old, hold, if_pos heq⟩

theorem mem_replaceRow {row : Row} (hrow : row ∈ replaceRow key rows new) :
    row = new ∨ (row ∈ rows ∧ key row ≠ key new) := by
  obtain ⟨old, hold, heq⟩ := List.mem_map.mp hrow
  split at heq
  · exact .inl heq.symm
  · rename_i hne
    rw [← heq]
    exact .inr ⟨hold, hne⟩

theorem eq_of_mem_replaceRow {row : Row} (hrow : row ∈ replaceRow key rows new)
    (hkey : key row = key new) : row = new := by
  obtain hsame | ⟨_, hother⟩ := mem_replaceRow hrow
  · exact hsame
  · exact absurd hkey hother

/-- A second update of the row takes the place of the first. -/
theorem replaceRow_replaceRow {other : Row} (heq : key other = key new) :
    replaceRow key (replaceRow key rows other) new = replaceRow key rows new := by
  unfold replaceRow
  rw [List.map_map]
  apply List.map_congr_left
  intro row _
  by_cases h : key row = key new
  · simp [h, heq]
  · simp [h, heq]

/-- Replacing a row by itself changes nothing. -/
theorem replaceRow_self (hkeys : (rows.map key).Nodup) (hmem : new ∈ rows) :
    replaceRow key rows new = rows := by
  unfold replaceRow
  conv_rhs => rw [← List.map_id rows]
  apply List.map_congr_left
  intro row hrow
  split
  · rename_i heq
    exact eq_of_key hkeys hmem hrow heq.symm
  · rfl

/-- `upsert`: the row with the key of `new` becomes `new`, or `new` is added. -/
def upsertRow (key : Row → Key) (rows : List Row) (new : Row) : List Row :=
  if ∃ row ∈ rows, key row = key new then replaceRow key rows new else rows ++ [new]

theorem nodup_keys_upsertRow (hkeys : (rows.map key).Nodup) :
    ((upsertRow key rows new).map key).Nodup := by
  unfold upsertRow
  split
  · rw [keys_replaceRow]
    exact hkeys
  · rename_i hfresh
    apply nodup_keys_append hkeys
    intro row hrow heq
    exact hfresh ⟨row, hrow, heq⟩

/-- After an `upsert` the table has the new row and the old ones with other
keys. -/
theorem mem_upsertRow {row : Row} :
    row ∈ upsertRow key rows new ↔ row = new ∨ (row ∈ rows ∧ key row ≠ key new) := by
  unfold upsertRow
  split
  · rename_i hfound
    obtain ⟨old, hold, heq⟩ := hfound
    constructor
    · exact mem_replaceRow
    · rintro (rfl | ⟨hrow, hne⟩)
      · exact new_mem_replaceRow hold heq
      · exact mem_replaceRow_of_ne hrow hne
  · rename_i hfresh
    rw [List.mem_append, List.mem_singleton]
    constructor
    · rintro (hrow | rfl)
      · exact .inr ⟨hrow, fun heq => hfresh ⟨row, hrow, heq⟩⟩
      · exact .inl rfl
    · rintro (rfl | ⟨hrow, _⟩)
      · exact .inr rfl
      · exact .inl hrow

/-- A selection that contains neither the old nor the new row is not changed by
the update. -/
theorem filter_replaceRow {p : Row → Bool} (hnew : p new = false)
    (hold : ∀ row ∈ rows, key row = key new → p row = false) :
    (replaceRow key rows new).filter p = rows.filter p := by
  induction rows with
  | nil => rfl
  | cons row rest ih =>
      have hrest := ih fun other hother => hold other (List.mem_cons_of_mem _ hother)
      rw [replaceRow] at hrest ⊢
      by_cases heq : key row = key new
      · have hrow := hold row (by simp) heq
        simp [heq, hnew, hrow, hrest]
      · simp [heq, List.filter_cons, hrest]

/-- A selection that sees none of the rows that change, before or after, is as it was. -/
theorem filter_map_of_unseen {change : Row → Row} {p : Row → Bool}
    (h : ∀ row ∈ rows, change row = row ∨ p row = false ∧ p (change row) = false) :
    (rows.map change).filter p = rows.filter p := by
  induction rows with
  | nil => rfl
  | cons row rest ih =>
      have hrest := ih fun other hother => h other (List.mem_cons_of_mem _ hother)
      rcases h row List.mem_cons_self with hsame | ⟨hbefore, hafter⟩
      · simp [List.filter_cons, hsame, hrest]
      · simp [hbefore, hafter, hrest]

/-! ## Lookups by key -/

/-- A lookup by key finds the row with that key. -/
theorem find?_key (hkeys : (rows.map key).Nodup) {row : Row} (hrow : row ∈ rows) :
    rows.find? (fun other => key other = key row) = some row := by
  cases hfind : rows.find? (fun other => key other = key row) with
  | none =>
      have hnone := List.find?_eq_none.mp hfind row hrow
      simp at hnone
  | some found =>
      have hfound := List.find?_some hfind
      rw [eq_of_key hkeys (List.mem_of_find?_eq_some hfind) hrow (of_decide_eq_true hfound)]

/-- Of rows with distinct keys the last with a key is the first with it. -/
theorem getLast?_filter_key (hkeys : (rows.map key).Nodup) (k : Key) :
    (rows.filter fun row => key row = k).getLast? = rows.find? fun row => key row = k := by
  induction rows with
  | nil => rfl
  | cons row rest ih =>
      rw [List.map_cons, List.nodup_cons] at hkeys
      by_cases hrow : key row = k
      · have hrest : rest.filter (fun other => key other = k) = [] := by
          rw [List.filter_eq_nil_iff]
          intro other hother heq
          refine hkeys.1 (List.mem_map.mpr ⟨other, hother, ?_⟩)
          rw [of_decide_eq_true heq, hrow]
        simp [hrow, hrest]
      · simp only [List.filter_cons, List.find?_cons, hrow, decide_false, Bool.false_eq_true,
          if_false]
        exact ih hkeys.2

theorem find?_replaceRow_of_ne {k : Key} (hne : key new ≠ k) :
    (replaceRow key rows new).find? (fun row => key row = k) =
      rows.find? fun row => key row = k := by
  induction rows with
  | nil => rfl
  | cons row rest ih =>
      rw [replaceRow] at ih ⊢
      rw [List.map_cons, List.find?_cons, List.find?_cons]
      by_cases heq : key row = key new
      · simp [heq, hne, ih]
      · simp [heq, ih]

theorem find?_upsertRow (k : Key) :
    (upsertRow key rows new).find? (fun row => key row = k) =
      if key new = k then some new else rows.find? fun row => key row = k := by
  by_cases hk : key new = k
  · rw [if_pos hk, upsertRow]
    split
    · rename_i hfound
      obtain ⟨found, hfind⟩ : ∃ found, (replaceRow key rows new).find?
          (fun row => key row = k) = some found := by
        obtain ⟨old, hold, heq⟩ := hfound
        rw [← Option.isSome_iff_exists, List.find?_isSome]
        exact ⟨new, new_mem_replaceRow hold heq, decide_eq_true hk⟩
      have hfound_key := List.find?_some hfind
      rw [hfind]
      rcases mem_replaceRow (List.mem_of_find?_eq_some hfind) with rfl | ⟨_, hne⟩
      · rfl
      · exact absurd ((of_decide_eq_true hfound_key).trans hk.symm) hne
    · rename_i hfresh
      have hnone : rows.find? (fun row => key row = k) = none := by
        rw [List.find?_eq_none]
        intro row hrow heq
        exact hfresh ⟨row, hrow, (of_decide_eq_true heq).trans hk.symm⟩
      simp [List.find?_append, hnone, hk]
  · rw [if_neg hk, upsertRow]
    split
    · exact find?_replaceRow_of_ne hk
    · simp [List.find?_append, hk]

/-- After upserts of rows with distinct keys a lookup finds the new row with the
key, or else the old one. -/
theorem find?_foldl_upsertRow {news : List Row} (hnews : (news.map key).Nodup) (k : Key) :
    (news.foldl (upsertRow key) rows).find? (fun row => key row = k) =
      (news.find? fun row => key row = k).or (rows.find? fun row => key row = k) := by
  induction news generalizing rows with
  | nil => simp
  | cons new rest ih =>
      rw [List.map_cons, List.nodup_cons] at hnews
      rw [List.foldl_cons, ih hnews.2, find?_upsertRow]
      by_cases hk : key new = k
      · have hrest : rest.find? (fun row => key row = k) = none := by
          rw [List.find?_eq_none]
          intro row hrow heq
          refine hnews.1 (List.mem_map.mpr ⟨row, hrow, ?_⟩)
          rw [of_decide_eq_true heq, hk]
        simp [hk, hrest]
      · simp [hk]

theorem nodup_keys_foldl_upsertRow (hkeys : (rows.map key).Nodup) (news : List Row) :
    ((news.foldl (upsertRow key) rows).map key).Nodup := by
  induction news generalizing rows with
  | nil => exact hkeys
  | cons new rest ih => exact ih (nodup_keys_upsertRow hkeys)

/-- After upserts of rows with distinct keys every row is a new one, or an old one
whose key no new row has. -/
theorem mem_foldl_upsertRow {news : List Row} {row : Row}
    (hrow : row ∈ news.foldl (upsertRow key) rows) :
    row ∈ news ∨ (row ∈ rows ∧ ∀ new ∈ news, key row ≠ key new) := by
  induction news generalizing rows with
  | nil => exact .inr ⟨hrow, by simp⟩
  | cons new rest ih =>
      rcases ih hrow with hrest | ⟨hupserted, hne⟩
      · exact .inl (List.mem_cons_of_mem _ hrest)
      · rcases mem_upsertRow.mp hupserted with rfl | ⟨hold, hnew⟩
        · exact .inl List.mem_cons_self
        · exact .inr ⟨hold, List.forall_mem_cons.mpr ⟨hnew, hne⟩⟩

end LunchLineup.Lib
