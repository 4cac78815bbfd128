import LunchLineup.Lib.Table

/-!
# Keyset pagination

A list request that takes a cursor answers with a page of rows and the cursor of
the next page.  `follow` is a reader that starts without a cursor and follows the
cursors until there is none.  `Serves` says what a list must do with a cursor that
stands for some rows still to be read: give the first of them, and, if there are
more, a cursor that stands for the others.  A reader of such a list sees exactly
the rows its first cursor stands for, in their order (`follow_of_serves`).

A keyset list has a key on the rows and continues after the key of the last row
it gave.  `keysetRows_drop` is why that is the rest of the rows: they are sorted,
no two have one key, and so the rows with a larger key are those after the page.
-/

namespace LunchLineup.Lib

/-! ## Following the cursors -/

/-- A page of rows and the cursor of the next one. -/
structure CursorPage (Row Cursor : Type*) where
  data : List Row
  next : Option Cursor

section Follow

variable {Row Cursor Refusal : Type*}
variable (list : Option Cursor → Except Refusal (CursorPage Row Cursor))

/-- The pages from a cursor on, `none` if `fuel` requests do not reach the last. -/
def follow : Nat → Option Cursor → Option (Except Refusal (List (List Row)))
  | 0, _ => none
  | fuel + 1, cursor =>
      match list cursor with
      | .error refusal => some (.error refusal)
      | .ok page =>
          match page.next with
          | none => some (.ok [page.data])
          | some next => (follow fuel (some next)).map (Except.map (page.data :: ·))

/-- `Stands cursor rows`: the rows that a reader with this cursor has not seen. -/
def Serves (limit : Nat) (Stands : Option Cursor → List Row → Prop) : Prop :=
  ∀ cursor rows, Stands cursor rows → ∃ page, list cursor = .ok page ∧
    page.data = rows.take limit ∧
    (rows.length ≤ limit → page.next = none) ∧
    (limit < rows.length → ∃ next, page.next = some next ∧ Stands (some next) (rows.drop limit))

variable {list} {limit : Nat} {Stands : Option Cursor → List Row → Prop}

/-- A reader sees the rows its cursor stands for, once each and in order, after
finitely many requests. -/
theorem follow_of_serves (h : Serves list limit Stands) (hlimit : 0 < limit) {fuel : Nat}
    {cursor : Option Cursor} {rows : List Row} (hrows : Stands cursor rows)
    (hfuel : rows.length < fuel) :
    ∃ pages, follow list fuel cursor = some (.ok pages) ∧ pages.flatten = rows ∧
      ∀ page ∈ pages, page.length ≤ limit := by
  induction fuel generalizing cursor rows with
  | zero => omega
  | succ fuel ih =>
      obtain ⟨page, hlist, hdata, hlast, hmore⟩ := h cursor rows hrows
      have hshort : page.data.length ≤ limit := by
        rw [hdata, List.length_take]
        omega
      rw [follow, hlist]
      rcases le_or_gt rows.length limit with hle | hgt
      · refine ⟨[page.data], ?_, ?_, ?_⟩
        · simp only [hlast hle]
        · rw [List.flatten_singleton, hdata, List.take_of_length_le hle]
        · simpa using hshort
      · obtain ⟨next, hnext, hstands⟩ := hmore hgt
        obtain ⟨pages, hfollow, hflatten, hpages⟩ := ih hstands (by
          rw [List.length_drop]
          omega)
        refine ⟨page.data :: pages, ?_, ?_, ?_⟩
        · simp only [hnext, hfollow]
          rfl
        · rw [List.flatten_cons, hflatten, hdata, List.take_append_drop]
        · intro other hother
          rcases List.mem_cons.mp hother with rfl | hother
          · exact hshort
          · exact hpages other hother

/-- More requests than are needed change nothing. -/
theorem follow_mono {fuel more : Nat} {cursor : Option Cursor}
    {answer : Except Refusal (List (List Row))} (h : follow list fuel cursor = some answer)
    (hle : fuel ≤ more) : follow list more cursor = some answer := by
  induction fuel generalizing more cursor answer with
  | zero => simp [follow] at h
  | succ fuel ih =>
      obtain ⟨more, rfl⟩ := Nat.exists_eq_add_of_lt (Nat.lt_of_lt_of_le (Nat.lt_succ_self fuel) hle)
      rw [follow] at h ⊢
      cases hlist : list cursor with
      | error refusal =>
          rw [hlist] at h
          exact h
      | ok page =>
          rw [hlist] at h
          dsimp only at h ⊢
          cases hnext : page.next with
          | none =>
              rw [hnext] at h
              exact h
          | some next =>
              rw [hnext] at h
              dsimp only at h ⊢
              obtain ⟨rest, hrest, rfl⟩ := Option.map_eq_some_iff.mp h
              rw [ih hrest (by omega)]
              rfl

end Follow

/-! ## Continuing after a key -/

section Keyset

variable {Row Key : Type*} [LinearOrder Key] (key : Row → Key)

/-- `orderBy` the key. -/
def orderedBy (rows : List Row) : List Row := rows.mergeSort fun a b => decide (key a ≤ key b)

/-- The rows after a key, in the order of the keys. -/
def keysetRows (after : Option Key) (rows : List Row) : List Row :=
  orderedBy key (rows.filter fun row => decide (∀ last ∈ after, last < key row))

variable {key} {rows : List Row}

theorem orderedBy_perm : (orderedBy key rows).Perm rows := List.mergeSort_perm ..

/-- Rows with different keys are in strict order. -/
theorem orderedBy_pairwise (hkeys : (rows.map key).Nodup) :
    (orderedBy key rows).Pairwise fun a b => key a < key b := by
  have hsorted : (orderedBy key rows).Pairwise fun a b => key a ≤ key b :=
    pairwise_mergeSort_of (R := fun a b => key a ≤ key b) (fun h h' => le_trans h h')
      (fun a b => le_total (key a) (key b)) rows
  have hdistinct : (orderedBy key rows).Pairwise fun a b => key a ≠ key b :=
    List.pairwise_map.mp ((orderedBy_perm.map key).nodup_iff.mpr hkeys)
  exact (hsorted.and hdistinct).imp fun h => lt_of_le_of_ne h.1 h.2

/-- There is one way to sort rows with different keys. -/
theorem eq_orderedBy {sorted : List Row} (hperm : sorted.Perm rows)
    (hsorted : sorted.Pairwise fun a b => key a < key b) : orderedBy key rows = sorted := by
  have hkeys : (rows.map key).Nodup := by
    refine (hperm.map key).nodup_iff.mp (List.pairwise_map.mpr ?_)
    exact hsorted.imp fun h => h.ne
  apply List.Perm.eq_of_pairwise ?_ (orderedBy_pairwise hkeys) hsorted
    (orderedBy_perm.trans hperm.symm)
  intro a b _ _ hab hba
  exact absurd hab (lt_asymm hba)

/-- Sorting some of the rows is leaving out the others. -/
theorem orderedBy_filter (hkeys : (rows.map key).Nodup) (keep : Row → Bool) :
    orderedBy key (rows.filter keep) = (orderedBy key rows).filter keep :=
  eq_orderedBy (orderedBy_perm.filter keep) ((orderedBy_pairwise hkeys).filter keep)

/-- The rows with a larger key than the last row of a page are those after it. -/
theorem filter_lt_getLast {limit : Nat} {last : Row}
    (hrows : rows.Pairwise fun a b => key a < key b)
    (hlast : (rows.take limit).getLast? = some last) :
    (rows.filter fun row => decide (key last < key row)) = rows.drop limit := by
  obtain ⟨front, hfront⟩ := List.getLast?_eq_some_iff.mp hlast
  have hsplit : rows = front ++ last :: rows.drop limit := by
    conv_lhs => rw [← List.take_append_drop limit rows, hfront]
    simp
  generalize rows.drop limit = back at hsplit ⊢
  rw [hsplit] at hrows ⊢
  obtain ⟨-, hback, hbefore⟩ := List.pairwise_append.mp hrows
  have hfirst : (front.filter fun row => decide (key last < key row)) = [] := by
    refine List.filter_eq_nil_iff.mpr fun row hrow => ?_
    have := hbefore row hrow last List.mem_cons_self
    simpa using this.le
  have hrest : (back.filter fun row => decide (key last < key row)) = back := by
    refine List.filter_eq_self.mpr fun row hrow => ?_
    simpa using List.rel_of_pairwise_cons hback hrow
  rw [List.filter_append, hfirst, List.filter_cons_of_neg (by simp), hrest, List.nil_append]

/-- What comes after the key of the last row of a page is the rest of the rows. -/
theorem keysetRows_drop (hkeys : (rows.map key).Nodup) {after : Option Key} {limit : Nat} {last : Row}
    (hlast : ((keysetRows key after rows).take limit).getLast? = some last) :
    keysetRows key (some (key last)) rows = (keysetRows key after rows).drop limit := by
  have hmem : last ∈ keysetRows key after rows :=
    List.mem_of_mem_take (List.mem_of_getLast? hlast)
  have hafter : ∀ k ∈ after, k < key last := by
    have := List.mem_filter.mp (orderedBy_perm.subset hmem)
    simpa using this.2
  have hnodup : ((rows.filter fun row => decide (∀ k ∈ after, k < key row)).map key).Nodup :=
    hkeys.sublist (List.filter_sublist.map key)
  have hrest : (keysetRows key after rows).drop limit =
      (keysetRows key after rows).filter fun row => decide (key last < key row) :=
    (filter_lt_getLast (orderedBy_pairwise hnodup) hlast).symm
  rw [hrest, keysetRows, keysetRows, orderedBy_filter hkeys, orderedBy_filter hkeys,
    List.filter_filter]
  refine List.filter_congr fun row _ => ?_
  have hiff : (∀ k ∈ some (key last), k < key row) ↔
      key last < key row ∧ ∀ k ∈ after, k < key row := by
    simp only [Option.mem_def, Option.some.injEq, forall_eq']
    exact ⟨fun h => ⟨h, fun k hk => (hafter k hk).trans h⟩, fun h => h.1⟩
  rw [← Bool.decide_and]
  exact decide_eq_decide.mpr hiff

/-- A list that continues after the key its cursor was written for serves its cursors. -/
theorem serves_of_keyset {Cursor Refusal : Type*} (hkeys : (rows.map key).Nodup)
    {list : Option Cursor → Except Refusal (CursorPage Row Cursor)} {limit : Nat}
    (hlimit : 0 < limit) {Decodes : Option Cursor → Option Key → Prop}
    (hlist : ∀ cursor after, Decodes cursor after → ∃ page, list cursor = .ok page ∧
      page.data = (keysetRows key after rows).take limit ∧
      ((keysetRows key after rows).length ≤ limit → page.next = none) ∧
      (limit < (keysetRows key after rows).length → ∀ last, page.data.getLast? = some last →
        ∃ next, page.next = some next ∧ Decodes (some next) (some (key last)))) :
    Serves list limit fun cursor remaining =>
      ∃ after, Decodes cursor after ∧ remaining = keysetRows key after rows := by
  rintro cursor remaining ⟨after, hdecodes, rfl⟩
  obtain ⟨page, hpage, hdata, hlast, hmore⟩ := hlist cursor after hdecodes
  refine ⟨page, hpage, hdata, hlast, fun hlong => ?_⟩
  have hne : (keysetRows key after rows).take limit ≠ [] := by
    apply List.ne_nil_of_length_pos
    rw [List.length_take]
    omega
  obtain ⟨last, hgetLast⟩ := Option.ne_none_iff_exists'.mp (mt List.getLast?_eq_none_iff.mp hne)
  obtain ⟨next, hnext, hcontinues⟩ := hmore hlong last (by rw [hdata, hgetLast])
  exact ⟨next, hnext, some (key last), hcontinues, (keysetRows_drop hkeys hgetLast).symm⟩

/-- Following the cursors of such a list from the start reads every row once, in the order of
the keys. -/
theorem follow_keyset {Cursor Refusal : Type*} (hkeys : (rows.map key).Nodup)
    {list : Option Cursor → Except Refusal (CursorPage Row Cursor)} {limit : Nat}
    (hlimit : 0 < limit) {Decodes : Option Cursor → Option Key → Prop}
    (hserves : Serves list limit fun cursor remaining =>
      ∃ after, Decodes cursor after ∧ remaining = keysetRows key after rows)
    (hstart : Decodes none none) {fuel : Nat} (hfuel : rows.length < fuel) :
    ∃ pages, follow list fuel none = some (.ok pages) ∧ pages.flatten.Perm rows ∧
      (pages.flatten.Pairwise fun a b => key a < key b) ∧ ∀ page ∈ pages, page.length ≤ limit := by
  have hall : keysetRows key none rows = orderedBy key rows := by
    rw [keysetRows]
    congr 1
    exact List.filter_eq_self.mpr fun row _ => by simp
  have hrows : ∃ after, Decodes none after ∧ orderedBy key rows = keysetRows key after rows :=
    ⟨none, hstart, hall.symm⟩
  obtain ⟨pages, hfollow, hflatten, hpages⟩ := follow_of_serves hserves hlimit hrows
    (by rw [orderedBy_perm.length_eq]; exact hfuel)
  refine ⟨pages, hfollow, ?_, ?_, hpages⟩
  · rw [hflatten]
    exact orderedBy_perm
  · rw [hflatten]
    exact orderedBy_pairwise hkeys

end Keyset

end LunchLineup.Lib
