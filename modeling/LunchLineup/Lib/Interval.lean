import Mathlib.Tactic
import Mathlib.Data.List.Sort
import Mathlib.Data.Finset.Card
import Mathlib.Data.Finset.Dedup

/-!
# Half-open intervals and the cuts of a timeline

A family of half-open intervals over a linear order changes only at its
endpoints.  This file states that once, for later coverage arguments: a finite
set of boundaries, sorted, cuts the line into consecutive pieces
(`sortedSet`, `cuts`); every point between two boundaries lies in one piece
(`exists_mem_cuts`), and no boundary lies strictly inside a piece
(`not_lt_lt_of_mem_cuts`).  An interval whose endpoints are boundaries then
either contains a whole piece or misses it.

The second half is about families indexed by an owner.  If the intervals of
one owner are pairwise separated, the intervals around a point have distinct
owners, so counting the intervals counts the owners (`card_owners_eq_length`).
Conversely, intervals that cover every point at most once for each owner are
separated (`pairwise_separated_of_countP`).

The last part measures how much of an interval lies in a window, over `ℤ`.
-/

namespace LunchLineup.Lib

variable {α β κ : Type*} [LinearOrder α]

/-! ## Sorting a set of boundaries -/

/-- `sorted(set(l))`. -/
def sortedSet (l : List α) : List α :=
  l.dedup.insertionSort (· ≤ ·)

@[simp] theorem mem_sortedSet {l : List α} {x : α} : x ∈ sortedSet l ↔ x ∈ l := by
  simp [sortedSet, List.mem_insertionSort]

theorem sortedSet_pairwise_lt (l : List α) : (sortedSet l).Pairwise (· < ·) := by
  have hle : (sortedSet l).Pairwise (· ≤ ·) := List.pairwise_insertionSort (· ≤ ·) _
  have hnodup : (sortedSet l).Nodup :=
    (List.perm_insertionSort (· ≤ ·) l.dedup).nodup_iff.mpr (List.nodup_dedup l)
  exact (hle.and hnodup).imp fun h => lt_of_le_of_ne h.1 h.2

/-! ## Cutting the line at sorted boundaries -/

/-- The pieces between consecutive entries of a list. -/
def cuts (l : List α) : List (α × α) :=
  l.zip l.tail

omit [LinearOrder α] in
@[simp] theorem cuts_cons_cons (x y : α) (rest : List α) :
    cuts (x :: y :: rest) = (x, y) :: cuts (y :: rest) := rfl

omit [LinearOrder α] in
theorem mem_of_mem_cuts {l : List α} {piece : α × α} (h : piece ∈ cuts l) :
    piece.1 ∈ l ∧ piece.2 ∈ l := by
  obtain ⟨x, y⟩ := piece
  exact ⟨(List.of_mem_zip h).1, List.mem_of_mem_tail (List.of_mem_zip h).2⟩

/-- Every point between two boundaries lies in one of the pieces. -/
theorem exists_mem_cuts {l : List α} (hsorted : l.Pairwise (· < ·)) {lo hi t : α}
    (hlo : lo ∈ l) (hhi : hi ∈ l) (hle : lo ≤ t) (hlt : t < hi) :
    ∃ piece ∈ cuts l, piece.1 ≤ t ∧ t < piece.2 := by
  induction l generalizing lo with
  | nil => simp at hlo
  | cons x rest ih =>
      cases rest with
      | nil =>
          obtain rfl := List.mem_singleton.mp hlo
          obtain rfl := List.mem_singleton.mp hhi
          exact absurd (hle.trans_lt hlt) (lt_irrefl _)
      | cons y more =>
          rw [List.pairwise_cons] at hsorted
          have hxlo : x ≤ lo := by
            rcases List.mem_cons.mp hlo with rfl | hmem
            · exact le_rfl
            · exact (hsorted.1 _ hmem).le
          rcases lt_or_ge t y with hty | hyt
          · exact ⟨(x, y), by simp, hxlo.trans hle, hty⟩
          · have hhi' : hi ∈ y :: more := by
              rcases List.mem_cons.mp hhi with rfl | hmem
              · exact absurd ((hsorted.1 y (by simp)).trans_le (hyt.trans hlt.le)) (lt_irrefl _)
              · exact hmem
            have hy : y ∈ y :: more := by simp
            obtain ⟨piece, hpiece, hin⟩ := ih hsorted.2 hy hhi' hyt
            exact ⟨piece, by simp [hpiece], hin⟩

/-- A piece is not empty, and no boundary lies strictly inside it. -/
theorem not_lt_lt_of_mem_cuts {l : List α} (hsorted : l.Pairwise (· < ·)) {piece : α × α}
    (h : piece ∈ cuts l) :
    piece.1 < piece.2 ∧ ∀ x ∈ l, ¬ (piece.1 < x ∧ x < piece.2) := by
  induction l with
  | nil => simp [cuts] at h
  | cons x rest ih =>
      cases rest with
      | nil => simp [cuts] at h
      | cons y more =>
          rw [List.pairwise_cons] at hsorted
          rw [cuts_cons_cons, List.mem_cons] at h
          rcases h with rfl | h
          · refine ⟨hsorted.1 y (by simp), ?_⟩
            rintro z hz ⟨hxz, hzy⟩
            rcases List.mem_cons.mp hz with rfl | hz
            · exact lt_irrefl _ hxz
            · rcases List.mem_cons.mp hz with rfl | hz
              · exact lt_irrefl _ hzy
              · exact lt_asymm hzy ((List.pairwise_cons.mp hsorted.2).1 z hz)
          · obtain ⟨hlt, hnone⟩ := ih hsorted.2 h
            refine ⟨hlt, ?_⟩
            rintro z hz ⟨hxz, hzy⟩
            rcases List.mem_cons.mp hz with rfl | hz
            · exact lt_asymm hxz (hsorted.1 _ (mem_of_mem_cuts h).1)
            · exact hnone z hz ⟨hxz, hzy⟩

/-- The pieces follow one another. -/
theorem cuts_pairwise_le {l : List α} (hsorted : l.Pairwise (· < ·)) :
    (cuts l).Pairwise fun first second => first.2 ≤ second.1 := by
  induction l with
  | nil => simp [cuts]
  | cons x rest ih =>
      cases rest with
      | nil => simp [cuts]
      | cons y more =>
          rw [List.pairwise_cons] at hsorted
          rw [cuts_cons_cons, List.pairwise_cons]
          refine ⟨?_, ih hsorted.2⟩
          intro piece hpiece
          rcases List.mem_cons.mp (mem_of_mem_cuts hpiece).1 with heq | hmem
          · exact heq.ge
          · exact ((List.pairwise_cons.mp hsorted.2).1 _ hmem).le

omit [LinearOrder α] in
/-- A relation between neighbours, checked on the pieces of a list. -/
theorem isChain_of_cuts {R : α → α → Prop} {l : List α}
    (h : ∀ pair ∈ cuts l, R pair.1 pair.2) : l.IsChain R := by
  induction l with
  | nil => exact .nil
  | cons x rest ih =>
      cases rest with
      | nil => exact .singleton x
      | cons y more =>
          rw [List.isChain_cons_cons]
          refine ⟨h (x, y) (by simp), ih ?_⟩
          intro pair hpair
          exact h pair (by simp [hpair])

/-! ## The extremes of a list -/

/-- A running maximum bounds its start and all the values. -/
theorem le_foldl_max (f : β → α) (l : List β) (start : α) :
    start ≤ l.foldl (fun largest b => max largest (f b)) start ∧
      ∀ b ∈ l, f b ≤ l.foldl (fun largest b => max largest (f b)) start := by
  induction l generalizing start with
  | nil => simp
  | cons b rest ih =>
      obtain ⟨hstart, hall⟩ := ih (max start (f b))
      rw [List.foldl_cons]
      refine ⟨(le_max_left _ _).trans hstart, ?_⟩
      intro c hc
      rcases List.mem_cons.mp hc with rfl | hc
      · exact (le_max_right _ _).trans hstart
      · exact hall c hc

/-- A running maximum is its start or one of the values. -/
theorem foldl_max_mem (f : β → α) (l : List β) (start : α) :
    l.foldl (fun largest b => max largest (f b)) start = start ∨
      ∃ b ∈ l, f b = l.foldl (fun largest b => max largest (f b)) start := by
  induction l generalizing start with
  | nil => simp
  | cons b rest ih =>
      rw [List.foldl_cons]
      rcases ih (max start (f b)) with heq | ⟨c, hc, heq⟩
      · rcases max_choice start (f b) with hmax | hmax
        · exact .inl (heq.trans hmax)
        · exact .inr ⟨b, List.mem_cons_self, (heq.trans hmax).symm⟩
      · exact .inr ⟨c, List.mem_cons_of_mem _ hc, heq⟩

/-- A running minimum is bounded by its start and all the values. -/
theorem foldl_min_le (f : β → α) (l : List β) (start : α) :
    l.foldl (fun smallest b => min smallest (f b)) start ≤ start ∧
      ∀ b ∈ l, l.foldl (fun smallest b => min smallest (f b)) start ≤ f b :=
  le_foldl_max (α := αᵒᵈ) f l start

/-! ## Owners of separated intervals -/

section Owners

variable (owner : β → κ) (lower upper : β → α)

/-- Two intervals of the same owner do not overlap. -/
def Separated (a b : β) : Prop :=
  owner a = owner b → upper a ≤ lower b ∨ upper b ≤ lower a

variable {owner lower upper}

theorem Separated.symm {a b : β} (h : Separated owner lower upper a b) :
    Separated owner lower upper b a := fun howner => (h howner.symm).symm

/-- Among separated intervals, those around one point have distinct owners. -/
theorem nodup_owners {l : List β} (hsep : l.Pairwise (Separated owner lower upper)) {t : α}
    (hmem : ∀ b ∈ l, lower b ≤ t ∧ t < upper b) : (l.map owner).Nodup := by
  rw [List.Nodup, List.pairwise_map]
  refine hsep.imp_of_mem ?_
  intro a b ha hb h howner
  rcases h howner with hab | hba
  · exact absurd (((hmem b hb).1).trans_lt ((hmem a ha).2)) (not_lt.mpr hab)
  · exact absurd (((hmem a ha).1).trans_lt ((hmem b hb).2)) (not_lt.mpr hba)

/-- Among separated intervals, counting those around one point counts their
owners. -/
theorem card_owners_eq_length [DecidableEq κ] {l : List β}
    (hsep : l.Pairwise (Separated owner lower upper)) {t : α}
    (hmem : ∀ b ∈ l, lower b ≤ t ∧ t < upper b) :
    (l.map owner).toFinset.card = l.length := by
  rw [List.toFinset_card_of_nodup (nodup_owners hsep hmem), List.length_map]

/-- In a list sorted by owner, intervals that follow their neighbours follow all
earlier intervals of the owner. -/
theorem pairwise_of_neighbours [LinearOrder κ] {l : List β}
    (hsorted : l.Pairwise fun a b => owner a ≤ owner b) (hvalid : ∀ b ∈ l, lower b < upper b)
    (hchain : l.IsChain fun a b => owner a = owner b → upper a ≤ lower b) :
    l.Pairwise fun a b => owner a = owner b → upper a ≤ lower b := by
  induction l with
  | nil => exact .nil
  | cons a rest ih =>
      cases rest with
      | nil => exact List.pairwise_singleton _ _
      | cons b more =>
          rw [List.pairwise_cons] at hsorted
          rw [List.isChain_cons_cons] at hchain
          have htail := ih hsorted.2 (fun c hc => hvalid c (List.mem_cons_of_mem _ hc)) hchain.2
          rw [List.pairwise_cons]
          refine ⟨?_, htail⟩
          intro c hc howner
          have hab : owner a ≤ owner b := hsorted.1 b (by simp)
          rcases List.mem_cons.mp hc with rfl | hmore
          · exact hchain.1 howner
          · -- `b` lies between two intervals of one owner, so it is one of them
            have hbc : owner b ≤ owner c := (List.pairwise_cons.mp hsorted.2).1 c hmore
            have hsame : owner a = owner b := le_antisymm hab (howner ▸ hbc)
            have hnext := (List.pairwise_cons.mp htail).1 c hmore (hsame.symm.trans howner)
            calc upper a ≤ lower b := hchain.1 hsame
              _ ≤ upper b := (hvalid b (by simp)).le
              _ ≤ lower c := hnext

/-- In a list sorted by owner, intervals of one owner that touch are neighbours. -/
theorem pairwise_not_of_neighbours [LinearOrder κ] {l : List β} {R : β → β → Prop}
    (hR : ∀ {a b}, R a b → owner a = owner b ∧ upper a = lower b)
    (hsorted : l.Pairwise fun a b => owner a ≤ owner b) (hvalid : ∀ b ∈ l, lower b < upper b)
    (hfollows : l.Pairwise fun a b => owner a = owner b → upper a ≤ lower b)
    (hchain : l.IsChain fun a b => ¬ R a b) : l.Pairwise fun a b => ¬ R a b := by
  induction l with
  | nil => exact .nil
  | cons a rest ih =>
      cases rest with
      | nil => exact List.pairwise_singleton _ _
      | cons b more =>
          rw [List.pairwise_cons] at hsorted hfollows
          rw [List.isChain_cons_cons] at hchain
          rw [List.pairwise_cons]
          refine ⟨?_, ih hsorted.2 (fun c hc => hvalid c (List.mem_cons_of_mem _ hc)) hfollows.2
            hchain.2⟩
          intro c hc hac
          rcases List.mem_cons.mp hc with rfl | hmore
          · exact hchain.1 hac
          · -- `b` would have to fit between two intervals that touch
            obtain ⟨howner, hedge⟩ := hR hac
            have hbc : owner b ≤ owner c := (List.pairwise_cons.mp hsorted.2).1 c hmore
            have hsame : owner a = owner b :=
              le_antisymm (hsorted.1 b (by simp)) (howner ▸ hbc)
            have hnext := (List.pairwise_cons.mp hfollows.2).1 c hmore (hsame.symm.trans howner)
            have hlt : upper a < upper a := by
              calc upper a ≤ lower b := hfollows.1 b (by simp) hsame
                _ < upper b := hvalid b (by simp)
                _ ≤ lower c := hnext
                _ = upper a := hedge.symm
            exact lt_irrefl _ hlt

/-- The interval belongs to the owner and contains the point. -/
def covering [DecidableEq κ] (owner : β → κ) (lower upper : β → α) (k : κ) (t : α) (b : β) : Bool :=
  owner b = k && lower b ≤ t && t < upper b

theorem covering_iff [DecidableEq κ] {k : κ} {t : α} {b : β} :
    covering owner lower upper k t b = true ↔ owner b = k ∧ lower b ≤ t ∧ t < upper b := by
  simp only [covering, Bool.and_eq_true, decide_eq_true_eq, and_assoc]

/-- Separated intervals cover a point at most once for each owner. -/
theorem countP_covering_le_one [DecidableEq κ] {l : List β}
    (hsep : l.Pairwise (Separated owner lower upper)) (k : κ) (t : α) :
    l.countP (covering owner lower upper k t) ≤ 1 := by
  have hin : ∀ b ∈ l.filter (covering owner lower upper k t),
      owner b = k ∧ lower b ≤ t ∧ t < upper b := by
    intro b hb
    exact covering_iff.mp (List.mem_filter.mp hb).2
  have hnodup : ((l.filter (covering owner lower upper k t)).map owner).Nodup :=
    nodup_owners (hsep.filter _) fun b hb => (hin b hb).2
  have hall : ((l.filter (covering owner lower upper k t)).map owner) ⊆ [k] := by
    intro x hx
    obtain ⟨b, hb, rfl⟩ := List.mem_map.mp hx
    simp [(hin b hb).1]
  have hlength := (hnodup.subperm hall).length_le
  rw [List.countP_eq_length_filter]
  simpa using hlength

/-- Intervals that are not empty and cover each point at most once for each
owner are separated. -/
theorem pairwise_separated_of_countP [DecidableEq κ] {l : List β}
    (hvalid : ∀ b ∈ l, lower b < upper b)
    (hcount : ∀ k t, l.countP (covering owner lower upper k t) ≤ 1) :
    l.Pairwise (Separated owner lower upper) := by
  induction l with
  | nil => exact .nil
  | cons b rest ih =>
      rw [List.pairwise_cons]
      constructor
      · intro c hc howner
        by_contra hoverlap
        rw [not_or, not_le, not_le] at hoverlap
        have hb := hvalid b (by simp)
        have hc' := hvalid c (by simp [hc])
        -- both contain the later of the two starts
        have hfirst : covering owner lower upper (owner b) (max (lower b) (lower c)) b = true :=
          covering_iff.mpr ⟨rfl, le_max_left _ _, max_lt hb hoverlap.1⟩
        have hsecond : covering owner lower upper (owner b) (max (lower b) (lower c)) c = true :=
          covering_iff.mpr ⟨howner.symm, le_max_right _ _, max_lt hoverlap.2 hc'⟩
        have htwo := hcount (owner b) (max (lower b) (lower c))
        have hone : 0 < rest.countP
            (covering owner lower upper (owner b) (max (lower b) (lower c))) :=
          List.countP_pos_iff.mpr ⟨c, hc, hsecond⟩
        rw [List.countP_cons, if_pos hfirst] at htwo
        omega
      · refine ih (fun c hc => hvalid c (by simp [hc])) ?_
        intro k t
        have hle := hcount k t
        rw [List.countP_cons] at hle
        omega

end Owners

/-! ## The order of pairs -/

/-- The order of `(start, end)` pairs. -/
def intervalLe (first second : Int × Int) : Prop :=
  first.1 < second.1 ∨ (first.1 = second.1 ∧ first.2 ≤ second.2)

instance : DecidableRel intervalLe := fun _ _ => inferInstanceAs (Decidable (_ ∨ _))

/-- The order of `(start, end, index)` triples. -/
def rankedLe (first second : (Int × Int) × Nat) : Prop :=
  (first.1 ≠ second.1 ∧ intervalLe first.1 second.1) ∨ (first.1 = second.1 ∧ first.2 ≤ second.2)

instance : DecidableRel rankedLe := fun _ _ => inferInstanceAs (Decidable (_ ∨ _))

/-! ## How much of an interval lies in a window -/

/-- The length of the part of `[a, b)` inside `[lo, hi)`. -/
def overlapLength (a b lo hi : ℤ) : ℤ :=
  max 0 (min b hi - max a lo)

theorem overlapLength_nonneg (a b lo hi : ℤ) : 0 ≤ overlapLength a b lo hi :=
  le_max_left _ _

/-- Cutting an interval splits its measure. -/
theorem overlapLength_add {a b c lo hi : ℤ} (hab : a ≤ b) (hbc : b ≤ c) (hw : lo ≤ hi) :
    overlapLength a b lo hi + overlapLength b c lo hi = overlapLength a c lo hi := by
  unfold overlapLength
  omega

/-- An interval that misses the window contributes nothing. -/
theorem overlapLength_eq_zero {a b lo hi : ℤ} (h : b ≤ lo ∨ hi ≤ a) :
    overlapLength a b lo hi = 0 := by
  unfold overlapLength
  omega

end LunchLineup.Lib
