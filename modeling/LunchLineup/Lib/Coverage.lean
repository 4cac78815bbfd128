import LunchLineup.Lib.Interval

/-!
# Covering a window by intervals with holes

A duty is an interval with holes: a shift with its breaks.  A coverage check
samples a window between consecutive boundaries and counts the duties that span
the whole piece without a hole in it (`workingOn`).  As long as an interval
that reaches into a piece covers it (`Uncut`), spanning the piece is the same
as being on duty at any one of its points (`workingOn_iff_onDuty`), so the
sampled counts are the counts at every instant.  The boundaries `clippedEdges`
of a window leave every duty and every hole uncut.  If the duties of one owner
are separated, these counts are numbers of owners (`card_onDutyOwners`).
-/

namespace LunchLineup.Lib

variable {α : Type*} [LinearOrder α]

/-- An interval with holes. -/
structure Duty (α : Type*) where
  lower : α
  upper : α
  holes : List (α × α)
  deriving DecidableEq

namespace Duty

/-- The point is in the interval and in none of its holes. -/
def onDuty (duty : Duty α) (t : α) : Bool :=
  duty.lower ≤ t && t < duty.upper && !duty.holes.any fun hole => hole.1 ≤ t && t < hole.2

/-- The interval spans the piece and no hole reaches into it. -/
def workingOn (duty : Duty α) (a b : α) : Bool :=
  duty.lower ≤ a && b ≤ duty.upper && !duty.holes.any fun hole => hole.1 < b && a < hole.2

theorem onDuty_iff {duty : Duty α} {t : α} :
    duty.onDuty t = true ↔
      duty.lower ≤ t ∧ t < duty.upper ∧ ∀ hole ∈ duty.holes, ¬ (hole.1 ≤ t ∧ t < hole.2) := by
  simp only [onDuty, Bool.and_eq_true, Bool.not_eq_true', decide_eq_true_eq, List.any_eq_false,
    and_assoc]

theorem workingOn_iff {duty : Duty α} {a b : α} :
    duty.workingOn a b = true ↔
      duty.lower ≤ a ∧ b ≤ duty.upper ∧ ∀ hole ∈ duty.holes, ¬ (hole.1 < b ∧ a < hole.2) := by
  simp only [workingOn, Bool.and_eq_true, Bool.not_eq_true', decide_eq_true_eq, List.any_eq_false,
    and_assoc]

/-- The interval from `lower` to `upper` covers the piece if it reaches into
it. -/
def Uncut (a b lower upper : α) : Prop :=
  lower < b → a < upper → lower ≤ a ∧ b ≤ upper

/-- On an uncut piece, spanning it and being on duty at one of its points are
the same. -/
theorem workingOn_iff_onDuty {duty : Duty α} {a b t : α} (hle : a ≤ t) (hlt : t < b)
    (hduty : Uncut a b duty.lower duty.upper)
    (hholes : duty.lower ≤ a → b ≤ duty.upper → ∀ hole ∈ duty.holes, Uncut a b hole.1 hole.2) :
    duty.workingOn a b = true ↔ duty.onDuty t = true := by
  rw [workingOn_iff, onDuty_iff]
  constructor
  · rintro ⟨hlower, hupper, hfree⟩
    refine ⟨hlower.trans hle, hlt.trans_le hupper, ?_⟩
    rintro hole hmem ⟨hopen, hclose⟩
    exact hfree hole hmem ⟨hopen.trans_lt hlt, hle.trans_lt hclose⟩
  · rintro ⟨hlower, hupper, hfree⟩
    obtain ⟨hspanLower, hspanUpper⟩ := hduty (hlower.trans_lt hlt) (hle.trans_lt hupper)
    refine ⟨hspanLower, hspanUpper, ?_⟩
    rintro hole hmem ⟨hopen, hclose⟩
    obtain ⟨hcoverLower, hcoverUpper⟩ := hholes hspanLower hspanUpper hole hmem hopen hclose
    exact hfree hole hmem ⟨hcoverLower.trans hle, hlt.trans_le hcoverUpper⟩

end Duty

/-! ## The boundaries of a window -/

/-- The endpoints of a window and the edges that reach into it, clipped to it. -/
def clippedEdges (lo hi : α) (duties : List (Duty α)) : List α :=
  lo :: hi :: (duties.filter fun duty => lo < duty.upper && duty.lower < hi).flatMap fun duty =>
    max lo duty.lower :: min hi duty.upper ::
      (duty.holes.filter fun hole => lo < hole.2 && hole.1 < hi).flatMap fun hole =>
        [max lo hole.1, min hi hole.2]

/-- An interval whose clipped endpoints are boundaries is uncut by the pieces
between them. -/
theorem uncut_of_mem_cuts {boundaries : List α} (hsorted : boundaries.Pairwise (· < ·))
    {lo hi lower upper : α} {piece : α × α} (hpiece : piece ∈ cuts boundaries)
    (hlo : lo ≤ piece.1) (hhi : piece.2 ≤ hi)
    (hedges : lo < upper → lower < hi → max lo lower ∈ boundaries ∧ min hi upper ∈ boundaries) :
    Duty.Uncut piece.1 piece.2 lower upper := by
  intro hlower hupper
  obtain ⟨hmax, hmin⟩ := hedges (hlo.trans_lt hupper) (hlower.trans_le hhi)
  have hnone := (not_lt_lt_of_mem_cuts hsorted hpiece).2
  constructor
  · by_contra hnot
    have hinside : lo ≤ lower := hlo.trans (not_le.mp hnot).le
    exact hnone lower (max_eq_right hinside ▸ hmax) ⟨not_le.mp hnot, hlower⟩
  · by_contra hnot
    have hinside : upper ≤ hi := (not_le.mp hnot).le.trans hhi
    exact hnone upper (min_eq_right hinside ▸ hmin) ⟨hupper, not_le.mp hnot⟩

section

variable {lo hi : α} {duties : List (Duty α)} {duty : Duty α}

theorem mem_clippedEdges_of_duty (hmem : duty ∈ duties) (hupper : lo < duty.upper)
    (hlower : duty.lower < hi) :
    max lo duty.lower ∈ clippedEdges lo hi duties ∧
      min hi duty.upper ∈ clippedEdges lo hi duties := by
  have hreach : duty ∈ duties.filter fun duty => lo < duty.upper && duty.lower < hi := by
    simp [hmem, hupper, hlower]
  constructor
  all_goals
    refine List.mem_cons_of_mem _ (List.mem_cons_of_mem _ (List.mem_flatMap.mpr ⟨duty, hreach, ?_⟩))
    simp

theorem mem_clippedEdges_of_hole (hmem : duty ∈ duties) (hupper : lo < duty.upper)
    (hlower : duty.lower < hi) {hole : α × α} (hhole : hole ∈ duty.holes)
    (hclose : lo < hole.2) (hopen : hole.1 < hi) :
    max lo hole.1 ∈ clippedEdges lo hi duties ∧ min hi hole.2 ∈ clippedEdges lo hi duties := by
  have hreach : duty ∈ duties.filter fun duty => lo < duty.upper && duty.lower < hi := by
    simp [hmem, hupper, hlower]
  have hholeReach : hole ∈ duty.holes.filter fun hole => lo < hole.2 && hole.1 < hi := by
    simp [hhole, hclose, hopen]
  have hinner : ∀ x ∈ [max lo hole.1, min hi hole.2], x ∈ clippedEdges lo hi duties := by
    intro x hx
    refine List.mem_cons_of_mem _ (List.mem_cons_of_mem _ (List.mem_flatMap.mpr ⟨duty, hreach, ?_⟩))
    exact List.mem_cons_of_mem _ (List.mem_cons_of_mem _
      (List.mem_flatMap.mpr ⟨hole, hholeReach, hx⟩))
  exact ⟨hinner _ (by simp), hinner _ (by simp)⟩

/-- Clipped edges stay in the window. -/
theorem bounds_of_mem_clippedEdges (hlohi : lo ≤ hi) {x : α}
    (hx : x ∈ clippedEdges lo hi duties) : lo ≤ x ∧ x ≤ hi := by
  simp only [clippedEdges, List.mem_cons, List.mem_flatMap, List.mem_filter,
    Bool.and_eq_true, decide_eq_true_eq, List.not_mem_nil, or_false] at hx
  rcases hx with rfl | rfl | ⟨duty, ⟨_, hreach⟩, rfl | rfl | ⟨hole, ⟨_, hholeReach⟩, rfl | rfl⟩⟩
  · exact ⟨le_rfl, hlohi⟩
  · exact ⟨hlohi, le_rfl⟩
  · exact ⟨le_max_left _ _, max_le hlohi hreach.2.le⟩
  · exact ⟨le_min hlohi hreach.1.le, min_le_left _ _⟩
  · exact ⟨le_max_left _ _, max_le hlohi hholeReach.2.le⟩
  · exact ⟨le_min hlohi hholeReach.1.le, min_le_left _ _⟩

/-- Between the boundaries of a window, the duties that span a piece are those
on duty at any point of it. -/
theorem workingOn_iff_onDuty_of_mem_cuts {piece : α × α}
    (hpiece : piece ∈ cuts (sortedSet (clippedEdges lo hi duties))) (hlohi : lo ≤ hi)
    (hmem : duty ∈ duties) {t : α} (hle : piece.1 ≤ t) (hlt : t < piece.2) :
    duty.workingOn piece.1 piece.2 = true ↔ duty.onDuty t = true := by
  have hsorted := sortedSet_pairwise_lt (clippedEdges lo hi duties)
  obtain ⟨hfirst, hsecond⟩ := mem_of_mem_cuts hpiece
  have hlo := (bounds_of_mem_clippedEdges hlohi (mem_sortedSet.mp hfirst)).1
  have hhi := (bounds_of_mem_clippedEdges hlohi (mem_sortedSet.mp hsecond)).2
  have hpos := (not_lt_lt_of_mem_cuts hsorted hpiece).1
  refine Duty.workingOn_iff_onDuty hle hlt ?_ ?_
  · refine uncut_of_mem_cuts hsorted hpiece hlo hhi ?_
    intro hupper hlower
    simpa only [mem_sortedSet] using mem_clippedEdges_of_duty hmem hupper hlower
  · intro hspanLower hspanUpper hole hhole
    refine uncut_of_mem_cuts hsorted hpiece hlo hhi ?_
    intro hclose hopen
    have hupper : lo < duty.upper := (hlo.trans_lt hpos).trans_le hspanUpper
    have hlower : duty.lower < hi := (hspanLower.trans_lt hpos).trans_le hhi
    simpa only [mem_sortedSet] using
      mem_clippedEdges_of_hole hmem hupper hlower hhole hclose hopen

/-- Every point of a window lies in one of its pieces. -/
theorem exists_mem_cuts_clippedEdges {t : α} (hle : lo ≤ t) (hlt : t < hi) :
    ∃ piece ∈ cuts (sortedSet (clippedEdges lo hi duties)), piece.1 ≤ t ∧ t < piece.2 := by
  refine exists_mem_cuts (sortedSet_pairwise_lt _) (mem_sortedSet.mpr ?_) (mem_sortedSet.mpr ?_)
    hle hlt
  · exact List.mem_cons_self
  · exact List.mem_cons_of_mem _ List.mem_cons_self

end

/-! ## Owners on duty -/

section Owners

variable {β κ : Type*} [DecidableEq κ] (owner : β → κ) (duty : β → Duty α)

/-- The owners of the duties at a point. -/
def onDutyOwners (l : List β) (t : α) : Finset κ :=
  ((l.filter fun b => (duty b).onDuty t).map owner).toFinset

variable {owner duty} {l : List β} {t : α}

omit [DecidableEq κ] in
/-- Among separated duties, those at one point belong to distinct owners. -/
theorem nodup_onDuty
    (hapart : l.Pairwise (Separated owner (fun b => (duty b).lower) fun b => (duty b).upper)) :
    ((l.filter fun b => (duty b).onDuty t).map owner).Nodup := by
  refine nodup_owners (hapart.filter _) (t := t) ?_
  intro b hb
  obtain ⟨hlower, hupper, _⟩ := Duty.onDuty_iff.mp (List.mem_filter.mp hb).2
  exact ⟨hlower, hupper⟩

/-- Among separated duties, counting those at one point counts their owners. -/
theorem card_onDutyOwners
    (hapart : l.Pairwise (Separated owner (fun b => (duty b).lower) fun b => (duty b).upper)) :
    (onDutyOwners owner duty l t).card = (l.filter fun b => (duty b).onDuty t).length := by
  rw [onDutyOwners, List.toFinset_card_of_nodup (nodup_onDuty hapart), List.length_map]

/-- The same for the owners with a property. -/
theorem card_filter_onDutyOwners (p : κ → Bool)
    (hapart : l.Pairwise (Separated owner (fun b => (duty b).lower) fun b => (duty b).upper)) :
    ((onDutyOwners owner duty l t).filter fun k => p k).card =
      (l.filter fun b => (duty b).onDuty t).countP fun b => p (owner b) := by
  rw [onDutyOwners, ← List.toFinset_filter,
    List.toFinset_card_of_nodup ((nodup_onDuty hapart).filter _), List.filter_map,
    List.length_map, List.countP_eq_length_filter]
  rfl

end Owners

/-- Between the boundaries of a window, filtering by spanning a piece is
filtering by being on duty at a point of it. -/
theorem filter_workingOn_eq {β : Type*} {duty : β → Duty α} {l : List β} {lo hi : α}
    {piece : α × α} (hpiece : piece ∈ cuts (sortedSet (clippedEdges lo hi (l.map duty))))
    (hlohi : lo ≤ hi) {t : α} (hle : piece.1 ≤ t) (hlt : t < piece.2) :
    (l.filter fun b => (duty b).workingOn piece.1 piece.2) =
      l.filter fun b => (duty b).onDuty t := by
  refine List.filter_congr fun b hb => ?_
  rw [Bool.eq_iff_iff]
  exact workingOn_iff_onDuty_of_mem_cuts hpiece hlohi (List.mem_map_of_mem hb) hle hlt

end LunchLineup.Lib
