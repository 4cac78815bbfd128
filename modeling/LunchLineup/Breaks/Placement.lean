import LunchLineup.Breaks.Board
import Mathlib.Data.Prod.Lex

/-!
# Placing the breaks of a shift

`placeBreakSubset` computes the latest start of each break from the end of the shift back,
then goes forward and places each break near its preferred start, rounded to the time step
and kept between the earliest and the latest start.  The rounding cannot do harm: whatever
number it gives, the start stays at or before the latest one, and the latest start of a break
leaves room for all later ones (`latestStart_eq`).  So the forward pass succeeds exactly when
the first break can start 30 minutes into the shift, `placeFrom_isSome_iff`.

`placeBreaks` tries all selections of the three breaks and keeps the best.
-/

namespace LunchLineup.Breaks

open LunchLineup.Lib

/-! ## The service -/

/-- An entry of `specs`. -/
structure BreakSpec where
  type : BreakType
  durationMinutes : Int
  preferredStartMs : Int
  paid : Bool
  priority : Nat
  deriving DecidableEq

/-- The duration in milliseconds. -/
def BreakSpec.durationMs (spec : BreakSpec) : Int := spec.durationMinutes * 60000

/-- `minimumGap`. -/
def minimumGap (left right : BreakType) : Int :=
  if left = .break1 ∧ right = .lunch then 30 * 60000 else 15 * 60000

/-- The entry of `latestStarts` for the first of the given breaks, which are the last ones of
the shift. -/
def latestStart (shiftEndMs : Int) : List BreakSpec → Int
  | [] => shiftEndMs
  | [spec] => shiftEndMs - spec.durationMs
  | spec :: next :: rest =>
      latestStart shiftEndMs (next :: rest) - minimumGap spec.type next.type - spec.durationMs

/-- The start of a break between its earliest and its latest one. -/
def placedStart (stepMs earliest latest preferred : Int) : Int :=
  let rounded := mathRound ((min latest (max earliest preferred) : Int) / (stepMs : Rat)) * stepMs
  min latest (max earliest rounded)

/-- A break that starts at the given time. -/
def BreakSpec.placedAt (spec : BreakSpec) (start : Int) : PublicBreak where
  type := spec.type
  startTime := start
  endTime := start + spec.durationMs
  durationMinutes := spec.durationMinutes
  paid := spec.paid

/-- The forward pass of `placeBreakSubset`. -/
def placeFrom (shiftStartMs shiftEndMs stepMs earliest : Int) :
    List BreakSpec → Option (List PublicBreak)
  | [] => some []
  | spec :: rest =>
      let latest := latestStart shiftEndMs (spec :: rest)
      if latest < earliest then none
      else
        let start := placedStart stepMs earliest latest spec.preferredStartMs
        let finish := start + spec.durationMs
        if start < shiftStartMs ∨ shiftEndMs < finish ∨ finish ≤ start then none
        else
          let next := match rest with
            | [] => earliest
            | following :: _ => finish + minimumGap spec.type following.type
          (placeFrom shiftStartMs shiftEndMs stepMs next rest).map (spec.placedAt start :: ·)

/-- `placeBreakSubset`. -/
def placeBreakSubset (shiftStartMs shiftEndMs stepMs : Int) (specs : List BreakSpec) :
    Option (List PublicBreak) :=
  placeFrom shiftStartMs shiftEndMs stepMs (shiftStartMs + 30 * 60000) specs

/-- `specs` of `placeBreaks`. -/
def breakSpecs (shiftStartMs : Int) (policy : LunchBreakPolicy) (lunchDuration : Int) :
    List BreakSpec := [
  { type := .break1
    durationMinutes := policy.break1DurationMinutes
    preferredStartMs := shiftStartMs + policy.break1OffsetMinutes * 60000
    paid := true
    priority := 2 },
  { type := .lunch
    durationMinutes := lunchDuration
    preferredStartMs := shiftStartMs + policy.lunchOffsetMinutes * 60000
    paid := false
    priority := 4 },
  { type := .break2
    durationMinutes := policy.break2DurationMinutes
    preferredStartMs := shiftStartMs +
      (policy.lunchOffsetMinutes + lunchDuration + policy.break2OffsetMinutes) * 60000
    paid := true
    priority := 1 }]

/-- `selected`: the entries whose bit is set. -/
def selectSpecs (specs : List BreakSpec) (mask : Nat) : List BreakSpec :=
  (specs.zipIdx.filter fun entry => mask.testBit entry.2).map Prod.fst

/-- The sum of the priorities. -/
def prioritySum (specs : List BreakSpec) : Nat := (specs.map (·.priority)).sum

/-- `best`. -/
structure BestPlacement where
  breaks : List PublicBreak
  score : Nat

/-- One round of the loop over the masks. -/
def BestPlacement.consider (place : List BreakSpec → Option (List PublicBreak)) (best : BestPlacement)
    (selected : List BreakSpec) : BestPlacement :=
  match place selected with
  | none => best
  | some candidate =>
      if best.breaks.length < candidate.length ∨
          candidate.length = best.breaks.length ∧ best.score < prioritySum selected then
        ⟨candidate, prioritySum selected⟩
      else best

/-- `placeBreaks`. -/
def placeBreaks (shiftStartMs shiftEndMs : Int) (policy : LunchBreakPolicy)
    (lunchDuration : Int) : List PublicBreak :=
  let specs := breakSpecs shiftStartMs policy lunchDuration
  let place := placeBreakSubset shiftStartMs shiftEndMs (policy.timeStepMinutes * 60000)
  (((List.range 7).map fun n => selectSpecs specs (n + 1)).foldl (BestPlacement.consider place)
    ⟨[], 0⟩).breaks

/-- The breaks that `buildBreakSchedule` gives a shift, under the policy of the request. -/
def generatedBreaks (shiftStartMs shiftEndMs : Int) (policy : StoredPolicy)
    (lunchDurationMinutes : Option Rat) : List PublicBreak :=
  placeBreaks shiftStartMs shiftEndMs (normalizePolicy policy)
    (integer lunchDurationMinutes (normalizePolicy policy).lunchDurationMinutes 15 120)

/-! ## Feasibility -/

/-- The durations of the breaks and the gaps between them. -/
def requiredMs : List BreakSpec → Int
  | [] => 0
  | [spec] => spec.durationMs
  | spec :: next :: rest =>
      spec.durationMs + minimumGap spec.type next.type + requiredMs (next :: rest)

theorem latestStart_eq (shiftEndMs : Int) (specs : List BreakSpec) :
    latestStart shiftEndMs specs = shiftEndMs - requiredMs specs := by
  induction specs using latestStart.induct with
  | case1 => simp [latestStart, requiredMs]
  | case2 spec => rfl
  | case3 spec next rest ih =>
      rw [latestStart, requiredMs, ih]
      omega

theorem minimumGap_pos (left right : BreakType) : 0 < minimumGap left right := by
  unfold minimumGap
  split
  · omega
  · omega

theorem requiredMs_nonneg {specs : List BreakSpec} (h : ∀ spec ∈ specs, 0 < spec.durationMinutes) :
    0 ≤ requiredMs specs := by
  induction specs using requiredMs.induct with
  | case1 => exact le_refl 0
  | case2 spec =>
      have hspec := h spec List.mem_cons_self
      simp only [requiredMs, BreakSpec.durationMs]
      omega
  | case3 spec next rest ih =>
      have hspec := h spec List.mem_cons_self
      have hgap := minimumGap_pos spec.type next.type
      have hrest := ih fun other hother => h other (List.mem_cons_of_mem _ hother)
      simp only [requiredMs, BreakSpec.durationMs] at hrest ⊢
      omega

/-- Between the earliest and the latest start, whatever the rounding gives. -/
theorem placedStart_mem {stepMs earliest latest preferred : Int} (h : earliest ≤ latest) :
    earliest ≤ placedStart stepMs earliest latest preferred ∧
      placedStart stepMs earliest latest preferred ≤ latest := by
  unfold placedStart
  exact ⟨le_min h (le_max_left _ _), min_le_left _ _⟩

/-- A placement of the breaks, in their order. -/
structure WellPlaced (earliest shiftEndMs : Int) (specs : List BreakSpec)
    (placed : List PublicBreak) : Prop where
  breaks : List.Forall₂ (fun spec entry => entry = spec.placedAt entry.startTime) specs placed
  inside : ∀ entry ∈ placed, earliest ≤ entry.startTime ∧ entry.endTime ≤ shiftEndMs
  gaps : placed.IsChain fun left right =>
    left.endTime + minimumGap left.type right.type ≤ right.startTime

section Forward

variable {shiftStartMs shiftEndMs stepMs earliest : Int} {spec : BreakSpec}
  {specs rest : List BreakSpec} {placed : List PublicBreak}

/-- The earliest start of the breaks after one that ends at `finish`. -/
def nextEarliest (spec : BreakSpec) (earliest finish : Int) : List BreakSpec → Int
  | [] => earliest
  | following :: _ => finish + minimumGap spec.type following.type

/-- The time that a break and its gap take of what the shift has. -/
theorem requiredMs_cons (spec : BreakSpec) (earliest finish : Int) (rest : List BreakSpec)
    (hrest : rest ≠ []) :
    requiredMs (spec :: rest) =
      spec.durationMs + (nextEarliest spec earliest finish rest - finish) + requiredMs rest := by
  cases rest with
  | nil => exact absurd rfl hrest
  | cons following more =>
      simp only [requiredMs, nextEarliest]
      omega

theorem durationMs_pos (h : ∀ other ∈ spec :: rest, 0 < other.durationMinutes) :
    0 < spec.durationMs := by
  have hminutes := h spec List.mem_cons_self
  unfold BreakSpec.durationMs
  omega

theorem durationMs_le_requiredMs (h : ∀ other ∈ spec :: rest, 0 < other.durationMinutes) :
    spec.durationMs ≤ requiredMs (spec :: rest) := by
  cases rest with
  | nil => exact le_refl _
  | cons following more =>
      have hgap := minimumGap_pos spec.type following.type
      have hmore := requiredMs_nonneg fun other hother => h other (List.mem_cons_of_mem _ hother)
      simp only [requiredMs] at hmore ⊢
      omega

/-- One step of the forward pass: the checks after the placement always pass. -/
theorem placeFrom_cons (stepMs : Int) (hpositive : ∀ other ∈ spec :: rest, 0 < other.durationMinutes)
    (hstart : shiftStartMs ≤ earliest)
    (hfits : earliest ≤ latestStart shiftEndMs (spec :: rest)) :
    ∃ start, earliest ≤ start ∧ start ≤ latestStart shiftEndMs (spec :: rest) ∧
      placeFrom shiftStartMs shiftEndMs stepMs earliest (spec :: rest) =
        (placeFrom shiftStartMs shiftEndMs stepMs
          (nextEarliest spec earliest (start + spec.durationMs) rest) rest).map
            (spec.placedAt start :: ·) := by
  obtain ⟨start, hplaced⟩ : ∃ start, start = placedStart stepMs earliest
    (latestStart shiftEndMs (spec :: rest)) spec.preferredStartMs := ⟨_, rfl⟩
  obtain ⟨hearly, hlate⟩ : earliest ≤ start ∧ start ≤ latestStart shiftEndMs (spec :: rest) :=
    hplaced ▸ placedStart_mem hfits
  refine ⟨start, hearly, hlate, ?_⟩
  have hlatest := latestStart_eq shiftEndMs (spec :: rest)
  have hduration := durationMs_pos hpositive
  have hroom := durationMs_le_requiredMs hpositive
  have hvalid : ¬ (start < shiftStartMs ∨ shiftEndMs < start + spec.durationMs ∨
      start + spec.durationMs ≤ start) := by omega
  rw [placeFrom, if_neg (not_lt.mpr hfits)]
  simp only [← hplaced, if_neg hvalid]
  cases rest with
  | nil => rfl
  | cons following more => rfl

/-- The later breaks can start where the placed one leaves them. -/
theorem nextEarliest_le {start : Int} (hrest : rest ≠ [])
    (hlate : start ≤ latestStart shiftEndMs (spec :: rest)) :
    nextEarliest spec earliest (start + spec.durationMs) rest + requiredMs rest ≤ shiftEndMs := by
  have hlatest := latestStart_eq shiftEndMs (spec :: rest)
  have hrequired := requiredMs_cons spec earliest (start + spec.durationMs) rest hrest
  omega

theorem le_nextEarliest (rest : List BreakSpec) {start : Int} (hearly : earliest ≤ start)
    (hduration : 0 < spec.durationMs) :
    earliest ≤ nextEarliest spec earliest (start + spec.durationMs) rest := by
  cases rest with
  | nil => exact le_refl _
  | cons following more =>
      have hgap := minimumGap_pos spec.type following.type
      simp only [nextEarliest]
      omega

/-- The forward pass succeeds exactly when the breaks fit after the earliest start. -/
theorem placeFrom_isSome_iff (hpositive : ∀ spec ∈ specs, 0 < spec.durationMinutes)
    (hstart : shiftStartMs ≤ earliest) :
    (placeFrom shiftStartMs shiftEndMs stepMs earliest specs).isSome = true ↔
      specs = [] ∨ earliest + requiredMs specs ≤ shiftEndMs := by
  induction specs generalizing earliest with
  | nil => simp [placeFrom]
  | cons spec rest ih =>
      have hlatest := latestStart_eq shiftEndMs (spec :: rest)
      have hrest : ∀ other ∈ rest, 0 < other.durationMinutes :=
        fun other hother => hpositive other (List.mem_cons_of_mem _ hother)
      by_cases hfits : earliest ≤ latestStart shiftEndMs (spec :: rest)
      · obtain ⟨start, hearly, hlate, hstep⟩ := placeFrom_cons stepMs hpositive hstart hfits
        have hnext := le_nextEarliest rest hearly (durationMs_pos hpositive)
        rw [hstep, Option.isSome_map, ih hrest (hstart.trans hnext)]
        constructor
        · intro _
          exact .inr (by omega)
        · intro _
          by_cases hnil : rest = []
          · exact .inl hnil
          · exact .inr (nextEarliest_le hnil hlate)
      · rw [placeFrom, if_pos (not_le.mp hfits)]
        constructor
        · intro h
          cases h
        · rintro (hnil | hroom)
          · cases hnil
          · omega

/-- What the forward pass returns is a placement. -/
theorem placeFrom_wellPlaced (hpositive : ∀ spec ∈ specs, 0 < spec.durationMinutes)
    (hstart : shiftStartMs ≤ earliest)
    (h : placeFrom shiftStartMs shiftEndMs stepMs earliest specs = some placed) :
    WellPlaced earliest shiftEndMs specs placed := by
  induction specs generalizing earliest placed with
  | nil =>
      obtain rfl := Option.some.inj h
      exact ⟨.nil, by simp, .nil⟩
  | cons spec rest ih =>
      have hlatest := latestStart_eq shiftEndMs (spec :: rest)
      have hrest : ∀ other ∈ rest, 0 < other.durationMinutes :=
        fun other hother => hpositive other (List.mem_cons_of_mem _ hother)
      by_cases hfits : earliest ≤ latestStart shiftEndMs (spec :: rest)
      · obtain ⟨start, hearly, hlate, hstep⟩ := placeFrom_cons stepMs hpositive hstart hfits
        have hnext := le_nextEarliest rest hearly (durationMs_pos hpositive)
        obtain ⟨later, hlater, rfl⟩ := Option.map_eq_some_iff.mp (hstep.symm.trans h)
        obtain ⟨hbreaks, hinside, hgaps⟩ := ih hrest (hstart.trans hnext) hlater
        refine ⟨.cons rfl hbreaks, ?_, ?_⟩
        · intro entry hentry
          rcases List.mem_cons.mp hentry with rfl | hentry
          · have hroom := durationMs_le_requiredMs hpositive
            refine ⟨hearly, ?_⟩
            show start + spec.durationMs ≤ shiftEndMs
            omega
          · obtain ⟨hentry_start, hentry_end⟩ := hinside entry hentry
            exact ⟨hnext.trans hentry_start, hentry_end⟩
        · cases hbreaks with
          | nil => exact List.isChain_singleton _
          | cons hfirst hmore =>
              rename_i following first more entries
              refine List.isChain_cons_cons.mpr ⟨?_, hgaps⟩
              have htype : first.type = following.type := by rw [hfirst]; rfl
              have hafter := (hinside first List.mem_cons_self).1
              rw [htype]
              exact hafter
      · rw [placeFrom, if_pos (not_le.mp hfits)] at h
        cases h

end Forward

/-! ## The best selection -/

/-- Selections are compared by their size, then by their priorities. -/
def BestPlacement.rank (best : BestPlacement) : ℕ ×ₗ ℕ := toLex (best.breaks.length, best.score)

section Best

variable {place : List BreakSpec → Option (List PublicBreak)}

/-- A selection takes the place of the best one exactly when it ranks higher. -/
theorem BestPlacement.consider_cases (best : BestPlacement) (selected : List BreakSpec) :
    (best.consider place selected = best ∧ ∀ candidate, place selected = some candidate →
      (⟨candidate, prioritySum selected⟩ : BestPlacement).rank ≤ best.rank) ∨
    ∃ candidate, place selected = some candidate ∧
      best.consider place selected = ⟨candidate, prioritySum selected⟩ ∧
        best.rank ≤ (⟨candidate, prioritySum selected⟩ : BestPlacement).rank := by
  unfold BestPlacement.consider
  cases hplace : place selected with
  | none => exact .inl ⟨rfl, fun candidate h => by cases h⟩
  | some candidate =>
      simp only [BestPlacement.rank, Prod.Lex.toLex_le_toLex]
      by_cases hbetter : best.breaks.length < candidate.length ∨
          candidate.length = best.breaks.length ∧ best.score < prioritySum selected
      · rw [if_pos hbetter]
        exact .inr ⟨candidate, rfl, rfl, by omega⟩
      · rw [if_neg hbetter]
        refine .inl ⟨rfl, fun other hother => ?_⟩
        obtain rfl := Option.some.inj hother
        omega

/-- The loop over the selections ends with the first of the highest rank. -/
theorem foldl_consider (place : List BreakSpec → Option (List PublicBreak))
    (selections : List (List BreakSpec)) (best : BestPlacement) :
    best.rank ≤ (selections.foldl (BestPlacement.consider place) best).rank ∧
      (∀ selected ∈ selections, ∀ candidate, place selected = some candidate →
        (⟨candidate, prioritySum selected⟩ : BestPlacement).rank ≤
          (selections.foldl (BestPlacement.consider place) best).rank) ∧
      (selections.foldl (BestPlacement.consider place) best = best ∨
        ∃ selected ∈ selections, ∃ candidate, place selected = some candidate ∧
          selections.foldl (BestPlacement.consider place) best =
            ⟨candidate, prioritySum selected⟩) := by
  induction selections generalizing best with
  | nil => exact ⟨le_refl _, by simp, .inl rfl⟩
  | cons selected rest ih =>
      obtain ⟨hle, hmost, hone⟩ := ih (best.consider place selected)
      rw [List.foldl_cons]
      rcases best.consider_cases selected with ⟨hkept, hlow⟩ | ⟨candidate, hplace, htaken, hhigh⟩
      · rw [hkept] at hle hmost hone ⊢
        refine ⟨hle, ?_, ?_⟩
        · intro other hother candidate hcandidate
          rcases List.mem_cons.mp hother with rfl | hother
          · exact (hlow candidate hcandidate).trans hle
          · exact hmost other hother candidate hcandidate
        · rcases hone with hsame | ⟨other, hother, hrest⟩
          · exact .inl hsame
          · exact .inr ⟨other, List.mem_cons_of_mem _ hother, hrest⟩
      · rw [htaken] at hle hmost hone ⊢
        refine ⟨hhigh.trans hle, ?_, ?_⟩
        · intro other hother found hfound
          rcases List.mem_cons.mp hother with rfl | hother
          · obtain rfl := Option.some.inj (hplace.symm.trans hfound)
            exact hle
          · exact hmost other hother found hfound
        · rcases hone with hsame | ⟨other, hother, hrest⟩
          · exact .inr ⟨selected, List.mem_cons_self, candidate, hplace, hsame⟩
          · exact .inr ⟨other, List.mem_cons_of_mem _ hother, hrest⟩

end Best

/-- The masks stand for the selections that are not empty. -/
theorem selections_eq (a b c : BreakSpec) :
    ((List.range 7).map fun n => selectSpecs [a, b, c] (n + 1)) =
      [[a], [b], [a, b], [c], [a, c], [b, c], [a, b, c]] := by
  simp [List.range_succ, selectSpecs, List.filter_cons, Nat.testBit]

theorem sublist_three {a b c : BreakSpec} {chosen : List BreakSpec} :
    chosen.Sublist [a, b, c] ↔
      chosen = [] ∨ chosen ∈ (List.range 7).map fun n => selectSpecs [a, b, c] (n + 1) := by
  rw [selections_eq, ← List.mem_sublists]
  simp [List.sublists]

/-- The breaks of a selection fit into the shift. -/
def Fits (shiftStartMs shiftEndMs : Int) (specs : List BreakSpec) : Prop :=
  specs = [] ∨ 30 * 60000 + requiredMs specs ≤ shiftEndMs - shiftStartMs

theorem WellPlaced.length_eq {earliest shiftEndMs : Int} {specs : List BreakSpec}
    {placed : List PublicBreak} (h : WellPlaced earliest shiftEndMs specs placed) :
    placed.length = specs.length := h.breaks.length_eq.symm

section Shift

variable {shiftStartMs shiftEndMs stepMs : Int} {specs : List BreakSpec}

theorem placeBreakSubset_isSome_iff (hpositive : ∀ spec ∈ specs, 0 < spec.durationMinutes) :
    (placeBreakSubset shiftStartMs shiftEndMs stepMs specs).isSome = true ↔
      Fits shiftStartMs shiftEndMs specs := by
  rw [placeBreakSubset, placeFrom_isSome_iff hpositive (by omega), Fits]
  constructor
  · rintro (hnil | hfits)
    · exact .inl hnil
    · exact .inr (by omega)
  · rintro (hnil | hfits)
    · exact .inl hnil
    · exact .inr (by omega)

theorem placeBreakSubset_wellPlaced (hpositive : ∀ spec ∈ specs, 0 < spec.durationMinutes)
    {placed : List PublicBreak}
    (h : placeBreakSubset shiftStartMs shiftEndMs stepMs specs = some placed) :
    WellPlaced (shiftStartMs + 30 * 60000) shiftEndMs specs placed :=
  placeFrom_wellPlaced hpositive (by omega) h

/-- The chosen selection is placed, and no selection that fits is larger, or of the same size
with higher priorities. -/
structure BestSelection (shiftStartMs shiftEndMs stepMs : Int) (specs chosen : List BreakSpec)
    (placed : List PublicBreak) : Prop where
  selection : chosen.Sublist specs
  fits : Fits shiftStartMs shiftEndMs chosen
  placed : placeBreakSubset shiftStartMs shiftEndMs stepMs chosen = some placed
  best : ∀ other, other.Sublist specs → Fits shiftStartMs shiftEndMs other →
    other.length < chosen.length ∨
      other.length = chosen.length ∧ prioritySum other ≤ prioritySum chosen

theorem placeBreaks_best {policy : LunchBreakPolicy} {lunchDuration : Int}
    (hbreak1 : 0 < policy.break1DurationMinutes) (hlunch : 0 < lunchDuration)
    (hbreak2 : 0 < policy.break2DurationMinutes) :
    ∃ chosen, BestSelection shiftStartMs shiftEndMs (policy.timeStepMinutes * 60000)
      (breakSpecs shiftStartMs policy lunchDuration) chosen
      (placeBreaks shiftStartMs shiftEndMs policy lunchDuration) := by
  obtain ⟨specs, hspecs⟩ : ∃ specs, specs = breakSpecs shiftStartMs policy lunchDuration :=
    ⟨_, rfl⟩
  obtain ⟨place, hplace⟩ : ∃ place, place =
    placeBreakSubset shiftStartMs shiftEndMs (policy.timeStepMinutes * 60000) := ⟨_, rfl⟩
  obtain ⟨selections, hselections⟩ : ∃ selections, selections =
    (List.range 7).map fun n => selectSpecs specs (n + 1) := ⟨_, rfl⟩
  have hpositive : ∀ selected : List BreakSpec, selected.Sublist specs →
      ∀ spec ∈ selected, 0 < spec.durationMinutes := by
    intro selected hsub spec hspec
    have hmem : spec ∈ breakSpecs shiftStartMs policy lunchDuration := hspecs ▸ hsub.subset hspec
    simp only [breakSpecs, List.mem_cons, List.not_mem_nil, or_false] at hmem
    rcases hmem with rfl | rfl | rfl
    · exact hbreak1
    · exact hlunch
    · exact hbreak2
  have hsub : ∀ selected : List BreakSpec, selected.Sublist specs ↔ selected = [] ∨ selected ∈ selections := by
    intro selected
    rw [hselections, hspecs]
    exact sublist_three
  have hlength : ∀ selected : List BreakSpec, selected.Sublist specs → ∀ candidate,
      place selected = some candidate → candidate.length = selected.length := by
    intro selected hselected candidate hcandidate
    rw [hplace] at hcandidate
    exact (placeBreakSubset_wellPlaced (hpositive selected hselected) hcandidate).length_eq
  obtain ⟨_, hmost, hone⟩ := foldl_consider place selections ⟨[], 0⟩
  have hresult : placeBreaks shiftStartMs shiftEndMs policy lunchDuration =
      (selections.foldl (BestPlacement.consider place) ⟨[], 0⟩).breaks := by
    rw [hselections, hspecs, hplace]
    rfl
  rw [hresult, ← hspecs]
  obtain ⟨best, hbest⟩ : ∃ best,
    best = selections.foldl (BestPlacement.consider place) ⟨[], 0⟩ := ⟨_, rfl⟩
  rw [← hbest] at hmost hone ⊢
  obtain ⟨chosen, hchosen, hscore, hbreaks⟩ : ∃ chosen : List BreakSpec, chosen.Sublist specs ∧
      best.score = prioritySum chosen ∧ place chosen = some best.breaks := by
    rcases hone with hnone | ⟨selected, hselected, candidate, hcandidate, htaken⟩
    · refine ⟨[], List.nil_sublist _, ?_, ?_⟩
      · rw [hnone]
        rfl
      · rw [hnone, hplace]
        rfl
    · refine ⟨selected, (hsub selected).mpr (.inr hselected), ?_, ?_⟩
      · rw [htaken]
      · rw [htaken, hcandidate]
  have hsize := hlength chosen hchosen _ hbreaks
  rw [hplace] at hbreaks
  have hfits : Fits shiftStartMs shiftEndMs chosen := by
    rw [← placeBreakSubset_isSome_iff (hpositive chosen hchosen), hbreaks]
    rfl
  refine ⟨chosen, hchosen, hfits, hbreaks, fun other hother hother_fits => ?_⟩
  rcases (hsub other).mp hother with rfl | hselected
  · rcases Nat.eq_zero_or_pos chosen.length with hzero | hpos
    · exact .inr ⟨hzero.symm, Nat.zero_le _⟩
    · exact .inl hpos
  · obtain ⟨candidate, hcandidate⟩ := Option.isSome_iff_exists.mp
      ((placeBreakSubset_isSome_iff (hpositive other hother)).mpr hother_fits)
    rw [← hplace] at hcandidate
    have hrank := hmost other hselected candidate hcandidate
    rw [BestPlacement.rank, BestPlacement.rank, Prod.Lex.toLex_le_toLex,
      hlength other hother candidate hcandidate, hsize, hscore] at hrank
    exact hrank

end Shift

/-- A whole number between positive bounds is positive. -/
theorem integer_pos {value : Option Rat} {fallback minimum maximum : Int} (hfallback : 0 < fallback)
    (hminimum : 0 < minimum) (hmaximum : 0 < maximum) :
    0 < integer value fallback minimum maximum := by
  unfold integer
  split
  · exact hfallback
  · exact lt_min hmaximum (hminimum.trans_le (le_max_left _ _))

/-- Placement is feasible whenever possible, and the breaks of a shift are the best. -/
theorem placement_feasible_and_best :
    (∀ shiftStartMs shiftEndMs stepMs specs, (∀ spec ∈ specs, 0 < spec.durationMinutes) →
      ((placeBreakSubset shiftStartMs shiftEndMs stepMs specs).isSome = true ↔
        specs = [] ∨ 30 * 60000 + requiredMs specs ≤ shiftEndMs - shiftStartMs) ∧
      ∀ placed, placeBreakSubset shiftStartMs shiftEndMs stepMs specs = some placed →
        WellPlaced (shiftStartMs + 30 * 60000) shiftEndMs specs placed) ∧
    ∀ shiftStartMs shiftEndMs policy lunchDurationMinutes, ∃ chosen,
      BestSelection shiftStartMs shiftEndMs ((normalizePolicy policy).timeStepMinutes * 60000)
        (breakSpecs shiftStartMs (normalizePolicy policy)
          (integer lunchDurationMinutes (normalizePolicy policy).lunchDurationMinutes 15 120))
        chosen (generatedBreaks shiftStartMs shiftEndMs policy lunchDurationMinutes) := by
  constructor
  · intro shiftStartMs shiftEndMs stepMs specs hpositive
    exact ⟨placeBreakSubset_isSome_iff hpositive,
      fun placed h => placeBreakSubset_wellPlaced hpositive h⟩
  · intro shiftStartMs shiftEndMs policy lunchDurationMinutes
    have hbreak1 : 0 < (normalizePolicy policy).break1DurationMinutes :=
      integer_pos (by decide) (by decide) (by decide)
    have hlunch : 0 < (normalizePolicy policy).lunchDurationMinutes :=
      integer_pos (by decide) (by decide) (by decide)
    have hbreak2 : 0 < (normalizePolicy policy).break2DurationMinutes :=
      integer_pos (by decide) (by decide) (by decide)
    exact placeBreaks_best hbreak1 (integer_pos hlunch (by decide) (by decide)) hbreak2

/-- The lunch of half an hour. -/
def sampleLunch : BreakSpec := ⟨.lunch, 30, 14400000, false, 4⟩

/-- A lunch fits into an hour, and not into less. -/
theorem lunch_needs_an_hour :
    (∃ placed, placeBreakSubset 0 3600000 300000 [sampleLunch] = some placed ∧
      WellPlaced (0 + 30 * 60000) 3600000 [sampleLunch] placed) ∧
    (placeBreakSubset 0 3599999 300000 [sampleLunch]).isSome = false := by
  obtain ⟨hhour, hplaced⟩ :=
    placement_feasible_and_best.1 0 3600000 300000 [sampleLunch] (by decide)
  obtain ⟨hless, _⟩ := placement_feasible_and_best.1 0 3599999 300000 [sampleLunch] (by decide)
  obtain ⟨placed, hsome⟩ := Option.isSome_iff_exists.mp (hhour.mpr (.inr (by decide)))
  refine ⟨⟨placed, hsome, hplaced placed hsome⟩, ?_⟩
  rw [← Bool.not_eq_true, hless]
  rintro (hnil | hfits)
  · cases hnil
  · exact absurd hfits (by decide)

/-- No break at all has its placement, however short the shift. -/
theorem no_breaks_always_placed :
    (placeBreakSubset 0 600000 300000 []).isSome = true ∧
      ¬ 30 * 60000 + requiredMs [] ≤ 600000 - 0 := by
  decide

end LunchLineup.Breaks
