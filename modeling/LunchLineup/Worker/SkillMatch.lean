import LunchLineup.Billing.Wallet
import LunchLineup.Engine.Request
import LunchLineup.Python.Reference
import LunchLineup.Worker.Gate

/-!
# Who has the skill of a demand window

The API stores the skill of a window trimmed and in small letters.  The engine
strips it, and compares it with the skills of a person after collapsing the
white space in them; the worker's coverage gate strips both texts and collapses
neither.  Both put what they compare into small letters.

The two agree where the person's text has single blanks between its words and
keeps to the engine's limits (`skill_counted_alike_iff`).  The runtime's `lower`
is only asked to leave white space as it is.
-/

namespace LunchLineup.Worker

open LunchLineup.Lib LunchLineup.Python LunchLineup.Billing
open LunchLineup.Engine (normalizeWindowSkill normalizeSkillId)

/-! ## The texts -/

/-- `window.skill?.trim().toLowerCase() || null`. -/
def storedSkill (toLowerCase : String → String) (skill : String) : Option String :=
  if toLowerCase (jsTrim skill) = "" then none else some (toLowerCase (jsTrim skill))

/-- White space has no case: a text that `lower` makes equal to its collapsed
form had nothing to collapse. -/
def KeepsWhiteSpace (rt : Runtime) : Prop :=
  ∀ text, rt.lower (collapseSpaces text) = rt.lower text → collapseSpaces text = text

section

variable (rt : Runtime) (windowSkill memberSkill : String)

/-- The engine reads both texts, and the member's skill is the window's. -/
def EngineCounts : Prop :=
  ∃ skill, normalizeWindowSkill rt (.str windowSkill) = .ok (some skill) ∧
    normalizeSkillId rt (.str memberSkill) "staff_skills" = .ok skill

/-- The comparison of the worker's coverage gate, for a window with a skill. -/
def WorkerCounts : Prop :=
  windowSkill ≠ "" ∧ rt.lower (strip windowSkill) = rt.lower (strip memberSkill)

/-- The texts are the same up to case and the blanks around them. -/
def SameText : Prop := rt.lower (strip windowSkill) = rt.lower (strip memberSkill)

/-- The window's text is the member's with its white space collapsed. -/
def CollapsedText : Prop :=
  rt.lower (strip windowSkill) = rt.lower (collapseSpaces (strip memberSkill))

/-- The member's text has single blanks between its words. -/
def SingleSpaced : Prop := collapseSpaces (strip memberSkill) = strip memberSkill

/-- The window's text is not blank and keeps to the limits of both readers. -/
def WithinLimits : Prop :=
  strip windowSkill ≠ "" ∧ (strip windowSkill).length ≤ 128 ∧
    (rt.lower (strip windowSkill)).length ≤ 64

end

section

variable {rt : Runtime} {windowSkill memberSkill : String}

/-! ## The two decisions -/

/-- The engine counts a member whose collapsed text is the window's, within the
limits. -/
theorem engineCounts_iff :
    EngineCounts rt windowSkill memberSkill ↔
      WithinLimits rt windowSkill ∧ CollapsedText rt windowSkill memberSkill := by
  unfold EngineCounts WithinLimits CollapsedText
  constructor
  · rintro ⟨skill, hwindow, hmember⟩
    obtain ⟨_, hchecks, hskill⟩ := bind_eq_ok.mp hwindow
    rw [ensure_eq_ok] at hchecks
    rw [Except.ok.injEq, Option.some.injEq] at hskill
    obtain ⟨_, hlimits, hid⟩ := bind_eq_ok.mp hmember
    rw [ensure_eq_ok] at hlimits
    rw [Except.ok.injEq] at hid
    rw [hskill, ← hid]
    exact ⟨⟨hchecks.1, hchecks.2, hlimits.2⟩, rfl⟩
  · rintro ⟨⟨hblank, hlength, hlimit⟩, hcollapsed⟩
    refine ⟨rt.lower (strip windowSkill), ?_, ?_⟩
    · exact bind_eq_ok.mpr ⟨(), ensure_eq_ok.mpr ⟨hblank, hlength⟩, rfl⟩
    · refine bind_eq_ok.mpr ⟨(), ensure_eq_ok.mpr ?_, congrArg Except.ok hcollapsed.symm⟩
      rw [← hcollapsed]
      exact ⟨fun hempty => hblank (rt.lower_eq_empty _ hempty), hlimit⟩

theorem collapsedText_iff_of_singleSpaced (h : SingleSpaced memberSkill) :
    CollapsedText rt windowSkill memberSkill ↔ SameText rt windowSkill memberSkill := by
  unfold CollapsedText SameText
  rw [show collapseSpaces (strip memberSkill) = strip memberSkill from h]

/-- A text with white space to collapse is never the window's both ways. -/
theorem not_sameText_of_collapsedText (hrt : KeepsWhiteSpace rt)
    (h : ¬ SingleSpaced memberSkill) (hcollapsed : CollapsedText rt windowSkill memberSkill) :
    ¬ SameText rt windowSkill memberSkill :=
  fun hsame => h (hrt _ (hcollapsed.symm.trans hsame))

/-- The engine counts the member exactly when the worker does, and both count a
member whose text is the window's.  This holds of a member's text with single
blanks unless it is a window's text outside the limits, and of any other text
that is not the window's, as it stands or collapsed. -/
theorem skill_counted_alike_iff {toLowerCase : String → String} {plannerSkill : String}
    (hstored : storedSkill toLowerCase plannerSkill = some windowSkill)
    (hrt : KeepsWhiteSpace rt) (memberSkill : String) :
    ((EngineCounts rt windowSkill memberSkill ↔ WorkerCounts rt windowSkill memberSkill) ∧
      (memberSkill = windowSkill →
        EngineCounts rt windowSkill memberSkill ∧ WorkerCounts rt windowSkill memberSkill)) ↔
      (SingleSpaced memberSkill ∧
        (SameText rt windowSkill memberSkill → WithinLimits rt windowSkill)) ∨
      (¬ SingleSpaced memberSkill ∧ ¬ SameText rt windowSkill memberSkill ∧
        (CollapsedText rt windowSkill memberSkill → ¬ WithinLimits rt windowSkill)) := by
  have hnonempty : windowSkill ≠ "" := by
    unfold storedSkill at hstored
    split at hstored
    · cases hstored
    · rename_i hlower
      obtain rfl := Option.some.inj hstored
      exact hlower
  have hworker : WorkerCounts rt windowSkill memberSkill ↔ SameText rt windowSkill memberSkill :=
    and_iff_right hnonempty
  have hidentical : memberSkill = windowSkill → SameText rt windowSkill memberSkill := by
    rintro rfl
    rfl
  rw [hworker, engineCounts_iff]
  by_cases hspaced : SingleSpaced memberSkill
  · rw [collapsedText_iff_of_singleSpaced hspaced]
    constructor
    · rintro ⟨halike, _⟩
      exact Or.inl ⟨hspaced, fun hsame => (halike.mpr hsame).1⟩
    · rintro (⟨_, hlimits⟩ | ⟨hnot, _⟩)
      · exact ⟨⟨And.right, fun hsame => ⟨hlimits hsame, hsame⟩⟩,
          fun h => ⟨⟨hlimits (hidentical h), hidentical h⟩, hidentical h⟩⟩
      · exact absurd hspaced hnot
  · have hone : CollapsedText rt windowSkill memberSkill → ¬ SameText rt windowSkill memberSkill :=
      not_sameText_of_collapsedText hrt hspaced
    constructor
    · rintro ⟨halike, _⟩
      have hnot : ¬ SameText rt windowSkill memberSkill :=
        fun hsame => hone (halike.mpr hsame).2 hsame
      exact Or.inr ⟨hspaced, hnot, fun hcollapsed hlimits => hnot (halike.mp ⟨hlimits, hcollapsed⟩)⟩
    · rintro (⟨hyes, _⟩ | ⟨_, hnot, hlimits⟩)
      · exact absurd hyes hspaced
      · exact ⟨iff_of_false (fun h => hlimits h.2 h.1) hnot, fun h => absurd (hidentical h) hnot⟩

/-! ## The two callers -/

/-- The gate counts a person with one such skill. -/
theorem holdsSkill_iff {payload : SolvePayload} {staffId : String} (hskill : windowSkill ≠ "") :
    holdsSkill rt payload (rt.lower (strip windowSkill)) staffId = true ↔
      ∃ memberSkill ∈ Dict.getD payload.staffSkills staffId [],
        WorkerCounts rt windowSkill memberSkill := by
  unfold holdsSkill WorkerCounts
  simp only [decide_eq_true_eq, List.mem_map]
  constructor
  · rintro ⟨memberSkill, hmember, hsame⟩
    exact ⟨memberSkill, hmember, hskill, hsame.symm⟩
  · rintro ⟨memberSkill, hmember, _, hsame⟩
    exact ⟨memberSkill, hmember, hsame.symm⟩

/-- The engine counts a person with one such skill, if it reads them all. -/
theorem mem_normalizedSkills_iff {memberSkills skills : List String} {skill : String}
    (hskills : memberSkills.mapM (fun memberSkill =>
      normalizeSkillId rt (.str memberSkill) "staff_skills") = .ok skills)
    (hwindow : normalizeWindowSkill rt (.str windowSkill) = .ok (some skill)) :
    skill ∈ skills ↔ ∃ memberSkill ∈ memberSkills, EngineCounts rt windowSkill memberSkill := by
  constructor
  · intro hskill
    obtain ⟨memberSkill, hmember, hread⟩ := exists_input_of_mapM_ok hskills hskill
    exact ⟨memberSkill, hmember, skill, hwindow, hread⟩
  · rintro ⟨memberSkill, hmember, found, hfound, hread⟩
    obtain ⟨other, hother, hread'⟩ := exists_of_mapM_ok hskills hmember
    rw [hwindow, Except.ok.injEq, Option.some.injEq] at hfound
    rw [hread, Except.ok.injEq] at hread'
    rw [hfound, hread']
    exact hother

end

/-! ## Two blanks between two words -/

namespace DoubleBlank

theorem length_collapseChars_le (chars : List Char) :
    (collapseChars chars).length ≤ chars.length := by
  induction chars with
  | nil => exact le_rfl
  | cons c rest ih =>
      cases rest with
      | nil => exact le_rfl
      | cons d more =>
          rw [collapseChars]
          split
          · exact ih.trans (Nat.le_succ _)
          · exact Nat.succ_le_succ ih

theorem toLower_of_isSpace {c : Char} (h : isSpace c = true) : c.toLower = c := by
  unfold Char.toLower
  rw [dif_neg]
  rintro ⟨hlow, hhigh⟩
  simp only [isSpace, Bool.or_eq_true, Bool.and_eq_true, decide_eq_true_eq, beq_iff_eq] at h
  simp only [ge_iff_le, UInt32.le_iff_toNat_le] at hlow hhigh
  have hA : 'A'.val.toNat = 65 := rfl
  have hZ : 'Z'.val.toNat = 90 := rfl
  have hc : c.toNat = c.val.toNat := rfl
  omega

/-- Small letters written one for one keep white space as it is. -/
theorem collapseChars_of_map_toLower {chars : List Char}
    (h : (collapseChars chars).map Char.toLower = chars.map Char.toLower) :
    collapseChars chars = chars := by
  have hhead : ∀ c : Char, (if isSpace c then ' ' else c).toLower = c.toLower →
      (if isSpace c then ' ' else c) = c := by
    intro c hc
    split at hc
    · rename_i hspace
      rw [toLower_of_isSpace hspace] at hc
      rw [if_pos hspace]
      exact hc
    · rename_i hspace
      rw [if_neg hspace]
  induction chars with
  | nil => rfl
  | cons c rest ih =>
      cases rest with
      | nil =>
          rw [collapseChars] at h ⊢
          rw [hhead c (List.cons.inj h).1]
      | cons d more =>
          rw [collapseChars] at h ⊢
          split at h
          · -- A run is shorter once collapsed.
            have hlength := congrArg List.length h
            rw [List.length_map, List.length_map] at hlength
            have hle := length_collapseChars_le (d :: more)
            rw [List.length_cons] at hlength
            omega
          · rename_i hrun
            obtain ⟨hfirst, hrest⟩ := List.cons.inj h
            rw [if_neg hrun, hhead c hfirst, ih hrest]

def rt : Runtime := Runtime.reference fun _ => none

theorem keepsWhiteSpace : KeepsWhiteSpace rt := by
  intro text h
  have hchars : (collapseChars text.toList).map Char.toLower = text.toList.map Char.toLower := by
    have hlists := congrArg String.toList h
    simpa [rt, Runtime.reference, collapseSpaces] using hlists
  unfold collapseSpaces
  rw [collapseChars_of_map_toLower hchars, String.ofList_toList]

/-- The small letters of a text of ASCII letters. -/
def toLowerCase (text : String) : String := String.ofList (text.toList.map Char.toLower)

/-- A planner asks for the very text that the member has; the worker counts the
member and the engine does not. -/
theorem counted_by_worker_only :
    storedSkill toLowerCase "Lead  guard" = some "lead  guard" ∧
      WorkerCounts rt "lead  guard" "lead  guard" ∧ ¬ EngineCounts rt "lead  guard" "lead  guard" := by
  refine ⟨by decide +kernel, ⟨by decide, rfl⟩, ?_⟩
  rw [engineCounts_iff]
  rintro ⟨_, hcollapsed⟩
  have hdifferent : rt.lower (strip "lead  guard") ≠
      rt.lower (collapseSpaces (strip "lead  guard")) := by
    decide +kernel
  exact hdifferent hcollapsed

/-- The exact condition at these texts. -/
theorem exact_at_double_blank :
    ((EngineCounts rt "lead  guard" "lead  guard" ↔ WorkerCounts rt "lead  guard" "lead  guard") ∧
      ("lead  guard" = "lead  guard" →
        EngineCounts rt "lead  guard" "lead  guard" ∧
          WorkerCounts rt "lead  guard" "lead  guard")) ↔
      (SingleSpaced "lead  guard" ∧
        (SameText rt "lead  guard" "lead  guard" → WithinLimits rt "lead  guard")) ∨
      (¬ SingleSpaced "lead  guard" ∧ ¬ SameText rt "lead  guard" "lead  guard" ∧
        (CollapsedText rt "lead  guard" "lead  guard" → ¬ WithinLimits rt "lead  guard")) :=
  skill_counted_alike_iff
    (by decide +kernel : storedSkill toLowerCase "Lead  guard" = some "lead  guard")
    keepsWhiteSpace "lead  guard"

end DoubleBlank

end LunchLineup.Worker
