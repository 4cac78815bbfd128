import Mathlib.Tactic
import Mathlib.Data.List.Nodup

/-!
# Optimistic updates

Items have a revision each.  A writer names the revision that it saw; its write is carried
out while that is still the revision of the item, raises it by one, and is noted in a log with
the revision that it was made against.

`Advances` relates two states of such a system: between them the log has grown, and what it
grew by says how.  The entries of an item are against consecutive revisions, from the one it
had on, and as many as its revision has risen; an item without an entry has its content.  It
is reflexive and transitive, so it holds from one end of a run to the other if it holds for
each step (`of_quiet` and `of_write`).  Two things follow: no two writes were made against one
revision of an item (`nodup_bases`), so none overwrites another unseen; and a revision that
comes again comes with the content it had (`content_eq_of_revision`).
-/

namespace LunchLineup.Lib

variable {State Id Content Entry : Type*} [DecidableEq Id]

/-- What is seen of a state: the revision and the content of each item, and the log. -/
structure Revisions (State Id Content Entry : Type*) where
  revision : State → Id → Option Int
  content : State → Id → Content
  log : State → List Entry
  item : Entry → Id
  base : Entry → Int

/-- The `n` revisions from `r` on. -/
def consecutive (r : Int) (n : Nat) : List Int := (List.range n).map fun k : Nat => r + (k : Int)

@[simp] theorem length_consecutive (r : Int) (n : Nat) : (consecutive r n).length = n := by
  simp [consecutive]

@[simp] theorem consecutive_zero (r : Int) : consecutive r 0 = [] := rfl

theorem consecutive_one (r : Int) : consecutive r 1 = [r] := by simp [consecutive]

theorem consecutive_add (r : Int) (m n : Nat) :
    consecutive r (m + n) = consecutive r m ++ consecutive (r + m) n := by
  simp only [consecutive, List.range_add, List.map_append, List.map_map, List.append_cancel_left_eq]
  apply List.map_congr_left
  intro k _
  simp only [Function.comp, Nat.cast_add]
  omega

theorem nodup_consecutive (r : Int) (n : Nat) : (consecutive r n).Nodup := by
  apply List.Nodup.map _ List.nodup_range
  intro a b hab
  have hsame : r + (a : Int) = r + b := hab
  omega

namespace Revisions

variable (R : Revisions State Id Content Entry)

/-- The revisions that the entries of an item were made against. -/
def bases (id : Id) (entries : List Entry) : List Int :=
  (entries.filter fun entry => R.item entry = id).map R.base

/-- The log has grown by entries that account for all that happened to an item. -/
def Accounts (before after : State) (added : List Entry) (id : Id) (r : Int) : Prop :=
  R.revision after id = some (r + (R.bases id added).length) ∧
    R.bases id added = consecutive r (R.bases id added).length ∧
      (R.bases id added = [] → R.content after id = R.content before id)

def Advances (before after : State) : Prop :=
  ∃ added, R.log after = R.log before ++ added ∧
    ∀ id r, R.revision before id = some r → R.Accounts before after added id r

variable {R} {before after : State} {id : Id} {r : Int}

@[simp] theorem bases_nil : R.bases id [] = [] := rfl

theorem bases_append (first second : List Entry) :
    R.bases id (first ++ second) = R.bases id first ++ R.bases id second := by
  simp [bases]

/-- A step that writes nothing. -/
theorem Advances.of_quiet (hlog : R.log after = R.log before)
    (hkept : ∀ id r, R.revision before id = some r →
      R.revision after id = some r ∧ R.content after id = R.content before id) :
    R.Advances before after := by
  refine ⟨[], by rw [hlog, List.append_nil], fun id r hr => ?_⟩
  obtain ⟨hrevision, hcontent⟩ := hkept id r hr
  exact ⟨by simpa using hrevision, by simp, fun _ => hcontent⟩

/-- A step that carries out one write. -/
theorem Advances.of_write {entry : Entry} (hlog : R.log after = R.log before ++ [entry])
    (hbase : R.revision before (R.item entry) = some (R.base entry))
    (hraised : R.revision after (R.item entry) = some (R.base entry + 1))
    (hkept : ∀ id r, id ≠ R.item entry → R.revision before id = some r →
      R.revision after id = some r ∧ R.content after id = R.content before id) :
    R.Advances before after := by
  refine ⟨[entry], hlog, fun id r hr => ?_⟩
  by_cases heq : R.item entry = id
  · subst heq
    obtain rfl := Option.some.inj (hbase.symm.trans hr)
    have hone : R.bases (R.item entry) [entry] = [R.base entry] := by simp [bases]
    refine ⟨?_, ?_, fun hnone => ?_⟩
    · rw [hone]
      exact hraised
    · rw [hone, List.length_singleton, consecutive_one]
    · rw [hone] at hnone
      cases hnone
  · have hnone : R.bases id [entry] = [] := by simp [bases, heq]
    obtain ⟨hrevision, hcontent⟩ := hkept id r (Ne.symm heq) hr
    refine ⟨?_, ?_, fun _ => hcontent⟩
    · rw [hnone]
      simpa using hrevision
    · rw [hnone]
      rfl

theorem Advances.refl (state : State) : R.Advances state state :=
  .of_quiet rfl fun _ _ hr => ⟨hr, rfl⟩

theorem Advances.trans {last : State} (h : R.Advances before after)
    (hnext : R.Advances after last) : R.Advances before last := by
  obtain ⟨first, hfirst, hbefore⟩ := h
  obtain ⟨second, hsecond, hafter⟩ := hnext
  refine ⟨first ++ second, by rw [hsecond, hfirst, List.append_assoc], fun id r hr => ?_⟩
  obtain ⟨hmiddle, hbases, hcontent⟩ := hbefore id r hr
  obtain ⟨hlast, hbases', hcontent'⟩ := hafter id _ hmiddle
  refine ⟨?_, ?_, ?_⟩
  · rw [hlast, bases_append, List.length_append, Nat.cast_add, add_assoc]
  · calc
      R.bases id (first ++ second) = R.bases id first ++ R.bases id second := bases_append _ _
      _ = consecutive r (R.bases id first).length ++
          consecutive (r + (R.bases id first).length) (R.bases id second).length := by
        rw [← hbases, ← hbases']
      _ = consecutive r (R.bases id (first ++ second)).length := by
        rw [bases_append, List.length_append, consecutive_add]
  · intro hnone
    rw [bases_append, List.append_eq_nil_iff] at hnone
    exact (hcontent' hnone.2).trans (hcontent hnone.1)

/-! ## What follows -/

/-- No two writes were made against one revision. -/
theorem Accounts.nodup_bases {added : List Entry} (h : R.Accounts before after added id r) :
    (R.bases id added).Nodup := by
  rw [h.2.1]
  exact nodup_consecutive _ _

/-- A revision that comes again comes with its content. -/
theorem Advances.content_eq_of_revision (h : R.Advances before after)
    (hbefore : R.revision before id = some r) (hafter : R.revision after id = some r) :
    R.content after id = R.content before id := by
  obtain ⟨added, _, haccounts⟩ := h
  obtain ⟨hrevision, _, hcontent⟩ := haccounts id r hbefore
  refine hcontent (List.length_eq_zero_iff.mp ?_)
  have hsame := Option.some.inj (hafter.symm.trans hrevision)
  omega

end Revisions

end LunchLineup.Lib
