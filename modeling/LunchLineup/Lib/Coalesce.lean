import Mathlib.Tactic
import Mathlib.Data.List.Basic
import Mathlib.Data.List.Chain
import Mathlib.Data.List.Sort
import Mathlib.Data.List.SplitBy
import Mathlib.Data.List.Dedup
import Mathlib.Algebra.BigOperators.Group.List.Basic

/-!
# Merging neighbours in a list

`coalesce` walks a list and merges each entry into the one before it as long as
the two join, the loop behind run-length merging of intervals.  The lemmas say
what merging preserves, from what one merge preserves: a property of entries
(`Merging.forall_mem`), a relation between earlier and later entries
(`Merging.pairwise`), the sum of an additive measure (`Merging.sum`), and the
entries that contain a given point, upwards and downwards
(`Merging.exists_up`, `Merging.exists_down`).

The second part splits a list into groups by a key, in the order in which the
keys appear.
-/

namespace LunchLineup.Lib

universe u

variable {β : Type u} (joins : β → β → Bool) (join : β → β → β)

/-- Merge the entries of a list into `current` as long as they join, and start
anew at an entry that does not. -/
def coalesce (current : β) : List β → List β
  | [] => [current]
  | next :: rest =>
      if joins current next then coalesce (join current next) rest
      else current :: coalesce next rest

/-- What one merge preserves: a property of entries and a relation between
neighbours. -/
structure Merging (P : β → Prop) (C : β → β → Prop) : Prop where
  valid : ∀ {a b}, P a → P b → C a b → joins a b = true → P (join a b)
  chain : ∀ {a b c}, C a b → joins a b = true → C b c → C (join a b) c

namespace Merging

variable {joins join} {P : β → Prop} {C : β → β → Prop} (hm : Merging joins join P C)

include hm

/-- The list after one merge is still valid and chained. -/
theorem step {a b : β} {rest : List β} (hvalid : ∀ x ∈ a :: b :: rest, P x)
    (hchain : (a :: b :: rest).IsChain C) (hjoins : joins a b = true) :
    (∀ x ∈ join a b :: rest, P x) ∧ (join a b :: rest).IsChain C := by
  rw [List.isChain_cons_cons] at hchain
  constructor
  · intro x hx
    rcases List.mem_cons.mp hx with rfl | hx
    · exact hm.valid (hvalid a (by simp)) (hvalid b (by simp)) hchain.1 hjoins
    · exact hvalid x (by simp [hx])
  · cases rest with
    | nil => exact .singleton _
    | cons c more =>
        have htail := hchain.2
        rw [List.isChain_cons_cons] at htail ⊢
        exact ⟨hm.chain hchain.1 hjoins htail.1, htail.2⟩

theorem forall_mem {Q : β → Prop}
    (hQ : ∀ {a b}, P a → P b → C a b → joins a b = true → Q a → Q b → Q (join a b))
    {current : β} {rest : List β} (hvalid : ∀ x ∈ current :: rest, P x)
    (hchain : (current :: rest).IsChain C) (h : ∀ x ∈ current :: rest, Q x) :
    ∀ x ∈ coalesce joins join current rest, Q x := by
  induction rest generalizing current with
  | nil => simpa [coalesce] using h
  | cons next more ih =>
      rw [coalesce]
      by_cases hjoins : joins current next = true
      · rw [if_pos hjoins]
        obtain ⟨hvalid', hchain'⟩ := hm.step hvalid hchain hjoins
        refine ih hvalid' hchain' ?_
        intro x hx
        rcases List.mem_cons.mp hx with rfl | hx
        · exact hQ (hvalid current (by simp)) (hvalid next (by simp))
            (List.isChain_cons_cons.mp hchain).1 hjoins (h current (by simp)) (h next (by simp))
        · exact h x (by simp [hx])
      · rw [if_neg hjoins]
        intro x hx
        rcases List.mem_cons.mp hx with rfl | hx
        · exact h x (by simp)
        · exact ih (fun y hy => hvalid y (List.mem_cons_of_mem _ hy))
            (List.isChain_cons_cons.mp hchain).2
            (fun y hy => h y (List.mem_cons_of_mem _ hy)) x hx

theorem pairwise {R : β → β → Prop}
    (hleft : ∀ {a b c}, P a → P b → C a b → joins a b = true → R a c → R b c → R (join a b) c)
    (hright : ∀ {a b c}, P a → P b → C a b → joins a b = true → R c a → R c b → R c (join a b))
    {current : β} {rest : List β} (hvalid : ∀ x ∈ current :: rest, P x)
    (hchain : (current :: rest).IsChain C) (h : (current :: rest).Pairwise R) :
    (coalesce joins join current rest).Pairwise R := by
  induction rest generalizing current with
  | nil => simp [coalesce]
  | cons next more ih =>
      rw [List.pairwise_cons] at h
      rw [coalesce]
      by_cases hjoins : joins current next = true
      · rw [if_pos hjoins]
        obtain ⟨hvalid', hchain'⟩ := hm.step hvalid hchain hjoins
        refine ih hvalid' hchain' ?_
        obtain ⟨hnext, hmore⟩ := List.pairwise_cons.mp h.2
        rw [List.pairwise_cons]
        refine ⟨?_, hmore⟩
        intro x hx
        exact hleft (hvalid current (by simp)) (hvalid next (by simp))
          (List.isChain_cons_cons.mp hchain).1 hjoins (h.1 x (by simp [hx])) (hnext x hx)
      · rw [if_neg hjoins, List.pairwise_cons]
        have hvalid' : ∀ x ∈ next :: more, P x := fun x hx => hvalid x (List.mem_cons_of_mem _ hx)
        have hchain' := (List.isChain_cons_cons.mp hchain).2
        exact ⟨hm.forall_mem hright hvalid' hchain' h.1, ih hvalid' hchain' h.2⟩

theorem sum {M : Type*} [AddCommMonoid M] {f : β → M}
    (hf : ∀ {a b}, P a → P b → C a b → joins a b = true → f (join a b) = f a + f b)
    {current : β} {rest : List β} (hvalid : ∀ x ∈ current :: rest, P x)
    (hchain : (current :: rest).IsChain C) :
    ((coalesce joins join current rest).map f).sum = ((current :: rest).map f).sum := by
  induction rest generalizing current with
  | nil => simp [coalesce]
  | cons next more ih =>
      rw [coalesce]
      by_cases hjoins : joins current next = true
      · rw [if_pos hjoins]
        obtain ⟨hvalid', hchain'⟩ := hm.step hvalid hchain hjoins
        have hadd : f (join current next) = f current + f next :=
          hf (hvalid current (by simp)) (hvalid next (by simp))
            (List.isChain_cons_cons.mp hchain).1 hjoins
        rw [ih hvalid' hchain']
        simp only [List.map_cons, List.sum_cons, hadd, add_assoc]
      · rw [if_neg hjoins]
        have htail := ih (fun x hx => hvalid x (List.mem_cons_of_mem _ hx))
          (List.isChain_cons_cons.mp hchain).2
        rw [List.map_cons, List.sum_cons, htail]
        simp only [List.map_cons, List.sum_cons]

/-- An entry that an input satisfies is satisfied by an output. -/
theorem exists_up {Q : β → Prop}
    (hQ : ∀ {a b}, P a → P b → C a b → joins a b = true → Q a ∨ Q b → Q (join a b))
    {current : β} {rest : List β} (hvalid : ∀ x ∈ current :: rest, P x)
    (hchain : (current :: rest).IsChain C) (h : ∃ x ∈ current :: rest, Q x) :
    ∃ x ∈ coalesce joins join current rest, Q x := by
  induction rest generalizing current with
  | nil => simpa [coalesce] using h
  | cons next more ih =>
      obtain ⟨x, hx, hQx⟩ := h
      rw [coalesce]
      by_cases hjoins : joins current next = true
      · rw [if_pos hjoins]
        obtain ⟨hvalid', hchain'⟩ := hm.step hvalid hchain hjoins
        have hmerge : Q current ∨ Q next → Q (join current next) :=
          hQ (hvalid current (by simp)) (hvalid next (by simp))
            (List.isChain_cons_cons.mp hchain).1 hjoins
        refine ih hvalid' hchain' ?_
        rcases List.mem_cons.mp hx with rfl | hx
        · exact ⟨_, List.mem_cons_self, hmerge (Or.inl hQx)⟩
        rcases List.mem_cons.mp hx with rfl | hx
        · exact ⟨_, List.mem_cons_self, hmerge (Or.inr hQx)⟩
        · exact ⟨x, List.mem_cons_of_mem _ hx, hQx⟩
      · rw [if_neg hjoins]
        rcases List.mem_cons.mp hx with rfl | hx
        · exact ⟨x, List.mem_cons_self, hQx⟩
        · obtain ⟨y, hy, hQy⟩ := ih (fun y hy => hvalid y (List.mem_cons_of_mem _ hy))
            (List.isChain_cons_cons.mp hchain).2 ⟨x, hx, hQx⟩
          exact ⟨y, List.mem_cons_of_mem _ hy, hQy⟩

/-- An entry that an output satisfies is satisfied by an input. -/
theorem exists_down {Q : β → Prop}
    (hQ : ∀ {a b}, P a → P b → C a b → joins a b = true → Q (join a b) → Q a ∨ Q b)
    {current : β} {rest : List β} (hvalid : ∀ x ∈ current :: rest, P x)
    (hchain : (current :: rest).IsChain C)
    (h : ∃ x ∈ coalesce joins join current rest, Q x) : ∃ x ∈ current :: rest, Q x := by
  induction rest generalizing current with
  | nil => simpa [coalesce] using h
  | cons next more ih =>
      rw [coalesce] at h
      by_cases hjoins : joins current next = true
      · rw [if_pos hjoins] at h
        obtain ⟨hvalid', hchain'⟩ := hm.step hvalid hchain hjoins
        obtain ⟨x, hx, hQx⟩ := ih hvalid' hchain' h
        rcases List.mem_cons.mp hx with rfl | hx
        · rcases hQ (hvalid current (by simp)) (hvalid next (by simp))
            (List.isChain_cons_cons.mp hchain).1 hjoins hQx with hcurrent | hnext
          · exact ⟨current, by simp, hcurrent⟩
          · exact ⟨next, by simp, hnext⟩
        · exact ⟨x, by simp [hx], hQx⟩
      · rw [if_neg hjoins] at h
        obtain ⟨x, hx, hQx⟩ := h
        rcases List.mem_cons.mp hx with rfl | hx
        · exact ⟨x, by simp, hQx⟩
        · obtain ⟨y, hy, hQy⟩ := ih (fun y hy => hvalid y (List.mem_cons_of_mem _ hy))
            (List.isChain_cons_cons.mp hchain).2 ⟨x, hx, hQx⟩
          exact ⟨y, List.mem_cons_of_mem _ hy, hQy⟩

/-- What precedes the first entry precedes the head of the result. -/
theorem exists_head (hright : ∀ {a b c}, C a b → C b c → joins b c = true → C a (join b c))
    {previous current : β} {rest : List β} (hvalid : ∀ x ∈ current :: rest, P x)
    (hchain : (current :: rest).IsChain C) (hprevious : C previous current) :
    ∃ head tail, coalesce joins join current rest = head :: tail ∧ C previous head := by
  induction rest generalizing current with
  | nil => exact ⟨current, [], rfl, hprevious⟩
  | cons next more ih =>
      rw [coalesce]
      by_cases hjoins : joins current next = true
      · rw [if_pos hjoins]
        obtain ⟨hvalid', hchain'⟩ := hm.step hvalid hchain hjoins
        exact ih hvalid' hchain' (hright hprevious (List.isChain_cons_cons.mp hchain).1 hjoins)
      · rw [if_neg hjoins]
        exact ⟨current, _, rfl, hprevious⟩

/-- Merging keeps a chain a chain. -/
theorem isChain (hright : ∀ {a b c}, C a b → C b c → joins b c = true → C a (join b c))
    {current : β} {rest : List β} (hvalid : ∀ x ∈ current :: rest, P x)
    (hchain : (current :: rest).IsChain C) : (coalesce joins join current rest).IsChain C := by
  induction rest generalizing current with
  | nil => exact .singleton _
  | cons next more ih =>
      rw [coalesce]
      by_cases hjoins : joins current next = true
      · rw [if_pos hjoins]
        obtain ⟨hvalid', hchain'⟩ := hm.step hvalid hchain hjoins
        exact ih hvalid' hchain'
      · rw [if_neg hjoins]
        have hvalid' : ∀ x ∈ next :: more, P x := fun x hx => hvalid x (List.mem_cons_of_mem _ hx)
        obtain ⟨hfirst, hchain'⟩ := List.isChain_cons_cons.mp hchain
        have htail := ih hvalid' hchain'
        obtain ⟨head, tail, heq, hhead⟩ := hm.exists_head hright hvalid' hchain' hfirst
        rw [heq] at htail ⊢
        exact List.isChain_cons_cons.mpr ⟨hhead, htail⟩

end Merging

section

variable {joins join}

/-- A merge begins where its first entry begins, so the head of the result is
joined by what joins the current entry. -/
theorem exists_head_coalesce
    (hleft : ∀ a b c, joins b c = true → joins a (join b c) = joins a b)
    (current : β) (rest : List β) : ∃ head tail, coalesce joins join current rest = head :: tail ∧
      ∀ a, joins a head = joins a current := by
  induction rest generalizing current with
  | nil => exact ⟨current, [], rfl, fun _ => rfl⟩
  | cons next more ih =>
      rw [coalesce]
      by_cases hjoins : joins current next = true
      · rw [if_pos hjoins]
        obtain ⟨head, tail, heq, hhead⟩ := ih (join current next)
        exact ⟨head, tail, heq, fun a => (hhead a).trans (hleft a _ _ hjoins)⟩
      · rw [if_neg hjoins]
        exact ⟨current, _, rfl, fun _ => rfl⟩

/-- No two neighbours of the result join. -/
theorem isChain_coalesce
    (hleft : ∀ a b c, joins b c = true → joins a (join b c) = joins a b)
    (current : β) (rest : List β) :
    (coalesce joins join current rest).IsChain fun a b => joins a b = false := by
  induction rest generalizing current with
  | nil => exact .singleton _
  | cons next more ih =>
      rw [coalesce]
      by_cases hjoins : joins current next = true
      · rw [if_pos hjoins]
        exact ih (join current next)
      · rw [if_neg hjoins]
        have hchain := ih next
        obtain ⟨head, tail, heq, hhead⟩ := exists_head_coalesce hleft next more
        rw [heq] at hchain ⊢
        refine List.isChain_cons_cons.mpr ⟨?_, hchain⟩
        rw [hhead]
        simpa using hjoins

/-- The head of the result, as far as merging keeps it. -/
theorem head?_coalesce {γ : Type*} {f : β → γ} (hf : ∀ a b, f (join a b) = f a) (current : β)
    (rest : List β) : (coalesce joins join current rest).head?.map f = some (f current) := by
  induction rest generalizing current with
  | nil => rfl
  | cons next more ih =>
      rw [coalesce]
      split
      · rw [ih, hf]
      · rfl

theorem coalesce_ne_nil (current : β) (rest : List β) : coalesce joins join current rest ≠ [] := by
  induction rest generalizing current with
  | nil => exact List.cons_ne_nil _ _
  | cons next more ih =>
      rw [coalesce]
      split
      · exact ih _
      · exact List.cons_ne_nil _ _

/-- The last entry of the result, as far as merging keeps it. -/
theorem getLast?_coalesce {γ : Type*} {f : β → γ} (hf : ∀ a b, f (join a b) = f b) (current : β)
    (rest : List β) :
    (coalesce joins join current rest).getLast?.map f = (current :: rest).getLast?.map f := by
  induction rest generalizing current with
  | nil => rfl
  | cons next more ih =>
      rw [coalesce, List.getLast?_cons_cons]
      split
      · rw [ih]
        cases more with
        | nil => simp [hf]
        | cons third others => rw [List.getLast?_cons_cons, List.getLast?_cons_cons]
      · have hne : coalesce joins join next more ≠ [] := coalesce_ne_nil next more
        obtain ⟨head, tail, heq⟩ := List.exists_cons_of_ne_nil hne
        rw [heq, List.getLast?_cons_cons, ← heq, ih]

/-- A chain condition on the later of two neighbours holds of all entries but the first. -/
theorem isChain_right {P : β → Prop} {a : β} {l : List β}
    (h : (a :: l).IsChain fun _ b => P b) : ∀ b ∈ l, P b := by
  induction l generalizing a with
  | nil => simp
  | cons c rest ih =>
      obtain ⟨hc, hrest⟩ := List.isChain_cons_cons.mp h
      intro b hb
      rcases List.mem_cons.mp hb with rfl | hb
      · exact hc
      · exact ih hrest b hb

end

/-! ## Groups -/

variable {κ : Type*} [DecidableEq κ]

/-- The distinct entries of a list, in the order of their first occurrences. -/
def firstOccurrences (l : List κ) : List κ := l.reverse.dedup.reverse

@[simp] theorem mem_firstOccurrences {l : List κ} {k : κ} : k ∈ firstOccurrences l ↔ k ∈ l := by
  simp [firstOccurrences]

theorem firstOccurrences_nodup (l : List κ) : (firstOccurrences l).Nodup := by
  rw [firstOccurrences, List.nodup_reverse]
  exact List.nodup_dedup _

/-- The groups of a list by a key, one after the other, are the list again. -/
theorem flatMap_filter_perm (key : β → κ) {keys : List κ} (hnodup : keys.Nodup) {l : List β}
    (hkeys : ∀ x ∈ l, key x ∈ keys) :
    List.Perm (keys.flatMap fun k => l.filter fun x => key x = k) l := by
  induction keys generalizing l with
  | nil =>
      cases l with
      | nil => simp
      | cons x rest => exact absurd (hkeys x (by simp)) (by simp)
  | cons k more ih =>
      rw [List.nodup_cons] at hnodup
      have hrest : (more.flatMap fun other => l.filter fun x => key x = other) =
          more.flatMap fun other => (l.filter fun x => ¬ key x = k).filter fun x =>
            key x = other := by
        refine List.flatMap_congr fun other hother => ?_
        rw [List.filter_filter]
        refine List.filter_congr fun x _ => ?_
        by_cases hx : key x = other
        · have hne : ¬ other = k := by
            rintro rfl
            exact hnodup.1 hother
          simp [hx, hne]
        · simp [hx]
      rw [List.flatMap_cons, hrest]
      have htail := ih hnodup.2 (l := l.filter fun x => ¬ key x = k) (by
        intro x hx
        rw [List.mem_filter] at hx
        rcases List.mem_cons.mp (hkeys x hx.1) with heq | hmem
        · simp [heq] at hx
        · exact hmem)
      refine (List.Perm.append_left _ htail).trans ?_
      have hsplit := List.filter_append_perm (fun x => decide (key x = k)) l
      simpa using hsplit

/-- Filters that pass each entry once between them pass the list. -/
theorem flatMap_filter_perm_of_countP {β γ : Type*} [DecidableEq β] (p : γ → β → Bool)
    {ks : List γ} {l : List β} (h : ∀ x ∈ l, ks.countP (fun k => p k x) = 1) :
    (ks.flatMap fun k => l.filter (p k)).Perm l := by
  have hcount : ∀ x, (ks.flatMap fun k => l.filter (p k)).count x =
      ks.countP (fun k => p k x) * l.count x := by
    intro x
    clear h
    induction ks with
    | nil => simp
    | cons k rest ih =>
        rw [List.flatMap_cons, List.count_append, ih, List.countP_cons]
        by_cases hp : p k x = true
        · rw [if_pos hp, List.count_filter hp]
          ring
        · rw [if_neg hp, List.count_eq_zero.mpr (by simp [hp])]
          ring
  rw [List.perm_iff_count]
  intro x
  rw [hcount]
  by_cases hx : x ∈ l
  · rw [h x hx, one_mul]
  · rw [List.count_eq_zero.mpr hx, mul_zero]

/-! ## Relations that agree on a list -/

theorem splitBy_congr {first second : β → β → Bool} {l : List β}
    (h : ∀ a ∈ l, ∀ b ∈ l, first a b = second a b) : l.splitBy first = l.splitBy second := by
  have hmem : ∀ {m : List β}, m ∈ l.splitBy second → ∀ a ∈ m, a ∈ l := by
    intro m hm a ha
    have hflat := List.mem_flatten.mpr ⟨m, hm, ha⟩
    rwa [List.flatten_splitBy] at hflat
  have hsplit := List.splitBy_flatten (r := first) (l := l.splitBy second)
    (List.nil_notMem_splitBy _ _) ?_ ?_
  · rwa [List.flatten_splitBy] at hsplit
  · intro m hm
    refine (List.isChain_of_mem_splitBy hm).imp_of_mem_imp ?_
    intro a b ha hb hab
    rwa [h a (hmem hm a ha) b (hmem hm b hb)]
  · refine (List.isChain_getLast_head_splitBy second l).imp_of_mem_imp ?_
    rintro m m' hm hm' ⟨ha, hb, hab⟩
    refine ⟨ha, hb, ?_⟩
    rwa [h _ (hmem hm _ (List.getLast_mem ha)) _ (hmem hm' _ (List.head_mem hb))]

theorem insertionSort_congr {first second : β → β → Prop} [DecidableRel first]
    [DecidableRel second] {l : List β} (h : ∀ a ∈ l, ∀ b ∈ l, first a b ↔ second a b) :
    l.insertionSort first = l.insertionSort second := by
  have hmap := List.map_insertionSort (r := first) (s := second) id l h
  simpa using hmap

end LunchLineup.Lib
