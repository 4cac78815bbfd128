import Mathlib.Tactic
import Mathlib.Data.List.Basic
import Mathlib.Data.List.Nodup

/-!
# Insertion-ordered dictionaries

A dictionary is a list of key-value pairs read by its first match, the shape
that a dictionary with insertion order has when it is iterated.  `set` keeps
the position of a key that is already present and appends a new one, so
iterating after an update visits the keys in the order the updates introduced
them.
-/

namespace LunchLineup.Lib

variable {κ α : Type*} [DecidableEq κ]

/-- A dictionary that remembers the order in which its keys were inserted. -/
abbrev Dict (κ α : Type*) := List (κ × α)

namespace Dict

/-- `d.get(key)`. -/
def get? : Dict κ α → κ → Option α
  | [], _ => none
  | (k, v) :: rest, key => if k = key then some v else get? rest key

/-- `d.get(key, default)`. -/
def getD (d : Dict κ α) (key : κ) (default : α) : α :=
  (get? d key).getD default

/-- `key in d`. -/
def contains (d : Dict κ α) (key : κ) : Bool :=
  (get? d key).isSome

/-- `d[key] = value`. -/
def set : Dict κ α → κ → α → Dict κ α
  | [], key, value => [(key, value)]
  | (k, v) :: rest, key, value =>
      if k = key then (k, value) :: rest else (k, v) :: set rest key value

/-- `del d[key]`, where an absent key is no error. -/
def erase (d : Dict κ α) (key : κ) : Dict κ α :=
  d.filter (·.1 ≠ key)

/-- The dictionary that a sequence of assignments `d[key] = value` builds. -/
def ofPairs (pairs : List (κ × α)) : Dict κ α :=
  pairs.foldl (fun d pair => set d pair.1 pair.2) []

/-- `d.keys()`. -/
def keys (d : Dict κ α) : List κ :=
  d.map Prod.fst

/-- Two dictionaries are equal when each holds every entry of the other; the
order of insertion does not count. -/
def eqv [DecidableEq α] (first second : Dict κ α) : Bool :=
  first.all (fun entry => get? second entry.1 = some entry.2) &&
    second.all (fun entry => get? first entry.1 = some entry.2)

@[simp] theorem get?_nil (key : κ) : get? ([] : Dict κ α) key = none := rfl

theorem get?_cons (k key : κ) (v : α) (rest : Dict κ α) :
    get? ((k, v) :: rest) key = if k = key then some v else get? rest key := rfl

theorem mem_of_get? {d : Dict κ α} {key : κ} {value : α} (h : get? d key = some value) :
    (key, value) ∈ d := by
  induction d with
  | nil => simp at h
  | cons entry rest ih =>
      obtain ⟨k, v⟩ := entry
      rw [get?_cons] at h
      split at h
      · rename_i hk
        cases h
        simp [hk]
      · exact List.mem_cons_of_mem _ (ih h)

theorem get?_isSome_of_mem {d : Dict κ α} {key : κ} {value : α} (h : (key, value) ∈ d) :
    (get? d key).isSome := by
  induction d with
  | nil => simp at h
  | cons entry rest ih =>
      obtain ⟨k, v⟩ := entry
      rw [get?_cons]
      split
      · rfl
      · rename_i hne
        rcases List.mem_cons.mp h with heq | hrest
        · cases heq
          exact absurd rfl hne
        · exact ih hrest

theorem get?_set_self (d : Dict κ α) (key : κ) (value : α) :
    get? (set d key value) key = some value := by
  induction d with
  | nil => simp [set, get?]
  | cons entry rest ih =>
      obtain ⟨k, v⟩ := entry
      by_cases hk : k = key
      · simp [set, get?, hk]
      · simp [set, get?, hk, ih]

theorem get?_set_of_ne (d : Dict κ α) {key other : κ} (value : α) (hne : key ≠ other) :
    get? (set d key value) other = get? d other := by
  induction d with
  | nil => simp [set, get?, hne]
  | cons entry rest ih =>
      obtain ⟨k, v⟩ := entry
      by_cases hk : k = key
      · simp [set, get?, hk, hne]
      · simp [set, get?, hk, ih]

theorem get?_set (d : Dict κ α) (key other : κ) (value : α) :
    get? (set d key value) other = if key = other then some value else get? d other := by
  split
  · rename_i heq
    rw [← heq, get?_set_self]
  · rename_i hne
    exact get?_set_of_ne d value hne

omit [DecidableEq κ] in
@[simp] theorem keys_nil : keys ([] : Dict κ α) = [] := rfl

omit [DecidableEq κ] in
theorem mem_keys_append {first second : Dict κ α} {key : κ} :
    key ∈ keys (first ++ second) ↔ key ∈ keys first ∨ key ∈ keys second := by
  simp [keys]

theorem mem_keys_of_get? {d : Dict κ α} {key : κ} {value : α} (h : get? d key = some value) :
    key ∈ keys d :=
  List.mem_map.mpr ⟨(key, value), mem_of_get? h, rfl⟩

theorem get?_eq_none {d : Dict κ α} {key : κ} : get? d key = none ↔ key ∉ keys d := by
  constructor
  · intro hnone hmem
    obtain ⟨⟨k, v⟩, hentry, rfl⟩ := List.mem_map.mp hmem
    have hsome := get?_isSome_of_mem hentry
    rw [hnone] at hsome
    simp at hsome
  · intro hmem
    by_contra hsome
    obtain ⟨value, hvalue⟩ := Option.ne_none_iff_exists'.mp hsome
    exact hmem (mem_keys_of_get? hvalue)

theorem contains_eq_false {d : Dict κ α} {key : κ} : contains d key = false ↔ key ∉ keys d := by
  rw [← get?_eq_none, contains, Option.isSome_eq_false_iff, Option.isNone_iff_eq_none]

/-- With distinct keys, an entry is the value of its key. -/
theorem get?_of_mem {d : Dict κ α} (hkeys : (keys d).Nodup) {key : κ} {value : α}
    (h : (key, value) ∈ d) : get? d key = some value := by
  induction d with
  | nil => simp at h
  | cons entry rest ih =>
      obtain ⟨k, v⟩ := entry
      obtain ⟨hfresh, hrest⟩ := List.nodup_cons.mp hkeys
      rw [get?_cons]
      rcases List.mem_cons.mp h with heq | hmem
      · cases heq
        rw [if_pos rfl]
      · have hne : k ≠ key := by
          rintro rfl
          exact hfresh (List.mem_map.mpr ⟨_, hmem, rfl⟩)
        rw [if_neg hne, ih hrest hmem]

theorem get?_append (first second : Dict κ α) (key : κ) :
    get? (first ++ second) key = (get? first key).or (get? second key) := by
  induction first with
  | nil => simp
  | cons entry rest ih =>
      obtain ⟨k, v⟩ := entry
      rw [List.cons_append, get?_cons, get?_cons, ih]
      split <;> simp

/-- Values can be replaced one by one. -/
theorem get?_map {β : Type*} (f : κ → α → β) (d : Dict κ α) (key : κ) :
    get? (d.map fun entry => (entry.1, f entry.1 entry.2)) key = (get? d key).map (f key) := by
  induction d with
  | nil => rfl
  | cons entry rest ih =>
      obtain ⟨k, v⟩ := entry
      rw [List.map_cons, get?_cons, get?_cons, ih]
      by_cases hk : k = key
      · simp [hk]
      · simp [hk]

/-- A new key is appended. -/
theorem set_of_notMem {d : Dict κ α} {key : κ} (value : α) (h : key ∉ keys d) :
    set d key value = d ++ [(key, value)] := by
  induction d with
  | nil => rfl
  | cons entry rest ih =>
      obtain ⟨k, v⟩ := entry
      rw [keys, List.map_cons, List.mem_cons, not_or] at h
      rw [set, if_neg (Ne.symm h.1), ih h.2, List.cons_append]

/-- The last entry is replaced in place. -/
theorem set_append_self {d : Dict κ α} {key : κ} (old value : α) (h : key ∉ keys d) :
    set (d ++ [(key, old)]) key value = d ++ [(key, value)] := by
  induction d with
  | nil => simp [set]
  | cons entry rest ih =>
      obtain ⟨k, v⟩ := entry
      rw [keys, List.map_cons, List.mem_cons, not_or] at h
      rw [List.cons_append, set, if_neg (Ne.symm h.1), ih h.2, List.cons_append]

theorem mem_keys_set {d : Dict κ α} {key other : κ} {value : α} :
    other ∈ keys (set d key value) ↔ other = key ∨ other ∈ keys d := by
  induction d with
  | nil => simp [set, keys]
  | cons entry rest ih =>
      obtain ⟨k, v⟩ := entry
      by_cases hk : k = key
      · simp [set, keys, hk]
      · rw [set, if_neg hk]
        simp only [keys, List.map_cons, List.mem_cons] at ih ⊢
        rw [ih]
        tauto

theorem nodup_keys_set {d : Dict κ α} (h : (keys d).Nodup) (key : κ) (value : α) :
    (keys (set d key value)).Nodup := by
  induction d with
  | nil => simp [set, keys]
  | cons entry rest ih =>
      obtain ⟨k, v⟩ := entry
      obtain ⟨hfresh, hrest⟩ := List.nodup_cons.mp h
      by_cases hk : k = key
      · rw [set, if_pos hk]
        exact List.nodup_cons.mpr ⟨hfresh, hrest⟩
      · rw [set, if_neg hk]
        refine List.nodup_cons.mpr ⟨?_, ih hrest⟩
        intro hmem
        rcases mem_keys_set.mp hmem with heq | hmem
        · exact hk heq
        · exact hfresh hmem

/-- Assignments to distinct keys are all kept, in order. -/
theorem ofPairs_of_nodup {pairs : List (κ × α)} (h : (pairs.map Prod.fst).Nodup) :
    ofPairs pairs = pairs := by
  have hfold : ∀ (pairs : List (κ × α)) (d : Dict κ α), (keys (d ++ pairs)).Nodup →
      pairs.foldl (fun d pair => set d pair.1 pair.2) d = d ++ pairs := by
    intro pairs
    induction pairs with
    | nil => simp
    | cons pair rest ih =>
        intro d hnodup
        have hfresh : pair.1 ∉ keys d := by
          intro hmem
          rw [keys, List.map_append, List.nodup_append] at hnodup
          exact hnodup.2.2 _ hmem _ (by simp) rfl
        rw [List.foldl_cons, set_of_notMem _ hfresh, ih]
        · simp
        · simpa using hnodup
  simpa [ofPairs] using hfold pairs [] (by simpa [keys] using h)

theorem mem_of_mem_set {d : Dict κ α} {key : κ} {value : α} {entry : κ × α}
    (h : entry ∈ set d key value) : entry = (key, value) ∨ entry ∈ d := by
  induction d with
  | nil => exact .inl (List.mem_singleton.mp h)
  | cons first rest ih =>
      obtain ⟨k, v⟩ := first
      by_cases hk : k = key
      · rw [set, if_pos hk, hk] at h
        exact (List.mem_cons.mp h).imp_right fun hrest => List.mem_cons_of_mem _ hrest
      · rw [set, if_neg hk] at h
        rcases List.mem_cons.mp h with rfl | hrest
        · exact .inr List.mem_cons_self
        · exact (ih hrest).imp_right fun hmem => List.mem_cons_of_mem _ hmem

/-- What a sequence of assignments builds has distinct keys, and each of its entries was
assigned. -/
theorem nodup_keys_ofPairs (pairs : List (κ × α)) :
    (keys (ofPairs pairs)).Nodup ∧ ∀ entry ∈ ofPairs pairs, entry ∈ pairs := by
  have hfold : ∀ (pairs : List (κ × α)) (d : Dict κ α), (keys d).Nodup →
      (keys (pairs.foldl (fun d pair => set d pair.1 pair.2) d)).Nodup ∧
        ∀ entry ∈ pairs.foldl (fun d pair => set d pair.1 pair.2) d,
          entry ∈ d ∨ entry ∈ pairs := by
    intro pairs
    induction pairs with
    | nil => exact fun d hd => ⟨hd, fun entry hentry => .inl hentry⟩
    | cons pair rest ih =>
        intro d hd
        obtain ⟨hnodup, hmem⟩ := ih (set d pair.1 pair.2) (nodup_keys_set hd _ _)
        refine ⟨hnodup, fun entry hentry => ?_⟩
        rcases hmem entry hentry with hset | hrest
        · rcases mem_of_mem_set hset with rfl | hold
          · exact .inr List.mem_cons_self
          · exact .inl hold
        · exact .inr (List.mem_cons_of_mem _ hrest)
  obtain ⟨hnodup, hmem⟩ := hfold pairs [] List.nodup_nil
  exact ⟨hnodup, fun entry hentry => (hmem entry hentry).resolve_left (by simp)⟩

/-! ## Removal -/

theorem mem_erase {d : Dict κ α} {key : κ} {entry : κ × α} :
    entry ∈ erase d key ↔ entry ∈ d ∧ entry.1 ≠ key := by
  simp [erase]

theorem nodup_keys_erase {d : Dict κ α} (h : (keys d).Nodup) (key : κ) :
    (keys (erase d key)).Nodup :=
  (List.filter_sublist.map Prod.fst).nodup h

theorem get?_erase (d : Dict κ α) (key other : κ) :
    get? (erase d key) other = if key = other then none else get? d other := by
  induction d with
  | nil => simp [erase]
  | cons first rest ih =>
      obtain ⟨k, v⟩ := first
      by_cases hk : k = key
      · have hskip : erase ((k, v) :: rest) key = erase rest key := by simp [erase, hk]
        rw [hskip, ih, get?_cons]
        by_cases hother : key = other
        · rw [if_pos hother, if_pos hother]
        · rw [if_neg hother, if_neg hother, if_neg (hk ▸ hother)]
      · have hkeep : erase ((k, v) :: rest) key = (k, v) :: erase rest key := by simp [erase, hk]
        rw [hkeep, get?_cons, get?_cons, ih]
        by_cases hother : key = other
        · rw [if_pos hother, if_pos hother, if_neg (hother ▸ hk)]
        · rw [if_neg hother, if_neg hother]

/-- An entry that may be absent. -/
def optional (present : Bool) (key : κ) (value : α) : Dict κ α :=
  if present then [(key, value)] else []

theorem get?_optional (present : Bool) (key other : κ) (value : α) :
    get? (optional present key value) other =
      if present = true ∧ key = other then some value else none := by
  unfold optional
  by_cases hpresent : present = true
  · simp [hpresent, get?_cons]
  · simp [hpresent]

omit [DecidableEq κ] in
theorem mem_keys_optional {present : Bool} {key other : κ} {value : α} :
    other ∈ keys (optional present key value) ↔ present = true ∧ other = key := by
  unfold optional
  by_cases hpresent : present = true
  · simp [hpresent, keys]
  · simp [hpresent]

theorem nodup_keys_append_optional {d : Dict κ α} (h : (keys d).Nodup) {present : Bool} {key : κ}
    (hfresh : present = true → key ∉ keys d) (value : α) :
    (keys (d ++ optional present key value)).Nodup := by
  unfold optional
  split
  · rename_i hpresent
    rw [← set_of_notMem value (hfresh hpresent)]
    exact nodup_keys_set h key value
  · rwa [List.append_nil]

/-- An assignment that may be left out. -/
theorem get?_unless_set (absent : Bool) (d : Dict κ α) (key other : κ) (value : α) :
    get? (if absent = true then d else set d key value) other =
      if absent = false ∧ key = other then some value else get? d other := by
  by_cases habsent : absent = true
  · simp [habsent]
  · rw [if_neg habsent, get?_set]
    simp [habsent]

theorem mem_keys_unless_set {absent : Bool} {d : Dict κ α} {key other : κ} {value : α} :
    other ∈ keys (if absent = true then d else set d key value) ↔
      (absent = false ∧ other = key) ∨ other ∈ keys d := by
  by_cases habsent : absent = true
  · simp [habsent]
  · rw [if_neg habsent, mem_keys_set]
    simp [habsent]

theorem nodup_keys_unless_set {d : Dict κ α} (h : (keys d).Nodup) (absent : Bool) (key : κ)
    (value : α) : (keys (if absent = true then d else set d key value)).Nodup := by
  split
  · exact h
  · exact nodup_keys_set h key value

theorem eqv_left [DecidableEq α] {first second : Dict κ α} (h : eqv first second = true)
    {entry : κ × α} (hmem : entry ∈ first) : get? second entry.1 = some entry.2 := by
  simp only [eqv, Bool.and_eq_true, List.all_eq_true, decide_eq_true_eq] at h
  exact h.1 entry hmem

theorem eqv_right [DecidableEq α] {first second : Dict κ α} (h : eqv first second = true)
    {entry : κ × α} (hmem : entry ∈ second) : get? first entry.1 = some entry.2 := by
  simp only [eqv, Bool.and_eq_true, List.all_eq_true, decide_eq_true_eq] at h
  exact h.2 entry hmem

/-- Equal dictionaries have the same value for each key. -/
theorem get?_eq_of_eqv [DecidableEq α] {first second : Dict κ α} (h : eqv first second = true)
    (key : κ) : get? first key = get? second key := by
  cases hfirst : get? first key with
  | some value => exact (eqv_left h (mem_of_get? hfirst)).symm
  | none =>
      cases hsecond : get? second key with
      | none => rfl
      | some value => cases hfirst.symm.trans (eqv_right h (mem_of_get? hsecond))

/-- Dictionaries with distinct keys are equal when they have the same value for each key. -/
theorem eqv_of_get?_eq [DecidableEq α] {first second : Dict κ α} (hfirst : (keys first).Nodup)
    (hsecond : (keys second).Nodup) (h : ∀ key, get? first key = get? second key) :
    eqv first second = true := by
  simp only [eqv, Bool.and_eq_true, List.all_eq_true, decide_eq_true_eq]
  constructor
  · intro entry hmem
    rw [← h]
    exact get?_of_mem hfirst hmem
  · intro entry hmem
    rw [h]
    exact get?_of_mem hsecond hmem

end Dict

end LunchLineup.Lib
