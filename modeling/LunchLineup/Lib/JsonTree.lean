import LunchLineup.Lib.Comparator

/-!
# Values up to the order of keys

Trees of arrays and objects over any keys and any scalars.  `Reordered` is equality up
to the order of the keys of objects at any depth.  A rule that arranges members by
their keys alone picks one tree out of every class (`arranged_eq`), a text in which
keys and scalars can be told apart from what follows them is read in one way only
(`text_append`), and so the texts of the arranged trees are equal exactly where the
trees are reordered (`text_arranged_iff`).
-/

namespace LunchLineup.Lib

/-- A scalar, an array or an object with its members in their order. -/
inductive Tree (κ σ : Type) where
  | leaf (scalar : σ)
  | arr (items : List (Tree κ σ))
  | obj (members : List (κ × Tree κ σ))

namespace Tree

variable {κ σ : Type}

theorem sizeOf_item [SizeOf κ] [SizeOf σ] {item : Tree κ σ} {items : List (Tree κ σ)} (h : item ∈ items) :
    sizeOf item < sizeOf (Tree.arr items) := by
  have := List.sizeOf_lt_of_mem h
  simp only [arr.sizeOf_spec]
  omega

theorem sizeOf_value [SizeOf κ] [SizeOf σ] {member : κ × Tree κ σ}
    {members : List (κ × Tree κ σ)} (h : member ∈ members) : sizeOf member.2 < sizeOf (Tree.obj members) := by
  have hmember := List.sizeOf_lt_of_mem h
  have hvalue : sizeOf member.2 < sizeOf member := by
    cases member
    simp only [Prod.mk.sizeOf_spec]
    omega
  simp only [obj.sizeOf_spec]
  omega

@[elab_as_elim]
theorem induction {motive : Tree κ σ → Prop} (leaf : ∀ scalar, motive (.leaf scalar))
    (arr : ∀ items, (∀ item ∈ items, motive item) → motive (.arr items))
    (obj : ∀ members, (∀ member ∈ members, motive member.2) → motive (.obj members)) :
    ∀ tree, motive tree
  | .leaf scalar => leaf scalar
  | .arr items => arr items fun item _ => induction leaf arr obj item
  | .obj members => obj members fun member _ => induction leaf arr obj member.2
termination_by tree => sizeOf tree
decreasing_by
  · exact sizeOf_item ‹_›
  · exact sizeOf_value ‹_›

/-- The keys of every object are distinct, and every scalar is a good one. -/
inductive Proper (good : σ → Prop) : Tree κ σ → Prop where
  | leaf {scalar : σ} : good scalar → Proper good (.leaf scalar)
  | arr {items : List (Tree κ σ)} : (∀ item ∈ items, Proper good item) → Proper good (.arr items)
  | obj {members : List (κ × Tree κ σ)} : (members.map Prod.fst).Nodup →
      (∀ member ∈ members, Proper good member.2) → Proper good (.obj members)

/-! ## Equality up to the order of keys -/

/-- Two trees are equal up to the order of the keys of their objects. -/
inductive Reordered : Tree κ σ → Tree κ σ → Prop where
  | refl (tree : Tree κ σ) : Reordered tree tree
  | trans {tree other third : Tree κ σ} : Reordered tree other → Reordered other third →
      Reordered tree third
  | item {tree other : Tree κ σ} (before after : List (Tree κ σ)) : Reordered tree other →
      Reordered (.arr (before ++ tree :: after)) (.arr (before ++ other :: after))
  | value {tree other : Tree κ σ} (before after : List (κ × Tree κ σ)) (key : κ) :
      Reordered tree other →
      Reordered (.obj (before ++ (key, tree) :: after)) (.obj (before ++ (key, other) :: after))
  | members {members other : List (κ × Tree κ σ)} : members.Perm other →
      Reordered (.obj members) (.obj other)

namespace Reordered

variable {tree other : Tree κ σ}

theorem symm (h : Reordered tree other) : Reordered other tree := by
  induction h with
  | refl tree => exact .refl tree
  | trans _ _ ihFirst ihSecond => exact ihSecond.trans ihFirst
  | item before after _ ih => exact .item before after ih
  | value before after key _ ih => exact .value before after key ih
  | members hperm => exact .members hperm.symm

/-- Every item of an array may be reordered. -/
theorem arr {f : Tree κ σ → Tree κ σ} (before : List (Tree κ σ)) {items : List (Tree κ σ)}
    (h : ∀ item ∈ items, Reordered item (f item)) :
    Reordered (.arr (before ++ items)) (.arr (before ++ items.map f)) := by
  induction items generalizing before with
  | nil => exact .refl _
  | cons item items ih =>
      have hhead := Reordered.item before items (h item List.mem_cons_self)
      have htail := ih (before ++ [f item]) fun next hnext => h next (List.mem_cons_of_mem _ hnext)
      rw [List.append_assoc, List.append_assoc, List.singleton_append, List.singleton_append]
        at htail
      exact hhead.trans htail

/-- Every value of an object may be reordered. -/
theorem obj {f : Tree κ σ → Tree κ σ} (before : List (κ × Tree κ σ))
    {members : List (κ × Tree κ σ)} (h : ∀ member ∈ members, Reordered member.2 (f member.2)) :
    Reordered (.obj (before ++ members))
      (.obj (before ++ members.map fun member => (member.1, f member.2))) := by
  induction members generalizing before with
  | nil => exact .refl _
  | cons member members ih =>
      obtain ⟨key, value⟩ := member
      have hhead := Reordered.value before members key (h (key, value) List.mem_cons_self)
      have htail := ih (before ++ [(key, f value)])
        fun next hnext => h next (List.mem_cons_of_mem _ hnext)
      rw [List.append_assoc, List.append_assoc, List.singleton_append, List.singleton_append]
        at htail
      exact hhead.trans htail

theorem proper {good : σ → Prop} (h : Reordered tree other) (hproper : Proper good tree) :
    Proper good other := by
  induction h with
  | refl tree => exact hproper
  | trans _ _ ihFirst ihSecond => exact ihSecond (ihFirst hproper)
  | item before after _ ih =>
      obtain - | hitems := hproper
      refine .arr fun next hnext => ?_
      rcases List.mem_append.mp hnext with hbefore | hrest
      · exact hitems next (List.mem_append_left _ hbefore)
      · rcases List.mem_cons.mp hrest with rfl | hafter
        · exact ih (hitems _ (by simp))
        · exact hitems next (by simp [hafter])
  | value before after key _ ih =>
      obtain - | - | ⟨hkeys, hvalues⟩ := hproper
      refine .obj (by simpa using hkeys) fun next hnext => ?_
      rcases List.mem_append.mp hnext with hbefore | hrest
      · exact hvalues next (List.mem_append_left _ hbefore)
      · rcases List.mem_cons.mp hrest with rfl | hafter
        · exact ih (hvalues (key, _) (by simp))
        · exact hvalues next (by simp [hafter])
  | members hperm =>
      obtain - | - | ⟨hkeys, hvalues⟩ := hproper
      exact .obj ((hperm.map Prod.fst).nodup hkeys) fun next hnext =>
        hvalues next (hperm.symm.subset hnext)

end Reordered

end Tree

/-! ## One tree for every class -/

/-- A rule that arranges the members of an object by their keys: what comes out does
not depend on the order in which members with distinct keys are given. -/
structure Arrangement (κ : Type) where
  arrange : {α : Type} → List (κ × α) → List (κ × α)
  perm : ∀ {α : Type} (members : List (κ × α)), (arrange members).Perm members
  congr : ∀ {α : Type} {members other : List (κ × α)}, members.Perm other →
    (members.map Prod.fst).Nodup → arrange members = arrange other
  map : ∀ {α β : Type} (f : α → β) (members : List (κ × α)),
    arrange (members.map fun member => (member.1, f member.2)) =
      (arrange members).map fun member => (member.1, f member.2)

/-- Another arrangement made after the first one. -/
def Arrangement.andThen {κ : Type} (rule : Arrangement κ)
    (next : {α : Type} → List (κ × α) → List (κ × α))
    (hperm : ∀ {α : Type} (members : List (κ × α)), (next members).Perm members)
    (hmap : ∀ {α β : Type} (f : α → β) (members : List (κ × α)),
      next (members.map fun member => (member.1, f member.2)) =
        (next members).map fun member => (member.1, f member.2)) : Arrangement κ where
  arrange members := next (rule.arrange members)
  perm members := (hperm _).trans (rule.perm members)
  congr h hkeys := by rw [rule.congr h hkeys]
  map f members := by rw [rule.map, hmap]

/-- A comparator that is a strict total order on distinct keys. -/
structure TotalCompare {κ : Type} (compare : κ → κ → Int) : Prop where
  swap : ∀ first second, compare first second < 0 ↔ 0 < compare second first
  trans : ∀ first second third, compare first second < 0 → compare second third < 0 →
    compare first third < 0
  eq_of_zero : ∀ first second, compare first second = 0 → first = second

namespace TotalCompare

variable {κ : Type} {compare : κ → κ → Int}

theorem zero_iff (h : TotalCompare compare) (first second : κ) :
    compare first second = 0 ↔ first = second := by
  constructor
  · exact h.eq_of_zero first second
  · rintro rfl
    have := h.swap first first
    omega

theorem isStrictTotalOrder (h : TotalCompare compare) :
    IsStrictTotalOrder κ fun first second => compare first second < 0 where
  trichotomous first second hfirst hsecond := by
    have := h.swap second first
    exact h.eq_of_zero first second (by omega)
  irrefl key := by
    have := (h.zero_iff key key).mpr rfl
    omega
  trans := h.trans

/-- The order of the comparator. -/
abbrev linearOrder (h : TotalCompare compare) : LinearOrder κ :=
  @linearOrderOfSTO κ (fun first second => compare first second < 0) h.isStrictTotalOrder
    fun _ _ => inferInstance

theorem compares (h : TotalCompare compare) (first second : κ) :
    @Compares κ h.linearOrder (compare first second) first second :=
  letI := h.linearOrder
  ⟨Iff.rfl, h.zero_iff first second⟩

end TotalCompare

/-- Members sorted by their keys. -/
def sortMembers {κ α : Type} (compare : κ → κ → Int) (members : List (κ × α)) : List (κ × α) :=
  sortBy (fun left right => compare left.1 right.1) members

def Arrangement.sorted {κ : Type} {compare : κ → κ → Int} (h : TotalCompare compare) :
    Arrangement κ where
  arrange := sortMembers compare
  perm _ := sortBy_perm
  congr {_ members _} hperm hkeys := by
    let := h.linearOrder
    refine sortBy_congr (fun left right => h.compares left.1 right.1) hperm ?_
    intro left hleft right hright hsame
    exact List.inj_on_of_nodup_map hkeys hleft hright hsame
  map f _ := (map_sortBy fun _ _ => rfl).symm

namespace Tree

variable {κ σ : Type} (rule : Arrangement κ)

/-- The members of every object are arranged. -/
def arranged : Tree κ σ → Tree κ σ
  | .leaf scalar => .leaf scalar
  | .arr items => .arr (items.attach.map fun item => arranged item.1)
  | .obj members =>
      .obj (rule.arrange (members.attach.map fun member => (member.1.1, arranged member.1.2)))
termination_by tree => sizeOf tree
decreasing_by
  · exact sizeOf_item item.2
  · exact sizeOf_value member.2

theorem arranged_arr (items : List (Tree κ σ)) :
    arranged rule (.arr items) = .arr (items.map (arranged rule)) := by
  rw [arranged, List.attach_map_val (f := arranged rule)]

theorem arranged_obj (members : List (κ × Tree κ σ)) :
    arranged rule (.obj members) =
      .obj (rule.arrange (members.map fun member => (member.1, arranged rule member.2))) := by
  rw [arranged,
    List.attach_map_val (f := fun member : κ × Tree κ σ => (member.1, arranged rule member.2))]

/-- An arranged tree is the tree up to the order of keys. -/
theorem reordered_arranged (tree : Tree κ σ) : Reordered tree (arranged rule tree) := by
  induction tree using Tree.induction with
  | leaf scalar =>
      rw [arranged]
      exact .refl _
  | arr items ih =>
      rw [arranged_arr]
      exact Reordered.arr [] ih
  | obj members ih =>
      rw [arranged_obj]
      exact (Reordered.obj [] ih).trans (.members (rule.perm _).symm)

theorem Proper.arranged {good : σ → Prop} {tree : Tree κ σ} (h : Proper good tree) :
    Proper good (Tree.arranged rule tree) :=
  (reordered_arranged rule tree).proper h

/-- Trees that are one up to the order of keys are arranged to one tree. -/
theorem arranged_eq {good : σ → Prop} {tree other : Tree κ σ} (h : Reordered tree other)
    (hproper : Proper good tree) : arranged rule tree = arranged rule other := by
  induction h with
  | refl tree => rfl
  | trans hfirst _ ihFirst ihSecond =>
      exact (ihFirst hproper).trans (ihSecond (hfirst.proper hproper))
  | item before after _ ih =>
      obtain - | hitems := hproper
      rw [arranged_arr, arranged_arr, List.map_append, List.map_append, List.map_cons,
        List.map_cons, ih (hitems _ (by simp))]
  | value before after key _ ih =>
      obtain - | - | ⟨-, hvalues⟩ := hproper
      rw [arranged_obj, arranged_obj, List.map_append, List.map_append, List.map_cons,
        List.map_cons, ih (hvalues (key, _) (by simp))]
  | members hperm =>
      obtain - | - | ⟨hkeys, -⟩ := hproper
      rw [arranged_obj, arranged_obj]
      congr 1
      apply rule.congr (hperm.map _)
      rwa [List.map_map]

theorem arranged_eq_iff {good : σ → Prop} {tree other : Tree κ σ} (hproper : Proper good tree) :
    arranged rule tree = arranged rule other ↔ Reordered tree other := by
  constructor
  · intro h
    have hfirst := reordered_arranged rule tree
    rw [h] at hfirst
    exact hfirst.trans (reordered_arranged rule other).symm
  · intro h
    exact arranged_eq rule h hproper

/-- The keys of an object. -/
def keys : Tree κ σ → List κ
  | .leaf _ => []
  | .arr _ => []
  | .obj members => members.map Prod.fst

theorem Reordered.keys_perm {tree other : Tree κ σ} (h : Reordered tree other) :
    tree.keys.Perm other.keys := by
  induction h with
  | refl tree => exact .refl _
  | trans _ _ ihFirst ihSecond => exact ihFirst.trans ihSecond
  | item before after _ _ => exact .refl _
  | value before after key _ _ => simp [keys]
  | members hperm => exact hperm.map Prod.fst

/-- The values of one key in two objects that are equal up to the order of keys. -/
theorem Reordered.value_of_mem (rule : Arrangement κ) {good : σ → Prop}
    {members others : List (κ × Tree κ σ)}
    (hproper : Proper good (.obj members)) (h : Reordered (.obj members) (.obj others))
    {key : κ} {tree other : Tree κ σ} (hmember : (key, tree) ∈ members)
    (hother : (key, other) ∈ others) : Reordered tree other := by
  have hsame := (arranged_eq_iff rule hproper).mpr h
  obtain - | - | ⟨hkeys, hvalues⟩ := hproper
  rw [arranged_obj, arranged_obj] at hsame
  have hperm := (rule.perm (members.map fun member => (member.1, arranged rule member.2))).symm
  rw [Tree.obj.inj hsame] at hperm
  have hfound : (key, arranged rule other) ∈
      members.map fun member => (member.1, arranged rule member.2) :=
    (hperm.trans (rule.perm _)).symm.subset (List.mem_map.mpr ⟨_, hother, rfl⟩)
  obtain ⟨member, hmember', hpair⟩ := List.mem_map.mp hfound
  obtain rfl : member = (key, tree) :=
    List.inj_on_of_nodup_map hkeys hmember' hmember (Prod.mk.inj hpair).1
  exact (arranged_eq_iff rule (hvalues _ hmember)).mp (Prod.mk.inj hpair).2

theorem Reordered.leaf_inj (rule : Arrangement κ) {good : σ → Prop} {first second : σ}
    (hproper : Proper good (leaf first : Tree κ σ))
    (h : Reordered (leaf first : Tree κ σ) (leaf second)) : first = second := by
  have hsame := (arranged_eq_iff rule hproper).mpr h
  rw [arranged, arranged] at hsame
  exact Tree.leaf.inj hsame

end Tree

/-! ## Reading a text -/

/-- `parts.join(',')`. -/
def separated (parts : List (List Char)) : List Char := [','].intercalate parts

/-- How the keys and the scalars of a text are written: a key ends where it says, a
good scalar ends where a delimiter follows, and neither starts like another part. -/
structure Writer (κ σ : Type) (good : σ → Prop) where
  key : κ → List Char
  scalar : σ → List Char
  key_append : ∀ {first second : κ} {rest other : List Char},
    key first ++ rest = key second ++ other → first = second ∧ rest = other
  scalar_append : ∀ {first second : σ} {rest other : List Char}, good first → good second →
    Json.Delimited rest → Json.Delimited other →
    scalar first ++ rest = scalar second ++ other → first = second ∧ rest = other
  key_head : ∀ name, ∃ tail, key name = '"' :: tail
  scalar_head : ∀ {value : σ}, good value →
    ∃ c tail, scalar value = c :: tail ∧ c ≠ '[' ∧ c ≠ '{' ∧ c ≠ ']'

namespace Tree

variable {κ σ : Type} {good : σ → Prop} (writer : Writer κ σ good)

def text : Tree κ σ → List Char
  | .leaf scalar => writer.scalar scalar
  | .arr items => '[' :: (separated (items.attach.map fun item => text item.1) ++ [']'])
  | .obj members =>
      '{' :: (separated (members.attach.map fun member =>
        writer.key member.1.1 ++ ':' :: text member.1.2) ++ ['}'])
termination_by tree => sizeOf tree
decreasing_by
  · exact sizeOf_item item.2
  · exact sizeOf_value member.2

theorem text_arr (items : List (Tree κ σ)) :
    text writer (.arr items) = '[' :: (separated (items.map (text writer)) ++ [']']) := by
  rw [text, List.attach_map_val (f := text writer)]

/-- A member: its key and its value. -/
def memberText (member : κ × Tree κ σ) : List Char :=
  writer.key member.1 ++ ':' :: text writer member.2

theorem text_obj (members : List (κ × Tree κ σ)) :
    text writer (.obj members) = '{' :: (separated (members.map (memberText writer)) ++ ['}']) := by
  rw [text]
  congr 3
  exact List.attach_map_val (f := memberText writer)

/-! A list in brackets is read part by part, by induction on the parts after the
first one. -/

section

variable {α : Type} {f : α → List Char} {close : Char} {rest other : List Char}

theorem separated_cons (first : α) (more : List α) :
    separated ((first :: more).map f) = f first ++ more.flatMap fun part => ',' :: f part := by
  induction more generalizing first with
  | nil => simp [separated]
  | cons second more ih =>
      rw [List.map_cons, List.map_cons, separated, List.intercalate_cons_cons, ← List.map_cons]
      change f first ++ [','] ++ separated ((second :: more).map f) = _
      rw [ih second, List.flatMap_cons, List.append_assoc]
      rfl

/-- What stands after a part: a comma or the bracket. -/
theorem delimited_more (hclose : close = ']' ∨ close = '}') (more : List α) (rest : List Char) :
    Json.Delimited ((more.flatMap fun part => ',' :: f part) ++ close :: rest) := by
  intro c hc
  cases more with
  | nil =>
      obtain rfl : close = c := by simpa using hc
      exact .inr hclose
  | cons part more =>
      obtain rfl : ',' = c := by simpa using hc
      exact .inl rfl

theorem more_append (hclose : close = ']' ∨ close = '}') {more parts : List α}
    (hread : ∀ part ∈ more, ∀ next ∈ parts, ∀ {rest other : List Char}, Json.Delimited rest →
      Json.Delimited other → f part ++ rest = f next ++ other → part = next ∧ rest = other)
    (h : (more.flatMap fun part => ',' :: f part) ++ close :: rest =
      (parts.flatMap fun part => ',' :: f part) ++ close :: other) :
    more = parts ∧ rest = other := by
  have hcomma : ',' ≠ close := by rcases hclose with rfl | rfl <;> decide
  induction more generalizing parts with
  | nil =>
      cases parts with
      | nil => exact ⟨rfl, (List.cons.inj h).2⟩
      | cons next parts => exact absurd (List.cons.inj h).1.symm hcomma
  | cons part more ih =>
      cases parts with
      | nil => exact absurd (List.cons.inj h).1 hcomma
      | cons next parts =>
          rw [List.flatMap_cons, List.flatMap_cons, List.append_assoc, List.append_assoc] at h
          obtain ⟨rfl, htail⟩ := hread part List.mem_cons_self next List.mem_cons_self
            (delimited_more hclose more rest) (delimited_more hclose parts other)
            (List.cons.inj h).2
          obtain ⟨rfl, hrest⟩ := ih (fun part hpart next hnext => hread part
            (List.mem_cons_of_mem _ hpart) next (List.mem_cons_of_mem _ hnext)) htail
          exact ⟨rfl, hrest⟩

/-- The parts of a list in brackets and the text after it are determined. -/
theorem separated_append (hclose : close = ']' ∨ close = '}') {parts others : List α}
    (hread : ∀ part ∈ parts, ∀ next ∈ others, ∀ {rest other : List Char}, Json.Delimited rest →
      Json.Delimited other → f part ++ rest = f next ++ other → part = next ∧ rest = other)
    (hparts : ∀ part ∈ parts, ∃ c tail, f part = c :: tail ∧ c ≠ close)
    (hothers : ∀ part ∈ others, ∃ c tail, f part = c :: tail ∧ c ≠ close)
    (h : separated (parts.map f) ++ close :: rest = separated (others.map f) ++ close :: other) :
    parts = others ∧ rest = other := by
  cases parts with
  | nil =>
      cases others with
      | nil => exact ⟨rfl, (List.cons.inj h).2⟩
      | cons next others =>
          obtain ⟨c, tail, hhead, hne⟩ := hothers next List.mem_cons_self
          rw [separated_cons, hhead] at h
          exact absurd (List.cons.inj h).1.symm hne
  | cons part parts =>
      cases others with
      | nil =>
          obtain ⟨c, tail, hhead, hne⟩ := hparts part List.mem_cons_self
          rw [separated_cons, hhead] at h
          exact absurd (List.cons.inj h).1 hne
      | cons next others =>
          rw [separated_cons, separated_cons, List.append_assoc, List.append_assoc] at h
          obtain ⟨rfl, htail⟩ := hread part List.mem_cons_self next List.mem_cons_self
            (delimited_more hclose parts rest) (delimited_more hclose others other) h
          obtain ⟨rfl, hrest⟩ := more_append hclose (fun part hpart next hnext => hread part
            (List.mem_cons_of_mem _ hpart) next (List.mem_cons_of_mem _ hnext)) htail
          exact ⟨rfl, hrest⟩

end

theorem text_head {tree : Tree κ σ} (h : Proper good tree) :
    ∃ c tail, text writer tree = c :: tail ∧ c ≠ ']' := by
  cases h with
  | leaf hgood =>
      obtain ⟨c, tail, hhead, -, -, hne⟩ := writer.scalar_head hgood
      exact ⟨c, tail, by rw [text, hhead], hne⟩
  | arr => exact ⟨'[', _, text_arr writer _, by decide⟩
  | obj => exact ⟨'{', _, text_obj writer _, by decide⟩

/-- A tree and the text after it are determined. -/
theorem text_append {tree other : Tree κ σ} {rest after : List Char} (htree : Proper good tree)
    (hother : Proper good other) (hrest : Json.Delimited rest) (hafter : Json.Delimited after)
    (h : text writer tree ++ rest = text writer other ++ after) : tree = other ∧ rest = after := by
  induction tree using Tree.induction generalizing other rest after with
  | leaf scalar =>
      obtain hscalar | - | - := htree
      obtain ⟨c, tail, hhead, hbracket, hbrace, -⟩ := writer.scalar_head hscalar
      cases hother with
      | leaf hgood =>
          rw [text, text] at h
          obtain ⟨rfl, hrest⟩ := writer.scalar_append hscalar hgood hrest hafter h
          exact ⟨rfl, hrest⟩
      | arr =>
          rw [text, hhead, text_arr] at h
          exact absurd (List.cons.inj h).1 hbracket
      | obj =>
          rw [text, hhead, text_obj] at h
          exact absurd (List.cons.inj h).1 hbrace
  | arr items ih =>
      obtain - | hitems := htree
      cases hother with
      | leaf hgood =>
          obtain ⟨c, tail, hhead, hbracket, -, -⟩ := writer.scalar_head hgood
          rw [text_arr, text, hhead] at h
          exact absurd (List.cons.inj h).1.symm hbracket
      | @arr others hothers =>
          rw [text_arr, text_arr, List.cons_append, List.cons_append, List.append_assoc,
            List.append_assoc] at h
          obtain ⟨rfl, hrest⟩ := separated_append (.inl rfl)
            (fun item hitem next hnext _ _ hfirst hsecond hsame =>
              ih item hitem (hitems item hitem) (hothers next hnext) hfirst hsecond hsame)
            (fun item hitem => text_head writer (hitems item hitem))
            (fun item hitem => text_head writer (hothers item hitem)) (List.cons.inj h).2
          exact ⟨rfl, hrest⟩
      | obj =>
          rw [text_arr, text_obj] at h
          exact absurd (List.cons.inj h).1 (by decide)
  | obj members ih =>
      obtain - | - | ⟨-, hvalues⟩ := htree
      have hkey : ∀ member : κ × Tree κ σ,
          ∃ c tail, memberText writer member = c :: tail ∧ c ≠ '}' := by
        intro member
        obtain ⟨tail, hhead⟩ := writer.key_head member.1
        exact ⟨'"', _, by rw [memberText, hhead]; rfl, by decide⟩
      cases hother with
      | leaf hgood =>
          obtain ⟨c, tail, hhead, -, hbrace, -⟩ := writer.scalar_head hgood
          rw [text_obj, text, hhead] at h
          exact absurd (List.cons.inj h).1.symm hbrace
      | arr =>
          rw [text_arr, text_obj] at h
          exact absurd (List.cons.inj h).1 (by decide)
      | @obj others hkeys hothers =>
          rw [text_obj, text_obj, List.cons_append, List.cons_append, List.append_assoc,
            List.append_assoc] at h
          have hread : ∀ member ∈ members, ∀ next ∈ others, ∀ {rest other : List Char},
              Json.Delimited rest → Json.Delimited other →
              memberText writer member ++ rest = memberText writer next ++ other →
              member = next ∧ rest = other := by
            intro member hmember next hnext rest other hfirst hsecond hsame
            rw [memberText, memberText, List.append_assoc, List.append_assoc] at hsame
            obtain ⟨hname, hvalue⟩ := writer.key_append hsame
            obtain ⟨hvalue, hrest⟩ := ih member hmember (hvalues member hmember)
              (hothers next hnext) hfirst hsecond (List.cons.inj hvalue).2
            exact ⟨Prod.ext hname hvalue, hrest⟩
          obtain ⟨rfl, hrest⟩ := separated_append (.inr rfl) hread (fun member _ => hkey member)
            (fun member _ => hkey member) (List.cons.inj h).2
          exact ⟨rfl, hrest⟩

theorem text_injective {tree other : Tree κ σ} (htree : Proper good tree)
    (hother : Proper good other) (h : text writer tree = text writer other) : tree = other := by
  have hend : Json.Delimited [] := by simp [Json.Delimited]
  apply (text_append writer htree hother hend hend ?_).1
  rw [h]

/-- Two trees have one text once they are arranged exactly where they are equal up to
the order of keys. -/
theorem text_arranged_iff (rule : Arrangement κ) {tree other : Tree κ σ}
    (htree : Proper good tree) (hother : Proper good other) :
    text writer (arranged rule tree) = text writer (arranged rule other) ↔
      Reordered tree other := by
  rw [← arranged_eq_iff rule htree]
  constructor
  · exact text_injective writer (htree.arranged rule) (hother.arranged rule)
  · intro h
    rw [h]

end Tree

end LunchLineup.Lib
