import Mathlib.Tactic

/-!
# Comma-separated values

A reader of the grammar of RFC 4180: a field is escaped, between quotes with every
quote inside doubled, or a text without quotes, commas and line breaks; commas part
the fields of a record, a line break ends it, and the last one may be missing.  The
text that ends a record is a parameter, as many files have a line feed where the
grammar has a carriage return before it.

The reader takes back what was written, whichever of the two ways each field is
written (`read_fileText`).
-/

namespace LunchLineup.Lib.Csv

/-! ## The reader -/

/-- A character of a field that is not escaped. -/
def Plain (c : Char) : Prop := c ≠ '"' ∧ c ≠ ',' ∧ c ≠ '\r' ∧ c ≠ '\n'

instance (c : Char) : Decidable (Plain c) := inferInstanceAs (Decidable (_ ∧ _))

theorem plain_of_all {text : List Char} (h : (text.all fun c => decide (Plain c)) = true) :
    ∀ c ∈ text, Plain c := fun c hc => of_decide_eq_true (List.all_eq_true.mp h c hc)

/-- An escaped field after its opening quote, and the text after it. -/
def readEscaped : List Char → Option (List Char × List Char)
  | [] => none
  | '"' :: '"' :: rest => (readEscaped rest).map fun found => ('"' :: found.1, found.2)
  | '"' :: rest => some ([], rest)
  | c :: rest => (readEscaped rest).map fun found => (c :: found.1, found.2)

def readField : List Char → Option (List Char × List Char)
  | '"' :: rest => readEscaped rest
  | text => some (text.takeWhile fun c => Plain c, text.dropWhile fun c => Plain c)

/-- The fields of a record; every field but the last spends fuel. -/
def readRecord : Nat → List Char → Option (List (List Char) × List Char)
  | 0, _ => none
  | fuel + 1, text => do
      let (field, rest) ← readField text
      match rest with
      | ',' :: rest => do
          let (fields, rest) ← readRecord fuel rest
          return (field :: fields, rest)
      | rest => return ([field], rest)

/-- The text after a line break. -/
def afterBreak (lineBreak text : List Char) : Option (List Char) :=
  if lineBreak <+: text then some (text.drop lineBreak.length) else none

/-- The records of a text; every record spends fuel. -/
def readRecords (lineBreak : List Char) : Nat → List Char → Option (List (List (List Char)))
  | 0, _ => none
  | fuel + 1, text => do
      let (record, rest) ← readRecord (text.length + 1) text
      if rest = [] then return [record]
      let rest ← afterBreak lineBreak rest
      if rest = [] then return [record]
      let records ← readRecords lineBreak fuel rest
      return record :: records

/-- The records of a file. -/
def read (lineBreak text : List Char) : Option (List (List (List Char))) :=
  readRecords lineBreak (text.length + 1) text

/-! ## What is written -/

/-- A field between quotes. -/
def escaped (field : List Char) : List Char :=
  '"' :: (field.flatMap (fun c => if c = '"' then ['"', '"'] else [c]) ++ ['"'])

/-- A text writes a field. -/
inductive Writes : List Char → List Char → Prop
  | plain {field : List Char} (h : ∀ c ∈ field, Plain c) : Writes field field
  | escaped (field : List Char) : Writes (escaped field) field

/-- A record from the texts of its fields. -/
def recordText (texts : List (List Char)) : List Char := [','].intercalate texts

/-- A file from the texts of its fields, with a line break after each record. -/
def fileText (lineBreak : List Char) (records : List (List (List Char))) : List Char :=
  records.flatMap fun texts => recordText texts ++ lineBreak

/-! ## Fields -/

theorem readEscaped_flatMap (field rest : List Char) (h : rest.head? ≠ some '"') :
    readEscaped (field.flatMap (fun c => if c = '"' then ['"', '"'] else [c]) ++ '"' :: rest) =
      some (field, rest) := by
  induction field with
  | nil =>
      cases rest with
      | nil => rfl
      | cons c rest =>
          rw [List.flatMap_nil, List.nil_append, readEscaped]
          rintro rest' heq
          obtain ⟨rfl, -⟩ := List.cons.inj heq
          exact h rfl
  | cons c field ih =>
      rw [List.flatMap_cons, List.append_assoc]
      by_cases hquote : c = '"'
      · subst hquote
        rw [if_pos rfl, List.cons_append, List.cons_append, List.nil_append, readEscaped, ih]
        rfl
      · rw [if_neg hquote, List.singleton_append, readEscaped, ih]
        · rfl
        · intro _ hc
          exact absurd hc hquote
        · exact hquote

/-- A field is read up to a character that ends it. -/
theorem readField_of_writes {text field rest : List Char} (h : Writes text field)
    (hrest : ∀ c ∈ rest.head?, c ≠ '"' ∧ ¬Plain c) : readField (text ++ rest) = some (field, rest) := by
  cases h with
  | escaped field =>
      rw [escaped, List.cons_append, List.append_assoc]
      exact readEscaped_flatMap field rest fun hquote => (hrest _ hquote).1 rfl
  | plain hplain =>
      have hdrop : rest.dropWhile (fun c => decide (Plain c)) = rest := by
        cases rest with
        | nil => rfl
        | cons c rest =>
            exact List.dropWhile_cons_of_neg (by simpa using (hrest c rfl).2)
      have htake : rest.takeWhile (fun c => decide (Plain c)) = [] := by
        cases rest with
        | nil => rfl
        | cons c rest =>
            exact List.takeWhile_cons_of_neg (by simpa using (hrest c rfl).2)
      have hall : ∀ c ∈ text, decide (Plain c) = true := fun c hc => decide_eq_true (hplain c hc)
      rw [readField]
      · rw [List.takeWhile_append_of_pos hall, List.dropWhile_append_of_pos hall, htake, hdrop,
          List.append_nil]
      · -- the text does not begin with a quote
        intro other heq
        cases text with
        | nil =>
            rw [List.nil_append] at heq
            exact (hrest '"' (by rw [heq]; rfl)).1 rfl
        | cons c text =>
            obtain ⟨rfl, -⟩ := List.cons.inj heq
            exact (hplain '"' List.mem_cons_self).1 rfl

/-! ## Records -/

theorem not_plain_comma : ',' ≠ '"' ∧ ¬Plain ',' := by decide

section

variable {texts fields : List (List Char)} {rest : List Char}

/-- A record is read up to a line break. -/
theorem readRecord_recordText (h : List.Forall₂ Writes texts fields) (hne : texts ≠ [])
    (hrest : ∀ c ∈ rest.head?, c ≠ '"' ∧ c ≠ ',' ∧ ¬Plain c) {fuel : Nat}
    (hfuel : texts.length ≤ fuel) :
    readRecord fuel (recordText texts ++ rest) = some (fields, rest) := by
  induction h generalizing fuel with
  | nil => exact absurd rfl hne
  | @cons text field texts fields hwrites hrecord ih =>
      cases fuel with
      | zero => simp at hfuel
      | succ fuel =>
          rw [List.length_cons] at hfuel
          cases texts with
          | nil =>
              cases hrecord
              have hfield : readField (text ++ rest) = some (field, rest) :=
                readField_of_writes hwrites fun c hc => ⟨(hrest c hc).1, (hrest c hc).2.2⟩
              have htext : recordText [text] = text := by
                rw [recordText, List.intercalate_singleton]
              rw [htext, readRecord, hfield]
              cases rest with
              | nil => rfl
              | cons c rest =>
                  have hcomma := (hrest c rfl).2.1
                  simp [hcomma]
          | cons second texts =>
              have hfield : readField (text ++ ',' :: (recordText (second :: texts) ++ rest)) =
                  some (field, ',' :: (recordText (second :: texts) ++ rest)) := by
                refine readField_of_writes hwrites ?_
                rintro c ⟨⟩
                exact not_plain_comma
              have htext : recordText (text :: second :: texts) ++ rest =
                  text ++ ',' :: (recordText (second :: texts) ++ rest) := by
                rw [recordText, List.intercalate_cons_cons, recordText, List.append_assoc,
                  List.append_assoc]
                rfl
              have hothers : readRecord fuel (recordText (second :: texts) ++ rest) =
                  some (fields, rest) := ih (by simp) (by omega)
              rw [htext, readRecord, hfield]
              simp [hothers]

end

/-! ## Files -/

section

variable {lineBreak : List Char} {records : List (List (List Char))}
  {fields : List (List (List Char))}

theorem length_le_recordText (texts : List (List Char)) :
    texts.length ≤ (recordText texts).length + 1 := by
  induction texts with
  | nil => simp
  | cons text texts ih =>
      cases texts with
      | nil => simp
      | cons second texts =>
          rw [recordText, List.intercalate_cons_cons]
          rw [recordText] at ih
          simp only [List.length_append, List.length_cons, List.length_nil] at ih ⊢
          omega

theorem afterBreak_append (lineBreak rest : List Char) :
    afterBreak lineBreak (lineBreak ++ rest) = some rest := by
  rw [afterBreak, if_pos (List.prefix_append _ _), List.drop_left]

theorem readRecords_fileText (hbreak : ∀ c ∈ lineBreak.head?, c = '\r' ∨ c = '\n')
    (hbreakNe : lineBreak ≠ []) (h : List.Forall₂ (List.Forall₂ Writes) records fields)
    (hne : records ≠ []) (hfields : ∀ texts ∈ records, texts ≠ []) {fuel : Nat}
    (hfuel : records.length ≤ fuel) :
    readRecords lineBreak fuel (fileText lineBreak records) = some fields := by
  induction h generalizing fuel with
  | nil => exact absurd rfl hne
  | @cons texts record records fields hwrites hrecords ih =>
      cases fuel with
      | zero => simp at hfuel
      | succ fuel =>
          rw [List.length_cons] at hfuel
          have hstart : ∀ c ∈ (lineBreak ++ fileText lineBreak records).head?,
              c ≠ '"' ∧ c ≠ ',' ∧ ¬Plain c := by
            intro c hc
            rw [List.head?_append_of_ne_nil _ hbreakNe] at hc
            rcases hbreak c hc with rfl | rfl
            · decide
            · decide
          have hrest : lineBreak ++ fileText lineBreak records ≠ [] := by simp [hbreakNe]
          have htext : fileText lineBreak (texts :: records) =
              recordText texts ++ (lineBreak ++ fileText lineBreak records) := by
            rw [fileText, List.flatMap_cons, List.append_assoc]
            rfl
          have hlength := length_le_recordText texts
          have hspent : texts.length ≤
              (recordText texts ++ (lineBreak ++ fileText lineBreak records)).length + 1 := by
            rw [List.length_append]
            omega
          have hrecord := readRecord_recordText hwrites (hfields texts List.mem_cons_self) hstart hspent
          rw [htext, readRecords, hrecord]
          cases hrecords with
          | nil =>
              rw [fileText, List.flatMap_nil, List.append_nil] at hrest ⊢
              have hafter := afterBreak_append lineBreak []
              rw [List.append_nil] at hafter
              simp [hrest, hafter]
          | @cons second other records fields hsecond hrecords =>
              have hothers : readRecords lineBreak fuel (fileText lineBreak (second :: records)) =
                  some (other :: fields) := by
                refine ih (by simp) (fun texts htexts => ?_) (by omega)
                exact hfields texts (List.mem_cons_of_mem _ htexts)
              have hmore : fileText lineBreak (second :: records) ≠ [] := by
                rw [fileText, List.flatMap_cons]
                simp [hbreakNe]
              simp [hrest, afterBreak_append, hmore, hothers]

theorem length_le_fileText (hbreakNe : lineBreak ≠ []) (records : List (List (List Char))) :
    records.length ≤ (fileText lineBreak records).length := by
  induction records with
  | nil => simp
  | cons texts records ih =>
      have hbreak := List.length_pos_of_ne_nil hbreakNe
      rw [fileText, List.flatMap_cons, List.length_append, List.length_append, List.length_cons]
      rw [fileText] at ih
      omega

/-- The reader takes back the records of a file. -/
theorem read_fileText (hbreak : ∀ c ∈ lineBreak.head?, c = '\r' ∨ c = '\n')
    (hbreakNe : lineBreak ≠ []) (h : List.Forall₂ (List.Forall₂ Writes) records fields)
    (hne : records ≠ []) (hfields : ∀ texts ∈ records, texts ≠ []) :
    read lineBreak (fileText lineBreak records) = some fields :=
  readRecords_fileText hbreak hbreakNe h hne hfields
    ((length_le_fileText hbreakNe records).trans (Nat.le_succ _))

end

end LunchLineup.Lib.Csv
