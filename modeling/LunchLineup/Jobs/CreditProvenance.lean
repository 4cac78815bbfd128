import LunchLineup.Billing.PositiveSettlement
import LunchLineup.Jobs.Transactions

/-!
# Three judgements of one credit provenance

Before a solve job is published, claimed, persisted or refunded, somebody checks
that its credits were consumed as its metadata says and refunded as its status
says.  The publisher of the API checks the rows it read, the worker checks
aggregates of the rows, and the statement that settles a refund checks them in
SQL.

All three read the same metadata (`parseCreditConsumption_eq`,
`configuredAmount_eq`) and ask for the same debit.  They part on three kinds of
jobs, which `Undisputed` excludes: a refund without a recorded balance, a debit
that carries debt, and a status that nobody knows.
-/

namespace LunchLineup.Jobs.Provenance

open LunchLineup.Lib LunchLineup.Python LunchLineup.Billing

/-- What the judges read of a job: the columns of its row, and the ledger rows
with its deterministic debit id and refund id. -/
structure JobCredit where
  jobId : String
  tenantId : String
  status : String
  creditConsumption : PyValue
  debitRows : List CreditTransaction
  refundRows : List CreditTransaction

/-- `ACTIVE_STATUSES`. -/
def activeStatuses : List String := ["QUEUED", "RUNNING", "RETRYING"]

/-- `REFUNDED_STATUSES`. -/
def refundedStatuses : List String := ["FAILED", "DEAD_LETTERED"]

/-- `SCHEDULE_JOB_TERMINAL_STATUSES`. -/
def terminalStatuses : List String := ["SUCCEEDED", "FAILED", "DEAD_LETTERED"]

/-! ## The API -/

/-- The code units of a JavaScript string. -/
def codeUnits (text : String) : List Nat :=
  text.toList.flatMap fun c =>
    if c.toNat < 0x10000 then [c.toNat]
    else [0xd800 + (c.toNat - 0x10000) / 0x400, 0xdc00 + (c.toNat - 0x10000) % 0x400]

/-- The order of `Array.prototype.sort` without a comparator. -/
def codeUnitLe (first second : String) : Prop := codeUnits first ≤ codeUnits second

instance : DecidableRel codeUnitLe := fun _ _ => inferInstanceAs (Decidable (_ ≤ _))

/-- A JSON number that `Number.isSafeInteger` accepts. -/
def safeNumber? : PyValue → Option Int
  | .int value => if -maxSafeInteger ≤ value ∧ value ≤ maxSafeInteger then some value else none
  | .float value =>
      if value.den = 1 ∧ -maxSafeInteger ≤ value.num ∧ value.num ≤ maxSafeInteger then
        some value.num
      else none
  | _ => none

/-- `parseCreditConsumption`. -/
def parseCreditConsumption (value : PyValue) : Option (Int × Int) :=
  match value with
  | .dict entries =>
      let keys := (Dict.keys entries).insertionSort codeUnitLe
      match getValue entries "source", safeNumber? (getValue entries "consumedCredits"),
        safeNumber? (getValue entries "newBalance") with
      | .str source, some consumedCredits, some newBalance =>
          if ",".intercalate keys = "consumedCredits,newBalance,source" ∧ source = "credits" ∧
              0 < consumedCredits ∧ consumedCredits ≤ maxStoredCreditBalance ∧
              0 ≤ newBalance ∧ newBalance ≤ maxStoredCreditBalance ∧
              consumedCredits ≤ maxStoredCreditBalance - newBalance then
            some (consumedCredits, newBalance)
          else none
      | _, _, _ => none
  | _ => none

/-- `ScheduleSolveCreditRowSummary`. -/
structure RowSummary where
  count : Int
  tenantId : Option String
  amount : Option Int
  debtAmount : Option Int
  reason : Option String
  debtAfter : Option Int

/-- `summarize`. -/
def summarize (rows : List CreditTransaction) : RowSummary :=
  match rows with
  | [row] => ⟨1, some row.tenantId, some row.amount, some row.debtAmount, some row.reason,
      row.debtAfter⟩
  | rows => ⟨rows.length, none, none, none, none, none⟩

/-- `integer`, and `ledgerDebtAmount` and `ledgerDebtAfter`. -/
def integer (value : Option Int) : Option Int :=
  value.filter fun parsed => -maxSafeInteger ≤ parsed && parsed ≤ maxSafeInteger

/-- `count`. -/
def count (value : Int) : Option Int :=
  (integer (some value)).filter fun parsed => 0 ≤ parsed

/-- `refundIsExact`. -/
def refundIsExact (job : JobCredit) (refund : RowSummary) (consumedCredits : Int) : Bool :=
  count refund.count = some 1 && refund.tenantId = some job.tenantId &&
    (match integer refund.amount, integer refund.debtAmount, integer refund.debtAfter with
    | some amount, some debtAmount, some debtAfter =>
        0 ≤ amount && debtAmount ≤ 0 && amount - debtAmount = consumedCredits && 0 ≤ debtAfter
    | _, _, _ => false) &&
    refund.reason = some (refundReason job.jobId)

/-- `assertScheduleSolveCreditProvenance`. -/
def assertScheduleSolveCreditProvenance (job : JobCredit) (debit refund : RowSummary) :
    Except String (Int × Int) :=
  match parseCreditConsumption job.creditConsumption with
  | none => .error "Schedule solve credit metadata is invalid."
  | some (consumedCredits, newBalance) => do
      ensure (count debit.count = some 1 ∧ debit.tenantId = some job.tenantId ∧
          integer debit.amount = some (-consumedCredits) ∧
          integer debit.debtAmount = some 0 ∧ integer debit.debtAfter = some 0 ∧
          debit.reason = some (debitReason job.jobId))
        "Schedule solve debit provenance is invalid."
      if job.status ∈ refundedStatuses then
        ensure (refundIsExact job refund consumedCredits = true)
          "Schedule solve refund provenance is invalid."
      else if job.status ∈ activeStatuses ∨ job.status = "SUCCEEDED" then
        ensure (count refund.count = some 0)
          "Schedule solve debit and deterministic refund cannot coexist for this status."
      else
        .error "Schedule solve status provenance is invalid."
      .ok (consumedCredits, newBalance)

/-- The checks of the publisher: the provenance, and the balance that the debit
left. -/
def publisherCheck (job : JobCredit) : Except String (Int × Int) := do
  let provenance ← assertScheduleSolveCreditProvenance job (summarize job.debitRows)
    (summarize job.refundRows)
  match job.debitRows with
  | [row] => do
      ensure ((integer row.balanceAfter).filter (fun parsed => 0 ≤ parsed) = some provenance.2)
        "Schedule solve debit settlement balance is invalid."
      .ok provenance
  | _ => .error "Schedule solve debit settlement balance is invalid."

/-! ## The worker -/

/-- The aggregates that the worker's statements return. -/
structure AggregatedColumns where
  debitCount : Int
  debitTenantId : Option String
  debitAmount : Option Int
  debitReason : Option String
  debitBalanceAfter : Option Int
  refundCount : Int
  refundTenantId : Option String
  refundAmount : Option Int
  refundReason : Option String
  refundBalanceAfter : Option Int

/-- `str(value)` of a text or `None`. -/
def pyStr : Option String → String
  | none => "None"
  | some text => text

/-- `_assert_schedule_credit_provenance`.  `creditReservation` reads the
metadata. -/
def assertScheduleCreditProvenance (job : JobCredit) (columns : AggregatedColumns) :
    Except String (Int × Int) :=
  match creditReservation job.creditConsumption with
  | none => .error "schedule solve paid credit reservation metadata is invalid"
  | some (consumedCredits, newBalance) => do
      ensure (columns.debitCount = 1 ∧ pyStr columns.debitTenantId = job.tenantId ∧
          columns.debitAmount = some (-consumedCredits) ∧
          pyStr columns.debitReason = debitReason job.jobId ∧
          columns.debitBalanceAfter = some newBalance)
        "schedule solve paid credit reservation debit provenance is invalid"
      if job.status ∈ refundedStatuses then
        ensure (columns.refundCount = 1 ∧ pyStr columns.refundTenantId = job.tenantId ∧
            columns.refundAmount = some consumedCredits ∧
            pyStr columns.refundReason = refundReason job.jobId ∧
            columns.refundBalanceAfter.any (0 ≤ ·) = true)
          "schedule solve refund provenance is invalid"
      else if job.status ∈ ["QUEUED", "RUNNING", "RETRYING", "SUCCEEDED"] then
        ensure (columns.refundCount = 0)
          "schedule solve debit and deterministic refund cannot coexist"
      else
        .error "schedule solve status provenance is invalid"
      .ok (consumedCredits, newBalance)

/-- `MIN` of texts under the collation of the database. -/
def minText (collation : String → String → Bool) : List String → Option String
  | [] => none
  | text :: rest =>
      some (rest.foldl (fun least next => if collation least next then least else next) text)

/-- The aggregates of the rows; `debitAmount` is the amount a statement reads of
a debit row. -/
def aggregate (collation : String → String → Bool)
    (debitAmount : CreditTransaction → Option Int) (job : JobCredit) : AggregatedColumns where
  debitCount := job.debitRows.length
  debitTenantId := minText collation (job.debitRows.map CreditTransaction.tenantId)
  debitAmount := (job.debitRows.filterMap debitAmount).min?
  debitReason := minText collation (job.debitRows.map CreditTransaction.reason)
  debitBalanceAfter := (job.debitRows.filterMap CreditTransaction.balanceAfter).min?
  refundCount := job.refundRows.length
  refundTenantId := minText collation (job.refundRows.map CreditTransaction.tenantId)
  refundAmount := (job.refundRows.filterMap refundedValue).min?
  refundReason := minText collation (job.refundRows.map CreditTransaction.reason)
  refundBalanceAfter := (job.refundRows.filterMap CreditTransaction.balanceAfter).min?

/-- The columns of the claim and of the persist step. -/
def claimColumns (collation : String → String → Bool) (job : JobCredit) : AggregatedColumns :=
  aggregate collation debtFreeAmount job

/-- The columns of the settlement, whose debit amount is the row's. -/
def settlementColumns (collation : String → String → Bool) (job : JobCredit) :
    AggregatedColumns :=
  aggregate collation (fun row => some row.amount) job

/-! ## The settlement statement -/

/-- `"configuredAmount"`.  The column equals the object built of its three
fields exactly when it has these keys and no other; the text of a JSON integer
matches `^[1-9][0-9]*$` when the integer is positive, and `^(0|[1-9][0-9]*)$`
when it is not negative. -/
def configuredAmount (creditConsumption : PyValue) : Option Int :=
  match creditConsumption with
  | .dict entries =>
      if (∀ key ∈ Dict.keys entries, key ∈ ["consumedCredits", "newBalance", "source"]) ∧
          (∀ key ∈ ["consumedCredits", "newBalance", "source"], key ∈ Dict.keys entries) then
        match getValue entries "source", getValue entries "consumedCredits",
          getValue entries "newBalance" with
        | .str source, .int consumedCredits, .int newBalance =>
            if source = "credits" ∧ 1 ≤ consumedCredits ∧ 0 ≤ newBalance ∧
                newBalance ≤ 2147483647 ∧ consumedCredits ≤ 2147483647 - newBalance then
              if consumedCredits ≤ 2147483647 then some consumedCredits else none
            else none
        | _, _, _ => none
      else none
  | _ => none

/-- `("creditConsumption"->>'newBalance')::integer`. -/
def newBalanceColumn : PyValue → Option Int
  | .dict entries =>
      match getValue entries "newBalance" with
      | .int newBalance => some newBalance
      | _ => none
  | _ => none

/-- The rows of `valid_provenance`. -/
def validProvenance (job : JobCredit) : List CreditTransaction :=
  job.debitRows.filter fun debit =>
    job.debitRows.length = 1 &&
      (match configuredAmount job.creditConsumption with
      | some amount => debit.amount = -amount
      | none => false) &&
      debit.tenantId = job.tenantId && debit.debtAmount = 0 && debit.debtAfter = some 0 &&
      debit.reason = debitReason job.jobId && debit.balanceAfter.isSome &&
      debit.balanceAfter = newBalanceColumn job.creditConsumption && job.refundRows.length = 0

/-! ## What each accepts -/

/-- The publisher goes on with the job. -/
def ApiAccepts (job : JobCredit) : Prop := ∃ provenance, publisherCheck job = .ok provenance

/-- The worker goes on with the job on the columns it read. -/
def WorkerAccepts (job : JobCredit) (columns : AggregatedColumns) : Prop :=
  ∃ provenance, assertScheduleCreditProvenance job columns = .ok provenance

/-- The settlement statement has a row to work on. -/
def SqlAccepts (job : JobCredit) : Prop := validProvenance job ≠ []

/-! ## The metadata -/

/-- A stored JSON value: an object has each key once, and its numbers are
integers. -/
structure IntegerJson (value : PyValue) : Prop where
  distinct : ∀ entries, value = .dict entries → (Dict.keys entries).Nodup
  integers : ∀ entries, value = .dict entries → ∀ key number, getValue entries key ≠ .float number

/-- The length of a joined text, with one more separator at its end. -/
theorem length_intercalate_comma {texts : List String} (h : texts ≠ []) :
    (",".intercalate texts).length + 1 = (texts.map fun text => text.length + 1).sum := by
  induction texts with
  | nil => exact absurd rfl h
  | cons text rest ih =>
      cases rest with
      | nil => simp
      | cons next more =>
          have hrest := ih (by simp)
          rw [String.intercalate_cons_cons, List.map_cons, List.sum_cons, ← hrest]
          simp only [String.length_append]
          have hcomma : ",".length = 1 := rfl
          omega

/-- The keys that the joined text admits: with the three keys there is no room
for another. -/
theorem intercalate_keys_iff {keys : List String} (hnodup : keys.Nodup)
    (hsource : "source" ∈ keys) (hconsumed : "consumedCredits" ∈ keys)
    (hbalance : "newBalance" ∈ keys) :
    ",".intercalate (keys.insertionSort codeUnitLe) = "consumedCredits,newBalance,source" ↔
      ∀ key ∈ keys, key ∈ ["source", "consumedCredits", "newBalance"] := by
  have hperm := List.perm_insertionSort codeUnitLe keys
  constructor
  · intro hjoined key hkey
    by_contra hother
    have hne : keys.insertionSort codeUnitLe ≠ [] := by
      apply List.ne_nil_of_mem (a := key)
      exact hperm.mem_iff.mpr hkey
    have hlength := length_intercalate_comma hne
    rw [hjoined, (hperm.map _).sum_eq] at hlength
    have hsubset : key :: ["source", "consumedCredits", "newBalance"] ⊆ keys := by
      intro found hfound
      simp only [List.mem_cons, List.not_mem_nil, or_false] at hfound
      rcases hfound with rfl | rfl | rfl | rfl
      · exact hkey
      · exact hsource
      · exact hconsumed
      · exact hbalance
    have hfour : (key :: ["source", "consumedCredits", "newBalance"]).Nodup :=
      List.nodup_cons.mpr ⟨hother, by decide⟩
    obtain ⟨part, hpart, hsublist⟩ := hfour.subperm hsubset
    have hsum := (hsublist.map fun text : String => text.length + 1).sum_le_sum
      fun _ _ => Nat.zero_le _
    rw [(hpart.map _).sum_eq, ← hlength] at hsum
    simp only [List.map_cons, List.map_nil, List.sum_cons, List.sum_nil] at hsum
    have h₁ : "source".length = 6 := by decide
    have h₂ : "consumedCredits".length = 15 := by decide
    have h₃ : "newBalance".length = 10 := by decide
    have h₄ : "consumedCredits,newBalance,source".length = 33 := by decide
    omega
  · intro hkeys
    have hthree : keys.Perm ["source", "consumedCredits", "newBalance"] := by
      refine (List.perm_ext_iff_of_nodup hnodup (by decide)).mpr fun key => ?_
      refine ⟨hkeys key, fun hkey => ?_⟩
      simp only [List.mem_cons, List.not_mem_nil, or_false] at hkey
      rcases hkey with rfl | rfl | rfl
      · exact hsource
      · exact hconsumed
      · exact hbalance
    have hall : ∀ keys ∈ ["source", "consumedCredits", "newBalance"].permutations',
        ",".intercalate (keys.insertionSort codeUnitLe) = "consumedCredits,newBalance,source" := by
      decide +kernel
    exact hall keys (List.mem_permutations'.mpr hthree)

theorem mem_keys_of_getValue_ne_none {entries : Dict String PyValue} {key : String}
    (h : getValue entries key ≠ .none) : key ∈ Dict.keys entries := by
  by_contra hkey
  apply h
  unfold getValue Dict.getD
  rw [Dict.get?_eq_none.mpr hkey]
  rfl

/-- The metadata of a paid reservation. -/
structure Reserves (value : PyValue) (consumedCredits newBalance : Int) : Prop where
  fields : ∃ entries, value = .dict entries ∧
    (∀ key ∈ Dict.keys entries, key ∈ ["source", "consumedCredits", "newBalance"]) ∧
    getValue entries "source" = .str "credits" ∧
    getValue entries "consumedCredits" = .int consumedCredits ∧
    getValue entries "newBalance" = .int newBalance
  positive : 0 < consumedCredits
  nonneg : 0 ≤ newBalance
  bounded : consumedCredits ≤ maxStoredCreditBalance - newBalance

theorem creditReservation_eq_some {value : PyValue} {consumedCredits newBalance : Int} :
    creditReservation value = some (consumedCredits, newBalance) ↔
      Reserves value consumedCredits newBalance := by
  constructor
  · intro h
    unfold creditReservation at h
    split at h
    · rename_i entries
      split at h
      · rename_i source consumed balance hsource hconsumed hbalance
        split at h
        · rename_i hchecks
          obtain ⟨rfl, rfl⟩ := Prod.ext_iff.mp (Option.some.inj h)
          obtain ⟨hkeys, rfl, hpositive, _, hnonneg, _, hbound⟩ := hchecks
          exact ⟨⟨entries, rfl, hkeys, hsource, hconsumed, hbalance⟩, hpositive, hnonneg, hbound⟩
        · cases h
      · cases h
    · cases h
  · rintro ⟨⟨entries, rfl, hkeys, hsource, hconsumed, hbalance⟩, hpositive, hnonneg, hbound⟩
    unfold creditReservation
    simp only [hsource, hconsumed, hbalance]
    rw [if_pos]
    refine ⟨hkeys, trivial, hpositive, ?_, hnonneg, ?_, hbound⟩
    · omega
    · omega

/-- A number of the stored metadata, as JavaScript reads it. -/
theorem safeNumber?_eq_some {value : PyValue} (hinteger : ∀ number, value ≠ .float number)
    {n : Int} :
    safeNumber? value = some n ↔ value = .int n ∧ -maxSafeInteger ≤ n ∧ n ≤ maxSafeInteger := by
  cases value with
  | int m =>
      have hread : safeNumber? (.int m) =
          if -maxSafeInteger ≤ m ∧ m ≤ maxSafeInteger then some m else none := rfl
      rw [hread]
      constructor
      · intro h
        split at h
        · rename_i hsafe
          obtain rfl := Option.some.inj h
          exact ⟨rfl, hsafe⟩
        · cases h
      · rintro ⟨h, hsafe⟩
        obtain rfl := PyValue.int.inj h
        exact if_pos hsafe
  | float number => exact absurd rfl (hinteger number)
  | none => simp [safeNumber?]
  | bool _ => simp [safeNumber?]
  | str _ => simp [safeNumber?]
  | list _ => simp [safeNumber?]
  | dict _ => simp [safeNumber?]

/-- The API reads the metadata as the worker does. -/
theorem parseCreditConsumption_eq_some {value : PyValue} (hvalue : IntegerJson value)
    {consumedCredits newBalance : Int} :
    parseCreditConsumption value = some (consumedCredits, newBalance) ↔
      Reserves value consumedCredits newBalance := by
  constructor
  · intro h
    unfold parseCreditConsumption at h
    split at h
    · rename_i entries
      have hinteger := hvalue.integers entries rfl
      split at h
      · rename_i source consumed balance hsource hconsumed hbalance
        rw [safeNumber?_eq_some (hinteger _)] at hconsumed hbalance
        dsimp only at h
        split at h
        · rename_i hchecks
          obtain ⟨rfl, rfl⟩ := Prod.ext_iff.mp (Option.some.inj h)
          obtain ⟨hjoined, rfl, hpositive, _, hnonneg, _, hbound⟩ := hchecks
          refine ⟨⟨entries, rfl, ?_, hsource, hconsumed.1, hbalance.1⟩, hpositive, hnonneg, hbound⟩
          exact (intercalate_keys_iff (hvalue.distinct entries rfl)
            (mem_keys_of_getValue_ne_none (by rw [hsource]; simp))
            (mem_keys_of_getValue_ne_none (by rw [hconsumed.1]; simp))
            (mem_keys_of_getValue_ne_none (by rw [hbalance.1]; simp))).mp hjoined
        · cases h
      · cases h
    · cases h
  · rintro ⟨⟨entries, rfl, hkeys, hsource, hconsumed, hbalance⟩, hpositive, hnonneg, hbound⟩
    have hinteger := hvalue.integers entries rfl
    have hjoined := (intercalate_keys_iff (hvalue.distinct entries rfl)
      (mem_keys_of_getValue_ne_none (by rw [hsource]; simp))
      (mem_keys_of_getValue_ne_none (by rw [hconsumed]; simp))
      (mem_keys_of_getValue_ne_none (by rw [hbalance]; simp))).mpr hkeys
    have hmax : maxStoredCreditBalance = 2147483647 := rfl
    have hsafe : maxSafeInteger = 9007199254740991 := rfl
    have hconsumed' : safeNumber? (getValue entries "consumedCredits") = some consumedCredits :=
      (safeNumber?_eq_some (hinteger _)).mpr ⟨hconsumed, by omega, by omega⟩
    have hbalance' : safeNumber? (getValue entries "newBalance") = some newBalance :=
      (safeNumber?_eq_some (hinteger _)).mpr ⟨hbalance, by omega, by omega⟩
    unfold parseCreditConsumption
    simp only [hsource, hconsumed', hbalance']
    rw [if_pos]
    refine ⟨hjoined, trivial, hpositive, ?_, hnonneg, ?_, hbound⟩
    · omega
    · omega

/-- The settlement statement reads the consumed credits as the worker does. -/
theorem configuredAmount_eq_some {value : PyValue} {consumedCredits : Int} :
    configuredAmount value = some consumedCredits ↔
      ∃ newBalance, Reserves value consumedCredits newBalance := by
  have hmax : maxStoredCreditBalance = 2147483647 := rfl
  constructor
  · intro h
    unfold configuredAmount at h
    split at h
    · rename_i entries
      split at h
      · rename_i hkeys
        split at h
        · rename_i source consumed balance hsource hconsumed hbalance
          split at h
          · rename_i hchecks
            obtain ⟨rfl, hpositive, hnonneg, _, hbound⟩ := hchecks
            split at h
            · obtain rfl := Option.some.inj h
              refine ⟨balance, ⟨entries, rfl, ?_, hsource, hconsumed, hbalance⟩, by omega, hnonneg,
                by omega⟩
              intro key hkey
              have hthree := hkeys.1 key hkey
              simp only [List.mem_cons, List.not_mem_nil, or_false] at hthree ⊢
              tauto
            · cases h
          · cases h
        · cases h
      · cases h
    · cases h
  · rintro ⟨newBalance, ⟨entries, rfl, hkeys, hsource, hconsumed, hbalance⟩, hpositive, hnonneg,
      hbound⟩
    have hpresent : (∀ key ∈ Dict.keys entries,
        key ∈ ["consumedCredits", "newBalance", "source"]) ∧
          ∀ key ∈ ["consumedCredits", "newBalance", "source"], key ∈ Dict.keys entries := by
      constructor
      · intro key hkey
        have hthree := hkeys key hkey
        simp only [List.mem_cons, List.not_mem_nil, or_false] at hthree ⊢
        tauto
      · intro key hkey
        apply mem_keys_of_getValue_ne_none
        simp only [List.mem_cons, List.not_mem_nil, or_false] at hkey
        rcases hkey with rfl | rfl | rfl
        · simp [hconsumed]
        · simp [hbalance]
        · simp [hsource]
    unfold configuredAmount
    simp only [if_pos hpresent, hsource, hconsumed, hbalance]
    rw [if_pos ⟨trivial, by omega, hnonneg, by omega, by omega⟩, if_pos (by omega)]

theorem Reserves.newBalanceColumn {value : PyValue} {consumedCredits newBalance : Int}
    (h : Reserves value consumedCredits newBalance) :
    newBalanceColumn value = some newBalance := by
  obtain ⟨⟨entries, rfl, _, _, _, hbalance⟩, _⟩ := h
  unfold Provenance.newBalanceColumn
  simp only [hbalance]

theorem Reserves.unique {value : PyValue} {consumedCredits newBalance consumedCredits'
    newBalance' : Int} (h : Reserves value consumedCredits newBalance)
    (h' : Reserves value consumedCredits' newBalance') :
    consumedCredits = consumedCredits' ∧ newBalance = newBalance' := by
  have heq := (creditReservation_eq_some.mpr h).symm.trans (creditReservation_eq_some.mpr h')
  exact Prod.ext_iff.mp (Option.some.inj heq)

/-! ## What each judge asks for -/

/-- The one debit row is that of the reservation, whatever debt it carries. -/
def DebitMatches (job : JobCredit) (consumedCredits newBalance : Int) : Prop :=
  ∃ row, job.debitRows = [row] ∧ row.tenantId = job.tenantId ∧ row.amount = -consumedCredits ∧
    row.reason = debitReason job.jobId ∧ row.balanceAfter = some newBalance

/-- The debit neither incurred debt nor left any. -/
def DebtFree (job : JobCredit) : Prop :=
  ∀ row ∈ job.debitRows, row.debtAmount = 0 ∧ row.debtAfter = some 0

/-- The one refund row restores the consumed credits. -/
def RefundMatches (job : JobCredit) (consumedCredits : Int) : Prop :=
  ∃ row, job.refundRows = [row] ∧ row.tenantId = job.tenantId ∧
    refundedValue row = some consumedCredits ∧ row.reason = refundReason job.jobId

/-- The refund recorded the balance it left. -/
def RefundBalanced (job : JobCredit) : Prop :=
  ∀ row ∈ job.refundRows, ∃ balance, row.balanceAfter = some balance ∧ 0 ≤ balance

/-- The statuses of a job whose credits stay consumed. -/
def unrefundedStatuses : List String := ["QUEUED", "RUNNING", "RETRYING", "SUCCEEDED"]

theorem not_mem_refundedStatuses {status : String} (h : status ∈ unrefundedStatuses) :
    status ∉ refundedStatuses := by
  have hall : ∀ status ∈ unrefundedStatuses, status ∉ refundedStatuses := by decide
  exact hall status h

theorem mem_unrefundedStatuses {status : String} :
    status ∈ unrefundedStatuses ↔ status ∈ activeStatuses ∨ status = "SUCCEEDED" := by
  simp [unrefundedStatuses, activeStatuses, or_assoc]

/-- The branches on the status of a job, in both checks. -/
theorem statusBranch_eq_ok {job : JobCredit} {refunded unrefunded : Prop} [Decidable refunded]
    [Decidable unrefunded] {unknown : Prop} [Decidable unknown]
    (hunknown : unknown ↔ job.status ∈ unrefundedStatuses)
    {refundError coexistError statusError : String} {provenance result : Int × Int} :
    (do
      if job.status ∈ refundedStatuses then ensure refunded refundError
      else if unknown then ensure unrefunded coexistError
      else .error statusError
      .ok provenance : Except String (Int × Int)) = .ok result ↔
      ((job.status ∈ refundedStatuses ∧ refunded) ∨
        (job.status ∈ unrefundedStatuses ∧ unrefunded)) ∧ provenance = result := by
  by_cases hrefunded : job.status ∈ refundedStatuses
  · have hnot : job.status ∉ unrefundedStatuses :=
      fun h => not_mem_refundedStatuses h hrefunded
    simp only [hrefunded, if_true, hnot, false_and, or_false, true_and, bind_eq_ok, ensure_eq_ok,
      Except.ok.injEq, exists_const]
  · by_cases hlive : unknown
    · simp only [hrefunded, if_false, hlive, if_true, hunknown.mp hlive, false_and, false_or,
        true_and, bind_eq_ok, ensure_eq_ok, Except.ok.injEq, exists_const]
    · simp only [hrefunded, if_false, hlive, mt hunknown.mpr hlive, false_and, or_false,
        error_bind, iff_false]
      exact fun h => by cases h

theorem integer_eq_some {value : Option Int} {n : Int} :
    integer value = some n ↔ value = some n ∧ -maxSafeInteger ≤ n ∧ n ≤ maxSafeInteger := by
  unfold integer
  rw [Option.filter_eq_some_iff]
  simp

/-- The number of rows is what a safe integer can hold, or no number at all. -/
theorem count_eq_some {n : Nat} {k : Int} (hk : k ≤ 1) :
    count n = some k ↔ (n : Int) = k := by
  have hsafe : maxSafeInteger = 9007199254740991 := rfl
  unfold count
  rw [Option.filter_eq_some_iff, integer_eq_some]
  simp only [Option.some.injEq, decide_eq_true_eq]
  constructor
  · rintro ⟨⟨rfl, _⟩, _⟩
    rfl
  · intro h
    exact ⟨⟨h, by omega, by omega⟩, by omega⟩

theorem length_eq_one_iff {rows : List CreditTransaction} :
    (rows.length : Int) = 1 ↔ ∃ row, rows = [row] := by
  rw [← List.length_eq_one_iff]
  omega

theorem length_eq_zero_iff {rows : List CreditTransaction} :
    (rows.length : Int) = 0 ↔ rows = [] := by
  rw [← List.length_eq_zero_iff]
  omega

theorem summarize_count (rows : List CreditTransaction) :
    (summarize rows).count = rows.length := by
  unfold summarize
  split
  · rfl
  · rfl

/-- The refund that the API asks for.  The values of a refund that restores a
stored amount are safe. -/
theorem refundIsExact_iff {job : JobCredit} {consumedCredits newBalance : Int}
    (hreserves : Reserves job.creditConsumption consumedCredits newBalance)
    (htyped : ∀ row ∈ job.refundRows, row.Typed) :
    refundIsExact job (summarize job.refundRows) consumedCredits = true ↔
      RefundMatches job consumedCredits := by
  have hmax : maxStoredCreditBalance = 2147483647 := rfl
  have hsafe : maxSafeInteger = 9007199254740991 := rfl
  have hbound := hreserves.bounded
  have hnonneg := hreserves.nonneg
  unfold refundIsExact
  rw [Bool.and_eq_true, Bool.and_eq_true, Bool.and_eq_true, decide_eq_true_eq, summarize_count,
    count_eq_some le_rfl, length_eq_one_iff]
  constructor
  · rintro ⟨⟨⟨⟨row, hrow⟩, htenant⟩, hvalue⟩, hreason⟩
    rw [hrow] at htenant hvalue hreason
    simp only [summarize, decide_eq_true_eq, Option.some.injEq] at htenant hvalue hreason
    refine ⟨row, hrow, htenant, ?_, hreason⟩
    split at hvalue
    · rename_i amount debtAmount debtAfter hamount hdebt hafter
      rw [integer_eq_some, Option.some.injEq] at hamount hdebt
      rw [integer_eq_some] at hafter
      simp only [Bool.and_eq_true, decide_eq_true_eq] at hvalue
      unfold refundedValue
      rw [if_pos, Option.some.injEq, hamount.1, hdebt.1]
      · exact hvalue.1.2
      · rw [hamount.1, hdebt.1, hafter.1]
        simp [hvalue.1.1.1, hvalue.1.1.2, hvalue.2]
    · cases hvalue
  · rintro ⟨row, hrow, htenant, hvalue, hreason⟩
    have hrowTyped := htyped row (by rw [hrow]; exact List.mem_cons_self)
    unfold refundedValue at hvalue
    split at hvalue
    · rename_i hchecks
      obtain ⟨hamount, hdebt, hafter⟩ := hchecks
      have hdifference := Option.some.inj hvalue
      obtain ⟨debtAfter, hdebtAfter, hdebtNonneg⟩ : ∃ debtAfter, row.debtAfter = some debtAfter ∧
          0 ≤ debtAfter := by
        simpa [Option.any_eq_true] using hafter
      have hinteger := (hrowTyped.debtAfter debtAfter hdebtAfter).2
      have hamount' : integer (some row.amount) = some row.amount :=
        integer_eq_some.mpr ⟨rfl, by omega, by omega⟩
      have hdebt' : integer (some row.debtAmount) = some row.debtAmount :=
        integer_eq_some.mpr ⟨rfl, by omega, by omega⟩
      have hafter' : integer row.debtAfter = some debtAfter :=
        integer_eq_some.mpr ⟨hdebtAfter, by omega, by omega⟩
      refine ⟨⟨⟨⟨row, hrow⟩, ?_⟩, ?_⟩, ?_⟩
      · rw [hrow]
        simp [summarize, htenant]
      · rw [hrow]
        simp [summarize, hamount', hdebt', hafter', hamount, hdebt, hdifference, hdebtNonneg]
      · rw [hrow]
        simp [summarize, hreason]
    · cases hvalue

/-- The publisher accepts a job whose reservation matches a debit without debt,
and whose refund is there when its status says so. -/
theorem apiAccepts_iff {job : JobCredit} (hvalue : IntegerJson job.creditConsumption)
    (htyped : ∀ row ∈ job.refundRows, row.Typed) :
    ApiAccepts job ↔ ∃ consumedCredits newBalance,
      Reserves job.creditConsumption consumedCredits newBalance ∧
        DebitMatches job consumedCredits newBalance ∧ DebtFree job ∧
          ((job.status ∈ refundedStatuses ∧ RefundMatches job consumedCredits) ∨
            (job.status ∈ unrefundedStatuses ∧ job.refundRows = [])) := by
  have hmax : maxStoredCreditBalance = 2147483647 := rfl
  have hsafe : maxSafeInteger = 9007199254740991 := rfl
  have hunrefunded : count (summarize job.refundRows).count = some 0 ↔ job.refundRows = [] := by
    rw [summarize_count, count_eq_some (by omega), length_eq_zero_iff]
  unfold ApiAccepts publisherCheck assertScheduleSolveCreditProvenance
  constructor
  · rintro ⟨provenance, h⟩
    obtain ⟨found, hfound, h⟩ := bind_eq_ok.mp h
    split at hfound
    · cases hfound
    rename_i consumedCredits newBalance hmetadata
    have hreserves := (parseCreditConsumption_eq_some hvalue).mp hmetadata
    obtain ⟨_, hdebit, hbranch⟩ := bind_eq_ok.mp hfound
    obtain ⟨hstatus, rfl⟩ := (statusBranch_eq_ok mem_unrefundedStatuses.symm).mp hbranch
    rw [refundIsExact_iff hreserves htyped, hunrefunded] at hstatus
    obtain ⟨_, htenant, hamount, hdebt, hafter, hreason⟩ := ensure_eq_ok.mp hdebit
    split at h
    · rename_i row hrow
      obtain ⟨_, hbalance, _⟩ := bind_eq_ok.mp h
      rw [ensure_eq_ok, Option.filter_eq_some_iff, integer_eq_some] at hbalance
      rw [hrow] at htenant hamount hdebt hafter hreason
      simp only [summarize, integer_eq_some,
        Option.some.injEq] at htenant hamount hdebt hafter hreason
      refine ⟨_, _, hreserves, ⟨row, hrow, htenant, hamount.1, hreason, hbalance.1.1⟩, ?_, hstatus⟩
      intro other hother
      rw [hrow, List.mem_singleton] at hother
      subst hother
      exact ⟨hdebt.1, hafter.1⟩
    · cases h
  · rintro ⟨consumedCredits, newBalance, hreserves, ⟨row, hrow, htenant, hamount, hreason,
      hbalance⟩, hfree, hstatus⟩
    have hpositive := hreserves.positive
    have hnonneg := hreserves.nonneg
    have hbound := hreserves.bounded
    obtain ⟨hdebt, hafter⟩ := hfree row (by rw [hrow]; exact List.mem_cons_self)
    have hmetadata := (parseCreditConsumption_eq_some hvalue).mpr hreserves
    rw [← refundIsExact_iff hreserves htyped, ← hunrefunded] at hstatus
    refine ⟨(consumedCredits, newBalance), bind_eq_ok.mpr ⟨(consumedCredits, newBalance), ?_, ?_⟩⟩
    · rw [hmetadata]
      refine bind_eq_ok.mpr ⟨(), ensure_eq_ok.mpr ?_,
        (statusBranch_eq_ok mem_unrefundedStatuses.symm).mpr ⟨hstatus, rfl⟩⟩
      rw [summarize_count, count_eq_some le_rfl, length_eq_one_iff]
      refine ⟨⟨row, hrow⟩, ?_⟩
      rw [hrow]
      simp only [summarize, integer_eq_some, Option.some.injEq]
      exact ⟨htenant, ⟨hamount, by omega, by omega⟩, ⟨hdebt, by omega, by omega⟩,
        ⟨hafter, by omega, by omega⟩, hreason⟩
    · rw [hrow]
      refine bind_eq_ok.mpr ⟨(), ensure_eq_ok.mpr ?_, rfl⟩
      rw [Option.filter_eq_some_iff, integer_eq_some]
      exact ⟨⟨hbalance, by omega, by omega⟩, by simpa using hnonneg⟩

/-- The least value of one row is the value of the row. -/
theorem min?_filterMap_singleton {value : CreditTransaction → Option Int}
    {row : CreditTransaction} {n : Int} :
    ([row].filterMap value).min? = some n ↔ value row = some n := by
  cases hvalue : value row with
  | none => simp [hvalue]
  | some m => simp [hvalue]

/-- The worker accepts a job whose reservation matches the debit that its
statement reads, and whose refund is there, with its balance, when the status
says so. -/
theorem workerAccepts_aggregate_iff (collation : String → String → Bool)
    (debitAmount : CreditTransaction → Option Int) (job : JobCredit) :
    WorkerAccepts job (aggregate collation debitAmount job) ↔ ∃ consumedCredits newBalance,
      Reserves job.creditConsumption consumedCredits newBalance ∧
        (∃ row, job.debitRows = [row] ∧ row.tenantId = job.tenantId ∧
          debitAmount row = some (-consumedCredits) ∧ row.reason = debitReason job.jobId ∧
          row.balanceAfter = some newBalance) ∧
          ((job.status ∈ refundedStatuses ∧ RefundMatches job consumedCredits ∧
              RefundBalanced job) ∨
            (job.status ∈ unrefundedStatuses ∧ job.refundRows = [])) := by
  have hrefund : ∀ consumedCredits : Int,
      (((job.refundRows.length : Int) = 1 ∧
          pyStr (minText collation (job.refundRows.map CreditTransaction.tenantId)) =
            job.tenantId ∧
          (job.refundRows.filterMap refundedValue).min? = some consumedCredits ∧
          pyStr (minText collation (job.refundRows.map CreditTransaction.reason)) =
            refundReason job.jobId ∧
          ((job.refundRows.filterMap CreditTransaction.balanceAfter).min?).any (0 ≤ ·) = true) ↔
        RefundMatches job consumedCredits ∧ RefundBalanced job) := by
    intro consumedCredits
    rw [length_eq_one_iff]
    constructor
    · rintro ⟨⟨row, hrow⟩, htenant, hvalue, hreason, hbalance⟩
      rw [hrow] at htenant hvalue hreason hbalance
      refine ⟨⟨row, hrow, htenant, min?_filterMap_singleton.mp hvalue, hreason⟩, ?_⟩
      intro other hother
      rw [hrow, List.mem_singleton] at hother
      subst hother
      rw [Option.any_eq_true] at hbalance
      obtain ⟨balance, hmin, hnonneg⟩ := hbalance
      exact ⟨balance, min?_filterMap_singleton.mp hmin, by simpa using hnonneg⟩
    · rintro ⟨⟨row, hrow, htenant, hvalue, hreason⟩, hbalanced⟩
      obtain ⟨balance, hbalance, hnonneg⟩ :=
        hbalanced row (by rw [hrow]; exact List.mem_cons_self)
      refine ⟨⟨row, hrow⟩, ?_⟩
      rw [hrow]
      refine ⟨htenant, min?_filterMap_singleton.mpr hvalue, hreason, ?_⟩
      rw [min?_filterMap_singleton.mpr hbalance]
      simpa using hnonneg
  have hknown : job.status ∈ ["QUEUED", "RUNNING", "RETRYING", "SUCCEEDED"] ↔
      job.status ∈ unrefundedStatuses := Iff.rfl
  unfold WorkerAccepts assertScheduleCreditProvenance
  constructor
  · rintro ⟨provenance, h⟩
    split at h
    · cases h
    rename_i consumedCredits newBalance hmetadata
    obtain ⟨_, hdebit, hbranch⟩ := bind_eq_ok.mp h
    obtain ⟨hstatus, rfl⟩ := (statusBranch_eq_ok hknown).mp hbranch
    obtain ⟨hcount, htenant, hamount, hreason, hbalance⟩ := ensure_eq_ok.mp hdebit
    obtain ⟨row, hrow⟩ := length_eq_one_iff.mp hcount
    dsimp only [aggregate] at hstatus htenant hamount hreason hbalance
    rw [hrefund, length_eq_zero_iff] at hstatus
    rw [hrow] at htenant hamount hreason hbalance
    exact ⟨_, _, creditReservation_eq_some.mp hmetadata,
      ⟨row, hrow, htenant, min?_filterMap_singleton.mp hamount, hreason,
        min?_filterMap_singleton.mp hbalance⟩, hstatus⟩
  · rintro ⟨consumedCredits, newBalance, hreserves, ⟨row, hrow, htenant, hamount, hreason,
      hbalance⟩, hstatus⟩
    refine ⟨(consumedCredits, newBalance), ?_⟩
    rw [creditReservation_eq_some.mpr hreserves]
    refine bind_eq_ok.mpr ⟨(), ensure_eq_ok.mpr ?_, (statusBranch_eq_ok hknown).mpr ⟨?_, rfl⟩⟩
    · dsimp only [aggregate]
      rw [length_eq_one_iff, hrow]
      exact ⟨⟨row, rfl⟩, htenant, min?_filterMap_singleton.mpr hamount, hreason,
        min?_filterMap_singleton.mpr hbalance⟩
    · dsimp only [aggregate]
      rw [hrefund, length_eq_zero_iff]
      exact hstatus

/-- The settlement statement has a row for a job whose reservation matches a
debit without debt and that has no refund. -/
theorem sqlAccepts_iff (job : JobCredit) :
    SqlAccepts job ↔ ∃ consumedCredits newBalance,
      Reserves job.creditConsumption consumedCredits newBalance ∧
        DebitMatches job consumedCredits newBalance ∧ DebtFree job ∧ job.refundRows = [] := by
  unfold SqlAccepts validProvenance
  constructor
  · intro h
    obtain ⟨row, hmem⟩ := List.exists_mem_of_ne_nil _ h
    simp only [List.mem_filter, Bool.and_eq_true, decide_eq_true_eq] at hmem
    obtain ⟨hrow, ⟨⟨⟨⟨⟨⟨⟨hcount, hamount⟩, htenant⟩, hdebt⟩, hafter⟩, hreason⟩, hsome⟩, hbalance⟩,
      hrefunds⟩ := hmem
    split at hamount
    · rename_i consumedCredits hconfigured
      obtain ⟨newBalance, hreserves⟩ := configuredAmount_eq_some.mp hconfigured
      obtain ⟨only, honly⟩ := List.length_eq_one_iff.mp hcount
      rw [honly, List.mem_singleton] at hrow
      subst hrow
      refine ⟨consumedCredits, newBalance, hreserves, ⟨row, honly, htenant, by simpa using hamount,
        hreason, hbalance.trans hreserves.newBalanceColumn⟩, ?_, List.length_eq_zero_iff.mp hrefunds⟩
      intro other hother
      rw [honly, List.mem_singleton] at hother
      subst hother
      exact ⟨hdebt, hafter⟩
    · cases hamount
  · rintro ⟨consumedCredits, newBalance, hreserves, ⟨row, hrow, htenant, hamount, hreason,
      hbalance⟩, hfree, hrefunds⟩
    obtain ⟨hdebt, hafter⟩ := hfree row (by rw [hrow]; exact List.mem_cons_self)
    apply List.ne_nil_of_mem (a := row)
    rw [List.mem_filter, hrow, configuredAmount_eq_some.mpr ⟨newBalance, hreserves⟩, hbalance,
      hreserves.newBalanceColumn, hrefunds]
    simp [htenant, hamount, hdebt, hafter, hreason]

/-! ## Where they part -/

/-- The reservation of the job and its debit row fit together. -/
def Debited (job : JobCredit) (consumedCredits newBalance : Int) : Prop :=
  Reserves job.creditConsumption consumedCredits newBalance ∧
    DebitMatches job consumedCredits newBalance

theorem exists_debited_iff {job : JobCredit} {consumedCredits newBalance : Int}
    (hdebited : Debited job consumedCredits newBalance) (rest : Int → Prop) :
    (∃ consumedCredits newBalance, Debited job consumedCredits newBalance ∧
      rest consumedCredits) ↔ rest consumedCredits := by
  constructor
  · rintro ⟨_, _, hother, hrest⟩
    obtain ⟨rfl, _⟩ := hdebited.1.unique hother.1
    exact hrest
  · exact fun hrest => ⟨_, _, hdebited, hrest⟩

/-- The refund is as the status of the job says, with its balance. -/
def SettledAsSaid (job : JobCredit) (consumedCredits : Int) : Prop :=
  (job.status ∈ refundedStatuses ∧ RefundMatches job consumedCredits ∧ RefundBalanced job) ∨
    (job.status ∈ unrefundedStatuses ∧ job.refundRows = [])

/-- The jobs on which nothing depends on who judges: the value of a refund came
with the balance it left, a debit that is otherwise in order left no debt, and a
live job has a status that all three know. -/
structure Undisputed (job : JobCredit) : Prop where
  refundBalance : ∀ consumedCredits newBalance, Debited job consumedCredits newBalance →
    DebtFree job → job.status ∈ refundedStatuses → RefundMatches job consumedCredits →
    RefundBalanced job
  debtFree : ∀ consumedCredits newBalance, Debited job consumedCredits newBalance →
    SettledAsSaid job consumedCredits → DebtFree job
  knownStatus : ∀ consumedCredits newBalance, Debited job consumedCredits newBalance →
    DebtFree job → job.refundRows = [] → job.status ∉ terminalStatuses →
    job.status ∈ activeStatuses

theorem debtFreeAmount_eq_some {row : CreditTransaction} {amount : Int} :
    debtFreeAmount row = some amount ↔
      row.amount = amount ∧ row.debtAmount = 0 ∧ row.debtAfter = some 0 := by
  unfold debtFreeAmount
  split
  · rename_i hfree
    simp [hfree]
  · rename_i hdebt
    simp [hdebt]

/-- The claim and the persist step ask for a debit without debt. -/
theorem workerAccepts_claimColumns_iff (collation : String → String → Bool) (job : JobCredit) :
    WorkerAccepts job (claimColumns collation job) ↔ ∃ consumedCredits newBalance,
      Debited job consumedCredits newBalance ∧ DebtFree job ∧
        SettledAsSaid job consumedCredits := by
  rw [claimColumns, workerAccepts_aggregate_iff]
  refine exists_congr fun consumedCredits => exists_congr fun newBalance => ?_
  constructor
  · rintro ⟨hreserves, ⟨row, hrow, htenant, hamount, hreason, hbalance⟩, hsettled⟩
    obtain ⟨hamount, hfree⟩ := debtFreeAmount_eq_some.mp hamount
    refine ⟨⟨hreserves, row, hrow, htenant, hamount, hreason, hbalance⟩, ?_, hsettled⟩
    intro other hother
    rw [hrow, List.mem_singleton] at hother
    subst hother
    exact hfree
  · rintro ⟨⟨hreserves, row, hrow, htenant, hamount, hreason, hbalance⟩, hfree, hsettled⟩
    exact ⟨hreserves, ⟨row, hrow, htenant, debtFreeAmount_eq_some.mpr
      ⟨hamount, hfree row (by rw [hrow]; exact List.mem_cons_self)⟩, hreason, hbalance⟩, hsettled⟩

/-- The columns of the settlement say nothing about debt. -/
theorem workerAccepts_settlementColumns_iff (collation : String → String → Bool)
    (job : JobCredit) :
    WorkerAccepts job (settlementColumns collation job) ↔ ∃ consumedCredits newBalance,
      Debited job consumedCredits newBalance ∧ SettledAsSaid job consumedCredits := by
  rw [settlementColumns, workerAccepts_aggregate_iff]
  refine exists_congr fun consumedCredits => exists_congr fun newBalance => ?_
  constructor
  · rintro ⟨hreserves, ⟨row, hrow, htenant, hamount, hreason, hbalance⟩, hsettled⟩
    exact ⟨⟨hreserves, row, hrow, htenant, Option.some.inj hamount, hreason, hbalance⟩, hsettled⟩
  · rintro ⟨⟨hreserves, row, hrow, htenant, hamount, hreason, hbalance⟩, hsettled⟩
    exact ⟨hreserves, ⟨row, hrow, htenant, congrArg some hamount, hreason, hbalance⟩, hsettled⟩

/-- All judges accept the job or all reject it; the settlement statement is
asked about live jobs. -/
def JudgedAlike (collation : String → String → Bool) (job : JobCredit) : Prop :=
  (ApiAccepts job ↔ WorkerAccepts job (claimColumns collation job)) ∧
    (ApiAccepts job ↔ WorkerAccepts job (settlementColumns collation job)) ∧
      (job.status ∉ terminalStatuses → (ApiAccepts job ↔ SqlAccepts job))

/-- The judges agree on exactly the undisputed jobs. -/
theorem judgedAlike_iff_undisputed (collation : String → String → Bool) {job : JobCredit}
    (hvalue : IntegerJson job.creditConsumption) (htyped : ∀ row ∈ job.refundRows, row.Typed) :
    JudgedAlike collation job ↔ Undisputed job := by
  have hstatus : job.status ∈ unrefundedStatuses → job.status ∉ refundedStatuses :=
    not_mem_refundedStatuses
  have hactive : job.status ∉ terminalStatuses →
      (job.status ∈ unrefundedStatuses ↔ job.status ∈ activeStatuses) := by
    intro hlive
    rw [mem_unrefundedStatuses]
    refine ⟨fun h => h.resolve_right fun h => hlive ?_, Or.inl⟩
    rw [h]
    decide
  have hrefunded : job.status ∈ refundedStatuses → job.status ∈ terminalStatuses := by
    have hall : ∀ status ∈ refundedStatuses, status ∈ terminalStatuses := by decide
    exact hall job.status
  have hapi : ApiAccepts job ↔ ∃ consumedCredits newBalance,
      Debited job consumedCredits newBalance ∧ DebtFree job ∧
        ((job.status ∈ refundedStatuses ∧ RefundMatches job consumedCredits) ∨
          (job.status ∈ unrefundedStatuses ∧ job.refundRows = [])) := by
    rw [apiAccepts_iff hvalue htyped]
    simp only [Debited, and_assoc]
  have hsql : SqlAccepts job ↔ ∃ consumedCredits newBalance,
      Debited job consumedCredits newBalance ∧ DebtFree job ∧ job.refundRows = [] := by
    rw [sqlAccepts_iff]
    simp only [Debited, and_assoc]
  unfold JudgedAlike
  rw [hapi, workerAccepts_claimColumns_iff, workerAccepts_settlementColumns_iff, hsql]
  by_cases hdebited : ∃ consumedCredits newBalance, Debited job consumedCredits newBalance
  · obtain ⟨consumedCredits, newBalance, hdebited⟩ := hdebited
    have hsame : ∀ consumedCredits' newBalance', Debited job consumedCredits' newBalance' →
        consumedCredits' = consumedCredits := fun _ _ h => (h.1.unique hdebited.1).1
    rw [exists_debited_iff hdebited (fun consumedCredits => DebtFree job ∧
        ((job.status ∈ refundedStatuses ∧ RefundMatches job consumedCredits) ∨
          (job.status ∈ unrefundedStatuses ∧ job.refundRows = []))),
      exists_debited_iff hdebited (fun consumedCredits => DebtFree job ∧
        SettledAsSaid job consumedCredits),
      exists_debited_iff hdebited (fun consumedCredits =>
        SettledAsSaid job consumedCredits),
      exists_debited_iff hdebited (fun _ => DebtFree job ∧ job.refundRows = [])]
    constructor
    · rintro ⟨hclaim, hsettlement, hlive⟩
      refine ⟨?_, ?_, ?_⟩
      · intro consumedCredits' newBalance' h hfree hrefund hmatches
        obtain rfl := hsame _ _ h
        rcases (hclaim.mp ⟨hfree, Or.inl ⟨hrefund, hmatches⟩⟩).2 with hsettled | hsettled
        · exact hsettled.2.2
        · exact absurd hrefund (hstatus hsettled.1)
      · intro consumedCredits' newBalance' h hsettled
        obtain rfl := hsame _ _ h
        exact (hsettlement.mpr hsettled).1
      · intro consumedCredits' newBalance' h hfree hnone hterminal
        rcases ((hlive hterminal).mpr ⟨hfree, hnone⟩).2 with hjudged | hjudged
        · exact absurd (hrefunded hjudged.1) hterminal
        · exact (hactive hterminal).mp hjudged.1
    · intro h
      have hbalance := h.refundBalance _ _ hdebited
      have hfree := h.debtFree _ _ hdebited
      refine ⟨⟨?_, ?_⟩, ⟨?_, ?_⟩, fun hterminal => ⟨?_, ?_⟩⟩
      · rintro ⟨hnoDebt, ⟨hrefund, hmatches⟩ | hsettled⟩
        · exact ⟨hnoDebt, Or.inl ⟨hrefund, hmatches, hbalance hnoDebt hrefund hmatches⟩⟩
        · exact ⟨hnoDebt, Or.inr hsettled⟩
      · rintro ⟨hnoDebt, ⟨hrefund, hmatches, _⟩ | hsettled⟩
        · exact ⟨hnoDebt, Or.inl ⟨hrefund, hmatches⟩⟩
        · exact ⟨hnoDebt, Or.inr hsettled⟩
      · rintro ⟨hnoDebt, ⟨hrefund, hmatches⟩ | hsettled⟩
        · exact Or.inl ⟨hrefund, hmatches, hbalance hnoDebt hrefund hmatches⟩
        · exact Or.inr hsettled
      · intro hsettled
        refine ⟨hfree hsettled, ?_⟩
        rcases hsettled with ⟨hrefund, hmatches, _⟩ | hsettled
        · exact Or.inl ⟨hrefund, hmatches⟩
        · exact Or.inr hsettled
      · rintro ⟨hnoDebt, ⟨hrefund, _⟩ | hsettled⟩
        · exact absurd (hrefunded hrefund) hterminal
        · exact ⟨hnoDebt, hsettled.2⟩
      · rintro ⟨hnoDebt, hnone⟩
        exact ⟨hnoDebt, Or.inr ⟨(hactive hterminal).mpr
          (h.knownStatus _ _ hdebited hnoDebt hnone hterminal), hnone⟩⟩
  · -- Without the debit of the reservation every judge rejects.
    have hnot : ∀ rest : Int → Prop, ¬ ∃ consumedCredits newBalance,
        Debited job consumedCredits newBalance ∧ rest consumedCredits := by
      rintro rest ⟨consumedCredits, newBalance, h, _⟩
      exact hdebited ⟨consumedCredits, newBalance, h⟩
    constructor
    · intro _
      exact ⟨fun _ _ h => absurd ⟨_, _, h⟩ hdebited, fun _ _ h => absurd ⟨_, _, h⟩ hdebited,
        fun _ _ h => absurd ⟨_, _, h⟩ hdebited⟩
    · intro _
      exact ⟨iff_of_false (hnot _) (hnot _), iff_of_false (hnot _) (hnot _),
        fun _ => iff_of_false (hnot _) (hnot _)⟩

/-! ## A refund of the time before balances were recorded -/

namespace LegacyRefund

def debit : CreditTransaction :=
  ⟨"schedule-credit-job-1", "tenant-1", -5, 0, "Schedule generation (job-1)", some 95, some 0⟩

/-- A refund row that never recorded the balance it left. -/
def refund : CreditTransaction :=
  ⟨"schedule-credit-refund-job-1", "tenant-1", 5, 0, "Schedule generation refund (job-1)", none,
    some 0⟩

def job : JobCredit where
  jobId := "job-1"
  tenantId := "tenant-1"
  status := "FAILED"
  creditConsumption := .dict
    [("source", .str "credits"), ("consumedCredits", .int 5), ("newBalance", .int 95)]
  debitRows := [debit]
  refundRows := [refund]

def collation (first second : String) : Bool := first ≤ second

theorem integerJson : IntegerJson job.creditConsumption where
  distinct entries h := by
    obtain rfl := PyValue.dict.inj h
    decide
  integers entries h key number := by
    obtain rfl := PyValue.dict.inj h
    by_cases hsource : "source" = key
    · simp [getValue, Dict.getD, Dict.get?, hsource]
    by_cases hconsumed : "consumedCredits" = key
    · simp [getValue, Dict.getD, Dict.get?, hsource, hconsumed]
    by_cases hbalance : "newBalance" = key
    · simp [getValue, Dict.getD, Dict.get?, hsource, hconsumed, hbalance]
    · simp [getValue, Dict.getD, Dict.get?, hsource, hconsumed, hbalance]

theorem typed : ∀ row ∈ job.refundRows, row.Typed := by
  intro row hrow
  rw [show job.refundRows = [refund] from rfl, List.mem_singleton] at hrow
  subst hrow
  refine ⟨fun balance h => ?_, fun debt h => ?_⟩
  · cases h
  · obtain rfl := Option.some.inj h
    decide

/-- The publisher accepts the refund and the worker refuses it. -/
theorem judged_differently :
    IntegerJson job.creditConsumption ∧ (∀ row ∈ job.refundRows, row.Typed) ∧
      publisherCheck job = .ok (5, 95) ∧
      ¬ WorkerAccepts job (claimColumns collation job) ∧ ¬ JudgedAlike collation job := by
  have haccepts : publisherCheck job = .ok (5, 95) := by decide +kernel
  have hrefuses : ¬ WorkerAccepts job (claimColumns collation job) := by
    have herror : assertScheduleCreditProvenance job (claimColumns collation job) =
        .error "schedule solve refund provenance is invalid" := by
      decide +kernel
    rintro ⟨provenance, h⟩
    rw [herror] at h
    cases h
  exact ⟨integerJson, typed, haccepts, hrefuses, fun h => hrefuses (h.1.mp ⟨_, haccepts⟩)⟩

/-- The exact condition at this job. -/
theorem exact_at_refund : JudgedAlike collation job ↔ Undisputed job :=
  judgedAlike_iff_undisputed collation integerJson typed

end LegacyRefund

end LunchLineup.Jobs.Provenance
