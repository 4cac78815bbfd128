import LunchLineup.Billing.LedgerInvariant
import LunchLineup.Lib.Table

/-!
# A debit that is refunded at most once

Paid work has one debit and, when it is given up, one refund, each under an id made from
the id of the work.  `RefundedOnce` couples the ledger with whether the work was given
up.  It survives the refund of live work (`RefundedOnce.refunds`) and every call of the
wallet under another id (`RefundedOnce.commit`), and says how many refunds there are
(`RefundedOnce.count`).
-/

namespace LunchLineup.Billing

open LunchLineup.Lib

/-- The debit is in the ledger, the refund exactly if the work was given up, and the
two are of the same value. -/
structure RefundedOnce (store : Store) (debitId refundId : String) (refunded : Prop) : Prop where
  rows : (store.ledger.map (·.id)).Nodup
  debit : ∃ row ∈ store.ledger, row.id = debitId
  refund : (∃ row ∈ store.ledger, row.id = refundId) ↔ refunded
  value : ∀ refund ∈ store.ledger, refund.id = refundId →
    ∀ debit ∈ store.ledger, debit.id = debitId →
      refund.amount - refund.debtAmount = -debit.amount

namespace RefundedOnce

variable {store after : Store} {debitId refundId : String} {refunded : Prop}
  {settlement : Settlement} {row : CreditTransaction} {wallet : Wallet}

theorem congr {refunded' : Prop} (h : RefundedOnce store debitId refundId refunded)
    (hiff : refunded ↔ refunded') : RefundedOnce store debitId refundId refunded' where
  rows := h.rows
  debit := h.debit
  refund := h.refund.trans hiff
  value := h.value

/-- Live work has no refund. -/
theorem noRefund (h : RefundedOnce store debitId refundId refunded) (hlive : ¬ refunded) :
    ∀ row ∈ store.ledger, row.id ≠ refundId :=
  fun row hrow hid => hlive (h.refund.mp ⟨row, hrow, hid⟩)

/-- A row under another id. -/
theorem applies_other (h : RefundedOnce store debitId refundId refunded)
    (happlies : Applies store settlement after row wallet) (hother : row.id ≠ refundId) :
    RefundedOnce after debitId refundId refunded := by
  have hnot_debit : row.id ≠ debitId := by
    obtain ⟨debit, hmem, hdebit⟩ := h.debit
    intro heq
    exact happlies.fresh debit hmem (hdebit.trans heq.symm)
  have hold : ∀ {other : CreditTransaction} {id : String}, other ∈ after.ledger →
      other.id = id → row.id ≠ id → other ∈ store.ledger := by
    intro other id hother hid hne
    rw [happlies.ledger] at hother
    rcases List.mem_append.mp hother with hmem | hmem
    · exact hmem
    · rw [List.mem_singleton.mp hmem] at hid
      exact absurd hid hne
  have hgrows : ∀ other ∈ store.ledger, other ∈ after.ledger := by
    intro other hmem
    rw [happlies.ledger]
    exact List.mem_append_left _ hmem
  refine ⟨?_, ?_, ?_, ?_⟩
  · rw [happlies.ledger]
    exact nodup_keys_append h.rows happlies.fresh
  · obtain ⟨debit, hmem, hdebit⟩ := h.debit
    exact ⟨debit, hgrows debit hmem, hdebit⟩
  · rw [← h.refund]
    constructor
    · rintro ⟨refund, hmem, hid⟩
      exact ⟨refund, hold hmem hid hother, hid⟩
    · rintro ⟨refund, hmem, hid⟩
      exact ⟨refund, hgrows refund hmem, hid⟩
  · intro refund hrefund hrefund_id debit hdebit hdebit_id
    exact h.value refund (hold hrefund hrefund_id hother) hrefund_id debit
      (hold hdebit hdebit_id hnot_debit) hdebit_id

/-- A call of the wallet under another id. -/
theorem commit (h : RefundedOnce store debitId refundId refunded) (isControl : Char → Bool)
    {request : WalletRequest} (hforeign : request.call.transactionId ≠ some refundId) :
    RefundedOnce (commit isControl store request).2 debitId refundId refunded := by
  rcases commit_cases isControl store request with hsame | ⟨_, row, _, hid, _, happlies⟩
  · rw [hsame]
    exact h
  · refine h.applies_other happlies ?_
    intro heq
    exact hforeign (hid.symm.trans (congrArg some heq))

/-- The refund of live work. -/
theorem refunds (h : RefundedOnce store debitId refundId refunded) (hlive : ¬ refunded)
    (happlies : Applies store settlement after row wallet) (hid : row.id = refundId)
    (hne : refundId ≠ debitId)
    (hvalue : ∀ debit ∈ store.ledger, debit.id = debitId →
      row.amount - row.debtAmount = -debit.amount) :
    RefundedOnce after debitId refundId True := by
  refine ⟨?_, ?_, ?_, ?_⟩
  · rw [happlies.ledger]
    exact nodup_keys_append h.rows happlies.fresh
  · obtain ⟨debit, hmem, hdebit⟩ := h.debit
    rw [happlies.ledger]
    exact ⟨debit, List.mem_append_left _ hmem, hdebit⟩
  · refine iff_of_true ⟨row, ?_, hid⟩ trivial
    rw [happlies.ledger]
    exact List.mem_append_right _ (List.mem_singleton_self row)
  · rw [happlies.ledger]
    intro refund hrefund hrefund_id debit hdebit hdebit_id
    -- The live work had no refund, so the new row is the only one.
    rcases List.mem_append.mp hrefund with hold | hnew
    · exact absurd hrefund_id (h.noRefund hlive refund hold)
    · rw [List.mem_singleton.mp hnew]
      rcases List.mem_append.mp hdebit with hold | hnew'
      · exact hvalue debit hold hdebit_id
      · rw [List.mem_singleton.mp hnew', hid] at hdebit_id
        exact absurd hdebit_id hne

theorem count [Decidable refunded] (h : RefundedOnce store debitId refundId refunded) :
    (store.ledger.filter (·.id = refundId)).length = if refunded then 1 else 0 := by
  split
  · rename_i hrefunded
    obtain ⟨row, hrow, hid⟩ := h.refund.mpr hrefunded
    have hnodup := (List.Nodup.of_map _ h.rows).filter fun other => decide (other.id = refundId)
    have hsingle := eq_singleton_of_nodup hnodup
      (List.mem_filter.mpr ⟨hrow, decide_eq_true hid⟩) (by
        intro other hother
        obtain ⟨hother, hother_id⟩ := List.mem_filter.mp hother
        exact eq_of_key h.rows hother hrow ((of_decide_eq_true hother_id).trans hid.symm))
    rw [hsingle]
    rfl
  · rename_i hlive
    rw [List.length_eq_zero_iff, List.filter_eq_nil_iff]
    intro row hrow hid
    exact h.noRefund hlive row hrow (of_decide_eq_true hid)

end RefundedOnce

/-! ## Identifiers -/

/-- Texts that start differently are different. -/
theorem append_ne_of_take_ne {first second rest rest' : List Char} {count : Nat}
    (hfirst : count ≤ first.length) (hsecond : count ≤ second.length)
    (hne : first.take count ≠ second.take count) : first ++ rest ≠ second ++ rest' := by
  intro h
  have hstarts := congrArg (List.take count) h
  rw [List.take_append_of_le_length hfirst, List.take_append_of_le_length hsecond] at hstarts
  exact hne hstarts

/-! ## A refund that goes through -/

theorem updateTenant_of_inRange {store : Store} {tenantId : String} {wallet : Wallet}
    (h : wallet.InRange) : store.updateTenant tenantId wallet =
      .ok { store with tenants := Dict.set store.tenants tenantId wallet } := by
  obtain ⟨⟨hcredits, hcredits'⟩, hdebt, hdebt'⟩ := h
  have hinteger : IsInteger wallet.usageCredits ∧ IsInteger wallet.creditDebt := by
    simp only [IsInteger, maxStoredCreditBalance] at *
    omega
  unfold Store.updateTenant
  rw [ensure_of_true _ hinteger, ensure_of_true _ hcredits, ensure_of_true _ hdebt]
  rfl

theorem insertCreditTransaction_of_fresh {store : Store} {row : CreditTransaction}
    {wallet settled : Wallet} (hwallet : store.wallet? row.tenantId = some wallet)
    (hdebt : ¬ (row.debtAmount = 0 ∧ 0 < wallet.creditDebt))
    (hamounts : IsInteger row.amount ∧ IsInteger row.debtAmount) (hrange : settled.InRange)
    (hbalance : row.balanceAfter = some settled.usageCredits)
    (hdebtAfter : row.debtAfter = some settled.creditDebt)
    (hfresh : ∀ other ∈ store.ledger, other.id ≠ row.id) :
    store.insertCreditTransaction row = .ok { store with ledger := store.ledger ++ [row] } := by
  obtain ⟨⟨hcredits, hcredits'⟩, hdebts, hdebts'⟩ := hrange
  have hkept : some (row.debtAfter.getD wallet.creditDebt) = row.debtAfter := by
    rw [hdebtAfter, Option.getD_some]
  have hbalances : ∀ balance ∈ row.balanceAfter, IsInteger balance ∧ 0 ≤ balance := by
    intro balance hmem
    rw [hbalance, Option.mem_some_iff] at hmem
    simp only [IsInteger, maxStoredCreditBalance] at *
    omega
  have hdebtsAfter : ∀ debt ∈ row.debtAfter, IsInteger debt ∧ 0 ≤ debt := by
    intro debt hmem
    rw [hdebtAfter, Option.mem_some_iff] at hmem
    simp only [IsInteger, maxStoredCreditBalance] at *
    omega
  unfold Store.insertCreditTransaction
  simp only [hwallet, hkept]
  rw [ensure_of_true _ hdebt, ensure_of_true _ hamounts, ensure_of_true _ hbalances,
    ensure_of_true _ hdebtsAfter, ensure_of_true _ hfresh]
  rfl

/-- What a settlement of `value` answers that repays `repaid` of a wallet's debt. -/
def settledAnswer (transactionId : String) (wallet : Wallet) (value repaid : Int) :
    PositiveCreditSettlement where
  transactionId := transactionId
  creditedValue := value
  spendableAmount := value - repaid
  repaidDebt := repaid
  newBalance := wallet.usageCredits + (value - repaid)
  debtAfter := wallet.creditDebt - repaid
  replayed := false

/-- A settlement under a new id succeeds where the wallet has room for it. -/
theorem settlePositive_fresh {isControl : Char → Bool} {store : Store} {platformAdmin : Bool}
    {tenantId reason transactionId : String} {value : Int} {wallet : Wallet}
    (hvalue : 0 < value) (htenantId : isSqlBlank tenantId = false)
    (hreason : isSqlBlank reason = false ∧ reason.length ≤ 500)
    (htransactionId : isSqlBlank transactionId = false ∧ transactionId.length ≤ 255 ∧
      transactionId.toList.any isControl = false)
    (hwallet : store.wallet? tenantId = some wallet) (hrange : wallet.InRange)
    (hroom : wallet.usageCredits + value ≤ maxStoredCreditBalance)
    (hfresh : ∀ row ∈ store.ledger, row.id ≠ transactionId) :
    ∃ repaid after, (0 ≤ repaid ∧ repaid ≤ value ∧ repaid ≤ wallet.creditDebt) ∧
      settlePositiveCreditValue isControl store platformAdmin
        ⟨some tenantId, some value, some reason, some transactionId⟩ =
          .ok (settledAnswer transactionId wallet value repaid, after) := by
  obtain ⟨⟨hcredits, hcredits'⟩, hdebt, hdebt'⟩ := hrange
  have hnone : store.findUnique platformAdmin tenantId transactionId = none := by
    refine List.find?_eq_none.mpr fun row hrow => ?_
    simp [hfresh row hrow]
  have hrepaid : 0 ≤ min wallet.creditDebt value := le_min hdebt hvalue.le
  have hrepaid' : min wallet.creditDebt value ≤ value := min_le_right _ _
  have hrepaid'' : min wallet.creditDebt value ≤ wallet.creditDebt := min_le_left _ _
  have hwhole : min wallet.creditDebt value = 0 → wallet.creditDebt = 0 := by
    intro hzero
    rcases min_choice wallet.creditDebt value with hmin | hmin
    · exact hmin.symm.trans hzero
    · exact absurd (hmin.symm.trans hzero) hvalue.ne'
  obtain ⟨repaid, hmin⟩ : ∃ repaid, repaid = min wallet.creditDebt value := ⟨_, rfl⟩
  rw [← hmin] at hrepaid hrepaid' hrepaid'' hwhole
  let settled : Wallet := ⟨wallet.usageCredits + (value - repaid), wallet.creditDebt - repaid⟩
  let row : CreditTransaction := {
    id := transactionId, tenantId := tenantId, amount := value - repaid, debtAmount := -repaid
    reason := reason, balanceAfter := some settled.usageCredits
    debtAfter := some settled.creditDebt }
  have hsettled : settled.InRange := by
    refine ⟨⟨?_, ?_⟩, ?_, ?_⟩
    all_goals simp only [settled]; omega
  have hstored : value ≤ maxStoredCreditBalance := by omega
  have hmiddle : store.updateTenant tenantId settled =
      .ok { store with tenants := Dict.set store.tenants tenantId settled } :=
    updateTenant_of_inRange hsettled
  have hinserted : Store.insertCreditTransaction
      { store with tenants := Dict.set store.tenants tenantId settled } row =
      .ok ⟨Dict.set store.tenants tenantId settled, store.ledger ++ [row]⟩ := by
    refine insertCreditTransaction_of_fresh (Dict.get?_set_self _ _ _) ?_ ?_ hsettled rfl rfl hfresh
    · rintro ⟨hzero, hpositive⟩
      have := hwhole (by simpa [row] using hzero)
      simp only [settled] at hpositive
      omega
    · simp only [row, IsInteger, maxStoredCreditBalance] at *
      omega
  refine ⟨repaid, ⟨Dict.set store.tenants tenantId settled, store.ledger ++ [row]⟩,
    ⟨hrepaid, hrepaid', hrepaid''⟩, ?_⟩
  have hinteger : IsInteger value := by
    simp only [IsInteger, maxStoredCreditBalance] at *
    omega
  unfold settlePositiveCreditValue
  simp only [hwallet, hnone, ← hmin]
  rw [ensure_of_true _ hinteger, ensure_of_true _ (by simp [htenantId]), ensure_of_true _ hvalue,
    ensure_of_true _ (by simpa using hreason), ensure_of_true _ (by simpa using htransactionId),
    ensure_of_true _ ⟨hcredits, hdebt⟩, hmiddle]
  simp only [ok_bind]
  simp only [row, settled] at hinserted
  rw [hinserted]
  rfl

end LunchLineup.Billing
