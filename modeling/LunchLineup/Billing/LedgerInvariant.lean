import LunchLineup.Billing.Wallet
import LunchLineup.Lib.Run

/-!
# The wallet is the running total of its ledger

Whatever the four writers do, an accepted call either finds its transaction id
in the ledger and answers from the recorded row (`Replays`), or appends exactly
one row and moves the wallet by that row (`Applies`).  `perform_cases` proves
this once for all of them; everything else in this file is about these two
shapes only.

From it the wallet invariant follows along any run of calls: the balance and
the debt are the initial ones plus the sums over the appended rows, each row
records the running totals at its position, ids stay unique, and a wallet with
debt has nothing to spend if that was so at the start.
-/

namespace LunchLineup.Billing

open LunchLineup.Lib

/-! ## Calls and answers -/

/-- A call of one of the four writers. -/
inductive WalletCall
  | positiveSettlement (args : PositiveSettlementArgs)
  | creditDebit (args : CreditDebitArgs)
  | featureDebit (args : FeatureDebitArgs)
  | settlePositive (args : SettleArgs)

/-- The tenant whose wallet a call is about. -/
def WalletCall.tenantId : WalletCall → Option String
  | .positiveSettlement args => some args.tenantId
  | .creditDebit args => some args.tenantId
  | .featureDebit args => some args.tenantId
  | .settlePositive args => args.tenantId

/-- The ledger identity of a call. -/
def WalletCall.transactionId : WalletCall → Option String
  | .positiveSettlement args => some args.transactionId
  | .creditDebit args => some args.transactionId
  | .featureDebit args => some args.resolvedTransactionId
  | .settlePositive args => args.transactionId

/-- What a committed call returns. -/
inductive Settlement
  | positive (settlement : PositiveCreditSettlement)
  | debit (settlement : CreditDebitSettlement)

/-- A call in a session that is or is not the platform administrator's. -/
structure WalletRequest where
  call : WalletCall
  platformAdmin : Bool

/-- Run a call inside its transaction. -/
def perform (isControl : Char → Bool) (store : Store) (request : WalletRequest) :
    Except BillingError (Settlement × Store) :=
  match request.call with
  | .positiveSettlement args => do
      let (settlement, store) ←
        recordPositiveCreditSettlementInTransaction store request.platformAdmin args
      .ok (.positive settlement, store)
  | .creditDebit args => do
      let (settlement, store) ← recordCreditDebitInTransaction store request.platformAdmin args
      .ok (.debit settlement, store)
  | .featureDebit args => do
      let (settlement, store) ← debitFeatureCredit store request.platformAdmin args
      .ok (.debit settlement, store)
  | .settlePositive args => do
      let (settlement, store) ← settlePositiveCreditValue isControl store request.platformAdmin args
      .ok (.positive settlement, store)

/-- Commit a call, or roll it back when it throws. -/
def commit (isControl : Char → Bool) (store : Store) (request : WalletRequest) :
    Except BillingError Settlement × Store :=
  match perform isControl store request with
  | .ok (settlement, next) => (.ok settlement, next)
  | .error error => (.error error, store)

/-! ## What an accepted call does -/

/-- A settlement reports exactly what a ledger row records. -/
def Settlement.Reports (row : CreditTransaction) : Settlement → Prop
  | .positive settlement =>
      settlement.transactionId = row.id ∧
        settlement.creditedValue = row.amount - row.debtAmount ∧
        settlement.spendableAmount = row.amount ∧ settlement.repaidDebt = -row.debtAmount ∧
        some settlement.newBalance = row.balanceAfter ∧ some settlement.debtAfter = row.debtAfter
  | .debit settlement =>
      settlement.consumedCredits = -row.amount ∧ row.debtAmount = 0 ∧
        some settlement.newBalance = row.balanceAfter

/-- Both columns hold nonnegative `INTEGER` values. -/
def Wallet.InRange (wallet : Wallet) : Prop :=
  (0 ≤ wallet.usageCredits ∧ wallet.usageCredits ≤ maxStoredCreditBalance) ∧
    0 ≤ wallet.creditDebt ∧ wallet.creditDebt ≤ maxStoredCreditBalance

/-- A wallet in debt has nothing to spend. -/
def Wallet.DebtFirst (wallet : Wallet) : Prop :=
  0 < wallet.creditDebt → wallet.usageCredits = 0

/-- The wallet after one ledger row. -/
def Wallet.add (wallet : Wallet) (row : CreditTransaction) : Wallet :=
  ⟨wallet.usageCredits + row.amount, wallet.creditDebt + row.debtAmount⟩

/-- The call found its id: nothing changes and the answer is the recorded one. -/
structure Replays (before : Store) (settlement : Settlement) (after : Store)
    (row : CreditTransaction) : Prop where
  recorded : row ∈ before.ledger
  unchanged : after = before
  reports : settlement.Reports row

/-- The call appended one row and moved the tenant's wallet by it. -/
structure Applies (before : Store) (settlement : Settlement) (after : Store)
    (row : CreditTransaction) (wallet : Wallet) : Prop where
  fresh : ∀ other ∈ before.ledger, other.id ≠ row.id
  found : before.wallet? row.tenantId = some wallet
  tenants : after.tenants = Dict.set before.tenants row.tenantId (wallet.add row)
  ledger : after.ledger = before.ledger ++ [row]
  inRange : (wallet.add row).InRange
  balanceAfter : row.balanceAfter = some (wallet.add row).usageCredits
  debtAfter : row.debtAfter = some (wallet.add row).creditDebt
  debtFirst : wallet.DebtFirst → (wallet.add row).DebtFirst
  reports : settlement.Reports row

/-! ## Inverting the database writes -/

theorem findUnique_spec {store : Store} {platformAdmin : Bool} {tenantId id : String}
    {row : CreditTransaction} (h : store.findUnique platformAdmin tenantId id = some row) :
    row ∈ store.ledger ∧ row.id = id := by
  refine ⟨List.mem_of_find?_eq_some h, ?_⟩
  have hpred := List.find?_some h
  simp only [Bool.and_eq_true, decide_eq_true_eq] at hpred
  exact hpred.1

theorem updateTenant_ok {store after : Store} {tenantId : String} {wallet : Wallet}
    (h : store.updateTenant tenantId wallet = .ok after) :
    wallet.InRange ∧ after = { store with tenants := Dict.set store.tenants tenantId wallet } := by
  simp only [Store.updateTenant, bind_eq_ok, ensure_eq_ok, Except.ok.injEq] at h
  obtain ⟨_, ⟨hcredits, hdebt⟩, _, hcredits', _, hdebt', rfl⟩ := h
  exact ⟨⟨⟨hcredits', hcredits.2⟩, hdebt', hdebt.2⟩, rfl⟩

/-- An insert that leaves the debt result to no default appends its row as given. -/
theorem insertCreditTransaction_ok {store after : Store} {row : CreditTransaction} {debt : Int}
    (hdebt : row.debtAfter = some debt)
    (h : store.insertCreditTransaction row = .ok after) :
    (∀ other ∈ store.ledger, other.id ≠ row.id) ∧
      after = { store with ledger := store.ledger ++ [row] } := by
  unfold Store.insertCreditTransaction at h
  split at h
  · cases h
  · simp only [bind_eq_ok, ensure_eq_ok, Except.ok.injEq] at h
    obtain ⟨_, _, _, _, _, _, _, _, _, hfresh, rfl⟩ := h
    refine ⟨hfresh, ?_⟩
    rw [hdebt, Option.getD_some, ← hdebt]

theorem requireStored_ok {value : Option Int} {message : String} {n : Int}
    (h : requireStored value message = .ok n) : value = some n ∧ 0 ≤ n := by
  unfold requireStored at h
  split at h
  · simp only [bind_eq_ok, ensure_eq_ok, Except.ok.injEq] at h
    obtain ⟨_, hrange, rfl⟩ := h
    exact ⟨rfl, hrange.1⟩
  · cases h

/-- The two writes every writer ends with: move the wallet, then append the row
that records the move. -/
theorem applies_of_writes {before middle after : Store} {settlement : Settlement}
    {row : CreditTransaction} {wallet : Wallet}
    (hfound : before.wallet? row.tenantId = some wallet)
    (hupdate : before.updateTenant row.tenantId (wallet.add row) = .ok middle)
    (hinsert : middle.insertCreditTransaction row = .ok after)
    (hbalance : row.balanceAfter = some (wallet.add row).usageCredits)
    (hdebt : row.debtAfter = some (wallet.add row).creditDebt)
    (hfirst : wallet.DebtFirst → (wallet.add row).DebtFirst)
    (hreports : settlement.Reports row) : Applies before settlement after row wallet := by
  obtain ⟨hrange, rfl⟩ := updateTenant_ok hupdate
  obtain ⟨hfresh, rfl⟩ := insertCreditTransaction_ok hdebt hinsert
  exact ⟨hfresh, hfound, rfl, rfl, hrange, hbalance, hdebt, hfirst, hreports⟩

/-! ## The four writers -/

/-- A positive settlement of `value` on a wallet: debt is repaid first, the rest
is spendable. -/
theorem debtFirst_of_settlement {wallet : Wallet} {value : Int} (row : CreditTransaction)
    (hvalue : 0 < value) (hamount : row.amount = value - min wallet.creditDebt value)
    (hdebt : row.debtAmount = -min wallet.creditDebt value) (hfirst : wallet.DebtFirst) :
    (wallet.add row).DebtFirst := by
  unfold Wallet.DebtFirst Wallet.add at *
  intro hpos
  simp only [hamount, hdebt] at hpos ⊢
  have hzero : wallet.usageCredits = 0 := hfirst (by omega)
  omega

theorem recordPositive_cases {store after : Store} {platformAdmin : Bool}
    {args : PositiveSettlementArgs} {settlement : PositiveCreditSettlement}
    (h : recordPositiveCreditSettlementInTransaction store platformAdmin args =
      .ok (settlement, after)) :
    ∃ row : CreditTransaction, row.id = args.transactionId ∧ row.tenantId = args.tenantId ∧
      0 ≤ row.amount ∧
      (Replays store (.positive settlement) after row ∧ settlement.replayed = true ∨
        (∃ wallet, Applies store (.positive settlement) after row wallet) ∧
          settlement.replayed = false) := by
  unfold recordPositiveCreditSettlementInTransaction at h
  obtain ⟨_, _, h⟩ := bind_eq_ok.mp h
  split at h
  · cases h
  rename_i amount _
  simp only [bind_eq_ok, ensure_eq_ok] at h
  obtain ⟨_, hpositive, _, _, _, _, h⟩ := h
  split at h
  · -- the id is in the ledger: the answer is read off the recorded row
    rename_i existing hexisting
    obtain ⟨hmem, hid⟩ := findUnique_spec hexisting
    simp only [replayPositiveCreditSettlement, bind_eq_ok, ensure_eq_ok, Except.ok.injEq,
      Prod.mk.injEq] at h
    obtain ⟨_, ⟨_, hdetails, balance, hbalance, debt, hdebt, rfl⟩, rfl, rfl⟩ := h
    obtain ⟨htenant, hamount, hdebtAmount, hvalue, _⟩ := hdetails
    refine ⟨existing, hid, htenant, hamount, Or.inl ⟨⟨hmem, rfl, ?_⟩, rfl⟩⟩
    exact ⟨hid.symm, hvalue.symm, rfl, abs_of_nonpos hdebtAmount,
      (requireStored_ok hbalance).1.symm, (requireStored_ok hdebt).1.symm⟩
  · split at h
    · cases h
    rename_i current hfound
    simp only [bind_eq_ok, ensure_eq_ok, Except.ok.injEq, Prod.mk.injEq] at h
    obtain ⟨balance, hbalance, debt, hdebt, _, _, _, _, middle, hupdate, newBalance, hnewBalance,
      newDebt, hnewDebt, _, _, inserted, hinsert, rfl, rfl⟩ := h
    obtain ⟨hbalance, _⟩ := requireStored_ok hbalance
    obtain ⟨hdebt, _⟩ := requireStored_ok hdebt
    obtain ⟨hnewBalance, _⟩ := requireStored_ok hnewBalance
    obtain ⟨hnewDebt, _⟩ := requireStored_ok hnewDebt
    simp only [Option.some.injEq] at hbalance hdebt hnewBalance hnewDebt
    subst hbalance hdebt hnewBalance hnewDebt
    refine ⟨_, rfl, rfl, sub_nonneg.mpr (min_le_right _ _),
      Or.inr ⟨⟨current, applies_of_writes hfound hupdate hinsert ?_ ?_ ?_ ?_⟩, rfl⟩⟩
    · rfl
    · rfl
    · exact debtFirst_of_settlement _ hpositive rfl rfl
    · exact ⟨rfl, by ring, rfl, by ring, rfl, rfl⟩

theorem settlePositive_cases {isControl : Char → Bool} {store after : Store}
    {platformAdmin : Bool} {args : SettleArgs} {settlement : PositiveCreditSettlement}
    (h : settlePositiveCreditValue isControl store platformAdmin args = .ok (settlement, after)) :
    ∃ row : CreditTransaction, some row.id = args.transactionId ∧
      some row.tenantId = args.tenantId ∧ 0 ≤ row.amount ∧
      (Replays store (.positive settlement) after row ∧ settlement.replayed = true ∨
        (∃ wallet, Applies store (.positive settlement) after row wallet) ∧
          settlement.replayed = false) := by
  unfold settlePositiveCreditValue at h
  split at h
  case h_1 tenantId value reason transactionId htenantId hvalue _ htransactionId =>
    simp only [bind_eq_ok, ensure_eq_ok] at h
    obtain ⟨_, _, _, _, _, hpositive, _, _, _, _, h⟩ := h
    split at h
    · cases h
    rename_i current hfound
    obtain ⟨_, _, h⟩ := bind_eq_ok.mp h
    split at h
    · rename_i existing hexisting
      obtain ⟨hmem, hid⟩ := findUnique_spec hexisting
      split at h
      · rename_i balance debt hbalance hdebt
        simp only [bind_eq_ok, ensure_eq_ok, Except.ok.injEq, Prod.mk.injEq] at h
        obtain ⟨_, ⟨htenant, _, hamount, _, _, _, hsum⟩, rfl, rfl⟩ := h
        refine ⟨existing, by rw [hid, htransactionId], by rw [htenant, htenantId], hamount,
          Or.inl ⟨⟨hmem, rfl, ?_⟩, rfl⟩⟩
        exact ⟨hid.symm, hsum.symm, rfl, rfl, hbalance.symm, hdebt.symm⟩
      · cases h
    · simp only [bind_eq_ok, Except.ok.injEq, Prod.mk.injEq] at h
      obtain ⟨middle, hupdate, inserted, hinsert, rfl, rfl⟩ := h
      refine ⟨_, htransactionId.symm, htenantId.symm, sub_nonneg.mpr (min_le_right _ _),
        Or.inr ⟨⟨current, applies_of_writes hfound hupdate hinsert ?_ ?_ ?_ ?_⟩, rfl⟩⟩
      · rfl
      · rfl
      · exact debtFirst_of_settlement _ hpositive rfl rfl
      · exact ⟨rfl, by ring, rfl, by ring, rfl, rfl⟩
  all_goals cases h

/-- A settlement credits the value it was asked for. -/
theorem settlePositive_creditedValue {isControl : Char → Bool} {store after : Store}
    {platformAdmin : Bool} {args : SettleArgs} {settlement : PositiveCreditSettlement}
    (h : settlePositiveCreditValue isControl store platformAdmin args = .ok (settlement, after)) :
    args.value = some settlement.creditedValue := by
  unfold settlePositiveCreditValue at h
  split at h
  case h_1 tenantId value reason transactionId _ hvalue _ _ =>
    rw [hvalue]
    simp only [bind_eq_ok, ensure_eq_ok] at h
    obtain ⟨_, _, _, _, _, _, _, _, _, _, h⟩ := h
    split at h
    · cases h
    obtain ⟨_, _, h⟩ := bind_eq_ok.mp h
    split at h
    · split at h
      · simp only [bind_eq_ok, Except.ok.injEq, Prod.mk.injEq] at h
        obtain ⟨_, _, rfl, _⟩ := h
        rfl
      · cases h
    · simp only [bind_eq_ok, Except.ok.injEq, Prod.mk.injEq] at h
      obtain ⟨_, _, _, _, rfl, _⟩ := h
      rfl
  all_goals cases h

/-- The debit of a wallet, as the move by a row of amount `-cost`. -/
theorem debitWallet_ok {store middle : Store} {tenantId : String} {cost : Int}
    {refusal : BillingError} {updated : Wallet}
    (h : debitWallet store tenantId cost refusal = .ok (updated, middle)) :
    ∃ wallet, store.wallet? tenantId = some wallet ∧ wallet.creditDebt = 0 ∧
      updated = ⟨wallet.usageCredits + -cost, wallet.creditDebt + 0⟩ ∧
      store.updateTenant tenantId updated = .ok middle := by
  unfold debitWallet at h
  split at h
  · cases h
  rename_i wallet hfound
  simp only [bind_eq_ok, ensure_eq_ok, Except.ok.injEq, Prod.mk.injEq] at h
  obtain ⟨_, ⟨hnodebt, _⟩, _, hupdate, rfl, rfl⟩ := h
  exact ⟨wallet, hfound, hnodebt, by simp [sub_eq_add_neg], hupdate⟩

/-- A debit leaves a wallet without debt. -/
theorem debtFirst_of_debit {wallet : Wallet} (row : CreditTransaction)
    (hnodebt : wallet.creditDebt = 0) (hdebt : row.debtAmount = 0) :
    (wallet.add row).DebtFirst := by
  intro hpos
  simp [Wallet.add, hnodebt, hdebt] at hpos

theorem recordCreditDebit_cases {store after : Store} {platformAdmin : Bool}
    {args : CreditDebitArgs} {settlement : CreditDebitSettlement}
    (h : recordCreditDebitInTransaction store platformAdmin args = .ok (settlement, after)) :
    ∃ row : CreditTransaction, row.id = args.transactionId ∧ row.tenantId = args.tenantId ∧
      row.reason = args.reason ∧
      (Replays store (.debit settlement) after row ∨
        ∃ wallet, Applies store (.debit settlement) after row wallet) := by
  unfold recordCreditDebitInTransaction at h
  simp only [bind_eq_ok] at h
  obtain ⟨_, _, _, _, h⟩ := h
  split at h
  · cases h
  rename_i cost _
  simp only [bind_eq_ok] at h
  obtain ⟨_, _, _, _, _, _, _, _, _, _, _, _, h⟩ := h
  split at h
  · rename_i existing hexisting
    obtain ⟨hmem, hid⟩ := findUnique_spec hexisting
    simp only [bind_eq_ok, ensure_eq_ok, Except.ok.injEq, Prod.mk.injEq] at h
    obtain ⟨_, ⟨htenant, hamount, hdebt, hreason⟩, _, _, _, _, balance, hbalance, rfl, rfl⟩ := h
    refine ⟨existing, hid, htenant, hreason, Or.inl ⟨hmem, rfl, ?_⟩⟩
    exact ⟨by simp [hamount], hdebt, (requireStored_ok hbalance).1.symm⟩
  · simp only [bind_eq_ok, Except.ok.injEq, Prod.mk.injEq] at h
    obtain ⟨_, _, ⟨updated, middle⟩, hdebit, _, _, _, _, newBalance, hnewBalance, newDebt,
      hnewDebt, _, _, inserted, hinsert, _, _, rfl, rfl⟩ := h
    obtain ⟨wallet, hfound, hnodebt, rfl, hupdate⟩ := debitWallet_ok hdebit
    obtain ⟨hnewBalance, _⟩ := requireStored_ok hnewBalance
    obtain ⟨hnewDebt, _⟩ := requireStored_ok hnewDebt
    simp only [Option.some.injEq] at hnewBalance hnewDebt
    subst hnewBalance hnewDebt
    refine ⟨_, rfl, rfl, rfl,
      Or.inr ⟨wallet, applies_of_writes hfound hupdate hinsert ?_ ?_ ?_ ?_⟩⟩
    · rfl
    · rfl
    · exact fun _ => debtFirst_of_debit _ hnodebt rfl
    · exact ⟨by simp, rfl, rfl⟩

theorem debitFeatureCredit_cases {store after : Store} {platformAdmin : Bool}
    {args : FeatureDebitArgs} {settlement : CreditDebitSettlement}
    (h : debitFeatureCredit store platformAdmin args = .ok (settlement, after)) :
    ∃ row : CreditTransaction, row.id = args.resolvedTransactionId ∧
      row.tenantId = args.tenantId ∧ row.reason = args.reason ∧
      args.creditCost = .integer (-row.amount) ∧ row.debtAmount = 0 ∧
      (Replays store (.debit settlement) after row ∨
        ∃ wallet, Applies store (.debit settlement) after row wallet) := by
  unfold debitFeatureCredit at h
  obtain ⟨_, _, h⟩ := bind_eq_ok.mp h
  split at h
  · cases h
  rename_i cost hcost
  split at h
  · rename_i existing hexisting
    obtain ⟨hmem, hid⟩ := findUnique_spec hexisting
    split at h
    · cases h
    rename_i balance hbalance
    simp only [bind_eq_ok, ensure_eq_ok, Except.ok.injEq, Prod.mk.injEq] at h
    obtain ⟨_, ⟨htenant, hamount, hdebt, hreason, _, _⟩, _, _, rfl, rfl⟩ := h
    refine ⟨existing, hid, htenant, hreason, by rw [hcost, hamount, neg_neg], hdebt,
      Or.inl ⟨hmem, rfl, ?_⟩⟩
    exact ⟨by simp [hamount], hdebt, hbalance.symm⟩
  · simp only [bind_eq_ok, Except.ok.injEq, Prod.mk.injEq] at h
    obtain ⟨_, _, _, _, ⟨updated, middle⟩, hdebit, _, _, _, _, _, _, inserted, hinsert, _, _,
      rfl, rfl⟩ := h
    obtain ⟨wallet, hfound, hnodebt, rfl, hupdate⟩ := debitWallet_ok hdebit
    refine ⟨_, rfl, rfl, rfl, by rw [hcost, neg_neg], rfl,
      Or.inr ⟨wallet, applies_of_writes hfound hupdate hinsert ?_ ?_ ?_ ?_⟩⟩
    · rfl
    · rfl
    · exact fun _ => debtFirst_of_debit _ hnodebt rfl
    · exact ⟨by simp, rfl, rfl⟩

/-- The row records the reason of a debit; that of a settlement adds to the
balance. -/
def WalletCall.RecordedBy (row : CreditTransaction) : WalletCall → Prop
  | .positiveSettlement _ => 0 ≤ row.amount
  | .creditDebit args => row.reason = args.reason
  | .featureDebit args => row.reason = args.reason
  | .settlePositive _ => 0 ≤ row.amount

/-- An accepted call replays a recorded row or applies a new one, under the
call's own tenant and transaction id. -/
theorem perform_cases {isControl : Char → Bool} {store after : Store} {request : WalletRequest}
    {settlement : Settlement} (h : perform isControl store request = .ok (settlement, after)) :
    ∃ row : CreditTransaction, some row.id = request.call.transactionId ∧
      some row.tenantId = request.call.tenantId ∧ request.call.RecordedBy row ∧
      (Replays store settlement after row ∨
        ∃ wallet, Applies store settlement after row wallet) := by
  unfold perform at h
  split at h
  all_goals
    rename_i args hcall
    simp only [bind_eq_ok, Except.ok.injEq, Prod.mk.injEq] at h
    obtain ⟨⟨answer, next⟩, hrun, rfl, rfl⟩ := h
    rw [hcall]
  · obtain ⟨row, hid, htenant, hamount, hcases⟩ := recordPositive_cases hrun
    refine ⟨row, congrArg some hid, congrArg some htenant, hamount, ?_⟩
    exact hcases.imp (fun hreplay => hreplay.1) fun happlies => happlies.1
  · obtain ⟨row, hid, htenant, hreason, hcases⟩ := recordCreditDebit_cases hrun
    exact ⟨row, congrArg some hid, congrArg some htenant, hreason, hcases⟩
  · obtain ⟨row, hid, htenant, hreason, _, _, hcases⟩ := debitFeatureCredit_cases hrun
    exact ⟨row, congrArg some hid, congrArg some htenant, hreason, hcases⟩
  · obtain ⟨row, hid, htenant, hamount, hcases⟩ := settlePositive_cases hrun
    refine ⟨row, hid, htenant, hamount, ?_⟩
    exact hcases.imp (fun hreplay => hreplay.1) fun happlies => happlies.1

/-- What a committed call leaves behind: the same store, or one row more. -/
theorem commit_cases (isControl : Char → Bool) (store : Store) (request : WalletRequest) :
    (commit isControl store request).2 = store ∨
      ∃ settlement row wallet, some row.id = request.call.transactionId ∧
        request.call.RecordedBy row ∧
        Applies store settlement (commit isControl store request).2 row wallet := by
  unfold commit
  split
  · rename_i settlement after hperform
    obtain ⟨row, hid, _, hrecorded, hreplay | ⟨wallet, happlies⟩⟩ := perform_cases hperform
    · exact Or.inl hreplay.unchanged
    · exact Or.inr ⟨settlement, row, wallet, hid, hrecorded, happlies⟩
  · exact Or.inl rfl

/-! ## Running totals -/

/-- The rows of one tenant. -/
def rowsOf (tenantId : String) (entries : List CreditTransaction) : List CreditTransaction :=
  entries.filter fun row => row.tenantId = tenantId

/-- The sum of a column over the rows of one tenant. -/
def totalOf (column : CreditTransaction → Int) (tenantId : String)
    (entries : List CreditTransaction) : Int :=
  ((rowsOf tenantId entries).map column).sum

/-- A wallet moved by all rows of its tenant. -/
def Wallet.after (wallet : Wallet) (tenantId : String) (entries : List CreditTransaction) :
    Wallet :=
  ⟨wallet.usageCredits + totalOf CreditTransaction.amount tenantId entries,
    wallet.creditDebt + totalOf CreditTransaction.debtAmount tenantId entries⟩

theorem totalOf_concat (column : CreditTransaction → Int) (tenantId : String)
    (entries : List CreditTransaction) (row : CreditTransaction) :
    totalOf column tenantId (entries ++ [row]) =
      totalOf column tenantId entries + if row.tenantId = tenantId then column row else 0 := by
  unfold totalOf rowsOf
  by_cases howner : row.tenantId = tenantId
  · simp [List.filter_append, howner]
  · simp [List.filter_append, howner]

theorem Wallet.after_concat_self (wallet : Wallet) (entries : List CreditTransaction)
    (row : CreditTransaction) :
    wallet.after row.tenantId (entries ++ [row]) = (wallet.after row.tenantId entries).add row := by
  simp only [Wallet.after, Wallet.add, totalOf_concat, if_true, add_assoc]

theorem Wallet.after_concat_other (wallet : Wallet) {tenantId : String}
    (entries : List CreditTransaction) {row : CreditTransaction} (hne : row.tenantId ≠ tenantId) :
    wallet.after tenantId (entries ++ [row]) = wallet.after tenantId entries := by
  simp only [Wallet.after, totalOf_concat, if_neg hne, add_zero]

/-- The store `now` is `start` after committing `entries`. -/
structure Tracks (start now : Store) (entries : List CreditTransaction) : Prop where
  ledger : now.ledger = start.ledger ++ entries
  unique : (now.ledger.map CreditTransaction.id).Nodup
  wallets : ∀ tenantId wallet, start.wallet? tenantId = some wallet →
    now.wallet? tenantId = some (wallet.after tenantId entries)
  inRange : ∀ tenantId wallet, start.wallet? tenantId = some wallet →
    (wallet.after tenantId entries).InRange
  debtFirst : ∀ tenantId wallet, start.wallet? tenantId = some wallet →
    wallet.DebtFirst → (wallet.after tenantId entries).DebtFirst
  snapshots : ∀ tenantId wallet, start.wallet? tenantId = some wallet →
    ∀ earlier row later, entries = earlier ++ row :: later → row.tenantId = tenantId →
      row.balanceAfter = some (wallet.after tenantId (earlier ++ [row])).usageCredits ∧
        row.debtAfter = some (wallet.after tenantId (earlier ++ [row])).creditDebt

/-- A store whose rows satisfy the primary key and the column checks. -/
structure WellFormedStore extends Store where
  unique : (ledger.map CreditTransaction.id).Nodup
  inRange : ∀ tenantId wallet, toStore.wallet? tenantId = some wallet → wallet.InRange

theorem Tracks.refl (start : WellFormedStore) : Tracks start.toStore start.toStore [] where
  ledger := (List.append_nil _).symm
  unique := start.unique
  wallets tenantId wallet hwallet := by simp [Wallet.after, totalOf, rowsOf, hwallet]
  inRange tenantId wallet hwallet := by
    simpa [Wallet.after, totalOf, rowsOf] using start.inRange tenantId wallet hwallet
  debtFirst tenantId wallet _ hfirst := by simpa [Wallet.after, totalOf, rowsOf] using hfirst
  snapshots tenantId wallet _ earlier row later hsplit := by simp at hsplit

/-- One committed row extends the tracked entries by that row. -/
theorem Tracks.applies {start now after : Store} {entries : List CreditTransaction}
    {settlement : Settlement} {row : CreditTransaction} {wallet : Wallet}
    (htracks : Tracks start now entries) (happlies : Applies now settlement after row wallet) :
    Tracks start after (entries ++ [row]) := by
  -- the wallet the call read is the running total of the entries so far
  have hread : ∀ initial, start.wallet? row.tenantId = some initial →
      initial.after row.tenantId entries = wallet := by
    intro initial hinitial
    have := htracks.wallets _ _ hinitial
    rw [happlies.found, Option.some.injEq] at this
    exact this.symm
  have hmoved : ∀ initial, start.wallet? row.tenantId = some initial →
      initial.after row.tenantId (entries ++ [row]) = wallet.add row := by
    intro initial hinitial
    rw [Wallet.after_concat_self, hread initial hinitial]
  refine ⟨?_, ?_, ?_, ?_, ?_, ?_⟩
  · rw [happlies.ledger, htracks.ledger, List.append_assoc]
  · rw [happlies.ledger, List.map_append, List.nodup_append]
    refine ⟨htracks.unique, by simp, ?_⟩
    rintro id hid other hother rfl
    obtain ⟨earlier, hearlier, rfl⟩ := List.mem_map.mp hid
    simp only [List.map_cons, List.map_nil, List.mem_singleton] at hother
    exact happlies.fresh earlier hearlier hother
  · intro tenantId initial hinitial
    rw [Store.wallet?, happlies.tenants, Dict.get?_set]
    split
    · rename_i heq
      subst heq
      rw [hmoved initial hinitial]
    · rename_i hne
      rw [Wallet.after_concat_other _ _ hne]
      exact htracks.wallets tenantId initial hinitial
  · intro tenantId initial hinitial
    by_cases howner : row.tenantId = tenantId
    · subst howner
      rw [hmoved initial hinitial]
      exact happlies.inRange
    · rw [Wallet.after_concat_other _ _ howner]
      exact htracks.inRange tenantId initial hinitial
  · intro tenantId initial hinitial hfirst
    by_cases howner : row.tenantId = tenantId
    · subst howner
      rw [hmoved initial hinitial]
      refine happlies.debtFirst ?_
      rw [← hread initial hinitial]
      exact htracks.debtFirst _ initial hinitial hfirst
    · rw [Wallet.after_concat_other _ _ howner]
      exact htracks.debtFirst tenantId initial hinitial hfirst
  · intro tenantId initial hinitial earlier entry later hsplit howner
    rcases List.eq_nil_or_concat later with rfl | ⟨rest, last, rfl⟩
    · -- the entry is the new row
      obtain ⟨rfl, heq⟩ := List.append_inj' hsplit rfl
      simp only [List.cons.injEq, and_true] at heq
      subst heq howner
      rw [hmoved initial hinitial]
      exact ⟨happlies.balanceAfter, happlies.debtAfter⟩
    · have hsplit' : entries ++ [row] = (earlier ++ entry :: rest) ++ [last] := by
        rw [hsplit]
        simp
      obtain ⟨hentries, _⟩ := List.append_inj' hsplit' rfl
      exact htracks.snapshots tenantId initial hinitial earlier entry rest hentries howner

/-- Along any run of calls the store is the initial one plus the entries
committed so far. -/
theorem exists_tracks_final (isControl : Char → Bool) (start : WellFormedStore)
    (requests : List WalletRequest) :
    ∃ entries, Tracks start.toStore (final (commit isControl) start.toStore requests) entries := by
  refine invariant_final (fun now => ∃ entries, Tracks start.toStore now entries) ?_
    ⟨[], Tracks.refl start⟩ requests
  rintro now request ⟨entries, htracks⟩
  rcases commit_cases isControl now request with hsame | ⟨settlement, row, wallet, _, _, happlies⟩
  · exact ⟨entries, by rw [hsame]; exact htracks⟩
  · exact ⟨entries ++ [row], htracks.applies happlies⟩

/-! ## The invariant -/

/-- The ledger only grows. -/
theorem ledger_prefix_commit (isControl : Char → Bool) (store : Store) (request : WalletRequest) :
    store.ledger <+: (commit isControl store request).2.ledger := by
  rcases commit_cases isControl store request with hsame | ⟨_, row, _, _, _, happlies⟩
  · rw [hsame]
  · rw [happlies.ledger]
    exact List.prefix_append _ _

theorem ledger_prefix_of_mem_trace {isControl : Char → Bool} {start : Store}
    {requests : List WalletRequest}
    {t : Transition Store WalletRequest (Except BillingError Settlement)}
    (ht : t ∈ trace (commit isControl) start requests) :
    t.after.ledger <+: (final (commit isControl) start requests).ledger :=
  related_of_mem_trace (fun first second : Store => first.ledger <+: second.ledger)
    (fun _ => List.prefix_rfl) (fun hfirst hsecond => hfirst.trans hsecond)
    (ledger_prefix_commit isControl) ht

/-- What the answer of one call says: a rejected call changes nothing; an
accepted one reports a row that is in the ledger from then on, and changes
nothing if a row of that id was there before. -/
def Answered (now : Store) (t : Transition Store WalletRequest (Except BillingError Settlement)) :
    Prop :=
  match t.answer with
  | .error _ => t.after = t.before
  | .ok settlement =>
      ∃ row ∈ now.ledger, some row.id = t.request.call.transactionId ∧ settlement.Reports row ∧
        ((∃ earlier ∈ t.before.ledger, some earlier.id = t.request.call.transactionId) →
          row ∈ t.before.ledger ∧ t.after = t.before)

theorem answered_of_mem_trace {isControl : Char → Bool} {start : Store}
    {requests : List WalletRequest}
    {t : Transition Store WalletRequest (Except BillingError Settlement)}
    (ht : t ∈ trace (commit isControl) start requests) :
    Answered (final (commit isControl) start requests) t := by
  have hstep := eq_transition_of_mem_trace ht
  have hprefix := ledger_prefix_of_mem_trace ht
  unfold Answered
  have hanswer : t.answer = (commit isControl t.before t.request).1 := by rw [hstep]; rfl
  have hafter : t.after = (commit isControl t.before t.request).2 := by rw [hstep]; rfl
  unfold commit at hanswer hafter
  cases hperform : perform isControl t.before t.request with
  | error error =>
      rw [hperform] at hanswer hafter
      rw [hanswer]
      exact hafter
  | ok result =>
      obtain ⟨settlement, after⟩ := result
      rw [hperform] at hanswer hafter
      simp only at hanswer hafter
      rw [hanswer]
      obtain ⟨row, hid, _, _, hreplay | ⟨wallet, happlies⟩⟩ := perform_cases hperform
      · refine ⟨row, hprefix.subset ?_, hid, hreplay.reports, fun _ => ⟨hreplay.recorded, ?_⟩⟩
        · rw [hafter, hreplay.unchanged]
          exact hreplay.recorded
        · rw [hafter, hreplay.unchanged]
      · refine ⟨row, hprefix.subset ?_, hid, happlies.reports, ?_⟩
        · rw [hafter, happlies.ledger]
          simp
        · -- a fresh id was not in the ledger
          rintro ⟨earlier, hearlier, hearlierId⟩
          rw [← hid, Option.some.injEq] at hearlierId
          exact absurd hearlierId (happlies.fresh earlier hearlier)

end LunchLineup.Billing
