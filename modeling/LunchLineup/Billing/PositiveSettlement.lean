import LunchLineup.Billing.LedgerInvariant

/-!
# One positive settlement in two languages

`recordPositiveCreditSettlementInTransaction` of the API and the SQL function
`settle_positive_credit_value` settle the same refunds from different services.  The first
computes in JavaScript numbers and checks the capacity of the wallet before it writes, the
second computes in `INTEGER` and relies on the overflow of the column; their replays compare
the recorded row in different orders.

`positiveSettlement` is the settlement that both should be.  Each is brought to the same
three cases: the id is recorded, the wallet is full, or a row is appended.
-/

namespace LunchLineup.Billing

open LunchLineup.Lib

/-! ## The settlement itself -/

/-- The wallet after a settlement: debt is repaid first. -/
def Wallet.settle (wallet : Wallet) (value : Int) : Wallet :=
  ⟨wallet.usageCredits + (value - min wallet.creditDebt value),
    wallet.creditDebt - min wallet.creditDebt value⟩

/-- The row of a settlement. -/
def settlementRow (wallet : Wallet) (tenantId : String) (value : Int)
    (reason transactionId : String) : CreditTransaction where
  id := transactionId
  tenantId := tenantId
  amount := value - min wallet.creditDebt value
  debtAmount := -min wallet.creditDebt value
  reason := reason
  balanceAfter := some (wallet.settle value).usageCredits
  debtAfter := some (wallet.settle value).creditDebt

/-- What a recorded row says of its settlement, unless its results are damaged. -/
def CreditTransaction.settlement? (row : CreditTransaction) (replayed : Bool) :
    Option PositiveCreditSettlement :=
  match row.balanceAfter, row.debtAfter with
  | some newBalance, some debtAfter =>
      if 0 ≤ newBalance ∧ 0 ≤ debtAfter then
        some ⟨row.id, row.amount - row.debtAmount, row.amount, -row.debtAmount, newBalance,
          debtAfter, replayed⟩
      else none
  | _, _ => none

/-- A recorded row has the details of a settlement. -/
def CreditTransaction.Settles (row : CreditTransaction) (tenantId : String) (value : Int)
    (reason : String) : Prop :=
  row.tenantId = tenantId ∧ 0 ≤ row.amount ∧ row.debtAmount ≤ 0 ∧
    row.amount - row.debtAmount = value ∧ row.reason = reason

instance (row : CreditTransaction) (tenantId : String) (value : Int) (reason : String) :
    Decidable (row.Settles tenantId value reason) := inferInstanceAs (Decidable (_ ∧ _))

/-- The id is recorded with other details, or for another tenant whose rows are hidden. -/
def IdReused (store : Store) (platformAdmin : Bool) (tenantId : String) (value : Int)
    (reason transactionId : String) : Prop :=
  match store.findUnique platformAdmin tenantId transactionId with
  | some row => ¬ row.Settles tenantId value reason
  | none => ∃ row ∈ store.ledger, row.id = transactionId

/-- The id is recorded without a result that can be returned. -/
def RowDamaged (store : Store) (platformAdmin : Bool) (tenantId transactionId : String) : Prop :=
  ∃ row ∈ store.findUnique platformAdmin tenantId transactionId, row.settlement? true = none

/-- The id is new, and the spendable part exceeds the capacity of the wallet. -/
def CapacityExceeded (store : Store) (platformAdmin : Bool) (tenantId : String) (value : Int)
    (transactionId : String) : Prop :=
  store.findUnique platformAdmin tenantId transactionId = none ∧
    ∃ wallet ∈ store.wallet? tenantId, maxStoredCreditBalance < (wallet.settle value).usageCredits

/-- The settlement: a recorded one is returned, a new one moves the wallet and appends its row. -/
def positiveSettlement (store : Store) (platformAdmin : Bool) (tenantId : String) (value : Int)
    (reason transactionId : String) : Option (PositiveCreditSettlement × Store) :=
  match store.findUnique platformAdmin tenantId transactionId with
  | some row =>
      if row.Settles tenantId value reason then
        (row.settlement? true).map fun settlement => (settlement, store)
      else none
  | none =>
      match store.wallet? tenantId with
      | none => none
      | some wallet =>
          if (wallet.settle value).usageCredits ≤ maxStoredCreditBalance ∧
              ∀ row ∈ store.ledger, row.id ≠ transactionId then
            let row := settlementRow wallet tenantId value reason transactionId
            (row.settlement? false).map fun settlement =>
              (settlement, ⟨Dict.set store.tenants tenantId (wallet.settle value),
                store.ledger ++ [row]⟩)
          else none

/-! ## The arguments -/

/-- The checks of `recordPositiveCreditSettlementInTransaction`. -/
structure ApiAccepts (tenantId : String) (value : Int) (reason transactionId : String) : Prop where
  tenantId : ¬ isJsBlank tenantId
  amount : (JsNumber.integer value).safeInteger? = some value ∧ 0 < value
  reason : ¬ isJsBlank reason ∧ jsLength reason ≤ 500
  transactionId : ¬ isJsBlank transactionId ∧ jsLength transactionId ≤ 255 ∧
    ¬ hasJsControl transactionId

/-- The checks of `settle_positive_credit_value`. -/
structure SqlAccepts (isControl : Char → Bool) (tenantId : String) (value : Int)
    (reason transactionId : String) : Prop where
  tenantId : ¬ isSqlBlank tenantId
  value : IsInteger value ∧ 0 < value
  reason : ¬ isSqlBlank reason ∧ reason.length ≤ 500
  transactionId : ¬ isSqlBlank transactionId ∧ transactionId.length ≤ 255 ∧
    ¬ transactionId.toList.any isControl

variable {store : Store} {platformAdmin : Bool} {tenantId reason transactionId : String}
  {value : Int} {wallet : Wallet}

/-! ## The two writes -/

theorem Wallet.settle_creditDebt (hrange : wallet.InRange) (hvalue : 0 < value) :
    0 ≤ (wallet.settle value).creditDebt ∧
      (wallet.settle value).creditDebt ≤ maxStoredCreditBalance := by
  obtain ⟨_, hdebt, hbound⟩ := hrange
  simp only [Wallet.settle]
  omega

theorem Wallet.settle_usageCredits (hrange : wallet.InRange) :
    0 ≤ (wallet.settle value).usageCredits := by
  obtain ⟨⟨hcredits, _⟩, _, _⟩ := hrange
  simp only [Wallet.settle]
  omega

theorem updateTenant_settle (hrange : wallet.InRange) (hvalue : 0 < value) :
    store.updateTenant tenantId (wallet.settle value) =
      if (wallet.settle value).usageCredits ≤ maxStoredCreditBalance then
        .ok { store with tenants := Dict.set store.tenants tenantId (wallet.settle value) }
      else .error (.sql "22003" "integer out of range") := by
  have hcredits : 0 ≤ (wallet.settle value).usageCredits := Wallet.settle_usageCredits hrange
  obtain ⟨hdebt, hdebtBound⟩ := Wallet.settle_creditDebt hrange hvalue
  unfold Store.updateTenant
  split
  · rename_i hfits
    have hintegers : IsInteger (wallet.settle value).usageCredits ∧
        IsInteger (wallet.settle value).creditDebt :=
      ⟨⟨by omega, hfits⟩, by omega, hdebtBound⟩
    rw [ensure_of_true _ hintegers, ensure_of_true _ hcredits, ensure_of_true _ hdebt]
    rfl
  · rename_i hfull
    have hno : ¬ (IsInteger (wallet.settle value).usageCredits ∧
        IsInteger (wallet.settle value).creditDebt) := fun h => hfull h.1.2
    rw [ensure_of_false _ hno]
    rfl

/-- The trigger lets the row pass: a settlement that repays nothing leaves no debt. -/
theorem insertCreditTransaction_settle (hrange : wallet.InRange)
    (hvalue : IsInteger value ∧ 0 < value)
    (hfits : (wallet.settle value).usageCredits ≤ maxStoredCreditBalance) :
    ({ store with tenants := Dict.set store.tenants tenantId (wallet.settle value) } :
        Store).insertCreditTransaction (settlementRow wallet tenantId value reason transactionId) =
      if ∀ row ∈ store.ledger, row.id ≠ transactionId then
        .ok ⟨Dict.set store.tenants tenantId (wallet.settle value),
          store.ledger ++ [settlementRow wallet tenantId value reason transactionId]⟩
      else .error (.sql "23505" "CreditTransaction_pkey") := by
  have hcredits : 0 ≤ (wallet.settle value).usageCredits := Wallet.settle_usageCredits hrange
  obtain ⟨hdebt, hdebtBound⟩ := Wallet.settle_creditDebt hrange hvalue.2
  obtain ⟨⟨hbalance, _⟩, hold, holdBound⟩ := hrange
  obtain ⟨⟨_, hvalueBound⟩, hpositive⟩ := hvalue
  have hwallet : ({ store with tenants := Dict.set store.tenants tenantId (wallet.settle value) } :
      Store).wallet? (settlementRow wallet tenantId value reason transactionId).tenantId =
      some (wallet.settle value) := Dict.get?_set_self _ _ _
  have htrigger : ¬ ((settlementRow wallet tenantId value reason transactionId).debtAmount = 0 ∧
      0 < (wallet.settle value).creditDebt) := by
    simp only [settlementRow, Wallet.settle]
    omega
  have hamounts : IsInteger (settlementRow wallet tenantId value reason transactionId).amount ∧
      IsInteger (settlementRow wallet tenantId value reason transactionId).debtAmount := by
    simp only [settlementRow, IsInteger, maxStoredCreditBalance] at holdBound hvalueBound ⊢
    omega
  have hbalanceAfter : ∀ balance ∈ (settlementRow wallet tenantId value reason
      transactionId).balanceAfter, IsInteger balance ∧ 0 ≤ balance := by
    rintro balance ⟨⟩
    exact ⟨⟨by omega, hfits⟩, hcredits⟩
  have hdebtAfter : ∀ debt ∈ some ((settlementRow wallet tenantId value reason
      transactionId).debtAfter.getD (wallet.settle value).creditDebt),
      IsInteger debt ∧ 0 ≤ debt := by
    rintro debt ⟨⟩
    exact ⟨⟨le_trans (by decide) hdebt, hdebtBound⟩, hdebt⟩
  unfold Store.insertCreditTransaction
  rw [hwallet]
  simp only [ensure_of_true _ htrigger, ensure_of_true _ hamounts, ensure_of_true _ hbalanceAfter,
    ensure_of_true _ hdebtAfter, ok_bind]
  split
  · rename_i hfresh
    replace hfresh : ∀ other ∈ store.ledger,
      other.id ≠ (settlementRow wallet tenantId value reason transactionId).id := hfresh
    rw [ensure_of_true _ hfresh]
    rfl
  · rename_i htaken
    replace htaken : ¬ ∀ other ∈ store.ledger,
      other.id ≠ (settlementRow wallet tenantId value reason transactionId).id := htaken
    rw [ensure_of_false _ htaken]
    rfl

/-! ## A recorded settlement -/

theorem requireStored_eq {result : Int} (message : String) (hresult : IsInteger result) :
    requireStored (some result) message = if 0 ≤ result then .ok result
      else .error (.conflict message) := by
  obtain ⟨_, hbound⟩ := hresult
  show (ensure (0 ≤ result ∧ result ≤ maxSafeInteger) (BillingError.conflict message) >>=
    fun _ => .ok result) = _
  by_cases hnonneg : 0 ≤ result
  · have hsafe : 0 ≤ result ∧ result ≤ maxSafeInteger := by
      simp only [maxStoredCreditBalance, maxSafeInteger] at hbound ⊢
      omega
    rw [if_pos hnonneg, ensure_of_true _ hsafe]
    rfl
  · have hno : ¬ (0 ≤ result ∧ result ≤ maxSafeInteger) := fun h => hnonneg h.1
    rw [if_neg hnonneg, ensure_of_false _ hno]
    rfl

/-- The columns of a row hold what their types allow. -/
structure CreditTransaction.Typed (row : CreditTransaction) : Prop where
  balanceAfter : ∀ balance ∈ row.balanceAfter, IsInteger balance
  debtAfter : ∀ debt ∈ row.debtAfter, IsInteger debt

/-- The replay of the API returns the recorded settlement or nothing. -/
theorem replayPositiveCreditSettlement_toOption {row : CreditTransaction} (htyped : row.Typed)
    (hid : row.id = transactionId) :
    (replayPositiveCreditSettlement row tenantId value reason transactionId).toOption =
      if row.Settles tenantId value reason then row.settlement? true else none := by
  unfold replayPositiveCreditSettlement
  split
  · rename_i hsettles
    have hdetails : row.tenantId = tenantId ∧ 0 ≤ row.amount ∧ row.debtAmount ≤ 0 ∧
      row.amount - row.debtAmount = value ∧ row.reason = reason := hsettles
    obtain ⟨_, _, hdebt, hvalue, _⟩ := id hdetails
    rw [ensure_of_true _ hdetails, ok_bind]
    unfold CreditTransaction.settlement?
    cases hbalanceAfter : row.balanceAfter with
    | none => rfl
    | some balance =>
        rw [requireStored_eq _ (htyped.balanceAfter balance hbalanceAfter)]
        cases hdebtAfter : row.debtAfter with
        | none =>
            split
            · rfl
            · rfl
        | some debtAfter =>
            rw [requireStored_eq _ (htyped.debtAfter debtAfter hdebtAfter)]
            by_cases hbalance : 0 ≤ balance
            · by_cases hafter : 0 ≤ debtAfter
              · simp only [if_pos hbalance, if_pos hafter, if_pos (And.intro hbalance hafter),
                  ok_bind, abs_of_nonpos hdebt, hid, hvalue]
                rfl
              · simp only [if_pos hbalance, if_neg hafter, ok_bind, error_bind]
                exact (if_neg fun h => hafter h.2).symm
            · simp only [if_neg hbalance, error_bind]
              exact (if_neg fun h => hbalance h.1).symm
  · rename_i hother
    have hdetails : ¬ (row.tenantId = tenantId ∧ 0 ≤ row.amount ∧ row.debtAmount ≤ 0 ∧
      row.amount - row.debtAmount = value ∧ row.reason = reason) := hother
    rw [ensure_of_false _ hdetails]
    rfl

/-! ## The two functions -/

/-- `CREDIT_WALLET_CAPACITY_EXCEEDED`. -/
def walletCapacityExceeded : BillingError :=
  .badRequestCode "CREDIT_WALLET_CAPACITY_EXCEEDED"
    "Credit amount exceeds the available wallet capacity. Refresh balances and enter a smaller amount."

/-- The settlement of a new id, with the errors of one of the two functions. -/
def settleNew (full : BillingError) (store : Store) (wallet : Wallet) (tenantId : String)
    (value : Int) (reason transactionId : String) :
    Except BillingError (PositiveCreditSettlement × Store) :=
  if (wallet.settle value).usageCredits ≤ maxStoredCreditBalance then
    if ∀ row ∈ store.ledger, row.id ≠ transactionId then
      .ok (⟨transactionId, value, value - min wallet.creditDebt value, min wallet.creditDebt value,
          (wallet.settle value).usageCredits, (wallet.settle value).creditDebt, false⟩,
        ⟨Dict.set store.tenants tenantId (wallet.settle value),
          store.ledger ++ [settlementRow wallet tenantId value reason transactionId]⟩)
    else .error (.sql "23505" "CreditTransaction_pkey")
  else .error full

theorem requireStored_of_range {result : Int} (message : String) (hnonneg : 0 ≤ result)
    (hbound : result ≤ maxStoredCreditBalance) : requireStored (some result) message = .ok result := by
  rw [requireStored_eq message ⟨le_trans (by decide) hnonneg, hbound⟩, if_pos hnonneg]

theorem recordPositive_new (haccepts : ApiAccepts tenantId value reason transactionId)
    (hvalue : IsInteger value)
    (hnew : store.findUnique platformAdmin tenantId transactionId = none)
    (hfound : store.wallet? tenantId = some wallet) (hrange : wallet.InRange) :
    recordPositiveCreditSettlementInTransaction store platformAdmin
      ⟨tenantId, .integer value, reason, transactionId⟩ =
      settleNew walletCapacityExceeded store wallet tenantId value reason transactionId := by
  have hpositive := haccepts.amount.2
  have hcredits : 0 ≤ (wallet.settle value).usageCredits := Wallet.settle_usageCredits hrange
  obtain ⟨hdebt, hdebtBound⟩ := Wallet.settle_creditDebt hrange hpositive
  obtain ⟨⟨hbalance, hbalanceBound⟩, hold, holdBound⟩ := id hrange
  unfold recordPositiveCreditSettlementInTransaction settleNew
  simp only [ensure_of_true _ haccepts.tenantId, haccepts.amount.1, ensure_of_true _ hpositive,
    ensure_of_true _ haccepts.reason, ensure_of_true _ haccepts.transactionId, ok_bind, hnew,
    hfound, requireStored_of_range _ hbalance hbalanceBound, requireStored_of_range _ hold holdBound,
    ensure_of_true _ (And.intro hbalanceBound holdBound)]
  split
  · rename_i hfits
    have hroom : value - min wallet.creditDebt value ≤ maxStoredCreditBalance - wallet.usageCredits := by
      simp only [Wallet.settle] at hfits
      omega
    have hupdate : store.updateTenant tenantId (wallet.settle value) = _ :=
      updateTenant_settle hrange hpositive
    rw [if_pos hfits] at hupdate
    rw [ensure_of_true _ hroom, ok_bind]
    show (store.updateTenant tenantId (wallet.settle value) >>= _) = _
    rw [hupdate, ok_bind]
    show (requireStored (some (wallet.settle value).usageCredits) _ >>= _) = _
    rw [requireStored_of_range _ hcredits hfits, ok_bind]
    show (requireStored (some (wallet.settle value).creditDebt) _ >>= _) = _
    rw [requireStored_of_range _ hdebt hdebtBound, ok_bind, ensure_of_true _ ⟨rfl, rfl⟩, ok_bind]
    show (Store.insertCreditTransaction _
      (settlementRow wallet tenantId value reason transactionId) >>= _) = _
    rw [insertCreditTransaction_settle hrange ⟨hvalue, hpositive⟩ hfits]
    split
    · rfl
    · rfl
  · rename_i hfull
    have hroom : ¬ (value - min wallet.creditDebt value ≤
        maxStoredCreditBalance - wallet.usageCredits) := by
      simp only [Wallet.settle] at hfull
      omega
    rw [ensure_of_false _ hroom]
    rfl

theorem settlePositive_new {isControl : Char → Bool}
    (haccepts : SqlAccepts isControl tenantId value reason transactionId)
    (hnew : store.findUnique platformAdmin tenantId transactionId = none)
    (hfound : store.wallet? tenantId = some wallet) (hrange : wallet.InRange) :
    settlePositiveCreditValue isControl store platformAdmin
      ⟨some tenantId, some value, some reason, some transactionId⟩ =
      settleNew (.sql "22003" "integer out of range") store wallet tenantId value reason
        transactionId := by
  have hpositive := haccepts.value.2
  obtain ⟨⟨hbalance, _⟩, hold, _⟩ := id hrange
  unfold settlePositiveCreditValue settleNew
  simp only [ensure_of_true _ haccepts.value.1, ensure_of_true _ haccepts.tenantId,
    ensure_of_true _ hpositive, ensure_of_true _ haccepts.reason,
    ensure_of_true _ haccepts.transactionId, ok_bind, hnew, hfound,
    ensure_of_true _ (And.intro hbalance hold)]
  show (store.updateTenant tenantId (wallet.settle value) >>= _) = _
  rw [updateTenant_settle hrange hpositive]
  split
  · rename_i hfits
    show (Store.insertCreditTransaction _
      (settlementRow wallet tenantId value reason transactionId) >>= _) = _
    rw [insertCreditTransaction_settle hrange haccepts.value hfits]
    split
    · rfl
    · rfl
  · rfl

/-- So does the replay of the SQL function. -/
theorem settlePositive_recorded {isControl : Char → Bool} {row : CreditTransaction}
    (haccepts : SqlAccepts isControl tenantId value reason transactionId)
    (hrow : store.findUnique platformAdmin tenantId transactionId = some row)
    (hfound : store.wallet? tenantId = some wallet) (hrange : wallet.InRange) :
    (settlePositiveCreditValue isControl store platformAdmin
      ⟨some tenantId, some value, some reason, some transactionId⟩).toOption =
      if row.Settles tenantId value reason then
        (row.settlement? true).map fun settlement => (settlement, store)
      else none := by
  have hid := (findUnique_spec hrow).2
  have hpositive := haccepts.value.2
  obtain ⟨⟨hbalance, _⟩, hold, _⟩ := id hrange
  unfold settlePositiveCreditValue CreditTransaction.settlement?
  simp only [ensure_of_true _ haccepts.value.1, ensure_of_true _ haccepts.tenantId,
    ensure_of_true _ hpositive, ensure_of_true _ haccepts.reason,
    ensure_of_true _ haccepts.transactionId, ok_bind, hrow, hfound,
    ensure_of_true _ (And.intro hbalance hold)]
  by_cases hsettles : row.Settles tenantId value reason
  · rw [if_pos hsettles]
    obtain ⟨htenant, hamount, hdebt, hvalue, hreason⟩ := id hsettles
    cases row.balanceAfter with
    | none => rfl
    | some newBalance =>
        cases row.debtAfter with
        | none => rfl
        | some debtAfter =>
            show (ensure _ _ >>= _).toOption =
              Option.map _ (if 0 ≤ newBalance ∧ 0 ≤ debtAfter then _ else _)
            by_cases hresults : 0 ≤ newBalance ∧ 0 ≤ debtAfter
            · rw [ensure_of_true _ ⟨htenant, hreason, hamount, hdebt, hresults.1, hresults.2, hvalue⟩,
                if_pos hresults, hid, hvalue]
              rfl
            · rw [ensure_of_false _ (fun h => hresults ⟨h.2.2.2.2.1, h.2.2.2.2.2.1⟩),
                if_neg hresults]
              rfl
  · rw [if_neg hsettles]
    cases row.balanceAfter with
    | none => rfl
    | some newBalance =>
        cases row.debtAfter with
        | none => rfl
        | some debtAfter =>
            show (ensure _ _ >>= _).toOption = _
            rw [ensure_of_false _ (fun h =>
              hsettles ⟨h.1, h.2.2.1, h.2.2.2.1, h.2.2.2.2.2.2, h.2.1⟩)]
            rfl

theorem recordPositive_recorded {row : CreditTransaction} (htyped : row.Typed)
    (haccepts : ApiAccepts tenantId value reason transactionId)
    (hrow : store.findUnique platformAdmin tenantId transactionId = some row) :
    (recordPositiveCreditSettlementInTransaction store platformAdmin
      ⟨tenantId, .integer value, reason, transactionId⟩).toOption =
      if row.Settles tenantId value reason then
        (row.settlement? true).map fun settlement => (settlement, store)
      else none := by
  have hreplay : (replayPositiveCreditSettlement row tenantId value reason transactionId).toOption =
      if row.Settles tenantId value reason then row.settlement? true else none :=
    replayPositiveCreditSettlement_toOption htyped (findUnique_spec hrow).2
  unfold recordPositiveCreditSettlementInTransaction
  simp only [ensure_of_true _ haccepts.tenantId, haccepts.amount.1,
    ensure_of_true _ haccepts.amount.2, ensure_of_true _ haccepts.reason,
    ensure_of_true _ haccepts.transactionId, ok_bind, hrow]
  cases hanswer : replayPositiveCreditSettlement row tenantId value reason transactionId with
  | error refusal =>
      rw [hanswer] at hreplay
      split
      · rename_i hsettles
        rw [if_pos hsettles] at hreplay
        rw [← hreplay]
        rfl
      · rfl
  | ok settlement =>
      rw [hanswer] at hreplay
      split
      · rename_i hsettles
        rw [if_pos hsettles] at hreplay
        rw [← hreplay]
        rfl
      · rename_i hother
        rw [if_neg hother] at hreplay
        cases hreplay

/-! ## Both are the settlement -/

theorem settleNew_toOption (full : BillingError)
    (hnew : store.findUnique platformAdmin tenantId transactionId = none)
    (hfound : store.wallet? tenantId = some wallet) (hrange : wallet.InRange) (hvalue : 0 < value) :
    (settleNew full store wallet tenantId value reason transactionId).toOption =
      positiveSettlement store platformAdmin tenantId value reason transactionId := by
  have hcredits : 0 ≤ (wallet.settle value).usageCredits := Wallet.settle_usageCredits hrange
  obtain ⟨hdebt, _⟩ := Wallet.settle_creditDebt hrange hvalue
  have hrow : (settlementRow wallet tenantId value reason transactionId).settlement? false =
      some ⟨transactionId, value, value - min wallet.creditDebt value, min wallet.creditDebt value,
        (wallet.settle value).usageCredits, (wallet.settle value).creditDebt, false⟩ := by
    have hsum : value - min wallet.creditDebt value - -min wallet.creditDebt value = value := by ring
    show (if _ then some _ else none) = _
    rw [if_pos ⟨hcredits, hdebt⟩]
    simp only [settlementRow, hsum, neg_neg]
  unfold settleNew positiveSettlement
  rw [hnew]
  simp only [hfound]
  by_cases hfits : (wallet.settle value).usageCredits ≤ maxStoredCreditBalance
  · by_cases hfresh : ∀ row ∈ store.ledger, row.id ≠ transactionId
    · rw [if_pos hfits, if_pos hfresh, if_pos ⟨hfits, hfresh⟩, hrow]
      rfl
    · rw [if_pos hfits, if_neg hfresh, if_neg fun h => hfresh h.2]
      rfl
  · rw [if_neg hfits, if_neg fun h => hfits h.1]
    rfl

/-- The settlement is refused in three cases. -/
theorem positiveSettlement_eq_none (hfound : store.wallet? tenantId = some wallet)
    (hrange : wallet.InRange) (hvalue : 0 < value) :
    positiveSettlement store platformAdmin tenantId value reason transactionId = none ↔
      CapacityExceeded store platformAdmin tenantId value transactionId ∨
        IdReused store platformAdmin tenantId value reason transactionId ∨
        RowDamaged store platformAdmin tenantId transactionId := by
  unfold CapacityExceeded IdReused RowDamaged
  cases hrow : store.findUnique platformAdmin tenantId transactionId with
  | some row =>
      have hsettled : positiveSettlement store platformAdmin tenantId value reason transactionId =
          if row.Settles tenantId value reason then
            (row.settlement? true).map fun settlement => (settlement, store)
          else none := by
        unfold positiveSettlement
        rw [hrow]
      rw [hsettled]
      split
      · rename_i hsettles
        simp [hsettles]
      · rename_i hother
        simp [hother]
  | none =>
      have hfull : (∃ wallet ∈ store.wallet? tenantId,
          maxStoredCreditBalance < (wallet.settle value).usageCredits) ↔
          ¬ (wallet.settle value).usageCredits ≤ maxStoredCreditBalance := by
        simp [hfound]
      have htaken : (∃ row ∈ store.ledger, row.id = transactionId) ↔
          ¬ ∀ row ∈ store.ledger, row.id ≠ transactionId := by
        simp
      rw [← settleNew_toOption .notFound hrow hfound hrange hvalue, hfull, htaken]
      unfold settleNew
      by_cases hfits : (wallet.settle value).usageCredits ≤ maxStoredCreditBalance
      · by_cases hfresh : ∀ row ∈ store.ledger, row.id ≠ transactionId
        · rw [if_pos hfits, if_pos hfresh]
          simpa [Except.toOption, hfits] using hfresh
        · rw [if_pos hfits, if_neg hfresh]
          exact iff_of_true rfl (.inr (.inl hfresh))
      · rw [if_neg hfits]
        exact iff_of_true rfl (.inl ⟨rfl, hfits⟩)

/-! ## The errors of a full wallet -/

theorem requireStored_eq_error {result : Option Int} {message : String} {error : BillingError}
    (h : requireStored result message = .error error) : error = .conflict message := by
  unfold requireStored at h
  split at h
  · rcases bind_eq_error.mp h with hrange | ⟨_, _, hnever⟩
    · exact (ensure_eq_error.mp hrange).2.symm
    · cases hnever
  · cases h
    rfl

/-- A replay of the API is refused as a conflict. -/
theorem recordPositive_recorded_error {row : CreditTransaction} {error : BillingError}
    (haccepts : ApiAccepts tenantId value reason transactionId)
    (hrow : store.findUnique platformAdmin tenantId transactionId = some row)
    (h : recordPositiveCreditSettlementInTransaction store platformAdmin
      ⟨tenantId, .integer value, reason, transactionId⟩ = .error error) :
    ∃ message, error = .conflict message := by
  unfold recordPositiveCreditSettlementInTransaction replayPositiveCreditSettlement at h
  simp only [ensure_of_true _ haccepts.tenantId, haccepts.amount.1,
    ensure_of_true _ haccepts.amount.2, ensure_of_true _ haccepts.reason,
    ensure_of_true _ haccepts.transactionId, ok_bind, hrow] at h
  rcases bind_eq_error.mp h with hreplay | ⟨_, _, hnever⟩
  · rcases bind_eq_error.mp hreplay with hdetails | ⟨_, _, hresults⟩
    · exact ⟨_, (ensure_eq_error.mp hdetails).2.symm⟩
    · rcases bind_eq_error.mp hresults with hbalance | ⟨_, _, hdebt⟩
      · exact ⟨_, requireStored_eq_error hbalance⟩
      · rcases bind_eq_error.mp hdebt with hdebt | ⟨_, _, hnever⟩
        · exact ⟨_, requireStored_eq_error hdebt⟩
        · cases hnever
  · cases hnever

/-- A replay of the SQL function is refused with `23505`. -/
theorem settlePositive_recorded_error {isControl : Char → Bool} {row : CreditTransaction}
    {error : BillingError} (haccepts : SqlAccepts isControl tenantId value reason transactionId)
    (hrow : store.findUnique platformAdmin tenantId transactionId = some row)
    (hfound : store.wallet? tenantId = some wallet) (hrange : wallet.InRange)
    (h : settlePositiveCreditValue isControl store platformAdmin
      ⟨some tenantId, some value, some reason, some transactionId⟩ = .error error) :
    ∃ message, error = .sql "23505" message := by
  obtain ⟨⟨hbalance, _⟩, hold, _⟩ := id hrange
  unfold settlePositiveCreditValue at h
  simp only [ensure_of_true _ haccepts.value.1, ensure_of_true _ haccepts.tenantId,
    ensure_of_true _ haccepts.value.2, ensure_of_true _ haccepts.reason,
    ensure_of_true _ haccepts.transactionId, ok_bind, hrow, hfound,
    ensure_of_true _ (And.intro hbalance hold)] at h
  split at h
  · rcases bind_eq_error.mp h with hdetails | ⟨_, _, hnever⟩
    · exact ⟨_, (ensure_eq_error.mp hdetails).2.symm⟩
    · cases hnever
  · cases h
    exact ⟨_, rfl⟩

theorem settleNew_eq_error {full : BillingError}
    (hpkey : full ≠ .sql "23505" "CreditTransaction_pkey") :
    settleNew full store wallet tenantId value reason transactionId = .error full ↔
      maxStoredCreditBalance < (wallet.settle value).usageCredits := by
  unfold settleNew
  split
  · rename_i hfits
    refine iff_of_false ?_ (Int.not_lt.mpr hfits)
    split
    · rintro ⟨⟩
    · intro h
      exact hpkey (Except.error.inj h).symm
  · rename_i hfull
    exact iff_of_true rfl (Int.not_le.mp hfull)

/-! ## The two settlements agree -/

/-- For arguments that both accept, a wallet inside its columns and any ledger, the API and
the SQL function make the same settlement: the same answer, wallet and row.  They refuse it in
the same three cases, and a full wallet is the one each reports as such. -/
theorem positive_settlements_agree (isControl : Char → Bool) (store : Store) (platformAdmin : Bool)
    (tenantId : String) (value : Int) (reason transactionId : String) (wallet : Wallet)
    (hfound : store.wallet? tenantId = some wallet) (hrange : wallet.InRange)
    (htyped : ∀ row ∈ store.ledger, row.Typed)
    (hapi : ApiAccepts tenantId value reason transactionId)
    (hsql : SqlAccepts isControl tenantId value reason transactionId) :
    (recordPositiveCreditSettlementInTransaction store platformAdmin
      ⟨tenantId, .integer value, reason, transactionId⟩).toOption =
      positiveSettlement store platformAdmin tenantId value reason transactionId ∧
    (settlePositiveCreditValue isControl store platformAdmin
      ⟨some tenantId, some value, some reason, some transactionId⟩).toOption =
      positiveSettlement store platformAdmin tenantId value reason transactionId ∧
    (positiveSettlement store platformAdmin tenantId value reason transactionId = none ↔
      CapacityExceeded store platformAdmin tenantId value transactionId ∨
        IdReused store platformAdmin tenantId value reason transactionId ∨
        RowDamaged store platformAdmin tenantId transactionId) ∧
    (recordPositiveCreditSettlementInTransaction store platformAdmin
      ⟨tenantId, .integer value, reason, transactionId⟩ = .error walletCapacityExceeded ↔
      CapacityExceeded store platformAdmin tenantId value transactionId) ∧
    (settlePositiveCreditValue isControl store platformAdmin
      ⟨some tenantId, some value, some reason, some transactionId⟩ =
        .error (.sql "22003" "integer out of range") ↔
      CapacityExceeded store platformAdmin tenantId value transactionId) := by
  have hpositive := hapi.amount.2
  have hrefused : positiveSettlement store platformAdmin tenantId value reason transactionId =
      none ↔ _ := positiveSettlement_eq_none hfound hrange hpositive
  cases hrow : store.findUnique platformAdmin tenantId transactionId with
  | some row =>
      have hsettled : positiveSettlement store platformAdmin tenantId value reason transactionId =
          if row.Settles tenantId value reason then
            (row.settlement? true).map fun settlement => (settlement, store)
          else none := by
        unfold positiveSettlement
        rw [hrow]
      have hroom : ¬ CapacityExceeded store platformAdmin tenantId value transactionId := by
        intro hfull
        cases hrow.symm.trans hfull.1
      refine ⟨?_, ?_, hrefused, iff_of_false ?_ hroom, iff_of_false ?_ hroom⟩
      · rw [hsettled]
        exact recordPositive_recorded (htyped row (findUnique_spec hrow).1) hapi hrow
      · rw [hsettled]
        exact settlePositive_recorded hsql hrow hfound hrange
      · intro herror
        obtain ⟨message, hconflict⟩ := recordPositive_recorded_error hapi hrow herror
        cases hconflict
      · intro herror
        obtain ⟨message, hconflict⟩ :=
          settlePositive_recorded_error hsql hrow hfound hrange herror
        simp at hconflict
  | none =>
      have hfull : CapacityExceeded store platformAdmin tenantId value transactionId ↔
          maxStoredCreditBalance < (wallet.settle value).usageCredits := by
        simp [CapacityExceeded, hrow, hfound]
      rw [recordPositive_new hapi hsql.value.1 hrow hfound hrange,
        settlePositive_new hsql hrow hfound hrange, hfull,
        settleNew_toOption _ hrow hfound hrange hpositive,
        settleNew_toOption _ hrow hfound hrange hpositive]
      rw [hfull] at hrefused
      refine ⟨rfl, rfl, hrefused, ?_, ?_⟩
      · exact settleNew_eq_error (by simp [walletCapacityExceeded])
      · exact settleNew_eq_error (by simp)

namespace Refund

/-- Ten credits and a debt of three. -/
def opening : Store := ⟨[("tenant-1", ⟨10, 3⟩)], []⟩

/-- `[[:cntrl:]]` of ASCII. -/
def isControl (c : Char) : Bool := c.toNat ≤ 0x1f || c.toNat == 0x7f

/-- The row of a refund of five credits. -/
def row : CreditTransaction :=
  ⟨"refund-1", "tenant-1", 2, -3, "Schedule solve refund", some 12, some 0⟩

/-- Both repay the debt and add two credits. -/
theorem refund_repays_debt :
    (recordPositiveCreditSettlementInTransaction opening false
      ⟨"tenant-1", .integer 5, "Schedule solve refund", "refund-1"⟩).toOption =
      some (⟨"refund-1", 5, 2, 3, 12, 0, false⟩, ⟨[("tenant-1", ⟨12, 0⟩)], [row]⟩) ∧
    (settlePositiveCreditValue isControl opening false
      ⟨some "tenant-1", some 5, some "Schedule solve refund", some "refund-1"⟩).toOption =
      some (⟨"refund-1", 5, 2, 3, 12, 0, false⟩, ⟨[("tenant-1", ⟨12, 0⟩)], [row]⟩) := by
  obtain ⟨hapi, hsql, _⟩ := positive_settlements_agree isControl opening false "tenant-1" 5
    "Schedule solve refund" "refund-1" ⟨10, 3⟩ rfl ⟨by decide, by decide⟩ (by simp [opening])
    ⟨by decide, by decide, by decide, by decide⟩ ⟨by decide, by decide, by decide, by decide⟩
  exact ⟨hapi.trans (by decide +kernel), hsql.trans (by decide +kernel)⟩

end Refund

end LunchLineup.Billing
