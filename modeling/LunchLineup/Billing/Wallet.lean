import LunchLineup.Lib.Checked
import LunchLineup.Lib.Dict

/-!
# The credit wallet and the writers of its ledger

A tenant's wallet is a spendable balance and a debt, both PostgreSQL `INTEGER`
columns of `"Tenant"` with a nonnegativity check.  Every change is recorded as
one row of `"CreditTransaction"`, whose primary key is the transaction id.

Four functions write the two tables, each inside one transaction that holds the
tenant's row lock:

* `recordPositiveCreditSettlementInTransaction` (API v1, TypeScript), which
  repays debt before it adds to the balance;
* `recordCreditDebitInTransaction` (API v1, TypeScript);
* `debitFeatureCredit` (API v2, TypeScript);
* `settlePositiveCreditValue`, the SQL function `settle_positive_credit_value`
  that the worker and the publisher call for refunds.

A transaction that throws is rolled back, so each is a function from the store
to either an error or an answer with the next store.  Row-level security hides
the ledger rows of other tenants unless the session is the platform
administrator's; `findUnique` reads through that filter, the primary key does
not.
-/

namespace LunchLineup.Billing

open LunchLineup.Lib

/-! ## Numbers and texts of the three runtimes -/

/-- `MAX_STORED_CREDIT_BALANCE`, the largest PostgreSQL `INTEGER`. -/
def maxStoredCreditBalance : Int := 2147483647

/-- `Number.MAX_SAFE_INTEGER`. -/
def maxSafeInteger : Int := 9007199254740991

/-- A PostgreSQL `INTEGER` value. -/
def IsInteger (n : Int) : Prop := -2147483648 ≤ n ∧ n ≤ maxStoredCreditBalance

instance (n : Int) : Decidable (IsInteger n) := inferInstanceAs (Decidable (_ ∧ _))

/-- A JavaScript number, as far as `Number.isSafeInteger` can tell them apart:
an integer, or a fraction, an infinity or `NaN`. -/
inductive JsNumber
  | integer (value : Int)
  | nonInteger
  deriving DecidableEq

/-- The value of a number that passes `Number.isSafeInteger`. -/
def JsNumber.safeInteger? : JsNumber → Option Int
  | .integer value => if -maxSafeInteger ≤ value ∧ value ≤ maxSafeInteger then some value else none
  | .nonInteger => none

/-- The characters `String.prototype.trim` removes. -/
def isJsSpace (c : Char) : Bool :=
  let n := c.toNat
  (9 ≤ n && n ≤ 13) || n == 32 || n == 0xa0 || n == 0x1680 || (0x2000 ≤ n && n ≤ 0x200a) ||
    n == 0x2028 || n == 0x2029 || n == 0x202f || n == 0x205f || n == 0x3000 || n == 0xfeff

/-- `text.trim()`. -/
def jsTrim (text : String) : String :=
  String.ofList (((text.toList.dropWhile isJsSpace).reverse.dropWhile isJsSpace).reverse)

/-- `!text.trim()`. -/
def isJsBlank (text : String) : Bool := text.toList.all isJsSpace

/-- `text.length`, in UTF-16 code units. -/
def jsLength (text : String) : Nat :=
  (text.toList.map fun c => if c.toNat < 0x10000 then 1 else 2).sum

/-- `/[\u0000-\u001f\u007f]/.test(text)`. -/
def hasJsControl (text : String) : Bool :=
  text.toList.any fun c => c.toNat ≤ 0x1f || c.toNat == 0x7f

/-- `btrim(text) = ''`: PostgreSQL trims spaces only. -/
def isSqlBlank (text : String) : Bool := text.toList.all (· == ' ')

/-- Why a call was rejected. -/
inductive BillingError
  | badRequest (message : String)
  | badRequestCode (code message : String)
  | conflict (message : String)
  | forbidden (message : String)
  | problem (status : Nat) (code : String)
  | notFound
  | sql (state message : String)
  | superseded
  deriving DecidableEq

/-! ## The two tables -/

/-- The wallet columns of a `"Tenant"` row. -/
structure Wallet where
  usageCredits : Int
  creditDebt : Int
  deriving DecidableEq

/-- A `"CreditTransaction"` row.  Rows of retired writers may lack the two
settlement results. -/
structure CreditTransaction where
  id : String
  tenantId : String
  amount : Int
  debtAmount : Int
  reason : String
  balanceAfter : Option Int
  debtAfter : Option Int
  deriving DecidableEq

/-- The wallets by tenant id, and the ledger in order of insertion. -/
structure Store where
  tenants : Dict String Wallet
  ledger : List CreditTransaction
  deriving DecidableEq

namespace Store

/-- The wallet of a tenant. -/
def wallet? (store : Store) (tenantId : String) : Option Wallet :=
  Dict.get? store.tenants tenantId

/-- `findUnique` on the primary key, through row-level security: the platform
administrator sees every row, a tenant session its own. -/
def findUnique (store : Store) (platformAdmin : Bool) (tenantId id : String) :
    Option CreditTransaction :=
  store.ledger.find? fun row => row.id = id && (platformAdmin || row.tenantId = tenantId)

/-- `UPDATE "Tenant"`, with the column types and the two nonnegativity checks. -/
def updateTenant (store : Store) (tenantId : String) (wallet : Wallet) :
    Except BillingError Store := do
  ensure (IsInteger wallet.usageCredits ∧ IsInteger wallet.creditDebt)
    (.sql "22003" "integer out of range")
  ensure (0 ≤ wallet.usageCredits) (.sql "23514" "Tenant_usageCredits_nonnegative_check")
  ensure (0 ≤ wallet.creditDebt) (.sql "23514" "Tenant_creditDebt_nonnegative_check")
  .ok { store with tenants := Dict.set store.tenants tenantId wallet }

/-- `INSERT INTO "CreditTransaction"`, with the trigger
`populate_credit_transaction_debt_settlement`, the column types, the checks and
the primary key. -/
def insertCreditTransaction (store : Store) (row : CreditTransaction) :
    Except BillingError Store := do
  match store.wallet? row.tenantId with
  | none => .error (.sql "P0002" "query returned no rows")
  | some wallet =>
      ensure (¬ (row.debtAmount = 0 ∧ 0 < wallet.creditDebt))
        (.sql "23514" "legacy credit settlement is blocked while tenant credit debt exists")
      let row := { row with debtAfter := some (row.debtAfter.getD wallet.creditDebt) }
      ensure (IsInteger row.amount ∧ IsInteger row.debtAmount) (.sql "22003" "integer out of range")
      ensure (∀ balance ∈ row.balanceAfter, IsInteger balance ∧ 0 ≤ balance)
        (.sql "23514" "CreditTransaction_balanceAfter_nonnegative_check")
      ensure (∀ debt ∈ row.debtAfter, IsInteger debt ∧ 0 ≤ debt)
        (.sql "23514" "CreditTransaction_debtAfter_nonnegative_check")
      ensure (∀ other ∈ store.ledger, other.id ≠ row.id) (.sql "23505" "CreditTransaction_pkey")
      .ok { store with ledger := store.ledger ++ [row] }

end Store

/-- `requireStoredBalanceAfter` and `requireStoredDebtAfter`: a stored result
must be a nonnegative safe integer. -/
def requireStored (value : Option Int) (message : String) : Except BillingError Int :=
  match value with
  | some n => do
      ensure (0 ≤ n ∧ n ≤ maxSafeInteger) (.conflict message)
      .ok n
  | none => .error (.conflict message)

/-! ## Positive settlements -/

/-- What a positive settlement returns. -/
structure PositiveCreditSettlement where
  transactionId : String
  creditedValue : Int
  spendableAmount : Int
  repaidDebt : Int
  newBalance : Int
  debtAfter : Int
  replayed : Bool
  deriving DecidableEq

/-- The arguments of `recordPositiveCreditSettlementInTransaction`. -/
structure PositiveSettlementArgs where
  tenantId : String
  amount : JsNumber
  reason : String
  transactionId : String
  deriving DecidableEq

/-- `replayPositiveCreditSettlement`. -/
def replayPositiveCreditSettlement (existing : CreditTransaction) (tenantId : String)
    (amount : Int) (reason transactionId : String) :
    Except BillingError PositiveCreditSettlement := do
  ensure (existing.tenantId = tenantId ∧ 0 ≤ existing.amount ∧ existing.debtAmount ≤ 0 ∧
      existing.amount - existing.debtAmount = amount ∧ existing.reason = reason)
    (.conflict "Credit settlement identity was already used with different billing details.")
  let newBalance ← requireStored existing.balanceAfter
    "Existing credit grant is missing its immutable settlement balance."
  let debtAfter ← requireStored existing.debtAfter
    "Existing credit grant is missing its immutable debt balance."
  .ok {
    transactionId := transactionId
    creditedValue := amount
    spendableAmount := existing.amount
    repaidDebt := |existing.debtAmount|
    newBalance := newBalance
    debtAfter := debtAfter
    replayed := true }

/-- `recordPositiveCreditSettlementInTransaction`. -/
def recordPositiveCreditSettlementInTransaction (store : Store) (platformAdmin : Bool)
    (args : PositiveSettlementArgs) : Except BillingError (PositiveCreditSettlement × Store) := do
  ensure (¬ isJsBlank args.tenantId) (.badRequest "tenantId is required")
  match args.amount.safeInteger? with
  | none => .error (.badRequest "Amount must be a positive whole number")
  | some amount =>
      ensure (0 < amount) (.badRequest "Amount must be a positive whole number")
      ensure (¬ isJsBlank args.reason ∧ jsLength args.reason ≤ 500)
        (.badRequest "Reason must be between 1 and 500 characters")
      ensure (¬ isJsBlank args.transactionId ∧ jsLength args.transactionId ≤ 255 ∧
          ¬ hasJsControl args.transactionId)
        (.badRequest "transactionId must be 255 printable characters or fewer")
      match store.findUnique platformAdmin args.tenantId args.transactionId with
      | some existing => do
          let settlement ← replayPositiveCreditSettlement existing args.tenantId amount
            args.reason args.transactionId
          .ok (settlement, store)
      | none =>
          match store.wallet? args.tenantId with
          | none => .error .notFound
          | some current => do
              let currentBalance ← requireStored (some current.usageCredits)
                "Positive credit settlement found an invalid wallet balance."
              let currentDebt ← requireStored (some current.creditDebt)
                "Positive credit settlement found an invalid debt balance."
              ensure (currentBalance ≤ maxStoredCreditBalance ∧
                  currentDebt ≤ maxStoredCreditBalance)
                (.conflict "Positive credit settlement found balances outside the storage range.")
              let repaidDebt := min currentDebt amount
              let spendableAmount := amount - repaidDebt
              -- The grant may exceed an INTEGER when it also repays debt, so the capacity
              -- check is on the spendable part only.
              ensure (spendableAmount ≤ maxStoredCreditBalance - currentBalance)
                (.badRequestCode "CREDIT_WALLET_CAPACITY_EXCEEDED"
                  "Credit amount exceeds the available wallet capacity. Refresh balances and enter a smaller amount.")
              let updated : Wallet :=
                ⟨current.usageCredits + spendableAmount, current.creditDebt - repaidDebt⟩
              let store ← store.updateTenant args.tenantId updated
              let newBalance ← requireStored (some updated.usageCredits)
                "Credit grant settlement produced an invalid wallet balance."
              let debtAfter ← requireStored (some updated.creditDebt)
                "Credit grant settlement produced an invalid debt balance."
              ensure (newBalance = currentBalance + spendableAmount ∧
                  debtAfter = currentDebt - repaidDebt)
                (.conflict "Positive credit settlement produced an inconsistent result.")
              let store ← store.insertCreditTransaction {
                id := args.transactionId
                tenantId := args.tenantId
                amount := spendableAmount
                debtAmount := -repaidDebt
                reason := args.reason
                balanceAfter := some newBalance
                debtAfter := some debtAfter }
              .ok ({
                transactionId := args.transactionId
                creditedValue := amount
                spendableAmount := spendableAmount
                repaidDebt := repaidDebt
                newBalance := newBalance
                debtAfter := debtAfter
                replayed := false }, store)

/-- The arguments of `settle_positive_credit_value`; every SQL argument may be
`NULL`, and the value is an `INTEGER`. -/
structure SettleArgs where
  tenantId : Option String
  value : Option Int
  reason : Option String
  transactionId : Option String
  deriving DecidableEq

/-- `settle_positive_credit_value`.  `isControl` is the class `[[:cntrl:]]` of
the database's locale. -/
def settlePositiveCreditValue (isControl : Char → Bool) (store : Store) (platformAdmin : Bool)
    (args : SettleArgs) : Except BillingError (PositiveCreditSettlement × Store) :=
  match args.tenantId, args.value, args.reason, args.transactionId with
  | some tenantId, some value, some reason, some transactionId => do
      ensure (IsInteger value) (.sql "22003" "integer out of range")
      ensure (¬ isSqlBlank tenantId) (.sql "22023" "tenant id is required")
      ensure (0 < value) (.sql "22023" "positive credit value is required")
      ensure (¬ isSqlBlank reason ∧ reason.length ≤ 500)
        (.sql "22023" "credit settlement reason is invalid")
      ensure (¬ isSqlBlank transactionId ∧ transactionId.length ≤ 255 ∧
          ¬ transactionId.toList.any isControl)
        (.sql "22023" "credit settlement transaction id is invalid")
      match store.wallet? tenantId with
      | none => .error (.sql "P0002" "credit settlement tenant was not found")
      | some current =>
          ensure (0 ≤ current.usageCredits ∧ 0 ≤ current.creditDebt)
            (.sql "22003" "credit settlement tenant state is invalid")
          match store.findUnique platformAdmin tenantId transactionId with
          | some existing =>
              match existing.balanceAfter, existing.debtAfter with
              | some balanceAfter, some debtAfter => do
                  ensure (existing.tenantId = tenantId ∧ existing.reason = reason ∧
                      0 ≤ existing.amount ∧ existing.debtAmount ≤ 0 ∧ 0 ≤ balanceAfter ∧
                      0 ≤ debtAfter ∧ existing.amount - existing.debtAmount = value)
                    (.sql "23505" "credit settlement identity has conflicting billing details")
                  .ok ({
                    transactionId := transactionId
                    creditedValue := value
                    spendableAmount := existing.amount
                    repaidDebt := -existing.debtAmount
                    newBalance := balanceAfter
                    debtAfter := debtAfter
                    replayed := true }, store)
              | _, _ =>
                  .error (.sql "23505" "credit settlement identity has conflicting billing details")
          | none => do
              let repaidDebt := min current.creditDebt value
              let spendableAmount := value - repaidDebt
              let settled : Wallet :=
                ⟨current.usageCredits + spendableAmount, current.creditDebt - repaidDebt⟩
              let store ← store.updateTenant tenantId settled
              let store ← store.insertCreditTransaction {
                id := transactionId
                tenantId := tenantId
                amount := spendableAmount
                debtAmount := -repaidDebt
                reason := reason
                balanceAfter := some settled.usageCredits
                debtAfter := some settled.creditDebt }
              .ok ({
                transactionId := transactionId
                creditedValue := value
                spendableAmount := spendableAmount
                repaidDebt := repaidDebt
                newBalance := settled.usageCredits
                debtAfter := settled.creditDebt
                replayed := false }, store)
  | none, _, _, _ => .error (.sql "22023" "tenant id is required")
  | _, none, _, _ => .error (.sql "22023" "positive credit value is required")
  | _, _, none, _ => .error (.sql "22023" "credit settlement reason is invalid")
  | _, _, _, none => .error (.sql "22023" "credit settlement transaction id is invalid")

/-! ## Debits -/

/-- What a debit returns. -/
structure CreditDebitSettlement where
  consumedCredits : Int
  newBalance : Int
  deriving DecidableEq

/-- `tx.tenant.updateMany` of the two debit paths: one row changes when the
tenant exists, has no debt and can pay, else none. -/
def debitWallet (store : Store) (tenantId : String) (cost : Int) (refusal : BillingError) :
    Except BillingError (Wallet × Store) :=
  match store.wallet? tenantId with
  | none => .error refusal
  | some current => do
      ensure (current.creditDebt = 0 ∧ cost ≤ current.usageCredits) refusal
      let updated : Wallet := ⟨current.usageCredits - cost, current.creditDebt⟩
      let store ← store.updateTenant tenantId updated
      .ok (updated, store)

/-- The arguments of `recordCreditDebitInTransaction`.  `current` is the
optional callback `assertCurrent`, by call site: `false` where it throws. -/
structure CreditDebitArgs where
  tenantId : String
  cost : JsNumber
  reason : String
  transactionId : String
  current : Nat → Bool

/-- `assertCurrent()` at a call site. -/
def assertCurrent (current : Nat → Bool) (site : Nat) : Except BillingError Unit :=
  ensure (current site = true) .superseded

/-- `recordCreditDebitInTransaction`. -/
def recordCreditDebitInTransaction (store : Store) (platformAdmin : Bool)
    (args : CreditDebitArgs) : Except BillingError (CreditDebitSettlement × Store) := do
  assertCurrent args.current 0
  ensure (¬ isJsBlank args.tenantId) (.badRequest "tenantId is required")
  match args.cost.safeInteger? with
  | none => .error (.badRequest "Feature credit cost must be a positive whole number")
  | some cost =>
      ensure (0 < cost) (.badRequest "Feature credit cost must be a positive whole number")
      ensure (¬ isJsBlank args.reason ∧ jsLength args.reason ≤ 500)
        (.badRequest "Feature usage reason must be between 1 and 500 characters")
      ensure (¬ isJsBlank args.transactionId ∧ jsLength args.transactionId ≤ 255 ∧
          ¬ hasJsControl args.transactionId)
        (.badRequest "Feature transactionId must be 255 printable characters or fewer")
      assertCurrent args.current 1
      assertCurrent args.current 2
      assertCurrent args.current 3
      match store.findUnique platformAdmin args.tenantId args.transactionId with
      | some existing => do
          ensure (existing.tenantId = args.tenantId ∧ existing.amount = -cost ∧
              existing.debtAmount = 0 ∧ existing.reason = args.reason)
            (.conflict "Feature usage operation was already recorded with different billing details.")
          let existingDebtAfter ← requireStored existing.debtAfter
            "Existing feature usage is missing its immutable debt balance."
          ensure (existingDebtAfter = 0)
            (.conflict "Existing feature usage was recorded while credit debt remained outstanding.")
          let newBalance ← requireStored existing.balanceAfter
            "Existing feature usage is missing its immutable settlement balance."
          .ok (⟨cost, newBalance⟩, store)
      | none => do
          assertCurrent args.current 4
          let (tenant, store) ← debitWallet store args.tenantId cost
            (.forbidden "Insufficient usage credits balance.")
          assertCurrent args.current 5
          assertCurrent args.current 6
          let newBalance ← requireStored (some tenant.usageCredits)
            "Feature usage settlement produced an invalid wallet balance."
          let debtAfter ← requireStored (some tenant.creditDebt)
            "Feature usage settlement produced an invalid debt balance."
          assertCurrent args.current 7
          let store ← store.insertCreditTransaction {
            id := args.transactionId
            tenantId := args.tenantId
            amount := -cost
            debtAmount := 0
            reason := args.reason
            balanceAfter := some newBalance
            debtAfter := some debtAfter }
          assertCurrent args.current 8
          .ok (⟨cost, newBalance⟩, store)

/-- `BillableFeature`. -/
inductive BillableFeature
  | lunchBreaks
  | scheduling
  | timeCards
  deriving DecidableEq

/-- The code of the refusal `failure(feature, true)`. -/
def BillableFeature.notEntitled : BillableFeature → String
  | .lunchBreaks => "lunch_breaks_not_entitled"
  | .scheduling => "scheduling_not_entitled"
  | .timeCards => "time_cards_not_entitled"

/-- The arguments of `debitFeatureCredit`.  The entitlement's cost is any
number the caller built; nothing checks its sign. -/
structure FeatureDebitArgs where
  tenantId : String
  feature : BillableFeature
  creditCost : JsNumber
  operationId : String
  reason : String
  transactionId : Option String
  current : Nat → Bool

/-- `args.transactionId ?? feature-usage-<operationId>`. -/
def FeatureDebitArgs.resolvedTransactionId (args : FeatureDebitArgs) : String :=
  args.transactionId.getD ("feature-usage-" ++ args.operationId)

/-- `debitFeatureCredit`.  Prisma refuses a cost that is not an `INTEGER`. -/
def debitFeatureCredit (store : Store) (platformAdmin : Bool) (args : FeatureDebitArgs) :
    Except BillingError (CreditDebitSettlement × Store) := do
  assertCurrent args.current 0
  match args.creditCost with
  | .nonInteger => .error (.sql "22023" "creditCost is not an Int")
  | .integer cost =>
      match store.findUnique platformAdmin args.tenantId args.resolvedTransactionId with
      | some existing =>
          match existing.balanceAfter with
          | none => .error (.problem 409 "credit_settlement_conflict")
          | some balanceAfter => do
              ensure (existing.tenantId = args.tenantId ∧ existing.amount = -cost ∧
                  existing.debtAmount = 0 ∧ existing.reason = args.reason ∧ 0 ≤ balanceAfter ∧
                  existing.debtAfter = some 0)
                (.problem 409 "credit_settlement_conflict")
              assertCurrent args.current 1
              .ok (⟨cost, balanceAfter⟩, store)
      | none => do
          assertCurrent args.current 2
          ensure (IsInteger cost) (.sql "22003" "integer out of range")
          let (tenant, store) ← debitWallet store args.tenantId cost
            (.problem 403 args.feature.notEntitled)
          assertCurrent args.current 3
          ensure (0 ≤ tenant.usageCredits ∧ tenant.creditDebt = 0)
            (.problem 409 "credit_settlement_conflict")
          assertCurrent args.current 4
          let store ← store.insertCreditTransaction {
            id := args.resolvedTransactionId
            tenantId := args.tenantId
            amount := -cost
            debtAmount := 0
            reason := args.reason
            balanceAfter := some tenant.usageCredits
            debtAfter := some tenant.creditDebt }
          assertCurrent args.current 5
          .ok (⟨cost, tenant.usageCredits⟩, store)

end LunchLineup.Billing
