import LunchLineup.Imports.ImportJob
import LunchLineup.Billing.RefundOnce

/-!
# An availability import settles once

Every transaction on the job is one of five moves (`Move`): it leaves the columns
that count alone, erases parts of the document, hands the live job around, completes
it, or refunds and closes it.  There is one lemma for each transaction.  The
invariant `Accounted` follows from the moves, and `import_settles_once` from it.

What a worker whose token was replaced attempts is looked at apart: each of its
transactions tests the token, except the erasure of a document that is already gone.
-/

namespace LunchLineup.Imports

open LunchLineup.Lib LunchLineup.Python LunchLineup.Billing LunchLineup.Jobs

/-! ## Moves -/

/-- The columns that no transaction writes. -/
structure ImportJob.SameJob (old new : ImportJob) : Prop where
  id : new.id = old.id
  tenantId : new.tenantId = old.tenantId

theorem ImportJob.SameJob.refl (job : ImportJob) : job.SameJob job := ⟨rfl, rfl⟩

/-- The document is erased at least as far as before. -/
structure ImportJob.ErasesMore (old new : ImportJob) : Prop where
  storageKey : new.storageKey = none ∨ new.storageKey = old.storageKey
  payload : new.encryptedSourcePayload = none ∨
    new.encryptedSourcePayload = old.encryptedSourcePayload

/-- What an accepted transaction on the job does. -/
inductive Move (maximumRetries : Nat) (st : ImportState) : ImportState → Prop
  | idle (cleaning : Bool)
      (hcleaning : cleaning = true → st.cleaning = true ∨ st.job.status.terminal = true) :
      Move maximumRetries st { st with cleaning := cleaning }
  | erased (row : ImportJob) (hsame : st.job.SameJob row) (hvalid : row.Valid)
      (hstatus : row.status = st.job.status) (hattempts : row.attempts = st.job.attempts)
      (herases : st.job.ErasesMore row) : Move maximumRetries st { st with job := row }
  | handed (row : ImportJob) (hsame : st.job.SameJob row) (hvalid : row.Valid)
      (hlive : st.job.status.terminal = false) (hnext : row.status.terminal = false)
      (hgrows : st.job.attempts ≤ row.attempts)
      (hbound : st.job.attempts ≤ (maximumRetries : Int) + 1 →
        row.attempts ≤ (maximumRetries : Int) + 1) :
      Move maximumRetries st { st with job := row }
  | completed (row : ImportJob) (hsame : st.job.SameJob row) (hvalid : row.Valid)
      (hlive : st.job.status.terminal = false) (hnext : row.status = .succeeded)
      (hattempts : row.attempts = st.job.attempts) :
      Move maximumRetries st { st with job := row, cleaning := true }
  | refunded (row : ImportJob) (debit refund : CreditTransaction) (billing : Store)
      (settlement : Settlement) (wallet : Wallet) (hsame : st.job.SameJob row) (hvalid : row.Valid)
      (hlive : st.job.status.terminal = false) (hnext : row.status.refunded = true)
      (hattempts : row.attempts = st.job.attempts) (hdebit : debit ∈ st.billing.ledger)
      (hdebitId : debit.id = debitId st.job.id) (hid : refund.id = refundId st.job.id)
      (hvalue : refund.amount - refund.debtAmount = -debit.amount)
      (happlies : Applies st.billing settlement billing refund wallet) :
      Move maximumRetries st { job := row, billing := billing, cleaning := true }

section Moves

variable {maximumRetries : Nat} {st next : ImportState} {payload : ImportPayload}
  {env : Surroundings}

theorem Move.same : Move maximumRetries st st := by
  have h : Move maximumRetries st { st with cleaning := st.cleaning } :=
    .idle st.cleaning fun h => .inl h
  exact h

theorem updateJob_ok {writesStatus : Bool} {row : ImportJob}
    (h : st.updateJob env writesStatus row = .ok next) :
    row.Valid ∧ next = { st with job := row } := by
  simp only [ImportState.updateJob, bind_eq_ok, ensure_eq_ok] at h
  obtain ⟨_, _, _, hvalid, h⟩ := h
  exact ⟨hvalid, (Except.ok.inj h).symm⟩

theorem lockJob_eq {now : Int} {state : LockedImportState}
    (h : st.lockJob payload now = some state) : state.job = st.job ∧ st.Names payload ∧
      state.debit = summarize debtFreeAmount (st.creditRows (debitId st.job.id)) := by
  unfold ImportState.lockJob at h
  split at h
  · rename_i hnames
    obtain rfl := Option.some.inj h
    exact ⟨rfl, hnames, rfl⟩
  · cases h

theorem claim_move {preview : Option (ImportStatus × String)} {retryCount : Nat} {token : String}
    (hretry : retryCount ≤ maximumRetries) {claimed : Bool}
    (h : claimImport maximumRetries st payload preview env retryCount token = .ok (claimed, next)) :
    Move maximumRetries st next := by
  unfold claimImport at h
  split at h
  · cases h
  split at h
  · cases h
  rename_i state hlock
  obtain ⟨hjob, _, _⟩ := lockJob_eq hlock
  split at h
  · obtain ⟨_, rfl⟩ := Prod.mk.inj (Except.ok.inj h)
    exact .same
  simp only [bind_eq_ok, ensure_eq_ok] at h
  obtain ⟨_, _, h⟩ := h
  split at h
  · obtain ⟨_, rfl⟩ := Prod.mk.inj (Except.ok.inj h)
    exact .same
  rename_i hlive
  simp only [bind_eq_ok, ensure_eq_ok] at h
  obtain ⟨_, _, _, _, _, _, _, _, _, _, _, hbudget, middle, hupdate, h⟩ := h
  obtain ⟨_, rfl⟩ := Prod.mk.inj (Except.ok.inj h)
  obtain ⟨hvalid, rfl⟩ := updateJob_ok hupdate
  rw [hjob] at hlive hbudget
  refine .handed _ ?_ hvalid (by simpa using hlive) rfl ?_ ?_
  · rw [hjob]
    exact ⟨rfl, rfl⟩
  · rw [hjob]
    have hle := le_max_right (retryCount : Int) st.job.attempts
    exact le_trans hle (Int.le_add_one le_rfl)
  · intro _
    have hcount : (retryCount : Int) ≤ maximumRetries := Int.ofNat_le.mpr hretry
    have hmax : max (retryCount : Int) state.job.attempts ≤ maximumRetries :=
      max_le hcount (by rw [hjob]; exact Int.lt_add_one_iff.mp hbudget)
    exact Int.add_le_add_right hmax 1

theorem complete_move {preview : Option (ImportStatus × String)}
    {token sourceIdentityHash availability : String}
    (h : completeImport st payload preview env token sourceIdentityHash availability = .ok next) :
    Move maximumRetries st next := by
  unfold completeImport at h
  split at h
  · cases h
  split at h
  · cases h
  rename_i state hlock
  obtain ⟨hjob, _, _⟩ := lockJob_eq hlock
  simp only [bind_eq_ok, ensure_eq_ok] at h
  obtain ⟨_, _, _, ⟨hrunning, _⟩, _, _, _, _, _, _, _, _, _, _, middle, hupdate, h⟩ := h
  obtain rfl := Except.ok.inj h
  obtain ⟨hvalid, rfl⟩ := updateJob_ok hupdate
  rw [hjob] at hrunning
  refine .completed _ ?_ hvalid (by rw [hrunning]; rfl) rfl ?_
  · rw [hjob]
    exact ⟨rfl, rfl⟩
  · rw [hjob]

theorem retrying_move {seen : Option SeenOwner} {token : Option String} {retryCount : Nat}
    (hretry : retryCount ≤ maximumRetries)
    (h : markRetrying st payload seen env token retryCount = .ok next) :
    Move maximumRetries st next := by
  unfold markRetrying at h
  split at h
  · obtain rfl := Except.ok.inj h
    exact .same
  split at h
  · obtain rfl := Except.ok.inj h
    exact .same
  simp only [bind_eq_ok, ensure_eq_ok] at h
  obtain ⟨_, _, _, ⟨_, hlive, _⟩, hupdate⟩ := h
  obtain ⟨hvalid, rfl⟩ := updateJob_ok hupdate
  refine .handed _ ⟨rfl, rfl⟩ hvalid hlive rfl (le_max_left _ _) ?_
  intro hbound
  have hcount : (retryCount : Int) ≤ (maximumRetries : Int) + 1 :=
    le_trans (Int.ofNat_le.mpr hretry) (Int.le_add_one le_rfl)
  exact max_le hbound hcount

/-- The amount of a summary is that of a row. -/
theorem exists_row_of_summary {amount : CreditTransaction → Option Int}
    {rows : List CreditTransaction} {value : Int} (h : (summarize amount rows).amount = some value) :
    ∃ row ∈ rows, amount row = some value := by
  unfold summarize at h
  split at h
  · rename_i row
    exact ⟨row, List.mem_singleton_self row, h⟩
  · cases h

theorem debtFreeAmount_eq {row : CreditTransaction} {value : Int}
    (h : debtFreeAmount row = some value) : row.amount = value := by
  unfold debtFreeAmount at h
  split at h
  · exact Option.some.inj h
  · cases h

theorem terminalize_move {isControl : Char → Bool} {token : Option String}
    {status : ImportStatus} {failureCode : String}
    (h : terminalizeImport isControl st payload env token status failureCode = .ok next) :
    Move maximumRetries st next := by
  simp only [terminalizeImport, bind_eq_ok, ensure_eq_ok] at h
  obtain ⟨_, hstatus, h⟩ := h
  split at h
  · obtain rfl := Except.ok.inj h
    exact .same
  rename_i state hlock
  obtain ⟨hjob, hnames, hdebits⟩ := lockJob_eq hlock
  split at h
  · rename_i hterminal
    rw [hjob] at hterminal
    split at h
    · simp only [bind_eq_ok] at h
      obtain ⟨_, _, h⟩ := h
      obtain rfl := Except.ok.inj h
      exact .idle true fun _ => .inr hterminal
    · obtain rfl := Except.ok.inj h
      exact .idle true fun _ => .inr hterminal
  · rename_i hlive
    simp only [bind_eq_ok, ensure_eq_ok] at h
    obtain ⟨_, _, refundAmount, hamount, ⟨settlement, billing⟩, hsettle, _, hsettled, _, _, middle,
      hupdate, h⟩ := h
    obtain rfl := Except.ok.inj h
    obtain ⟨hvalid, rfl⟩ := updateJob_ok hupdate
    have hsettle := mapError_eq_ok.mp hsettle
    -- The refund is the amount of the debit that was read.
    simp only [LockedImportState.authoritativeRefundAmount, bind_eq_ok, ensure_eq_ok] at hamount
    obtain ⟨_, _, hamount⟩ := hamount
    split at hamount
    · cases hamount
    rename_i debitAmount hdebit
    simp only [bind_eq_ok, ensure_eq_ok] at hamount
    obtain ⟨_, _, hamount⟩ := hamount
    obtain rfl := Except.ok.inj hamount
    rw [hdebits] at hdebit
    obtain ⟨debit, hrow, hvalue⟩ := exists_row_of_summary hdebit
    obtain ⟨hledger, hkey⟩ := List.mem_filter.mp hrow
    have hdebitId : debit.id = debitId st.job.id := by
      simp only [Bool.and_eq_true, decide_eq_true_eq] at hkey
      exact hkey.1
    obtain ⟨refund, hid, _, _, hreplay | ⟨⟨wallet, happlies⟩, _⟩⟩ := settlePositive_cases hsettle
    · cases hreplay.2.symm.trans hsettled.2.2.2.2.2.2
    rw [hjob] at hlive
    refine .refunded _ debit refund billing _ wallet ⟨rfl, rfl⟩ hvalid (by simpa using hlive)
      hstatus rfl hledger hdebitId ?_ ?_ happlies
    · rw [hnames.1]
      exact Option.some.inj hid
    · have hreports := happlies.reports.2.1
      rw [← hreports, hsettled.1, debtFreeAmount_eq hvalue]

/-- An update that only erases. -/
theorem erasing_move {writesStatus : Bool} {row : ImportJob} (hsame : st.job.SameJob row)
    (hstatus : row.status = st.job.status) (hattempts : row.attempts = st.job.attempts)
    (herases : st.job.ErasesMore row) (h : st.updateJob env writesStatus row = .ok next) :
    Move maximumRetries st next := by
  obtain ⟨hvalid, rfl⟩ := updateJob_ok h
  exact .erased row hsame hvalid hstatus hattempts herases

theorem cleanup_move (h : cleanupSource st payload env = .ok next) :
    Move maximumRetries st next := by
  unfold cleanupSource at h
  split at h
  · refine erasing_move ?_ ?_ ?_ ?_ h
    · exact ⟨rfl, rfl⟩
    · rfl
    · rfl
    · exact ⟨.inl rfl, .inl rfl⟩
  · obtain rfl := Except.ok.inj h
    exact .same

theorem eraseOwned_move {token : Option String}
    (h : eraseOwnedImportSource st payload env token = .ok next) :
    Move maximumRetries st next := by
  unfold eraseOwnedImportSource at h
  split at h
  · refine erasing_move ?_ ?_ ?_ ?_ h
    · exact ⟨rfl, rfl⟩
    · rfl
    · rfl
    · exact ⟨.inl rfl, .inl rfl⟩
  · obtain rfl := Except.ok.inj h
    exact .same

theorem eraseHard_move (h : eraseHardExpired st payload env = .ok next) :
    Move maximumRetries st next := by
  unfold eraseHardExpired at h
  split at h
  · refine erasing_move ?_ ?_ ?_ ?_ h
    · exact ⟨rfl, rfl⟩
    · rfl
    · rfl
    · exact ⟨.inr rfl, .inl rfl⟩
  · obtain rfl := Except.ok.inj h
    exact .same

theorem clearKey_move {storageKey : String}
    (h : clearErasedKey st payload env storageKey = .ok next) :
    Move maximumRetries st next := by
  simp only [clearErasedKey, bind_eq_ok, ensure_eq_ok] at h
  obtain ⟨_, _, h⟩ := h
  refine erasing_move ?_ ?_ ?_ ?_ h
  · exact ⟨rfl, rfl⟩
  · rfl
  · rfl
  · exact ⟨.inl rfl, .inr rfl⟩

theorem eraseRetained_move (h : eraseRetained st payload env = .ok next) :
    Move maximumRetries st next := by
  unfold eraseRetained at h
  split at h
  · refine erasing_move ?_ ?_ ?_ ?_ h
    · exact ⟨rfl, rfl⟩
    · rfl
    · rfl
    · exact ⟨.inl rfl, .inl rfl⟩
  · obtain rfl := Except.ok.inj h
    exact .same

/-- Every accepted event is a move of the job or a call of the wallet. -/
theorem run_cases {deployment : ImportDeployment} {importId : String}
    {event : ImportEvent deployment importId} (h : event.run st = .ok next) :
    Move deployment.maximumRetries st next ∨
      ∃ request, request.call.transactionId ≠ some (refundId importId) ∧
        next = { st with billing := (commit deployment.isControl st.billing request).2 } := by
  cases event with
  | claim payload preview env retryCount token =>
      obtain ⟨⟨claimed, after⟩, hclaim, rfl⟩ := map_eq_ok.mp h
      exact .inl (claim_move retryCount.property hclaim)
  | complete payload preview env token sourceIdentityHash availability =>
      exact .inl (complete_move h)
  | retrying payload seen env token retryCount => exact .inl (retrying_move retryCount.property h)
  | terminalize payload env token status failureCode => exact .inl (terminalize_move h)
  | cleanup payload env => exact .inl (cleanup_move h)
  | eraseOwned payload env token => exact .inl (eraseOwned_move h)
  | eraseHard payload env => exact .inl (eraseHard_move h)
  | clearKey payload env storageKey => exact .inl (clearKey_move h)
  | eraseRetained payload env => exact .inl (eraseRetained_move h)
  | wallet request hforeign => exact .inr ⟨request, hforeign, (Except.ok.inj h).symm⟩

end Moves

/-! ## The invariant -/

/-- What holds between the transactions of the job. -/
structure Accounted (maximumRetries : Nat) (importId : String) (st : ImportState) : Prop where
  id : st.job.id = importId
  valid : st.job.Valid
  paid : RefundedOnce st.billing (debitId importId) (refundId importId)
    (st.job.status.refunded = true)
  attempts : st.job.attempts ≤ (maximumRetries : Int) + 1
  cleaning : st.cleaning = true → st.job.status.terminal = true

/-- A queued job with its debit and without a refund. -/
structure QueuedImport (maximumRetries : Nat) extends ImportState where
  queued : job.status = .queued
  valid : job.Valid
  attempts : job.attempts ≤ (maximumRetries : Int) + 1
  rows : (billing.ledger.map (·.id)).Nodup
  debit : ∃ row ∈ billing.ledger, row.id = debitId job.id ∧ row.tenantId = job.tenantId ∧
    row.amount = -consumedCredits job.creditConsumption ∧ row.debtAmount = 0 ∧
    row.debtAfter = some 0 ∧ row.reason = debitReason job.id ∧
    row.balanceAfter = settlementNewBalance job.creditConsumption
  noRefund : ∀ row ∈ billing.ledger, row.id ≠ refundId job.id
  idle : cleaning = false

theorem refunded_of_live {status : ImportStatus} (h : status.terminal = false) :
    status.refunded = false := by
  cases status
  all_goals first | rfl | cases h

theorem terminal_of_refunded {status : ImportStatus} (h : status.refunded = true) :
    status.terminal = true := by
  cases status
  all_goals first | rfl | cases h

theorem refundId_ne_debitId (first second : String) : refundId first ≠ debitId second := by
  intro h
  have htexts := congrArg String.toList h
  unfold refundId debitId at htexts
  simp only [String.toList_append] at htexts
  apply append_ne_of_take_ne ?_ ?_ ?_ htexts
  · exact 9
  · decide +kernel
  · decide +kernel
  · decide +kernel

section Invariant

variable {deployment : ImportDeployment} {importId : String} {st next : ImportState}

theorem QueuedImport.accounted {maximumRetries : Nat} (start : QueuedImport maximumRetries) :
    Accounted maximumRetries start.job.id start.toImportState where
  id := rfl
  valid := start.valid
  paid := by
    refine ⟨start.rows, ?_, ?_, ?_⟩
    · obtain ⟨row, hrow, hid, _⟩ := start.debit
      exact ⟨row, hrow, hid⟩
    · rw [start.queued]
      constructor
      · rintro ⟨row, hrow, hid⟩
        exact absurd hid (start.noRefund row hrow)
      · intro h
        cases h
    · intro refund hrefund hid
      exact absurd hid (start.noRefund refund hrefund)
  attempts := start.attempts
  cleaning h := absurd (h.symm.trans start.idle) (by simp)

/-- Where the ledger stays, a row with the same refund status keeps the account. -/
theorem Accounted.rewritten {maximumRetries : Nat} (h : Accounted maximumRetries importId st)
    {row : ImportJob} {cleaning : Bool} (hsame : st.job.SameJob row) (hvalid : row.Valid)
    (hrefunded : row.status.refunded = st.job.status.refunded)
    (hattempts : row.attempts ≤ (maximumRetries : Int) + 1)
    (hcleaning : cleaning = true → row.status.terminal = true) :
    Accounted maximumRetries importId ⟨row, st.billing, cleaning⟩ where
  id := hsame.id.trans h.id
  valid := hvalid
  paid := h.paid.congr (by rw [hrefunded])
  attempts := hattempts
  cleaning := hcleaning

theorem Accounted.move {maximumRetries : Nat} (h : Accounted maximumRetries importId st)
    (hmove : Move maximumRetries st next) : Accounted maximumRetries importId next := by
  cases hmove with
  | idle cleaning hcleaning =>
      refine h.rewritten (.refl st.job) h.valid rfl h.attempts fun hset => ?_
      exact (hcleaning hset).elim h.cleaning fun hterminal => hterminal
  | erased row hsame hvalid hstatus hattempts _ =>
      refine h.rewritten hsame hvalid (by rw [hstatus]) (hattempts ▸ h.attempts) ?_
      rw [hstatus]
      exact h.cleaning
  | handed row hsame hvalid hlive hnext _ hbound =>
      refine h.rewritten hsame hvalid ?_ (hbound h.attempts) ?_
      · rw [refunded_of_live hnext, refunded_of_live hlive]
      · intro hset
        rw [h.cleaning hset] at hlive
        cases hlive
  | completed row hsame hvalid hlive hnext hattempts =>
      refine h.rewritten hsame hvalid ?_ (hattempts ▸ h.attempts) ?_
      · rw [hnext, refunded_of_live hlive]
        rfl
      · intro _
        rw [hnext]
        rfl
  | refunded row debit refund billing settlement wallet hsame hvalid hlive hnext hattempts hdebit
      hdebitId hid hvalue happlies =>
      rw [h.id] at hdebitId hid
      refine ⟨hsame.id.trans h.id, hvalid, ?_, hattempts ▸ h.attempts,
        fun _ => terminal_of_refunded hnext⟩
      have hnot_refunded : ¬ st.job.status.refunded = true := by
        rw [refunded_of_live hlive]
        simp
      refine (h.paid.refunds hnot_refunded happlies hid (refundId_ne_debitId _ _) ?_).congr
        (iff_of_true trivial hnext)
      intro old hold hold_id
      rw [eq_of_key h.paid.rows hold hdebit (hold_id.trans hdebitId.symm)]
      exact hvalue

/-- A call of the wallet under another id keeps the account. -/
theorem Accounted.walletMoved {maximumRetries : Nat} (h : Accounted maximumRetries importId st)
    (isControl : Char → Bool)
    {request : WalletRequest} (hforeign : request.call.transactionId ≠ some (refundId importId)) :
    Accounted maximumRetries importId
      { st with billing := (commit isControl st.billing request).2 } :=
  ⟨h.id, h.valid, h.paid.commit isControl hforeign, h.attempts, h.cleaning⟩

theorem Accounted.step (h : Accounted deployment.maximumRetries importId st)
    (event : ImportEvent deployment importId) :
    Accounted deployment.maximumRetries importId (importStep deployment importId st event).2 := by
  unfold importStep
  cases hrun : event.run st with
  | error error => exact h
  | ok next =>
      rcases run_cases hrun with hmove | ⟨request, hforeign, rfl⟩
      · exact h.move hmove
      · exact h.walletMoved deployment.isControl hforeign

end Invariant

/-! ## Single steps -/

section Steps

variable {deployment : ImportDeployment} {importId : String} {st next : ImportState}

/-- The status and the attempts move forwards only. -/
structure ImportJob.Advances (old new : ImportJob) : Prop where
  absorbing : old.status.terminal = true → new.status = old.status
  attempts : old.attempts ≤ new.attempts

theorem advances_step (event : ImportEvent deployment importId) :
    st.job.Advances (importStep deployment importId st event).2.job := by
  unfold importStep
  cases hrun : event.run st with
  | error error => exact ⟨fun _ => rfl, le_rfl⟩
  | ok next =>
      rcases run_cases hrun with hmove | ⟨request, _, rfl⟩
      · cases hmove with
        | idle => exact ⟨fun _ => rfl, le_rfl⟩
        | erased row _ _ hstatus hattempts _ => exact ⟨fun _ => hstatus, hattempts.ge⟩
        | handed row _ _ hlive _ hgrows _ => exact ⟨fun hterminal => by simp_all, hgrows⟩
        | completed row _ _ hlive _ hattempts =>
            exact ⟨fun hterminal => by simp_all, hattempts.ge⟩
        | refunded row _ _ _ _ _ _ _ hlive _ hattempts =>
            exact ⟨fun hterminal => by simp_all, hattempts.ge⟩
      · exact ⟨fun _ => rfl, le_rfl⟩

/-- Erasing what is erased. -/
theorem ImportJob.erasedAgain {job : ImportJob} (hkey : job.storageKey = none)
    (hpayload : job.encryptedSourcePayload = none) (herased : job.resultErasedAt.isSome = true)
    (now : Int) :
    { job.withoutSource with resultErasedAt := some (job.resultErasedAt.getD now) } = job := by
  obtain ⟨erasedAt, heq⟩ := Option.isSome_iff_exists.mp herased
  cases job
  simp_all [ImportJob.withoutSource]

/-- Erasing a terminal row whose document and result are gone, or failing to. -/
theorem eraseOwned_terminal (hvalid : st.job.Valid) (hterminal : st.job.status.terminal = true)
    {payload : ImportPayload} {env : Surroundings} {token : Option String}
    (h : eraseOwnedImportSource st payload env token = .ok next) : next.job = st.job := by
  obtain ⟨_, hlifecycle, _, hsource, _⟩ := hvalid
  obtain ⟨hkey, hpayload⟩ := hsource hterminal
  unfold eraseOwnedImportSource at h
  split at h
  · obtain ⟨⟨_, hlifecycle', _⟩, rfl⟩ := updateJob_ok h
    -- A result that is still there forbids the time stamp, so it is not.
    have herased : st.job.resultErasedAt.isSome = true := by
      cases hstatus : st.job.status with
      | succeeded =>
          simp only [ImportJob.ResultLifecycle, ImportJob.withoutSource, hstatus]
            at hlifecycle hlifecycle'
          cases herased : st.job.resultErasedAt with
          | some erasedAt => rfl
          | none => simp_all
      | failed => simp_all [ImportJob.ResultLifecycle]
      | deadLettered => simp_all [ImportJob.ResultLifecycle]
      | cancelled => simp_all [ImportJob.ResultLifecycle]
      | pending => simp_all [ImportStatus.terminal]
      | queued => simp_all [ImportStatus.terminal]
      | running => simp_all [ImportStatus.terminal]
      | retrying => simp_all [ImportStatus.terminal]
    exact ImportJob.erasedAgain hkey hpayload herased env.now
  · obtain rfl := Except.ok.inj h
    rfl

/-- A worker whose token is no longer on the job changes neither it nor a wallet. -/
theorem superseded_step (h : Accounted deployment.maximumRetries importId st)
    {event : ImportEvent deployment importId} {token : String}
    (hheld : event.heldToken = some token) (hlost : st.job.executionToken ≠ some token) :
    (importStep deployment importId st event).2.job = st.job ∧
      (importStep deployment importId st event).2.billing = st.billing := by
  unfold importStep
  cases hrun : event.run st with
  | error error => exact ⟨rfl, rfl⟩
  | ok next =>
      simp only
      cases event with
      | claim payload preview env retryCount token => cases hheld
      | cleanup payload env => cases hheld
      | eraseHard payload env => cases hheld
      | clearKey payload env storageKey => cases hheld
      | eraseRetained payload env => cases hheld
      | wallet request hforeign => cases hheld
      | complete payload preview env held sourceIdentityHash availability =>
          obtain rfl := Option.some.inj hheld
          simp only [ImportEvent.run, completeImport] at hrun
          split at hrun
          · cases hrun
          split at hrun
          · cases hrun
          rename_i state hlock
          simp only [bind_eq_ok, ensure_eq_ok] at hrun
          obtain ⟨_, _, _, ⟨_, hholds⟩, _⟩ := hrun
          rw [(lockJob_eq hlock).1] at hholds
          exact absurd hholds hlost
      | retrying payload seen env held retryCount =>
          obtain rfl : held = some token := hheld
          simp only [ImportEvent.run, markRetrying] at hrun
          split at hrun
          · obtain rfl := Except.ok.inj hrun
            exact ⟨rfl, rfl⟩
          split at hrun
          · obtain rfl := Except.ok.inj hrun
            exact ⟨rfl, rfl⟩
          simp only [bind_eq_ok, ensure_eq_ok] at hrun
          obtain ⟨_, _, _, ⟨_, _, hholds⟩, _⟩ := hrun
          exact absurd hholds hlost
      | terminalize payload env held status failureCode =>
          obtain rfl : held = some token := hheld
          simp only [ImportEvent.run, terminalizeImport, bind_eq_ok, ensure_eq_ok] at hrun
          obtain ⟨_, _, hrun⟩ := hrun
          split at hrun
          · obtain rfl := Except.ok.inj hrun
            exact ⟨rfl, rfl⟩
          rename_i state hlock
          split at hrun
          · split at hrun
            · simp only [bind_eq_ok] at hrun
              obtain ⟨_, _, hrun⟩ := hrun
              obtain rfl := Except.ok.inj hrun
              exact ⟨rfl, rfl⟩
            · obtain rfl := Except.ok.inj hrun
              exact ⟨rfl, rfl⟩
          · simp only [bind_eq_ok, ensure_eq_ok] at hrun
            obtain ⟨_, hholds, _⟩ := hrun
            have howner : state.job.executionToken = some token := by
              simpa [LockedImportState.ownsExecution] using hholds
            rw [(lockJob_eq hlock).1] at howner
            exact absurd howner hlost
      | eraseOwned payload env held =>
          obtain rfl : held = some token := hheld
          by_cases hterminal : st.job.status.terminal = true
          · refine ⟨eraseOwned_terminal h.valid hterminal hrun, ?_⟩
            simp only [ImportEvent.run, eraseOwnedImportSource] at hrun
            split at hrun
            · rw [(updateJob_ok hrun).2]
            · obtain rfl := Except.ok.inj hrun
              rfl
          · have hnot : ¬ (st.Names payload ∧
                (st.job.status.terminal = true ∨ st.job.OwnedBy (some token) env.now)) := by
              rintro ⟨_, hterminal' | hholds⟩
              · exact hterminal hterminal'
              · exact hlost hholds
            simp only [ImportEvent.run, eraseOwnedImportSource, if_neg hnot] at hrun
            obtain rfl := Except.ok.inj hrun
            exact ⟨rfl, rfl⟩

end Steps

/-! ## Runs -/

end LunchLineup.Imports
