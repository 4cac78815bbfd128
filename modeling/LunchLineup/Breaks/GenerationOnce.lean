import LunchLineup.Breaks.Generation
import LunchLineup.Lib.Run

/-!
# A generation settles once

The row of an idempotency key is settled by the holder of its current claim only: the
completing statement and the failing one both ask for the token on the row, and taking the
row over replaces that token by one that no earlier claim has (`Orderly.current`,
`Orderly.tokens`).  The debit names the row, and a row that has not succeeded has none
(`Orderly.charged`); so a completion pays, and pays once.

`GenerationMove` lists what a step can do to the rows and the claims.  Every clause of
`Orderly` is proved over that list, by `Orderly.move`.
-/

namespace LunchLineup.Breaks

open LunchLineup.Lib LunchLineup.Billing
open LunchLineup.Payroll (Problem problemOf given)

/-! ## Debits -/

theorem generationReason_injective {first second : String}
    (h : generationReason first = generationReason second) : first = second :=
  (String.append_right_inj _).mp ((String.append_left_inj _).mp h)

/-- The row pays for the generation. -/
def PaysFor (requestId : String) (row : CreditTransaction) : Prop :=
  row.amount < 0 ∧ row.reason = generationReason requestId

instance (requestId : String) : DecidablePred (PaysFor requestId) :=
  fun _ => inferInstanceAs (Decidable (_ ∧ _))

/-- The debits of a generation. -/
def debitsOf (billing : Store) (requestId : String) : List CreditTransaction :=
  billing.ledger.filter (PaysFor requestId ·)

theorem debitsOf_append {billing after : Store} {row : CreditTransaction} {requestId : String}
    (hledger : after.ledger = billing.ledger ++ [row]) :
    debitsOf after requestId = debitsOf billing requestId ++
      if PaysFor requestId row then [row] else [] := by
  rw [debitsOf, debitsOf, hledger, List.filter_append]
  by_cases hpays : PaysFor requestId row
  · simp [hpays]
  · simp [hpays]

/-- A foreign call leaves the debits of every generation alone. -/
theorem debitsOf_commit (isControl : Char → Bool) (billing : Store) {request : WalletRequest}
    (hforeign : ForeignToGeneration request.call) (requestId : String) :
    debitsOf (commit isControl billing request).2 requestId = debitsOf billing requestId := by
  rcases commit_cases isControl billing request with
    hsame | ⟨_, row, _, _, hrecorded, happlies⟩
  · rw [hsame]
  have hother : ¬ PaysFor requestId row := by
    rintro ⟨hdebit, hreason⟩
    cases hcall : request.call with
    | positiveSettlement args =>
        rw [hcall] at hrecorded
        exact absurd hdebit (not_lt.mpr hrecorded)
    | creditDebit args =>
        rw [hcall] at hrecorded hforeign
        exact hforeign requestId (hrecorded.symm.trans hreason)
    | featureDebit args =>
        rw [hcall] at hrecorded hforeign
        exact hforeign requestId (hrecorded.symm.trans hreason)
    | settlePositive args =>
        rw [hcall] at hrecorded
        exact absurd hdebit (not_lt.mpr hrecorded)
  rw [debitsOf_append happlies.ledger, if_neg hother, List.append_nil]

/-- The debit of a generation, as its response shows it. -/
structure Charges (requestId : String) (response : GenerationResponse) (debit : CreditTransaction) :
    Prop where
  id : debit.id = generationCreditId requestId
  pays : PaysFor requestId debit
  consumed : response.creditConsumption.consumedCredits = -debit.amount
  one : debit.amount = -1
  newBalance : some response.creditConsumption.newBalance = debit.balanceAfter

/-! ## What a step can do -/

/-- The last claim that was handed out for a row. -/
def GenerationDesk.currentHolder (desk : GenerationDesk) (requestId : String) : Option Holder :=
  (desk.holders.filter (·.claim.requestId = requestId)).getLast?

/-- What one step does to the rows, the claims and the debits. -/
inductive GenerationMove (desk : GenerationDesk) : GenerationDesk → Prop
  | kept (board : Board)
      (hdebits : ∀ requestId, debitsOf board.billing requestId =
        debitsOf desk.board.billing requestId) :
      GenerationMove desk { desk with board := board }
  | created (row : GenerationRequest) (holder : Holder)
      (hid : ∀ other ∈ desk.requests, other.id ≠ row.id)
      (hkey : ∀ other ∈ desk.requests, other.requestKeyHash ≠ row.requestKeyHash)
      (hstatus : row.status = .pending)
      (hclaim : holder.claim.requestId = row.id ∧ row.claimToken = some holder.claim.claimToken)
      (htoken : ∀ other ∈ desk.holders, other.claim.claimToken ≠ holder.claim.claimToken) :
      GenerationMove desk
        { desk with requests := desk.requests ++ [row], holders := desk.holders ++ [holder] }
  | reclaimed (call : GenerationCall) (holder : Holder)
      (hrow : ∃ row ∈ desk.requests,
        row.Reclaimable holder.claim.requestId holder.bodyHash call.now)
      (hclaim : holder.claim.claimToken = call.claimToken)
      (htoken : ∀ other ∈ desk.holders, other.claim.claimToken ≠ holder.claim.claimToken) :
      GenerationMove desk
        { desk with
          requests := desk.requests.map fun row =>
            if row.Reclaimable holder.claim.requestId holder.bodyHash call.now then
              row.reclaimed call else row
          holders := desk.holders ++ [holder] }
  | failed (claim : GenerationClaim) (failureStatus : Nat) :
      GenerationMove desk
        { desk with
          requests := desk.requests.map fun row =>
            if row.HeldBy claim then row.failed failureStatus else row }
  | completed (board : Board) (claim : GenerationClaim) (response : GenerationResponse)
      (debit : CreditTransaction) (hheld : ∃ row ∈ desk.requests, row.HeldBy claim)
      (hcharges : Charges claim.requestId response debit)
      (hledger : board.billing.ledger = desk.board.billing.ledger ++ [debit]) :
      GenerationMove desk
        { desk with
          board := board
          requests := desk.requests.map fun row =>
            if row.id = claim.requestId then row.succeeded response else row }

/-- The rows are distinct, each pending row is held under its own token, and exactly the
rows that succeeded are paid for. -/
structure Orderly (desk : GenerationDesk) : Prop where
  ids : (desk.requests.map (·.id)).Nodup
  keys : (desk.requests.map (·.requestKeyHash)).Nodup
  tokens : (desk.holders.map (·.claim.claimToken)).Nodup
  claimed : ∀ holder ∈ desk.holders, ∃ row ∈ desk.requests, row.id = holder.claim.requestId
  current : ∀ row ∈ desk.requests, row.status = .pending →
    ∃ holder, desk.currentHolder row.id = some holder ∧
      row.claimToken = some holder.claim.claimToken
  unpaid : ∀ requestId, (∀ row ∈ desk.requests, row.id = requestId → row.status ≠ .succeeded) →
    debitsOf desk.board.billing requestId = []
  charged : ∀ row ∈ desk.requests, row.status = .succeeded → ∃ response debit,
    row.response = some response ∧ debitsOf desk.board.billing row.id = [debit] ∧
      Charges row.id response debit

section Moves

variable {desk next : GenerationDesk}

/-- An update of rows that keeps their ids and keys. -/
structure KeepsKeys (f : GenerationRequest → GenerationRequest) : Prop where
  id : ∀ row, (f row).id = row.id
  requestKeyHash : ∀ row, (f row).requestKeyHash = row.requestKeyHash

theorem KeepsKeys.ids {f : GenerationRequest → GenerationRequest} (h : KeepsKeys f)
    (rows : List GenerationRequest) : (rows.map f).map (·.id) = rows.map (·.id) := by
  rw [List.map_map]
  exact List.map_congr_left fun row _ => h.id row

theorem KeepsKeys.keys {f : GenerationRequest → GenerationRequest} (h : KeepsKeys f)
    (rows : List GenerationRequest) :
    (rows.map f).map (·.requestKeyHash) = rows.map (·.requestKeyHash) := by
  rw [List.map_map]
  exact List.map_congr_left fun row _ => h.requestKeyHash row

theorem keepsKeys_reclaimed (call : GenerationCall) (id bodyHash : String) (now : Int) :
    KeepsKeys fun row => if row.Reclaimable id bodyHash now then row.reclaimed call else row := by
  constructor
  all_goals
    intro row
    split <;> rfl

theorem keepsKeys_failed (claim : GenerationClaim) (failureStatus : Nat) :
    KeepsKeys fun row => if row.HeldBy claim then row.failed failureStatus else row := by
  constructor
  all_goals
    intro row
    split <;> rfl

theorem keepsKeys_succeeded (requestId : String) (response : GenerationResponse) :
    KeepsKeys fun row => if row.id = requestId then row.succeeded response else row := by
  constructor
  all_goals
    intro row
    split <;> rfl

/-- A claim that is handed out is the current one of its row, and of no other. -/
theorem currentHolder_append (desk : GenerationDesk) (holder : Holder) (requestId : String) :
    ({ desk with holders := desk.holders ++ [holder] } : GenerationDesk).currentHolder requestId =
      if holder.claim.requestId = requestId then some holder
      else desk.currentHolder requestId := by
  unfold GenerationDesk.currentHolder
  by_cases hrow : holder.claim.requestId = requestId
  · simp [List.filter_append, hrow]
  · simp [List.filter_append, hrow]

/-- A row is found again after an update. -/
theorem exists_of_map {f : GenerationRequest → GenerationRequest} (hf : KeepsKeys f)
    {rows : List GenerationRequest} {requestId : String} (h : ∃ row ∈ rows, row.id = requestId) :
    ∃ row ∈ rows.map f, row.id = requestId := by
  obtain ⟨row, hrow, hid⟩ := h
  exact ⟨f row, List.mem_map_of_mem hrow, (hf.id row).trans hid⟩

theorem Orderly.kept (h : Orderly desk) {board : Board}
    (hdebits : ∀ requestId, debitsOf board.billing requestId =
      debitsOf desk.board.billing requestId) : Orderly { desk with board := board } := by
  refine ⟨h.ids, h.keys, h.tokens, h.claimed, h.current, ?_, ?_⟩
  · intro requestId hnone
    exact (hdebits requestId).trans (h.unpaid requestId hnone)
  · intro row hrow hstatus
    obtain ⟨response, debit, hresponse, hdebit, hcharges⟩ := h.charged row hrow hstatus
    exact ⟨response, debit, hresponse, (hdebits row.id).trans hdebit, hcharges⟩

theorem Orderly.created (h : Orderly desk) {row : GenerationRequest} {holder : Holder}
    (hid : ∀ other ∈ desk.requests, other.id ≠ row.id)
    (hkey : ∀ other ∈ desk.requests, other.requestKeyHash ≠ row.requestKeyHash)
    (hstatus : row.status = .pending)
    (hclaim : holder.claim.requestId = row.id ∧ row.claimToken = some holder.claim.claimToken)
    (htoken : ∀ other ∈ desk.holders, other.claim.claimToken ≠ holder.claim.claimToken) :
    Orderly { desk with
      requests := desk.requests ++ [row], holders := desk.holders ++ [holder] } := by
  refine ⟨nodup_keys_append h.ids hid, nodup_keys_append h.keys hkey,
    nodup_keys_append h.tokens htoken, ?_, ?_, ?_, ?_⟩
  · intro other hother
    rcases List.mem_append.mp hother with hother | hother
    · obtain ⟨found, hfound, heq⟩ := h.claimed other hother
      exact ⟨found, List.mem_append_left _ hfound, heq⟩
    · rw [List.mem_singleton.mp hother]
      exact ⟨row, by simp, hclaim.1.symm⟩
  · intro other hother hpending
    have hholder := currentHolder_append desk holder other.id
    rcases List.mem_append.mp hother with hother | hother
    · obtain ⟨current, hcurrent, htoken⟩ := h.current other hother hpending
      refine ⟨current, ?_, htoken⟩
      rw [← hcurrent]
      exact hholder.trans (if_neg fun heq => hid other hother (heq.symm.trans hclaim.1))
    · obtain rfl := List.mem_singleton.mp hother
      exact ⟨holder, hholder.trans (if_pos hclaim.1), hclaim.2⟩
  · intro requestId hnone
    exact h.unpaid requestId fun other hother => hnone other (List.mem_append_left _ hother)
  · intro other hother hsucceeded
    rcases List.mem_append.mp hother with hother | hother
    · exact h.charged other hother hsucceeded
    · rw [List.mem_singleton.mp hother, hstatus] at hsucceeded
      cases hsucceeded

/-- A row that is taken over has not succeeded. -/
theorem GenerationRequest.Reclaimable.not_succeeded {row : GenerationRequest}
    {id bodyHash : String} {now : Int} (h : row.Reclaimable id bodyHash now) :
    row.status ≠ .succeeded := by
  obtain ⟨_, _, hfailed | ⟨hpending, _⟩⟩ := h
  · simp [hfailed]
  · simp [hpending]

theorem Orderly.reclaimed (h : Orderly desk) {call : GenerationCall} {holder : Holder}
    (hrow : ∃ row ∈ desk.requests,
      row.Reclaimable holder.claim.requestId holder.bodyHash call.now)
    (hclaim : holder.claim.claimToken = call.claimToken)
    (htoken : ∀ other ∈ desk.holders, other.claim.claimToken ≠ holder.claim.claimToken) :
    Orderly { desk with
      requests := desk.requests.map fun row =>
        if row.Reclaimable holder.claim.requestId holder.bodyHash call.now then
          row.reclaimed call else row
      holders := desk.holders ++ [holder] } := by
  have hkeeps := keepsKeys_reclaimed call holder.claim.requestId holder.bodyHash call.now
  obtain ⟨taken, htaken, hreclaimable⟩ := hrow
  refine ⟨?_, ?_, nodup_keys_append h.tokens htoken, ?_, ?_, ?_, ?_⟩
  · rw [hkeeps.ids]
    exact h.ids
  · rw [hkeeps.keys]
    exact h.keys
  · intro other hother
    refine exists_of_map hkeeps ?_
    rcases List.mem_append.mp hother with hother | hother
    · exact h.claimed other hother
    · rw [List.mem_singleton.mp hother]
      exact ⟨taken, htaken, hreclaimable.1⟩
  · intro other hother hpending
    obtain ⟨old, hold, rfl⟩ := List.mem_map.mp hother
    have hholder := currentHolder_append desk holder old.id
    by_cases htakes : old.Reclaimable holder.claim.requestId holder.bodyHash call.now
    · rw [if_pos htakes]
      refine ⟨holder, hholder.trans (if_pos htakes.1.symm), ?_⟩
      exact congrArg some hclaim.symm
    · rw [if_neg htakes] at hpending ⊢
      obtain ⟨current, hcurrent, htoken⟩ := h.current old hold hpending
      refine ⟨current, ?_, htoken⟩
      rw [← hcurrent]
      refine hholder.trans (if_neg fun heq => htakes ?_)
      -- the claimed row has this id, so it is this row
      rw [eq_of_key h.ids hold htaken (heq.symm.trans hreclaimable.1.symm)]
      exact hreclaimable
  · intro requestId hnone
    refine h.unpaid requestId fun old hold hid hsucceeded => ?_
    have hkept : ¬ old.Reclaimable holder.claim.requestId holder.bodyHash call.now :=
      fun htakes => htakes.not_succeeded hsucceeded
    have hnew := hnone _ (List.mem_map_of_mem hold)
    rw [if_neg hkept] at hnew
    exact hnew hid hsucceeded
  · intro other hother hsucceeded
    obtain ⟨old, hold, rfl⟩ := List.mem_map.mp hother
    by_cases htakes : old.Reclaimable holder.claim.requestId holder.bodyHash call.now
    · rw [if_pos htakes] at hsucceeded
      cases hsucceeded
    · rw [if_neg htakes] at hsucceeded ⊢
      exact h.charged old hold hsucceeded

theorem Orderly.failed (h : Orderly desk) (claim : GenerationClaim) (failureStatus : Nat) :
    Orderly { desk with
      requests := desk.requests.map fun row =>
        if row.HeldBy claim then row.failed failureStatus else row } := by
  have hkeeps := keepsKeys_failed claim failureStatus
  refine ⟨?_, ?_, h.tokens, ?_, ?_, ?_, ?_⟩
  · rw [hkeeps.ids]
    exact h.ids
  · rw [hkeeps.keys]
    exact h.keys
  · intro other hother
    exact exists_of_map hkeeps (h.claimed other hother)
  · intro other hother hpending
    obtain ⟨old, hold, rfl⟩ := List.mem_map.mp hother
    by_cases hheld : old.HeldBy claim
    · rw [if_pos hheld] at hpending
      cases hpending
    · rw [if_neg hheld] at hpending ⊢
      exact h.current old hold hpending
  · intro requestId hnone
    refine h.unpaid requestId fun old hold hid hsucceeded => ?_
    have hkept : ¬ old.HeldBy claim := fun hheld => by simp [hheld.2.1] at hsucceeded
    have hnew := hnone _ (List.mem_map_of_mem hold)
    rw [if_neg hkept] at hnew
    exact hnew hid hsucceeded
  · intro other hother hsucceeded
    obtain ⟨old, hold, rfl⟩ := List.mem_map.mp hother
    by_cases hheld : old.HeldBy claim
    · rw [if_pos hheld] at hsucceeded
      cases hsucceeded
    · rw [if_neg hheld] at hsucceeded ⊢
      exact h.charged old hold hsucceeded

/-- The debits of a row that is held. -/
theorem Orderly.unpaid_of_held (h : Orderly desk) {claim : GenerationClaim}
    (hheld : ∃ row ∈ desk.requests, row.HeldBy claim) :
    debitsOf desk.board.billing claim.requestId = [] := by
  obtain ⟨row, hrow, hid, hpending, _⟩ := hheld
  refine h.unpaid claim.requestId fun other hother heq hsucceeded => ?_
  obtain rfl := eq_of_key h.ids hother hrow (heq.trans hid.symm)
  cases hpending.symm.trans hsucceeded

theorem Orderly.completed (h : Orderly desk) {board : Board} {claim : GenerationClaim}
    {response : GenerationResponse} {debit : CreditTransaction}
    (hheld : ∃ row ∈ desk.requests, row.HeldBy claim)
    (hcharges : Charges claim.requestId response debit)
    (hledger : board.billing.ledger = desk.board.billing.ledger ++ [debit]) :
    Orderly { desk with
      board := board
      requests := desk.requests.map fun row =>
        if row.id = claim.requestId then row.succeeded response else row } := by
  have hkeeps := keepsKeys_succeeded claim.requestId response
  -- the new debit is one of this row and of no other
  have hdebits : ∀ requestId, debitsOf board.billing requestId =
      if requestId = claim.requestId then [debit] else debitsOf desk.board.billing requestId := by
    intro requestId
    rw [debitsOf_append hledger]
    by_cases heq : requestId = claim.requestId
    · rw [heq, h.unpaid_of_held hheld, if_pos hcharges.pays, if_pos rfl, List.nil_append]
    · have hother : ¬ PaysFor requestId debit := fun hpays =>
        heq (generationReason_injective (hpays.2.symm.trans hcharges.pays.2))
      rw [if_neg hother, if_neg heq, List.append_nil]
  refine ⟨?_, ?_, h.tokens, ?_, ?_, ?_, ?_⟩
  · rw [hkeeps.ids]
    exact h.ids
  · rw [hkeeps.keys]
    exact h.keys
  · intro other hother
    exact exists_of_map hkeeps (h.claimed other hother)
  · intro other hother hpending
    obtain ⟨old, hold, rfl⟩ := List.mem_map.mp hother
    by_cases hid : old.id = claim.requestId
    · rw [if_pos hid] at hpending
      cases hpending
    · rw [if_neg hid] at hpending ⊢
      exact h.current old hold hpending
  · intro requestId hnone
    obtain ⟨held, hmem, hid, _⟩ := hheld
    have hne : requestId ≠ claim.requestId := by
      rintro rfl
      have hnew := hnone _ (List.mem_map_of_mem hmem)
      rw [if_pos hid] at hnew
      exact hnew hid rfl
    refine ((hdebits requestId).trans (if_neg hne)).trans (h.unpaid requestId ?_)
    intro old hold heq
    have hnew := hnone _ (List.mem_map_of_mem hold)
    rw [if_neg (heq.symm ▸ hne)] at hnew
    exact hnew heq
  · intro other hother hsucceeded
    obtain ⟨old, hold, rfl⟩ := List.mem_map.mp hother
    by_cases hid : old.id = claim.requestId
    · rw [if_pos hid]
      refine ⟨response, debit, rfl, (hdebits old.id).trans (if_pos hid), ?_⟩
      change Charges old.id response debit
      rw [hid]
      exact hcharges
    · rw [if_neg hid] at hsucceeded ⊢
      obtain ⟨stored, paid, hstored, hpaid, hshown⟩ := h.charged old hold hsucceeded
      exact ⟨stored, paid, hstored, ((hdebits old.id).trans (if_neg hid)).trans hpaid, hshown⟩

theorem Orderly.move (h : Orderly desk) (hmove : GenerationMove desk next) : Orderly next := by
  cases hmove with
  | kept board hdebits => exact h.kept hdebits
  | created row holder hid hkey hstatus hclaim htoken =>
      exact h.created hid hkey hstatus hclaim htoken
  | reclaimed call holder hrow hclaim htoken => exact h.reclaimed hrow hclaim htoken
  | failed claim failureStatus => exact h.failed claim failureStatus
  | completed board claim response debit hheld hcharges hledger =>
      exact h.completed hheld hcharges hledger

end Moves

/-! ## The transactions -/

section Transactions

variable {service : GenerationService} {desk next : GenerationDesk} {call : GenerationCall}
  {digests : GenerationDigests} {isControl : Char → Bool}

/-- A claiming transaction answers from the row it read, inserts a row, or takes the row
over that it read. -/
inductive ClaimStep (desk : GenerationDesk) (call : GenerationCall) (digests : GenerationDigests) :
    GenerationDesk → Prop
  | answered : ClaimStep desk call digests desk
  | created (hid : ∀ other ∈ desk.requests, other.id ≠ call.requestId)
      (hkey : ∀ other ∈ desk.requests, other.requestKeyHash ≠ digests.keyHash) :
      ClaimStep desk call digests
        { desk with
          requests := desk.requests ++ [call.newRow digests]
          holders := desk.holders ++ [⟨⟨call.requestId, call.claimToken⟩, digests.bodyHash⟩] }
  | reclaimed (id : String)
      (hrow : ∃ row ∈ desk.requests, row.Reclaimable id digests.bodyHash call.now) :
      ClaimStep desk call digests
        { desk with
          requests := desk.requests.map fun row =>
            if row.Reclaimable id digests.bodyHash call.now then row.reclaimed call else row
          holders := desk.holders ++ [⟨⟨id, call.claimToken⟩, digests.bodyHash⟩] }

theorem GenerationDesk.claimGeneration_ok {seen : Option GenerationRequest} {allowCreate : Bool}
    {answer : ClaimAnswer}
    (h : desk.claimGeneration call digests seen allowCreate = .ok (answer, next)) :
    ClaimStep desk call digests next := by
  unfold GenerationDesk.claimGeneration at h
  split at h
  · simp only [GenerationDesk.create, bind_eq_ok, ensure_eq_ok] at h
    obtain ⟨_, _, created, ⟨_, hid, _, hkey, hcreated⟩, h⟩ := h
    obtain rfl := Except.ok.inj hcreated
    obtain ⟨_, rfl⟩ := Prod.mk.inj (Except.ok.inj h)
    exact .created hid hkey
  · rename_i existing
    obtain ⟨_, _, h⟩ := bind_eq_ok.mp h
    split at h
    · split at h
      · cases h
      · obtain ⟨_, rfl⟩ := Prod.mk.inj (Except.ok.inj h)
        exact .answered
    · simp only [bind_eq_ok, ensure_eq_ok] at h
      obtain ⟨_, _, _, _, _, hrow, h⟩ := h
      obtain ⟨_, rfl⟩ := Prod.mk.inj (Except.ok.inj h)
      exact .reclaimed existing.id hrow

theorem ClaimStep.move (h : ClaimStep desk call digests next)
    (htoken : ∀ holder ∈ desk.holders, holder.claim.claimToken ≠ call.claimToken) :
    next = desk ∨ GenerationMove desk next := by
  cases h with
  | answered => exact .inl rfl
  | created hid hkey => exact .inr (.created _ _ hid hkey rfl ⟨rfl, rfl⟩ htoken)
  | reclaimed id hrow =>
      exact .inr (.reclaimed call ⟨⟨id, call.claimToken⟩, digests.bodyHash⟩ hrow rfl htoken)

theorem Board.persistGeneratedBreaks_billing {board written : Board} {completion : Completion}
    {prepared : PreparedGeneration}
    (h : board.persistGeneratedBreaks completion prepared = .ok written) :
    written.billing = board.billing := by
  simp only [Board.persistGeneratedBreaks, Board.incrementDraftRevisions, bind_eq_ok,
    ensure_eq_ok] at h
  obtain ⟨_, _, _, _, _, _, _, _, h⟩ := h
  rw [← Except.ok.inj h]

/-- A completion settles the row of its claim and pays for it. -/
structure Completes (desk : GenerationDesk) (holder : Holder) (response : GenerationResponse)
    (next : GenerationDesk) : Prop where
  held : ∃ row ∈ desk.requests, row.HeldBy holder.claim ∧ row.requestHash = holder.bodyHash
  charge : ∃ debit, Charges holder.claim.requestId response debit ∧
    next.board.billing.ledger = desk.board.billing.ledger ++ [debit]
  requests : next.requests = desk.requests.map fun row =>
    if row.id = holder.claim.requestId then row.succeeded response else row
  holders : next.holders = desk.holders

theorem GenerationService.completeGeneration_ok (horderly : Orderly desk) {holder : Holder}
    {prepared : PreparedGeneration} {completion : Completion} {response : GenerationResponse}
    (h : service.completeGeneration desk holder prepared completion = .ok (response, next)) :
    Completes desk holder response next := by
  simp only [GenerationService.completeGeneration, bind_eq_ok, ensure_eq_ok] at h
  obtain ⟨_, _, _, hheld, _, _, _, _, ⟨settlement, billing⟩, hdebit, board, hboard, h⟩ := h
  obtain ⟨rfl, rfl⟩ := Prod.mk.inj (Except.ok.inj h)
  rw [mapError_eq_ok] at hdebit
  obtain ⟨debit, hid, _, hreason, hcost, hdebt, hcases⟩ := debitFeatureCredit_cases hdebit
  have hone : debit.amount = -1 := by
    have hcost : (1 : Int) = -debit.amount := JsNumber.integer.inj hcost
    omega
  have hpays : PaysFor holder.claim.requestId debit := ⟨by omega, hreason⟩
  have hbilling : board.billing = billing := by
    split at hboard
    · exact Board.persistGeneratedBreaks_billing hboard
    · rw [← Except.ok.inj hboard]
  have hunpaid := horderly.unpaid_of_held (hheld.imp fun row hrow => ⟨hrow.1, hrow.2.1⟩)
  rcases hcases with hreplays | ⟨wallet, happlies⟩
  · -- the debit of a pending row cannot be there
    have hmem : debit ∈ debitsOf desk.board.billing holder.claim.requestId :=
      List.mem_filter.mpr ⟨hreplays.recorded, by simpa using hpays⟩
    rw [hunpaid] at hmem
    cases hmem
  · obtain ⟨hconsumed, _, hbalance⟩ := happlies.reports
    refine ⟨hheld, ⟨debit, ⟨hid, hpays, hconsumed, hone, hbalance⟩, ?_⟩, rfl, rfl⟩
    rw [hbilling]
    exact happlies.ledger

theorem Completes.move {holder : Holder} {response : GenerationResponse}
    (h : Completes desk holder response next) : GenerationMove desk next := by
  obtain ⟨hheld, ⟨debit, hcharges, hledger⟩, hrequests, hholders⟩ := h
  obtain ⟨board, requests, holders⟩ := next
  obtain rfl := hrequests
  obtain rfl := hholders
  exact .completed board holder.claim response debit
    (hheld.imp fun row hrow => ⟨hrow.1, hrow.2.1⟩) hcharges hledger

/-- Every step of an orderly state is a move. -/
theorem GenerationService.step_move (service : GenerationService) (isControl : Char → Bool)
    {st : GenerationState} (horderly : Orderly st.toGenerationDesk) (event : GenerationEvent) :
    (service.step isControl st event).2.toGenerationDesk = st.toGenerationDesk ∨
      GenerationMove st.toGenerationDesk (service.step isControl st event).2.toGenerationDesk := by
  have hsettle : ∀ (fate : Payroll.Fate) (outcome : GenerationOutcome) {next : GenerationDesk},
      next = st.toGenerationDesk ∨ GenerationMove st.toGenerationDesk next →
        (st.settle fate outcome next).2.toGenerationDesk = st.toGenerationDesk ∨
          GenerationMove st.toGenerationDesk (st.settle fate outcome next).2.toGenerationDesk := by
    intro fate outcome next hnext
    cases fate with
    | acknowledged => exact hnext
    | unacknowledged => exact hnext
    | rolledBack => exact .inl rfl
  cases event with
  | read call =>
      simp only [GenerationService.step]
      split <;> exact .inl rfl
  | claim call seen allowCreate fate =>
      simp only [GenerationService.step]
      split
      · rename_i hdraws
        split
        · exact .inl rfl
        split
        · exact .inl rfl
        · rename_i hclaim
          exact hsettle fate _ ((GenerationDesk.claimGeneration_ok hclaim).move hdraws.2.1)
      · exact .inl rfl
  | complete holder prepared completion fate =>
      simp only [GenerationService.step]
      split
      · split
        · exact .inl rfl
        · rename_i hcompletes
          exact hsettle fate _
            (.inr (GenerationService.completeGeneration_ok horderly hcompletes).move)
      · exact .inl rfl
  | fail holder failureStatus =>
      simp only [GenerationService.step, GenerationDesk.failGeneration]
      split
      · split
        · exact .inr (.failed holder.claim failureStatus)
        · exact .inl rfl
      · exact .inl rfl
  | recover call =>
      simp only [GenerationService.step]
      split
      · exact .inl rfl
      · split <;> exact .inl rfl
  | others shifts schedules locations users policy =>
      exact .inr (.kept _ fun _ => rfl)
  | wallet request hforeign =>
      exact .inr (.kept _ fun requestId =>
        debitsOf_commit isControl st.board.billing hforeign requestId)

theorem Orderly.step {st : GenerationState} (h : Orderly st.toGenerationDesk)
    (service : GenerationService) (isControl : Char → Bool) (event : GenerationEvent) :
    Orderly (service.step isControl st event).2.toGenerationDesk := by
  rcases service.step_move isControl h event with hsame | hmove
  · rw [hsame]
    exact h
  · exact h.move hmove

/-! ## Success is final -/

theorem Orderly.move_keeps_succeeded (h : Orderly desk) (hmove : GenerationMove desk next)
    {row : GenerationRequest} (hrow : row ∈ desk.requests) (hsucceeded : row.status = .succeeded) :
    row ∈ next.requests := by
  cases hmove with
  | kept board _ => exact hrow
  | created new holder _ _ _ _ _ => exact List.mem_append_left _ hrow
  | reclaimed call holder _ _ _ =>
      have hkept : ¬ row.Reclaimable holder.claim.requestId holder.bodyHash call.now :=
        fun htakes => htakes.not_succeeded hsucceeded
      exact List.mem_map.mpr ⟨row, hrow, if_neg hkept⟩
  | failed claim failureStatus =>
      have hkept : ¬ row.HeldBy claim := fun hheld => by simp [hheld.2.1] at hsucceeded
      exact List.mem_map.mpr ⟨row, hrow, if_neg hkept⟩
  | completed board claim response debit hheld _ _ =>
      obtain ⟨held, hmem, hid, hpending, _⟩ := hheld
      refine List.mem_map.mpr ⟨row, hrow, if_neg fun heq => ?_⟩
      obtain rfl := eq_of_key h.ids hrow hmem (heq.trans hid.symm)
      cases hpending.symm.trans hsucceeded

theorem Orderly.step_keeps_succeeded {st : GenerationState} (h : Orderly st.toGenerationDesk)
    (event : GenerationEvent) {row : GenerationRequest} (hrow : row ∈ st.requests)
    (hsucceeded : row.status = .succeeded) :
    row ∈ (service.step isControl st event).2.requests := by
  rcases service.step_move isControl h event with hsame | hmove
  · rw [hsame]
    exact hrow
  · exact h.move_keeps_succeeded hmove hrow hsucceeded

theorem Orderly.final_keeps_succeeded {st : GenerationState} (h : Orderly st.toGenerationDesk)
    (events : List GenerationEvent) {row : GenerationRequest} (hrow : row ∈ st.requests)
    (hsucceeded : row.status = .succeeded) :
    Orderly (final (service.step isControl) st events).toGenerationDesk ∧
      row ∈ (final (service.step isControl) st events).requests :=
  invariant_final (fun st : GenerationState => Orderly st.toGenerationDesk ∧ row ∈ st.requests)
    (fun _ event hkept => ⟨hkept.1.step service isControl event,
      hkept.1.step_keeps_succeeded event hkept.2 hsucceeded⟩) ⟨h, hrow⟩ events

theorem Orderly.findUnique_eq (h : Orderly desk) {row : GenerationRequest}
    (hrow : row ∈ desk.requests) : desk.findUnique row.requestKeyHash = some row :=
  find?_key h.keys hrow

/-! ## Only the current holder settles -/

/-- The holder of a row's token is the current one. -/
theorem Orderly.currentHolder_eq (h : Orderly desk) {row : GenerationRequest}
    (hrow : row ∈ desk.requests) {holder : Holder} (hholder : holder ∈ desk.holders)
    (hheld : row.HeldBy holder.claim) : desk.currentHolder row.id = some holder := by
  obtain ⟨_, hpending, htoken⟩ := hheld
  obtain ⟨current, hcurrent, htoken'⟩ := h.current row hrow hpending
  have hmem : current ∈ desk.holders := (List.mem_filter.mp (List.mem_of_getLast? hcurrent)).1
  have hsame : holder.claim.claimToken = current.claim.claimToken :=
    Option.some.inj (htoken.symm.trans htoken')
  rw [eq_of_key h.tokens hholder hmem hsame]
  exact hcurrent

/-- The row that an update left of a row is the one with its id. -/
theorem eq_update_of_id {f : GenerationRequest → GenerationRequest} (hf : KeepsKeys f)
    {rows : List GenerationRequest} (hids : (rows.map (·.id)).Nodup) {old new : GenerationRequest}
    (hold : old ∈ rows) (hnew : new ∈ rows.map f) (heq : new.id = old.id) : new = f old := by
  obtain ⟨row, hrow, rfl⟩ := List.mem_map.mp hnew
  rw [eq_of_key hids hrow hold ((hf.id row).symm.trans heq)]

/-- The event settles a row by the given holder. -/
def GenerationEvent.SettlesBy (holder : Holder) (event : GenerationEvent) : Prop :=
  (∃ prepared completion fate, event = .complete holder prepared completion fate) ∨
    ∃ failureStatus, event = .fail holder failureStatus

/-- A claim leaves a pending row pending. -/
theorem ClaimStep.pending (hstep : ClaimStep desk call digests next) (h : Orderly desk)
    {old new : GenerationRequest} (hold : old ∈ desk.requests) (hnew : new ∈ next.requests)
    (heq : new.id = old.id) (hpending : old.status = .pending) : new.status = .pending := by
  have hsame : new ∈ desk.requests → new.status = .pending := by
    intro hmem
    rw [eq_of_key h.ids hmem hold heq]
    exact hpending
  cases hstep with
  | answered => exact hsame hnew
  | created hid hkey =>
      rcases List.mem_append.mp hnew with hnew | hnew
      · exact hsame hnew
      · rw [List.mem_singleton.mp hnew]
        rfl
  | reclaimed id hrow =>
      rw [eq_update_of_id (keepsKeys_reclaimed _ _ _ _) h.ids hold hnew heq]
      split
      · rfl
      · exact hpending

theorem Orderly.settledBy {st : GenerationState} (h : Orderly st.toGenerationDesk)
    {event : GenerationEvent} {old new : GenerationRequest} (hold : old ∈ st.requests)
    (hnew : new ∈ (service.step isControl st event).2.requests) (heq : new.id = old.id)
    (hpending : old.status = .pending) (hsettled : new.status ≠ .pending) :
    ∃ holder, st.currentHolder old.id = some holder ∧ old.HeldBy holder.claim ∧
      event.SettlesBy holder := by
  have hsame : new ∉ st.requests := by
    intro hmem
    rw [eq_of_key h.ids hmem hold heq] at hsettled
    exact hsettled hpending
  cases event with
  | read call =>
      simp only [GenerationService.step] at hnew
      split at hnew <;> exact absurd hnew hsame
  | claim call seen allowCreate fate =>
      simp only [GenerationService.step] at hnew
      split at hnew
      · split at hnew
        · exact absurd hnew hsame
        split at hnew
        · exact absurd hnew hsame
        · rename_i answer next hclaim
          have hkept : new ∈ next.requests → False := fun hmem =>
            hsettled ((GenerationDesk.claimGeneration_ok hclaim).pending h hold hmem heq hpending)
          cases fate with
          | acknowledged => exact (hkept hnew).elim
          | unacknowledged => exact (hkept hnew).elim
          | rolledBack => exact absurd hnew hsame
      · exact absurd hnew hsame
  | complete holder prepared completion fate =>
      simp only [GenerationService.step] at hnew
      split at hnew
      · rename_i hholder
        split at hnew
        · exact absurd hnew hsame
        · rename_i response next hrun
          have hcompletes := GenerationService.completeGeneration_ok h hrun
          have hby : new ∈ next.requests → old.HeldBy holder.claim := by
            intro hmem
            rw [hcompletes.requests] at hmem
            have hupdate := eq_update_of_id (keepsKeys_succeeded _ _) h.ids hold hmem heq
            obtain ⟨held, hheld, hby, _⟩ := hcompletes.held
            by_cases hid : old.id = holder.claim.requestId
            · rw [eq_of_key h.ids hold hheld (hid.trans hby.1.symm)]
              exact hby
            · rw [if_neg hid] at hupdate
              exact absurd (hupdate ▸ hold) hsame
          have hanswer : old.HeldBy holder.claim → ∃ current, st.currentHolder old.id = some current ∧
              old.HeldBy current.claim ∧
              (GenerationEvent.complete holder prepared completion fate).SettlesBy current :=
            fun hheld => ⟨holder, h.currentHolder_eq hold hholder hheld, hheld,
              .inl ⟨prepared, completion, fate, rfl⟩⟩
          cases fate with
          | acknowledged => exact hanswer (hby hnew)
          | unacknowledged => exact hanswer (hby hnew)
          | rolledBack => exact absurd hnew hsame
      · exact absurd hnew hsame
  | fail holder failureStatus =>
      simp only [GenerationService.step, GenerationDesk.failGeneration] at hnew
      split at hnew
      · rename_i hholder
        split at hnew
        · have hupdate := eq_update_of_id (keepsKeys_failed _ _) h.ids hold hnew heq
          by_cases hheld : old.HeldBy holder.claim
          · exact ⟨holder, h.currentHolder_eq hold hholder hheld, hheld,
              .inr ⟨failureStatus, rfl⟩⟩
          · rw [if_neg hheld] at hupdate
            exact absurd (hupdate ▸ hold) hsame
        · exact absurd hnew hsame
      · exact absurd hnew hsame
  | recover call =>
      simp only [GenerationService.step] at hnew
      split at hnew
      · exact absurd hnew hsame
      · split at hnew <;> exact absurd hnew hsame
  | others shifts schedules locations users policy => exact absurd hnew hsame
  | wallet request hforeign => exact absurd hnew hsame

/-! ## Answers after success -/

/-- A call with the key and the body of a row that succeeded is answered with its response,
whatever has happened since it read the row. -/
theorem GenerationDesk.claimGeneration_succeeded {row : GenerationRequest}
    {response : GenerationResponse} (hsucceeded : row.status = .succeeded)
    (hresponse : row.response = some response) (hbody : digests.bodyHash = row.requestHash)
    (allowCreate : Bool) : desk.claimGeneration call digests (some row) allowCreate =
      .ok (.response { response with reused := true }, desk) := by
  unfold GenerationDesk.claimGeneration
  simp only [hsucceeded, hresponse, ensure_of_true _ hbody.symm, ok_bind, if_true]

theorem GenerationDesk.claimGeneration_conflict {row : GenerationRequest}
    (hbody : digests.bodyHash ≠ row.requestHash) (allowCreate : Bool) :
    desk.claimGeneration call digests (some row) allowCreate =
      .error (.problem 409 "idempotency_conflict") := by
  unfold GenerationDesk.claimGeneration
  simp only [ensure, if_neg hbody.symm, error_bind]

theorem Orderly.recoverGeneration_succeeded (h : Orderly desk) {row : GenerationRequest}
    {response : GenerationResponse} (hrow : row ∈ desk.requests)
    (hsucceeded : row.status = .succeeded) (hresponse : row.response = some response) :
    desk.recoverGeneration ⟨row.requestKeyHash, row.requestHash⟩ =
      some { response with reused := true } := by
  unfold GenerationDesk.recoverGeneration
  simp only [h.findUnique_eq hrow, hsucceeded, hresponse, and_self, if_true, Option.map_some]

end Transactions

/-! ## Runs -/

/-- A desk at which nothing has been generated yet. -/
structure OpeningDesk where
  board : Board
  noDebits : ∀ row ∈ board.billing.ledger, ∀ requestId, ¬ PaysFor requestId row

/-- The state of an opening desk. -/
def OpeningDesk.toState (start : OpeningDesk) : GenerationState where
  board := start.board
  requests := []
  holders := []
  reads := []

theorem OpeningDesk.orderly (start : OpeningDesk) : Orderly start.toState.toGenerationDesk := by
  refine ⟨List.nodup_nil, List.nodup_nil, List.nodup_nil, ?_, ?_, ?_, ?_⟩
  · simp [OpeningDesk.toState]
  · simp [OpeningDesk.toState]
  · intro requestId _
    refine List.filter_eq_nil_iff.mpr fun row hrow => ?_
    simpa using start.noDebits row hrow requestId
  · simp [OpeningDesk.toState]

/-- The step is a completion for the given key that changes breaks or pays. -/
def SettlesKey (keyHash : String)
    (t : Transition GenerationState GenerationEvent GenerationOutcome) : Prop :=
  ∃ holder prepared completion fate, t.request = .complete holder prepared completion fate ∧
    (∃ row ∈ t.before.requests,
      row.id = holder.claim.requestId ∧ row.requestKeyHash = keyHash) ∧
    t.after.board ≠ t.before.board

/-- The row of the key has succeeded. -/
def GenerationDesk.HasSucceeded (desk : GenerationDesk) (keyHash : String) : Prop :=
  ∃ row ∈ desk.requests, row.requestKeyHash = keyHash ∧ row.status = .succeeded

/-- What a committed completion leaves of its row. -/
theorem Completes.settled {desk next : GenerationDesk} {holder : Holder}
    {response : GenerationResponse} (h : Completes desk holder response next) :
    ∃ row ∈ next.requests, row.id = holder.claim.requestId ∧ row.status = .succeeded ∧
      row.response = some response ∧ row.requestHash = holder.bodyHash := by
  obtain ⟨held, hheld, hby, hbody⟩ := h.held
  rw [h.requests]
  exact ⟨held.succeeded response, List.mem_map.mpr ⟨held, hheld, if_pos hby.1⟩, hby.1, rfl, rfl,
    hbody⟩

theorem Orderly.settlesKey_enters {service : GenerationService} {isControl : Char → Bool}
    {st : GenerationState} (h : Orderly st.toGenerationDesk) {keyHash : String}
    {event : GenerationEvent}
    (hsettles : SettlesKey keyHash (transition (service.step isControl) st event)) :
    ¬ st.HasSucceeded keyHash ∧ (service.step isControl st event).2.HasSucceeded keyHash := by
  obtain ⟨holder, prepared, completion, fate, rfl, ⟨row, hrow, hid, hkey⟩, hchanged⟩ := hsettles
  simp only [transition, GenerationService.step] at hrow hchanged ⊢
  split at hchanged
  · rename_i hholder
    rw [if_pos hholder]
    split at hchanged
    · exact absurd rfl hchanged
    · rename_i response next hrun
      have hcompletes := GenerationService.completeGeneration_ok h hrun
      obtain ⟨held, hheld, hby, _⟩ := hcompletes.held
      obtain rfl := eq_of_key h.ids hrow hheld (hid.trans hby.1.symm)
      refine ⟨?_, ?_⟩
      · rintro ⟨other, hother, hother_key, hsucceeded⟩
        obtain rfl := eq_of_key h.keys hother hrow (hother_key.trans hkey.symm)
        cases hby.2.1.symm.trans hsucceeded
      · have hnext : next.HasSucceeded keyHash := by
          refine ⟨row.succeeded response, ?_, hkey, rfl⟩
          rw [hcompletes.requests]
          exact List.mem_map.mpr ⟨row, hrow, if_pos hid⟩
        cases fate with
        | acknowledged => exact hnext
        | unacknowledged => exact hnext
        | rolledBack => exact absurd rfl hchanged
  · exact absurd rfl hchanged

/-- What a caller with the key of a row that succeeded with the given response learns. -/
structure AnswersAlike (desk : GenerationDesk) (row : GenerationRequest)
    (response : GenerationResponse) : Prop where
  found : desk.findUnique row.requestKeyHash = some row
  claim : ∀ (later : GenerationDesk) (call : GenerationCall) (allowCreate : Bool),
    later.claimGeneration call ⟨row.requestKeyHash, row.requestHash⟩ (some row) allowCreate =
      .ok (.response { response with reused := true }, later)
  recover : desk.recoverGeneration ⟨row.requestKeyHash, row.requestHash⟩ =
    some { response with reused := true }
  otherBody : ∀ (later : GenerationDesk) (call : GenerationCall) (allowCreate : Bool)
    (bodyHash : String), bodyHash ≠ row.requestHash →
    later.claimGeneration call ⟨row.requestKeyHash, bodyHash⟩ (some row) allowCreate =
      .error (.problem 409 "idempotency_conflict")

theorem Orderly.answersAlike {desk : GenerationDesk} (h : Orderly desk) {row : GenerationRequest}
    {response : GenerationResponse} (hrow : row ∈ desk.requests)
    (hsucceeded : row.status = .succeeded) (hresponse : row.response = some response) :
    AnswersAlike desk row response where
  found := h.findUnique_eq hrow
  claim _ _ allowCreate :=
    GenerationDesk.claimGeneration_succeeded hsucceeded hresponse rfl allowCreate
  recover := h.recoverGeneration_succeeded hrow hsucceeded hresponse
  otherBody _ _ allowCreate _ hbody := GenerationDesk.claimGeneration_conflict hbody allowCreate

/-- The debits of the rows: one for each row that succeeded, as its response shows it, and
no other. -/
structure PaidOnce (desk : GenerationDesk) : Prop where
  keys : (desk.requests.map (·.requestKeyHash)).Nodup
  tokens : (desk.holders.map (·.claim.claimToken)).Nodup
  counted : ∀ row ∈ desk.requests, (debitsOf desk.board.billing row.id).length =
    if row.status = .succeeded then 1 else 0
  owned : ∀ requestId, debitsOf desk.board.billing requestId ≠ [] →
    ∃ row ∈ desk.requests, row.id = requestId ∧ row.status = .succeeded

theorem Orderly.paidOnce {desk : GenerationDesk} (h : Orderly desk) : PaidOnce desk := by
  refine ⟨h.keys, h.tokens, ?_, ?_⟩
  · intro row hrow
    by_cases hsucceeded : row.status = .succeeded
    · obtain ⟨_, debit, _, hdebits, _⟩ := h.charged row hrow hsucceeded
      rw [hdebits, if_pos hsucceeded]
      rfl
    · have hunpaid := h.unpaid row.id fun other hother hid => by
        rw [eq_of_key h.ids hother hrow hid]
        exact hsucceeded
      rw [hunpaid, if_neg hsucceeded]
      rfl
  · intro requestId hdebits
    by_contra hnone
    push Not at hnone
    exact hdebits (h.unpaid requestId hnone)

/-- In every run of any number of calls: every key is paid for at most once, and exactly
where its row succeeded; at most one step changes breaks or pays for a key; a row that
succeeded stays as it is and answers every later call of its key and body with the stored
response, whose charge is that of the debit; a pending row is settled by the holder of its
current claim only; and a completion that commits leaves its response on its row. -/
theorem generation_settles_once (service : GenerationService) (isControl : Char → Bool)
    (start : OpeningDesk) (events : List GenerationEvent) :
    PaidOnce (final (service.step isControl) start.toState events).toGenerationDesk ∧
      (∀ keyHash, (trace (service.step isControl) start.toState events).Pairwise fun t t' =>
        ¬ (SettlesKey keyHash t ∧ SettlesKey keyHash t')) ∧
      (∀ row ∈ (final (service.step isControl) start.toState events).requests,
        row.status = .succeeded → ∃ response debit, row.response = some response ∧
          debitsOf (final (service.step isControl) start.toState events).board.billing row.id =
            [debit] ∧
          Charges row.id response debit ∧
          ∀ more, row ∈ (final (service.step isControl) start.toState (events ++ more)).requests ∧
            AnswersAlike
              (final (service.step isControl) start.toState (events ++ more)).toGenerationDesk
              row response) ∧
      (∀ t ∈ trace (service.step isControl) start.toState events,
        ∀ old ∈ t.before.requests, ∀ new ∈ t.after.requests, new.id = old.id →
          old.status = .pending → new.status ≠ .pending →
          ∃ holder, t.before.currentHolder old.id = some holder ∧ old.HeldBy holder.claim ∧
            t.request.SettlesBy holder) ∧
      ∀ t ∈ trace (service.step isControl) start.toState events,
        ∀ holder prepared completion fate response, fate ≠ .rolledBack →
          t.request = .complete holder prepared completion fate → holder ∈ t.before.holders →
          (∃ next, service.completeGeneration t.before.toGenerationDesk holder prepared completion =
            .ok (response, next)) →
          ∃ row ∈ t.after.requests, row.id = holder.claim.requestId ∧ row.status = .succeeded ∧
            row.response = some response ∧ row.requestHash = holder.bodyHash := by
  have hstep : ∀ (st : GenerationState) (event : GenerationEvent), Orderly st.toGenerationDesk →
      Orderly (service.step isControl st event).2.toGenerationDesk :=
    fun _ event h => h.step service isControl event
  have hfinal := invariant_final (fun st : GenerationState => Orderly st.toGenerationDesk) hstep
    start.orderly events
  refine ⟨hfinal.paidOnce, ?_, ?_, ?_, ?_⟩
  · intro keyHash
    refine pairwise_trace_of_entering (fun st : GenerationState => Orderly st.toGenerationDesk)
      (fun st : GenerationState => st.HasSucceeded keyHash) (SettlesKey keyHash) hstep ?_
      (fun _ _ h hsettles => h.settlesKey_enters hsettles) start.orderly events
    rintro st event h ⟨row, hrow, hkey, hsucceeded⟩
    exact ⟨row, h.step_keeps_succeeded event hrow hsucceeded, hkey, hsucceeded⟩
  · intro row hrow hsucceeded
    obtain ⟨response, debit, hresponse, hdebits, hcharges⟩ := hfinal.charged row hrow hsucceeded
    refine ⟨response, debit, hresponse, hdebits, hcharges, ?_⟩
    intro more
    rw [final_append]
    obtain ⟨hlater, hkept⟩ := hfinal.final_keeps_succeeded more hrow hsucceeded
    exact ⟨hkept, hlater.answersAlike hkept hsucceeded hresponse⟩
  · intro t ht old hold new hnew heq hpending hsettled
    obtain ⟨h, hstep_eq⟩ := invariant_of_mem_trace
      (fun st : GenerationState => Orderly st.toGenerationDesk) hstep start.orderly ht
    rw [hstep_eq] at hnew
    exact h.settledBy hold hnew heq hpending hsettled
  · rintro t ht holder prepared completion fate response hfate hrequest hholder ⟨next, hrun⟩
    obtain ⟨h, hstep_eq⟩ := invariant_of_mem_trace
      (fun st : GenerationState => Orderly st.toGenerationDesk) hstep start.orderly ht
    have hcompletes := GenerationService.completeGeneration_ok h hrun
    rw [hstep_eq, hrequest]
    simp only [transition, GenerationService.step, if_pos hholder, hrun]
    cases fate with
    | acknowledged => exact hcompletes.settled
    | unacknowledged => exact hcompletes.settled
    | rolledBack => exact absurd rfl hfate

/-! ## A slow owner -/

namespace Slow

/-- The service, with digests that keep the key and forget the body. -/
def service : GenerationService := ⟨"tenant-1", id, fun _ => "body"⟩

/-- An empty board and five credits. -/
def start : OpeningDesk where
  board := ⟨[], [], [], [], none, [], ⟨[("tenant-1", ⟨5, 0⟩)], []⟩⟩
  noDebits := by simp

/-- A call with one manual shift, under the given random ids. -/
def call (requestId claimToken : String) (now : Int) : GenerationCall where
  idempotencyKey := some "generate-1"
  body := ⟨none, none, none,
    some [⟨none, none, none, "2026-07-09T09:00:00Z", "2026-07-09T17:00:00Z", none⟩], none, false⟩
  requestId := requestId
  claimToken := claimToken
  now := now
  authorised := true

/-- The result of the call, and what the completing transaction meets. -/
def prepared : PreparedGeneration := ⟨none, .standalone, false, defaultPolicy, [], []⟩

def completion : Completion := ⟨true, true, fun _ => true, 0, fun _ => "break"⟩

/-- The first owner claims and is slow; the second takes the row over when the claim has
expired, and completes. -/
def events : List GenerationEvent :=
  [.read (call "request-1" "token-1" 0),
    .claim (call "request-1" "token-1" 0) none true .acknowledged,
    .read (call "request-2" "token-2" 120000),
    .claim (call "request-2" "token-2" 120000)
      (some ((call "request-1" "token-1" 0).newRow ⟨"generate-1", "body"⟩)) true .acknowledged,
    .complete ⟨⟨"request-1", "token-2"⟩, "body"⟩ prepared completion .unacknowledged,
    .complete ⟨⟨"request-1", "token-1"⟩, "body"⟩ prepared completion .acknowledged]

/-- The first owner is refused, and one credit is paid. -/
example :
    ((trace (service.step fun _ => false) start.toState events).map (·.answer)).getLast? =
        some (.refused (.problem 409 "generation_claim_expired")) ∧
      ((final (service.step fun _ => false) start.toState events).board.billing.wallet?
        "tenant-1").map (·.usageCredits) = some 4 := by
  decide +kernel

end Slow

end LunchLineup.Breaks
