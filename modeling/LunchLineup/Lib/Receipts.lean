import LunchLineup.Lib.Run
import LunchLineup.Lib.Table

/-!
# Receipts

A client that hears nothing sends its command again, and the command must act once.  The
server keeps a receipt of every command that it carried out, under the key that the client
chose and with a hash of the request, and looks a command up before it acts (`lookUp`).

Nothing is asked of the hashes here, and nothing of what a command does.  A step of the
server keeps the receipts or adds one under a new key (`Recording`); from that alone keys
stay distinct, receipts stay, and one step in a run adds the receipt of a key.
-/

namespace LunchLineup.Lib

variable {Key Hash Response : Type*}

/-- What is left of a command that was carried out. -/
structure Receipt (Key Hash Response : Type*) where
  key : Key
  requestHash : Hash
  response : Response
  deriving DecidableEq

/-- What a look-up finds: nothing, the response of the same request, a receipt of another
request, or a response that cannot be given again. -/
inductive Replay (Response : Type*)
  | fresh
  | recorded (response : Response)
  | reused
  | unavailable
  deriving DecidableEq

section LookUp

variable [DecidableEq Key] [DecidableEq Hash] {fits : Response → Bool}
  {receipts : List (Receipt Key Hash Response)} {key : Key} {hash : Hash}

def lookUp (fits : Response → Bool) (receipts : List (Receipt Key Hash Response)) (key : Key)
    (hash : Hash) : Replay Response :=
  match receipts.find? (·.key = key) with
  | none => .fresh
  | some receipt =>
      if receipt.requestHash ≠ hash then .reused
      else if fits receipt.response = true then .recorded receipt.response
      else .unavailable

theorem lookUp_eq_fresh :
    lookUp fits receipts key hash = .fresh ↔ ∀ receipt ∈ receipts, receipt.key ≠ key := by
  unfold lookUp
  cases hfind : receipts.find? (·.key = key) with
  | none => simpa using hfind
  | some receipt =>
      have hmem := List.mem_of_find?_eq_some hfind
      have hkey : receipt.key = key := by simpa using List.find?_some hfind
      refine iff_of_false ?_ fun h => h receipt hmem hkey
      simp only
      split_ifs <;> simp

/-- Under a key with a receipt, the receipt decides. -/
theorem lookUp_of_mem (hkeys : (receipts.map (·.key)).Nodup) {receipt : Receipt Key Hash Response}
    (h : receipt ∈ receipts) :
    lookUp fits receipts receipt.key hash =
      if receipt.requestHash ≠ hash then .reused
      else if fits receipt.response = true then .recorded receipt.response
      else .unavailable := by
  have hfind : receipts.find? (·.key = receipt.key) = some receipt := find?_key hkeys h
  rw [lookUp, hfind]

/-- A response that is given again is that of a receipt with the key and the hash. -/
theorem mem_of_lookUp {response : Response}
    (h : lookUp fits receipts key hash = .recorded response) :
    ∃ receipt ∈ receipts, receipt.key = key ∧ receipt.requestHash = hash ∧
      receipt.response = response := by
  unfold lookUp at h
  cases hfind : receipts.find? (·.key = key) with
  | none => simp [hfind] at h
  | some receipt =>
      have hmem := List.mem_of_find?_eq_some hfind
      have hkey : receipt.key = key := by simpa using List.find?_some hfind
      rw [hfind] at h
      simp only at h
      split_ifs at h with hhash hfits
      exact ⟨receipt, hmem, hkey, by simpa using hhash, Replay.recorded.inj h⟩

end LookUp

/-! ## Steps and runs -/

/-- What a step does to the receipts. -/
inductive Recording (receipts : List (Receipt Key Hash Response)) :
    List (Receipt Key Hash Response) → Prop
  | kept : Recording receipts receipts
  | added (receipt : Receipt Key Hash Response)
      (hfresh : ∀ other ∈ receipts, other.key ≠ receipt.key) :
      Recording receipts (receipts ++ [receipt])

namespace Recording

variable {receipts next : List (Receipt Key Hash Response)}

theorem nodup_keys (h : Recording receipts next) (hkeys : (receipts.map (·.key)).Nodup) :
    (next.map (·.key)).Nodup := by
  cases h with
  | kept => exact hkeys
  | added receipt hfresh => exact nodup_keys_append hkeys hfresh

theorem mem (h : Recording receipts next) {receipt : Receipt Key Hash Response}
    (hmem : receipt ∈ receipts) : receipt ∈ next := by
  cases h with
  | kept => exact hmem
  | added receipt hfresh => exact List.mem_append_left _ hmem

end Recording

section Runs

variable {State Request Answer : Type*} {step : State → Request → Answer × State}
  {receiptsOf : State → List (Receipt Key Hash Response)}

/-- A receipt is there under the key. -/
def HasReceipt (receiptsOf : State → List (Receipt Key Hash Response)) (key : Key)
    (state : State) : Prop := ∃ receipt ∈ receiptsOf state, receipt.key = key

/-- The step adds the receipt of the key. -/
def AddsReceipt (receiptsOf : State → List (Receipt Key Hash Response)) (key : Key)
    (t : Transition State Request Answer) : Prop :=
  ¬ HasReceipt receiptsOf key t.before ∧ HasReceipt receiptsOf key t.after

/-- A receipt with a new key that a step appends is a receipt that it adds. -/
theorem addsReceipt_of_append {before after : State} (request : Request) (answer : Answer)
    (receipt : Receipt Key Hash Response)
    (hfresh : ∀ other ∈ receiptsOf before, other.key ≠ receipt.key)
    (hadded : receiptsOf after = receiptsOf before ++ [receipt]) :
    AddsReceipt receiptsOf receipt.key ⟨before, request, answer, after⟩ := by
  refine ⟨?_, receipt, ?_, rfl⟩
  · rintro ⟨other, hother, hkey⟩
    exact hfresh other hother hkey
  · rw [hadded]
    exact List.mem_append_right _ (List.mem_singleton_self receipt)

variable {Inv : State → Prop} (hinv : ∀ state request, Inv state → Inv (step state request).2)
  (hstep : ∀ state request, Inv state →
    Recording (receiptsOf state) (receiptsOf (step state request).2))

include hinv hstep

/-- One step of a run adds the receipt of a key. -/
theorem pairwise_addsReceipt (key : Key) {state : State} (hinit : Inv state)
    (requests : List Request) :
    (trace step state requests).Pairwise fun t t' =>
      ¬ (AddsReceipt receiptsOf key t ∧ AddsReceipt receiptsOf key t') := by
  refine pairwise_trace_of_entering Inv (HasReceipt receiptsOf key)
    (AddsReceipt receiptsOf key) hinv ?_ (fun _ _ _ h => h) hinit requests
  rintro state request hstate ⟨receipt, hmem, hkey⟩
  exact ⟨receipt, (hstep state request hstate).mem hmem, hkey⟩

end Runs

end LunchLineup.Lib
