import LunchLineup.Scheduling.MutationRuns

/-!
# One key, one request

A receipt is found under the hash of the key, and given again where the hash of the request
is that of the receipt.  So a key stands for one request if two requests have one hash
exactly where they are the same: `requests_identified`.  The three services hash objects with
different keys, so that no body of one is a body of another; within one service the order of
the keys of a body does not matter, at any depth, and nothing else is left open.

As in payroll, `sha256` is assumed to have no collisions, and `localeCompare` to order
distinct keys.
-/

namespace LunchLineup.Scheduling

open LunchLineup.Lib LunchLineup.Idempotency

/-- The same command, with a body that is equal up to the order of keys. -/
inductive SameCommand : ScheduleCommand → ScheduleCommand → Prop
  | changeSet {body other : JsonValue} (h : Tree.Reordered body.val other.val) :
      SameCommand (.changeSet body) (.changeSet other)
  | replaceDemand {body other : JsonValue} (h : Tree.Reordered body.val other.val) :
      SameCommand (.replaceDemand body) (.replaceDemand other)
  | reopen : SameCommand .reopen .reopen

section Requests

variable {service : SchedulingService} {call other : ScheduleCall} {prepared : PreparedCall}

theorem proper_scheduleHashed (call : ScheduleCall) : call.hashed.Proper Leaf.IsJson := by
  unfold ScheduleCall.hashed
  cases call.command with
  | changeSet body =>
      have hkeys : [unitsOf "schedulePublicId", unitsOf "body"].Nodup := by decide +kernel
      refine .obj hkeys fun member hmember => ?_
      simp only [List.mem_cons, List.not_mem_nil, or_false] at hmember
      rcases hmember with rfl | rfl
      · exact proper_textValue _
      · exact body.property
  | replaceDemand body =>
      have hkeys : [unitsOf "operation", unitsOf "schedulePublicId", unitsOf "body"].Nodup := by
        decide +kernel
      refine .obj hkeys fun member hmember => ?_
      simp only [List.mem_cons, List.not_mem_nil, or_false] at hmember
      rcases hmember with rfl | rfl | rfl
      · exact proper_textValue _
      · exact proper_textValue _
      · exact body.property
  | reopen =>
      have hkeys : [unitsOf "operation", unitsOf "schedulePublicId"].Nodup := by decide +kernel
      refine .obj hkeys fun member hmember => ?_
      simp only [List.mem_cons, List.not_mem_nil, or_false] at hmember
      rcases hmember with rfl | rfl
      · exact proper_textValue _
      · exact proper_textValue _

/-- The keys of the object tell the services apart. -/
theorem hashed_keys (call : ScheduleCall) : call.hashed.keys =
    match call.command with
    | .changeSet _ => [unitsOf "schedulePublicId", unitsOf "body"]
    | .replaceDemand _ => [unitsOf "operation", unitsOf "schedulePublicId", unitsOf "body"]
    | .reopen => [unitsOf "operation", unitsOf "schedulePublicId"] := by
  unfold ScheduleCall.hashed
  cases call.command with
  | changeSet body => rfl
  | replaceDemand body => rfl
  | reopen => rfl

theorem textValue_unitsOf_inj (rule : Arrangement Units) {first second : String}
    (h : Tree.Reordered (textValue (unitsOf first)) (textValue (unitsOf second))) :
    first = second :=
  unitsOf_injective (Leaf.string.inj (h.leaf_inj rule (proper_textValue _)))

/-- The hashed objects are equal up to the order of keys where the requests are. -/
theorem reordered_scheduleHashed (rule : Arrangement Units) :
    Tree.Reordered call.hashed other.hashed ↔
      call.schedulePublicId = other.schedulePublicId ∧ SameCommand call.command other.command := by
  obtain ⟨publicId, command, ifMatch, key, actor⟩ := call
  obtain ⟨publicId', command', ifMatch', key', actor'⟩ := other
  constructor
  · intro h
    have hkeys := h.keys_perm
    rw [hashed_keys, hashed_keys] at hkeys
    have hproper := proper_scheduleHashed ⟨publicId, command, ifMatch, key, actor⟩
    cases command with
    | changeSet body =>
        cases command' with
        | changeSet body' =>
            refine ⟨?_, .changeSet (h.value_of_mem rule hproper (.tail _ (.head _))
              (.tail _ (.head _)))⟩
            exact textValue_unitsOf_inj rule (h.value_of_mem rule hproper (.head _) (.head _))
        | replaceDemand body' => cases hkeys.length_eq
        | reopen =>
            have hnone : ¬ [unitsOf "schedulePublicId", unitsOf "body"].Perm
                [unitsOf "operation", unitsOf "schedulePublicId"] := by decide +kernel
            exact absurd hkeys hnone
    | replaceDemand body =>
        cases command' with
        | changeSet body' => cases hkeys.length_eq
        | replaceDemand body' =>
            refine ⟨?_, .replaceDemand (h.value_of_mem rule hproper
              (.tail _ (.tail _ (.head _))) (.tail _ (.tail _ (.head _))))⟩
            exact textValue_unitsOf_inj rule
              (h.value_of_mem rule hproper (.tail _ (.head _)) (.tail _ (.head _)))
        | reopen => cases hkeys.length_eq
    | reopen =>
        cases command' with
        | changeSet body' =>
            have hnone : ¬ [unitsOf "operation", unitsOf "schedulePublicId"].Perm
                [unitsOf "schedulePublicId", unitsOf "body"] := by decide +kernel
            exact absurd hkeys hnone
        | replaceDemand body' => cases hkeys.length_eq
        | reopen =>
            refine ⟨?_, .reopen⟩
            exact textValue_unitsOf_inj rule
              (h.value_of_mem rule hproper (.tail _ (.head _)) (.tail _ (.head _)))
  · rintro ⟨hid, hcommand⟩
    have hid : publicId = publicId' := hid
    subst hid
    cases hcommand with
    | changeSet h => exact .value [_] [] _ h
    | replaceDemand h => exact .value [_, _] [] _ h
    | reopen => exact .refl _

/-- Two calls have one request hash exactly where they are one request, and one key hash
exactly where they have one key. -/
theorem requests_identified (hcompare : TotalCompare service.localeCompare)
    (hsha256 : Function.Injective service.sha256) {prepared' : PreparedCall}
    (h : service.prepare call = .ok prepared) (h' : service.prepare other = .ok prepared') :
    (prepared.requestHash = prepared'.requestHash ↔
        call.schedulePublicId = other.schedulePublicId ∧
          SameCommand call.command other.command) ∧
      (prepared.keyHash = prepared'.keyHash ↔
        requireIdempotencyKey call.idempotencyKey = requireIdempotencyKey other.idempotencyKey) := by
  obtain ⟨_, hhash, key, hkey, hkeyHash⟩ := prepare_eq_ok h
  obtain ⟨_, hhash', key', hkey', hkeyHash'⟩ := prepare_eq_ok h'
  constructor
  · calc
      prepared.requestHash = prepared'.requestHash
        ↔ requestHash service.sha256 service.localeCompare call.hashed =
            requestHash service.sha256 service.localeCompare other.hashed := by
          rw [hhash, hhash', Option.some.injEq]
      _ ↔ canonicalJson service.localeCompare call.hashed =
            canonicalJson service.localeCompare other.hashed := hash_iff hsha256 _ _
      _ ↔ Tree.Reordered call.hashed other.hashed :=
          canonicalJson_iff hcompare (proper_scheduleHashed call) (proper_scheduleHashed other)
      _ ↔ _ := reordered_scheduleHashed (payrollOrder hcompare)
  · rw [hkeyHash, hkeyHash', hsha256.eq_iff, hkey, hkey', Except.ok.injEq]

end Requests

/-- A reopening and a change set of one week are two requests. -/
theorem reopening_is_no_change_set : ∃ prepared prepared',
    Sample.scheduling.prepare Sample.reopening = .ok prepared ∧
      Sample.scheduling.prepare Sample.changing = .ok prepared' ∧
        prepared.requestHash ≠ prepared'.requestHash := by
  have hreopening : (Sample.scheduling.prepare Sample.reopening).isOk = true := by decide +kernel
  have hchanging : (Sample.scheduling.prepare Sample.changing).isOk = true := by decide +kernel
  cases h : Sample.scheduling.prepare Sample.reopening with
  | error problem =>
      rw [h] at hreopening
      cases hreopening
  | ok prepared =>
      cases h' : Sample.scheduling.prepare Sample.changing with
      | error problem =>
          rw [h'] at hchanging
          cases hchanging
      | ok prepared' =>
          refine ⟨prepared, prepared', rfl, rfl, fun hsame => ?_⟩
          obtain ⟨_, hcommand⟩ := (requests_identified Idempotency.Sample.totalCompare
            Sample.digest.injective h h').1.mp hsame
          cases hcommand

end LunchLineup.Scheduling
