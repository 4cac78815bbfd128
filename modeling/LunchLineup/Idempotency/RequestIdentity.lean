import LunchLineup.Idempotency.CanonicalJson

/-!
# Requests that are one request

The hashes under which a retry is recognised: `requestHash` of scheduling, and
`payrollRequestIdentity`, whose hash covers the tenant, the actor, the operation and the
body.  Two JSON values have one canonical text in either form exactly where they are
equal up to the order of keys, so two requests have one hash exactly where their bodies
are, and in payroll the tenant, the actor and the operation besides.

`sha256` is the hash of the UTF-8 bytes of a text, in hex; that it has no collisions is
assumed, and so is that `localeCompare` orders distinct keys.
-/

namespace LunchLineup.Idempotency

open LunchLineup.Lib

/-! ## The hashes -/

inductive PayrollOperationName where
  | policyCreate
  | periodCreate
  | adopt
  | review
  | approval
  | lock
  | amendmentCreate
  | amendmentDecision
  | export
  | reconcile
  deriving DecidableEq

def PayrollOperationName.text : PayrollOperationName → String
  | .policyCreate => "POLICY_CREATE"
  | .periodCreate => "PERIOD_CREATE"
  | .adopt => "ADOPT"
  | .review => "REVIEW"
  | .approval => "APPROVAL"
  | .lock => "LOCK"
  | .amendmentCreate => "AMENDMENT_CREATE"
  | .amendmentDecision => "AMENDMENT_DECISION"
  | .export => "EXPORT"
  | .reconcile => "RECONCILE"

/-- `operation.toLowerCase().replace(/_/g, '-')`. -/
def PayrollOperationName.dashed (operation : PayrollOperationName) : String :=
  String.ofList (operation.text.toList.map fun c => if c = '_' then '-' else c.toLower)

/-- The arguments of `payrollRequestIdentity`. -/
structure PayrollRequest where
  tenantId : Units
  actorUserId : Units
  operation : PayrollOperationName
  idempotencyKey : Units
  body : JsValue

def textValue (text : Units) : JsValue := .leaf (.string text)

def operationValue (operation : PayrollOperationName) : JsValue :=
  textValue (unitsOf operation.text)

/-- `scope` of `payrollRequestIdentity`. -/
def PayrollRequest.scope (request : PayrollRequest) : JsValue :=
  .obj [(unitsOf "actorUserId", textValue request.actorUserId),
    (unitsOf "idempotencyKey", textValue request.idempotencyKey),
    (unitsOf "operation", operationValue request.operation),
    (unitsOf "tenantId", textValue request.tenantId)]

/-- What the request hash is taken of. -/
def PayrollRequest.hashed (request : PayrollRequest) : JsValue :=
  .obj [(unitsOf "actorUserId", textValue request.actorUserId),
    (unitsOf "body", request.body),
    (unitsOf "operation", operationValue request.operation),
    (unitsOf "tenantId", textValue request.tenantId)]

structure PayrollIdentity where
  operationId : String
  requestHash : String
  deriving DecidableEq

section

variable (sha256 : String → String) (localeCompare : Units → Units → Int)

/-- `canonicalSha256`: the hash refuses a value without a text. -/
def canonicalSha256 (value : JsValue) : Option String :=
  (stringify (canonicalJsonValue localeCompare value)).map fun text => sha256 (String.ofList text)

def payrollRequestIdentity (request : PayrollRequest) : Option PayrollIdentity := do
  let scopeHash ← canonicalSha256 sha256 localeCompare request.scope
  let requestHash ← canonicalSha256 sha256 localeCompare request.hashed
  return ⟨"payroll-" ++ request.operation.dashed ++ "-" ++ scopeHash, requestHash⟩

/-- `requestHash` of scheduling. -/
def requestHash (value : JsValue) : Option String :=
  (canonicalJson localeCompare value).map fun text => sha256 (String.ofList text)

end

/-! ## The hashed object of a payroll request -/

theorem operationValue_inj {first second : PayrollOperationName}
    (h : operationValue first = operationValue second) : first = second := by
  have h := Leaf.string.inj (Tree.leaf.inj h)
  cases first <;> cases second <;> first | rfl | exact absurd h (by decide +kernel)

theorem proper_textValue (text : Units) : (textValue text).Proper Leaf.IsJson := .leaf trivial

theorem proper_hashed {request : PayrollRequest} (h : request.body.Proper Leaf.IsJson) :
    request.hashed.Proper Leaf.IsJson := by
  refine .obj ?_ ?_
  · have hkeys : [unitsOf "actorUserId", unitsOf "body", unitsOf "operation",
        unitsOf "tenantId"].Nodup := by decide +kernel
    exact hkeys
  · intro member hmember
    simp only [List.mem_cons, List.not_mem_nil, or_false] at hmember
    rcases hmember with rfl | rfl | rfl | rfl
    · exact proper_textValue _
    · exact h
    · exact proper_textValue _
    · exact proper_textValue _

/-- The hashed objects are equal up to the order of keys where their parts are. -/
theorem reordered_hashed (rule : Arrangement Units) {first second : PayrollRequest}
    (hfirst : first.body.Proper Leaf.IsJson) :
    Tree.Reordered first.hashed second.hashed ↔
      first.tenantId = second.tenantId ∧ first.actorUserId = second.actorUserId ∧
        first.operation = second.operation ∧ Tree.Reordered first.body second.body := by
  constructor
  · intro h
    have hproper := proper_hashed hfirst
    have htenant : Tree.Reordered (textValue first.tenantId) (textValue second.tenantId) :=
      Tree.Reordered.value_of_mem rule hproper h (.tail _ (.tail _ (.tail _ (.head _))))
        (.tail _ (.tail _ (.tail _ (.head _))))
    have hactor : Tree.Reordered (textValue first.actorUserId) (textValue second.actorUserId) :=
      Tree.Reordered.value_of_mem rule hproper h (.head _) (.head _)
    have hoperation :
        Tree.Reordered (operationValue first.operation) (operationValue second.operation) :=
      Tree.Reordered.value_of_mem rule hproper h (.tail _ (.tail _ (.head _)))
        (.tail _ (.tail _ (.head _)))
    have hbody : Tree.Reordered first.body second.body :=
      Tree.Reordered.value_of_mem rule hproper h (.tail _ (.head _)) (.tail _ (.head _))
    refine ⟨?_, ?_, ?_, hbody⟩
    · exact Leaf.string.inj (htenant.leaf_inj rule (proper_textValue _))
    · exact Leaf.string.inj (hactor.leaf_inj rule (proper_textValue _))
    · exact operationValue_inj (congrArg Tree.leaf (hoperation.leaf_inj rule (proper_textValue _)))
  · rintro ⟨htenant, hactor, hoperation, hbody⟩
    rw [PayrollRequest.hashed, PayrollRequest.hashed, htenant, hactor, hoperation]
    exact .value [_] _ _ hbody

/-! ## One text, one hash -/

section

variable {localeCompare : Units → Units → Int} {sha256 : String → String}

/-- The text that `canonicalSha256` hashes. -/
theorem stringify_canonical (hcompare : TotalCompare localeCompare) {value : JsValue}
    (h : value.Proper Leaf.IsJson) :
    stringify (canonicalJsonValue localeCompare value) =
      some (Tree.text jsonWriter (value.arranged (payrollOrder hcompare))) := by
  rw [canonicalJsonValue_eq hcompare h, stringify_eq (h.arranged _)]

theorem stringify_canonical_iff (hcompare : TotalCompare localeCompare) {first second : JsValue}
    (hfirst : first.Proper Leaf.IsJson) (hsecond : second.Proper Leaf.IsJson) :
    stringify (canonicalJsonValue localeCompare first) =
        stringify (canonicalJsonValue localeCompare second) ↔ Tree.Reordered first second := by
  rw [stringify_canonical hcompare hfirst, stringify_canonical hcompare hsecond, Option.some_inj,
    Tree.text_arranged_iff jsonWriter _ hfirst hsecond]

theorem canonicalJson_iff (hcompare : TotalCompare localeCompare) {first second : JsValue}
    (hfirst : first.Proper Leaf.IsJson) (hsecond : second.Proper Leaf.IsJson) :
    canonicalJson localeCompare first = canonicalJson localeCompare second ↔
      Tree.Reordered first second := by
  rw [canonicalJson_eq hcompare hfirst, canonicalJson_eq hcompare hsecond, Option.some_inj,
    Tree.text_arranged_iff jsonWriter _ hfirst hsecond]

/-- Without collisions, one hash is the hash of one text. -/
theorem hash_iff (hsha256 : Function.Injective sha256) (first second : Option (List Char)) :
    (first.map fun text => sha256 (String.ofList text)) =
        (second.map fun text => sha256 (String.ofList text)) ↔ first = second := by
  have hinjective : Function.Injective fun text => sha256 (String.ofList text) :=
    hsha256.comp fun _ _ h => String.ofList_injective h
  exact (Option.map_injective hinjective).eq_iff

/-- The scope of a request has a text, so the identity has the hash of the request. -/
theorem payrollRequestIdentity_hash (hcompare : TotalCompare localeCompare)
    (request : PayrollRequest) :
    (payrollRequestIdentity sha256 localeCompare request).map PayrollIdentity.requestHash =
      canonicalSha256 sha256 localeCompare request.hashed := by
  have hscope : request.scope.Proper Leaf.IsJson := by
    refine .obj ?_ ?_
    · have hkeys : [unitsOf "actorUserId", unitsOf "idempotencyKey", unitsOf "operation",
          unitsOf "tenantId"].Nodup := by decide +kernel
      exact hkeys
    · intro member hmember
      simp only [List.mem_cons, List.not_mem_nil, or_false] at hmember
      rcases hmember with rfl | rfl | rfl | rfl <;> exact proper_textValue _
  rw [payrollRequestIdentity, canonicalSha256, stringify_canonical hcompare hscope]
  cases canonicalSha256 sha256 localeCompare request.hashed <;> rfl

end

/-! ## A retry is recognised, a change is not -/

/-- Two JSON values have one text in either canonical form, and one request hash, exactly
where they are equal up to the order of keys; two payroll requests have one hash exactly
where their bodies are and they agree on the tenant, the actor and the operation. -/
theorem canonicalJson_identifies {localeCompare : Units → Units → Int}
    (hcompare : TotalCompare localeCompare) {sha256 : String → String}
    (hsha256 : Function.Injective sha256) :
    (∀ first second : JsonValue,
      (stringify (canonicalJsonValue localeCompare first) =
          stringify (canonicalJsonValue localeCompare second) ↔
        Tree.Reordered first.val second.val) ∧
      (canonicalJson localeCompare first = canonicalJson localeCompare second ↔
        Tree.Reordered first.val second.val) ∧
      (requestHash sha256 localeCompare first = requestHash sha256 localeCompare second ↔
        Tree.Reordered first.val second.val)) ∧
    ∀ first second : PayrollRequest, first.body.Proper Leaf.IsJson →
      second.body.Proper Leaf.IsJson →
      ((payrollRequestIdentity sha256 localeCompare first).map PayrollIdentity.requestHash =
          (payrollRequestIdentity sha256 localeCompare second).map PayrollIdentity.requestHash ↔
        first.tenantId = second.tenantId ∧ first.actorUserId = second.actorUserId ∧
          first.operation = second.operation ∧ Tree.Reordered first.body second.body) := by
  refine ⟨fun first second => ⟨?_, ?_, ?_⟩, fun first second hfirst hsecond => ?_⟩
  · exact stringify_canonical_iff hcompare first.property second.property
  · exact canonicalJson_iff hcompare first.property second.property
  · rw [requestHash, requestHash, hash_iff hsha256]
    exact canonicalJson_iff hcompare first.property second.property
  · rw [payrollRequestIdentity_hash hcompare, payrollRequestIdentity_hash hcompare,
      canonicalSha256, canonicalSha256, hash_iff hsha256,
      stringify_canonical_iff hcompare (proper_hashed hfirst) (proper_hashed hsecond)]
    exact reordered_hashed (payrollOrder hcompare) hfirst

namespace Sample

/-- Keys of ASCII letters by their code units, which is how `localeCompare` orders lower
case. -/
def localeCompare (left right : Units) : Int :=
  if left.map UInt16.toNat < right.map UInt16.toNat then -1
  else if right.map UInt16.toNat < left.map UInt16.toNat then 1
  else 0

theorem totalCompare : TotalCompare localeCompare := by
  have hneg : ∀ left right, localeCompare left right < 0 ↔
      left.map UInt16.toNat < right.map UInt16.toNat := by
    intro left right
    unfold localeCompare
    split_ifs with hlt <;> simp [hlt]
  refine ⟨?_, ?_, ?_⟩
  · intro first second
    rw [hneg]
    unfold localeCompare
    split_ifs with hsecond hfirst
    · simp [hsecond.not_gt]
    · simp [hfirst]
    · simp [hfirst]
  · intro first second third
    rw [hneg, hneg, hneg]
    exact lt_trans
  · intro first second hzero
    unfold localeCompare at hzero
    rcases lt_trichotomy (first.map UInt16.toNat) (second.map UInt16.toNat) with hlt | hsame | hlt
    · rw [if_pos hlt] at hzero
      exact absurd hzero (by decide)
    · exact List.map_injective_iff.mpr (fun _ _ => UInt16.toNat_inj.mp) hsame
    · rw [if_neg hlt.not_gt, if_pos hlt] at hzero
      exact absurd hzero (by decide)

/-- The hashes of three texts; other texts take the places of these. -/
def sha256 : Equiv.Perm String :=
  Equiv.swap "\x7b\"a\":[true],\"b\":1\x7d"
      "708747538ba81fd60b5aac8c646370de5e24abf70ab1872f67458a5a4f3af05d" *
    Equiv.swap
      ("\x7b\"actorUserId\":\"u\",\"body\":\x7b\"a\":[true],\"b\":1\x7d," ++
        "\"operation\":\"LOCK\",\"tenantId\":\"t\"\x7d")
      "a271d60efe994c38ff7dc473ecc92103fa51e67a7d7a5744a491ae9857d20434" *
    Equiv.swap
      ("\x7b\"actorUserId\":\"u\",\"idempotencyKey\":\"k\"," ++
        "\"operation\":\"LOCK\",\"tenantId\":\"t\"\x7d")
      "4e3a32821b69668d42307c2302338780041bf14048c02537ce8af950e4e8cc07"

def one : JsValue := .leaf (.number ⟨false, 1, 1, .inl (by decide)⟩)

def two : JsValue := .leaf (.number ⟨false, 2, 1, .inl (by decide)⟩)

def truth : JsValue := .arr [.leaf (.boolean true)]

def body : JsValue := .obj [(unitsOf "a", truth), (unitsOf "b", one)]

/-- The same with its keys in another order. -/
def retried : JsValue := .obj [(unitsOf "b", one), (unitsOf "a", truth)]

def changed : JsValue := .obj [(unitsOf "a", truth), (unitsOf "b", two)]

theorem proper_one : one.Proper Leaf.IsJson := .leaf trivial

theorem proper_two : two.Proper Leaf.IsJson := .leaf trivial

theorem proper_truth : truth.Proper Leaf.IsJson := by
  refine .arr fun item hitem => ?_
  obtain rfl := List.mem_singleton.mp hitem
  exact .leaf trivial

theorem proper_pair {first second : Units × JsValue} (hkeys : first.1 ≠ second.1)
    (hfirst : first.2.Proper Leaf.IsJson) (hsecond : second.2.Proper Leaf.IsJson) :
    (Tree.obj [first, second]).Proper Leaf.IsJson := by
  refine .obj (by simpa using hkeys) fun member hmember => ?_
  rcases List.mem_cons.mp hmember with rfl | hmember
  · exact hfirst
  · obtain rfl := List.mem_singleton.mp hmember
    exact hsecond

theorem proper_body : body.Proper Leaf.IsJson :=
  proper_pair (by decide +kernel) proper_truth proper_one

theorem proper_retried : retried.Proper Leaf.IsJson :=
  proper_pair (by decide +kernel) proper_one proper_truth

theorem proper_changed : changed.Proper Leaf.IsJson :=
  proper_pair (by decide +kernel) proper_truth proper_two

theorem reordered_retried : Tree.Reordered body retried := .members (.swap _ _ _)

theorem not_reordered_changed : ¬ Tree.Reordered body changed := by
  intro h
  have hvalue := h.value_of_mem (payrollOrder totalCompare) proper_body
    (.tail _ (.head _)) (.tail _ (.head _))
  have hleaf := hvalue.leaf_inj (payrollOrder totalCompare) proper_one
  exact absurd hleaf (by decide)

def request (body : JsValue) : PayrollRequest :=
  ⟨unitsOf "t", unitsOf "u", .lock, unitsOf "k", body⟩

theorem canonicalJson_identifies_retry :
    (requestHash sha256 localeCompare body = requestHash sha256 localeCompare retried ∧
      canonicalJson localeCompare body ≠ canonicalJson localeCompare changed) ∧
    (payrollRequestIdentity sha256 localeCompare (request body)).map PayrollIdentity.requestHash =
      (payrollRequestIdentity sha256 localeCompare (request retried)).map
        PayrollIdentity.requestHash := by
  obtain ⟨hvalues, hrequests⟩ := canonicalJson_identifies totalCompare sha256.injective
  refine ⟨⟨?_, ?_⟩, ?_⟩
  · exact (hvalues ⟨body, proper_body⟩ ⟨retried, proper_retried⟩).2.2.mpr reordered_retried
  · exact fun h => not_reordered_changed
      ((hvalues ⟨body, proper_body⟩ ⟨changed, proper_changed⟩).2.1.mp h)
  · exact (hrequests (request body) (request retried) proper_body proper_retried).mpr
      ⟨rfl, rfl, rfl, reordered_retried⟩

end Sample

end LunchLineup.Idempotency
