import LunchLineup.Auth.UserSteps

/-!
# What the steps do to claims of time steps

The claim of a time step stays in the database until the user's second factor is taken off by an
administrator or the user is deleted (`authStep_claims`).
-/

namespace LunchLineup.Auth

open LunchLineup.Lib

/-- The claims of the user are given up: his second factor is recovered, or he is deleted. -/
def Cleared (event : AuthEvent) (next : AuthTables) (userId : String) : Prop :=
  (∃ tenantId now, event = .recoverMfa userId tenantId now) ∨
    ∃ user ∈ next.users, user.id = userId ∧ user.deletedAt.isSome

/-- Every claim is kept, unless those of its user are given up. -/
def ClaimsStep (tables : AuthTables) (event : AuthEvent) (next : AuthTables) : Prop :=
  ∀ claim ∈ tables.mfaTotpClaims,
    claim ∈ next.mfaTotpClaims ∨ Cleared event next claim.userId

section Steps

variable {service : AuthService} {system : AuthSystem}

theorem AuthTables.updateUser_claims (tables : AuthTables) (old new : UserRow) :
    (tables.updateUser old new).mfaTotpClaims = tables.mfaTotpClaims := by
  unfold updateUser
  dsimp only
  split_ifs
  · rfl
  · rfl

theorem claimsStep_of_eq {tables next : AuthTables} {event : AuthEvent}
    (h : next.mfaTotpClaims = tables.mfaTotpClaims) : ClaimsStep tables event next :=
  fun _ hclaim => .inl (h ▸ hclaim)

/-- A code that is accepted leaves the claim of its time step, which no one had before. -/
theorem claimMatched_claims {tables next : AuthTables} {userId : String} {matched : MatchedCode}
    (h : tables.claimMatched userId matched = .ok next) :
    (∀ claim ∈ tables.mfaTotpClaims, claim ∈ next.mfaTotpClaims) ∧
      ∀ timeStep ∈ matched.timeStep, ⟨userId, timeStep⟩ ∉ tables.mfaTotpClaims ∧
        ⟨userId, timeStep⟩ ∈ next.mfaTotpClaims := by
  unfold AuthTables.claimMatched at h
  split at h
  · rename_i hnone
    obtain rfl := Except.ok.inj h
    refine ⟨fun _ hclaim => hclaim, fun timeStep hsome => ?_⟩
    rw [hnone] at hsome
    cases hsome
  · rename_i found hfound
    obtain ⟨hfresh, rfl⟩ := claimTotpTimeStep_eq_ok h
    refine ⟨fun claim hclaim => List.mem_append_left _ hclaim, fun timeStep hsome => ?_⟩
    rw [hfound] at hsome
    obtain rfl := Option.some.inj hsome
    exact ⟨hfresh, List.mem_append_right _ (List.mem_singleton.mpr rfl)⟩

theorem EnrollmentConfirmed.claims {tables next : AuthTables} {around : Surroundings}
    {actor : Actor} {code encryptedSecret : String} {backupCodeHashes : List String}
    {context : SelfSecurity} {confirmation : MfaConfirmation}
    (h : EnrollmentConfirmed service tables around actor code encryptedSecret backupCodeHashes
      context confirmation next) :
    next.mfaTotpClaims = tables.mfaTotpClaims ++ [⟨actor.userId, confirmation.timeStep⟩] := by
  rw [h.next_eq, AuthTables.updateUser_claims]
  rfl

/-- The claims after a verification are those that the code leaves. -/
theorem MfaVerified.claims {tables next : AuthTables} {around : Surroundings} {actor : Actor}
    {code : String} {verification : MfaVerification}
    (h : MfaVerified service tables around actor code verification next) :
    next.mfaTotpClaims = tables.mfaTotpClaims ∧ verification.matched = none ∨
      ∃ found claimed, verification.matched = some found ∧
        tables.claimMatched actor.userId found = .ok claimed ∧
        next.mfaTotpClaims = claimed.mfaTotpClaims := by
  obtain ⟨hnone, rfl⟩ | ⟨found, claimed, hsome, _, hclaimed, rfl⟩ := h.outcome
  · exact .inl ⟨rfl, hnone⟩
  · refine .inr ⟨found, claimed, hsome, hclaimed, ?_⟩
    cases found.backupCodeHash with
    | none => rfl
    | some hash => exact AuthTables.updateUser_claims _ _ _

theorem rotateRefreshCredential_claims {tables next : AuthTables} {around : Surroundings}
    {credential : RefreshCredential} {rotated : SelectedRefreshCredential}
    {locator : RefreshSessionLocator} {marker : Option RefreshMfaObservation}
    {outcome : RefreshRotation}
    (h : service.rotateRefreshCredential tables around credential rotated locator marker =
      .ok (outcome, next)) : next.mfaTotpClaims = tables.mfaTotpClaims := by
  obtain ⟨rfl, _⟩ | ⟨session, _, _, rfl⟩ | ⟨authorization, _, hrotated⟩ :=
    rotateRefreshCredential_eq_ok h
  · rfl
  · rfl
  · rw [hrotated.next_eq]
    rfl

theorem createPasswordReset_claims {tables next : AuthTables} {around : Surroundings}
    {tenantId userId : String} {drawn : NewReset}
    (h : service.createPasswordReset tables around tenantId userId drawn = .ok next) :
    next.mfaTotpClaims = tables.mfaTotpClaims := by
  obtain rfl | ⟨token, email, _, _, _, _, _, rfl⟩ := createPasswordReset_tables h
  · rfl
  · rfl

/-- Who is deleted gives up his claims, and an administrator's other changes keep them. -/
theorem administerUser_claims {tables : AuthTables} {event : AuthEvent}
    (sha256 : String → String) {old new : UserRow} (hold : old ∈ tables.users)
    (hid : new.scrubDeleted.id = old.id) :
    ClaimsStep tables event (tables.administerUser sha256 old new) := by
  intro claim hclaim
  by_cases howner : claim.userId = old.id ∧ new.scrubDeleted.deletedAt.isSome
  · refine .inr (.inr ⟨new.scrubDeleted, ?_, hid.trans howner.1.symm, howner.2⟩)
    rw [AuthTables.administerUser_users]
    exact new_mem_replaceRow hold hid.symm
  · refine .inl ?_
    have hkept : claim ∈ (tables.updateUser old new.scrubDeleted).mfaTotpClaims := by
      rwa [AuthTables.updateUser_claims]
    unfold AuthTables.administerUser
    dsimp only
    -- A deletion takes the claims of the user who is deleted, a suspension none.
    split
    · rename_i hdeleted
      refine List.mem_filter.mpr ⟨hkept, ?_⟩
      have hother : claim.userId ≠ old.id := fun h => howner ⟨h, by rw [hdeleted]; rfl⟩
      simpa [hid] using hother
    · split_ifs
      · exact hkept
      · exact hkept
    · exact hkept

/-- The writes of a step keep every claim, unless its user gives his claims up. -/
theorem TablesStep.claims {tables next : AuthTables} {event : AuthEvent}
    (h : TablesStep service tables event next) : ClaimsStep tables event next := by
  cases h with
  | same => exact claimsStep_of_eq rfl
  | written => exact claimsStep_of_eq (AuthTables.updateUser_claims _ _ _)
  | issued hissued =>
      refine claimsStep_of_eq ?_
      rw [hissued.next_eq]
      exact AuthTables.updateUser_claims _ _ _
  | rotated hrotated => exact claimsStep_of_eq (rotateRefreshCredential_claims hrotated)
  | revoked => exact claimsStep_of_eq rfl
  | sessionsPurged => exact claimsStep_of_eq rfl
  | tokensPurged => exact claimsStep_of_eq rfl
  | requested hcreated => exact claimsStep_of_eq (createPasswordReset_claims hcreated)
  | reset hreset =>
      refine claimsStep_of_eq ?_
      rw [hreset.next_eq]
      exact AuthTables.updateUser_claims _ _ _
  | pinRotated => exact claimsStep_of_eq (AuthTables.updateUser_claims _ _ _)
  | begun => exact claimsStep_of_eq rfl
  | confirmed hconfirmed =>
      intro claim hclaim
      rw [hconfirmed.claims]
      exact .inl (List.mem_append_left _ hclaim)
  | @disabled _ _ _ claimed _ _ _ _ _ hclaimed =>
      intro claim hclaim
      have hkept := (claimMatched_claims hclaimed).1 claim hclaim
      rw [← AuthTables.updateUser_claims claimed] at hkept
      exact .inl hkept
  | verified hverified =>
      obtain ⟨hsame, _⟩ | ⟨found, claimed, _, hclaimed, hnext⟩ := hverified.claims
      · exact claimsStep_of_eq hsame
      · intro claim hclaim
        rw [hnext]
        exact .inl ((claimMatched_claims hclaimed).1 claim hclaim)
  | @administered userId tenantId change user huser =>
      have hwrite : UserWrite service tables (.administer userId tenantId change) user _ :=
        .administered huser
      exact administerUser_claims _ hwrite.same.1 hwrite.same.2.1
  | pinRecovered => exact claimsStep_of_eq (AuthTables.updateUser_claims _ _ _)
  | @mfaRecovered userId tenantId now user huser =>
      intro claim hclaim
      -- A recovery gives up the claims of the user, and of no one else.
      by_cases howner : claim.userId = userId
      · exact .inr (.inl ⟨tenantId, now, by rw [howner]⟩)
      · refine .inl (List.mem_filter.mpr ⟨?_, by simpa using howner⟩)
        rwa [AuthTables.updateUser_claims]

/-- Every claim is kept by a step, unless its user gives his claims up. -/
theorem authStep_claims (service : AuthService) (system : AuthSystem) (event : AuthEvent) :
    ClaimsStep system.tables event (service.authStep system event).2.tables :=
  (authStep_tables service system event).claims

end Steps

end LunchLineup.Auth
