import LunchLineup.Auth.SessionSteps
import LunchLineup.Auth.TableSteps

/-!
# What the steps do to users

A step writes the row of one user at most, and `UserWrite` says of each kind of step what it
found and what it wrote.  Users are neither added nor taken away, and stay in their workspace.
-/

namespace LunchLineup.Auth

open LunchLineup.Lib

/-! ## Updates that leave the users alone -/

namespace AuthTables

variable (tables : AuthTables)

@[simp] theorem updateSessions_users (condition : SessionRow → Bool)
    (change : SessionRow → SessionRow) :
    (tables.updateSessions condition change).users = tables.users := rfl

@[simp] theorem revokeSessionsOf_users (userId : String) (now : Int) :
    (tables.revokeSessionsOf userId now).users = tables.users := rfl

@[simp] theorem deleteSessions_users (condition : SessionRow → Bool) :
    (tables.deleteSessions condition).users = tables.users := rfl

@[simp] theorem makeRoom_users (userId : String) (now : Int) :
    (tables.makeRoom userId now).users = tables.users := rfl

@[simp] theorem withSession_users (session : SessionRow) :
    (tables.withSession session).users = tables.users := rfl

@[simp] theorem withSpent_users (sessionId validatorHash : String) :
    (tables.withSpent sessionId validatorHash).users = tables.users := rfl

@[simp] theorem consumeTokensOf_users (tenantId userId : String) (now : Int) :
    (tables.consumeTokensOf tenantId userId now).users = tables.users := rfl

@[simp] theorem withClaim_users (userId : String) (timeStep : Int) :
    (tables.withClaim userId timeStep).users = tables.users := rfl

@[simp] theorem withoutClaimsOf_users (userId : String) :
    (tables.withoutClaimsOf userId).users = tables.users := rfl

@[simp] theorem updateUser_users (old new : UserRow) :
    (tables.updateUser old new).users = replaceRow (·.id) tables.users new := by
  unfold updateUser
  dsimp only
  split_ifs
  · rfl
  · rfl

@[simp] theorem administerUser_users (sha256 : String → String) (old new : UserRow) :
    (tables.administerUser sha256 old new).users =
      replaceRow (·.id) tables.users new.scrubDeleted := by
  unfold administerUser
  dsimp only
  split
  · exact updateUser_users _ _ _
  · split_ifs
    · exact updateUser_users _ _ _
    · exact updateUser_users _ _ _
  · exact updateUser_users _ _ _

theorem liveUser?_eq_some {id tenantId : String} {user : UserRow}
    (h : tables.liveUser? id tenantId = some user) :
    user ∈ tables.users ∧ user.id = id ∧ user.tenantId = tenantId ∧ user.deletedAt = none ∧
      user.suspendedAt = none := by
  refine ⟨List.mem_of_find?_eq_some h, ?_⟩
  have := List.find?_some h
  simpa using this

theorem user?_eq_some {id tenantId : String} {user : UserRow}
    (h : tables.user? id tenantId = some user) :
    user ∈ tables.users ∧ user.id = id ∧ user.tenantId = tenantId := by
  refine ⟨List.mem_of_find?_eq_some h, ?_⟩
  have := List.find?_some h
  simpa using this

end AuthTables

/-! ## Writes -/

/-- The users stay as they are, or one of them is written. -/
def UsersStep (service : AuthService) (tables : AuthTables) (event : AuthEvent)
    (next : AuthTables) : Prop :=
  next.users = tables.users ∨
    ∃ old new, UserWrite service tables event old new ∧
      next.users = replaceRow (·.id) tables.users new

section Steps

variable {service : AuthService} {system : AuthSystem}

theorem claimMatched_users {tables next : AuthTables} {userId : String} {matched : MatchedCode}
    (h : tables.claimMatched userId matched = .ok next) : next.users = tables.users := by
  unfold AuthTables.claimMatched at h
  split at h
  · obtain rfl := Except.ok.inj h
    rfl
  · obtain ⟨_, rfl⟩ := claimTotpTimeStep_eq_ok h
    rfl

theorem createPasswordReset_users {tables next : AuthTables} {around : Surroundings}
    {tenantId userId : String} {drawn : NewReset}
    (h : service.createPasswordReset tables around tenantId userId drawn = .ok next) :
    next.users = tables.users := by
  obtain rfl | ⟨token, email, _, _, _, _, _, rfl⟩ := createPasswordReset_tables h
  · rfl
  · rfl

theorem rotateRefreshCredential_users {tables next : AuthTables} {around : Surroundings}
    {credential : RefreshCredential} {rotated : SelectedRefreshCredential}
    {locator : RefreshSessionLocator} {marker : Option RefreshMfaObservation}
    {outcome : RefreshRotation}
    (h : service.rotateRefreshCredential tables around credential rotated locator marker =
      .ok (outcome, next)) : next.users = tables.users := by
  obtain ⟨rfl, _⟩ | ⟨session, _, _, rfl⟩ | ⟨authorization, _, hrotated⟩ :=
    rotateRefreshCredential_eq_ok h
  · rfl
  · rfl
  · rw [hrotated.next_eq]
    rfl

/-- The writes of a step are of one user at most. -/
theorem TablesStep.users {tables next : AuthTables} {event : AuthEvent}
    (h : TablesStep service tables event next) : UsersStep service tables event next := by
  cases h with
  | same => exact .inl rfl
  | written hwrite => exact .inr ⟨_, _, hwrite, AuthTables.updateUser_users _ _ _⟩
  | issued hissued =>
      refine .inr ⟨_, _, .signedIn hissued.user, ?_⟩
      rw [hissued.next_eq]
      exact AuthTables.updateUser_users _ _ _
  | rotated hrotated => exact .inl (rotateRefreshCredential_users hrotated)
  | revoked => exact .inl rfl
  | sessionsPurged => exact .inl rfl
  | tokensPurged => exact .inl rfl
  | requested hcreated => exact .inl (createPasswordReset_users hcreated)
  | reset hreset =>
      refine .inr ⟨_, _, .passwordReset hreset.owner, ?_⟩
      rw [hreset.next_eq]
      exact AuthTables.updateUser_users _ _ _
  | pinRotated huser => exact .inr ⟨_, _, .pinRotated huser, AuthTables.updateUser_users _ _ _⟩
  | begun => exact .inl rfl
  | confirmed hconfirmed =>
      have huser := (selfSecurityContext_eq_ok hconfirmed.context_eq).1
      refine .inr ⟨_, _, .enrolled huser hconfirmed.disabled, ?_⟩
      rw [hconfirmed.next_eq]
      exact AuthTables.updateUser_users _ _ _
  | disabled huser hclaimed =>
      refine .inr ⟨_, _, .disabled huser, ?_⟩
      rw [← claimMatched_users hclaimed]
      exact AuthTables.updateUser_users _ _ _
  | verified hverified =>
      obtain ⟨_, rfl⟩ | ⟨found, claimed, _, hfound, hclaimed, rfl⟩ := hverified.outcome
      · exact .inl rfl
      · cases hbackup : found.backupCodeHash with
        | none => exact .inl (claimMatched_users hclaimed)
        | some hash =>
            refine .inr ⟨_, _, .backupCodeUsed hverified.user (hfound ▸ hbackup), ?_⟩
            rw [← claimMatched_users hclaimed]
            exact AuthTables.updateUser_users _ _ _
  | administered huser =>
      exact .inr ⟨_, _, .administered huser, AuthTables.administerUser_users _ _ _ _⟩
  | pinRecovered huser => exact .inr ⟨_, _, .pinRecovered huser, AuthTables.updateUser_users _ _ _⟩
  | mfaRecovered huser => exact .inr ⟨_, _, .mfaRecovered huser, AuthTables.updateUser_users _ _ _⟩

/-- A step writes one user at most, as `UserWrite` says. -/
theorem authStep_users (event : AuthEvent) :
    UsersStep service system.tables event (service.authStep system event).2.tables :=
  (authStep_tables service system event).users

/-- A write is of a user of the table, who stays who he is. -/
theorem UserWrite.same {tables : AuthTables} {event : AuthEvent} {old new : UserRow}
    (h : UserWrite service tables event old new) :
    old ∈ tables.users ∧ new.id = old.id ∧ new.tenantId = old.tenantId := by
  cases h with
  | wrongPassword huser _ => exact ⟨(tables.liveUser?_eq_some huser).1, rfl, rfl⟩
  | rightPassword huser => exact ⟨(tables.liveUser?_eq_some huser).1, rfl, rfl⟩
  | recorded huser _ => exact ⟨(tables.liveUser?_eq_some huser).1, rfl, rfl⟩
  | wrongPin huser _ => exact ⟨(tables.liveUser?_eq_some huser).1, rfl, rfl⟩
  | rightPin huser => exact ⟨(tables.liveUser?_eq_some huser).1, rfl, rfl⟩
  | signedIn huser =>
      refine ⟨(tables.liveUser?_eq_some huser).1, ?_⟩
      unfold UserRow.signedIn
      split_ifs
      · exact ⟨rfl, rfl⟩
      · exact ⟨rfl, rfl⟩
  | passwordReset huser => exact ⟨(tables.liveUser?_eq_some huser).1, rfl, rfl⟩
  | pinRotated huser => exact ⟨(tables.liveUser?_eq_some huser).1, rfl, rfl⟩
  | enrolled huser _ => exact ⟨(tables.liveUser?_eq_some huser).1, rfl, rfl⟩
  | disabled huser => exact ⟨(tables.liveUser?_eq_some huser).1, rfl, rfl⟩
  | backupCodeUsed huser _ => exact ⟨(tables.liveUser?_eq_some huser).1, rfl, rfl⟩
  | @administered _ _ change user huser =>
      refine ⟨(tables.user?_eq_some huser).1, ?_⟩
      have hscrubbed : ∀ row : UserRow, row.scrubDeleted.id = row.id ∧
          row.scrubDeleted.tenantId = row.tenantId := by
        intro row
        unfold UserRow.scrubDeleted
        split_ifs
        · exact ⟨rfl, rfl⟩
        · exact ⟨rfl, rfl⟩
      rw [(hscrubbed _).1, (hscrubbed _).2]
      cases change with
      | profile role email username => exact ⟨rfl, rfl⟩
      | lifecycle deletedAt suspendedAt => exact ⟨rfl, rfl⟩
      | lock lockedUntil => exact ⟨rfl, rfl⟩
      | unlock => exact ⟨rfl, rfl⟩
  | pinRecovered huser => exact ⟨(tables.liveUser?_eq_some huser).1, rfl, rfl⟩
  | mfaRecovered huser => exact ⟨(tables.liveUser?_eq_some huser).1, rfl, rfl⟩

/-- The ids of the users and their workspaces stay as they are. -/
theorem UsersStep.places {tables next : AuthTables} {event : AuthEvent}
    (h : UsersStep service tables event next) (hids : (tables.users.map (·.id)).Nodup) :
    next.users.map (fun user => (user.id, user.tenantId)) =
      tables.users.map fun user => (user.id, user.tenantId) := by
  obtain hsame | ⟨old, new, hwrite, hnext⟩ := h
  · rw [hsame]
  · obtain ⟨hold, hid, htenant⟩ := hwrite.same
    rw [hnext]
    exact map_replaceRow hids hold hid (by rw [hid, htenant])

theorem UsersStep.ids {tables next : AuthTables} {event : AuthEvent}
    (h : UsersStep service tables event next) :
    next.users.map (·.id) = tables.users.map (·.id) := by
  obtain hsame | ⟨old, new, _, hnext⟩ := h
  · rw [hsame]
  · rw [hnext]
    exact keys_replaceRow

end Steps

end LunchLineup.Auth
