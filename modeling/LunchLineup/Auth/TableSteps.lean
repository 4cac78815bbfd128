import LunchLineup.Auth.Transactions

/-!
# What the steps write

Each step leaves the tables as they are or makes the writes of one transaction (`TablesStep`).
What the steps preserve of users, tokens and claims is read off the writes, one case for each.
-/

namespace LunchLineup.Auth

open LunchLineup.Lib

/-- The tables that a step leaves. -/
inductive TablesStep (service : AuthService) (tables : AuthTables) :
    AuthEvent → AuthTables → Prop
  | same {event : AuthEvent} : TablesStep service tables event tables
  | written {event : AuthEvent} {old new : UserRow}
      (hwrite : UserWrite service tables event old new) :
      TablesStep service tables event (tables.updateUser old new)
  | issued {index : Nat} {drawn : NewSession} {around : Surroundings} {signIn : SignIn}
      {issued : IssuedSession} {next : AuthTables}
      (hissued : SessionIssued service tables around signIn drawn issued next) :
      TablesStep service tables (.issue index drawn around) next
  | rotated {index : Nat} {around : Surroundings} {credential : RefreshCredential}
      {selected : SelectedRefreshCredential} {locator : RefreshSessionLocator}
      {marker : Option RefreshMfaObservation} {outcome : RefreshRotation} {next : AuthTables}
      (hrotated : service.rotateRefreshCredential tables around credential selected locator marker =
        .ok (outcome, next)) :
      TablesStep service tables (.rotate index around) next
  | revoked {event : AuthEvent} {condition : SessionRow → Bool} {now : Int} :
      TablesStep service tables event (tables.updateSessions condition (·.revoke now))
  | sessionsPurged {event : AuthEvent} {condition : SessionRow → Bool} :
      TablesStep service tables event (tables.deleteSessions condition)
  | tokensPurged {event : AuthEvent} {condition : PasswordResetToken → Bool} :
      TablesStep service tables event (tables.deleteTokens condition)
  | requested {tenantId userId : String} {drawn : NewReset} {around : Surroundings}
      {next : AuthTables}
      (hcreated : service.createPasswordReset tables around tenantId userId drawn = .ok next) :
      TablesStep service tables (.createPasswordReset tenantId userId drawn around) next
  | reset {token password tokenHash passwordHash : String} {before : AuthTables}
      {around : Surroundings} {locator : ResetLocator} {user : UserRow}
      {reset : PasswordResetToken} {next : AuthTables}
      (hreset : PasswordReset tables around locator tokenHash passwordHash user reset next) :
      TablesStep service tables (.resetPassword token password passwordHash before around) next
  | pinRotated {actor : Actor} {currentPin newPin newPinHash : String} {observed : Option Int}
      {around : Surroundings} {user : UserRow}
      (huser : tables.liveUser? actor.userId actor.tenantId = some user) :
      TablesStep service tables (.rotateOwnPin actor currentPin newPin newPinHash observed around)
        ((tables.updateUser user (user.withPin newPinHash false (around.clock 5))).revokeSessionsOf
          actor.userId (around.clock 5))
  | begun {event : AuthEvent} {condition : SessionRow → Bool} {encryptedSecret : String}
      {expiresAt : Int} :
      TablesStep service tables event
        (tables.updateSessions condition (·.withEnrollment encryptedSecret expiresAt))
  | confirmed {actor : Actor} {code encryptedSecret : String} {backupCodeHashes : List String}
      {around : Surroundings} {context : SelfSecurity} {confirmation : MfaConfirmation}
      {next : AuthTables}
      (hconfirmed : EnrollmentConfirmed service tables around actor code encryptedSecret
        backupCodeHashes context confirmation next) :
      TablesStep service tables
        (.confirmMfaEnrollment actor code encryptedSecret backupCodeHashes around) next
  | disabled {actor : Actor} {code : String} {before claimed : AuthTables}
      {around : Surroundings} {user : UserRow} {found : MatchedCode} {now : Int}
      (huser : tables.liveUser? actor.userId actor.tenantId = some user)
      (hclaimed : tables.claimMatched actor.userId found = .ok claimed) :
      TablesStep service tables (.disableMfa actor code before around)
        ((claimed.updateUser user user.withoutSecondFactor).revokeSessionsOf actor.userId now)
  | verified {actor : Actor} {code : String} {around : Surroundings}
      {verification : MfaVerification} {next : AuthTables}
      (hverified : MfaVerified service tables around actor code verification next) :
      TablesStep service tables (.validateMfa actor code around) next
  | administered {userId tenantId : String} {change : AccountChange} {user : UserRow}
      (huser : tables.user? userId tenantId = some user) :
      TablesStep service tables (.administer userId tenantId change)
        (tables.administerUser service.sha256 user (user.administer change))
  | pinRecovered {userId tenantId pinHash : String} {now : Int} {user : UserRow}
      (huser : tables.liveUser? userId tenantId = some user) :
      TablesStep service tables (.recoverPin userId tenantId pinHash now)
        ((tables.updateUser user (user.withPin pinHash true now)).revokeSessionsOf userId now)
  | mfaRecovered {userId tenantId : String} {now : Int} {user : UserRow}
      (huser : tables.liveUser? userId tenantId = some user) :
      TablesStep service tables (.recoverMfa userId tenantId now)
        (((tables.updateUser user user.withoutSecondFactor).withoutClaimsOf
          userId).revokeSessionsOf userId now)

section Steps

variable {service : AuthService} {system : AuthSystem}

theorem settleAttempt_tables {signIn : Except AuthError SignIn} {tables : AuthTables} :
    (AuthService.settleAttempt system signIn tables).2.tables = tables := by
  cases signIn with
  | error error => rfl
  | ok signIn => rfl

theorem settleVerification_tables {claims : Option TokenPayload} {marking : Marking}
    {tables : AuthTables} :
    (AuthService.settleVerification system claims marking tables).2.tables = tables := by
  cases claims with
  | none => rfl
  | some claims => rfl

theorem tablesStep_of_update {tables next : AuthTables} {event : AuthEvent}
    (h : next = tables ∨
      ∃ old new, UserWrite service tables event old new ∧ next = tables.updateUser old new) :
    TablesStep service tables event next := by
  obtain rfl | ⟨old, new, hwrite, rfl⟩ := h
  · exact .same
  · exact .written hwrite

theorem tablesStep_settle {event : AuthEvent} {outcome : Except AuthError AuthTables}
    (h : ∀ next, outcome = .ok next → TablesStep service system.tables event next) :
    TablesStep service system.tables event (system.settle outcome).2.tables := by
  cases outcome with
  | error error => exact .same
  | ok next => exact h next rfl

theorem rotateStep_tables (index : Nat) (around : Surroundings) :
    TablesStep service system.tables (.rotate index around)
      (service.rotateStep system index around).2.tables := by
  unfold AuthService.rotateStep
  split
  · exact .same
  · split
    · exact .same
    · dsimp only
      split
      · exact .same
      · rename_i tables hrotated
        exact .rotated hrotated
      · rename_i tables hmarker
        split
        · exact .rotated hmarker
        · exact .rotated hmarker
      · -- A refresh that is refused may still have revoked its session.
        rename_i tables _ _ hrefused
        exact .rotated hrefused

/-- The writes of each step. -/
theorem authStep_tables (service : AuthService) (system : AuthSystem) (event : AuthEvent) :
    TablesStep service system.tables event (service.authStep system event).2.tables := by
  cases event with
  | passwordAttempt userId tenantId password betaDemo around =>
      show TablesStep service system.tables _ (AuthService.settleAttempt system _ _).2.tables
      rw [settleAttempt_tables]
      exact tablesStep_of_update (passwordAttempt_tables userId tenantId password betaDemo)
  | pinAttempt userId tenantId pinProof pin around =>
      show TablesStep service system.tables _ (AuthService.settleAttempt system _ _).2.tables
      rw [settleAttempt_tables]
      exact tablesStep_of_update (pinAttempt_tables userId tenantId pinProof pin)
  | prove signIn =>
      unfold AuthService.authStep
      dsimp only
      split_ifs
      · exact .same
      · exact .same
  | issue index drawn around =>
      show TablesStep service system.tables _ (service.issueStep system index drawn around).2.tables
      unfold AuthService.issueStep
      split
      · exact .same
      · split
        · exact .same
        · rename_i issued tables hissued
          exact .issued (issueSession_eq_ok hissued)
  | beginRefresh refreshToken drawn =>
      show TablesStep service system.tables _
        (service.beginRefreshStep system refreshToken drawn).2.tables
      unfold AuthService.beginRefreshStep
      split
      · exact .same
      · split
        · exact .same
        · exact .same
  | rotate index around => exact rotateStep_tables index around
  | observeMarker index redisNow =>
      show TablesStep service system.tables _ (AuthService.observeStep system index redisNow).2.tables
      unfold AuthService.observeStep
      split
      · exact .same
      · split_ifs
        · exact .same
        · exact .same
  | validate claims before redisNow around =>
      unfold AuthService.authStep
      dsimp only
      split
      · exact .same
      · exact .same
  | logout refreshToken before around =>
      unfold AuthService.authStep
      dsimp only
      split
      · exact .same
      · unfold AuthTables.revokeSessionByRefreshToken
        split
        · exact .same
        · split_ifs
          · exact .same
          · exact .revoked
  | revokeSession sessionId around => exact .revoked
  | revokeSessionsOf userId now => exact .revoked
  | purgeDormantSessions asOf picked => exact .sessionsPurged
  | purgePasswordResetTokens asOf picked => exact .tokensPurged
  | recordFailedAttempt userId tenantId around =>
      exact tablesStep_of_update (recordFailedAttempt_tables service userId tenantId)
  | createPasswordReset tenantId userId drawn around =>
      show TablesStep service system.tables _
        (service.createResetStep system tenantId userId drawn around).2.tables
      unfold AuthService.createResetStep
      split
      · exact .same
      · rename_i tables hcreated
        exact .requested hcreated
  | resetPassword token password passwordHash before around =>
      rw [authStep_resetPassword]
      refine tablesStep_settle fun next h => ?_
      obtain ⟨_, _, _, _, _, hreset⟩ := resetPasswordWithToken_eq_ok h
      exact .reset hreset
  | rotateOwnPin actor currentPin newPin newPinHash observed around =>
      show TablesStep service system.tables _ (system.settle (service.rotateOwnPin system.tables
        around actor.tenantId actor.userId actor.sessionId currentPin newPin newPinHash
          observed)).2.tables
      refine tablesStep_settle fun next h => ?_
      obtain ⟨context, hcontext, rfl⟩ := rotateOwnPin_eq_ok h
      exact .pinRotated (selfSecurityContext_eq_ok hcontext).1
  | beginMfaEnrollment actor encryptedSecret around =>
      show TablesStep service system.tables _ (system.settle (AuthService.beginMfaEnrollment
        system.tables around actor.tenantId actor.userId actor.sessionId encryptedSecret)).2.tables
      refine tablesStep_settle fun next h => ?_
      obtain ⟨context, _, _, rfl⟩ := beginMfaEnrollment_eq_ok h
      exact .begun
  | confirmMfaEnrollment actor code encryptedSecret backupCodeHashes around =>
      show TablesStep service system.tables _ (service.confirmMfaStep system actor code
        encryptedSecret backupCodeHashes around).2.tables
      unfold AuthService.confirmMfaStep
      split
      · exact .same
      · rename_i confirmation tables h
        obtain ⟨context, hconfirmed⟩ := confirmMfaEnrollment_eq_ok h
        rw [settleVerification_tables]
        exact .confirmed hconfirmed
  | disableMfa actor code before around =>
      show TablesStep service system.tables _ (system.settle ((service.disableMfa system.tables
        around before actor.tenantId actor.userId actor.sessionId code).map (·.2))).2.tables
      refine tablesStep_settle fun next h => ?_
      obtain ⟨⟨matched, tables⟩, hdisabled, rfl⟩ := map_eq_ok.mp h
      obtain ⟨context, hcontext, ⟨_, _, rfl⟩ | ⟨found, claimed, _, _, hclaimed, rfl⟩⟩ :=
        disableMfa_eq_ok hdisabled
      · exact .same
      · exact .disabled (selfSecurityContext_eq_ok hcontext).1 hclaimed
  | validateMfa actor code around =>
      show TablesStep service system.tables _
        (service.validateMfaStep system actor code around).2.tables
      unfold AuthService.validateMfaStep
      split
      · exact .same
      · rename_i verification tables h
        rw [settleVerification_tables]
        exact .verified (validateMfa_eq_ok h)
  | writeMarker index redisNow now =>
      show TablesStep service system.tables _
        (AuthService.writeMarkerStep system index redisNow now).2.tables
      unfold AuthService.writeMarkerStep
      split
      · exact .same
      · exact .same
  | failMarker index now =>
      show TablesStep service system.tables _ (AuthService.failMarkerStep system index now).2.tables
      unfold AuthService.failMarkerStep
      split
      · exact .same
      · dsimp only
        split_ifs
        · exact .revoked
        · exact .same
  | clearMarker sessionId => exact .same
  | administer userId tenantId change =>
      unfold AuthService.authStep
      dsimp only
      split
      · exact .same
      · rename_i user huser
        exact .administered huser
  | recoverPin userId tenantId pinHash now =>
      show TablesStep service system.tables _
        (AuthService.recoverPin system.tables userId tenantId pinHash now)
      obtain hsame | ⟨user, huser, _, hnext⟩ := recoverPin_tables userId tenantId pinHash now
      · rw [hsame]
        exact .same
      · rw [hnext]
        exact .pinRecovered huser
  | recoverMfa userId tenantId now =>
      show TablesStep service system.tables _
        (AuthService.recoverMfa system.tables userId tenantId now)
      obtain hsame | ⟨user, huser, _, hnext⟩ := recoverMfa_tables userId tenantId now
      · rw [hsame]
        exact .same
      · rw [hnext]
        exact .mfaRecovered huser

end Steps

end LunchLineup.Auth
