import LunchLineup.Auth.System

/-!
# What the transactions do

One lemma for each transaction says when it succeeds and what it leaves, so that no later proof
opens a transaction again.
-/

namespace LunchLineup.Auth

open LunchLineup.Lib

variable {service : AuthService} {tables next : AuthTables} {around : Surroundings}

/-- What a step writes of a user, and what it has found before. -/
inductive UserWrite (service : AuthService) (tables : AuthTables) :
    AuthEvent → UserRow → UserRow → Prop
  | wrongPassword {userId tenantId password : String} {betaDemo : Bool} {around : Surroundings}
      {user : UserRow} (huser : tables.liveUser? userId tenantId = some user)
      (hunlocked : lockedAt user.lockedUntil (around.clock 0) = false) :
      UserWrite service tables (.passwordAttempt userId tenantId password betaDemo around) user
        (user.failPassword (around.clock 1))
  | rightPassword {userId tenantId password : String} {betaDemo : Bool} {around : Surroundings}
      {user : UserRow} (huser : tables.liveUser? userId tenantId = some user) :
      UserWrite service tables (.passwordAttempt userId tenantId password betaDemo around) user
        user.clearPasswordAttempts
  | recorded {userId tenantId : String} {around : Surroundings} {user : UserRow}
      (huser : tables.liveUser? userId tenantId = some user)
      (hunlocked : lockedAt user.lockedUntil (around.clock 0) = false) :
      UserWrite service tables (.recordFailedAttempt userId tenantId around) user
        (user.failPassword (around.clock 1))
  | wrongPin {userId tenantId pin : String} {pinProof : PinLoginProof} {around : Surroundings}
      {user : UserRow} (huser : tables.liveUser? userId tenantId = some user)
      (hunlocked : lockedAt user.pinLockedUntil (around.clock 0) = false) :
      UserWrite service tables (.pinAttempt userId tenantId pinProof pin around) user
        (user.failPin (around.clock 1))
  | rightPin {userId tenantId pin : String} {pinProof : PinLoginProof} {around : Surroundings}
      {user : UserRow} (huser : tables.liveUser? userId tenantId = some user) :
      UserWrite service tables (.pinAttempt userId tenantId pinProof pin around) user
        user.clearPinAttempts
  | signedIn {index : Nat} {drawn : NewSession} {around : Surroundings} {signIn : SignIn}
      {user : UserRow} (huser : tables.liveUser? signIn.userId signIn.tenantId = some user) :
      UserWrite service tables (.issue index drawn around) user
        (user.signedIn signIn.resetLoginAttempts (around.clock 3))
  | passwordReset {token password passwordHash tenantId userId : String} {before : AuthTables}
      {around : Surroundings} {user : UserRow}
      (huser : tables.liveUser? userId tenantId = some user) :
      UserWrite service tables (.resetPassword token password passwordHash before around) user
        (user.withPassword passwordHash)
  | pinRotated {actor : Actor} {currentPin newPin newPinHash : String} {observed : Option Int}
      {around : Surroundings} {user : UserRow}
      (huser : tables.liveUser? actor.userId actor.tenantId = some user) :
      UserWrite service tables
        (.rotateOwnPin actor currentPin newPin newPinHash observed around) user
        (user.withPin newPinHash false (around.clock 5))
  | enrolled {actor : Actor} {code encryptedSecret : String} {backupCodeHashes : List String}
      {around : Surroundings} {user : UserRow}
      (huser : tables.liveUser? actor.userId actor.tenantId = some user)
      (hdisabled : user.mfaEnabled = false) :
      UserWrite service tables
        (.confirmMfaEnrollment actor code encryptedSecret backupCodeHashes around) user
        (user.withSecondFactor encryptedSecret backupCodeHashes)
  | disabled {actor : Actor} {code : String} {before : AuthTables} {around : Surroundings}
      {user : UserRow} (huser : tables.liveUser? actor.userId actor.tenantId = some user) :
      UserWrite service tables (.disableMfa actor code before around) user user.withoutSecondFactor
  | backupCodeUsed {actor : Actor} {code hash : String} {around : Surroundings} {user : UserRow}
      (huser : tables.liveUser? actor.userId actor.tenantId = some user)
      (hmatched : (service.matchCode user (normalizeMfaCode code)
        (around.clock 3)).backupCodeHash = some hash) :
      UserWrite service tables (.validateMfa actor code around) user (user.withoutBackupCode hash)
  | administered {userId tenantId : String} {change : AccountChange} {user : UserRow}
      (huser : tables.user? userId tenantId = some user) :
      UserWrite service tables (.administer userId tenantId change) user
        (user.administer change).scrubDeleted
  | pinRecovered {userId tenantId pinHash : String} {now : Int} {user : UserRow}
      (huser : tables.liveUser? userId tenantId = some user) :
      UserWrite service tables (.recoverPin userId tenantId pinHash now) user
        (user.withPin pinHash true now)
  | mfaRecovered {userId tenantId : String} {now : Int} {user : UserRow}
      (huser : tables.liveUser? userId tenantId = some user) :
      UserWrite service tables (.recoverMfa userId tenantId now) user user.withoutSecondFactor

theorem AuthTables.session?_eq_some {id userId : String} {session : SessionRow}
    (h : tables.session? id userId = some session) :
    session ∈ tables.sessions ∧ session.id = id ∧ session.userId = userId := by
  refine ⟨List.mem_of_find?_eq_some h, ?_⟩
  have := List.find?_some h
  simpa using this

/-- A reset spends a token that no one has, replaces the password, revokes every session of
the user and spends his other tokens. -/
structure PasswordReset (tables : AuthTables) (around : Surroundings) (locator : ResetLocator)
    (tokenHash passwordHash : String) (user : UserRow) (reset : PasswordResetToken)
    (next : AuthTables) : Prop where
  owner : tables.liveUser? locator.userId locator.tenantId = some user
  token : reset ∈ tables.passwordResetTokens
  named : reset.id = locator.id ∧ reset.tenantId = locator.tenantId ∧
    reset.userId = locator.userId ∧ reset.tokenHash = tokenHash
  unspent : reset.consumedAt = none
  fresh : around.clock 1 < reset.expiresAt ∧ around.databaseClock 0 < reset.expiresAt
  next_eq : next = ((tables.updateUser user (user.withPassword passwordHash)).revokeSessionsOf
    locator.userId (around.databaseClock 1)).consumeTokensOf locator.tenantId locator.userId
      (around.databaseClock 1)

theorem resetPassword_eq_ok {locator : ResetLocator} {tokenHash passwordHash : String}
    (h : AuthService.resetPassword tables around locator tokenHash passwordHash = .ok next) :
    ∃ user reset, PasswordReset tables around locator tokenHash passwordHash user reset next := by
  simp only [AuthService.resetPassword, AuthTables.passwordResetUserInTransaction, bind_eq_ok] at h
  obtain ⟨found, ⟨_, _, hfound⟩, h⟩ := h
  obtain rfl := Except.ok.inj hfound
  cases huser : (tables.liveUser? locator.userId locator.tenantId).filter (·.passwordHash.isSome) with
  | none => simp [huser] at h
  | some user =>
      simp only [huser] at h
      split at h
      · cases h
      · rename_i reset hreset
        simp only [bind_eq_ok, ensure_eq_ok] at h
        obtain ⟨_, ⟨hunspent, hclock⟩, _, hdatabase, h⟩ := h
        obtain rfl := Except.ok.inj h
        have hnamed := List.find?_some hreset
        simp only [decide_eq_true_eq] at hnamed
        obtain ⟨hid, htenant, hown, hhash⟩ := hnamed
        exact ⟨user, reset, (Option.filter_eq_some_iff.mp huser).1,
          List.mem_of_find?_eq_some hreset, ⟨hid, htenant, hown, hhash⟩, hunspent,
          ⟨hclock, hdatabase⟩, by rw [hown]⟩

theorem resetPasswordWithToken_eq_ok {before : AuthTables}
    {tokenRaw password passwordHash : String}
    (h : service.resetPasswordWithToken tables around before tokenRaw password passwordHash =
      .ok next) :
    ∃ token locator user reset, normalizePasswordResetToken tokenRaw = some token ∧
      PasswordReset tables around locator (service.hashPasswordResetToken token) passwordHash user
        reset next := by
  unfold AuthService.resetPasswordWithToken at h
  split at h
  · cases h
  · rename_i token htoken
    obtain ⟨_, _, h⟩ := bind_eq_ok.mp h
    obtain ⟨locator, _, h⟩ := bind_eq_ok.mp h
    obtain ⟨user, reset, hreset⟩ := resetPassword_eq_ok h
    exact ⟨token, locator, user, reset, htoken, hreset⟩

/-- The step of a reset, which no proof evaluates. -/
theorem authStep_resetPassword (service : AuthService) (system : AuthSystem)
    (tokenRaw password passwordHash : String) (before : AuthTables) (around : Surroundings) :
    service.authStep system (.resetPassword tokenRaw password passwordHash before around) =
      system.settle (service.resetPasswordWithToken system.tables around before tokenRaw password
        passwordHash) := rfl

/-- Who changes his own credentials has a session that stands. -/
theorem selfSecurityContext_eq_ok {tenantId userId sessionId : String} {allowPinReset : Bool}
    {requiredPermission : Option String} {context : SelfSecurity}
    (h : tables.selfSecurityContext around tenantId userId sessionId allowPinReset
      requiredPermission = .ok context) :
    tables.liveUser? userId tenantId = some context.user ∧
      tables.session? sessionId userId = some context.session ∧
      context.settings = tenantSecuritySettings (around.security 0) ∧
      context.session.Active context.settings (around.clock 2) := by
  simp only [AuthTables.selfSecurityContext, bind_eq_ok] at h
  obtain ⟨access, _, _, _, h⟩ := h
  split at h
  · cases h
  · rename_i user huser
    obtain ⟨_, _, h⟩ := bind_eq_ok.mp h
    split at h
    · cases h
    · rename_i session hsession
      simp only [bind_eq_ok, assertSessionActive, ensure_eq_ok] at h
      obtain ⟨_, hactive, h⟩ := h
      obtain rfl := Except.ok.inj h
      exact ⟨huser, hsession, rfl, hactive⟩

theorem rotateOwnPin_eq_ok {tenantId userId sessionId currentPin newPin newPinHash : String}
    {observed : Option Int}
    (h : service.rotateOwnPin tables around tenantId userId sessionId currentPin newPin newPinHash
      observed = .ok next) :
    ∃ context, tables.selfSecurityContext around tenantId userId sessionId true
        (some "auth:login_pin") = .ok context ∧
      next = (tables.updateUser context.user (context.user.withPin newPinHash false
        (around.clock 5))).revokeSessionsOf userId (around.clock 5) := by
  simp only [AuthService.rotateOwnPin, bind_eq_ok] at h
  obtain ⟨_, _, _, _, context, hcontext, _, _, h⟩ := h
  refine ⟨context, hcontext, ?_⟩
  split at h
  · simp only [bind_eq_ok] at h
    obtain ⟨_, _, _, _, _, _, _, _, _, _, _, _, h⟩ := h
    exact (Except.ok.inj h).symm
  · cases h

/-- A claim writes claims only. -/
theorem claimTotpTimeStep_eq_ok {userId : String} {timeStep : Int}
    (h : tables.claimTotpTimeStep userId timeStep = .ok next) :
    ⟨userId, timeStep⟩ ∉ tables.mfaTotpClaims ∧
      next = tables.withClaim userId timeStep := by
  simp only [AuthTables.claimTotpTimeStep, bind_eq_ok, ensure_eq_ok] at h
  obtain ⟨_, hfresh, h⟩ := h
  exact ⟨hfresh, (Except.ok.inj h).symm⟩

theorem beginMfaEnrollment_eq_ok {tenantId userId sessionId encryptedSecret : String}
    (h : AuthService.beginMfaEnrollment tables around tenantId userId sessionId encryptedSecret =
      .ok next) :
    ∃ context, tables.selfSecurityContext around tenantId userId sessionId false none =
        .ok context ∧ context.user.mfaEnabled = false ∧
      next = tables.updateSessions
        (fun session => session.id = context.session.id ∧ session.userId = userId ∧
          session.revokedAt = none ∧ around.databaseClock 1 < session.expiresAt)
        (·.withEnrollment encryptedSecret
          (around.databaseClock 1 + mfaEnrollmentTtlSeconds * 1000)) := by
  simp only [AuthService.beginMfaEnrollment, bind_eq_ok, ensure_eq_ok] at h
  obtain ⟨context, hcontext, _, hdisabled, _, _, _, _, _, _, h⟩ := h
  exact ⟨context, hcontext, hdisabled, (Except.ok.inj h).symm⟩

/-- A confirmation claims the time step of its code, takes the pending secret off the session
and enables the second factor. -/
structure EnrollmentConfirmed (service : AuthService) (tables : AuthTables)
    (around : Surroundings) (actor : Actor) (code encryptedSecret : String)
    (backupCodeHashes : List String) (context : SelfSecurity) (confirmation : MfaConfirmation)
    (next : AuthTables) : Prop where
  context_eq : tables.selfSecurityContext around actor.tenantId actor.userId actor.sessionId false
    none = .ok context
  disabled : context.user.mfaEnabled = false
  pending : ∃ expiresAt secret, context.session.mfaEnrollmentExpiresAt = some expiresAt ∧
    service.decryptPendingMfaEnrollment context.session.mfaEnrollmentSecret = .ok secret ∧
    around.databaseClock 0 < expiresAt ∧
    service.findMatchingTotpTimeStep secret (normalizeMfaCode code) (around.clock 4) =
      some confirmation.timeStep
  confirmation_eq : confirmation.user = context.user ∧ confirmation.session = context.session
  unclaimed : ⟨actor.userId, confirmation.timeStep⟩ ∉ tables.mfaTotpClaims
  next_eq : next = ((tables.withClaim actor.userId confirmation.timeStep).updateSessions
      (fun session => session.id = context.session.id ∧ session.userId = actor.userId ∧
        session.revokedAt = none) (·.withoutEnrollment)).updateUser context.user
          (context.user.withSecondFactor encryptedSecret backupCodeHashes)

theorem confirmMfaEnrollment_eq_ok {actor : Actor} {code encryptedSecret : String}
    {backupCodeHashes : List String} {confirmation : MfaConfirmation}
    (h : service.confirmMfaEnrollment tables around actor.tenantId actor.userId actor.sessionId
      code encryptedSecret backupCodeHashes = .ok (confirmation, next)) :
    ∃ context, EnrollmentConfirmed service tables around actor code encryptedSecret
      backupCodeHashes context confirmation next := by
  simp only [AuthService.confirmMfaEnrollment, bind_eq_ok, ensure_eq_ok] at h
  obtain ⟨context, hcontext, _, hdisabled, h⟩ := h
  split at h
  · cases h
  · rename_i expiresAt hexpires
    simp only [bind_eq_ok, assertMfaEnrollmentLifetime, ensure_eq_ok] at h
    obtain ⟨secret, hsecret, _, ⟨_, _, _, _, hlifetime⟩, h⟩ := h
    split at h
    · cases h
    · rename_i timeStep hstep
      simp only [bind_eq_ok] at h
      obtain ⟨claimed, hclaimed, _, _, _, _, _, _, _, _, _, _, h⟩ := h
      -- The lifetime is asserted again before every write; the first assertion gives the bound.
      obtain ⟨hfresh, rfl⟩ := claimTotpTimeStep_eq_ok hclaimed
      obtain ⟨rfl, rfl⟩ := Prod.mk.inj (Except.ok.inj h)
      exact ⟨context, hcontext, hdisabled,
        ⟨expiresAt, secret, hexpires, hsecret, hlifetime expiresAt rfl, hstep⟩, ⟨rfl, rfl⟩, hfresh,
        rfl⟩

/-- Where the second factor is on, a code of it turns it off and ends every session. -/
theorem disableMfa_eq_ok {before : AuthTables} {tenantId userId sessionId code : String}
    {matched : Option MatchedCode}
    (h : service.disableMfa tables around before tenantId userId sessionId code =
      .ok (matched, next)) :
    ∃ context, tables.selfSecurityContext around tenantId userId sessionId false none =
        .ok context ∧
      ((context.user.mfaEnabled = false ∧ matched = none ∧ next = tables) ∨
        ∃ found claimed, matched = some found ∧
          found = service.matchCode context.user (normalizeMfaCode code) (around.clock 4) ∧
          tables.claimMatched userId found = .ok claimed ∧
          next = (claimed.updateUser context.user context.user.withoutSecondFactor
            ).revokeSessionsOf userId (around.clock 8)) := by
  simp only [AuthService.disableMfa, bind_eq_ok] at h
  obtain ⟨_, _, context, hcontext, _, _, _, _, h⟩ := h
  refine ⟨context, hcontext, ?_⟩
  split_ifs at h with hdisabled
  · obtain ⟨rfl, rfl⟩ := Prod.mk.inj (Except.ok.inj h)
    exact .inl ⟨hdisabled, rfl, rfl⟩
  · simp only [bind_eq_ok] at h
    obtain ⟨_, _, _, _, _, _, claimed, hclaimed, _, _, _, _, _, _, _, _, h⟩ := h
    obtain ⟨rfl, rfl⟩ := Prod.mk.inj (Except.ok.inj h)
    exact .inr ⟨_, claimed, rfl, rfl, hclaimed, rfl⟩

/-- A verification of the second factor under a session that stands. -/
structure MfaVerified (service : AuthService) (tables : AuthTables) (around : Surroundings)
    (actor : Actor) (code : String) (verification : MfaVerification) (next : AuthTables) :
    Prop where
  user : tables.liveUser? actor.userId actor.tenantId = some verification.user
  session : tables.session? actor.sessionId actor.userId = some verification.session
  active : verification.session.Active (tenantSecuritySettings (around.security 0)) (around.clock 2)
  accepted : ∀ found ∈ verification.matched, found.timeStep.isSome ∨ found.backupCodeHash.isSome
  outcome : (verification.matched = none ∧ next = tables) ∨
    ∃ found claimed, verification.matched = some found ∧
      found = service.matchCode verification.user (normalizeMfaCode code) (around.clock 3) ∧
      tables.claimMatched actor.userId found = .ok claimed ∧
      next = match found.backupCodeHash with
        | none => claimed
        | some hash =>
            claimed.updateUser verification.user (verification.user.withoutBackupCode hash)

theorem validateMfa_eq_ok {actor : Actor} {code : String} {verification : MfaVerification}
    (h : service.validateMfa tables around actor.tenantId actor.userId actor.sessionId code =
      .ok (verification, next)) :
    MfaVerified service tables around actor code verification next := by
  simp only [AuthService.validateMfa, bind_eq_ok] at h
  obtain ⟨_, _, h⟩ := h
  split at h
  · cases h
  · rename_i user huser
    simp only [bind_eq_ok] at h
    obtain ⟨_, _, _, _, _, _, h⟩ := h
    split at h
    · cases h
    · rename_i session hsession
      simp only [bind_eq_ok, assertSessionActive, ensure_eq_ok] at h
      obtain ⟨access, _, _, hactive, h⟩ := h
      split_ifs at h
      · obtain ⟨rfl, rfl⟩ := Prod.mk.inj (Except.ok.inj h)
        exact ⟨huser, hsession, hactive, fun found hfound => (by cases hfound),
          .inl ⟨rfl, rfl⟩⟩
      · simp only [bind_eq_ok, ensure_eq_ok] at h
        obtain ⟨_, haccepted, _, _, claimed, hclaimed, _, _, _, _, h⟩ := h
        obtain ⟨rfl, rfl⟩ := Prod.mk.inj (Except.ok.inj h)
        refine ⟨huser, hsession, hactive, fun found hfound => ?_,
          .inr ⟨_, claimed, rfl, rfl, hclaimed, rfl⟩⟩
        obtain rfl := Option.some.inj hfound
        exact haccepted

/-- A sign-in issues a session to a live user who has proved a credential that is still his. -/
structure SessionIssued (service : AuthService) (tables : AuthTables) (around : Surroundings)
    (signIn : SignIn) (drawn : NewSession) (issued : IssuedSession) (next : AuthTables) : Prop where
  user : tables.liveUser? signIn.userId signIn.tenantId = some issued.user
  settings : issued.settings = tenantSecuritySettings (around.security 0)
  proved : signIn.checkProof issued.user (around.clock 1) = .ok ()
  expiresAt : issued.expiresAt =
    around.clock 0 + issued.settings.sessionTimeoutMinutes * 60 * 1000
  session : issued.session = service.newSessionRow around signIn drawn issued.expiresAt
  access : around.access 0 = .ok issued.access
  mfaRequired : issued.mfaRequired = isMfaRequired issued.user issued.settings issued.access
  next_eq : next =
    ((tables.makeRoom signIn.userId (around.clock 2)).withSession issued.session).updateUser
      issued.user (issued.user.signedIn signIn.resetLoginAttempts (around.clock 3))
  fresh : ∀ other ∈ (tables.makeRoom signIn.userId (around.clock 2)).sessions,
    other.id ≠ issued.session.id

theorem issueSession_eq_ok {signIn : SignIn} {drawn : NewSession} {issued : IssuedSession}
    (h : service.issueSession tables around signIn drawn = .ok (issued, next)) :
    SessionIssued service tables around signIn drawn issued next := by
  simp only [AuthService.issueSession, bind_eq_ok, ensure_eq_ok] at h
  obtain ⟨_, _, _, _, _, _, h⟩ := h
  split at h
  · cases h
  · rename_i user huser
    simp only [bind_eq_ok, AuthTables.createSession, ensure_eq_ok] at h
    obtain ⟨_, hproved, access, haccess, _, _, created, ⟨_, hfresh, hcreated⟩, h⟩ := h
    obtain rfl := Except.ok.inj hcreated
    obtain ⟨rfl, rfl⟩ := Prod.mk.inj (Except.ok.inj h)
    exact ⟨huser, rfl, hproved, rfl, rfl, haccess, rfl, rfl,
      fun other hother => (hfresh other hother).1⟩

/-- A refresh that succeeds: the session stands, its current validator was presented, which it
has now spent, and the second factor was seen where it is required. -/
structure Rotated (service : AuthService) (tables : AuthTables) (around : Surroundings)
    (credential : RefreshCredential) (rotated : SelectedRefreshCredential)
    (locator : RefreshSessionLocator) (marker : Option RefreshMfaObservation)
    (authorization : RefreshAuthorization) (next : AuthTables) : Prop where
  session : tables.session? locator.sessionId locator.userId = some authorization.session
  unrevoked : authorization.session.revokedAt = none
  current : credential.matchesCurrent authorization.session = true
  unexpired : around.clock 0 < authorization.session.expiresAt
  active : authorization.session.Active (tenantSecuritySettings (around.security 0))
    (around.clock 4)
  unspent : ∀ replay ∈ tables.refreshTokenReplays,
    replay.validatorHash ≠ service.spentValidator credential authorization.session
  user : tables.userOf? authorization.session = some authorization.user
  access : around.access 0 = .ok authorization.access
  mfaRequired : authorization.mfaRequired = isMfaRequired authorization.user
    (tenantSecuritySettings (around.security 0)) authorization.access
  observed : authorization.mfaRequired = true → authorization.mfaVerified = true →
    marker = some ⟨locator, true⟩
  next_eq : next = (tables.withSpent authorization.session.id
      (service.spentValidator credential authorization.session)).updateSessions
        (·.id = authorization.session.id) (credential.rotate · rotated)

/-- A refresh that does not succeed changes nothing, or finds a spent validator and revokes
its session. -/
theorem rotateRefreshCredential_eq_ok {credential : RefreshCredential}
    {rotated : SelectedRefreshCredential} {locator : RefreshSessionLocator}
    {marker : Option RefreshMfaObservation} {outcome : RefreshRotation}
    (h : service.rotateRefreshCredential tables around credential rotated locator marker =
      .ok (outcome, next)) :
    (next = tables ∧ (outcome = .invalid ∨ outcome = .needsMfaMarker)) ∨
      (∃ session ∈ tables.sessions, outcome = .replayed session.id ∧
        next = tables.updateSessions (fun row => row.id = session.id ∧
          row.userId = locator.userId ∧ row.revokedAt = none) (·.revoke (around.clock 0))) ∨
      ∃ authorization, outcome = .rotated authorization ∧
        Rotated service tables around credential rotated locator marker authorization next := by
  unfold AuthService.rotateRefreshCredential at h
  split at h
  · obtain ⟨rfl, rfl⟩ := Prod.mk.inj (Except.ok.inj h)
    exact .inl ⟨rfl, .inl rfl⟩
  · rename_i session hsession
    split at h
    · obtain ⟨rfl, rfl⟩ := Prod.mk.inj (Except.ok.inj h)
      exact .inl ⟨rfl, .inl rfl⟩
    · rename_i user huser
      split_ifs at h with hrefused hcurrent hother
      · obtain ⟨rfl, rfl⟩ := Prod.mk.inj (Except.ok.inj h)
        exact .inl ⟨rfl, .inl rfl⟩
      · obtain ⟨rfl, rfl⟩ := Prod.mk.inj (Except.ok.inj h)
        exact .inl ⟨rfl, .inl rfl⟩
      · obtain ⟨rfl, rfl⟩ := Prod.mk.inj (Except.ok.inj h)
        exact .inr (.inl ⟨session, (AuthTables.session?_eq_some hsession).1, rfl, rfl⟩)
      · unfold AuthService.rotateCurrent at h
        split_ifs at h with hexpired
        · obtain ⟨rfl, rfl⟩ := Prod.mk.inj (Except.ok.inj h)
          exact .inl ⟨rfl, .inl rfl⟩
        · simp only [bind_eq_ok, assertSessionActive, ensure_eq_ok] at h
          obtain ⟨_, _, _, _, access, haccess, _, _, h⟩ := h
          split_ifs at h with hmarker
          · obtain ⟨rfl, rfl⟩ := Prod.mk.inj (Except.ok.inj h)
            exact .inl ⟨rfl, .inr rfl⟩
          · simp only [bind_eq_ok, AuthTables.spendValidator, ensure_eq_ok] at h
            obtain ⟨spent, ⟨_, hunspent, hspent⟩, _, _, _, _, _, hactive, h⟩ := h
            obtain rfl := Except.ok.inj hspent
            obtain ⟨rfl, rfl⟩ := Prod.mk.inj (Except.ok.inj h)
            simp only [not_or, not_le, Bool.not_eq_true, Option.isSome_eq_false_iff,
              Option.isNone_iff_eq_none, not_and, ne_eq, not_not] at hrefused hexpired hmarker
            refine .inr (.inr ⟨_, rfl, hsession, hrefused.1, by simpa using hcurrent, hexpired.1,
              hactive, hunspent, huser, haccess, rfl, ?_, rfl⟩)
            intro hrequired hverified
            have hlocator := hmarker hrequired
            dsimp only at hrequired hverified
            rw [hrequired, Bool.not_true, Bool.false_or] at hverified
            cases marker with
            | none => cases hverified
            | some observation =>
                obtain ⟨observed, verified⟩ := observation
                obtain rfl : observed = locator := by simpa using hlocator
                obtain rfl : verified = true := by simpa using hverified
                rfl

/-- What an access token is checked against: a session that stands, at the last read. -/
theorem validateAccessSession_eq_ok {before : AuthTables} {claims : TokenPayload} {marked : Bool}
    {access : ValidatedAccess}
    (h : tables.validateAccessSession around before claims marked = .ok access) :
    ∃ session, tables.session? claims.sessionId claims.sub = some session ∧
      session.Active (tenantSecuritySettings (around.security 0)) (around.clock 1) ∧
      (access.mfaRequired = true → access.mfaVerified = true → marked = true) := by
  simp only [AuthTables.validateAccessSession, bind_eq_ok, assertSessionActive, ensure_eq_ok] at h
  obtain ⟨_, _, _, _, _, _, policy, _, ⟨session, user⟩, hclaimed, _, hactive, h⟩ := h
  obtain rfl := Except.ok.inj h
  unfold AuthTables.claimedSession at hclaimed
  split at hclaimed
  · cases hclaimed
  · rename_i found hfound
    split at hclaimed
    · cases hclaimed
    · simp only [bind_eq_ok] at hclaimed
      obtain ⟨_, _, hclaimed⟩ := hclaimed
      obtain ⟨rfl, rfl⟩ := Prod.mk.inj (Except.ok.inj hclaimed)
      refine ⟨found, hfound, hactive, fun hrequired hverified => ?_⟩
      dsimp only at hrequired hverified
      rwa [hrequired, Bool.not_true, Bool.false_or] at hverified

/-! ## Attempts -/

theorem passwordAttempt_tables (userId tenantId password : String) (betaDemo : Bool) :
    (service.passwordAttempt tables around userId tenantId password).2 = tables ∨
      ∃ old new, UserWrite service tables
          (.passwordAttempt userId tenantId password betaDemo around) old new ∧
        (service.passwordAttempt tables around userId tenantId password).2 =
          tables.updateUser old new := by
  unfold AuthService.passwordAttempt
  split
  · exact .inl rfl
  · rename_i user huser
    split
    · exact .inl rfl
    · split_ifs with hlocked hwrong hcounted
      · exact .inl rfl
      · exact .inr ⟨user, _, .wrongPassword huser (by simpa using hlocked), rfl⟩
      · exact .inr ⟨user, _, .rightPassword huser, rfl⟩
      · exact .inl rfl

theorem pinAttempt_tables (userId tenantId : String) (pinProof : PinLoginProof) (pin : String) :
    (service.pinAttempt tables around userId tenantId pinProof pin).2 = tables ∨
      ∃ old new, UserWrite service tables (.pinAttempt userId tenantId pinProof pin around) old new ∧
        (service.pinAttempt tables around userId tenantId pinProof pin).2 =
          tables.updateUser old new := by
  unfold AuthService.pinAttempt
  split
  · exact .inl rfl
  · rename_i user huser
    split_ifs with hchanged hlocked hwrong hcounted
    · exact .inl rfl
    · exact .inl rfl
    · exact .inr ⟨user, _, .wrongPin huser (by simpa using hlocked), rfl⟩
    · exact .inr ⟨user, _, .rightPin huser, rfl⟩
    · exact .inl rfl

theorem recordFailedAttempt_tables (service : AuthService) (userId tenantId : String) :
    AuthService.recordFailedAttempt tables around userId tenantId = tables ∨
      ∃ old new, UserWrite service tables (.recordFailedAttempt userId tenantId around) old new ∧
        AuthService.recordFailedAttempt tables around userId tenantId =
          tables.updateUser old new := by
  unfold AuthService.recordFailedAttempt
  split
  · exact .inl rfl
  · rename_i user huser
    split_ifs with hlocked
    · exact .inl rfl
    · exact .inr ⟨user, _, .recorded huser (by simpa using hlocked), rfl⟩

theorem recoverPin_tables (userId tenantId pinHash : String) (now : Int) :
    AuthService.recoverPin tables userId tenantId pinHash now = tables ∨
      ∃ user, tables.liveUser? userId tenantId = some user ∧ user.username.isSome ∧
        AuthService.recoverPin tables userId tenantId pinHash now =
          (tables.updateUser user (user.withPin pinHash true now)).revokeSessionsOf userId now := by
  unfold AuthService.recoverPin
  split
  · exact .inl rfl
  · rename_i user huser
    split_ifs with husername
    · exact .inr ⟨user, huser, husername, rfl⟩
    · exact .inl rfl

theorem recoverMfa_tables (userId tenantId : String) (now : Int) :
    AuthService.recoverMfa tables userId tenantId now = tables ∨
      ∃ user, tables.liveUser? userId tenantId = some user ∧ user.mfaEnabled = true ∧
        AuthService.recoverMfa tables userId tenantId now =
          ((tables.updateUser user user.withoutSecondFactor).withoutClaimsOf
            userId).revokeSessionsOf userId now := by
  unfold AuthService.recoverMfa
  split
  · exact .inl rfl
  · rename_i user huser
    split_ifs with henabled
    · exact .inr ⟨user, huser, henabled, rfl⟩
    · exact .inl rfl

/-- A request for a reset spends the tokens of the user and makes one, or does nothing. -/
theorem createPasswordReset_tables {tenantId userId : String} {drawn : NewReset}
    (h : service.createPasswordReset tables around tenantId userId drawn = .ok next) :
    next = tables ∨ ∃ token email, token.id = drawn.tokenId ∧ token.tenantId = tenantId ∧
      token.userId = userId ∧ token.tokenHash = service.hashPasswordResetToken drawn.token ∧
      (∀ other ∈ tables.passwordResetTokens, other.tokenHash ≠ token.tokenHash) ∧
      next = { (tables.consumeTokensOf tenantId userId (around.clock 0)).supersedeEmailsOf
          service.sha256 tenantId userId (around.clock 1) with
        passwordResetTokens := (tables.consumeTokensOf tenantId userId
          (around.clock 0)).passwordResetTokens ++ [token]
        passwordResetEmails := ((tables.consumeTokensOf tenantId userId
          (around.clock 0)).supersedeEmailsOf service.sha256 tenantId userId
            (around.clock 1)).passwordResetEmails ++ [email] } := by
  simp only [AuthService.createPasswordReset, bind_eq_ok] at h
  obtain ⟨user, _, h⟩ := h
  split_ifs at h
  · exact .inl (Except.ok.inj h).symm
  · exact .inl (Except.ok.inj h).symm
  · obtain ⟨access, _, h⟩ := bind_eq_ok.mp h
    split_ifs at h
    · simp only [AuthTables.createReset, bind_eq_ok, ensure_eq_ok] at h
      obtain ⟨_, hfresh, _, _, h⟩ := h
      obtain rfl := Except.ok.inj h
      refine .inr ⟨_, _, rfl, rfl, rfl, rfl, fun other hother => ?_, rfl⟩
      have hconsumed := (hfresh _ (List.mem_map_of_mem hother)).2
      dsimp only at hconsumed ⊢
      split_ifs at hconsumed
      · exact hconsumed
      · exact hconsumed
    · exact .inl (Except.ok.inj h).symm

end LunchLineup.Auth
