import LunchLineup.Auth.Credentials

/-!
# The second factor

An authenticator code is accepted for its time step and one before and after, and claims the
step for the user, of which the database allows one claim.  A backup code is taken off the
user's list.  An enrollment keeps its secret on the session that began it, for ten minutes, and
is confirmed with a code under that secret.
-/

namespace LunchLineup.Auth

open LunchLineup.Lib
open LunchLineup.Billing (jsTrim isJsSpace)

def mfaEnrollmentTtlSeconds : Int := 600

/-- `code.trim().replace(/\s+/g, '')`. -/
def normalizeMfaCode (code : String) : String :=
  String.ofList (code.toList.filter fun c => !isJsSpace c)

/-- `/^\d{6}$/`. -/
def isTotpText (code : String) : Bool := code.length == 6 && code.toList.all Char.isDigit

/-- The code that was accepted: the time step of the authenticator, and the hash of a backup
code. -/
structure MatchedCode where
  timeStep : Option Int
  backupCodeHash : Option String
  deriving DecidableEq

namespace AuthService

variable (service : AuthService)

def findMatchingTotpTimeStep (secret code : String) (now : Int) : Option Int :=
  if isTotpText code then
    [now / 30000 - 1, now / 30000, now / 30000 + 1].find? fun timeStep =>
      service.totpCode secret timeStep = some code
  else none

def findMatchingBackupCodeHash (code : String) (backupCodeHashes : List String) : Option String :=
  backupCodeHashes.find? (service.matchesBackupCode code)

/-- What a code is of the user's. -/
def matchCode (user : UserRow) (code : String) (now : Int) : MatchedCode where
  timeStep := user.mfaSecret.bind fun secret => service.findMatchingTotpTimeStep secret code now
  backupCodeHash := service.findMatchingBackupCodeHash code user.mfaBackupCodes

/-- `decryptPendingMfaEnrollment`. -/
def decryptPendingMfaEnrollment (stored : Option String) : Except AuthError String :=
  match stored.bind service.decryptMfaSecret with
  | none => .error (.badRequest "MFA enrollment has expired")
  | some secret => do
    ensure (secret.length = 32 ∧ (secret.toList.all fun c =>
        ('A' ≤ c && c ≤ 'Z') || ('2' ≤ c && c ≤ '7')) = true)
      (.badRequest "MFA enrollment has expired")
    return secret

end AuthService

def UserRow.withSecondFactor (user : UserRow) (encryptedSecret : String)
    (backupCodeHashes : List String) : UserRow :=
  { user with
    mfaEnabled := true
    mfaSecret := some encryptedSecret
    mfaBackupCodes := backupCodeHashes }

def UserRow.withoutSecondFactor (user : UserRow) : UserRow :=
  { user with mfaEnabled := false, mfaSecret := none, mfaBackupCodes := [] }

def UserRow.withoutBackupCode (user : UserRow) (hash : String) : UserRow :=
  { user with mfaBackupCodes := user.mfaBackupCodes.filter (· ≠ hash) }

def SessionRow.withEnrollment (session : SessionRow) (encryptedSecret : String)
    (expiresAt : Int) : SessionRow :=
  { session with
    mfaEnrollmentSecret := some encryptedSecret
    mfaEnrollmentExpiresAt := some expiresAt }

namespace AuthTables

variable (tables : AuthTables) (around : Surroundings)

def withClaim (userId : String) (timeStep : Int) : AuthTables :=
  { tables with mfaTotpClaims := tables.mfaTotpClaims ++ [⟨userId, timeStep⟩] }

/-- `claimTotpTimeStep`. -/
def claimTotpTimeStep (userId : String) (timeStep : Int) : Except AuthError AuthTables := do
  ensure (⟨userId, timeStep⟩ ∉ tables.mfaTotpClaims) (.forbidden "Invalid MFA code")
  return tables.withClaim userId timeStep

/-- The claim of a code that an authenticator made. -/
def claimMatched (userId : String) (matched : MatchedCode) : Except AuthError AuthTables :=
  match matched.timeStep with
  | none => .ok tables
  | some timeStep => tables.claimTotpTimeStep userId timeStep

/-- `loadMfaSessionContext`, as far as it refuses. -/
def loadMfaSessionContext (tenantId userId sessionId : String) : Except AuthError Unit := do
  match tables.liveUser? userId tenantId with
  | none => .error (.unauthorized "User not found")
  | some user =>
    match tables.session? sessionId userId with
    | none => .error (.unauthorized "Invalid or expired session")
    | some session =>
      ensure (user.pinResetRequired = false) (.forbidden "PIN rotation required before MFA access")
      assertTenantCanAuthenticate (around.tenant 0)
      assertSessionActive session (tenantSecuritySettings (around.security 0)) (around.clock 0)

end AuthTables

/-- `assertMfaEnrollmentLifetimeInTransaction`, at the time of the database and of the
process. -/
def assertMfaEnrollmentLifetime (session : SessionRow) (settings : TenantSecuritySettings)
    (enrollmentExpiresAt : Option Int) (databaseNow now : Int) : Except AuthError Unit := do
  assertSessionActive session settings now
  ensure (databaseNow < session.getEffectiveSessionExpiresAt settings)
    (.unauthorized "Invalid or expired session")
  ensure (∀ expiresAt ∈ enrollmentExpiresAt, databaseNow < expiresAt)
    (.badRequest "MFA enrollment has expired")

/-- What a verification of the second factor comes to. -/
structure MfaVerification where
  user : UserRow
  session : SessionRow
  access : MfaPolicyAccess
  effectiveExpiresAt : Int
  matched : Option MatchedCode

/-- What a confirmation of an enrollment comes to. -/
structure MfaConfirmation where
  user : UserRow
  session : SessionRow
  access : MfaPolicyAccess
  effectiveExpiresAt : Int
  timeStep : Int

namespace AuthService

variable (service : AuthService) (tables : AuthTables) (around : Surroundings)

/-- The transaction of `beginMfaEnrollment`, with the secret that was drawn, encrypted. -/
def beginMfaEnrollment (tenantId userId sessionId encryptedSecret : String) :
    Except AuthError AuthTables := do
  let context ← tables.selfSecurityContext around tenantId userId sessionId false none
  ensure (context.user.mfaEnabled = false) (.badRequest "MFA is already enabled")
  assertMfaEnrollmentLifetime context.session context.settings none (around.databaseClock 0)
    (around.clock 3)
  ensure (around.databaseClock 1 < context.session.expiresAt)
    (.unauthorized "Invalid or expired session")
  let expiresAt := around.databaseClock 1 + mfaEnrollmentTtlSeconds * 1000
  let updated := tables.updateSessions
    (fun session => session.id = context.session.id ∧ session.userId = userId ∧
      session.revokedAt = none ∧ around.databaseClock 1 < session.expiresAt)
    (·.withEnrollment encryptedSecret expiresAt)
  assertMfaEnrollmentLifetime context.session context.settings (some expiresAt)
    (around.databaseClock 2) (around.clock 4)
  return updated

/-- The lifetime of the pending enrollment, and the code's time step once more. -/
def recheckEnrollment (context : SelfSecurity) (expiresAt : Int) (secret code : String)
    (timeStep : Int) (reading : Nat) : Except AuthError Unit := do
  assertMfaEnrollmentLifetime context.session context.settings (some expiresAt)
    (around.databaseClock reading) (around.clock (3 + 2 * reading))
  ensure (service.findMatchingTotpTimeStep secret code (around.clock (4 + 2 * reading)) =
      some timeStep) (.forbidden "Invalid MFA code")

/-- The transaction of `confirmMfaEnrollment`, with the hashes of the backup codes. -/
def confirmMfaEnrollment (tenantId userId sessionId code : String) (encryptedSecret : String)
    (backupCodeHashes : List String) : Except AuthError (MfaConfirmation × AuthTables) := do
  let context ← tables.selfSecurityContext around tenantId userId sessionId false none
  ensure (context.user.mfaEnabled = false) (.badRequest "MFA is already enabled")
  match context.session.mfaEnrollmentExpiresAt with
  | none => .error (.badRequest "MFA enrollment has expired")
  | some expiresAt =>
    let secret ← service.decryptPendingMfaEnrollment context.session.mfaEnrollmentSecret
    assertMfaEnrollmentLifetime context.session context.settings (some expiresAt)
      (around.databaseClock 0) (around.clock 3)
    match service.findMatchingTotpTimeStep secret (normalizeMfaCode code) (around.clock 4) with
    | none => .error (.forbidden "Invalid MFA code")
    | some timeStep =>
      let claimed ← tables.claimTotpTimeStep userId timeStep
      service.recheckEnrollment around context expiresAt secret (normalizeMfaCode code) timeStep 1
      ensure (around.databaseClock 2 < expiresAt ∧
          around.databaseClock 2 < context.session.expiresAt)
        (.badRequest "MFA enrollment has expired")
      -- The pending secret is consumed before the second factor is on.
      let consumed := claimed.updateSessions
        (fun session => session.id = context.session.id ∧ session.userId = userId ∧
          session.revokedAt = none) (·.withoutEnrollment)
      service.recheckEnrollment around context expiresAt secret (normalizeMfaCode code) timeStep 3
      let enabled := consumed.updateUser context.user
        (context.user.withSecondFactor encryptedSecret backupCodeHashes)
      service.recheckEnrollment around context expiresAt secret (normalizeMfaCode code) timeStep 4
      service.recheckEnrollment around context expiresAt secret (normalizeMfaCode code) timeStep 5
      return (⟨context.user, context.session, context.access,
        context.session.getEffectiveSessionExpiresAt context.settings, timeStep⟩, enabled)

/-- `disableMfa`; `before` is what its first look sees. -/
def disableMfa (before : AuthTables) (tenantId userId sessionId code : String) :
    Except AuthError (Option MatchedCode × AuthTables) := do
  before.loadMfaSessionContext around tenantId userId sessionId
  let context ← tables.selfSecurityContext around tenantId userId sessionId false none
  ensure (isPrivilegedMfaRequiredForAccess context.access = false)
    (.forbidden "MFA is required for administrative access")
  ensure (context.settings.requireMfaForAll = false)
    (.forbidden "MFA is required by workspace policy")
  if context.user.mfaEnabled = false then return (none, tables)
  else
    assertSessionActive context.session context.settings (around.clock 3)
    let matched := service.matchCode context.user (normalizeMfaCode code) (around.clock 4)
    ensure (matched.timeStep.isSome ∨ matched.backupCodeHash.isSome) (.forbidden "Invalid MFA code")
    assertSessionActive context.session context.settings (around.clock 5)
    let claimed ← tables.claimMatched userId matched
    assertSessionActive context.session context.settings (around.clock 6)
    let disabled := claimed.updateUser context.user context.user.withoutSecondFactor
    assertSessionActive context.session context.settings (around.clock 7)
    -- Every session ends, the one that asks too.
    let revoked := disabled.revokeSessionsOf userId (around.clock 8)
    assertSessionActive context.session context.settings (around.clock 9)
    assertSessionActive context.session context.settings (around.clock 10)
    return (some matched, revoked)

/-- The transaction of `validateMfa`. -/
def validateMfa (tenantId userId sessionId code : String) :
    Except AuthError (MfaVerification × AuthTables) := do
  assertTenantCanAuthenticate (around.tenant 0)
  match tables.liveUser? userId tenantId with
  | none => .error (.unauthorized "User not found")
  | some user =>
    ensure (user.pinResetRequired = false) (.forbidden "PIN rotation required before MFA access")
    ensure (lockedAt user.lockedUntil (around.clock 0) = false)
      (.forbidden "Account locked due to too many failed attempts")
    ensure (lockedAt user.pinLockedUntil (around.clock 1) = false)
      (.forbidden "Account locked due to too many failed PIN attempts")
    match tables.session? sessionId userId with
    | none => .error (.unauthorized "Invalid or expired session")
    | some session =>
      let settings := tenantSecuritySettings (around.security 0)
      let access ← around.access 0
      assertSessionActive session settings (around.clock 2)
      let effectiveExpiresAt := session.getEffectiveSessionExpiresAt settings
      -- Where no second factor is demanded the code is not looked at.
      if isMfaRequired user settings access = false then
        return (⟨user, session, access, effectiveExpiresAt, none⟩, tables)
      else
        let matched := service.matchCode user (normalizeMfaCode code) (around.clock 3)
        ensure (matched.timeStep.isSome ∨ matched.backupCodeHash.isSome)
          (.forbidden "Invalid MFA code")
        assertSessionActive session settings (around.clock 4)
        let claimed ← tables.claimMatched userId matched
        assertSessionActive session settings (around.clock 5)
        -- A backup code is struck off, also one that the authenticator could have made.
        let used := match matched.backupCodeHash with
          | none => claimed
          | some hash => claimed.updateUser user (user.withoutBackupCode hash)
        assertSessionActive session settings (around.clock 6)
        return (⟨user, session, access, effectiveExpiresAt, some matched⟩, used)

/-- The claims after the second factor was verified. -/
def verifiedClaims (user : UserRow) (session : SessionRow) (access : MfaPolicyAccess) :
    TokenPayload where
  sub := user.id
  tenantId := user.tenantId
  role := access.primaryRole
  legacyRole := user.role
  sessionId := session.id
  mfaVerified := true
  pinResetRequired := false

end AuthService

end LunchLineup.Auth
