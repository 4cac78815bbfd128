import LunchLineup.Billing.Wallet
import LunchLineup.Lib.Checked
import LunchLineup.Lib.Table

/-!
# Accounts and sessions

The tables of sign-in: users with their credentials, sessions with the hash of their refresh
validator, the validators that a session has spent, password reset tokens and the time steps
whose authenticator code has been used.  A session stands as long as it is neither revoked nor
older than the workspace's policy allows (`assertSessionActive`).

Two triggers clear the secret of a pending enrollment: of a session that is revoked, and of
all sessions of a user whose second factor changes.  Two more follow what other services do to
a user: a suspension revokes his sessions, and a deletion scrubs his row and his sessions and
erases what is left of his credentials.
-/

namespace LunchLineup.Auth

open LunchLineup.Lib
open LunchLineup.Billing (jsTrim)

/-- What the service throws. -/
inductive AuthError where
  | badRequest (message : String)
  | unauthorized (message : String)
  | forbidden (message : String)
  | unavailable (message : String)
  /-- `P2002` where nothing catches it. -/
  | uniqueViolation
  deriving DecidableEq

/-! ## Rows -/

/-- `User`. -/
structure UserRow where
  id : String
  tenantId : String
  role : String
  email : Option String
  username : Option String
  passwordHash : Option String
  loginAttempts : Nat
  lockedUntil : Option Int
  lastLoginAt : Option Int
  pinHash : Option String
  pinSetAt : Option Int
  pinResetRequired : Bool
  pinLoginAttempts : Nat
  pinLockedUntil : Option Int
  mfaEnabled : Bool
  mfaSecret : Option String
  mfaBackupCodes : List String
  deletedAt : Option Int
  suspendedAt : Option Int
  deriving DecidableEq

/-- `Session`. -/
structure SessionRow where
  id : String
  userId : String
  selectorHash : Option String
  refreshToken : String
  ipAddress : String
  userAgent : String
  expiresAt : Int
  createdAt : Int
  revokedAt : Option Int
  mfaEnrollmentSecret : Option String
  mfaEnrollmentExpiresAt : Option Int
  deriving DecidableEq

/-- `RefreshTokenReplay`. -/
structure RefreshTokenReplay where
  sessionId : String
  validatorHash : String
  deriving DecidableEq

/-- `PasswordResetToken`. -/
structure PasswordResetToken where
  id : String
  tenantId : String
  userId : String
  tokenHash : String
  expiresAt : Int
  consumedAt : Option Int
  deriving DecidableEq

/-- `MfaTotpClaim`. -/
structure MfaTotpClaim where
  userId : String
  timeStep : Int
  deriving DecidableEq

inductive PasswordResetEmailStatus where
  | pending
  | sending
  | failed
  | delivered
  | deadLettered
  deriving DecidableEq

/-- `PasswordResetEmailOutbox`. -/
structure PasswordResetEmail where
  id : String
  tenantId : String
  userId : String
  tokenHash : String
  encryptedPayload : String
  encryptionKeyRef : String
  status : PasswordResetEmailStatus
  attempts : Nat
  nextAttemptAt : Int
  leaseUntil : Option Int
  expiresAt : Int
  deliveredAt : Option Int
  deadLetteredAt : Option Int
  lastError : Option String
  createdAt : Int
  deriving DecidableEq

structure AuthTables where
  users : List UserRow
  sessions : List SessionRow
  refreshTokenReplays : List RefreshTokenReplay
  passwordResetTokens : List PasswordResetToken
  passwordResetEmails : List PasswordResetEmail
  mfaTotpClaims : List MfaTotpClaim

/-! ## Policy -/

inductive TenantStatus where
  | trial
  | active
  | pastDue
  | suspended
  | cancelled
  | purged
  deriving DecidableEq

structure TenantAuthState where
  status : TenantStatus
  deletedAt : Option Int

def assertTenantCanAuthenticate (tenant : Option TenantAuthState) : Except AuthError Unit :=
  match tenant with
  | none => .error (.unauthorized "Invalid workspace or login")
  | some tenant =>
    ensure (tenant.deletedAt = none ∧ tenant.status ≠ .suspended ∧ tenant.status ≠ .purged)
      (.unauthorized "Invalid workspace or login")

/-- `security` of the workspace settings: what is `true`, and the timeout if it is an
integer. -/
structure StoredSecurity where
  requireMfaForAll : Bool
  ssoOidcOnly : Bool
  sessionTimeoutMinutes : Option Int

structure TenantSecuritySettings where
  requireMfaForAll : Bool
  sessionTimeoutMinutes : Int
  ssoOidcOnly : Bool

def normalizeSessionTimeoutMinutes (value : Option Int) : Int :=
  match value with
  | none => 480
  | some minutes => if 5 ≤ minutes ∧ minutes ≤ 1440 then minutes else 480

def tenantSecuritySettings (stored : StoredSecurity) : TenantSecuritySettings where
  requireMfaForAll := stored.requireMfaForAll
  sessionTimeoutMinutes := normalizeSessionTimeoutMinutes stored.sessionTimeoutMinutes
  ssoOidcOnly := stored.ssoOidcOnly

theorem normalizeSessionTimeoutMinutes_bounds (value : Option Int) :
    5 ≤ normalizeSessionTimeoutMinutes value ∧ normalizeSessionTimeoutMinutes value ≤ 1440 := by
  unfold normalizeSessionTimeoutMinutes
  cases value with
  | none => decide
  | some minutes =>
      dsimp only
      split_ifs with hrange
      · exact hrange
      · decide

/-- What the roles of a user come to. -/
structure MfaPolicyAccess where
  primaryRole : String
  permissions : List String

def mfaRequiredPermissionKeys : List String :=
  ["admin_portal:access", "tenant_account:lifecycle", "account:data_export", "users:write",
    "users:admin", "roles:write", "roles:assign", "time_cards:approve", "payroll:read",
    "payroll:policy_write", "payroll:lock", "payroll:export", "payroll:reconcile",
    "billing:write", "settings:write"]

def isPrivilegedMfaRequiredForAccess (access : MfaPolicyAccess) : Bool :=
  access.permissions.any fun permission => mfaRequiredPermissionKeys.contains permission

def isMfaRequired (user : UserRow) (settings : TenantSecuritySettings)
    (access : MfaPolicyAccess) : Bool :=
  user.mfaEnabled || settings.requireMfaForAll || isPrivilegedMfaRequiredForAccess access

/-! ## Sessions -/

def SessionRow.getEffectiveSessionExpiresAt (session : SessionRow)
    (settings : TenantSecuritySettings) : Int :=
  min (session.createdAt + settings.sessionTimeoutMinutes * 60 * 1000) session.expiresAt

/-- A session that stands at a time. -/
def SessionRow.Active (session : SessionRow) (settings : TenantSecuritySettings) (now : Int) :
    Prop :=
  session.revokedAt = none ∧ now < session.getEffectiveSessionExpiresAt settings

instance (session : SessionRow) (settings : TenantSecuritySettings) (now : Int) :
    Decidable (session.Active settings now) := inferInstanceAs (Decidable (_ ∧ _))

def assertSessionActive (session : SessionRow) (settings : TenantSecuritySettings) (now : Int) :
    Except AuthError Unit :=
  ensure (session.Active settings now) (.unauthorized "Invalid or expired session")

/-- `fence_session_mfa_enrollment`. -/
def SessionRow.fenceMfaEnrollment (session : SessionRow) : SessionRow :=
  if session.revokedAt.isSome then
    { session with mfaEnrollmentSecret := none, mfaEnrollmentExpiresAt := none }
  else session

/-- The session without a pending enrollment. -/
def SessionRow.withoutEnrollment (session : SessionRow) : SessionRow :=
  { session with mfaEnrollmentSecret := none, mfaEnrollmentExpiresAt := none }

def SessionRow.revoke (session : SessionRow) (now : Int) : SessionRow :=
  { session with revokedAt := some now }.fenceMfaEnrollment

/-- `scrub_deleted_user_row`. -/
def UserRow.scrubDeleted (user : UserRow) : UserRow :=
  if user.deletedAt = none then user
  else
    { user with
      suspendedAt := none
      email := none
      username := none
      passwordHash := none
      pinHash := none
      pinSetAt := none
      pinResetRequired := false
      pinLoginAttempts := 0
      pinLockedUntil := none
      mfaEnabled := false
      mfaSecret := none
      mfaBackupCodes := []
      loginAttempts := 0
      lockedUntil := none
      lastLoginAt := none }

/-- What a deletion leaves of a session. -/
def SessionRow.scrubDeleted (session : SessionRow) (sha256 : String → String) (deletedAt : Int) :
    SessionRow :=
  { session with
    selectorHash := none
    refreshToken := sha256 ("deleted-session:" ++ session.id)
    ipAddress := "[deleted]"
    userAgent := "[deleted]" }.revoke deletedAt

namespace AuthTables

variable (tables : AuthTables)

def session? (id userId : String) : Option SessionRow :=
  tables.sessions.find? fun session => session.id = id ∧ session.userId = userId

def user? (id tenantId : String) : Option UserRow :=
  tables.users.find? fun user => user.id = id ∧ user.tenantId = tenantId

/-- The user, neither deleted nor suspended. -/
def liveUser? (id tenantId : String) : Option UserRow :=
  tables.users.find? fun user =>
    user.id = id ∧ user.tenantId = tenantId ∧ user.deletedAt = none ∧ user.suspendedAt = none

/-- `session.updateMany`, of the sessions that meet a condition. -/
def updateSessions (condition : SessionRow → Bool) (change : SessionRow → SessionRow) :
    AuthTables :=
  { tables with
    sessions := tables.sessions.map fun session =>
      if condition session then change session else session }

/-- The sessions of a user that stand are revoked. -/
def revokeSessionsOf (userId : String) (now : Int) : AuthTables :=
  tables.updateSessions (fun session => session.userId = userId ∧ session.revokedAt = none)
    (·.revoke now)

/-- `session.deleteMany`, and its cascade. -/
def deleteSessions (condition : SessionRow → Bool) : AuthTables :=
  { tables with
    sessions := tables.sessions.filter fun session => !condition session
    refreshTokenReplays := tables.refreshTokenReplays.filter fun replay =>
      !(tables.sessions.any fun session => condition session && session.id == replay.sessionId) }

/-- `passwordResetToken.deleteMany`. -/
def deleteTokens (condition : PasswordResetToken → Bool) : AuthTables :=
  { tables with
    passwordResetTokens := tables.passwordResetTokens.filter fun token => !condition token }

/-- `mfaTotpClaim.deleteMany`. -/
def withoutClaimsOf (userId : String) : AuthTables :=
  { tables with mfaTotpClaims := tables.mfaTotpClaims.filter (·.userId ≠ userId) }

/-- `user.update` of a user who is neither deleted nor suspended by it, with
`invalidate_user_mfa_enrollments`. -/
def updateUser (old new : UserRow) : AuthTables :=
  let updated := { tables with users := replaceRow (·.id) tables.users new }
  if old.mfaEnabled = new.mfaEnabled ∧ old.mfaSecret = new.mfaSecret ∧
      old.tenantId = new.tenantId then updated
  else
    updated.updateSessions
      (fun session => session.userId = new.id ∧ session.mfaEnrollmentSecret.isSome)
      (·.withoutEnrollment)

/-- `invalidate_deleted_user_auth_artifacts`. -/
def eraseUser (sha256 : String → String) (user : UserRow) (deletedAt : Int) : AuthTables :=
  { tables with
    sessions := tables.sessions.map fun session =>
      if session.userId = user.id then session.scrubDeleted sha256 deletedAt else session
    refreshTokenReplays := tables.refreshTokenReplays.filter fun replay =>
      !(tables.sessions.any fun session =>
        session.userId == user.id && session.id == replay.sessionId)
    passwordResetTokens := tables.passwordResetTokens.filter fun token =>
      ¬ (token.tenantId = user.tenantId ∧ token.userId = user.id)
    passwordResetEmails := tables.passwordResetEmails.filter fun email =>
      ¬ (email.tenantId = user.tenantId ∧ email.userId = user.id)
    mfaTotpClaims := tables.mfaTotpClaims.filter (·.userId ≠ user.id) }

/-- `user.update` by another service, with the triggers of deletion and suspension. -/
def administerUser (sha256 : String → String) (old new : UserRow) : AuthTables :=
  let updated := tables.updateUser old new.scrubDeleted
  match new.scrubDeleted.deletedAt, new.scrubDeleted.suspendedAt with
  | some deletedAt, _ => updated.eraseUser sha256 new.scrubDeleted deletedAt
  | none, some suspendedAt =>
    if old.suspendedAt = some suspendedAt then updated
    else updated.revokeSessionsOf new.id suspendedAt
  | none, none => updated

end AuthTables

/-! ## Surroundings -/

/-- What a transaction meets: the readings of the clocks of the process and of the database,
one after the other, and of what other tables hold. -/
structure Surroundings where
  clock : Nat → Int
  databaseClock : Nat → Int
  tenant : Nat → Option TenantAuthState
  security : Nat → StoredSecurity
  access : Nat → Except AuthError MfaPolicyAccess

/-- What the service takes from Node: digests, comparisons with stored hashes, and the
encryption of secrets. -/
structure AuthService where
  sha256 : String → String
  verifyPassword : String → String → Bool
  verifyPin : String → String → Bool
  matchesBackupCode : String → String → Bool
  totpCode : String → Int → Option String
  decryptMfaSecret : String → Option String

/-- `TokenPayload`. -/
structure TokenPayload where
  sub : String
  tenantId : String
  role : String
  legacyRole : String
  sessionId : String
  mfaVerified : Bool
  pinResetRequired : Bool
  deriving DecidableEq

end LunchLineup.Auth
