import LunchLineup.Auth.Accounts

/-!
# Sign-in, refresh and logout

A session is issued in one transaction with the checks of the policy and of the credential
that was proved before it.  A refresh token names its session by a selector and proves it by
a validator.  A refresh looks its session up, rotates the validator in a transaction that
repeats every check under locks, and where the second factor is required reads its marker
outside and tries once more.  A validator that was rotated away revokes its session.
-/

namespace LunchLineup.Auth

open LunchLineup.Lib
open LunchLineup.Billing (jsTrim)

/-! ## Refresh tokens -/

structure SelectedRefreshCredential where
  selector : String
  selectorHash : String
  validatorHash : String
  deriving DecidableEq

inductive RefreshCredential where
  | selected (credential : SelectedRefreshCredential)
  | legacy (candidates : List String)
  deriving DecidableEq

/-- `[A-Za-z0-9_-]`. -/
def isBase64Url (c : Char) : Bool := c.isAlphanum || c == '_' || c == '-'

/-- `[a-f0-9]`, of either case. -/
def isHexDigit (c : Char) : Bool := c.isDigit || ('a' ≤ c.toLower && c.toLower ≤ 'f')

/-- `/^sha256:[a-f0-9]{64}$/i`. -/
def isSha256Text (text : String) : Bool :=
  ((text.toList.take 7).map Char.toLower == "sha256:".toList) &&
    (text.toList.drop 7).length == 64 && (text.toList.drop 7).all isHexDigit

/-- The groups of `/^v2\.([A-Za-z0-9_-]{43})\.([A-Za-z0-9_-]{43})$/`. -/
def matchSelected (text : String) : Option (String × String) :=
  let selector := (text.toList.drop 3).take 43
  let validator := text.toList.drop 47
  if text.toList = "v2.".toList ++ selector ++ '.' :: validator ∧
      selector.length = 43 ∧ validator.length = 43 ∧
      selector.all isBase64Url = true ∧ validator.all isBase64Url = true then
    some (String.ofList selector, String.ofList validator)
  else none

namespace AuthService

variable (service : AuthService)

def hashRefreshToken (refreshToken : String) : String := "sha256:" ++ service.sha256 refreshToken

def refreshTokenLookupCandidates (refreshToken : String) : List String :=
  if service.hashRefreshToken refreshToken = refreshToken then
    [service.hashRefreshToken refreshToken]
  else [service.hashRefreshToken refreshToken, refreshToken]

def canonicalRefreshTokenHash (storedToken : String) : String :=
  if isSha256Text storedToken then String.ofList (storedToken.toList.map Char.toLower)
  else service.hashRefreshToken storedToken

def hashSessionSelector (selector : String) : String :=
  "selector-sha256:" ++ service.sha256 selector

/-- `generateSelectedRefreshCredential`, of the random texts. -/
def selectedCredential (selector validator : String) : SelectedRefreshCredential where
  selector := selector
  selectorHash := service.hashSessionSelector selector
  validatorHash := service.hashRefreshToken validator

def parseRefreshCredential (refreshTokenRaw : String) : Option RefreshCredential :=
  let refreshToken := jsTrim refreshTokenRaw
  if refreshToken = "" then none
  else
    match matchSelected refreshToken with
    | some (selector, validator) => some (.selected (service.selectedCredential selector validator))
    | none =>
      if "v2.".toList.isPrefixOf refreshToken.toList then none
      else some (.legacy (service.refreshTokenLookupCandidates refreshToken))

end AuthService

/-- The text of a refresh token. -/
def refreshTokenText (selector validator : String) : String :=
  "v2." ++ selector ++ "." ++ validator

/-! ## Sign-in -/

inductive LoginMethod where
  | oidc
  | emailOtp
  | usernamePin
  | usernamePassword
  deriving DecidableEq

structure PinLoginProof where
  username : String
  pinHash : String
  deriving DecidableEq

/-- A user who has proved a credential, and with which hash. -/
structure SignIn where
  userId : String
  tenantId : String
  loginMethod : LoginMethod
  resetLoginAttempts : Bool
  betaDemo : Bool
  pinProof : Option PinLoginProof
  passwordProof : Option String
  emailProof : Option String
  deriving DecidableEq

/-- The random texts of a new session, and what its request says of itself. -/
structure NewSession where
  id : String
  selector : String
  validator : String
  ipAddress : String
  userAgent : String
  deriving DecidableEq

def maxActiveSessionsPerUser : Nat := 20

/-- The credential that was proved is still the user's. -/
def SignIn.checkProof (signIn : SignIn) (user : UserRow) (now : Int) : Except AuthError Unit :=
  match signIn.loginMethod with
  | .oidc => .ok ()
  | .emailOtp =>
    ensure (signIn.emailProof.isSome ∧ user.email = signIn.emailProof)
      (.unauthorized "Invalid workspace or login")
  | .usernamePassword =>
    ensure (signIn.passwordProof.isSome ∧ user.passwordHash = signIn.passwordProof)
      (.unauthorized "Invalid username or password")
  | .usernamePin =>
    ensure (signIn.pinProof.isSome ∧ user.pinHash = signIn.pinProof.map (·.pinHash) ∧
        user.username = signIn.pinProof.map (·.username) ∧
        ∀ locked ∈ user.pinLockedUntil, locked ≤ now)
      (.unauthorized "Invalid username or PIN")

/-- The user after a sign-in. -/
def UserRow.signedIn (user : UserRow) (resetLoginAttempts : Bool) (now : Int) : UserRow :=
  if resetLoginAttempts then
    { user with lastLoginAt := some now, loginAttempts := 0, lockedUntil := none }
  else { user with lastLoginAt := some now }

/-- The login method is among the user's permissions. -/
def SignIn.checkPermission (signIn : SignIn) (access : MfaPolicyAccess) : Except AuthError Unit :=
  match signIn.loginMethod with
  | .oidc => .ok ()
  | .emailOtp =>
    ensure ("auth:login_email" ∈ access.permissions) (.unauthorized "Invalid workspace or login")
  | .usernamePassword =>
    ensure ("auth:login_password" ∈ access.permissions)
      (.unauthorized "Invalid username or password")
  | .usernamePin =>
    ensure ("auth:login_pin" ∈ access.permissions) (.unauthorized "Invalid username or PIN")

/-- `ORDER BY createdAt DESC, id DESC`. -/
def newestFirst (first second : SessionRow) : Bool :=
  second.createdAt < first.createdAt ∨
    first.createdAt = second.createdAt ∧ second.id ≤ first.id

namespace AuthTables

variable (tables : AuthTables)

/-- The sessions of the user that do not stand are deleted. -/
def deleteEndedSessions (userId : String) (now : Int) : AuthTables :=
  tables.deleteSessions fun session =>
    session.userId = userId ∧ (session.revokedAt.isSome ∨ session.expiresAt ≤ now)

/-- The sessions of the user beyond the newest, of which one less than the limit stay. -/
def excessSessions (userId : String) (now : Int) : List SessionRow :=
  ((tables.sessions.filter fun session => session.userId = userId ∧ session.revokedAt = none ∧
    now < session.expiresAt).mergeSort newestFirst).drop (maxActiveSessionsPerUser - 1)

/-- The deletions before a new session. -/
def makeRoom (userId : String) (now : Int) : AuthTables :=
  (tables.deleteEndedSessions userId now).deleteSessions fun session =>
    session.userId = userId ∧
      session.id ∈ ((tables.deleteEndedSessions userId now).excessSessions userId now).map (·.id)

def withSession (session : SessionRow) : AuthTables :=
  { tables with sessions := tables.sessions ++ [session.fenceMfaEnrollment] }

/-- `session.create`. -/
def createSession (session : SessionRow) : Except AuthError AuthTables := do
  ensure (∀ other ∈ tables.sessions, other.id ≠ session.id ∧
      other.refreshToken ≠ session.refreshToken ∧
      (session.selectorHash.isSome → other.selectorHash ≠ session.selectorHash)) .uniqueViolation
  return tables.withSession session

end AuthTables

/-- What the transaction of `createSessionTokens` returns. -/
structure IssuedSession where
  session : SessionRow
  user : UserRow
  access : MfaPolicyAccess
  mfaRequired : Bool
  settings : TenantSecuritySettings
  expiresAt : Int

/-- What a sign-in answers. -/
structure SessionTokens where
  accessToken : TokenPayload
  refreshToken : String
  requiresMfa : Bool
  pinResetRequired : Bool
  sessionMaxAgeMs : Int
  deriving DecidableEq

namespace AuthService

variable (service : AuthService) (tables : AuthTables) (around : Surroundings)

/-- The row of a new session. -/
def newSessionRow (signIn : SignIn) (drawn : NewSession) (expiresAt : Int) : SessionRow where
  id := drawn.id
  userId := signIn.userId
  selectorHash := some (service.hashSessionSelector drawn.selector)
  refreshToken := service.hashRefreshToken drawn.validator
  ipAddress := drawn.ipAddress
  userAgent := drawn.userAgent
  expiresAt := expiresAt
  createdAt := around.databaseClock 0
  revokedAt := none
  mfaEnrollmentSecret := none
  mfaEnrollmentExpiresAt := none

/-- The transaction of `createSessionTokens`. -/
def issueSession (signIn : SignIn) (drawn : NewSession) :
    Except AuthError (IssuedSession × AuthTables) := do
  assertTenantCanAuthenticate (around.tenant 0)
  assertTenantCanAuthenticate (around.tenant 1)
  let settings := tenantSecuritySettings (around.security 0)
  ensure (settings.ssoOidcOnly = false ∨ signIn.loginMethod = .oidc)
    (if signIn.loginMethod = .usernamePin then .unauthorized "Invalid username or PIN"
      else .forbidden "This tenant requires SSO login.")
  let expiresAt := around.clock 0 + settings.sessionTimeoutMinutes * 60 * 1000
  match tables.liveUser? signIn.userId signIn.tenantId with
  | none => .error (.unauthorized "User account inactive")
  | some lockedUser =>
    signIn.checkProof lockedUser (around.clock 1)
    let access ← around.access 0
    signIn.checkPermission access
    let session := service.newSessionRow around signIn drawn expiresAt
    -- The user's ended sessions go, and of the others the oldest beyond the limit.
    let created ← (tables.makeRoom signIn.userId (around.clock 2)).createSession session
    let updated := created.updateUser lockedUser
      (lockedUser.signedIn signIn.resetLoginAttempts (around.clock 3))
    return (⟨session, lockedUser, access, isMfaRequired lockedUser settings access, settings,
      expiresAt⟩, updated)

/-- What `createSessionTokens` answers after its transaction. -/
def sessionTokens (signIn : SignIn) (drawn : NewSession) (issued : IssuedSession) :
    SessionTokens where
  accessToken :=
    { sub := issued.user.id
      tenantId := issued.user.tenantId
      role := issued.access.primaryRole
      legacyRole := issued.user.role
      sessionId := issued.session.id
      mfaVerified := !issued.mfaRequired || signIn.betaDemo
      pinResetRequired := issued.user.pinResetRequired }
  refreshToken := refreshTokenText drawn.selector drawn.validator
  requiresMfa := issued.mfaRequired && !(!issued.mfaRequired || signIn.betaDemo)
  pinResetRequired := issued.user.pinResetRequired
  sessionMaxAgeMs := issued.settings.sessionTimeoutMinutes * 60 * 1000

end AuthService

/-! ## Refresh -/

structure RefreshSessionLocator where
  sessionId : String
  userId : String
  tenantId : String
  deriving DecidableEq

structure RefreshMfaObservation where
  locator : RefreshSessionLocator
  verified : Bool
  deriving DecidableEq

/-- `RefreshAuthorizationContext`. -/
structure RefreshAuthorization where
  session : SessionRow
  user : UserRow
  access : MfaPolicyAccess
  effectiveExpiresAt : Int
  mfaRequired : Bool
  mfaVerified : Bool

inductive RefreshRotation where
  | rotated (authorization : RefreshAuthorization)
  | replayed (sessionId : String)
  | invalid
  | needsMfaMarker

/-- The session that a credential names. -/
def RefreshCredential.names (credential : RefreshCredential) (session : SessionRow) : Bool :=
  match credential with
  | .selected presented => session.selectorHash = some presented.selectorHash
  | .legacy candidates => session.refreshToken ∈ candidates

def RefreshCredential.suppliedValidatorHash : RefreshCredential → Option String
  | .selected presented => some presented.validatorHash
  | .legacy candidates => candidates.head?

/-- `currentCredentialMatches`. -/
def RefreshCredential.matchesCurrent (credential : RefreshCredential) (session : SessionRow) :
    Bool :=
  match credential with
  | .selected presented => session.refreshToken = presented.validatorHash
  | .legacy candidates => session.refreshToken ∈ candidates

/-- The selector is that of the session. -/
def RefreshCredential.selects (credential : RefreshCredential) (session : SessionRow) : Bool :=
  match credential with
  | .selected presented => session.selectorHash = some presented.selectorHash
  | .legacy _ => true

/-- The session with the new credential; a session without a selector gets one. -/
def RefreshCredential.rotate (credential : RefreshCredential) (session : SessionRow)
    (rotated : SelectedRefreshCredential) : SessionRow :=
  match credential with
  | .selected _ => { session with refreshToken := rotated.validatorHash }
  | .legacy _ =>
    { session with
      selectorHash := some rotated.selectorHash
      refreshToken := rotated.validatorHash }

namespace AuthTables

variable (tables : AuthTables)

/-- The user of a session. -/
def userOf? (session : SessionRow) : Option UserRow :=
  tables.users.find? fun user => user.id = session.userId

def replay? (validatorHash : Option String) : Option RefreshTokenReplay :=
  validatorHash.bind fun hash =>
    tables.refreshTokenReplays.find? fun replay => replay.validatorHash = hash

/-- The session that a credential names, or, of the old kind, that has spent it. -/
def refreshSession? (credential : RefreshCredential) : Option SessionRow :=
  match tables.sessions.find? credential.names with
  | some session => some session
  | none =>
    match credential with
    | .selected _ => none
    | .legacy candidates =>
      (tables.replay? candidates.head?).bind fun replay =>
        tables.sessions.find? fun session => session.id = replay.sessionId

def locateRefreshSession (credential : RefreshCredential) : Option RefreshSessionLocator := do
  let session ← tables.refreshSession? credential
  let user ← tables.userOf? session
  return ⟨session.id, session.userId, user.tenantId⟩

def withSpent (sessionId validatorHash : String) : AuthTables :=
  { tables with
    refreshTokenReplays := tables.refreshTokenReplays ++ [⟨sessionId, validatorHash⟩] }

/-- `refreshTokenReplay.create`. -/
def spendValidator (sessionId validatorHash : String) : Except AuthError AuthTables := do
  ensure (∀ replay ∈ tables.refreshTokenReplays, replay.validatorHash ≠ validatorHash)
    .uniqueViolation
  return tables.withSpent sessionId validatorHash

end AuthTables

namespace AuthService

variable (service : AuthService) (tables : AuthTables) (around : Surroundings)

/-- The validator that a rotation of the session spends. -/
def spentValidator (credential : RefreshCredential) (session : SessionRow) : String :=
  match credential with
  | .selected presented => presented.validatorHash
  | .legacy _ => service.canonicalRefreshTokenHash session.refreshToken

/-- `rotateRefreshCredential`, from the current credential on. -/
def rotateCurrent (credential : RefreshCredential) (rotatedCredential : SelectedRefreshCredential)
    (locator : RefreshSessionLocator) (marker : Option RefreshMfaObservation)
    (session : SessionRow) (user : UserRow) : Except AuthError (RefreshRotation × AuthTables) :=
  if session.expiresAt ≤ around.clock 0 ∨ user.deletedAt.isSome ∨ user.suspendedAt.isSome then
    .ok (.invalid, tables)
  else do
    assertTenantCanAuthenticate (around.tenant 0)
    let settings := tenantSecuritySettings (around.security 0)
    assertSessionActive session settings (around.clock 1)
    let access ← around.access 0
    assertSessionActive session settings (around.clock 2)
    let mfaRequired := isMfaRequired user settings access
    -- What was seen of a marker counts only for the session that it was seen for.
    if mfaRequired ∧ marker.map (·.locator) ≠ some locator then
      return (.needsMfaMarker, tables)
    else
      let mfaVerified := !mfaRequired || marker.any (·.verified)
      let spent ← tables.spendValidator session.id (service.spentValidator credential session)
      assertSessionActive session settings (around.clock 3)
      -- The unique indexes of the refresh token and of the selector.
      ensure (∀ other ∈ tables.sessions, other.id ≠ session.id →
          other.refreshToken ≠ rotatedCredential.validatorHash ∧
            (credential.rotate session rotatedCredential).selectorHash ≠ other.selectorHash)
        .uniqueViolation
      assertSessionActive session settings (around.clock 4)
      return (.rotated ⟨session, user, access, session.getEffectiveSessionExpiresAt settings,
        mfaRequired, mfaVerified⟩,
        spent.updateSessions (·.id = session.id) (credential.rotate · rotatedCredential))

/-- `rotateRefreshCredential`. -/
def rotateRefreshCredential (credential : RefreshCredential)
    (rotatedCredential : SelectedRefreshCredential) (locator : RefreshSessionLocator)
    (marker : Option RefreshMfaObservation) : Except AuthError (RefreshRotation × AuthTables) :=
  match tables.session? locator.sessionId locator.userId with
  | none => .ok (.invalid, tables)
  | some session =>
    match tables.userOf? session with
    | none => .ok (.invalid, tables)
    | some user =>
      if session.revokedAt.isSome ∨ user.tenantId ≠ locator.tenantId ∨
          credential.selects session = false then .ok (.invalid, tables)
      else if credential.matchesCurrent session = false then
        -- A validator that is not current is a replay if this session has spent it.
        if (tables.replay? credential.suppliedValidatorHash).map (·.sessionId) ≠ some session.id then
          .ok (.invalid, tables)
        else
          .ok (.replayed session.id, tables.updateSessions
            (fun row => row.id = session.id ∧ row.userId = locator.userId ∧ row.revokedAt = none)
            (·.revoke (around.clock 0)))
      else service.rotateCurrent tables around credential rotatedCredential locator marker session user

/-- The refresh token after a rotation. -/
def rotatedToken (credential : RefreshCredential) (drawn : NewSession) : String :=
  match credential with
  | .selected presented => refreshTokenText presented.selector drawn.validator
  | .legacy _ => refreshTokenText drawn.selector drawn.validator

/-- The claims after a rotation. -/
def rotatedClaims (authorization : RefreshAuthorization) : TokenPayload where
  sub := authorization.user.id
  tenantId := authorization.user.tenantId
  role := authorization.access.primaryRole
  legacyRole := authorization.user.role
  sessionId := authorization.session.id
  mfaVerified := authorization.mfaVerified
  pinResetRequired := authorization.user.pinResetRequired

end AuthService

/-! ## Checking and ending a session -/

/-- What `validateAccessSession` answers. -/
structure ValidatedAccess where
  access : MfaPolicyAccess
  mfaRequired : Bool
  mfaVerified : Bool
  pinResetRequired : Bool
  effectiveExpiresAt : Int
  legacyRole : String

namespace AuthTables

variable (tables : AuthTables) (around : Surroundings)

/-- The session of an access token with its user. -/
def claimedSession (claims : TokenPayload) : Except AuthError (SessionRow × UserRow) :=
  match tables.session? claims.sessionId claims.sub with
  | none => .error (.unauthorized "Invalid or expired session")
  | some session =>
    match tables.userOf? session with
    | none => .error (.unauthorized "Invalid or expired session")
    | some user => do
      ensure (user.deletedAt = none ∧ user.suspendedAt = none ∧ user.tenantId = claims.tenantId)
        (.unauthorized "Invalid or expired session")
      return (session, user)

/-- `validateAccessSession`: `before` is what the first reads see, and `marked` whether the
session has the marker of the second factor. -/
def validateAccessSession (before : AuthTables) (claims : TokenPayload) (marked : Bool) :
    Except AuthError ValidatedAccess := do
  let (session, user) ← before.claimedSession claims
  assertTenantCanAuthenticate (around.tenant 0)
  let settings := tenantSecuritySettings (around.security 0)
  assertSessionActive session settings (around.clock 0)
  let access ← around.access 0
  let mfaRequired := isMfaRequired user settings access
  -- The session and its user are read once more after the policy.
  let (finalSession, finalUser) ← tables.claimedSession claims
  assertSessionActive finalSession settings (around.clock 1)
  return ⟨access, mfaRequired, !mfaRequired || marked, finalUser.pinResetRequired,
    finalSession.getEffectiveSessionExpiresAt settings, finalUser.role⟩

/-- `revokeSession`. -/
def revokeSession (sessionId : String) : AuthTables :=
  tables.updateSessions (·.id = sessionId) (·.revoke (around.clock 0))

inductive LogoutStatus where
  | revoked
  | alreadyInvalid
  deriving DecidableEq

/-- `revokeSessionByRefreshToken`, of the session that was found in `before`. -/
def revokeSessionByRefreshToken (before : AuthTables) (credential : RefreshCredential) :
    LogoutStatus × AuthTables :=
  match before.sessions.find? credential.names with
  | none => (.alreadyInvalid, tables)
  | some session =>
    if session.revokedAt.isSome ∨ session.expiresAt ≤ around.clock 0 then (.alreadyInvalid, tables)
    else
      let ends := fun row : SessionRow => decide (row.id = session.id ∧
        credential.selects row = true ∧ row.revokedAt = none ∧ around.clock 1 < row.expiresAt)
      (if tables.sessions.countP ends = 1 then .revoked else .alreadyInvalid,
        tables.updateSessions ends (·.revoke (around.clock 2)))

end AuthTables

end LunchLineup.Auth
