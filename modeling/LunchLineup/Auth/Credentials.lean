import LunchLineup.Auth.Sessions

/-!
# Passwords, PINs and resets

A password and a PIN are each tried under the lock of the user's row, and the fifth wrong one
in a row locks the account for a quarter of an hour.  A forgotten password is replaced with a
token that is mailed: a request supersedes the tokens before it, and a reset spends its token
with all others and revokes every session.
-/

namespace LunchLineup.Auth

open LunchLineup.Lib
open LunchLineup.Billing (jsTrim jsLength)

/-! ## Attempts -/

def maxFailedAttempts : Nat := 5

def lockoutMs : Int := 15 * 60 * 1000

/-- What one attempt comes to. -/
inductive Attempt (Proof : Type) where
  | invalid
  | locked
  | authenticated (user : UserRow) (proof : Proof)
  deriving DecidableEq

/-- The lock that so many wrong attempts bring. -/
def lockAfter (attempts : Nat) (now : Int) : Option Int :=
  if maxFailedAttempts ≤ attempts then some (now + lockoutMs) else none

/-- A lock that has not passed. -/
def lockedAt (lockedUntil : Option Int) (now : Int) : Bool := lockedUntil.any (now < ·)

def UserRow.failPassword (user : UserRow) (now : Int) : UserRow :=
  { user with
    loginAttempts := user.loginAttempts + 1
    lockedUntil := lockAfter (user.loginAttempts + 1) now }

def UserRow.clearPasswordAttempts (user : UserRow) : UserRow :=
  { user with loginAttempts := 0, lockedUntil := none }

def UserRow.failPin (user : UserRow) (now : Int) : UserRow :=
  { user with
    pinLoginAttempts := user.pinLoginAttempts + 1
    pinLockedUntil := lockAfter (user.pinLoginAttempts + 1) now }

def UserRow.clearPinAttempts (user : UserRow) : UserRow :=
  { user with pinLoginAttempts := 0, pinLockedUntil := none }

namespace AuthService

variable (service : AuthService) (tables : AuthTables) (around : Surroundings)

/-- The transaction of `loginWithUsernamePassword`. -/
def passwordAttempt (userId tenantId password : String) : Attempt String × AuthTables :=
  match tables.liveUser? userId tenantId with
  | none => (.invalid, tables)
  | some lockedUser =>
    match lockedUser.passwordHash with
    | none => (.invalid, tables)
    | some passwordHash =>
      -- The row is locked, so no other attempt is counted in between.
      if lockedAt lockedUser.lockedUntil (around.clock 0) then (.locked, tables)
      else if service.verifyPassword password passwordHash = false then
        (.invalid, tables.updateUser lockedUser (lockedUser.failPassword (around.clock 1)))
      else
        (.authenticated lockedUser passwordHash,
          -- A row that has nothing to clear is not written.
          if 0 < lockedUser.loginAttempts ∨ lockedUser.lockedUntil.isSome then
            tables.updateUser lockedUser lockedUser.clearPasswordAttempts
          else tables)

/-- The transaction of `loginWithUsernamePin`, after the PIN was compared with the hash of the
proof. -/
def pinAttempt (userId tenantId : String) (pinProof : PinLoginProof) (pin : String) :
    Attempt PinLoginProof × AuthTables :=
  match tables.liveUser? userId tenantId with
  | none => (.invalid, tables)
  | some lockedUser =>
    if lockedUser.pinHash ≠ some pinProof.pinHash ∨
        lockedUser.username ≠ some pinProof.username then (.invalid, tables)
    else if lockedAt lockedUser.pinLockedUntil (around.clock 0) then (.locked, tables)
    else if service.verifyPin pin pinProof.pinHash = false then
      (.invalid, tables.updateUser lockedUser (lockedUser.failPin (around.clock 1)))
    else
      (.authenticated lockedUser pinProof,
        if 0 < lockedUser.pinLoginAttempts ∨ lockedUser.pinLockedUntil.isSome then
          tables.updateUser lockedUser lockedUser.clearPinAttempts
        else tables)

/-- The sign-in that a password proves, if the user may sign in with one. -/
def passwordSignIn (attempt : Attempt String) (access : Except AuthError MfaPolicyAccess)
    (betaDemo : Bool) : Except AuthError SignIn :=
  match attempt with
  | .authenticated user passwordHash => do
    let access ← access
    ensure ("auth:login_password" ∈ access.permissions)
      (.unauthorized "Invalid username or password")
    return ⟨user.id, user.tenantId, .usernamePassword, false, betaDemo, none, some passwordHash, none⟩
  | _ => .error (.unauthorized "Invalid username or password")

/-- The sign-in that a PIN proves. -/
def pinSignIn (attempt : Attempt PinLoginProof) (access : Except AuthError MfaPolicyAccess) :
    Except AuthError SignIn :=
  match attempt with
  | .authenticated user pinProof => do
    let access ← access
    ensure ("auth:login_pin" ∈ access.permissions) (.unauthorized "Invalid username or PIN")
    return ⟨user.id, user.tenantId, .usernamePin, true, false, some pinProof, none, none⟩
  | _ => .error (.unauthorized "Invalid username or PIN")

end AuthService

/-! ## Password resets -/

def passwordResetTokenTtlMinutes : Int := 60

/-- The random texts of a reset, and the sealed mail. -/
structure NewReset where
  tokenId : String
  token : String
  emailId : String
  encryptedPayload : String
  encryptionKeyRef : String

/-- `/^[A-Za-z0-9_-]{32,128}$/`, trimmed. -/
def normalizePasswordResetToken (tokenRaw : String) : Option String :=
  let token := jsTrim tokenRaw
  if 32 ≤ token.length ∧ token.length ≤ 128 ∧ token.toList.all isBase64Url = true then some token
  else none

def validateNewPassword (password : String) : Except AuthError Unit :=
  ensure (8 ≤ jsLength password ∧ password.utf8ByteSize ≤ 72)
    (.badRequest "Password must be 8-72 bytes.")

/-- What a reset token is found by. -/
structure ResetLocator where
  id : String
  tenantId : String
  userId : String
  deriving DecidableEq

/-- The user with a new password. -/
def UserRow.withPassword (user : UserRow) (passwordHash : String) : UserRow :=
  { user with passwordHash := some passwordHash, loginAttempts := 0, lockedUntil := none }

def PasswordResetToken.consume (token : PasswordResetToken) (now : Int) : PasswordResetToken :=
  { token with consumedAt := some now }

/-- `scrub_terminal_password_reset_email_payload`. -/
def PasswordResetEmail.scrubTerminal (email : PasswordResetEmail) (sha256 : String → String) :
    PasswordResetEmail :=
  if email.status = .delivered ∨ email.status = .deadLettered then
    { email with
      tokenHash := "erased-v1:" ++ sha256 email.id
      encryptedPayload := ""
      encryptionKeyRef := "erased-v1"
      lastError := none }
  else email

def PasswordResetEmail.supersede (email : PasswordResetEmail) (sha256 : String → String)
    (now : Int) : PasswordResetEmail :=
  { email with
    status := .deadLettered
    deadLetteredAt := some now
    leaseUntil := none
    lastError := some "Superseded by a newer password reset request" }.scrubTerminal sha256

namespace AuthTables

variable (tables : AuthTables) (around : Surroundings)

/-- `passwordResetUserInTransaction`. -/
def passwordResetUserInTransaction (tenantId userId : String) :
    Except AuthError (Option UserRow) := do
  assertTenantCanAuthenticate (around.tenant 0)
  return (tables.liveUser? userId tenantId).filter (·.passwordHash.isSome)

/-- The tokens of a user that are not spent are. -/
def consumeTokensOf (tenantId userId : String) (now : Int) : AuthTables :=
  { tables with
    passwordResetTokens := tables.passwordResetTokens.map fun token =>
      if token.tenantId = tenantId ∧ token.userId = userId ∧ token.consumedAt = none then
        token.consume now
      else token }

/-- The mails of a user that are not sent are superseded. -/
def supersedeEmailsOf (sha256 : String → String) (tenantId userId : String) (now : Int) :
    AuthTables :=
  { tables with
    passwordResetEmails := tables.passwordResetEmails.map fun email =>
      if email.tenantId = tenantId ∧ email.userId = userId ∧
          email.status ∈ [.pending, .sending, .failed] then email.supersede sha256 now
      else email }

/-- `passwordResetToken.create` and `passwordResetEmailOutbox.create`. -/
def createReset (token : PasswordResetToken) (email : PasswordResetEmail) :
    Except AuthError AuthTables := do
  ensure (∀ other ∈ tables.passwordResetTokens,
    other.id ≠ token.id ∧ other.tokenHash ≠ token.tokenHash) .uniqueViolation
  ensure (∀ other ∈ tables.passwordResetEmails,
    other.id ≠ email.id ∧ other.tokenHash ≠ email.tokenHash) .uniqueViolation
  return { tables with
    passwordResetTokens := tables.passwordResetTokens ++ [token]
    passwordResetEmails := tables.passwordResetEmails ++ [email] }

/-- The locator of a token that can still be spent, as a first look sees it. -/
def resetLocator (tokenHash : String) (now : Int) : Except AuthError ResetLocator :=
  match tables.passwordResetTokens.find? (·.tokenHash = tokenHash) with
  | none => .error (.unauthorized "Invalid or expired reset token")
  | some token => do
    ensure (token.consumedAt = none ∧ now < token.expiresAt ∧
        ((tables.liveUser? token.userId token.tenantId).any (·.passwordHash.isSome)) = true)
      (.unauthorized "Invalid or expired reset token")
    return ⟨token.id, token.tenantId, token.userId⟩

end AuthTables

namespace AuthService

variable (service : AuthService) (tables : AuthTables) (around : Surroundings)

def hashPasswordResetToken (token : String) : String := "sha256:" ++ service.sha256 token

/-- The transaction of `createPasswordReset`. -/
def createPasswordReset (tenantId userId : String) (drawn : NewReset) :
    Except AuthError AuthTables := do
  let currentUser ← tables.passwordResetUserInTransaction around tenantId userId
  -- A request for one who may not reset a password answers as any other.
  if (currentUser.bind (·.email)).isNone then
    return tables
  else if (tenantSecuritySettings (around.security 0)).ssoOidcOnly then
    return tables
  else
    let access ← around.access 0
    if "auth:login_password" ∉ access.permissions then
      return tables
    else
      let superseded := (tables.consumeTokensOf tenantId userId (around.clock 0)).supersedeEmailsOf
        service.sha256 tenantId userId (around.clock 1)
      let tokenHash := service.hashPasswordResetToken drawn.token
      let expiresAt := around.clock 2 + passwordResetTokenTtlMinutes * 60 * 1000
      superseded.createReset
        { id := drawn.tokenId, tenantId, userId, tokenHash, expiresAt, consumedAt := none }
        { id := drawn.emailId, tenantId, userId, tokenHash
          encryptedPayload := drawn.encryptedPayload
          encryptionKeyRef := drawn.encryptionKeyRef
          status := .pending
          attempts := 0
          nextAttemptAt := around.databaseClock 0
          leaseUntil := none
          expiresAt
          deliveredAt := none
          deadLetteredAt := none
          lastError := none
          createdAt := around.databaseClock 0 }

/-- The transaction of `resetPasswordWithToken`. -/
def resetPassword (locator : ResetLocator) (tokenHash passwordHash : String) :
    Except AuthError AuthTables := do
  match ← tables.passwordResetUserInTransaction around locator.tenantId locator.userId with
  | none => .error (.unauthorized "Invalid or expired reset token")
  | some currentUser =>
    match tables.passwordResetTokens.find? fun token => token.id = locator.id ∧
        token.tenantId = locator.tenantId ∧ token.userId = locator.userId ∧
        token.tokenHash = tokenHash with
    | none => .error (.unauthorized "Invalid or expired reset token")
    | some reset =>
      ensure (reset.consumedAt = none ∧ around.clock 1 < reset.expiresAt)
        (.unauthorized "Invalid or expired reset token")
      ensure (around.databaseClock 0 < reset.expiresAt)
        (.unauthorized "Invalid or expired reset token")
      let now := around.databaseClock 1
      let replaced := tables.updateUser currentUser (currentUser.withPassword passwordHash)
      -- The token itself is among the tokens of the user that are not spent.
      return (replaced.revokeSessionsOf reset.userId now).consumeTokensOf
        locator.tenantId reset.userId now

/-- `resetPasswordWithToken`, with the hash of the new password; `before` is what its first look
sees. -/
def resetPasswordWithToken (before : AuthTables) (tokenRaw password passwordHash : String) :
    Except AuthError AuthTables :=
  match normalizePasswordResetToken tokenRaw with
  | none => .error (.unauthorized "Invalid or expired reset token")
  | some token => do
    let tokenHash := service.hashPasswordResetToken token
    validateNewPassword password
    let locator ← before.resetLocator tokenHash (around.clock 0)
    resetPassword tables around locator tokenHash passwordHash

end AuthService

/-! ## PINs -/

/-- `/^\d{4,8}$/`. -/
def isPin (pin : String) : Bool :=
  4 ≤ pin.length && pin.length ≤ 8 && pin.toList.all Char.isDigit

/-- `buildPinCredentialData`, with the hash of the new PIN. -/
def UserRow.withPin (user : UserRow) (pinHash : String) (pinResetRequired : Bool) (now : Int) :
    UserRow :=
  { user with
    pinHash := some pinHash
    pinSetAt := some now
    pinResetRequired
    pinLoginAttempts := 0
    pinLockedUntil := none }

/-- What a user who changes his own credentials acts under. -/
structure SelfSecurity where
  user : UserRow
  session : SessionRow
  settings : TenantSecuritySettings
  access : MfaPolicyAccess

namespace AuthTables

variable (tables : AuthTables) (around : Surroundings)

/-- `authorizeSelfSecurityMutationInTransaction`. -/
def authorizeSelfSecurity (tenantId userId sessionId : String)
    (requiredPermission : Option String) : Except AuthError MfaPolicyAccess := do
  ensure (jsTrim userId ≠ "") (.forbidden "A live actor identity is required")
  match tables.liveUser? (jsTrim userId) tenantId with
  | none => .error (.forbidden "User account is inactive")
  | some actor =>
    ensure (lockedAt actor.lockedUntil (around.clock 0) = false ∧
      lockedAt actor.pinLockedUntil (around.clock 0) = false) (.forbidden "User account is locked")
    ensure (jsTrim sessionId ≠ "") (.forbidden "A live administrator session is required")
    match tables.session? (jsTrim sessionId) (jsTrim userId) with
    | none => .error (.forbidden "Administrator session is no longer active")
    | some session =>
      ensure (session.revokedAt = none ∧ around.clock 1 < session.expiresAt)
        (.forbidden "Administrator session is no longer active")
      let access ← around.access 0
      ensure (∀ permission ∈ requiredPermission, permission ∈ access.permissions)
        (.forbidden (requiredPermission.getD "" ++
          " permission is no longer active for this account"))
      return access

/-- `selfSecurityContextInTransaction`. -/
def selfSecurityContext (tenantId userId sessionId : String) (allowPinReset : Bool)
    (requiredPermission : Option String) : Except AuthError SelfSecurity := do
  let access ← tables.authorizeSelfSecurity around tenantId userId sessionId requiredPermission
  assertTenantCanAuthenticate (around.tenant 0)
  match tables.liveUser? userId tenantId with
  | none => .error (.unauthorized "User not found")
  | some user =>
    ensure (user.pinResetRequired = false ∨ allowPinReset = true)
      (.forbidden "PIN rotation required before MFA access")
    match tables.session? sessionId userId with
    | none => .error (.unauthorized "Invalid or expired session")
    | some session =>
      let settings := tenantSecuritySettings (around.security 0)
      assertSessionActive session settings (around.clock 2)
      return ⟨user, session, settings, access⟩

end AuthTables

namespace AuthService

variable (service : AuthService) (tables : AuthTables) (around : Surroundings)

/-- `assertCurrentAuthority` of a PIN change; `observed` is when the marker that was seen of
the second factor ends. -/
def assertPinAuthority (context : SelfSecurity) (observed : Option Int) (now : Int) :
    Except AuthError Unit := do
  assertSessionActive context.session context.settings now
  ensure (context.user.pinResetRequired = true ∨
      isMfaRequired context.user context.settings context.access = false ∨
      observed.any (now < ·) = true)
    (.forbidden "MFA verification required before PIN change")

/-- The transaction of `rotateOwnPin`, with the hash of the new PIN. -/
def rotateOwnPin (tenantId userId sessionId currentPin newPin newPinHash : String)
    (observed : Option Int) : Except AuthError AuthTables := do
  ensure (isPin currentPin = true ∧ isPin newPin = true)
    (.badRequest "PIN must be 4-8 numeric digits")
  ensure (currentPin ≠ newPin) (.badRequest "New PIN must differ from the temporary PIN")
  let context ← tables.selfSecurityContext around tenantId userId sessionId true
    (some "auth:login_pin")
  assertPinAuthority context observed (around.clock 3)
  match context.user.username, context.user.pinHash with
  | some _, some pinHash =>
    ensure (service.verifyPin currentPin pinHash = true) (.unauthorized "Current PIN is invalid")
    assertPinAuthority context observed (around.clock 4)
    let now := around.clock 5
    assertPinAuthority context observed (around.clock 6)
    let updated := tables.updateUser context.user (context.user.withPin newPinHash false now)
    assertPinAuthority context observed (around.clock 7)
    let revoked := updated.revokeSessionsOf userId now
    assertPinAuthority context observed (around.clock 8)
    assertPinAuthority context observed (around.clock 9)
    return revoked
  | _, _ => .error (.forbidden "PIN change is only available for username accounts")

end AuthService

end LunchLineup.Auth
