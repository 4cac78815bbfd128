import LunchLineup.Auth.SecondFactor
import LunchLineup.Auth.EmailCodes
import LunchLineup.Lib.Run

/-!
# The sign-in system

The tables, the markers of the second factor in Redis, and the calls under way.  A sign-in
waits between the proof of its credential and the transaction that issues the session; a
refresh between finding its session, rotating the validator and reading the marker; a marker
is written after the transaction that earned it.  Every transaction is one step, at any of
these moments, so a run interleaves the calls of all processes as they may come.
-/

namespace LunchLineup.Auth

open LunchLineup.Lib

/-- How far a refresh has come. -/
inductive RefreshPhase where
  | located
  | needsMarker
  | observed (observation : RefreshMfaObservation)
  deriving DecidableEq

/-- A refresh under way. -/
structure Refreshing where
  credential : RefreshCredential
  drawn : NewSession
  locator : RefreshSessionLocator
  phase : RefreshPhase

/-- The marker that a refresh has seen. -/
def Refreshing.marker (refresh : Refreshing) : Option RefreshMfaObservation :=
  match refresh.phase with
  | .observed observation => some observation
  | _ => none

/-- A marker that is yet to be written. -/
structure Marking where
  sessionId : String
  userId : String
  expiresAt : Int
  betaDemo : Bool
  deriving DecidableEq

/-- `drawnIds` holds the ids that sessions and reset tokens have had; no code reads it. -/
structure AuthSystem where
  tables : AuthTables
  markers : String → Option (Expiring Unit)
  signIns : List SignIn
  refreshes : List Refreshing
  markings : List Marking
  drawnIds : List String

/-- What other services write of an account. -/
inductive AccountChange where
  | profile (role : String) (email username : Option String)
  /-- Suspended or restored, deleted or invited again. -/
  | lifecycle (deletedAt suspendedAt : Option Int)
  | lock (lockedUntil : Int)
  | unlock

def UserRow.administer (user : UserRow) (change : AccountChange) : UserRow :=
  match change with
  | .profile role email username => { user with role, email, username }
  | .lifecycle deletedAt suspendedAt => { user with deletedAt, suspendedAt }
  | .lock lockedUntil =>
    { user with lockedUntil := some lockedUntil, pinLockedUntil := some lockedUntil }
  | .unlock =>
    { user with loginAttempts := 0, lockedUntil := none, pinLoginAttempts := 0, pinLockedUntil := none }

/-- Whose credentials a call changes, and under which session. -/
structure Actor where
  tenantId : String
  userId : String
  sessionId : String
  deriving DecidableEq

inductive AuthEvent where
  | passwordAttempt (userId tenantId password : String) (betaDemo : Bool) (around : Surroundings)
  | pinAttempt (userId tenantId : String) (pinProof : PinLoginProof) (pin : String)
      (around : Surroundings)
  /-- A sign-in by email or with a provider is proved elsewhere. -/
  | prove (signIn : SignIn)
  | issue (index : Nat) (drawn : NewSession) (around : Surroundings)
  | beginRefresh (refreshToken : String) (drawn : NewSession)
  | rotate (index : Nat) (around : Surroundings)
  | observeMarker (index : Nat) (redisNow : Int)
  | validate (claims : TokenPayload) (before : AuthTables) (redisNow : Int) (around : Surroundings)
  | logout (refreshToken : String) (before : AuthTables) (around : Surroundings)
  | revokeSession (sessionId : String) (around : Surroundings)
  /-- Another service revokes the sessions of a user. -/
  | revokeSessionsOf (userId : String) (now : Int)
  /-- `purge_dormant_sessions`, of some of the sessions that are due. -/
  | purgeDormantSessions (asOf : Int) (picked : List String)
  | purgePasswordResetTokens (asOf : Int) (picked : List String)
  | recordFailedAttempt (userId tenantId : String) (around : Surroundings)
  | createPasswordReset (tenantId userId : String) (drawn : NewReset) (around : Surroundings)
  | resetPassword (token password passwordHash : String) (before : AuthTables)
      (around : Surroundings)
  | rotateOwnPin (actor : Actor) (currentPin newPin newPinHash : String) (observed : Option Int)
      (around : Surroundings)
  | beginMfaEnrollment (actor : Actor) (encryptedSecret : String) (around : Surroundings)
  | confirmMfaEnrollment (actor : Actor) (code encryptedSecret : String)
      (backupCodeHashes : List String) (around : Surroundings)
  | disableMfa (actor : Actor) (code : String) (before : AuthTables) (around : Surroundings)
  | validateMfa (actor : Actor) (code : String) (around : Surroundings)
  | writeMarker (index : Nat) (redisNow now : Int)
  | failMarker (index : Nat) (now : Int)
  | clearMarker (sessionId : String)
  | administer (userId tenantId : String) (change : AccountChange)
  /-- An administrator gives a user a temporary PIN. -/
  | recoverPin (userId tenantId pinHash : String) (now : Int)
  /-- An administrator takes off the second factor of a user. -/
  | recoverMfa (userId tenantId : String) (now : Int)

/-- The id that a step draws. -/
def AuthEvent.drawnId : AuthEvent → Option String
  | .issue _ drawn _ => some drawn.id
  | .createPasswordReset _ _ drawn _ => some drawn.tokenId
  | _ => none

inductive AuthAnswer where
  | error (error : AuthError)
  | done
  | signedIn (tokens : SessionTokens)
  | refreshed (claims : TokenPayload) (refreshToken : String) (effectiveExpiresAt : Int)
  | validated (sessionId : String) (access : ValidatedAccess)
  | loggedOut (status : AuthTables.LogoutStatus)
  | verified (claims : TokenPayload)

/-- The session that an answer stands for. -/
def AuthAnswer.sessionId : AuthAnswer → Option String
  | .signedIn tokens => some tokens.accessToken.sessionId
  | .refreshed claims _ _ => some claims.sessionId
  | .validated sessionId _ => some sessionId
  | .verified claims => some claims.sessionId
  | _ => none

def invalidRefreshToken : AuthError := .unauthorized "Invalid or expired refresh token"

/-- `purge_dormant_sessions` may delete the session. -/
def SessionRow.dormant (session : SessionRow) (asOf : Int) : Bool :=
  session.expiresAt ≤ asOf - 24 * 60 * 60 * 1000 ∨
    session.revokedAt.any (· ≤ asOf - 30 * 24 * 60 * 60 * 1000)

/-- `purge_expired_password_reset_tokens` may delete the token. -/
def PasswordResetToken.spent (token : PasswordResetToken) (asOf : Int) : Bool :=
  token.consumedAt.getD token.expiresAt ≤ asOf - 24 * 60 * 60 * 1000

/-- `markSessionMfaVerified`. -/
def markerUntil (expiresAt redisNow now : Int) : Expiring Unit :=
  ⟨(), redisNow + max 1 ((expiresAt - now + 999) / 1000) * 1000⟩

namespace AuthSystem

variable (system : AuthSystem)

/-- The tables after a transaction that may have failed. -/
def settle (outcome : Except AuthError AuthTables) : AuthAnswer × AuthSystem :=
  match outcome with
  | .error error => (.error error, system)
  | .ok tables => (.done, { system with tables })

def setMarker (sessionId : String) (marker : Option (Expiring Unit)) : AuthSystem :=
  { system with
    markers := fun other => if other = sessionId then marker else system.markers other }

end AuthSystem

namespace AuthService

variable (service : AuthService) (system : AuthSystem)

/-- The attempt of a sign-in: its proof waits for the session. -/
def settleAttempt (signIn : Except AuthError SignIn) (tables : AuthTables) :
    AuthAnswer × AuthSystem :=
  match signIn with
  | .error error => (.error error, { system with tables })
  | .ok signIn => (.done, { system with tables, signIns := system.signIns ++ [signIn] })

/-- `createSessionTokens`. -/
def issueStep (index : Nat) (drawn : NewSession) (around : Surroundings) :
    AuthAnswer × AuthSystem :=
  match system.signIns[index]? with
  | none => (.done, system)
  | some signIn =>
    match service.issueSession system.tables around signIn drawn with
    | .error error => (.error error, { system with signIns := system.signIns.eraseIdx index })
    | .ok (issued, tables) =>
      (.signedIn (sessionTokens signIn drawn issued),
        { system with
          tables
          signIns := system.signIns.eraseIdx index
          markings :=
            if issued.mfaRequired && signIn.betaDemo then
              system.markings ++ [⟨drawn.id, signIn.userId, issued.expiresAt, true⟩]
            else system.markings
          drawnIds := system.drawnIds ++ [drawn.id] })

/-- `refreshAccessToken`, up to the first rotation. -/
def beginRefreshStep (refreshToken : String) (drawn : NewSession) : AuthAnswer × AuthSystem :=
  match service.parseRefreshCredential refreshToken with
  | none => (.error invalidRefreshToken, system)
  | some credential =>
    match system.tables.locateRefreshSession credential with
    | none => (.error invalidRefreshToken, system)
    | some locator =>
      (.done, { system with
        refreshes := system.refreshes ++ [⟨credential, drawn, locator, .located⟩] })

/-- A rotation of `refreshAccessToken`, and what comes of it. -/
def rotateStep (index : Nat) (around : Surroundings) : AuthAnswer × AuthSystem :=
  match system.refreshes[index]? with
  | none => (.done, system)
  | some refresh =>
    if refresh.phase = .needsMarker then (.done, system)
    else
      let ended := { system with refreshes := system.refreshes.eraseIdx index }
      match service.rotateRefreshCredential system.tables around refresh.credential
        (service.selectedCredential refresh.drawn.selector refresh.drawn.validator)
        refresh.locator refresh.marker with
      | .error error => (.error error, ended)
      | .ok (.rotated authorization, tables) =>
        (.refreshed (rotatedClaims authorization) (rotatedToken refresh.credential refresh.drawn)
          authorization.effectiveExpiresAt, { ended with tables })
      | .ok (.needsMfaMarker, tables) =>
        if refresh.phase = .located then
          (.done, { system with
            tables
            refreshes := system.refreshes.set index { refresh with phase := .needsMarker } })
        else (.error invalidRefreshToken, { ended with tables })
      | .ok (_, tables) => (.error invalidRefreshToken, { ended with tables })

/-- The read of the marker between two rotations. -/
def observeStep (index : Nat) (redisNow : Int) : AuthAnswer × AuthSystem :=
  match system.refreshes[index]? with
  | none => (.done, system)
  | some refresh =>
    if refresh.phase = .needsMarker then
      (.done, { system with
        refreshes := system.refreshes.set index
          { refresh with phase := .observed ⟨refresh.locator,
            (live redisNow (system.markers refresh.locator.sessionId)).isSome⟩ } })
    else (.done, system)

/-- A verification of the second factor, whose marker is written next. -/
def settleVerification (claims : Option TokenPayload) (marking : Marking) (tables : AuthTables) :
    AuthAnswer × AuthSystem :=
  match claims with
  | none => (.done, { system with tables })
  | some claims =>
    (.verified claims, { system with tables, markings := system.markings ++ [marking] })

def validateMfaStep (actor : Actor) (code : String) (around : Surroundings) :
    AuthAnswer × AuthSystem :=
  match service.validateMfa system.tables around actor.tenantId actor.userId actor.sessionId code with
  | .error error => (.error error, system)
  | .ok (verification, tables) =>
    settleVerification system
      (verification.matched.map fun _ =>
        verifiedClaims verification.user verification.session verification.access)
      ⟨verification.session.id, actor.userId, verification.effectiveExpiresAt, false⟩ tables

def confirmMfaStep (actor : Actor) (code encryptedSecret : String)
    (backupCodeHashes : List String) (around : Surroundings) : AuthAnswer × AuthSystem :=
  match service.confirmMfaEnrollment system.tables around actor.tenantId actor.userId
    actor.sessionId code encryptedSecret backupCodeHashes with
  | .error error => (.error error, system)
  | .ok (confirmation, tables) =>
    settleVerification system
      (some (verifiedClaims confirmation.user confirmation.session confirmation.access))
      ⟨confirmation.session.id, actor.userId, confirmation.effectiveExpiresAt, false⟩ tables

def writeMarkerStep (index : Nat) (redisNow now : Int) : AuthAnswer × AuthSystem :=
  match system.markings[index]? with
  | none => (.done, system)
  | some marking =>
    (.done, { system.setMarker marking.sessionId
        (some (markerUntil marking.expiresAt redisNow now)) with
      markings := system.markings.eraseIdx index })

/-- A marker that cannot be written: a session that needs it is revoked. -/
def failMarkerStep (index : Nat) (now : Int) : AuthAnswer × AuthSystem :=
  match system.markings[index]? with
  | none => (.done, system)
  | some marking =>
    let dropped := { system with markings := system.markings.eraseIdx index }
    if marking.betaDemo then
      (.error (.unavailable "Authentication service temporarily unavailable"),
        { dropped with
          tables := system.tables.updateSessions
            (fun session => session.id = marking.sessionId ∧ session.userId = marking.userId ∧
              session.revokedAt = none) (·.revoke now) })
    else (.done, dropped)

/-- `recordFailedAttempt`. -/
def recordFailedAttempt (tables : AuthTables) (around : Surroundings) (userId tenantId : String) :
    AuthTables :=
  match tables.liveUser? userId tenantId with
  | none => tables
  | some lockedUser =>
    if lockedAt lockedUser.lockedUntil (around.clock 0) then tables
    else tables.updateUser lockedUser (lockedUser.failPassword (around.clock 1))

/-- The transaction of an administrator's PIN reset. -/
def recoverPin (tables : AuthTables) (userId tenantId pinHash : String) (now : Int) : AuthTables :=
  match tables.liveUser? userId tenantId with
  | none => tables
  | some target =>
    if target.username.isSome then
      (tables.updateUser target (target.withPin pinHash true now)).revokeSessionsOf userId now
    else tables

/-- The transaction of an administrator's reset of the second factor. -/
def recoverMfa (tables : AuthTables) (userId tenantId : String) (now : Int) : AuthTables :=
  match tables.liveUser? userId tenantId with
  | none => tables
  | some target =>
    if target.mfaEnabled then
      (tables.updateUser target target.withoutSecondFactor).withoutClaimsOf userId
        |>.revokeSessionsOf userId now
    else tables

/-- `createPasswordReset`. -/
def createResetStep (tenantId userId : String) (drawn : NewReset) (around : Surroundings) :
    AuthAnswer × AuthSystem :=
  match service.createPasswordReset system.tables around tenantId userId drawn with
  | .error error => (.error error, system)
  | .ok tables => (.done, { system with tables, drawnIds := system.drawnIds ++ [drawn.tokenId] })

/-- One step of the system. -/
def authStep (event : AuthEvent) : AuthAnswer × AuthSystem :=
  match event with
  | .passwordAttempt userId tenantId password betaDemo around =>
    let (attempt, tables) := service.passwordAttempt system.tables around userId tenantId password
    settleAttempt system (passwordSignIn attempt (around.access 0) betaDemo) tables
  | .pinAttempt userId tenantId pinProof pin around =>
    let (attempt, tables) := service.pinAttempt system.tables around userId tenantId pinProof pin
    settleAttempt system (pinSignIn attempt (around.access 0)) tables
  | .prove signIn =>
    if signIn.loginMethod = .oidc ∨ signIn.loginMethod = .emailOtp then
      (.done, { system with signIns := system.signIns ++ [{ signIn with betaDemo := false }] })
    else (.done, system)
  | .issue index drawn around => service.issueStep system index drawn around
  | .beginRefresh refreshToken drawn => service.beginRefreshStep system refreshToken drawn
  | .rotate index around => service.rotateStep system index around
  | .observeMarker index redisNow => observeStep system index redisNow
  | .validate claims before redisNow around =>
    match system.tables.validateAccessSession around before claims
      (live redisNow (system.markers claims.sessionId)).isSome with
    | .error error => (.error error, system)
    | .ok access => (.validated claims.sessionId access, system)
  | .logout refreshToken before around =>
    match service.parseRefreshCredential refreshToken with
    | none => (.loggedOut .alreadyInvalid, system)
    | some credential =>
      let (status, tables) :=
        system.tables.revokeSessionByRefreshToken around before credential
      (.loggedOut status, { system with tables })
  | .revokeSession sessionId around =>
    (.done, { system with tables := system.tables.revokeSession around sessionId })
  | .revokeSessionsOf userId now =>
    (.done, { system with tables := system.tables.revokeSessionsOf userId now })
  | .purgeDormantSessions asOf picked =>
    (.done, { system with
      tables := system.tables.deleteSessions fun session =>
        session.dormant asOf && picked.contains session.id })
  | .purgePasswordResetTokens asOf picked =>
    (.done, { system with
      tables := system.tables.deleteTokens fun token =>
        token.spent asOf && picked.contains token.id })
  | .recordFailedAttempt userId tenantId around =>
    (.done, { system with tables := recordFailedAttempt system.tables around userId tenantId })
  | .createPasswordReset tenantId userId drawn around =>
    service.createResetStep system tenantId userId drawn around
  | .resetPassword token password passwordHash before around =>
    system.settle (service.resetPasswordWithToken system.tables around before token password
      passwordHash)
  | .rotateOwnPin actor currentPin newPin newPinHash observed around =>
    system.settle (service.rotateOwnPin system.tables around actor.tenantId actor.userId
      actor.sessionId currentPin newPin newPinHash observed)
  | .beginMfaEnrollment actor encryptedSecret around =>
    system.settle (beginMfaEnrollment system.tables around actor.tenantId actor.userId
      actor.sessionId encryptedSecret)
  | .confirmMfaEnrollment actor code encryptedSecret backupCodeHashes around =>
    service.confirmMfaStep system actor code encryptedSecret backupCodeHashes around
  | .disableMfa actor code before around =>
    system.settle ((service.disableMfa system.tables around before actor.tenantId actor.userId
      actor.sessionId code).map (·.2))
  | .validateMfa actor code around => service.validateMfaStep system actor code around
  | .writeMarker index redisNow now => writeMarkerStep system index redisNow now
  | .failMarker index now => failMarkerStep system index now
  | .clearMarker sessionId => (.done, system.setMarker sessionId none)
  | .administer userId tenantId change =>
    match system.tables.user? userId tenantId with
    | none => (.done, system)
    | some user =>
      (.done, { system with
        tables := system.tables.administerUser service.sha256 user (user.administer change) })
  | .recoverPin userId tenantId pinHash now =>
    (.done, { system with tables := recoverPin system.tables userId tenantId pinHash now })
  | .recoverMfa userId tenantId now =>
    (.done, { system with tables := recoverMfa system.tables userId tenantId now })

end AuthService

end LunchLineup.Auth
