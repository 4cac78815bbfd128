import LunchLineup.Auth.CallSteps

/-!
# What the answers rest on

An answer that stands for a session has issued it, rotated it, checked an access token against
it or verified a second factor under it (`authStep_answers`).  Each of them but the first has
found the session unrevoked and within its time (`authorized_session`).
-/

namespace LunchLineup.Auth

open LunchLineup.Lib

/-- What an answer rests on that stands for a session. -/
inductive AnswerStep (service : AuthService) (system : AuthSystem) :
    AuthEvent → AuthAnswer → AuthSystem → Prop
  | quiet {event : AuthEvent} {answer : AuthAnswer} {next : AuthSystem}
      (hquiet : answer.sessionId = none) : AnswerStep service system event answer next
  | issued {index : Nat} {drawn : NewSession} {around : Surroundings} {signIn : SignIn}
      {issued : IssuedSession} {next : AuthSystem}
      (hsignIn : system.signIns[index]? = some signIn)
      (hissued : SessionIssued service system.tables around signIn drawn issued next.tables)
      (hdrawn : next.drawnIds = system.drawnIds ++ [drawn.id]) :
      AnswerStep service system (.issue index drawn around)
        (.signedIn (AuthService.sessionTokens signIn drawn issued)) next
  | rotated {index : Nat} {around : Surroundings} {refresh : Refreshing}
      {authorization : RefreshAuthorization} {token : String} {expiresAt : Int} {next : AuthSystem}
      (hrefresh : system.refreshes[index]? = some refresh) (hphase : refresh.phase ≠ .needsMarker)
      (hrotated : Rotated service system.tables around refresh.credential
        (service.selectedCredential refresh.drawn.selector refresh.drawn.validator) refresh.locator
        refresh.marker authorization next.tables) :
      AnswerStep service system (.rotate index around)
        (.refreshed (AuthService.rotatedClaims authorization) token expiresAt) next
  | checked {claims : TokenPayload} {before : AuthTables} {redisNow : Int} {around : Surroundings}
      {access : ValidatedAccess} {next : AuthSystem}
      (hvalidated : system.tables.validateAccessSession around before claims
        (live redisNow (system.markers claims.sessionId)).isSome = .ok access) :
      AnswerStep service system (.validate claims before redisNow around)
        (.validated claims.sessionId access) next
  | confirmed {actor : Actor} {code encryptedSecret : String} {backupCodeHashes : List String}
      {around : Surroundings} {context : SelfSecurity} {confirmation : MfaConfirmation}
      {next : AuthSystem}
      (hconfirmed : EnrollmentConfirmed service system.tables around actor code encryptedSecret
        backupCodeHashes context confirmation next.tables) :
      AnswerStep service system
        (.confirmMfaEnrollment actor code encryptedSecret backupCodeHashes around)
        (.verified (AuthService.verifiedClaims confirmation.user confirmation.session
          confirmation.access)) next
  | verified {actor : Actor} {code : String} {around : Surroundings}
      {verification : MfaVerification} {found : MatchedCode} {next : AuthSystem}
      (hmatched : verification.matched = some found)
      (hverified : MfaVerified service system.tables around actor code verification next.tables) :
      AnswerStep service system (.validateMfa actor code around)
        (.verified (AuthService.verifiedClaims verification.user verification.session
          verification.access)) next

section Steps

variable {service : AuthService} {system : AuthSystem}

theorem answerStep_settle {event : AuthEvent} {outcome : Except AuthError AuthTables} :
    AnswerStep service system event (system.settle outcome).1 (system.settle outcome).2 := by
  cases outcome with
  | error error => exact .quiet rfl
  | ok tables => exact .quiet rfl

theorem answerStep_settleAttempt {event : AuthEvent} {signIn : Except AuthError SignIn}
    {tables : AuthTables} :
    AnswerStep service system event (AuthService.settleAttempt system signIn tables).1
      (AuthService.settleAttempt system signIn tables).2 := by
  cases signIn with
  | error error => exact .quiet rfl
  | ok signIn => exact .quiet rfl

theorem issueStep_answers (index : Nat) (drawn : NewSession) (around : Surroundings) :
    AnswerStep service system (.issue index drawn around)
      (service.issueStep system index drawn around).1
      (service.issueStep system index drawn around).2 := by
  unfold AuthService.issueStep
  split
  · exact .quiet rfl
  · rename_i signIn hsignIn
    split
    · exact .quiet rfl
    · rename_i issued tables hissued
      exact .issued hsignIn (issueSession_eq_ok hissued) rfl

theorem issueStep_signedIn {index : Nat} {drawn : NewSession} {around : Surroundings}
    {tokens : SessionTokens}
    (h : (service.issueStep system index drawn around).1 = .signedIn tokens) :
    ∃ signIn issued, system.signIns[index]? = some signIn ∧
      SessionIssued service system.tables around signIn drawn issued
        (service.issueStep system index drawn around).2.tables ∧
      (service.issueStep system index drawn around).2.drawnIds = system.drawnIds ++ [drawn.id] := by
  have hanswers : AnswerStep service system _ _ _ := issueStep_answers index drawn around
  rw [h] at hanswers
  cases hanswers with
  | quiet hquiet => cases hquiet
  | issued hsignIn hissued hdrawn => exact ⟨_, _, hsignIn, hissued, hdrawn⟩

theorem rotateStep_answers (index : Nat) (around : Surroundings) :
    AnswerStep service system (.rotate index around) (service.rotateStep system index around).1
      (service.rotateStep system index around).2 := by
  unfold AuthService.rotateStep
  split
  · exact .quiet rfl
  · rename_i refresh hrefresh
    split
    · exact .quiet rfl
    · rename_i hphase
      dsimp only
      split
      · exact .quiet rfl
      · rename_i authorization tables hrotated
        obtain ⟨_, hnone | hnone⟩ | ⟨_, _, hnone, _⟩ | ⟨_, hsome, hstands⟩ :=
          rotateRefreshCredential_eq_ok hrotated
        · cases hnone
        · cases hnone
        · cases hnone
        · obtain rfl := RefreshRotation.rotated.inj hsome
          exact .rotated hrefresh hphase hstands
      · split
        · exact .quiet rfl
        · exact .quiet rfl
      · exact .quiet rfl

theorem rotateStep_refreshed {index : Nat} {around : Surroundings} {claims : TokenPayload}
    {token : String} {expiresAt : Int}
    (h : (service.rotateStep system index around).1 = .refreshed claims token expiresAt) :
    ∃ refresh authorization, system.refreshes[index]? = some refresh ∧
      Rotated service system.tables around refresh.credential
        (service.selectedCredential refresh.drawn.selector refresh.drawn.validator) refresh.locator
        refresh.marker authorization (service.rotateStep system index around).2.tables := by
  have hanswers : AnswerStep service system _ _ _ := rotateStep_answers index around
  rw [h] at hanswers
  cases hanswers with
  | quiet hquiet => cases hquiet
  | rotated hrefresh _ hrotated => exact ⟨_, _, hrefresh, hrotated⟩

theorem validateMfaStep_answers (actor : Actor) (code : String) (around : Surroundings) :
    AnswerStep service system (.validateMfa actor code around)
      (service.validateMfaStep system actor code around).1
      (service.validateMfaStep system actor code around).2 := by
  unfold AuthService.validateMfaStep
  split
  · exact .quiet rfl
  · rename_i verification tables hverified
    have hstands := validateMfa_eq_ok hverified
    cases hmatched : verification.matched with
    | none => exact .quiet rfl
    | some found => exact .verified hmatched hstands

theorem confirmMfaStep_answers (actor : Actor) (code encryptedSecret : String)
    (backupCodeHashes : List String) (around : Surroundings) :
    AnswerStep service system
      (.confirmMfaEnrollment actor code encryptedSecret backupCodeHashes around)
      (service.confirmMfaStep system actor code encryptedSecret backupCodeHashes around).1
      (service.confirmMfaStep system actor code encryptedSecret backupCodeHashes around).2 := by
  unfold AuthService.confirmMfaStep
  split
  · exact .quiet rfl
  · rename_i confirmation tables hconfirmed
    obtain ⟨context, hconfirmed⟩ := confirmMfaEnrollment_eq_ok hconfirmed
    exact .confirmed hconfirmed

theorem authStep_answers (event : AuthEvent) :
    AnswerStep service system event (service.authStep system event).1
      (service.authStep system event).2 := by
  cases event with
  | passwordAttempt userId tenantId password betaDemo around => exact answerStep_settleAttempt
  | pinAttempt userId tenantId pinProof pin around => exact answerStep_settleAttempt
  | prove signIn =>
      unfold AuthService.authStep
      dsimp only
      split_ifs
      · exact .quiet rfl
      · exact .quiet rfl
  | issue index drawn around => exact issueStep_answers index drawn around
  | beginRefresh refreshToken drawn =>
      show AnswerStep service system _ (service.beginRefreshStep system refreshToken drawn).1
        (service.beginRefreshStep system refreshToken drawn).2
      unfold AuthService.beginRefreshStep
      split
      · exact .quiet rfl
      · split
        · exact .quiet rfl
        · exact .quiet rfl
  | rotate index around => exact rotateStep_answers index around
  | observeMarker index redisNow =>
      show AnswerStep service system _ (AuthService.observeStep system index redisNow).1
        (AuthService.observeStep system index redisNow).2
      unfold AuthService.observeStep
      split
      · exact .quiet rfl
      · split_ifs
        · exact .quiet rfl
        · exact .quiet rfl
  | validate claims before redisNow around =>
      unfold AuthService.authStep
      dsimp only
      split
      · exact .quiet rfl
      · rename_i access hvalidated
        exact .checked hvalidated
  | logout refreshToken before around =>
      unfold AuthService.authStep
      dsimp only
      split
      · exact .quiet rfl
      · exact .quiet rfl
  | revokeSession sessionId around => exact .quiet rfl
  | revokeSessionsOf userId now => exact .quiet rfl
  | purgeDormantSessions asOf picked => exact .quiet rfl
  | purgePasswordResetTokens asOf picked => exact .quiet rfl
  | recordFailedAttempt userId tenantId around => exact .quiet rfl
  | createPasswordReset tenantId userId drawn around =>
      show AnswerStep service system _
        (service.createResetStep system tenantId userId drawn around).1
        (service.createResetStep system tenantId userId drawn around).2
      unfold AuthService.createResetStep
      split
      · exact .quiet rfl
      · exact .quiet rfl
  | resetPassword token password passwordHash before around =>
      rw [authStep_resetPassword]
      exact answerStep_settle
  | rotateOwnPin actor currentPin newPin newPinHash observed around => exact answerStep_settle
  | beginMfaEnrollment actor encryptedSecret around => exact answerStep_settle
  | confirmMfaEnrollment actor code encryptedSecret backupCodeHashes around =>
      exact confirmMfaStep_answers actor code encryptedSecret backupCodeHashes around
  | disableMfa actor code before around => exact answerStep_settle
  | validateMfa actor code around => exact validateMfaStep_answers actor code around
  | writeMarker index redisNow now =>
      show AnswerStep service system _ (AuthService.writeMarkerStep system index redisNow now).1
        (AuthService.writeMarkerStep system index redisNow now).2
      unfold AuthService.writeMarkerStep
      split
      · exact .quiet rfl
      · exact .quiet rfl
  | failMarker index now =>
      show AnswerStep service system _ (AuthService.failMarkerStep system index now).1
        (AuthService.failMarkerStep system index now).2
      unfold AuthService.failMarkerStep
      split
      · exact .quiet rfl
      · dsimp only
        split_ifs
        · exact .quiet rfl
        · exact .quiet rfl
  | clearMarker sessionId => exact .quiet rfl
  | administer userId tenantId change =>
      unfold AuthService.authStep
      dsimp only
      split
      · exact .quiet rfl
      · exact .quiet rfl
  | recoverPin userId tenantId pinHash now => exact .quiet rfl
  | recoverMfa userId tenantId now => exact .quiet rfl

/-- The session that an answer stands for is in the tables before the step and stands, at some
reading of the clock. -/
def Authorized (system : AuthSystem) (event : AuthEvent) (sessionId : String) : Prop :=
  ∃ session ∈ system.tables.sessions, session.id = sessionId ∧
    ∃ around reading, event.around = some around ∧
      session.Active (tenantSecuritySettings (around.security 0)) (around.clock reading)

theorem authorized_of_session {event : AuthEvent} {around : Surroundings} {reading : Nat}
    {sessionId userId : String} {session : SessionRow}
    (haround : event.around = some around)
    (hsession : system.tables.session? sessionId userId = some session)
    (hactive : session.Active (tenantSecuritySettings (around.security 0)) (around.clock reading)) :
    Authorized system event session.id :=
  ⟨session, (AuthTables.session?_eq_some hsession).1, rfl, around, reading, haround, hactive⟩

/-- An answer that stands for a session issues it, or has found it standing. -/
theorem authorized_session {event : AuthEvent} {sessionId : String}
    (h : (service.authStep system event).1.sessionId = some sessionId) :
    (∃ drawn, Issues service system event drawn (service.authStep system event).2
        (service.authStep system event).1 ∧ drawn.id = sessionId) ∨
      Authorized system event sessionId := by
  have hanswers : AnswerStep service system event _ _ := authStep_answers event
  generalize (service.authStep system event).1 = answer at h hanswers ⊢
  generalize (service.authStep system event).2 = next at hanswers ⊢
  cases hanswers with
  | quiet hquiet => cases hquiet.symm.trans h
  | @issued index drawn around signIn issued _ hsignIn hissued hdrawn =>
      refine .inl ⟨drawn, ⟨index, around, signIn, issued, rfl, hsignIn, hissued, hdrawn, rfl⟩, ?_⟩
      obtain rfl := Option.some.inj h
      show drawn.id = issued.session.id
      rw [hissued.session]
      rfl
  | rotated _ _ hrotated =>
      obtain rfl := Option.some.inj h
      exact .inr (authorized_of_session rfl hrotated.session hrotated.active)
  | checked hvalidated =>
      obtain ⟨session, hsession, hactive, _⟩ := validateAccessSession_eq_ok hvalidated
      obtain rfl := Option.some.inj h
      rw [← (AuthTables.session?_eq_some hsession).2.1]
      exact .inr (authorized_of_session rfl hsession hactive)
  | confirmed hconfirmed =>
      obtain ⟨_, hsession, hsettings, hactive⟩ := selfSecurityContext_eq_ok hconfirmed.context_eq
      obtain rfl := Option.some.inj h
      rw [hsettings, ← hconfirmed.confirmation_eq.2] at hactive
      rw [← hconfirmed.confirmation_eq.2] at hsession
      exact .inr (authorized_of_session rfl hsession hactive)
  | verified _ hverified =>
      obtain rfl := Option.some.inj h
      exact .inr (authorized_of_session rfl hverified.session hverified.active)

end Steps

end LunchLineup.Auth
