import Mathlib.Data.List.Forall2
import LunchLineup.Auth.Transactions

/-!
# What the steps do to sessions

A step of the system keeps sessions, rotates, revokes or deletes them, or issues one.  Who a
session belongs to and when it ends never changes, a revoked session stays revoked, and what
a session has spent stays recorded as long as it is there (`AuthTables.Continues`).
-/

namespace LunchLineup.Auth

open LunchLineup.Lib

/-! ## Rows that continue -/

/-- A row of a session and an earlier row of it. -/
structure SessionRow.Descends (row earlier : SessionRow) : Prop where
  id : row.id = earlier.id
  userId : row.userId = earlier.userId
  expiresAt : row.expiresAt = earlier.expiresAt
  createdAt : row.createdAt = earlier.createdAt
  revoked : earlier.revokedAt.isSome → row.revokedAt.isSome

/-- A row of a session and an earlier row of it, between which no enrollment was begun. -/
structure SessionRow.Continues (row earlier : SessionRow) : Prop extends row.Descends earlier where
  pending : row.mfaEnrollmentSecret.isSome →
    earlier.mfaEnrollmentSecret.isSome ∧ row.revokedAt = earlier.revokedAt

theorem SessionRow.Descends.refl (row : SessionRow) : row.Descends row :=
  ⟨rfl, rfl, rfl, rfl, fun h => h⟩

theorem SessionRow.Descends.trans {row middle earlier : SessionRow} (h : row.Descends middle)
    (h' : middle.Descends earlier) : row.Descends earlier where
  id := h.id.trans h'.id
  userId := h.userId.trans h'.userId
  expiresAt := h.expiresAt.trans h'.expiresAt
  createdAt := h.createdAt.trans h'.createdAt
  revoked := fun hrevoked => h.revoked (h'.revoked hrevoked)

theorem SessionRow.Descends.unrevoked {row earlier : SessionRow} (h : row.Descends earlier)
    (hrow : row.revokedAt = none) : earlier.revokedAt = none := by
  by_contra hearlier
  have hrevoked := h.revoked (Option.isSome_iff_ne_none.mpr hearlier)
  rw [hrow] at hrevoked
  cases hrevoked

theorem SessionRow.Continues.refl (row : SessionRow) : row.Continues row :=
  ⟨.refl row, fun h => ⟨h, rfl⟩⟩

instance : Std.Refl SessionRow.Continues := ⟨SessionRow.Continues.refl⟩

instance : IsTrans SessionRow SessionRow.Continues where
  trans _ _ _ h h' :=
    { h.toDescends.trans h'.toDescends with
      pending := fun hpending =>
        have hmiddle := h.pending hpending
        have hearlier := h'.pending hmiddle.1
        ⟨hearlier.1, hmiddle.2.trans hearlier.2⟩ }

theorem SessionRow.revoke_revokedAt (row : SessionRow) (now : Int) :
    (row.revoke now).revokedAt = some now := by
  simp [SessionRow.revoke, SessionRow.fenceMfaEnrollment]

theorem SessionRow.revoke_continues (row : SessionRow) (now : Int) :
    (row.revoke now).Continues row := by
  simp only [SessionRow.revoke, SessionRow.fenceMfaEnrollment, Option.isSome_some, if_true]
  exact ⟨⟨rfl, rfl, rfl, rfl, fun _ => rfl⟩, fun h => by cases h⟩

theorem SessionRow.scrubDeleted_continues (row : SessionRow) (sha256 : String → String)
    (deletedAt : Int) : (row.scrubDeleted sha256 deletedAt).Continues row := by
  simp only [SessionRow.scrubDeleted, SessionRow.revoke, SessionRow.fenceMfaEnrollment,
    Option.isSome_some, if_true]
  exact ⟨⟨rfl, rfl, rfl, rfl, fun _ => rfl⟩, fun h => by cases h⟩

theorem SessionRow.withoutEnrollment_continues (row : SessionRow) :
    row.withoutEnrollment.Continues row := ⟨⟨rfl, rfl, rfl, rfl, fun h => h⟩, fun h => by cases h⟩

theorem RefreshCredential.rotate_continues (credential : RefreshCredential) (row : SessionRow)
    (rotated : SelectedRefreshCredential) : (credential.rotate row rotated).Continues row := by
  cases credential with
  | selected _ => exact ⟨⟨rfl, rfl, rfl, rfl, fun h => h⟩, fun h => ⟨h, rfl⟩⟩
  | legacy _ => exact ⟨⟨rfl, rfl, rfl, rfl, fun h => h⟩, fun h => ⟨h, rfl⟩⟩

/-! ## Tables that continue -/

/-- A validator is found to be spent, by the session. -/
def AuthTables.Recorded (tables : AuthTables) (replay : RefreshTokenReplay) : Prop :=
  tables.replay? (some replay.validatorHash) = some replay

/-- What the sessions of the tables have spent that are not revoked is still recorded. -/
def AuthTables.Records (after before : AuthTables) : Prop :=
  ∀ replay, before.Recorded replay →
    (∃ row ∈ after.sessions, row.id = replay.sessionId ∧ row.revokedAt = none) →
      after.Recorded replay

theorem find?_filter_of_find? {α : Type*} {p q : α → Bool} {rows : List α} {row : α}
    (hfind : rows.find? q = some row) (hkept : p row = true) :
    (rows.filter p).find? q = some row := by
  induction rows with
  | nil => cases hfind
  | cons first rest ih =>
      by_cases hfirst : q first = true
      · rw [List.find?_cons_of_pos hfirst] at hfind
        obtain rfl := Option.some.inj hfind
        rw [List.filter_cons_of_pos hkept, List.find?_cons_of_pos hfirst]
      · rw [List.find?_cons_of_neg hfirst] at hfind
        by_cases hpasses : p first = true
        · rw [List.filter_cons_of_pos hpasses, List.find?_cons_of_neg hfirst]
          exact ih hfind
        · rw [List.filter_cons_of_neg hpasses]
          exact ih hfind

/-- The sessions of the tables descend from some of those before. -/
structure AuthTables.Descends (after before : AuthTables) : Prop where
  sessions : List.SublistForall₂ SessionRow.Descends after.sessions before.sessions
  spent : after.Records before

/-- The sessions of the tables continue some of those before. -/
structure AuthTables.Continues (after before : AuthTables) : Prop where
  sessions : List.SublistForall₂ SessionRow.Continues after.sessions before.sessions
  spent : after.Records before

theorem exists_right_of_sublistForall₂ {α : Type*} {R : α → α → Prop} {first second : List α}
    (h : List.SublistForall₂ R first second) {a : α} (ha : a ∈ first) :
    ∃ b ∈ second, R a b := by
  obtain ⟨kept, hkept, hsub⟩ := List.sublistForall₂_iff.mp h
  obtain ⟨b, hb, hR⟩ := exists_right_of_forall₂ hkept ha
  exact ⟨b, hsub.mem hb, hR⟩

theorem map_sublist_of_sublistForall₂ {α β : Type*} {R : α → α → Prop} {f : α → β}
    {first second : List α} (h : List.SublistForall₂ R first second)
    (heq : ∀ {a b}, R a b → f a = f b) : (first.map f).Sublist (second.map f) := by
  obtain ⟨kept, hkept, hsub⟩ := List.sublistForall₂_iff.mp h
  rw [map_eq_of_forall₂ hkept heq]
  exact hsub.map f

namespace AuthTables.Descends

variable {after before : AuthTables}

/-- A session of the tables was there before. -/
theorem origin (h : after.Descends before) {row : SessionRow} (hrow : row ∈ after.sessions) :
    ∃ earlier ∈ before.sessions, row.Descends earlier :=
  exists_right_of_sublistForall₂ h.sessions hrow

theorem ids_sublist (h : after.Descends before) :
    (after.sessions.map (·.id)).Sublist (before.sessions.map (·.id)) :=
  map_sublist_of_sublistForall₂ h.sessions fun hrow => hrow.id

/-- A user has no more sessions than before. -/
theorem count_le (h : after.Descends before) (userId : String) :
    after.sessions.countP (·.userId = userId) ≤ before.sessions.countP (·.userId = userId) := by
  have husers := map_sublist_of_sublistForall₂ h.sessions fun hrow => hrow.userId
  calc after.sessions.countP (·.userId = userId)
      = (after.sessions.map (·.userId)).countP (· = userId) := by
        rw [List.countP_map]
        rfl
    _ ≤ (before.sessions.map (·.userId)).countP (· = userId) := husers.countP_le
    _ = before.sessions.countP (·.userId = userId) := by
        rw [List.countP_map]
        rfl

end AuthTables.Descends

namespace AuthTables.Continues

variable {after middle before : AuthTables}

theorem of_eq (hsessions : after.sessions = before.sessions)
    (hreplays : after.refreshTokenReplays = before.refreshTokenReplays) :
    after.Continues before := by
  constructor
  · rw [hsessions]
    exact refl _
  · intro replay hreplay _
    unfold AuthTables.Recorded AuthTables.replay? at hreplay ⊢
    rwa [hreplays]

theorem refl (tables : AuthTables) : tables.Continues tables := of_eq rfl rfl

theorem descends (h : after.Continues before) : after.Descends before := by
  obtain ⟨kept, hkept, hsub⟩ := List.sublistForall₂_iff.mp h.sessions
  exact ⟨List.sublistForall₂_iff.mpr ⟨kept, hkept.imp fun _ _ hrow => hrow.toDescends, hsub⟩,
    h.spent⟩

theorem trans (h : after.Continues middle) (h' : middle.Continues before) :
    after.Continues before := by
  refine ⟨IsTrans.trans _ _ _ h.sessions h'.sessions, ?_⟩
  rintro replay hreplay ⟨row, hrow, hid, hunrevoked⟩
  -- A session that stands at the end stood in the middle, so its records were kept twice.
  obtain ⟨earlier, hearlier, hdescends⟩ := h.descends.origin hrow
  exact h.spent replay (h'.spent replay hreplay
    ⟨earlier, hearlier, hdescends.id ▸ hid, hdescends.unrevoked hunrevoked⟩)
      ⟨row, hrow, hid, hunrevoked⟩

end AuthTables.Continues

namespace AuthTables

variable (tables : AuthTables)

theorem updateSessions_continues {condition : SessionRow → Bool} {change : SessionRow → SessionRow}
    (hchange : ∀ row, (change row).Continues row) :
    (tables.updateSessions condition change).Continues tables := by
  constructor
  · rw [updateSessions, List.sublistForall₂_map_left_iff, List.sublistForall₂_iff]
    refine ⟨tables.sessions, List.forall₂_same.mpr fun row _ => ?_, List.Sublist.refl _⟩
    split_ifs
    · exact hchange row
    · exact .refl row
  · exact fun replay hreplay _ => hreplay

theorem updateSessions_descends {condition : SessionRow → Bool} {change : SessionRow → SessionRow}
    (hchange : ∀ row, (change row).Descends row) :
    (tables.updateSessions condition change).Descends tables := by
  constructor
  · rw [updateSessions, List.sublistForall₂_map_left_iff, List.sublistForall₂_iff]
    refine ⟨tables.sessions, List.forall₂_same.mpr fun row _ => ?_, List.Sublist.refl _⟩
    split_ifs
    · exact hchange row
    · exact .refl row
  · exact fun replay hreplay _ => hreplay

theorem revokeSessionsOf_continues (userId : String) (now : Int) :
    (tables.revokeSessionsOf userId now).Continues tables :=
  tables.updateSessions_continues fun row => row.revoke_continues now

theorem withUser_continues (new : UserRow) :
    { tables with users := replaceRow (·.id) tables.users new }.Continues tables := .of_eq rfl rfl

theorem updateUser_continues (old new : UserRow) : (tables.updateUser old new).Continues tables := by
  unfold updateUser
  dsimp only
  split_ifs
  · exact tables.withUser_continues new
  · exact (updateSessions_continues _ SessionRow.withoutEnrollment_continues).trans
      (tables.withUser_continues new)

theorem consumeTokensOf_continues (tenantId userId : String) (now : Int) :
    (tables.consumeTokensOf tenantId userId now).Continues tables := .of_eq rfl rfl

theorem deleteSessions_continues (hids : (tables.sessions.map (·.id)).Nodup)
    (condition : SessionRow → Bool) : (tables.deleteSessions condition).Continues tables := by
  constructor
  · exact List.filter_sublist.sublistForall₂
  · rintro replay hreplay ⟨row, hrow, hid, _⟩
    obtain ⟨hmem, hstays⟩ := List.mem_filter.mp hrow
    refine find?_filter_of_find? hreplay ?_
    rw [Bool.not_eq_true', List.any_eq_false]
    -- A record goes with its session, and a session that stays has another id.
    intro deleted hdeleted
    by_cases hsame : deleted.id = replay.sessionId
    · obtain rfl := eq_of_key hids hdeleted hmem (hsame.trans hid.symm)
      have hkept : condition deleted = false := by simpa using hstays
      simp [hkept]
    · simp [hsame]

theorem eraseUser_continues (hids : (tables.sessions.map (·.id)).Nodup)
    (sha256 : String → String) (user : UserRow) (deletedAt : Int) :
    (tables.eraseUser sha256 user deletedAt).Continues tables := by
  constructor
  · rw [eraseUser, List.sublistForall₂_map_left_iff, List.sublistForall₂_iff]
    refine ⟨tables.sessions, List.forall₂_same.mpr fun row _ => ?_, List.Sublist.refl _⟩
    split_ifs
    · exact row.scrubDeleted_continues sha256 deletedAt
    · exact .refl row
  · rintro replay hreplay ⟨row, hrow, hid, hunrevoked⟩
    obtain ⟨earlier, hearlier, rfl⟩ := List.mem_map.mp hrow
    refine find?_filter_of_find? hreplay ?_
    rw [Bool.not_eq_true', List.any_eq_false]
    intro other hother herased
    simp only [Bool.and_eq_true, beq_iff_eq] at herased
    split_ifs at hid hunrevoked with howned
    · -- What a deletion leaves of a session is revoked.
      simp [SessionRow.scrubDeleted, SessionRow.revoke_revokedAt] at hunrevoked
    · obtain rfl := eq_of_key hids hother hearlier (herased.2.trans hid.symm)
      exact howned herased.1

theorem administerUser_continues (hids : (tables.sessions.map (·.id)).Nodup)
    (sha256 : String → String) (old new : UserRow) :
    (tables.administerUser sha256 old new).Continues tables := by
  have hupdated := tables.updateUser_continues old new.scrubDeleted
  unfold administerUser
  dsimp only
  split
  · exact (eraseUser_continues _ (hids.sublist hupdated.descends.ids_sublist) _ _ _).trans hupdated
  · split_ifs
    · exact hupdated
    · exact (revokeSessionsOf_continues _ _ _).trans hupdated
  · exact hupdated

end AuthTables

/-! ## Transactions -/

section Transactions

variable {service : AuthService} {tables next : AuthTables} {around : Surroundings}

theorem passwordAttempt_continues (userId tenantId password : String) (betaDemo : Bool) :
    (service.passwordAttempt tables around userId tenantId password).2.Continues tables := by
  obtain hsame | ⟨old, new, _, hnext⟩ :=
    passwordAttempt_tables userId tenantId password betaDemo
  · rw [hsame]
    exact .refl _
  · rw [hnext]
    exact tables.updateUser_continues old new

theorem pinAttempt_continues (userId tenantId : String) (pinProof : PinLoginProof) (pin : String) :
    (service.pinAttempt tables around userId tenantId pinProof pin).2.Continues tables := by
  obtain hsame | ⟨old, new, _, hnext⟩ := pinAttempt_tables userId tenantId pinProof pin
  · rw [hsame]
    exact .refl _
  · rw [hnext]
    exact tables.updateUser_continues old new

/-- A request for a reset writes tokens and mails only. -/
theorem createPasswordReset_continues {tenantId userId : String} {drawn : NewReset}
    (h : service.createPasswordReset tables around tenantId userId drawn = .ok next) :
    next.Continues tables := by
  obtain rfl | ⟨token, email, _, _, _, _, _, rfl⟩ := createPasswordReset_tables h
  · exact .refl _
  · exact .of_eq rfl rfl

theorem PasswordReset.continues {locator : ResetLocator} {tokenHash passwordHash : String}
    {user : UserRow} {reset : PasswordResetToken}
    (h : PasswordReset tables around locator tokenHash passwordHash user reset next) :
    next.Continues tables := by
  rw [h.next_eq]
  exact (AuthTables.consumeTokensOf_continues _ _ _ _).trans
    ((AuthTables.revokeSessionsOf_continues _ _ _).trans (tables.updateUser_continues _ _))

theorem claimMatched_continues {userId : String} {matched : MatchedCode}
    (h : tables.claimMatched userId matched = .ok next) : next.Continues tables := by
  unfold AuthTables.claimMatched at h
  split at h
  · obtain rfl := Except.ok.inj h
    exact .refl _
  · obtain ⟨_, rfl⟩ := claimTotpTimeStep_eq_ok h
    exact .of_eq rfl rfl

theorem makeRoom_continues (hids : (tables.sessions.map (·.id)).Nodup) (userId : String)
    (now : Int) : (tables.makeRoom userId now).Continues tables := by
  have hended : (tables.deleteEndedSessions userId now).Continues tables :=
    tables.deleteSessions_continues hids _
  exact (AuthTables.deleteSessions_continues _ (hids.sublist hended.descends.ids_sublist) _).trans hended

theorem rotateRefreshCredential_continues {credential : RefreshCredential}
    {rotated : SelectedRefreshCredential} {locator : RefreshSessionLocator}
    {marker : Option RefreshMfaObservation} {outcome : RefreshRotation}
    (h : service.rotateRefreshCredential tables around credential rotated locator marker =
      .ok (outcome, next)) : next.Continues tables := by
  obtain ⟨rfl, _⟩ | ⟨session, _, _, rfl⟩ | ⟨authorization, _, hrotated⟩ :=
    rotateRefreshCredential_eq_ok h
  · exact .refl _
  · exact tables.updateSessions_continues fun row => row.revoke_continues _
  · rw [hrotated.next_eq]
    refine AuthTables.Continues.trans (AuthTables.updateSessions_continues _ fun row =>
      credential.rotate_continues row rotated) ?_
    -- The validator that is spent is recorded behind those that are there.
    refine ⟨Std.Refl.refl _, fun replay hreplay _ => ?_⟩
    show (tables.refreshTokenReplays ++ [_]).find? _ = _
    rw [List.find?_append]
    exact Option.or_eq_some_iff.mpr (.inl hreplay)

theorem revokeSessionByRefreshToken_continues {before : AuthTables}
    {credential : RefreshCredential} :
    (tables.revokeSessionByRefreshToken around before credential).2.Continues tables := by
  unfold AuthTables.revokeSessionByRefreshToken
  split
  · exact .refl _
  · split_ifs
    · exact .refl _
    · exact tables.updateSessions_continues fun row => row.revoke_continues _

theorem recordFailedAttempt_continues (service : AuthService) (userId tenantId : String) :
    (AuthService.recordFailedAttempt tables around userId tenantId).Continues tables := by
  obtain hsame | ⟨old, new, _, hnext⟩ := recordFailedAttempt_tables service userId tenantId
  · rw [hsame]
    exact .refl _
  · rw [hnext]
    exact tables.updateUser_continues old new

theorem recoverPin_continues (userId tenantId pinHash : String) (now : Int) :
    (AuthService.recoverPin tables userId tenantId pinHash now).Continues tables := by
  obtain hsame | ⟨user, _, _, hnext⟩ := recoverPin_tables userId tenantId pinHash now
  · rw [hsame]
    exact .refl _
  · rw [hnext]
    exact (AuthTables.revokeSessionsOf_continues _ _ _).trans (tables.updateUser_continues _ _)

theorem recoverMfa_continues (userId tenantId : String) (now : Int) :
    (AuthService.recoverMfa tables userId tenantId now).Continues tables := by
  obtain hsame | ⟨user, _, _, hnext⟩ := recoverMfa_tables userId tenantId now
  · rw [hsame]
    exact .refl _
  · rw [hnext]
    have hclaims : ((tables.updateUser user user.withoutSecondFactor).withoutClaimsOf
      userId).Continues (tables.updateUser user user.withoutSecondFactor) := .of_eq rfl rfl
    exact (AuthTables.revokeSessionsOf_continues _ _ _).trans
      (hclaims.trans (tables.updateUser_continues _ _))

end Transactions

/-! ## Steps -/

/-- What a step meets. -/
def AuthEvent.around : AuthEvent → Option Surroundings
  | .passwordAttempt _ _ _ _ around => some around
  | .pinAttempt _ _ _ _ around => some around
  | .issue _ _ around => some around
  | .rotate _ around => some around
  | .validate _ _ _ around => some around
  | .logout _ _ around => some around
  | .revokeSession _ around => some around
  | .createPasswordReset _ _ _ around => some around
  | .resetPassword _ _ _ _ around => some around
  | .rotateOwnPin _ _ _ _ _ around => some around
  | .beginMfaEnrollment _ _ around => some around
  | .confirmMfaEnrollment _ _ _ _ around => some around
  | .disableMfa _ _ _ around => some around
  | .validateMfa _ _ around => some around
  | _ => none

/-- The ids that have been drawn, after a step. -/
def Draws (system : AuthSystem) (event : AuthEvent) (next : AuthSystem) : Prop :=
  next.drawnIds = system.drawnIds ∨
    ∃ id, event.drawnId = some id ∧ next.drawnIds = system.drawnIds ++ [id]

/-- The step issues a session. -/
def Issues (service : AuthService) (system : AuthSystem) (event : AuthEvent) (drawn : NewSession)
    (next : AuthSystem) (answer : AuthAnswer) : Prop :=
  ∃ index around signIn issued, event = .issue index drawn around ∧
    system.signIns[index]? = some signIn ∧
    SessionIssued service system.tables around signIn drawn issued next.tables ∧
    next.drawnIds = system.drawnIds ++ [drawn.id] ∧
    answer = .signedIn (AuthService.sessionTokens signIn drawn issued)

/-- The step begins an enrollment, of a user whose second factor is off and under a session that
stands. -/
def Enrolls (system : AuthSystem) (event : AuthEvent) (next : AuthSystem) : Prop :=
  ∃ actor encryptedSecret around context,
    event = .beginMfaEnrollment actor encryptedSecret around ∧
    system.tables.selfSecurityContext around actor.tenantId actor.userId actor.sessionId false none =
      .ok context ∧
    context.user.mfaEnabled = false ∧
    next = { system with
      tables := system.tables.updateSessions
        (fun session => session.id = context.session.id ∧ session.userId = actor.userId ∧
          session.revokedAt = none ∧ around.databaseClock 1 < session.expiresAt)
        (·.withEnrollment encryptedSecret
          (around.databaseClock 1 + mfaEnrollmentTtlSeconds * 1000)) }

section Steps

variable {service : AuthService} {system : AuthSystem}

/-- The tables continue, an enrollment is begun or a session is issued. -/
def SessionsStep (service : AuthService) (system : AuthSystem) (event : AuthEvent)
    (result : AuthAnswer × AuthSystem) : Prop :=
  (Draws system event result.2 ∧ result.2.tables.Continues system.tables) ∨
    Enrolls system event result.2 ∨ ∃ drawn, Issues service system event drawn result.2 result.1

theorem Enrolls.descends {event : AuthEvent} {next : AuthSystem} (h : Enrolls system event next) :
    next.tables.Descends system.tables := by
  obtain ⟨_, _, _, _, _, _, _, rfl⟩ := h
  exact AuthTables.updateSessions_descends _ fun row => ⟨rfl, rfl, rfl, rfl, fun h => h⟩

/-- The sessions after a step descend from those before, or one of them is issued. -/
theorem SessionsStep.descends {event : AuthEvent} {result : AuthAnswer × AuthSystem}
    (h : SessionsStep service system event result) :
    (Draws system event result.2 ∧ result.2.tables.Descends system.tables) ∨
      ∃ drawn, Issues service system event drawn result.2 result.1 := by
  obtain ⟨hdrawn, hcontinues⟩ | henrolls | hissues := h
  · exact .inl ⟨hdrawn, hcontinues.descends⟩
  · refine .inl ⟨?_, henrolls.descends⟩
    obtain ⟨_, _, _, _, _, _, _, hnext⟩ := henrolls
    exact .inl (by rw [hnext])
  · exact .inr hissues

theorem sessionsStep_same {event : AuthEvent} {answer : AuthAnswer} {next : AuthSystem}
    (hdrawn : next.drawnIds = system.drawnIds) (htables : next.tables = system.tables) :
    SessionsStep service system event (answer, next) :=
  .inl ⟨.inl hdrawn, htables ▸ .refl _⟩

theorem sessionsStep_settle {event : AuthEvent} {outcome : Except AuthError AuthTables}
    (h : ∀ next, outcome = .ok next → next.Continues system.tables) :
    SessionsStep service system event (system.settle outcome) := by
  cases outcome with
  | error error => exact sessionsStep_same rfl rfl
  | ok next => exact .inl ⟨.inl rfl, h next rfl⟩

theorem sessionsStep_settleAttempt {event : AuthEvent} {signIn : Except AuthError SignIn}
    {tables : AuthTables} (h : tables.Continues system.tables) :
    SessionsStep service system event (AuthService.settleAttempt system signIn tables) := by
  cases signIn with
  | error error => exact .inl ⟨.inl rfl, h⟩
  | ok signIn => exact .inl ⟨.inl rfl, h⟩

theorem sessionsStep_settleVerification {event : AuthEvent} {claims : Option TokenPayload}
    {marking : Marking} {tables : AuthTables} (h : tables.Continues system.tables) :
    SessionsStep service system event
      (AuthService.settleVerification system claims marking tables) := by
  cases claims with
  | none => exact .inl ⟨.inl rfl, h⟩
  | some claims => exact .inl ⟨.inl rfl, h⟩

theorem EnrollmentConfirmed.continues {tables next : AuthTables} {around : Surroundings}
    {actor : Actor} {code encryptedSecret : String} {backupCodeHashes : List String}
    {context : SelfSecurity} {confirmation : MfaConfirmation}
    (h : EnrollmentConfirmed service tables around actor code encryptedSecret backupCodeHashes
      context confirmation next) : next.Continues tables := by
  rw [h.next_eq]
  refine (AuthTables.updateUser_continues _ _ _).trans ?_
  refine AuthTables.Continues.trans (AuthTables.updateSessions_continues _
    SessionRow.withoutEnrollment_continues) ?_
  exact .of_eq rfl rfl

theorem MfaVerified.continues {tables next : AuthTables} {around : Surroundings} {actor : Actor}
    {code : String} {verification : MfaVerification}
    (h : MfaVerified service tables around actor code verification next) :
    next.Continues tables := by
  obtain ⟨_, rfl⟩ | ⟨found, claimed, _, _, hclaimed, rfl⟩ := h.outcome
  · exact .refl _
  · cases found.backupCodeHash with
    | none => exact claimMatched_continues hclaimed
    | some hash =>
        exact (AuthTables.updateUser_continues _ _ _).trans (claimMatched_continues hclaimed)

theorem rotateStep_sessions (index : Nat) (around : Surroundings) :
    SessionsStep service system (.rotate index around) (service.rotateStep system index around) := by
  unfold AuthService.rotateStep
  split
  · exact sessionsStep_same rfl rfl
  · split
    · exact sessionsStep_same rfl rfl
    · dsimp only
      split
      · exact sessionsStep_same rfl rfl
      · rename_i tables hrotated
        exact .inl ⟨.inl rfl, rotateRefreshCredential_continues hrotated⟩
      · rename_i tables hmarker
        split
        · exact .inl ⟨.inl rfl, rotateRefreshCredential_continues hmarker⟩
        · exact .inl ⟨.inl rfl, rotateRefreshCredential_continues hmarker⟩
      · rename_i tables _ _ hrefused
        exact .inl ⟨.inl rfl, rotateRefreshCredential_continues hrefused⟩

theorem authStep_sessions (hids : (system.tables.sessions.map (·.id)).Nodup) (event : AuthEvent) :
    SessionsStep service system event (service.authStep system event) := by
  cases event with
  | passwordAttempt userId tenantId password betaDemo around =>
      exact sessionsStep_settleAttempt (passwordAttempt_continues userId tenantId password betaDemo)
  | pinAttempt userId tenantId pinProof pin around =>
      exact sessionsStep_settleAttempt (pinAttempt_continues userId tenantId pinProof pin)
  | prove signIn =>
      unfold AuthService.authStep
      dsimp only
      split_ifs
      · exact sessionsStep_same rfl rfl
      · exact sessionsStep_same rfl rfl
  | issue index drawn around =>
      show SessionsStep service system _ (service.issueStep system index drawn around)
      unfold AuthService.issueStep
      split
      · exact sessionsStep_same rfl rfl
      · rename_i signIn hsignIn
        split
        · exact sessionsStep_same rfl rfl
        · rename_i issued tables hissued
          exact .inr <| .inr ⟨drawn, index, around, signIn, issued, rfl, hsignIn,
            issueSession_eq_ok hissued, rfl, rfl⟩
  | beginRefresh refreshToken drawn =>
      show SessionsStep service system _ (service.beginRefreshStep system refreshToken drawn)
      unfold AuthService.beginRefreshStep
      split
      · exact sessionsStep_same rfl rfl
      · split
        · exact sessionsStep_same rfl rfl
        · exact sessionsStep_same rfl rfl
  | rotate index around => exact rotateStep_sessions index around
  | observeMarker index redisNow =>
      show SessionsStep service system _ (AuthService.observeStep system index redisNow)
      unfold AuthService.observeStep
      split
      · exact sessionsStep_same rfl rfl
      · split_ifs
        · exact sessionsStep_same rfl rfl
        · exact sessionsStep_same rfl rfl
  | validate claims before redisNow around =>
      unfold AuthService.authStep
      dsimp only
      split
      · exact sessionsStep_same rfl rfl
      · exact sessionsStep_same rfl rfl
  | logout refreshToken before around =>
      unfold AuthService.authStep
      dsimp only
      split
      · exact sessionsStep_same rfl rfl
      · exact .inl ⟨.inl rfl, revokeSessionByRefreshToken_continues⟩
  | revokeSession sessionId around =>
      exact .inl ⟨.inl rfl, AuthTables.updateSessions_continues _ fun row => row.revoke_continues _⟩
  | revokeSessionsOf userId now => exact .inl ⟨.inl rfl, AuthTables.revokeSessionsOf_continues _ _ _⟩
  | purgeDormantSessions asOf picked =>
      exact .inl ⟨.inl rfl, AuthTables.deleteSessions_continues _ hids _⟩
  | purgePasswordResetTokens asOf picked =>
      exact .inl ⟨.inl rfl, AuthTables.Continues.of_eq rfl rfl⟩
  | recordFailedAttempt userId tenantId around =>
      exact .inl ⟨.inl rfl, recordFailedAttempt_continues service userId tenantId⟩
  | createPasswordReset tenantId userId drawn around =>
      show SessionsStep service system _ (service.createResetStep system tenantId userId drawn
        around)
      unfold AuthService.createResetStep
      split
      · exact sessionsStep_same rfl rfl
      · rename_i tables hcreated
        exact .inl ⟨.inr ⟨_, rfl, rfl⟩, createPasswordReset_continues hcreated⟩
  | resetPassword token password passwordHash before around =>
      refine sessionsStep_settle fun next h => ?_
      obtain ⟨_, _, _, _, _, hreset⟩ := resetPasswordWithToken_eq_ok h
      exact hreset.continues
  | rotateOwnPin actor currentPin newPin newPinHash observed around =>
      refine sessionsStep_settle fun next h => ?_
      obtain ⟨context, _, rfl⟩ := rotateOwnPin_eq_ok h
      exact (AuthTables.revokeSessionsOf_continues _ _ _).trans
        (AuthTables.updateUser_continues _ _ _)
  | beginMfaEnrollment actor encryptedSecret around =>
      show SessionsStep service system _ (system.settle (AuthService.beginMfaEnrollment
        system.tables around actor.tenantId actor.userId actor.sessionId encryptedSecret))
      cases hbegun : AuthService.beginMfaEnrollment system.tables around actor.tenantId
        actor.userId actor.sessionId encryptedSecret with
      | error error => exact sessionsStep_same rfl rfl
      | ok next =>
          obtain ⟨context, hcontext, hdisabled, rfl⟩ := beginMfaEnrollment_eq_ok hbegun
          exact .inr <| .inl ⟨actor, encryptedSecret, around, context, rfl, hcontext, hdisabled, rfl⟩
  | confirmMfaEnrollment actor code encryptedSecret backupCodeHashes around =>
      show SessionsStep service system _ (service.confirmMfaStep system actor code encryptedSecret
        backupCodeHashes around)
      unfold AuthService.confirmMfaStep
      split
      · exact sessionsStep_same rfl rfl
      · rename_i confirmation tables h
        obtain ⟨context, hconfirmed⟩ := confirmMfaEnrollment_eq_ok h
        exact sessionsStep_settleVerification hconfirmed.continues
  | disableMfa actor code before around =>
      refine sessionsStep_settle fun next h => ?_
      obtain ⟨⟨matched, tables⟩, hdisabled, rfl⟩ := map_eq_ok.mp h
      obtain ⟨context, _, ⟨_, _, rfl⟩ | ⟨found, claimed, _, _, hclaimed, rfl⟩⟩ :=
        disableMfa_eq_ok hdisabled
      · exact .refl _
      · exact (AuthTables.revokeSessionsOf_continues _ _ _).trans
          ((AuthTables.updateUser_continues _ _ _).trans (claimMatched_continues hclaimed))
  | validateMfa actor code around =>
      show SessionsStep service system _ (service.validateMfaStep system actor code around)
      unfold AuthService.validateMfaStep
      split
      · exact sessionsStep_same rfl rfl
      · rename_i verification tables h
        exact sessionsStep_settleVerification (validateMfa_eq_ok h).continues
  | writeMarker index redisNow now =>
      show SessionsStep service system _ (AuthService.writeMarkerStep system index redisNow now)
      unfold AuthService.writeMarkerStep
      split
      · exact sessionsStep_same rfl rfl
      · exact sessionsStep_same rfl rfl
  | failMarker index now =>
      show SessionsStep service system _ (AuthService.failMarkerStep system index now)
      unfold AuthService.failMarkerStep
      split
      · exact sessionsStep_same rfl rfl
      · dsimp only
        split_ifs
        · exact .inl ⟨.inl rfl, AuthTables.updateSessions_continues _ fun row =>
            row.revoke_continues _⟩
        · exact sessionsStep_same rfl rfl
  | clearMarker sessionId => exact sessionsStep_same rfl rfl
  | administer userId tenantId change =>
      unfold AuthService.authStep
      dsimp only
      split
      · exact sessionsStep_same rfl rfl
      · exact .inl ⟨.inl rfl, AuthTables.administerUser_continues _ hids _ _ _⟩
  | recoverPin userId tenantId pinHash now =>
      exact .inl ⟨.inl rfl, recoverPin_continues userId tenantId pinHash now⟩
  | recoverMfa userId tenantId now =>
      exact .inl ⟨.inl rfl, recoverMfa_continues userId tenantId now⟩

end Steps

end LunchLineup.Auth
