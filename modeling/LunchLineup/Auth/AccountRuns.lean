import LunchLineup.Auth.ResetRuns

/-!
# Accounts over whole runs

Two rules of the database hold in every state that the steps reach: who is deleted or suspended
has no session that stands (`closed_users_signed_out`), and the secret of an enrollment that is
not confirmed waits only under a session that stands, of a user whose second factor is off
(`pending_secrets_fenced`).
-/

namespace LunchLineup.Auth

open LunchLineup.Lib

/-- The user may sign in. -/
def UserRow.Live (user : UserRow) : Prop := user.deletedAt = none ∧ user.suspendedAt = none

/-- Who has a session that stands is neither deleted nor suspended. -/
def AuthTables.OwnersLive (tables : AuthTables) : Prop :=
  ∀ row ∈ tables.sessions, row.revokedAt = none →
    ∀ user ∈ tables.users, user.id = row.userId → user.Live

/-- A secret is pending only under a session that stands, of a user without second factor. -/
def AuthTables.PendingFenced (tables : AuthTables) : Prop :=
  ∀ row ∈ tables.sessions, row.mfaEnrollmentSecret.isSome →
    row.revokedAt = none ∧ ∀ user ∈ tables.users, user.id = row.userId → user.mfaEnabled = false

section Steps

variable {service : AuthService} {system : AuthSystem} {event : AuthEvent}

/-! ## Users who may sign in -/

/-- Only a deletion or a suspension keeps a user from signing in. -/
theorem administer_live {change : AccountChange} {user : UserRow} (hlive : user.Live) :
    (user.administer change).scrubDeleted.Live ∨
      ∃ deletedAt suspendedAt, change = .lifecycle deletedAt suspendedAt ∧
        (deletedAt.isSome ∨ suspendedAt.isSome ∧ user.suspendedAt ≠ suspendedAt) := by
  have hkept : (user.administer change).Live → (user.administer change).scrubDeleted.Live := by
    intro hchanged
    rwa [UserRow.scrubDeleted, if_pos hchanged.1]
  cases change with
  | lifecycle deletedAt suspendedAt =>
      cases deletedAt with
      | some time => exact .inr ⟨_, _, rfl, .inl rfl⟩
      | none =>
          cases suspendedAt with
          | some time =>
              refine .inr ⟨_, _, rfl, .inr ⟨rfl, ?_⟩⟩
              rw [hlive.2]
              exact (Option.some_ne_none time).symm
          | none => exact .inl (hkept ⟨rfl, rfl⟩)
  | profile role email username => exact .inl (hkept hlive)
  | lock lockedUntil => exact .inl (hkept hlive)
  | unlock => exact .inl (hkept hlive)

theorem UserWrite.live {tables : AuthTables} {old new : UserRow}
    (h : UserWrite service tables event old new) (hlive : old.Live) :
    new.Live ∨ ∃ userId tenantId deletedAt suspendedAt,
      event = .administer userId tenantId (.lifecycle deletedAt suspendedAt) ∧
        tables.user? userId tenantId = some old ∧
        (deletedAt.isSome ∨ suspendedAt.isSome ∧ old.suspendedAt ≠ suspendedAt) := by
  cases h with
  | @administered userId tenantId change _ huser =>
      obtain hsame | ⟨deletedAt, suspendedAt, rfl, hends⟩ : _ ∨ ∃ deletedAt suspendedAt,
          change = .lifecycle deletedAt suspendedAt ∧ _ := administer_live hlive
      · exact .inl hsame
      · exact .inr ⟨userId, tenantId, deletedAt, suspendedAt, rfl, huser, hends⟩
  | signedIn =>
      refine .inl ?_
      unfold UserRow.signedIn
      split_ifs
      · exact hlive
      · exact hlive
  | _ => exact .inl hlive

/-- A session after a step that stands is one of a user who could sign in before it. -/
theorem owner_live (hsound : system.Sound) (h : system.tables.OwnersLive) {row : SessionRow}
    (hrow : row ∈ (service.authStep system event).2.tables.sessions)
    (hstands : row.revokedAt = none) {old : UserRow} (hold : old ∈ system.tables.users)
    (howner : old.id = row.userId) : old.Live := by
  obtain ⟨earlier, hearlier, hdescends⟩ |
      ⟨index, around, signIn, drawn, issued, _, hissued, hdescends⟩ :=
    authStep_origin hsound.ids hrow
  · exact h earlier hearlier (hdescends.unrevoked hstands) old hold
      (howner.trans hdescends.userId)
  · obtain ⟨huser, hid, _, hlive⟩ := AuthTables.liveUser?_eq_some _ hissued.user
    have hissuedFor : row.userId = signIn.userId := by
      rw [hdescends.userId, hissued.session]
      rfl
    obtain rfl := eq_of_key hsound.userIds hold huser
      (howner.trans (hissuedFor.trans hid.symm))
    exact hlive

/-- A change that closes an account leaves it no session that stands. -/
theorem ownersLive_step (hsound : system.Sound) (h : system.tables.OwnersLive) :
    (service.authStep system event).2.tables.OwnersLive := by
  intro row hrow hstands user huser howner
  obtain hsame | ⟨old, new, hwrite, hnext⟩ := authStep_users event
  · exact owner_live hsound h hrow hstands (hsame ▸ huser) howner
  · rw [hnext] at huser
    obtain rfl | ⟨hold, _⟩ := mem_replaceRow huser
    · obtain ⟨hold, hid, _⟩ := hwrite.same
      have hbefore := owner_live hsound h hrow hstands hold (hid.symm.trans howner)
      obtain hlive | ⟨userId, tenantId, deletedAt, suspendedAt, rfl, hfound, hends⟩ :=
        hwrite.live hbefore
      · exact hlive
      · -- The change closes the account, and its trigger revokes what stands.
        have hrevoked : row.revokedAt.isSome := by
          unfold AuthService.authStep at hrow
          simp only [hfound] at hrow
          exact AuthTables.administerUser_revoked hends hrow (howner.symm.trans hid)
        rw [hstands] at hrevoked
        cases hrevoked
    · exact owner_live hsound h hrow hstands hold howner

/-! ## Secrets that wait -/

theorem UserWrite.mfaDisabled {tables : AuthTables} {old new : UserRow}
    (h : UserWrite service tables event old new) (hdisabled : old.mfaEnabled = false) :
    new.mfaEnabled = false ∨ ∃ actor code encryptedSecret backupCodeHashes around,
      event = .confirmMfaEnrollment actor code encryptedSecret backupCodeHashes around ∧
        old.id = actor.userId := by
  cases h with
  | enrolled huser => exact .inr ⟨_, _, _, _, _, rfl, (AuthTables.liveUser?_eq_some _ huser).2.1⟩
  | administered =>
      refine .inl ?_
      unfold UserRow.scrubDeleted
      split_ifs
      · unfold UserRow.administer
        split
        · exact hdisabled
        · exact hdisabled
        · exact hdisabled
        · exact hdisabled
      · rfl
  | signedIn =>
      refine .inl ?_
      unfold UserRow.signedIn
      split_ifs
      · exact hdisabled
      · exact hdisabled
  | disabled => exact .inl rfl
  | mfaRecovered => exact .inl rfl
  | _ => exact .inl hdisabled

/-- Where the second factor is switched, no secret of the user waits. -/
theorem AuthTables.updateUser_fenced {tables : AuthTables} {old new : UserRow}
    (hswitched : old.mfaEnabled ≠ new.mfaEnabled) {row : SessionRow}
    (hrow : row ∈ (tables.updateUser old new).sessions) (howner : row.userId = new.id) :
    row.mfaEnrollmentSecret = none := by
  unfold updateUser at hrow
  dsimp only at hrow
  rw [if_neg fun hsame => hswitched hsame.1] at hrow
  obtain ⟨earlier, _, rfl⟩ := List.mem_map.mp hrow
  split_ifs at howner ⊢ with hpending
  · rfl
  · by_contra hsome
    exact hpending (by simpa [howner] using Option.isSome_iff_ne_none.mpr hsome)

theorem confirmMfaStep_cases {actor : Actor} {code encryptedSecret : String}
    {backupCodeHashes : List String} {around : Surroundings} {next : AuthTables}
    (h : next = (service.authStep system (.confirmMfaEnrollment actor code encryptedSecret
      backupCodeHashes around)).2.tables) :
    next = system.tables ∨ ∃ context confirmation, EnrollmentConfirmed service system.tables
      around actor code encryptedSecret backupCodeHashes context confirmation next := by
  change next = (service.confirmMfaStep system actor code encryptedSecret backupCodeHashes
    around).2.tables at h
  unfold AuthService.confirmMfaStep at h
  split at h
  · exact .inl h
  · rename_i confirmation tables hconfirmed
    rw [settleVerification_tables] at h
    obtain ⟨context, hconfirms⟩ := confirmMfaEnrollment_eq_ok hconfirmed
    exact .inr ⟨context, confirmation, h ▸ hconfirms⟩

/-- The second factor of a user is not on after a step that leaves a secret of his waiting. -/
theorem mfaDisabled_step {row : SessionRow}
    (hrow : row ∈ (service.authStep system event).2.tables.sessions)
    (hpending : row.mfaEnrollmentSecret.isSome)
    (hbefore : ∀ old ∈ system.tables.users, old.id = row.userId → old.mfaEnabled = false)
    {user : UserRow} (huser : user ∈ (service.authStep system event).2.tables.users)
    (howner : user.id = row.userId) : user.mfaEnabled = false := by
  obtain hsame | ⟨old, new, hwrite, hnext⟩ := authStep_users event
  · exact hbefore user (hsame ▸ huser) howner
  · have hreplaced := huser
    rw [hnext] at hreplaced
    obtain rfl | ⟨hold, _⟩ := mem_replaceRow hreplaced
    · obtain ⟨hold, hid, _⟩ := hwrite.same
      obtain hoff | ⟨actor, code, encryptedSecret, backupCodeHashes, around, rfl, hactor⟩ :=
        hwrite.mfaDisabled (hbefore old hold (hid.symm.trans howner))
      · exact hoff
      · obtain hsame | ⟨context, confirmation, hconfirmed⟩ := confirmMfaStep_cases rfl
        · exact hbefore user (hsame ▸ huser) howner
        · -- A confirmation takes every secret of the user away.
          have hcontext := (AuthTables.liveUser?_eq_some _
            (selfSecurityContext_eq_ok hconfirmed.context_eq).1).2.1
          have hswitched : context.user.mfaEnabled ≠ (context.user.withSecondFactor encryptedSecret
              backupCodeHashes).mfaEnabled := by
            rw [hconfirmed.disabled]
            exact Bool.false_ne_true
          rw [hconfirmed.next_eq] at hrow
          have hnone := AuthTables.updateUser_fenced hswitched hrow
            (howner.symm.trans (hid.trans (hactor.trans hcontext.symm)))
          rw [hnone] at hpending
          cases hpending
    · exact hbefore user hold howner

theorem pendingFenced_step (hsound : system.Sound) (h : system.tables.PendingFenced) :
    (service.authStep system event).2.tables.PendingFenced := by
  intro row hrow hpending
  -- What waits after a step that begins no enrollment waited before it, under the same session.
  have hcontinued : ∀ earlier ∈ system.tables.sessions, row.Continues earlier →
      row.revokedAt = none ∧
        ∀ old ∈ system.tables.users, old.id = row.userId → old.mfaEnabled = false := by
    intro earlier hearlier hcontinues
    obtain ⟨hsecret, hrevoked⟩ := hcontinues.pending hpending
    obtain ⟨hstands, hoff⟩ := h earlier hearlier hsecret
    exact ⟨hrevoked.trans hstands, fun old hold hown =>
      hoff old hold (hown.trans hcontinues.userId)⟩
  have hbefore : row.revokedAt = none ∧
      ∀ old ∈ system.tables.users, old.id = row.userId → old.mfaEnabled = false := by
    have hsessionsStep : SessionsStep service system event _ := authStep_sessions hsound.ids event
    obtain ⟨_, hcontinues⟩ | ⟨actor, secret, around, context, _, hcontext, hoff, hnext⟩ |
        ⟨drawn, index, around, signIn, issued, rfl, _, hissued, _, _⟩ := hsessionsStep
    · obtain ⟨earlier, hearlier, hrows⟩ :=
        exists_right_of_sublistForall₂ hcontinues.sessions hrow
      exact hcontinued earlier hearlier hrows
    · rw [hnext] at hrow
      obtain ⟨earlier, hearlier, rfl⟩ := List.mem_map.mp hrow
      split_ifs at hpending ⊢ with hbegun
      · simp only [decide_eq_true_eq] at hbegun
        refine ⟨hbegun.2.2.1, fun old hold hown => ?_⟩
        have huser := AuthTables.liveUser?_eq_some _ (selfSecurityContext_eq_ok hcontext).1
        -- The enrollment was begun by a user whose second factor is off.
        obtain rfl := eq_of_key hsound.userIds hold huser.1
          (hown.trans (hbegun.2.1.trans huser.2.1.symm))
        exact hoff
      · exact h earlier hearlier hpending
    · obtain ⟨hcontinues, hsessions⟩ := hissued.sessions
      obtain ⟨earlier, hearlier, hrows⟩ :=
        exists_right_of_sublistForall₂ hcontinues.sessions hrow
      rw [hsessions, List.mem_append, List.mem_singleton] at hearlier
      obtain hkept | rfl := hearlier
      · obtain ⟨first, hfirst, hroom⟩ := exists_right_of_sublistForall₂
          (makeRoom_continues hsound.ids signIn.userId (around.clock 2)).sessions hkept
        exact hcontinued first hfirst (IsTrans.trans _ _ _ hrows hroom)
      · have hnone := (hrows.pending hpending).1
        rw [hissued.session] at hnone
        cases hnone
  exact ⟨hbefore.1, fun user huser howner =>
    mfaDisabled_step hrow hpending hbefore.2 huser howner⟩

/-! ## Answers -/

/-- Who the session of an answer belongs to might sign in before the step. -/
def AnswersForLive (t : Transition AuthSystem AuthEvent AuthAnswer) (sessionId : String) : Prop :=
  ∃ row ∈ t.before.tables.sessions ++ t.after.tables.sessions, row.id = sessionId ∧
    ∀ user ∈ t.before.tables.users, user.id = row.userId → user.Live

/-- A sign-in changes nothing that takes pending secrets away, so the session is as it was made. -/
theorem SessionIssued.session_mem {tables next : AuthTables} {around : Surroundings}
    {signIn : SignIn} {drawn : NewSession} {issued : IssuedSession}
    (h : SessionIssued service tables around signIn drawn issued next) :
    issued.session ∈ next.sessions := by
  have hkept : ∀ reset now, issued.user.mfaEnabled = (issued.user.signedIn reset now).mfaEnabled ∧
      issued.user.mfaSecret = (issued.user.signedIn reset now).mfaSecret ∧
        issued.user.tenantId = (issued.user.signedIn reset now).tenantId := by
    intro reset now
    unfold UserRow.signedIn
    split_ifs
    · exact ⟨rfl, rfl, rfl⟩
    · exact ⟨rfl, rfl, rfl⟩
  rw [h.next_eq]
  unfold AuthTables.updateUser
  dsimp only
  rw [if_pos (hkept _ _)]
  show issued.session ∈ ((tables.makeRoom signIn.userId (around.clock 2)).withSession
    issued.session).sessions
  rw [h.sessions.2]
  exact List.mem_append_right _ (List.mem_singleton.mpr rfl)

theorem answersForLive_step (hsound : system.Sound) (h : system.tables.OwnersLive)
    {sessionId : String} (hanswer : (service.authStep system event).1.sessionId = some sessionId) :
    AnswersForLive (transition service.authStep system event) sessionId := by
  obtain ⟨drawn, ⟨index, around, signIn, issued, rfl, _, hissued, _, _⟩, rfl⟩ |
      ⟨row, hrow, hid, around, reading, _, hactive⟩ := authorized_session hanswer
  · obtain ⟨huser, hid, _, hlive⟩ := AuthTables.liveUser?_eq_some _ hissued.user
    have hsession : issued.session.id = drawn.id ∧ issued.session.userId = signIn.userId := by
      rw [hissued.session]
      exact ⟨rfl, rfl⟩
    refine ⟨issued.session, List.mem_append_right _ hissued.session_mem, hsession.1,
      fun user hmem howner => ?_⟩
    obtain rfl := eq_of_key hsound.userIds hmem huser
      (howner.trans (hsession.2.trans hid.symm))
    exact hlive
  · exact ⟨row, List.mem_append_left _ hrow, hid, h row hrow hactive.1⟩

end Steps

/-! ## Runs -/

section Runs

variable (service : AuthService) {system : AuthSystem} {events : List AuthEvent}

/-- In every run a user who is deleted or suspended has no session that stands, and no answer
stands for a session of his. -/
theorem closed_users_signed_out (hsound : system.Sound) (hfresh : FreshIds system events)
    (h : system.tables.OwnersLive) :
    (final service.authStep system events).tables.OwnersLive ∧
      ∀ t ∈ trace service.authStep system events, ∀ sessionId,
        t.answer.sessionId = some sessionId → AnswersForLive t sessionId := by
  have hstep : ∀ (state : AuthSystem) (event : AuthEvent),
      state.Sound ∧ state.tables.OwnersLive → New state event →
        (service.authStep state event).2.Sound ∧
          (service.authStep state event).2.tables.OwnersLive :=
    fun _ _ hstate hnew => ⟨sound_step hstate.1 hnew, ownersLive_step hstate.1 hstate.2⟩
  refine ⟨(invariant_final_of_trace (fun state : AuthSystem => state.Sound ∧
    state.tables.OwnersLive) hstep ⟨hsound, h⟩ (hfresh.steps hsound)).2,
      fun t ht sessionId hanswer => ?_⟩
  obtain ⟨hbefore, hlive⟩ := invariant_before_of_trace (fun state : AuthSystem => state.Sound ∧
    state.tables.OwnersLive) hstep ⟨hsound, h⟩ (hfresh.steps hsound) ht
  rw [eq_transition_of_mem_trace ht] at hanswer ⊢
  exact answersForLive_step hbefore hlive hanswer

theorem suspended_user_signed_out :
    (final plainService.authStep twoRefreshes
        [.administer "user" "tenant" (.lifecycle none (some 43200000)),
          .rotate 0 noon]).tables.OwnersLive ∧
      ∀ t ∈ trace plainService.authStep twoRefreshes
          [.administer "user" "tenant" (.lifecycle none (some 43200000)), .rotate 0 noon],
        ∀ sessionId, t.answer.sessionId = some sessionId → AnswersForLive t sessionId :=
  closed_users_signed_out plainService twoRefreshes_sound (by unfold FreshIds; decide)
    (by simp [AuthTables.OwnersLive, UserRow.Live, twoRefreshes, staffUser])

/-- In every run the secret of an enrollment waits only under a session that stands, of a user
whose second factor is off. -/
theorem pending_secrets_fenced (hsound : system.Sound) (hfresh : FreshIds system events)
    (h : system.tables.PendingFenced) :
    (final service.authStep system events).tables.PendingFenced :=
  (invariant_final_of_trace
    (fun state : AuthSystem => state.Sound ∧ state.tables.PendingFenced)
    (fun _ _ hstate hnew => ⟨sound_step hstate.1 hnew, pendingFenced_step hstate.1 hstate.2⟩)
    ⟨hsound, h⟩ (hfresh.steps hsound)).2

theorem begun_enrollment_fenced :
    (final plainService.authStep twoRefreshes
      [.beginMfaEnrollment ⟨"tenant", "user", "session"⟩ "sealed" noon]).tables.PendingFenced :=
  pending_secrets_fenced plainService twoRefreshes_sound (by unfold FreshIds; decide)
    (by simp [AuthTables.PendingFenced, twoRefreshes, noonSession])

end Runs

end LunchLineup.Auth
