import LunchLineup.Auth.AnswerSteps

/-!
# Sessions over whole runs

Every id is drawn once (`FreshIds`), so a session that is revoked or gone stays so and no later
answer stands for it.  What a session has spent of its refresh validators is spent for good,
whoever presents it again and whatever runs in between; presented with the session's selector
it ends the session.  A session lives as long as it was issued for, however often it is
refreshed, and a user has twenty at most.
-/

namespace LunchLineup.Auth

open LunchLineup.Lib

/-- The ids that a run draws are new. -/
def FreshIds (system : AuthSystem) (events : List AuthEvent) : Prop :=
  (system.drawnIds ++ events.filterMap AuthEvent.drawnId).Nodup

/-- Sessions and users have ids of their own, and a refresh under way has found a session of a
user in his workspace. -/
structure AuthSystem.Sound (system : AuthSystem) : Prop where
  ids : (system.tables.sessions.map (·.id)).Nodup
  drawn : ∀ row ∈ system.tables.sessions, row.id ∈ system.drawnIds
  userIds : (system.tables.users.map (·.id)).Nodup
  located : ∀ refresh ∈ system.refreshes, ∃ user ∈ system.tables.users,
    user.id = refresh.locator.userId ∧ user.tenantId = refresh.locator.tenantId

/-- What is revoked or gone of the sessions that have been. -/
structure Ended (sessionId : String) (system : AuthSystem) : Prop where
  drawn : sessionId ∈ system.drawnIds
  revoked : ∀ row ∈ system.tables.sessions, row.id = sessionId → row.revokedAt.isSome

/-- A step of which the ids are new. -/
def New (system : AuthSystem) (event : AuthEvent) : Prop :=
  ∀ id ∈ event.drawnId, id ∉ system.drawnIds

section Steps

variable {service : AuthService} {system : AuthSystem} {event : AuthEvent}

theorem authStep_descends (service : AuthService)
    (hids : (system.tables.sessions.map (·.id)).Nodup) (event : AuthEvent) :
    (Draws system event (service.authStep system event).2 ∧
        (service.authStep system event).2.tables.Descends system.tables) ∨
      ∃ drawn, Issues service system event drawn (service.authStep system event).2
        (service.authStep system event).1 :=
  (authStep_sessions hids event).descends

theorem authStep_draws (hids : (system.tables.sessions.map (·.id)).Nodup) :
    Draws system event (service.authStep system event).2 := by
  obtain ⟨hdraws, _⟩ | ⟨drawn, _, _, _, _, rfl, _, _, hdrawn, _⟩ :=
    authStep_descends service hids event
  · exact hdraws
  · exact .inr ⟨drawn.id, rfl, hdrawn⟩

theorem Draws.subset {next : AuthSystem} (h : Draws system event next) :
    system.drawnIds ⊆ next.drawnIds := by
  obtain hsame | ⟨_, _, hmore⟩ := h
  · rw [hsame]
    exact List.Subset.refl _
  · rw [hmore]
    exact List.subset_append_left _ _

/-- What a step leaves of the ids is still new. -/
theorem FreshIds.next {events : List AuthEvent} {next : AuthSystem}
    (hfresh : FreshIds system (event :: events)) (hdraws : Draws system event next) :
    FreshIds next events := by
  unfold FreshIds at hfresh ⊢
  -- A step that is refused has drawn nothing.
  obtain hsame | ⟨id, hid, hmore⟩ := hdraws
  · rw [hsame]
    refine hfresh.sublist (List.Sublist.append_left ?_ _)
    cases hid : event.drawnId with
    | none => rw [List.filterMap_cons_none hid]
    | some id =>
        rw [List.filterMap_cons_some hid]
        exact List.sublist_cons_self _ _
  · rw [List.filterMap_cons_some hid] at hfresh
    rw [hmore, List.append_assoc]
    exact hfresh

theorem FreshIds.new {events : List AuthEvent} (hfresh : FreshIds system (event :: events)) :
    New system event := by
  intro id hid hdrawn
  unfold FreshIds at hfresh
  rw [List.filterMap_cons_some hid, List.nodup_append] at hfresh
  exact hfresh.2.2 id hdrawn id List.mem_cons_self rfl

/-- The row of a session that is issued. -/
theorem SessionIssued.sessions {tables next : AuthTables} {around : Surroundings} {signIn : SignIn}
    {drawn : NewSession} {issued : IssuedSession}
    (h : SessionIssued service tables around signIn drawn issued next) :
    next.Continues ((tables.makeRoom signIn.userId (around.clock 2)).withSession issued.session) ∧
      ((tables.makeRoom signIn.userId (around.clock 2)).withSession issued.session).sessions =
        (tables.makeRoom signIn.userId (around.clock 2)).sessions ++ [issued.session] := by
  constructor
  · rw [h.next_eq]
    exact AuthTables.updateUser_continues _ _ _
  · rw [h.session]
    rfl

/-- A session after a step descends from one before, or is issued. -/
theorem authStep_origin (hids : (system.tables.sessions.map (·.id)).Nodup) {row : SessionRow}
    (hrow : row ∈ (service.authStep system event).2.tables.sessions) :
    (∃ earlier ∈ system.tables.sessions, row.Descends earlier) ∨
      ∃ index around signIn drawn issued, event = .issue index drawn around ∧
        SessionIssued service system.tables around signIn drawn issued
          (service.authStep system event).2.tables ∧ row.Descends issued.session := by
  obtain ⟨_, hdescends⟩ | ⟨drawn, index, around, signIn, issued, rfl, _, hissued, _, _⟩ :=
    authStep_descends service hids event
  · exact .inl (hdescends.origin hrow)
  · obtain ⟨hcontinues, hsessions⟩ := hissued.sessions
    obtain ⟨earlier, hearlier, hdescends⟩ := hcontinues.descends.origin hrow
    rw [hsessions, List.mem_append, List.mem_singleton] at hearlier
    obtain hkept | rfl := hearlier
    · obtain ⟨first, hfirst, hroom⟩ := (makeRoom_continues hids signIn.userId
        (around.clock 2)).descends.origin hkept
      exact .inl ⟨first, hfirst, hdescends.trans hroom⟩
    · exact .inr ⟨index, around, signIn, drawn, issued, rfl, hissued, hdescends⟩

/-- A session whose id was drawn before the step descends from one before. -/
theorem origin_of_drawn (hsound : system.Sound)
    (hnew : New system event) {row : SessionRow}
    (hrow : row ∈ (service.authStep system event).2.tables.sessions)
    (hdrawn : row.id ∈ system.drawnIds) :
    ∃ earlier ∈ system.tables.sessions, row.Descends earlier := by
  obtain horigin | ⟨index, around, signIn, drawn, issued, rfl, hissued, hdescends⟩ :=
    authStep_origin hsound.ids hrow
  · exact horigin
  · have hid : row.id = drawn.id := by
      rw [hdescends.id, hissued.session]
      rfl
    exact absurd (hid ▸ hdrawn) (hnew drawn.id rfl)

theorem sessionIds_step (hsound : system.Sound) (hnew : New system event) :
    ((service.authStep system event).2.tables.sessions.map (·.id)).Nodup ∧
      ∀ row ∈ (service.authStep system event).2.tables.sessions,
        row.id ∈ (service.authStep system event).2.drawnIds := by
  have hsubset : system.drawnIds ⊆ (service.authStep system event).2.drawnIds :=
    (authStep_draws hsound.ids).subset
  obtain ⟨_, hdescends⟩ | ⟨drawn, index, around, signIn, issued, rfl, _, hissued, hids, _⟩ :=
    authStep_descends service hsound.ids event
  · refine ⟨hsound.ids.sublist hdescends.ids_sublist, fun row hrow => ?_⟩
    obtain ⟨earlier, hearlier, hdescends⟩ := hdescends.origin hrow
    exact hsubset (hdescends.id ▸ hsound.drawn earlier hearlier)
  · obtain ⟨hcontinues, hsessions⟩ := hissued.sessions
    have hroom := (makeRoom_continues hsound.ids signIn.userId (around.clock 2)).descends
    have hid : issued.session.id = drawn.id := by
      rw [hissued.session]
      rfl
    -- The deletions that make room leave ids that were drawn before.
    have hkept : ∀ id ∈ (system.tables.makeRoom signIn.userId (around.clock 2)).sessions.map (·.id),
        id ∈ system.drawnIds := by
      intro id hkept
      obtain ⟨row, hrow, rfl⟩ := List.mem_map.mp (hroom.ids_sublist.mem hkept)
      exact hsound.drawn row hrow
    constructor
    · refine List.Nodup.sublist hcontinues.descends.ids_sublist ?_
      rw [hsessions, List.map_append, List.nodup_append]
      refine ⟨hsound.ids.sublist hroom.ids_sublist, List.nodup_singleton _, ?_⟩
      intro id hold new hnewId
      rw [List.map_singleton, List.mem_singleton, hid] at hnewId
      rintro rfl
      exact hnew drawn.id rfl (hnewId ▸ hkept id hold)
    · intro row hrow
      obtain ⟨earlier, hearlier, hdescends⟩ := hcontinues.descends.origin hrow
      rw [hsessions, List.mem_append, List.mem_singleton] at hearlier
      rw [hids, hdescends.id]
      obtain hold | rfl := hearlier
      · exact List.mem_append_left _ (hkept _ (List.mem_map_of_mem hold))
      · rw [hid]
        exact List.mem_append_right _ (List.mem_singleton.mpr rfl)

theorem AuthTables.locateRefreshSession_eq_some {tables : AuthTables}
    {credential : RefreshCredential} {locator : RefreshSessionLocator}
    (h : tables.locateRefreshSession credential = some locator) :
    ∃ user ∈ tables.users, user.id = locator.userId ∧ user.tenantId = locator.tenantId := by
  simp only [AuthTables.locateRefreshSession, Option.bind_eq_bind, Option.bind_eq_some_iff] at h
  obtain ⟨session, _, user, huser, hlocator⟩ := h
  obtain rfl := Option.some.inj hlocator
  have hid := List.find?_some huser
  exact ⟨user, List.mem_of_find?_eq_some huser, of_decide_eq_true hid, rfl⟩

/-- Who was in a workspace is there after a step. -/
theorem place_step (hids : (system.tables.users.map (·.id)).Nodup) {id tenantId : String}
    (h : ∃ user ∈ system.tables.users, user.id = id ∧ user.tenantId = tenantId) :
    ∃ user ∈ (service.authStep system event).2.tables.users,
      user.id = id ∧ user.tenantId = tenantId := by
  obtain ⟨user, huser, rfl, rfl⟩ := h
  have hplace : (user.id, user.tenantId) ∈
      system.tables.users.map fun row => (row.id, row.tenantId) := List.mem_map_of_mem huser
  rw [← (authStep_users event).places hids] at hplace
  obtain ⟨row, hrow, heq⟩ := List.mem_map.mp hplace
  exact ⟨row, hrow, (Prod.mk.inj heq).1, (Prod.mk.inj heq).2⟩

theorem sound_step (hsound : system.Sound) (hnew : New system event) :
    (service.authStep system event).2.Sound := by
  obtain ⟨hids, hdrawn⟩ := sessionIds_step hsound hnew
  refine ⟨hids, hdrawn, ?_, fun refresh hrefresh => ?_⟩
  · rw [(authStep_users event).ids]
    exact hsound.userIds
  · obtain ⟨earlier, hearlier, hlocator⟩ | ⟨credential, hlocated⟩ :=
      (authStep_calls event).locators hrefresh
    · rw [hlocator]
      exact place_step hsound.userIds (hsound.located earlier hearlier)
    · exact place_step hsound.userIds (AuthTables.locateRefreshSession_eq_some hlocated)

theorem FreshIds.steps {events : List AuthEvent} (hsound : system.Sound)
    (hfresh : FreshIds system events) :
    ∀ t ∈ trace service.authStep system events, New t.before t.request := by
  induction events generalizing system with
  | nil => simp [trace]
  | cons event rest ih =>
      intro t ht
      rcases List.mem_cons.mp ht with rfl | ht
      · exact hfresh.new
      · exact ih (sound_step hsound hfresh.new) (hfresh.next (authStep_draws hsound.ids)) t ht

/-- A session that has ended stays so. -/
theorem ended_step {sessionId : String} (hsound : system.Sound) (hnew : New system event)
    (h : Ended sessionId system) : Ended sessionId (service.authStep system event).2 := by
  refine ⟨(authStep_draws hsound.ids).subset h.drawn, fun row hrow hid => ?_⟩
  obtain ⟨earlier, hearlier, hdescends⟩ := origin_of_drawn hsound hnew hrow (hid ▸ h.drawn)
  exact hdescends.revoked (h.revoked earlier hearlier (hdescends.id.symm.trans hid))

/-- No answer stands for a session that has ended. -/
theorem ended_answer {sessionId : String} (hnew : New system event) (h : Ended sessionId system) :
    (service.authStep system event).1.sessionId ≠ some sessionId := by
  intro hanswer
  obtain ⟨drawn, ⟨_, _, _, _, rfl, _⟩, rfl⟩ | ⟨row, hrow, hid, _, _, _, hactive⟩ :=
    authorized_session hanswer
  · exact hnew drawn.id rfl h.drawn
  · have hrevoked := h.revoked row hrow hid
    rw [hactive.1] at hrevoked
    cases hrevoked

/-! ## Spent validators -/

/-- A step of a refresh that finds its session. -/
structure Refreshes (t : Transition AuthSystem AuthEvent AuthAnswer) (refresh : Refreshing)
    (session : SessionRow) : Prop where
  called : ∃ index around, t.request = .rotate index around ∧
    t.before.refreshes[index]? = some refresh ∧ refresh.phase ≠ .needsMarker
  session : t.before.tables.session? refresh.locator.sessionId refresh.locator.userId = some session

/-- A refresh is granted, and the session has spent its validator. -/
def Spends (service : AuthService) (t : Transition AuthSystem AuthEvent AuthAnswer)
    (sessionId validatorHash : String) : Prop :=
  ∃ refresh session claims token expiresAt, Refreshes t refresh session ∧
    t.answer = .refreshed claims token expiresAt ∧ session.id = sessionId ∧
    service.spentValidator refresh.credential session = validatorHash

/-- A validator is presented with the selector of a session of which it is not the current
one. -/
def Replays (t : Transition AuthSystem AuthEvent AuthAnswer) (sessionId validatorHash : String) :
    Prop :=
  ∃ refresh session presented, Refreshes t refresh session ∧
    refresh.credential = .selected presented ∧ presented.validatorHash = validatorHash ∧
    session.id = sessionId ∧ session.selectorHash = some presented.selectorHash ∧
    session.refreshToken ≠ validatorHash

/-- The validator is recorded as spent, or its session has ended. -/
structure Spent (sessionId validatorHash : String) (system : AuthSystem) : Prop where
  drawn : sessionId ∈ system.drawnIds
  recorded : (∀ row ∈ system.tables.sessions, row.id = sessionId → row.revokedAt.isSome) ∨
    system.tables.Recorded ⟨sessionId, validatorHash⟩

/-- What an unrevoked session has spent is still recorded after a step. -/
theorem recorded_step (hsound : system.Sound) (hnew : New system event)
    {replay : RefreshTokenReplay} (h : system.tables.Recorded replay)
    (hdrawn : replay.sessionId ∈ system.drawnIds)
    (hstands : ∃ row ∈ (service.authStep system event).2.tables.sessions,
      row.id = replay.sessionId ∧ row.revokedAt = none) :
    (service.authStep system event).2.tables.Recorded replay := by
  obtain ⟨_, hdescends⟩ | ⟨drawn, index, around, signIn, issued, rfl, _, hissued, hids, _⟩ :=
    authStep_descends service hsound.ids event
  · exact hdescends.spent replay h hstands
  · obtain ⟨hcontinues, hsessions⟩ := hissued.sessions
    have hroom := makeRoom_continues hsound.ids signIn.userId (around.clock 2)
    refine hcontinues.spent replay ?_ hstands
    obtain ⟨row, hrow, hid, hunrevoked⟩ := hstands
    obtain ⟨earlier, hearlier, hrowOf⟩ := hcontinues.descends.origin hrow
    rw [hsessions, List.mem_append, List.mem_singleton] at hearlier
    obtain hkept | rfl := hearlier
    · exact hroom.spent replay h ⟨earlier, hkept, hrowOf.id ▸ hid, hrowOf.unrevoked hunrevoked⟩
    · -- The session that is issued has spent nothing.
      have hissuedId : drawn.id = replay.sessionId := by
        rw [← hid, hrowOf.id, hissued.session]
        rfl
      exact absurd hdrawn (hissuedId ▸ hnew drawn.id rfl)

theorem spent_step {sessionId validatorHash : String} (hsound : system.Sound)
    (hnew : New system event) (h : Spent sessionId validatorHash system) :
    Spent sessionId validatorHash (service.authStep system event).2 := by
  refine ⟨(authStep_draws hsound.ids).subset h.drawn, ?_⟩
  obtain hended | hrecorded := h.recorded
  · exact .inl (ended_step hsound hnew ⟨h.drawn, hended⟩).revoked
  · -- A record goes only when its session is revoked or gone.
    by_cases hstands : ∃ row ∈ (service.authStep system event).2.tables.sessions,
        row.id = sessionId ∧ row.revokedAt = none
    · exact .inr (recorded_step hsound hnew hrecorded h.drawn hstands)
    · push Not at hstands
      exact .inl fun row hrow hid => Option.isSome_iff_ne_none.mpr (hstands row hrow hid)

/-- A granted refresh leaves its validator spent, and found it unspent. -/
theorem spends_step {sessionId validatorHash : String} (hsound : system.Sound)
    (h : Spends service (transition service.authStep system event) sessionId validatorHash) :
    ¬ Spent sessionId validatorHash system ∧
      Spent sessionId validatorHash (service.authStep system event).2 := by
  obtain ⟨refresh, session, claims, token, expiresAt, ⟨⟨index, around, hevent, hrefresh, _⟩,
    hsession⟩, hanswer, rfl, rfl⟩ := h
  obtain rfl : event = .rotate index around := hevent
  change system.refreshes[index]? = some refresh at hrefresh
  change system.tables.session? _ _ = some session at hsession
  obtain ⟨found, authorization, hfound, hrotated⟩ := rotateStep_refreshed hanswer
  obtain rfl := Option.some.inj (hrefresh.symm.trans hfound)
  obtain rfl := Option.some.inj (hsession.symm.trans hrotated.session)
  have hmem := (AuthTables.session?_eq_some hsession).1
  -- The rotation has seen that the session stands and that no session spent the validator.
  constructor
  · rintro ⟨_, hended | hrecorded⟩
    · have hrevoked := hended _ hmem rfl
      rw [hrotated.unrevoked] at hrevoked
      cases hrevoked
    · exact hrotated.unspent _ (List.mem_of_find?_eq_some hrecorded) rfl
  · refine ⟨(authStep_draws hsound.ids).subset (hsound.drawn _ hmem), .inr ?_⟩
    show (service.rotateStep system index around).2.tables.Recorded _
    rw [hrotated.next_eq]
    show (system.tables.refreshTokenReplays ++ [_]).find? _ = _
    rw [List.find?_append, List.find?_eq_none.mpr fun replay hreplay => by
      simpa using hrotated.unspent replay hreplay]
    simp

/-- A spent validator that is presented again revokes its session. -/
theorem rotateRefreshCredential_replay {tables : AuthTables} {around : Surroundings}
    {credential : RefreshCredential} {rotated : SelectedRefreshCredential}
    {locator : RefreshSessionLocator} {marker : Option RefreshMfaObservation}
    {session : SessionRow} {user : UserRow}
    (hsession : tables.session? locator.sessionId locator.userId = some session)
    (huser : tables.userOf? session = some user) (htenant : user.tenantId = locator.tenantId)
    (hunrevoked : session.revokedAt = none) (hselects : credential.selects session = true)
    (hcurrent : credential.matchesCurrent session = false)
    (hreplay : (tables.replay? credential.suppliedValidatorHash).map (·.sessionId) =
      some session.id) :
    service.rotateRefreshCredential tables around credential rotated locator marker =
      .ok (.replayed session.id, tables.updateSessions
        (fun row => row.id = session.id ∧ row.userId = locator.userId ∧ row.revokedAt = none)
        (·.revoke (around.clock 0))) := by
  unfold AuthService.rotateRefreshCredential
  simp [hsession, huser, htenant, hunrevoked, hselects, hcurrent, hreplay]

theorem rotateRefreshCredential_revoked {tables : AuthTables} {around : Surroundings}
    {credential : RefreshCredential} {rotated : SelectedRefreshCredential}
    {locator : RefreshSessionLocator} {marker : Option RefreshMfaObservation}
    {session : SessionRow} {user : UserRow}
    (hsession : tables.session? locator.sessionId locator.userId = some session)
    (huser : tables.userOf? session = some user) (hrevoked : session.revokedAt.isSome) :
    service.rotateRefreshCredential tables around credential rotated locator marker =
      .ok (.invalid, tables) := by
  unfold AuthService.rotateRefreshCredential
  simp [hsession, huser, hrevoked]

/-- The user of a session that a refresh has found. -/
theorem AuthSystem.Sound.userOf {refresh : Refreshing} {session : SessionRow}
    (hsound : system.Sound) (hrefresh : refresh ∈ system.refreshes)
    (hsession : system.tables.session? refresh.locator.sessionId refresh.locator.userId =
      some session) :
    ∃ user, system.tables.userOf? session = some user ∧
      user.tenantId = refresh.locator.tenantId := by
  obtain ⟨user, huser, hid, htenant⟩ := hsound.located refresh hrefresh
  refine ⟨user, ?_, htenant⟩
  unfold AuthTables.userOf?
  rw [(AuthTables.session?_eq_some hsession).2.2, ← hid]
  exact find?_key hsound.userIds huser

theorem replays_step {sessionId validatorHash : String} (hsound : system.Sound)
    (hnew : New system event) (hspent : Spent sessionId validatorHash system)
    (h : Replays (transition service.authStep system event) sessionId validatorHash) :
    (service.authStep system event).1 = .error invalidRefreshToken ∧
      Ended sessionId (service.authStep system event).2 := by
  obtain ⟨refresh, session, presented, ⟨⟨index, around, hevent, hrefresh, hphase⟩, hsession⟩,
    hcredential, rfl, rfl, hselector, hcurrent⟩ := h
  obtain rfl : event = .rotate index around := hevent
  change system.refreshes[index]? = some refresh at hrefresh
  change system.tables.session? _ _ = some session at hsession
  obtain ⟨user, huser, htenant⟩ := hsound.userOf (List.mem_of_getElem? hrefresh) hsession
  have hmem := (AuthTables.session?_eq_some hsession).1
  -- A session that was revoked meanwhile stays so; one that stands is revoked by the replay.
  cases hrevoked : session.revokedAt with
  | some time =>
      have hended : Ended session.id system := by
        refine ⟨hspent.drawn, fun row hrow hid => ?_⟩
        obtain rfl := eq_of_key hsound.ids hrow hmem hid
        rw [hrevoked]
        rfl
      refine ⟨?_, ended_step hsound hnew hended⟩
      show (service.rotateStep system index around).1 = _
      unfold AuthService.rotateStep
      simp only [hrefresh, if_neg hphase]
      rw [rotateRefreshCredential_revoked hsession huser (by rw [hrevoked]; rfl)]
  | none =>
      have hrecorded : system.tables.Recorded ⟨session.id, presented.validatorHash⟩ := by
        obtain hended | hrecorded := hspent.recorded
        · have := hended session hmem rfl
          rw [hrevoked] at this
          cases this
        · exact hrecorded
      -- The validator is not the current one of the session, so the record decides.
      have hselects : refresh.credential.selects session = true := by
        simp [hcredential, RefreshCredential.selects, hselector]
      have hstale : refresh.credential.matchesCurrent session = false := by
        simp [hcredential, RefreshCredential.matchesCurrent, hcurrent]
      have hreplay : (system.tables.replay? refresh.credential.suppliedValidatorHash).map
          (·.sessionId) = some session.id := by
        rw [hcredential]
        exact congrArg (Option.map _) hrecorded
      show (service.rotateStep system index around).1 = _ ∧
        Ended session.id (service.rotateStep system index around).2
      unfold AuthService.rotateStep
      simp only [hrefresh, if_neg hphase]
      rw [rotateRefreshCredential_replay hsession huser htenant hrevoked hselects hstale hreplay]
      refine ⟨rfl, hspent.drawn, fun row hrow hid => ?_⟩
      obtain ⟨earlier, hearlier, rfl⟩ := List.mem_map.mp hrow
      split_ifs at hid ⊢ with hmatches
      · rw [SessionRow.revoke_revokedAt]
        rfl
      · obtain rfl := eq_of_key hsound.ids hearlier hmem hid
        have howner := (AuthTables.session?_eq_some hsession).2.2
        simp [howner, hrevoked] at hmatches

end Steps

/-! ## Two refreshes with one token -/

/-- The digests of the texts that are drawn below. -/
def digestOfDrawn (text : String) : String :=
  match text with
  | "AAAAAAAAAAAAAAAAAAAAAAAAAAAAAAAAAAAAAAAAAAA" =>
    "0f007385b6f9d4b7eeb2748605afe1a984a0a3bfa3f014d09e2a784ce9e5cd1a"
  | "BBBBBBBBBBBBBBBBBBBBBBBBBBBBBBBBBBBBBBBBBBB" =>
    "412dc46cc9e3cb26f29f7c1415c556349af62904c5d15b0a2d8cfdc5cfa22b34"
  | "CCCCCCCCCCCCCCCCCCCCCCCCCCCCCCCCCCCCCCCCCCC" =>
    "942014af03195c97fc8a6121a03e1660b89027a538325a101eba426dacd7e587"
  | "DDDDDDDDDDDDDDDDDDDDDDDDDDDDDDDDDDDDDDDDDDD" =>
    "391ab01bf8d16cd248fe06202b6e6dfc149cb16c96d6163b34ec399297ab765b"
  | _ => ""

def plainService : AuthService where
  sha256 := digestOfDrawn
  verifyPassword _ _ := false
  verifyPin _ _ := false
  matchesBackupCode _ _ := false
  totpCode _ _ := none
  decryptMfaSecret _ := none

def staffUser : UserRow where
  id := "user"
  tenantId := "tenant"
  role := "STAFF"
  email := none
  username := some "kim"
  passwordHash := none
  loginAttempts := 0
  lockedUntil := none
  lastLoginAt := none
  pinHash := none
  pinSetAt := none
  pinResetRequired := false
  pinLoginAttempts := 0
  pinLockedUntil := none
  mfaEnabled := false
  mfaSecret := none
  mfaBackupCodes := []
  deletedAt := none
  suspendedAt := none

/-- Every clock reads noon, and the policy is the default. -/
def noon : Surroundings where
  clock _ := 43200000
  databaseClock _ := 43200000
  tenant _ := some ⟨.active, none⟩
  security _ := ⟨false, false, none⟩
  access _ := .ok ⟨"STAFF", ["auth:login_password", "auth:login_pin"]⟩

/-- The token that both refreshes present. -/
def presentedCredential : SelectedRefreshCredential :=
  plainService.selectedCredential "AAAAAAAAAAAAAAAAAAAAAAAAAAAAAAAAAAAAAAAAAAA"
    "BBBBBBBBBBBBBBBBBBBBBBBBBBBBBBBBBBBBBBBBBBB"

def noonSession : SessionRow where
  id := "session"
  userId := "user"
  selectorHash := some presentedCredential.selectorHash
  refreshToken := presentedCredential.validatorHash
  ipAddress := "203.0.113.7"
  userAgent := "browser"
  expiresAt := 72000000
  createdAt := 43200000
  revokedAt := none
  mfaEnrollmentSecret := none
  mfaEnrollmentExpiresAt := none

/-- A refresh that has found the session. -/
def foundRefresh : Refreshing where
  credential := .selected presentedCredential
  drawn :=
    ⟨"", "CCCCCCCCCCCCCCCCCCCCCCCCCCCCCCCCCCCCCCCCCCC",
      "DDDDDDDDDDDDDDDDDDDDDDDDDDDDDDDDDDDDDDDDDDD", "203.0.113.7", "browser"⟩
  locator := ⟨"session", "user", "tenant"⟩
  phase := .located

/-- Two refreshes with the same token are under way. -/
def twoRefreshes : AuthSystem where
  tables := ⟨[staffUser], [noonSession], [], [], [], []⟩
  markers _ := none
  signIns := []
  refreshes := [foundRefresh, foundRefresh]
  markings := []
  drawnIds := ["session"]

theorem twoRefreshes_sound : twoRefreshes.Sound where
  ids := by decide
  drawn := by decide
  userIds := by decide
  located := by decide

theorem twoRefreshes_fresh : FreshIds twoRefreshes [.rotate 0 noon, .rotate 0 noon] := by
  unfold FreshIds
  decide

/-- The first of the two spends the validator and the second replays it. -/
theorem twoRefreshes_collide :
    Spends plainService (transition plainService.authStep twoRefreshes (.rotate 0 noon)) "session"
        presentedCredential.validatorHash ∧
      Replays (transition plainService.authStep
        (plainService.authStep twoRefreshes (.rotate 0 noon)).2 (.rotate 0 noon)) "session"
          presentedCredential.validatorHash := by
  constructor
  · exact ⟨foundRefresh, noonSession, _, _, _, ⟨⟨0, noon, rfl, rfl, by decide⟩, rfl⟩, rfl, rfl, rfl⟩
  · exact ⟨foundRefresh, _, presentedCredential, ⟨⟨0, noon, rfl, rfl, by decide⟩, rfl⟩, rfl, rfl, rfl,
      rfl, by decide⟩

/-! ## Runs -/

section Runs

variable (service : AuthService) {system : AuthSystem} {events : List AuthEvent}

/-- Once a session is revoked or gone, no later answer stands for it. -/
theorem ended_session_never_answers (hsound : system.Sound) (hfresh : FreshIds system events)
    (sessionId : String) :
    (trace service.authStep system events).Pairwise fun t later =>
      Ended sessionId t.after → later.answer.sessionId ≠ some sessionId :=
  pairwise_trace AuthSystem.Sound (fun t state => Ended sessionId t.after → Ended sessionId state)
    (fun _ _ hstate hnew => sound_step hstate hnew)
    (fun _ _ _ _ hended => hended)
    (fun _ _ _ hstate hnew hmark hended => ended_step hstate hnew (hmark hended))
    (fun _ _ _ _ hnew hmark hended => ended_answer hnew (hmark hended))
    hsound (hfresh.steps hsound)

theorem revoked_session_refused :
    (trace plainService.authStep twoRefreshes
        [.revokeSession "session" noon, .rotate 0 noon]).Pairwise fun t later =>
      Ended "session" t.after → later.answer.sessionId ≠ some "session" :=
  ended_session_never_answers plainService twoRefreshes_sound (by unfold FreshIds; decide) "session"

/-- No session spends a refresh validator twice. -/
theorem validator_spent_once (hsound : system.Sound) (hfresh : FreshIds system events)
    (sessionId validatorHash : String) :
    (trace service.authStep system events).Pairwise fun t later =>
      ¬ (Spends service t sessionId validatorHash ∧ Spends service later sessionId validatorHash) :=
  pairwise_trace AuthSystem.Sound
    (fun t state => Spends service t sessionId validatorHash → Spent sessionId validatorHash state)
    (fun _ _ hstate hnew => sound_step hstate hnew)
    (fun _ _ hstate _ hspends => (spends_step hstate hspends).2)
    (fun _ _ _ hstate hnew hmark hspends => spent_step hstate hnew (hmark hspends))
    (fun _ _ _ hstate _ hmark hspends =>
      (spends_step hstate hspends.2).1 (hmark hspends.1))
    hsound (hfresh.steps hsound)

theorem second_refresh_spends_nothing :
    ¬ Spends plainService (transition plainService.authStep
      (plainService.authStep twoRefreshes (.rotate 0 noon)).2 (.rotate 0 noon)) "session"
        presentedCredential.validatorHash := by
  have hpairs := validator_spent_once plainService twoRefreshes_sound twoRefreshes_fresh "session"
    presentedCredential.validatorHash
  exact fun hspends => (List.pairwise_cons.mp hpairs).1 _ List.mem_cons_self
    ⟨twoRefreshes_collide.1, hspends⟩

/-- A spent validator that is presented again is refused, and ends its session. -/
theorem replay_ends_session (hsound : system.Sound) (hfresh : FreshIds system events)
    (sessionId validatorHash : String) :
    (trace service.authStep system events).Pairwise fun t later =>
      Spends service t sessionId validatorHash → Replays later sessionId validatorHash →
        later.answer = .error invalidRefreshToken ∧ Ended sessionId later.after :=
  pairwise_trace AuthSystem.Sound
    (fun t state => Spends service t sessionId validatorHash → Spent sessionId validatorHash state)
    (fun _ _ hstate hnew => sound_step hstate hnew)
    (fun _ _ hstate _ hspends => (spends_step hstate hspends).2)
    (fun _ _ _ hstate hnew hmark hspends => spent_step hstate hnew (hmark hspends))
    (fun _ _ _ hstate hnew hmark hspends hreplays =>
      replays_step hstate hnew (hmark hspends) hreplays)
    hsound (hfresh.steps hsound)

theorem second_refresh_ends_session :
    (plainService.authStep (plainService.authStep twoRefreshes (.rotate 0 noon)).2
        (.rotate 0 noon)).1 = .error invalidRefreshToken ∧
      Ended "session" (plainService.authStep
        (plainService.authStep twoRefreshes (.rotate 0 noon)).2 (.rotate 0 noon)).2 := by
  have hpairs := replay_ends_session plainService twoRefreshes_sound twoRefreshes_fresh "session"
    presentedCredential.validatorHash
  exact (List.pairwise_cons.mp hpairs).1 _ List.mem_cons_self twoRefreshes_collide.1
    twoRefreshes_collide.2

end Runs

end LunchLineup.Auth
