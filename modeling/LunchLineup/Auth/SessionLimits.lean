import LunchLineup.Auth.SessionRuns

/-!
# How long sessions live and how many there are

A session lives as long as the policy allowed when it was issued, and no longer than the policy
allows now; its refreshes change neither.  Before a session is issued the user's ended sessions
are deleted and of the others the oldest, so that he never has more than twenty.
-/

namespace LunchLineup.Auth

open LunchLineup.Lib

/-! ## Lifetimes -/

/-- How long a session may last under the policy that a step meets. -/
def Surroundings.sessionMs (around : Surroundings) : Int :=
  (tenantSecuritySettings (around.security 0)).sessionTimeoutMinutes * 60 * 1000

/-- The step issues a session. -/
def IssuedBy (t : Transition AuthSystem AuthEvent AuthAnswer) (drawn : NewSession)
    (around : Surroundings) : Prop :=
  ∃ index tokens, t.request = .issue index drawn around ∧ t.answer = .signedIn tokens

/-- The session has the times that it was issued with. -/
structure Dated (issued : NewSession) (around : Surroundings) (system : AuthSystem) : Prop where
  drawn : issued.id ∈ system.drawnIds
  dates : ∀ row ∈ system.tables.sessions, row.id = issued.id →
    row.createdAt = around.databaseClock 0 ∧ row.expiresAt = around.clock 0 + around.sessionMs

section Steps

variable {service : AuthService} {system : AuthSystem} {event : AuthEvent}

theorem dated_of_issued {drawn : NewSession} {around : Surroundings} (hsound : system.Sound)
    (hnew : New system event)
    (h : IssuedBy (transition service.authStep system event) drawn around) :
    Dated drawn around (service.authStep system event).2 := by
  obtain ⟨index, tokens, hevent, hanswer⟩ := h
  obtain rfl : event = .issue index drawn around := hevent
  obtain ⟨signIn, issued, _, hissued, hids⟩ := issueStep_signedIn hanswer
  refine ⟨?_, fun row hrow hid => ?_⟩
  · show drawn.id ∈ (service.issueStep system index drawn around).2.drawnIds
    rw [hids]
    exact List.mem_append_right _ (List.mem_singleton.mpr rfl)
  · obtain ⟨hcontinues, hsessions⟩ := hissued.sessions
    obtain ⟨earlier, hearlier, hdescends⟩ := hcontinues.descends.origin hrow
    rw [hsessions, List.mem_append, List.mem_singleton] at hearlier
    obtain hkept | rfl := hearlier
    · -- The ids of the sessions that stay were drawn before.
      obtain ⟨first, hfirst, hroom⟩ := (makeRoom_continues hsound.ids signIn.userId
        (around.clock 2)).descends.origin hkept
      have hdrawn := hsound.drawn first hfirst
      rw [← hroom.id, ← hdescends.id, hid] at hdrawn
      exact absurd hdrawn (hnew drawn.id rfl)
    · rw [hdescends.createdAt, hdescends.expiresAt, hissued.session]
      refine ⟨rfl, ?_⟩
      show issued.expiresAt = _
      rw [hissued.expiresAt, hissued.settings]
      rfl

theorem dated_step {drawn : NewSession} {around : Surroundings} (hsound : system.Sound)
    (hnew : New system event) (h : Dated drawn around system) :
    Dated drawn around (service.authStep system event).2 := by
  refine ⟨(authStep_draws hsound.ids).subset h.drawn, fun row hrow hid => ?_⟩
  obtain ⟨earlier, hearlier, hdescends⟩ := origin_of_drawn hsound hnew hrow (hid ▸ h.drawn)
  rw [hdescends.createdAt, hdescends.expiresAt]
  exact h.dates earlier hearlier (hdescends.id.symm.trans hid)

/-- An answer for a session finds it within its time. -/
theorem dated_answer {drawn : NewSession} {around : Surroundings} (hnew : New system event)
    (h : Dated drawn around system)
    (hanswer : (service.authStep system event).1.sessionId = some drawn.id) :
    ∃ met reading, event.around = some met ∧
      met.clock reading < around.databaseClock 0 + met.sessionMs ∧
      met.clock reading < around.clock 0 + around.sessionMs := by
  obtain ⟨other, ⟨_, _, _, _, rfl, _⟩, hid⟩ | ⟨row, hrow, hid, met, reading, hmet, hactive⟩ :=
    authorized_session hanswer
  · exact absurd (hid ▸ h.drawn) (hnew other.id rfl)
  · obtain ⟨hcreated, hexpires⟩ := h.dates row hrow hid
    have hbefore := lt_min_iff.mp hactive.2
    rw [hcreated, hexpires] at hbefore
    exact ⟨met, reading, hmet, hbefore⟩

/-! ## Numbers -/

/-- Of a list that is sorted, what is not beyond the first `limit` is `limit` at most. -/
theorem countP_not_mem_drop {α : Type*} [DecidableEq α] (rows : List α) (limit : Nat) :
    rows.countP (fun row => row ∉ rows.drop limit) ≤ limit := by
  have hbeyond : (rows.drop limit).countP (fun row => row ∉ rows.drop limit) = 0 := by
    rw [List.countP_eq_zero]
    intro row hrow
    simpa using hrow
  calc rows.countP (fun row => row ∉ rows.drop limit)
      = (rows.take limit ++ rows.drop limit).countP (fun row => row ∉ rows.drop limit) := by
        rw [List.take_append_drop]
    _ = (rows.take limit).countP (fun row => row ∉ rows.drop limit) := by
        rw [List.countP_append, hbeyond, Nat.add_zero]
    _ ≤ (rows.take limit).length := List.countP_le_length
    _ ≤ limit := List.length_take_le _ _

/-- After the first deletion the sessions of the user are those that stand. -/
theorem deleteEndedSessions_filter (tables : AuthTables) (userId : String) (now : Int) :
    (tables.deleteEndedSessions userId now).sessions.filter (·.userId = userId) =
      (tables.deleteEndedSessions userId now).sessions.filter fun session =>
        session.userId = userId ∧ session.revokedAt = none ∧ now < session.expiresAt := by
  refine List.filter_congr fun session hsession => ?_
  have hstays := (List.mem_filter.mp hsession).2
  simp only [Bool.not_eq_true', decide_eq_false_iff_not, not_and, not_or, not_le,
    Bool.not_eq_true, Option.isSome_eq_false_iff, Option.isNone_iff_eq_none] at hstays
  simpa using hstays

/-- The deletions before a new session leave the user nineteen sessions at most. -/
theorem makeRoom_count (tables : AuthTables) (userId : String) (now : Int) :
    (tables.makeRoom userId now).sessions.countP (·.userId = userId) ≤
      maxActiveSessionsPerUser - 1 := by
  -- The second deletion is by id, so what it leaves is not in excess.
  have hroom : ∀ session : SessionRow, session.id ∉
      ((tables.deleteEndedSessions userId now).excessSessions userId now).map (·.id) →
        session ∉ (tables.deleteEndedSessions userId now).excessSessions userId now :=
    fun session hout hmem => hout (List.mem_map_of_mem hmem)
  calc (tables.makeRoom userId now).sessions.countP (·.userId = userId)
      ≤ ((tables.deleteEndedSessions userId now).sessions.filter (·.userId = userId)).countP
          (· ∉ (tables.deleteEndedSessions userId now).excessSessions userId now) := by
        rw [AuthTables.makeRoom, AuthTables.deleteSessions, List.countP_filter, List.countP_filter]
        refine List.countP_mono_left fun session _ hsession => ?_
        simp only [Bool.and_eq_true, decide_eq_true_eq, Bool.not_eq_true',
          decide_eq_false_iff_not, not_and] at hsession ⊢
        exact ⟨hroom session (hsession.2 hsession.1), hsession.1⟩
    _ = (((tables.deleteEndedSessions userId now).sessions.filter fun session =>
          session.userId = userId ∧ session.revokedAt = none ∧
            now < session.expiresAt).mergeSort newestFirst).countP
          (· ∉ (tables.deleteEndedSessions userId now).excessSessions userId now) := by
        rw [deleteEndedSessions_filter]
        exact ((List.mergeSort_perm _ _).countP_eq _).symm
    _ ≤ maxActiveSessionsPerUser - 1 := countP_not_mem_drop _ _

theorem sessionCount_step {userId : String} (hsound : system.Sound)
    (h : system.tables.sessions.countP (·.userId = userId) ≤ maxActiveSessionsPerUser) :
    (service.authStep system event).2.tables.sessions.countP (·.userId = userId) ≤
      maxActiveSessionsPerUser := by
  obtain ⟨_, hdescends⟩ | ⟨drawn, index, around, signIn, issued, rfl, _, hissued, _, _⟩ :=
    authStep_descends service hsound.ids event
  · exact (hdescends.count_le userId).trans h
  · obtain ⟨hcontinues, hsessions⟩ := hissued.sessions
    have hroom := (makeRoom_continues hsound.ids signIn.userId (around.clock 2)).descends
    refine (hcontinues.descends.count_le userId).trans ?_
    rw [hsessions, List.countP_append, List.countP_singleton]
    -- Room was made for the one who signs in; others get no session.
    by_cases howner : issued.session.userId = userId
    · have hsigned : signIn.userId = userId := by
        rw [← howner, hissued.session]
        rfl
      have hcount := makeRoom_count system.tables userId (around.clock 2)
      rw [hsigned, if_pos (by simpa using howner)]
      exact Nat.add_le_of_le_sub (by decide) hcount
    · rw [if_neg (by simpa using howner), Nat.add_zero]
      exact (hroom.count_le userId).trans h

end Steps

/-! ## Runs -/

section Runs

/-- A sign-in whose session is yet to be issued. -/
def oneSignIn : AuthSystem :=
  { twoRefreshes with
    signIns := [⟨"user", "tenant", .oidc, false, false, none, none, none⟩] }

def secondSession : NewSession :=
  ⟨"second", "CCCCCCCCCCCCCCCCCCCCCCCCCCCCCCCCCCCCCCCCCCC",
    "DDDDDDDDDDDDDDDDDDDDDDDDDDDDDDDDDDDDDDDDDDD", "203.0.113.7", "browser"⟩

def secondClaims : TokenPayload := ⟨"user", "tenant", "STAFF", "STAFF", "second", true, false⟩

theorem oneSignIn_sound : oneSignIn.Sound :=
  ⟨twoRefreshes_sound.ids, twoRefreshes_sound.drawn, twoRefreshes_sound.userIds,
    twoRefreshes_sound.located⟩

variable (service : AuthService) {system : AuthSystem} {events : List AuthEvent}

/-- A user never has more than twenty sessions. -/
theorem sessions_limited (hsound : system.Sound) (hfresh : FreshIds system events)
    (userId : String)
    (h : system.tables.sessions.countP (·.userId = userId) ≤ maxActiveSessionsPerUser) :
    (final service.authStep system events).tables.sessions.countP (·.userId = userId) ≤
      maxActiveSessionsPerUser :=
  (invariant_final_of_trace
    (fun state : AuthSystem => state.Sound ∧
      state.tables.sessions.countP (·.userId = userId) ≤ maxActiveSessionsPerUser)
    (fun _ _ hstate hnew => ⟨sound_step hstate.1 hnew, sessionCount_step hstate.1 hstate.2⟩)
    ⟨hsound, h⟩ (hfresh.steps hsound)).2

theorem second_session_counted :
    (final plainService.authStep oneSignIn [.issue 0 secondSession noon]).tables.sessions.countP
      (·.userId = "user") ≤ maxActiveSessionsPerUser :=
  sessions_limited plainService oneSignIn_sound (by unfold FreshIds; decide) "user" (by decide)

end Runs

end LunchLineup.Auth
