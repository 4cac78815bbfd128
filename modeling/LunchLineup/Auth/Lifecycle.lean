import LunchLineup.Auth.AccountRuns
import LunchLineup.Auth.SessionLimits

/-!
# The life of a session

What sessions are for, without tables: an id is undrawn, then a session of one user stands under
it, then it has ended for good, and only a session that stands, or begins to, is answered for
(`PhaseStep`).  Every step of the system is such a step for every id (`sessions_refine_phases`).
-/

namespace LunchLineup.Auth

open LunchLineup.Lib

/-- Where a session is in its life. -/
inductive SessionPhase where
  | undrawn
  | standing (userId : String)
  | ended
  deriving DecidableEq

/-- A step in the life of a session, which is answered for or not. -/
inductive PhaseStep (answered : Prop) : SessionPhase → SessionPhase → Prop
  | undrawn (h : ¬ answered) : PhaseStep answered .undrawn .undrawn
  | used (h : ¬ answered) : PhaseStep answered .undrawn .ended
  | issued {userId : String} (h : answered) : PhaseStep answered .undrawn (.standing userId)
  | stands {userId : String} : PhaseStep answered (.standing userId) (.standing userId)
  | ends {userId : String} : PhaseStep answered (.standing userId) .ended
  | ended (h : ¬ answered) : PhaseStep answered .ended .ended

def AuthSystem.phase (system : AuthSystem) (sessionId : String) : SessionPhase :=
  match system.tables.sessions.find? (·.id = sessionId) with
  | some row => if row.revokedAt.isSome then .ended else .standing row.userId
  | none => if sessionId ∈ system.drawnIds then .ended else .undrawn

section Steps

variable {service : AuthService} {system : AuthSystem} {event : AuthEvent} {sessionId : String}

theorem phase_of_mem (hids : (system.tables.sessions.map (·.id)).Nodup) {row : SessionRow}
    (hrow : row ∈ system.tables.sessions) (hstands : row.revokedAt = none) :
    system.phase row.id = .standing row.userId := by
  have hfound : system.tables.sessions.find? (·.id = row.id) = some row := find?_key hids hrow
  simp [AuthSystem.phase, hfound, hstands]

theorem phase_eq_standing {userId : String} (h : system.phase sessionId = .standing userId) :
    ∃ row ∈ system.tables.sessions, row.id = sessionId ∧ row.revokedAt = none ∧
      row.userId = userId := by
  unfold AuthSystem.phase at h
  split at h
  · rename_i row hfound
    split_ifs at h with hrevoked
    have hid : row.id = sessionId := by simpa using List.find?_some hfound
    exact ⟨row, List.mem_of_find?_eq_some hfound, hid, by simpa using hrevoked,
      SessionPhase.standing.inj h⟩
  · split_ifs at h

theorem phase_eq_undrawn (hsound : system.Sound) (h : system.phase sessionId = .undrawn) :
    sessionId ∉ system.drawnIds ∧ ∀ row ∈ system.tables.sessions, row.id ≠ sessionId := by
  unfold AuthSystem.phase at h
  split at h
  · split_ifs at h
  · split_ifs at h with hdrawn
    exact ⟨hdrawn, fun row hrow hid => hdrawn (hid ▸ hsound.drawn row hrow)⟩

theorem phase_eq_ended (hsound : system.Sound) :
    system.phase sessionId = .ended ↔ Ended sessionId system := by
  constructor
  · intro h
    unfold AuthSystem.phase at h
    split at h
    · rename_i found hfound
      split_ifs at h with hrevoked
      have hmem := List.mem_of_find?_eq_some hfound
      have hid : found.id = sessionId := by simpa using List.find?_some hfound
      refine ⟨hid ▸ hsound.drawn found hmem, fun row hrow hsame => ?_⟩
      obtain rfl := eq_of_key hsound.ids hrow hmem (hsame.trans hid.symm)
      exact hrevoked
    · rename_i hnone
      split_ifs at h with hdrawn
      refine ⟨hdrawn, fun row hrow hsame => ?_⟩
      have hother := List.find?_eq_none.mp hnone row hrow
      simp [hsame] at hother
  · intro h
    cases hphase : system.phase sessionId with
    | undrawn => exact absurd h.drawn (phase_eq_undrawn hsound hphase).1
    | standing userId =>
        obtain ⟨row, hrow, hid, hstands, _⟩ := phase_eq_standing hphase
        have hrevoked := h.revoked row hrow hid
        rw [hstands] at hrevoked
        cases hrevoked
    | ended => rfl

/-- A session that begins to stand is the one that the step issues and answers for. -/
theorem answered_of_undrawn {userId : String} (hsound : system.Sound)
    (hundrawn : system.phase sessionId = .undrawn)
    (hstands : (service.authStep system event).2.phase sessionId = .standing userId) :
    (service.authStep system event).1.sessionId = some sessionId := by
  obtain ⟨row, hrow, hid, _, _⟩ := phase_eq_standing hstands
  obtain ⟨_, hnone⟩ := phase_eq_undrawn hsound hundrawn
  obtain ⟨_, hdescends⟩ | ⟨drawn, index, around, signIn, issued, rfl, _, hissued, _, hanswer⟩ :=
    authStep_descends service hsound.ids event
  · obtain ⟨earlier, hearlier, hearlierOf⟩ := hdescends.origin hrow
    exact absurd (hearlierOf.id.symm.trans hid) (hnone earlier hearlier)
  · obtain ⟨hcontinues, hsessions⟩ := hissued.sessions
    obtain ⟨earlier, hearlier, hearlierOf⟩ := hcontinues.descends.origin hrow
    rw [hsessions, List.mem_append, List.mem_singleton] at hearlier
    obtain hkept | rfl := hearlier
    · obtain ⟨first, hfirst, hroom⟩ := (makeRoom_continues hsound.ids signIn.userId
        (around.clock 2)).descends.origin hkept
      exact absurd (hroom.id.symm.trans (hearlierOf.id.symm.trans hid)) (hnone first hfirst)
    · rw [hanswer, ← hid, hearlierOf.id]
      rfl

/-- An id that is answered for and was undrawn is that of a session that now stands. -/
theorem standing_of_answered (hsound : system.Sound) (hnew : New system event)
    (hundrawn : system.phase sessionId = .undrawn)
    (hanswer : (service.authStep system event).1.sessionId = some sessionId) :
    ∃ userId, (service.authStep system event).2.phase sessionId = .standing userId := by
  obtain ⟨drawn, ⟨index, around, signIn, issued, rfl, _, hissued, _, _⟩, rfl⟩ |
      ⟨row, hrow, hid, _⟩ := authorized_session hanswer
  · have hsession : issued.session.id = drawn.id ∧ issued.session.revokedAt = none := by
      rw [hissued.session]
      exact ⟨rfl, rfl⟩
    refine ⟨issued.session.userId, ?_⟩
    rw [← hsession.1]
    exact phase_of_mem (sound_step hsound hnew).ids hissued.session_mem hsession.2
  · exact absurd hid ((phase_eq_undrawn hsound hundrawn).2 row hrow)

/-- Every step of the system is a step in the life of every session. -/
theorem phase_step (hsound : system.Sound) (hnew : New system event) (sessionId : String) :
    PhaseStep ((service.authStep system event).1.sessionId = some sessionId)
      (system.phase sessionId) ((service.authStep system event).2.phase sessionId) := by
  have hnext : (service.authStep system event).2.Sound := sound_step hsound hnew
  cases hphase : system.phase sessionId with
  | undrawn =>
      by_cases hanswer : (service.authStep system event).1.sessionId = some sessionId
      · obtain ⟨userId, hstands⟩ := standing_of_answered hsound hnew hphase hanswer
        rw [hstands]
        exact .issued hanswer
      · cases hafter : (service.authStep system event).2.phase sessionId with
        | undrawn => exact .undrawn hanswer
        | standing userId => exact absurd (answered_of_undrawn hsound hphase hafter) hanswer
        | ended => exact .used hanswer
  | standing userId =>
      obtain ⟨row, hrow, hid, hstands, huser⟩ := phase_eq_standing hphase
      have hdrawn : sessionId ∈ system.drawnIds := hid ▸ hsound.drawn row hrow
      cases hafter : (service.authStep system event).2.phase sessionId with
      | undrawn =>
          exact absurd ((authStep_draws hsound.ids).subset hdrawn)
            (phase_eq_undrawn hnext hafter).1
      | standing other =>
          -- The row under the id is still the one that was there.
          obtain ⟨later, hlater, hlaterId, _, hother⟩ := phase_eq_standing hafter
          obtain ⟨earlier, hearlier, hdescends⟩ :=
            origin_of_drawn hsound hnew hlater (hlaterId ▸ hdrawn)
          obtain rfl := eq_of_key hsound.ids hearlier hrow
            (hdescends.id.symm.trans (hlaterId.trans hid.symm))
          rw [← hother, ← huser, hdescends.userId]
          exact .stands
      | ended => exact .ends
  | ended =>
      have hended := (phase_eq_ended hsound).mp hphase
      rw [(phase_eq_ended hnext).mpr (ended_step hsound hnew hended)]
      exact .ended (ended_answer hnew hended)

end Steps

/-! ## Runs -/

section Runs

variable (service : AuthService) {system : AuthSystem} {events : List AuthEvent}

/-- Every run of the system is a run of the life of each session. -/
theorem sessions_refine_phases (hsound : system.Sound) (hfresh : FreshIds system events)
    (sessionId : String) :
    ∀ t ∈ trace service.authStep system events,
      PhaseStep (t.answer.sessionId = some sessionId) (t.before.phase sessionId)
        (t.after.phase sessionId) := by
  intro t ht
  have hbefore : t.before.Sound := invariant_before_of_trace AuthSystem.Sound
    (fun _ _ hstate hnew => sound_step hstate hnew) hsound (hfresh.steps hsound) ht
  have hnew := hfresh.steps hsound t ht
  rw [eq_transition_of_mem_trace ht]
  exact phase_step hbefore hnew sessionId

theorem second_session_refines_phases :
    PhaseStep
      ((plainService.authStep oneSignIn (.issue 0 secondSession noon)).1.sessionId = some "second")
      (oneSignIn.phase "second")
      ((plainService.authStep oneSignIn (.issue 0 secondSession noon)).2.phase "second") :=
  have hfresh : FreshIds oneSignIn [.issue 0 secondSession noon] := by
    unfold FreshIds
    decide
  sessions_refine_phases plainService oneSignIn_sound hfresh "second" _ List.mem_cons_self

end Runs

end LunchLineup.Auth
