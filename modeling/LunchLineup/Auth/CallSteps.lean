import LunchLineup.Auth.UserSteps

/-!
# What the steps do to calls under way

A refresh under way is found, rotated or sent to look for its marker, and is told what it saw.
A marker waits from the verification that earned it until it is written, and a step that does
neither leaves calls and markers alone (`authStep_calls`).
-/

namespace LunchLineup.Auth

open LunchLineup.Lib

/-- What a step does to refreshes, to markers and to those that wait to be written. -/
inductive CallStep (service : AuthService) (system : AuthSystem) :
    AuthEvent → AuthAnswer → AuthSystem → Prop
  | quiet {event : AuthEvent} {answer : AuthAnswer} {next : AuthSystem}
      (hrefreshes : next.refreshes = system.refreshes) (hmarkers : next.markers = system.markers)
      (hmarkings : next.markings = system.markings) : CallStep service system event answer next
  | located {refreshToken : String} {drawn : NewSession} {credential : RefreshCredential}
      {locator : RefreshSessionLocator} {answer : AuthAnswer}
      (hlocated : system.tables.locateRefreshSession credential = some locator) :
      CallStep service system (.beginRefresh refreshToken drawn) answer
        { system with refreshes := system.refreshes ++ [⟨credential, drawn, locator, .located⟩] }
  | rotated {index : Nat} {around : Surroundings} {refresh : Refreshing} {answer : AuthAnswer}
      {next : AuthSystem} (hrefresh : system.refreshes[index]? = some refresh)
      (hrefreshes : next.refreshes = system.refreshes.eraseIdx index ∨
        next.refreshes = system.refreshes.set index { refresh with phase := .needsMarker })
      (hmarkers : next.markers = system.markers) (hmarkings : next.markings = system.markings) :
      CallStep service system (.rotate index around) answer next
  | observed {index : Nat} {redisNow : Int} {refresh : Refreshing} {answer : AuthAnswer}
      (hrefresh : system.refreshes[index]? = some refresh) :
      CallStep service system (.observeMarker index redisNow) answer
        { system with
          refreshes := system.refreshes.set index
            { refresh with phase := .observed ⟨refresh.locator,
              (live redisNow (system.markers refresh.locator.sessionId)).isSome⟩ } }
  | verified {event : AuthEvent} {claims : TokenPayload} {marking : Marking} {next : AuthSystem}
      (hsession : claims.sessionId = marking.sessionId)
      (hrefreshes : next.refreshes = system.refreshes) (hmarkers : next.markers = system.markers)
      (hmarkings : next.markings = system.markings ++ [marking]) :
      CallStep service system event (.verified claims) next
  | exempt {index : Nat} {drawn : NewSession} {around : Surroundings} {signIn : SignIn}
      {answer : AuthAnswer} {next : AuthSystem} {marking : Marking}
      (hsignIn : system.signIns[index]? = some signIn) (hdemo : signIn.betaDemo = true)
      (hsession : marking.sessionId = drawn.id)
      (hrefreshes : next.refreshes = system.refreshes) (hmarkers : next.markers = system.markers)
      (hmarkings : next.markings = system.markings ++ [marking]) :
      CallStep service system (.issue index drawn around) answer next
  | written {index : Nat} {redisNow now : Int} {marking : Marking} {answer : AuthAnswer}
      (hmarking : system.markings[index]? = some marking) :
      CallStep service system (.writeMarker index redisNow now) answer
        { system.setMarker marking.sessionId (some (markerUntil marking.expiresAt redisNow now)) with
          markings := system.markings.eraseIdx index }
  | dropped {index : Nat} {now : Int} {answer : AuthAnswer} {next : AuthSystem}
      (hrefreshes : next.refreshes = system.refreshes) (hmarkers : next.markers = system.markers)
      (hmarkings : next.markings = system.markings.eraseIdx index) :
      CallStep service system (.failMarker index now) answer next
  | cleared {sessionId : String} {answer : AuthAnswer} :
      CallStep service system (.clearMarker sessionId) answer (system.setMarker sessionId none)

section Steps

variable {service : AuthService} {system : AuthSystem}

theorem callStep_settle {event : AuthEvent} {outcome : Except AuthError AuthTables} :
    CallStep service system event (system.settle outcome).1 (system.settle outcome).2 := by
  cases outcome with
  | error error => exact .quiet rfl rfl rfl
  | ok next => exact .quiet rfl rfl rfl

theorem callStep_settleAttempt {event : AuthEvent} {signIn : Except AuthError SignIn}
    {tables : AuthTables} :
    CallStep service system event (AuthService.settleAttempt system signIn tables).1
      (AuthService.settleAttempt system signIn tables).2 := by
  cases signIn with
  | error error => exact .quiet rfl rfl rfl
  | ok signIn => exact .quiet rfl rfl rfl

theorem callStep_settleVerification {event : AuthEvent} {claims : Option TokenPayload}
    {marking : Marking} {tables : AuthTables}
    (hsession : ∀ verified ∈ claims, verified.sessionId = marking.sessionId) :
    CallStep service system event (AuthService.settleVerification system claims marking tables).1
      (AuthService.settleVerification system claims marking tables).2 := by
  cases claims with
  | none => exact .quiet rfl rfl rfl
  | some claims => exact .verified (hsession claims rfl) rfl rfl rfl

theorem rotateStep_calls (index : Nat) (around : Surroundings) :
    CallStep service system (.rotate index around) (service.rotateStep system index around).1
      (service.rotateStep system index around).2 := by
  unfold AuthService.rotateStep
  cases hrefresh : system.refreshes[index]? with
  | none => exact .quiet rfl rfl rfl
  | some refresh =>
      dsimp only
      split
      · exact .quiet rfl rfl rfl
      · split
        · exact .rotated hrefresh (.inl rfl) rfl rfl
        · exact .rotated hrefresh (.inl rfl) rfl rfl
        · split
          · exact .rotated hrefresh (.inr rfl) rfl rfl
          · exact .rotated hrefresh (.inl rfl) rfl rfl
        · exact .rotated hrefresh (.inl rfl) rfl rfl

theorem issueStep_calls (index : Nat) (drawn : NewSession) (around : Surroundings) :
    CallStep service system (.issue index drawn around) (service.issueStep system index drawn around).1
      (service.issueStep system index drawn around).2 := by
  unfold AuthService.issueStep
  cases hsignIn : system.signIns[index]? with
  | none => exact .quiet rfl rfl rfl
  | some signIn =>
      dsimp only
      split
      · exact .quiet rfl rfl rfl
      · rename_i issued tables _
        by_cases hdemo : (issued.mfaRequired && signIn.betaDemo) = true
        · rw [if_pos hdemo]
          rw [Bool.and_eq_true] at hdemo
          exact .exempt hsignIn hdemo.2 rfl rfl rfl rfl
        · rw [if_neg hdemo]
          exact .quiet rfl rfl rfl

theorem authStep_calls (event : AuthEvent) :
    CallStep service system event (service.authStep system event).1
      (service.authStep system event).2 := by
  cases event with
  | passwordAttempt userId tenantId password betaDemo around => exact callStep_settleAttempt
  | pinAttempt userId tenantId pinProof pin around => exact callStep_settleAttempt
  | prove signIn =>
      unfold AuthService.authStep
      dsimp only
      split_ifs
      · exact .quiet rfl rfl rfl
      · exact .quiet rfl rfl rfl
  | issue index drawn around => exact issueStep_calls index drawn around
  | beginRefresh refreshToken drawn =>
      show CallStep service system _ (service.beginRefreshStep system refreshToken drawn).1
        (service.beginRefreshStep system refreshToken drawn).2
      unfold AuthService.beginRefreshStep
      split
      · exact .quiet rfl rfl rfl
      · split
        · exact .quiet rfl rfl rfl
        · rename_i locator hlocated
          exact .located hlocated
  | rotate index around => exact rotateStep_calls index around
  | observeMarker index redisNow =>
      show CallStep service system _ (AuthService.observeStep system index redisNow).1
        (AuthService.observeStep system index redisNow).2
      unfold AuthService.observeStep
      split
      · exact .quiet rfl rfl rfl
      · rename_i refresh hrefresh
        split_ifs
        · exact .observed hrefresh
        · exact .quiet rfl rfl rfl
  | validate claims before redisNow around =>
      unfold AuthService.authStep
      dsimp only
      split
      · exact .quiet rfl rfl rfl
      · exact .quiet rfl rfl rfl
  | logout refreshToken before around =>
      unfold AuthService.authStep
      dsimp only
      split
      · exact .quiet rfl rfl rfl
      · exact .quiet rfl rfl rfl
  | revokeSession sessionId around => exact .quiet rfl rfl rfl
  | revokeSessionsOf userId now => exact .quiet rfl rfl rfl
  | purgeDormantSessions asOf picked => exact .quiet rfl rfl rfl
  | purgePasswordResetTokens asOf picked => exact .quiet rfl rfl rfl
  | recordFailedAttempt userId tenantId around => exact .quiet rfl rfl rfl
  | createPasswordReset tenantId userId drawn around =>
      show CallStep service system _ (service.createResetStep system tenantId userId drawn around).1
        (service.createResetStep system tenantId userId drawn around).2
      unfold AuthService.createResetStep
      split
      · exact .quiet rfl rfl rfl
      · exact .quiet rfl rfl rfl
  | resetPassword token password passwordHash before around =>
      rw [authStep_resetPassword]
      exact callStep_settle
  | rotateOwnPin actor currentPin newPin newPinHash observed around => exact callStep_settle
  | beginMfaEnrollment actor encryptedSecret around => exact callStep_settle
  | confirmMfaEnrollment actor code encryptedSecret backupCodeHashes around =>
      show CallStep service system _ (service.confirmMfaStep system actor code encryptedSecret
        backupCodeHashes around).1 (service.confirmMfaStep system actor code encryptedSecret
          backupCodeHashes around).2
      unfold AuthService.confirmMfaStep
      split
      · exact .quiet rfl rfl rfl
      · refine callStep_settleVerification fun verified hverified => ?_
        obtain rfl := Option.some.inj hverified
        rfl
  | disableMfa actor code before around => exact callStep_settle
  | validateMfa actor code around =>
      show CallStep service system _ (service.validateMfaStep system actor code around).1
        (service.validateMfaStep system actor code around).2
      unfold AuthService.validateMfaStep
      split
      · exact .quiet rfl rfl rfl
      · refine callStep_settleVerification fun verified hverified => ?_
        obtain ⟨_, _, rfl⟩ := Option.map_eq_some_iff.mp hverified
        rfl
  | writeMarker index redisNow now =>
      show CallStep service system _ (AuthService.writeMarkerStep system index redisNow now).1
        (AuthService.writeMarkerStep system index redisNow now).2
      unfold AuthService.writeMarkerStep
      split
      · exact .quiet rfl rfl rfl
      · rename_i marking hmarking
        exact .written hmarking
  | failMarker index now =>
      show CallStep service system _ (AuthService.failMarkerStep system index now).1
        (AuthService.failMarkerStep system index now).2
      unfold AuthService.failMarkerStep
      split
      · exact .quiet rfl rfl rfl
      · dsimp only
        split_ifs
        · exact .dropped rfl rfl rfl
        · exact .dropped rfl rfl rfl
  | clearMarker sessionId => exact .cleared
  | administer userId tenantId change =>
      unfold AuthService.authStep
      dsimp only
      split
      · exact .quiet rfl rfl rfl
      · exact .quiet rfl rfl rfl
  | recoverPin userId tenantId pinHash now => exact .quiet rfl rfl rfl
  | recoverMfa userId tenantId now => exact .quiet rfl rfl rfl

/-- The session of a refresh was found with its locator. -/
theorem CallStep.locators {event : AuthEvent} {answer : AuthAnswer} {next : AuthSystem}
    (h : CallStep service system event answer next) {refresh : Refreshing}
    (hrefresh : refresh ∈ next.refreshes) :
    (∃ earlier ∈ system.refreshes, refresh.locator = earlier.locator) ∨
      ∃ credential, system.tables.locateRefreshSession credential = some refresh.locator := by
  cases h with
  | quiet hrefreshes => exact .inl ⟨refresh, hrefreshes ▸ hrefresh, rfl⟩
  | located hlocated =>
      obtain hold | hnew := List.mem_append.mp hrefresh
      · exact .inl ⟨refresh, hold, rfl⟩
      · obtain rfl := List.mem_singleton.mp hnew
        exact .inr ⟨_, hlocated⟩
  | rotated hfound hrefreshes =>
      obtain herased | hset := hrefreshes
      · exact .inl ⟨refresh, List.mem_of_mem_eraseIdx (herased ▸ hrefresh), rfl⟩
      · obtain hold | rfl := List.mem_or_eq_of_mem_set (hset ▸ hrefresh)
        · exact .inl ⟨refresh, hold, rfl⟩
        · exact .inl ⟨_, List.mem_of_getElem? hfound, rfl⟩
  | observed hfound =>
      obtain hold | rfl := List.mem_or_eq_of_mem_set hrefresh
      · exact .inl ⟨refresh, hold, rfl⟩
      · exact .inl ⟨_, List.mem_of_getElem? hfound, rfl⟩
  | verified _ hrefreshes => exact .inl ⟨refresh, hrefreshes ▸ hrefresh, rfl⟩
  | exempt _ _ _ hrefreshes => exact .inl ⟨refresh, hrefreshes ▸ hrefresh, rfl⟩
  | written => exact .inl ⟨refresh, hrefresh, rfl⟩
  | dropped hrefreshes => exact .inl ⟨refresh, hrefreshes ▸ hrefresh, rfl⟩
  | cleared => exact .inl ⟨refresh, hrefresh, rfl⟩

end Steps

end LunchLineup.Auth
