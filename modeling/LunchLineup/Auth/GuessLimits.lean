import LunchLineup.Auth.SessionRuns
import LunchLineup.Lib.Spacing

/-!
# Guesses at passwords and PINs

Wrong passwords are counted on the user's row until the count is cleared, and from the fifth on
each locks the password for a quarter of an hour; PINs have a count and a lock of their own.  So
between two clearings a secret is compared with at most four guesses more than there are
quarters of an hour (`guesses_limited`), however the calls of all processes interleave.
-/

namespace LunchLineup.Auth

open LunchLineup.Lib

/-- What a guess is at. -/
inductive Secret where
  | password
  | pin
  deriving DecidableEq

def UserRow.attempts (user : UserRow) : Secret → Nat
  | .password => user.loginAttempts
  | .pin => user.pinLoginAttempts

def UserRow.lock (user : UserRow) : Secret → Option Int
  | .password => user.lockedUntil
  | .pin => user.pinLockedUntil

/-- The second reading of the clock is not before the first. -/
def AuthEvent.ClockForward : AuthEvent → Prop
  | .passwordAttempt _ _ _ _ around => around.clock 0 ≤ around.clock 1
  | .pinAttempt _ _ _ _ around => around.clock 0 ≤ around.clock 1
  | .recordFailedAttempt _ _ around => around.clock 0 ≤ around.clock 1
  | _ => True

/-- An administrator sets the locks of the user. -/
def AuthEvent.locks (userId : String) : AuthEvent → Bool
  | .administer locked _ (.lock _) => locked = userId
  | _ => false

/-- What a write does to the count and the lock of a secret. -/
inductive AttemptMove (secret : Secret) (event : AuthEvent) (old new : UserRow) : Prop
  | kept (hattempts : new.attempts secret = old.attempts secret)
      (hlock : new.lock secret = old.lock secret)
  | cleared (hattempts : new.attempts secret = 0)
  | failed {first second : Int} (hunlocked : lockedAt (old.lock secret) first = false)
      (hclock : event.ClockForward → first ≤ second)
      (hattempts : new.attempts secret = old.attempts secret + 1)
      (hlock : new.lock secret = lockAfter (old.attempts secret + 1) second)
  | locked (hlocks : event.locks old.id = true)

/-- Of an administrator's change only a lock sets locks. -/
theorem administer_attempts (secret : Secret) {userId tenantId : String} {change : AccountChange}
    {user : UserRow} (hid : user.id = userId) :
    AttemptMove secret (.administer userId tenantId change) user
      (user.administer change).scrubDeleted := by
  have hscrubbed : ∀ changed : UserRow, changed.scrubDeleted = changed ∨
      changed.scrubDeleted.attempts secret = 0 := by
    intro changed
    unfold UserRow.scrubDeleted
    split_ifs
    · exact .inl rfl
    · cases secret with
      | password => exact .inr rfl
      | pin => exact .inr rfl
  obtain hsame | hzero := hscrubbed (user.administer change)
  · rw [hsame]
    cases change with
    | profile role email username =>
        cases secret with
        | password => exact .kept rfl rfl
        | pin => exact .kept rfl rfl
    | lifecycle deletedAt suspendedAt =>
        cases secret with
        | password => exact .kept rfl rfl
        | pin => exact .kept rfl rfl
    | lock lockedUntil => exact .locked (by simpa [AuthEvent.locks] using hid.symm)
    | unlock =>
        cases secret with
        | password => exact .cleared rfl
        | pin => exact .cleared rfl
  · exact .cleared hzero

theorem UserWrite.attempts {service : AuthService} {tables : AuthTables} {event : AuthEvent}
    {old new : UserRow} (secret : Secret) (h : UserWrite service tables event old new) :
    AttemptMove secret event old new := by
  cases h with
  | wrongPassword _ hunlocked =>
      cases secret with
      | password => exact .failed hunlocked id rfl rfl
      | pin => exact .kept rfl rfl
  | rightPassword =>
      cases secret with
      | password => exact .cleared rfl
      | pin => exact .kept rfl rfl
  | recorded _ hunlocked =>
      cases secret with
      | password => exact .failed hunlocked id rfl rfl
      | pin => exact .kept rfl rfl
  | wrongPin _ hunlocked =>
      cases secret with
      | password => exact .kept rfl rfl
      | pin => exact .failed hunlocked id rfl rfl
  | rightPin =>
      cases secret with
      | password => exact .kept rfl rfl
      | pin => exact .cleared rfl
  | @signedIn _ _ _ signIn _ _ =>
      unfold UserRow.signedIn
      cases secret with
      | password =>
          split_ifs
          · exact .cleared rfl
          · exact .kept rfl rfl
      | pin =>
          split_ifs
          · exact .kept rfl rfl
          · exact .kept rfl rfl
  | passwordReset =>
      cases secret with
      | password => exact .cleared rfl
      | pin => exact .kept rfl rfl
  | pinRotated =>
      cases secret with
      | password => exact .kept rfl rfl
      | pin => exact .cleared rfl
  | enrolled =>
      cases secret with
      | password => exact .kept rfl rfl
      | pin => exact .kept rfl rfl
  | disabled =>
      cases secret with
      | password => exact .kept rfl rfl
      | pin => exact .kept rfl rfl
  | backupCodeUsed =>
      cases secret with
      | password => exact .kept rfl rfl
      | pin => exact .kept rfl rfl
  | administered huser => exact administer_attempts secret (AuthTables.user?_eq_some _ huser).2.1
  | pinRecovered =>
      cases secret with
      | password => exact .kept rfl rfl
      | pin => exact .cleared rfl
  | mfaRecovered =>
      cases secret with
      | password => exact .kept rfl rfl
      | pin => exact .kept rfl rfl

/-! ## Guesses on record -/

/-- When a guess at the user's secret is judged wrong, by the second reading of the clock. -/
def AuthService.wrongGuess? (service : AuthService) (tables : AuthTables) (secret : Secret)
    (userId : String) : AuthEvent → Option Int
  | .passwordAttempt id tenantId password _ around =>
    if secret = .password ∧ id = userId then
      (tables.liveUser? id tenantId).bind fun user =>
        user.passwordHash.bind fun passwordHash =>
          if lockedAt user.lockedUntil (around.clock 0) = false ∧
              service.verifyPassword password passwordHash = false then
            some (around.clock 1)
          else none
    else none
  | .pinAttempt id tenantId pinProof pin around =>
    if secret = .pin ∧ id = userId then
      (tables.liveUser? id tenantId).bind fun user =>
        if user.pinHash = some pinProof.pinHash ∧ user.username = some pinProof.username ∧
            lockedAt user.pinLockedUntil (around.clock 0) = false ∧
            service.verifyPin pin pinProof.pinHash = false then
          some (around.clock 1)
        else none
    else none
  | _ => none

/-- The count is cleared, or an administrator sets the lock. -/
def Clears (secret : Secret) (userId : String)
    (t : Transition AuthSystem AuthEvent AuthAnswer) : Prop :=
  t.request.locks userId = true ∨
    ∀ user ∈ t.after.tables.users, user.id = userId → user.attempts secret = 0

instance (secret : Secret) (userId : String) (t : Transition AuthSystem AuthEvent AuthAnswer) :
    Decidable (Clears secret userId t) := inferInstanceAs (Decidable (_ ∨ _))

/-- The wrong guesses since the count was last cleared. -/
def AuthService.recordGuess (service : AuthService) (secret : Secret) (userId : String)
    (guesses : List Int) (t : Transition AuthSystem AuthEvent AuthAnswer) : List Int :=
  match service.wrongGuess? t.before.tables secret userId t.request with
  | some time => guesses ++ [time]
  | none => if Clears secret userId t then [] else guesses

/-- The guesses on record after a run. -/
def AuthService.guesses (service : AuthService) (secret : Secret) (userId : String)
    (system : AuthSystem) (events : List AuthEvent) : List Int :=
  (trace service.authStep system events).foldl (service.recordGuess secret userId) []

/-- The row of the user counts the guesses on record, and is locked after the last of five. -/
structure Guessed (secret : Secret) (userId : String) (tables : AuthTables)
    (guesses : List Int) : Prop where
  counted : ∀ user ∈ tables.users, user.id = userId → guesses.length ≤ user.attempts secret
  locked : ∀ user ∈ tables.users, user.id = userId → maxFailedAttempts ≤ guesses.length →
    ∀ last ∈ guesses.getLast?, ∃ held, user.lock secret = some held ∧ last + lockoutMs ≤ held
  spaced : Spaced 1 lockoutMs (guesses.drop (maxFailedAttempts - 1))

theorem guessed_nil (secret : Secret) (userId : String) (tables : AuthTables) :
    Guessed secret userId tables [] where
  counted _ _ _ := Nat.zero_le _
  locked _ _ _ _ last hlast := by cases hlast
  spaced := spaced_nil

section Steps

variable {service : AuthService} {system : AuthSystem} {event : AuthEvent} {secret : Secret}
  {userId : String}

/-- A lock that has passed ended before. -/
theorem le_of_unlocked {lock : Option Int} {held now : Int} (hlock : lock = some held)
    (hunlocked : lockedAt lock now = false) : held ≤ now := by
  rw [hlock] at hunlocked
  simpa [lockedAt] using hunlocked

/-- A guess that is judged wrong found the secret unlocked, and is counted. -/
theorem wrongGuess?_eq_some {time : Int}
    (h : service.wrongGuess? system.tables secret userId event = some time) :
    ∃ old ∈ system.tables.users, old.id = userId ∧
      ∃ first, lockedAt (old.lock secret) first = false ∧ (event.ClockForward → first ≤ time) ∧
        ∃ new : UserRow, new.id = old.id ∧ new.attempts secret = old.attempts secret + 1 ∧
          new.lock secret = lockAfter (old.attempts secret + 1) time ∧
          (service.authStep system event).2.tables.users =
            replaceRow (·.id) system.tables.users new := by
  cases event with
  | passwordAttempt id tenantId password betaDemo around =>
      simp only [AuthService.wrongGuess?] at h
      split_ifs at h with hown
      obtain ⟨rfl, rfl⟩ := hown
      obtain ⟨user, huser, h⟩ := Option.bind_eq_some_iff.mp h
      obtain ⟨passwordHash, hhash, h⟩ := Option.bind_eq_some_iff.mp h
      split_ifs at h with hwrong
      obtain rfl := Option.some.inj h
      have hlive := AuthTables.liveUser?_eq_some _ huser
      refine ⟨user, hlive.1, hlive.2.1, around.clock 0, hwrong.1, fun hclock => hclock,
        user.failPassword (around.clock 1), rfl, rfl, rfl, ?_⟩
      have htables : (service.passwordAttempt system.tables around id tenantId password).2 =
          system.tables.updateUser user (user.failPassword (around.clock 1)) := by
        simp [AuthService.passwordAttempt, huser, hhash, hwrong]
      exact (congrArg AuthTables.users (settleAttempt_tables.trans htables)).trans
        (AuthTables.updateUser_users _ _ _)
  | pinAttempt id tenantId pinProof pin around =>
      simp only [AuthService.wrongGuess?] at h
      split_ifs at h with hown
      obtain ⟨rfl, rfl⟩ := hown
      obtain ⟨user, huser, h⟩ := Option.bind_eq_some_iff.mp h
      split_ifs at h with hwrong
      obtain rfl := Option.some.inj h
      have hlive := AuthTables.liveUser?_eq_some _ huser
      refine ⟨user, hlive.1, hlive.2.1, around.clock 0, hwrong.2.2.1, fun hclock => hclock,
        user.failPin (around.clock 1), rfl, rfl, rfl, ?_⟩
      have htables : (service.pinAttempt system.tables around id tenantId pinProof pin).2 =
          system.tables.updateUser user (user.failPin (around.clock 1)) := by
        simp [AuthService.pinAttempt, huser, hwrong]
      exact (congrArg AuthTables.users (settleAttempt_tables.trans htables)).trans
        (AuthTables.updateUser_users _ _ _)
  | _ => cases h

/-- A wrong guess goes on record. -/
theorem Guessed.concat {tables next : AuthTables} {guesses : List Int} {old new : UserRow}
    {first time : Int} (h : Guessed secret userId tables guesses) (hold : old ∈ tables.users)
    (hid : old.id = userId) (hunlocked : lockedAt (old.lock secret) first = false)
    (hclock : first ≤ time) (hsame : new.id = old.id)
    (hattempts : new.attempts secret = old.attempts secret + 1)
    (hlock : new.lock secret = lockAfter (old.attempts secret + 1) time)
    (hnext : next.users = replaceRow (·.id) tables.users new) :
    Guessed secret userId next (guesses ++ [time]) := by
  have hcounted := h.counted old hold hid
  -- The user has one row, the one that the guess has written.
  have hnew : ∀ user ∈ next.users, user.id = userId → user = new := fun user huser howner =>
    eq_of_mem_replaceRow (hnext ▸ huser) (howner.trans (hid.symm.trans hsame.symm))
  refine ⟨fun user huser howner => ?_, fun user huser howner hfive last hlast => ?_, ?_⟩
  · rw [hnew user huser howner, hattempts, List.length_append, List.length_singleton]
    exact Nat.succ_le_succ hcounted
  · rw [List.getLast?_concat] at hlast
    obtain rfl := Option.some.inj hlast
    rw [List.length_append, List.length_singleton] at hfive
    refine ⟨time + lockoutMs, ?_, le_rfl⟩
    rw [hnew user huser howner, hlock, lockAfter, if_pos (by omega)]
  · obtain hfew | hmany := Nat.lt_or_ge guesses.length (maxFailedAttempts - 1)
    · rw [List.drop_eq_nil_of_le (by simp; omega)]
      exact spaced_nil
    · rw [List.drop_append_of_le_length hmany]
      refine h.spaced.concat Nat.one_pos fun earlier hsome hearlier => ?_
      -- The last guess on record locked the secret, and the lock has passed.
      rw [List.getElem?_drop, List.length_drop] at hearlier
      rw [List.length_drop] at hsome
      have hlast : guesses.getLast? = some earlier := by
        rw [List.getLast?_eq_getElem?, ← hearlier]
        congr 1
        omega
      obtain ⟨held, hheld, hle⟩ := h.locked old hold hid (by unfold maxFailedAttempts at *; omega)
        earlier hlast
      have := le_of_unlocked hheld hunlocked
      omega

/-- The record of a step that judges no guess. -/
theorem Guessed.quiet {guesses : List Int} (h : Guessed secret userId system.tables guesses)
    (hclock : event.ClockForward)
    (hstays : ¬ Clears secret userId (transition service.authStep system event)) :
    Guessed secret userId (service.authStep system event).2.tables guesses := by
  -- Every row is as it was, or is the one that is written and its count is not cleared.
  have hmoves : ∀ user ∈ (service.authStep system event).2.tables.users, user.id = userId →
      ∃ old ∈ system.tables.users, old.id = userId ∧
        (user = old ∨ AttemptMove secret event old user ∧ user.attempts secret ≠ 0) := by
    intro user huser hid
    obtain hsame | ⟨old, new, hwrite, hnext⟩ := authStep_users event
    · exact ⟨user, hsame ▸ huser, hid, .inl rfl⟩
    · rw [hnext] at huser
      obtain rfl | ⟨hold, _⟩ := mem_replaceRow huser
      · have hsame := hwrite.same
        refine ⟨old, hsame.1, hsame.2.1.symm.trans hid, .inr ⟨hwrite.attempts secret, ?_⟩⟩
        intro hzero
        refine hstays (.inr fun other hother hother_id => ?_)
        have heq : other = user := eq_of_mem_replaceRow (hnext ▸ hother) (hother_id.trans hid.symm)
        rw [heq, hzero]
      · exact ⟨user, hold, hid, .inl rfl⟩
  refine ⟨fun user huser hid => ?_, fun user huser hid hfive last hlast => ?_, h.spaced⟩
  · obtain ⟨old, hold, hown, rfl | ⟨hmove, hnonzero⟩⟩ := hmoves user huser hid
    · exact h.counted user hold hown
    · cases hmove with
      | kept hattempts => exact hattempts ▸ h.counted old hold hown
      | cleared hattempts => exact absurd hattempts hnonzero
      | failed _ _ hattempts =>
          rw [hattempts]
          exact Nat.le_succ_of_le (h.counted old hold hown)
      | locked hlocks => exact absurd (.inl (hown ▸ hlocks)) hstays
  · obtain ⟨old, hold, hown, rfl | ⟨hmove, hnonzero⟩⟩ := hmoves user huser hid
    · exact h.locked user hold hown hfive last hlast
    · obtain ⟨held, hheld, hle⟩ := h.locked old hold hown hfive last hlast
      have hcounted := h.counted old hold hown
      cases hmove with
      | kept _ hlock => exact ⟨held, hlock.trans hheld, hle⟩
      | cleared hattempts => exact absurd hattempts hnonzero
      | @failed first second hunlocked hforward _ hlock =>
          -- A failure that judged no guess (`recordFailedAttempt`) locks the secret anew.
          have hpassed := le_of_unlocked hheld hunlocked
          have hreadings := hforward hclock
          have hpositive : 0 ≤ lockoutMs := by decide
          refine ⟨second + lockoutMs, ?_, by omega⟩
          rw [hlock, lockAfter, if_pos (by omega)]
      | locked hlocks => exact absurd (.inl (hown ▸ hlocks)) hstays

theorem guessed_step {guesses : List Int} (h : Guessed secret userId system.tables guesses)
    (hclock : event.ClockForward) :
    Guessed secret userId (service.authStep system event).2.tables
      (service.recordGuess secret userId guesses (transition service.authStep system event)) := by
  have hrecord : service.recordGuess secret userId guesses
      (transition service.authStep system event) =
        match service.wrongGuess? system.tables secret userId event with
        | some time => guesses ++ [time]
        | none =>
          if Clears secret userId (transition service.authStep system event) then [] else guesses :=
    rfl
  rw [hrecord]
  cases hguess : service.wrongGuess? system.tables secret userId event with
  | some time =>
      obtain ⟨old, hold, hid, first, hunlocked, hforward, new, hsame, hattempts, hlock, hnext⟩ :=
        wrongGuess?_eq_some hguess
      exact h.concat hold hid hunlocked (hforward hclock) hsame hattempts hlock hnext
  | none =>
      by_cases hclears : Clears secret userId (transition service.authStep system event)
      · simp only [if_pos hclears]
        exact guessed_nil _ _ _
      · simp only [if_neg hclears]
        exact h.quiet hclock hclears

end Steps

section Runs

variable (service : AuthService) {system : AuthSystem} {events : List AuthEvent}

theorem guessed_final (secret : Secret) (userId : String) {guesses : List Int}
    (h : Guessed secret userId system.tables guesses)
    (hclock : ∀ event ∈ events, event.ClockForward) :
    Guessed secret userId (final service.authStep system events).tables
      ((trace service.authStep system events).foldl (service.recordGuess secret userId)
        guesses) := by
  induction events generalizing system guesses with
  | nil => exact h
  | cons event rest ih =>
      exact ih (guessed_step h (hclock event List.mem_cons_self))
        fun later hlater => hclock later (List.mem_cons_of_mem _ hlater)

/-- A user with a password. -/
def guessedUser : AuthSystem :=
  { twoRefreshes with
    tables := ⟨[{ staffUser with passwordHash := some "stored" }], [], [], [], [], []⟩
    refreshes := [] }

def wrongPasswordAt (time : Int) : AuthEvent :=
  .passwordAttempt "user" "tenant" "guess" false { noon with clock := fun _ => time }

def sevenGuesses : List AuthEvent :=
  [0, 1000, 2000, 3000, 4000, 5000, 904000].map wrongPasswordAt

example : plainService.guesses .password "user" guessedUser sevenGuesses =
    [0, 1000, 2000, 3000, 4000, 904000] := by decide

end Runs

end LunchLineup.Auth
