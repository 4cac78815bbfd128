import LunchLineup.Billing.Wallet
import LunchLineup.Lib.Run
import LunchLineup.Lib.Spacing

/-!
# Codes by email

A sign-in by email is proved with a code of six digits, which Redis keeps for ten minutes as a
keyed hash.  Two scripts, which Redis runs atomically at times of its own, issue a code and
compare one with it.  A wrong code is counted for ten minutes after the last one; the fifth
deletes the code and locks the scope (a workspace, or an organization to be, with an address).

So a scope that is guessed at is compared with five wrong codes in any ten minutes, and no
code with more (`code_guessed_five_times`); and what is accepted is the code issued last, once
and within ten minutes (`last_code_accepted_once`).
-/

namespace LunchLineup.Auth

open LunchLineup.Lib
open LunchLineup.Billing (jsTrim isJsSpace)

/-! ## The keys -/

/-- A Redis key with the millisecond from which it is gone. -/
structure Expiring (Value : Type) where
  value : Value
  expireAt : Int
  deriving DecidableEq

/-- What `GET` finds. -/
def live {Value : Type} (now : Int) (key : Option (Expiring Value)) : Option Value :=
  key.bind fun entry => if now < entry.expireAt then some entry.value else none

/-- `EX`, and `EXPIRE`. -/
def expiring {Value : Type} (value : Value) (now seconds : Int) : Option (Expiring Value) :=
  some ⟨value, now + seconds * 1000⟩

/-- `KEY_OTP`, `KEY_RATE`, `KEY_ATTEMPTS` and `KEY_LOCK` of a scope. -/
structure ScopeKeys where
  otp : Option (Expiring String)
  rate : Option (Expiring Unit)
  attempts : Option (Expiring Nat)
  lock : Option (Expiring Unit)

/-- No key. -/
def ScopeKeys.empty : ScopeKeys := ⟨none, none, none, none⟩

def otpTtlSeconds : Int := 600
def otpRateLimitSeconds : Int := 60
def otpMaxFailedAttempts : Nat := 5
def otpLockSeconds : Int := 600

/-! ## The scripts -/

/-- `GENERATE_OTP_SCRIPT`: what it returns, and the keys after it. -/
def generateOtpScript (keys : ScopeKeys) (now : Int) (hash : String) : Int × ScopeKeys :=
  if (live now keys.lock).isSome then (0, keys)
  else if otpMaxFailedAttempts ≤ (live now keys.attempts).getD 0 then (0, keys)
  else if (live now keys.rate).isSome then (0, keys)
  else
    (1, { keys with
      otp := expiring hash now otpTtlSeconds
      rate := expiring () now otpRateLimitSeconds })

/-- `INCR` and `EXPIRE`. -/
def ScopeKeys.countAttempt (keys : ScopeKeys) (now : Int) : ScopeKeys :=
  { keys with
    attempts := expiring ((live now keys.attempts).getD 0 + 1) now otpLockSeconds }

/-- The keys after a wrong code, which the last attempt deletes and locks. -/
def ScopeKeys.afterWrongCode (keys : ScopeKeys) (now : Int) : ScopeKeys :=
  if otpMaxFailedAttempts ≤ (live now keys.attempts).getD 0 + 1 then
    { keys.countAttempt now with
      otp := none
      lock := expiring () now otpLockSeconds }
  else keys.countAttempt now

/-- `VERIFY_OTP_SCRIPT`. -/
def verifyOtpScript (keys : ScopeKeys) (now : Int) (hash : String) : Int × ScopeKeys :=
  if (live now keys.lock).isSome then (-2, keys)
  else
    match live now keys.otp with
    | none => (-1, keys)
    | some stored =>
      if stored = hash then (1, { keys with otp := none, attempts := none, lock := none })
      else if otpMaxFailedAttempts ≤ (live now keys.attempts).getD 0 + 1 then
        (-2, keys.afterWrongCode now)
      else (0, keys.afterWrongCode now)

/-! ## The service -/

structure OtpScopeOptions where
  tenantSlug : Option String
  onboarding : Bool
  tenantName : Option String

/-- What the service takes from Node: its digests (the first with the secret), and
`toLowerCase`. -/
structure OtpService where
  hmacSha256 : String → String
  sha256 : String → String
  toLowerCase : String → String

/-- What `Redis` holds, at a time of its own. -/
structure OtpRedis where
  now : Int
  scopes : String → ScopeKeys

def OtpRedis.set (redis : OtpRedis) (scope : String) (keys : ScopeKeys) : OtpRedis :=
  { redis with scopes := fun other => if other = scope then keys else redis.scopes other }

/-- `replace(/\s+/g, ' ')`. -/
def collapseSpaces : List Char → List Char
  | [] => []
  | c :: rest =>
    if isJsSpace c then
      if rest.head?.any isJsSpace then collapseSpaces rest else ' ' :: collapseSpaces rest
    else c :: collapseSpaces rest

inductive OtpCall where
  | generate (email : String) (options : OtpScopeOptions) (code : String)
  | verify (email : String) (code : String) (options : OtpScopeOptions)

/-- A call, and the milliseconds since the one before it. -/
structure OtpRequest where
  call : OtpCall
  elapsed : Nat

inductive OtpAnswer where
  | generated (code : String)
  | verified
  | badRequest (message : String)
  | unauthorized (message : String)
  deriving DecidableEq

namespace OtpService

variable (service : OtpService)

def onboardingTenantHash (value : Option String) : Except String String :=
  let tenantName := String.ofList
    (collapseSpaces (service.toLowerCase (jsTrim (value.getD ""))).toList)
  if tenantName = "" then .error "Organization name is required"
  else .ok (String.ofList ((service.sha256 tenantName).toList.take 16))

def scopeFor (email : String) (options : OtpScopeOptions) : Except String String := do
  let normalizedEmail := service.toLowerCase (jsTrim email)
  let tenantSlug := service.toLowerCase (jsTrim (options.tenantSlug.getD ""))
  if tenantSlug ≠ "" then
    return "tenant:" ++ tenantSlug ++ ":" ++ normalizedEmail
  if options.onboarding then
    let tenantHash ← service.onboardingTenantHash options.tenantName
    return "onboarding:" ++ tenantHash ++ ":" ++ normalizedEmail
  throw "Workspace is required"

def hashOtp (scope code : String) : String := service.hmacSha256 (scope ++ "\x00" ++ code)

def generateOtp (redis : OtpRedis) (email : String) (options : OtpScopeOptions) (code : String) :
    OtpAnswer × OtpRedis :=
  match service.scopeFor email options with
  | .error message => (.badRequest message, redis)
  | .ok scope =>
    let result := generateOtpScript (redis.scopes scope) redis.now (service.hashOtp scope code)
    if result.1 ≠ 1 then
      (.badRequest "Please wait before requesting another code", redis.set scope result.2)
    else (.generated code, redis.set scope result.2)

def verifyOtp (redis : OtpRedis) (email code : String) (options : OtpScopeOptions) :
    OtpAnswer × OtpRedis :=
  match service.scopeFor email options with
  | .error message => (.badRequest message, redis)
  | .ok scope =>
    let result := verifyOtpScript (redis.scopes scope) redis.now
      (service.hashOtp scope (jsTrim code))
    if result.1 ≠ 1 then (.unauthorized "Invalid or expired code", redis.set scope result.2)
    else (.verified, redis.set scope result.2)

/-- A call, after the time since the last one has passed. -/
def otpStep (redis : OtpRedis) (request : OtpRequest) : OtpAnswer × OtpRedis :=
  let later := { redis with now := redis.now + request.elapsed }
  match request.call with
  | .generate email options code => service.generateOtp later email options code
  | .verify email code options => service.verifyOtp later email code options

end OtpService

/-! ## What the scripts do -/

/-- The code that the script compares with. -/
def ScopeKeys.comparedWith (keys : ScopeKeys) (now : Int) : Option String :=
  if (live now keys.lock).isSome then none else live now keys.otp

section Scripts

variable {keys : ScopeKeys} {now : Int} {hash : String}

theorem live_eq_some {Value : Type} {key : Option (Expiring Value)} {value : Value} :
    live now key = some value ↔ ∃ entry, key = some entry ∧ now < entry.expireAt ∧
      entry.value = value := by
  cases key with
  | none => simp [live]
  | some entry => simp [live]

theorem live_eq_none {Value : Type} {key : Option (Expiring Value)} {entry : Expiring Value}
    (h : live now key = none) (hentry : key = some entry) : entry.expireAt ≤ now := by
  subst hentry
  by_contra hlt
  have hlive : live now (some entry) = some entry.value :=
    live_eq_some.mpr ⟨entry, rfl, not_le.mp hlt, rfl⟩
  rw [h] at hlive
  cases hlive

/-- A code is issued where neither a lock nor the last code is fresh. -/
theorem generateOtpScript_cases (keys : ScopeKeys) (now : Int) (hash : String) :
    generateOtpScript keys now hash = (0, keys) ∨
      live now keys.rate = none ∧
        generateOtpScript keys now hash = (1, { keys with
          otp := expiring hash now otpTtlSeconds
          rate := expiring () now otpRateLimitSeconds }) := by
  unfold generateOtpScript
  split_ifs with hlock hattempts hrate
  · exact .inl rfl
  · exact .inl rfl
  · exact .inl rfl
  · exact .inr ⟨by simpa using hrate, rfl⟩

/-- Nothing is compared, the code is accepted, or it is counted as wrong. -/
theorem verifyOtpScript_cases (keys : ScopeKeys) (now : Int) (hash : String) :
    (keys.comparedWith now = none ∧ (verifyOtpScript keys now hash).1 ≠ 1 ∧
        (verifyOtpScript keys now hash).2 = keys) ∨
      (keys.comparedWith now = some hash ∧
        verifyOtpScript keys now hash =
          (1, { keys with otp := none, attempts := none, lock := none })) ∨
      ∃ stored, keys.comparedWith now = some stored ∧ stored ≠ hash ∧
        (verifyOtpScript keys now hash).1 ≠ 1 ∧
        (verifyOtpScript keys now hash).2 = keys.afterWrongCode now := by
  unfold verifyOtpScript ScopeKeys.comparedWith
  cases hlock : live now keys.lock with
  | some _ => exact .inl ⟨rfl, by simp, rfl⟩
  | none =>
      simp only [Option.isSome_none, Bool.false_eq_true, if_false]
      cases hotp : live now keys.otp with
      | none => exact .inl ⟨rfl, by simp, rfl⟩
      | some stored =>
          refine .inr ?_
          by_cases hsame : stored = hash
          · exact .inl ⟨by rw [hsame], if_pos hsame⟩
          · refine .inr ⟨stored, rfl, hsame, ?_, ?_⟩
            · simp only [if_neg hsame]
              split_ifs <;> simp
            · simp only [if_neg hsame]
              split_ifs <;> rfl

theorem afterWrongCode_attempts (keys : ScopeKeys) (now : Int) :
    (keys.afterWrongCode now).attempts =
      some ⟨(live now keys.attempts).getD 0 + 1, now + otpLockSeconds * 1000⟩ := by
  unfold ScopeKeys.afterWrongCode
  split_ifs <;> rfl

theorem afterWrongCode_rate (keys : ScopeKeys) (now : Int) :
    (keys.afterWrongCode now).rate = keys.rate := by
  unfold ScopeKeys.afterWrongCode
  split_ifs <;> rfl

theorem afterWrongCode_otp {entry : Expiring String}
    (h : (keys.afterWrongCode now).otp = some entry) : keys.otp = some entry := by
  unfold ScopeKeys.afterWrongCode at h
  split_ifs at h
  exact h

theorem afterWrongCode_lock
    (hlimit : (live now keys.attempts).getD 0 + 1 = otpMaxFailedAttempts) :
    (keys.afterWrongCode now).lock = some ⟨(), now + otpLockSeconds * 1000⟩ := by
  unfold ScopeKeys.afterWrongCode
  rw [if_pos hlimit.ge]
  rfl

theorem not_locked_of_comparedWith {stored : String} (h : keys.comparedWith now = some stored) :
    live now keys.lock = none ∧ live now keys.otp = some stored := by
  unfold ScopeKeys.comparedWith at h
  split_ifs at h with hlock
  exact ⟨by simpa using hlock, h⟩

end Scripts

/-! ## What a scope has seen -/

/-- The times of the wrong codes compared since one was accepted; the code issued last and
not accepted yet, with its time; the times of the wrong codes compared with it; and the times
at which codes were issued. -/
structure ScopeHistory where
  guesses : List Int
  issued : Option (String × Int)
  guessesAtIssued : List Int
  issues : List Int

def ScopeHistory.empty : ScopeHistory := ⟨[], none, [], []⟩

def ScopeHistory.afterIssue (history : ScopeHistory) (hash : String) (now : Int) : ScopeHistory where
  guesses := history.guesses
  issued := some (hash, now)
  guessesAtIssued := []
  issues := history.issues ++ [now]

def ScopeHistory.afterGuess (history : ScopeHistory) (now : Int) : ScopeHistory :=
  { history with
    guesses := history.guesses ++ [now]
    guessesAtIssued := history.guessesAtIssued ++ [now] }

def ScopeHistory.afterAcceptance (history : ScopeHistory) : ScopeHistory :=
  { history with guesses := [], issued := none, guessesAtIssued := [] }

namespace OtpService

variable (service : OtpService)

/-- What a step adds to the history of a scope. -/
def recordScope (scope : String) (history : ScopeHistory)
    (t : Transition OtpRedis OtpRequest OtpAnswer) : ScopeHistory :=
  match t.request.call with
  | .generate email options code =>
    if (service.scopeFor email options).toOption = some scope ∧ t.answer = .generated code then
      history.afterIssue (service.hashOtp scope code) t.after.now
    else history
  | .verify email _ options =>
    if (service.scopeFor email options).toOption = some scope then
      if t.answer = .verified then history.afterAcceptance
      else if ((t.before.scopes scope).comparedWith t.after.now).isSome then
        history.afterGuess t.after.now
      else history
    else history

/-- What a scope has seen after a run from an empty Redis. -/
def scopeHistory (scope : String) (start : Int) (requests : List OtpRequest) : ScopeHistory :=
  (trace service.otpStep ⟨start, fun _ => .empty⟩ requests).foldl (service.recordScope scope) .empty

end OtpService

/-! ## The invariant -/

/-- The counter has counted the last of the guesses, up to its limit, and those before them
lie a lock's time back. -/
def CountsGuesses (attempts : Expiring Nat) (lock : Option (Expiring Unit))
    (guesses : List Int) : Prop :=
  ∃ earlier counted last, guesses = earlier ++ (counted ++ [last]) ∧
    attempts.value = counted.length + 1 ∧ attempts.value ≤ otpMaxFailedAttempts ∧
    attempts.expireAt = last + otpLockSeconds * 1000 ∧
    (∀ p ∈ earlier, ∀ q ∈ counted ++ [last], p + otpLockSeconds * 1000 ≤ q) ∧
    (attempts.value = otpMaxFailedAttempts →
      ∃ entry, lock = some entry ∧ entry.expireAt = attempts.expireAt)

/-- The keys of a scope agree with what it has seen. -/
structure Tracked (keys : ScopeKeys) (now : Int) (history : ScopeHistory) : Prop where
  sorted : history.guesses.Pairwise (· ≤ ·)
  past : ∀ time ∈ history.guesses, time ≤ now
  spaced : Spaced otpMaxFailedAttempts (otpLockSeconds * 1000) history.guesses
  uncounted : keys.attempts = none → history.guesses = []
  counted : ∀ attempts, keys.attempts = some attempts →
    CountsGuesses attempts keys.lock history.guesses
  otp : ∀ entry, keys.otp = some entry → ∃ issued, history.issued = some (entry.value, issued) ∧
    entry.expireAt = issued + otpTtlSeconds * 1000
  issued : ∀ hash issued, history.issued = some (hash, issued) → issued ≤ now ∧
    ∀ time ∈ history.guessesAtIssued, withinInterval issued (otpTtlSeconds * 1000) time
  unissued : history.issued = none → history.guessesAtIssued = []
  atIssued : history.guessesAtIssued <:+ history.guesses
  issuesSpaced : Spaced 1 (otpRateLimitSeconds * 1000) history.issues
  rate : ∀ time, history.issues.getLast? = some time →
    ∃ entry, keys.rate = some entry ∧ entry.expireAt = time + otpRateLimitSeconds * 1000

theorem tracked_empty (now : Int) : Tracked .empty now .empty where
  sorted := .nil
  past := by simp [ScopeHistory.empty]
  spaced := spaced_nil
  uncounted := fun _ => rfl
  counted := fun attempts h => by cases h
  otp := fun entry h => by cases h
  issued := fun hash issued h => by cases h
  unissued := fun _ => rfl
  atIssued := List.suffix_rfl
  issuesSpaced := spaced_nil
  rate := fun time h => by cases h

section Invariant

variable {keys : ScopeKeys} {now : Int} {hash : String} {history : ScopeHistory}

theorem Tracked.later (h : Tracked keys now history) {later : Int} (hle : now ≤ later) :
    Tracked keys later history :=
  { h with
    past := fun time htime => (h.past time htime).trans hle
    issued := fun hash issued hissued =>
      ⟨(h.issued hash issued hissued).1.trans hle, (h.issued hash issued hissued).2⟩ }

theorem Tracked.afterIssue (h : Tracked keys now history) (hrate : live now keys.rate = none) :
    Tracked { keys with
        otp := expiring hash now otpTtlSeconds
        rate := expiring () now otpRateLimitSeconds } now (history.afterIssue hash now) where
  sorted := h.sorted
  past := h.past
  spaced := h.spaced
  uncounted := h.uncounted
  counted := h.counted
  otp := by
    rintro entry hentry
    obtain rfl := Option.some.inj hentry
    exact ⟨now, rfl, rfl⟩
  issued := by
    rintro _ _ ⟨⟩
    exact ⟨le_rfl, fun time htime => by cases htime⟩
  unissued := fun hnone => by cases hnone
  atIssued := List.nil_suffix
  -- The key of the last code has run out, a minute after that code.
  issuesSpaced := by
    refine h.issuesSpaced.concat Nat.one_pos fun first _ hfirst => ?_
    rw [← List.getLast?_eq_getElem?] at hfirst
    obtain ⟨entry, hentry, hexpire⟩ := h.rate first hfirst
    have := live_eq_none hrate hentry
    omega
  rate := by
    intro time htime
    obtain rfl : now = time := by simpa [ScopeHistory.afterIssue] using htime
    exact ⟨_, rfl, rfl⟩

theorem Tracked.afterAcceptance (h : Tracked keys now history) :
    Tracked { keys with otp := none, attempts := none, lock := none } now
      history.afterAcceptance where
  sorted := .nil
  past := by simp [ScopeHistory.afterAcceptance]
  spaced := spaced_nil
  uncounted := fun _ => rfl
  counted := fun attempts h => by cases h
  otp := fun entry h => by cases h
  issued := fun hash issued h => by cases h
  unissued := fun _ => rfl
  atIssued := List.suffix_rfl
  issuesSpaced := h.issuesSpaced
  rate := h.rate

/-- A scope that compares is not locked: its counter has run out or is below its limit, and
the guess before the last four lies a lock's time back. -/
theorem Tracked.guess_spaced (h : Tracked keys now history) (hlock : live now keys.lock = none) :
    Spaced otpMaxFailedAttempts (otpLockSeconds * 1000) (history.guesses ++ [now]) ∧
      ∃ earlier counted, history.guesses = earlier ++ counted ∧
        (live now keys.attempts).getD 0 = counted.length ∧
        counted.length < otpMaxFailedAttempts ∧
        ∀ p ∈ earlier, ∀ q ∈ counted ++ [now], p + otpLockSeconds * 1000 ≤ q := by
  have hpos : 0 < otpMaxFailedAttempts := by decide
  cases hattempts : keys.attempts with
  | none =>
      rw [h.uncounted hattempts]
      refine ⟨spaced_nil.concat hpos fun first _ hfirst => by simp at hfirst, [], [], rfl, rfl,
        hpos, fun p hp => ?_⟩
      cases hp
  | some attempts =>
      obtain ⟨earlier, counted, last, hguesses, hvalue, hlimit, hexpire, hgap, hfull⟩ :=
        h.counted attempts hattempts
      have hlast : last ≤ now := h.past last (by simp [hguesses])
      by_cases hlive : now < attempts.expireAt
      · -- The counter still counts; at its limit the scope would be locked as long as it does.
        have hcount : (live now (some attempts)).getD 0 = attempts.value := by simp [live, hlive]
        have hbelow : attempts.value < otpMaxFailedAttempts := by
          refine lt_of_le_of_ne hlimit fun hn => ?_
          obtain ⟨entry, hentry, hsame⟩ := hfull hn
          have := live_eq_none hlock hentry
          omega
        constructor
        · refine h.spaced.concat hpos fun first hlen hfirst => ?_
          -- The counter is below its limit, so the guess five back is not among those counted.
          have hshort : (earlier ++ (counted ++ [last])).length - otpMaxFailedAttempts <
              earlier.length := by
            rw [hguesses] at hlen
            simp only [List.length_append, List.length_singleton] at hlen ⊢
            omega
          rw [hguesses, List.getElem?_append_left hshort] at hfirst
          have := hgap first (List.mem_of_getElem? hfirst) last (by simp)
          omega
        · refine ⟨earlier, counted ++ [last], hguesses, by rw [hcount, hvalue]; simp,
            by simpa [← hvalue] using hbelow, ?_⟩
          intro p hp q hq
          rcases List.mem_append.mp hq with hq | hq
          · exact hgap p hp q hq
          · obtain rfl := List.mem_singleton.mp hq
            have := hgap p hp last (by simp)
            omega
      · -- The counter has run out and begins again.
        have hcount : (live now (some attempts)).getD 0 = 0 := by simp [live, hlive]
        have hall : ∀ p ∈ history.guesses, p + otpLockSeconds * 1000 ≤ now := by
          intro p hp
          have hple : p ≤ last := by
            have hsorted := h.sorted
            rw [hguesses, ← List.append_assoc, List.pairwise_append] at hsorted
            rw [hguesses, ← List.append_assoc, List.mem_append, List.mem_singleton] at hp
            rcases hp with hp | rfl
            · exact hsorted.2.2 p hp last (List.mem_singleton.mpr rfl)
            · exact le_rfl
          omega
        refine ⟨h.spaced.concat hpos fun first _ hfirst => hall first (List.mem_of_getElem? hfirst),
          history.guesses, [], (List.append_nil _).symm, hcount, hpos, ?_⟩
        intro p hp q hq
        obtain rfl := List.mem_singleton.mp hq
        exact hall p hp

theorem Tracked.afterGuess (h : Tracked keys now history) {stored : String}
    (hcompared : keys.comparedWith now = some stored) :
    Tracked (keys.afterWrongCode now) now (history.afterGuess now) := by
  obtain ⟨hlock, hotp⟩ := not_locked_of_comparedWith hcompared
  obtain ⟨hspaced, earlier, counted, hguesses, hvalue, hbelow, hgap⟩ := h.guess_spaced hlock
  obtain ⟨entry, hentry, hfresh, _⟩ := live_eq_some.mp hotp
  obtain ⟨issued, hissued, hexpire⟩ := h.otp entry hentry
  have hstarted := (h.issued _ _ hissued).1
  constructor
  · rw [ScopeHistory.afterGuess, List.pairwise_append]
    refine ⟨h.sorted, List.pairwise_singleton _ _, fun p hp q hq => ?_⟩
    obtain rfl := List.mem_singleton.mp hq
    exact h.past p hp
  · intro time htime
    rcases List.mem_append.mp htime with htime | htime
    · exact h.past time htime
    · exact (List.mem_singleton.mp htime).le
  · exact hspaced
  · intro hnone
    rw [afterWrongCode_attempts] at hnone
    cases hnone
  · intro attempts hattempts
    rw [afterWrongCode_attempts] at hattempts
    obtain rfl := Option.some.inj hattempts
    refine ⟨earlier, counted, now, ?_, by rw [hvalue], by rw [hvalue]; exact hbelow, rfl, hgap,
      fun hn => ⟨_, afterWrongCode_lock hn, rfl⟩⟩
    rw [ScopeHistory.afterGuess, hguesses, List.append_assoc]
  · exact fun other hother => h.otp other (afterWrongCode_otp hother)
  · -- The code was compared because it is live, so within its ten minutes.
    intro hash time hsame
    obtain ⟨-, rfl⟩ := Prod.mk.inj (Option.some.inj (hissued.symm.trans hsame))
    refine ⟨hstarted, fun guess hguess => ?_⟩
    rcases List.mem_append.mp hguess with hguess | hguess
    · exact (h.issued _ _ hissued).2 guess hguess
    · obtain rfl := List.mem_singleton.mp hguess
      simp only [withinInterval, decide_eq_true_eq]
      omega
  · intro hnone
    rw [ScopeHistory.afterGuess, hissued] at hnone
    cases hnone
  · obtain ⟨before, hbefore⟩ := h.atIssued
    exact ⟨before, by simp [ScopeHistory.afterGuess, ← hbefore]⟩
  · exact h.issuesSpaced
  · intro time htime
    rw [afterWrongCode_rate]
    exact h.rate time htime

end Invariant

/-! ## Runs -/

section Runs

variable {service : OtpService} {redis : OtpRedis} {scope : String} {history : ScopeHistory}

/-- A call moves the clock on, and writes the keys of one scope. -/
theorem tracked_step (h : Tracked (redis.scopes scope) redis.now history) (request : OtpRequest) :
    Tracked ((service.otpStep redis request).2.scopes scope) (service.otpStep redis request).2.now
      (service.recordScope scope history (transition service.otpStep redis request)) := by
  have hlater := h.later (show redis.now ≤ redis.now + request.elapsed by omega)
  obtain ⟨call, elapsed⟩ := request
  cases call with
  | generate email options code =>
      simp only [transition, OtpService.otpStep, OtpService.generateOtp, OtpService.recordScope]
      cases hscope : service.scopeFor email options with
      | error message => exact hlater
      | ok other =>
          simp only [Except.toOption, Option.some.injEq]
          by_cases hsame : other = scope
          · subst hsame
            rcases generateOtpScript_cases (redis.scopes other) (redis.now + elapsed)
              (service.hashOtp other code) with hkept | ⟨hrate, hissued⟩
            · simp only [hkept]
              simpa [OtpRedis.set] using hlater
            · simp only [hissued]
              simpa [OtpRedis.set] using hlater.afterIssue hrate
          · have hother : scope ≠ other := fun heq => hsame heq.symm
            simp only [hsame, false_and, if_false]
            split_ifs <;> simpa [OtpRedis.set, hother] using hlater
  | verify email code options =>
      simp only [transition, OtpService.otpStep, OtpService.verifyOtp, OtpService.recordScope]
      cases hscope : service.scopeFor email options with
      | error message => exact hlater
      | ok other =>
          simp only [Except.toOption, Option.some.injEq]
          by_cases hsame : other = scope
          · subst hsame
            rcases verifyOtpScript_cases (redis.scopes other) (redis.now + elapsed)
              (service.hashOtp other (jsTrim code)) with
              ⟨hcompared, hreply, hkept⟩ | ⟨_, haccepted⟩ | ⟨stored, hcompared, _, hreply, hwrong⟩
            · rw [if_pos hreply, hkept]
              simpa [OtpRedis.set, hcompared] using hlater
            · simp only [haccepted]
              simpa [OtpRedis.set] using hlater.afterAcceptance
            · rw [if_pos hreply, hwrong]
              simpa [OtpRedis.set, hcompared] using hlater.afterGuess hcompared
          · have hother : scope ≠ other := fun heq => hsame heq.symm
            simp only [hsame, if_false]
            split_ifs <;> simpa [OtpRedis.set, hother] using hlater

theorem tracked_final (service : OtpService) (scope : String) (start : Int)
    (requests : List OtpRequest) :
    Tracked ((final service.otpStep ⟨start, fun _ => .empty⟩ requests).scopes scope)
      (final service.otpStep ⟨start, fun _ => .empty⟩ requests).now
      (service.scopeHistory scope start requests) :=
  recorded_final
    (fun (redis : OtpRedis) history => Tracked (redis.scopes scope) redis.now history)
    (fun _ _ request h => tracked_step h request) (tracked_empty start) requests

theorem Tracked.guessesAtIssued_length_le {keys : ScopeKeys} {now : Int}
    (h : Tracked keys now history) : history.guessesAtIssued.length ≤ otpMaxFailedAttempts := by
  cases hissued : history.issued with
  | none =>
      rw [h.unissued hissued]
      exact Nat.zero_le _
  | some code =>
      have hwithin := (h.issued code.1 code.2 hissued).2
      calc history.guessesAtIssued.length
          = history.guessesAtIssued.countP (withinInterval code.2 (otpTtlSeconds * 1000)) :=
            (List.countP_eq_length.mpr hwithin).symm
        _ ≤ history.guesses.countP (withinInterval code.2 (otpTtlSeconds * 1000)) :=
            h.atIssued.sublist.countP_le
        _ ≤ otpMaxFailedAttempts := h.spaced.countP_le h.sorted code.2

end Runs

/-- No code is compared with more than five wrong ones, nor is a scope in any ten minutes
between two acceptances: `n` times as long, at most `n` times as many.  Codes are issued a
minute apart. -/
theorem code_guessed_five_times (service : OtpService) (scope : String) (start : Int)
    (requests : List OtpRequest) :
    (service.scopeHistory scope start requests).guessesAtIssued.length ≤ 5 ∧
      (∀ from_ : Int, ∀ n : Nat, (service.scopeHistory scope start requests).guesses.countP
        (withinInterval from_ (n * 600000)) ≤ n * 5) ∧
      Spaced 1 60000 (service.scopeHistory scope start requests).issues := by
  have h := tracked_final service scope start requests
  exact ⟨h.guessesAtIssued_length_le, fun from_ n => h.spaced.countP_le_mul h.sorted from_ n,
    h.issuesSpaced⟩

/-- What is accepted is the code issued last, for the same scope, neither accepted before nor
older than ten minutes. -/
theorem last_code_accepted_once (service : OtpService) (start : Int) (requests : List OtpRequest)
    {email code : String} {options : OtpScopeOptions} {elapsed : Nat} {next : OtpRedis}
    (haccepted : service.otpStep (final service.otpStep ⟨start, fun _ => .empty⟩ requests)
      ⟨.verify email code options, elapsed⟩ = (.verified, next)) :
    ∃ scope issued, service.scopeFor email options = .ok scope ∧
      (service.scopeHistory scope start requests).issued =
        some (service.hashOtp scope (jsTrim code), issued) ∧
      issued ≤ next.now ∧ next.now < issued + 600000 ∧
      (service.scopeHistory scope start
        (requests ++ [⟨.verify email code options, elapsed⟩])).issued = none := by
  simp only [OtpService.otpStep, OtpService.verifyOtp] at haccepted
  cases hscope : service.scopeFor email options with
  | error message => simp [hscope] at haccepted
  | ok scope =>
      have htracked := tracked_final service scope start requests
      have hrecorded : ∀ redis history, (service.otpStep redis
          ⟨.verify email code options, elapsed⟩).1 = .verified →
          (service.recordScope scope history (transition service.otpStep redis
            ⟨.verify email code options, elapsed⟩)).issued = none := by
        intro redis history hanswer
        simp only [OtpService.recordScope, transition, hscope, Except.toOption, if_true, hanswer]
        rfl
      have hhistory : (service.scopeHistory scope start
          (requests ++ [⟨.verify email code options, elapsed⟩])).issued = none := by
        rw [OtpService.scopeHistory, trace_append, List.foldl_append]
        refine hrecorded _ _ ?_
        simp only [OtpService.otpStep, OtpService.verifyOtp]
        rw [haccepted]
      generalize final service.otpStep ⟨start, fun _ => .empty⟩ requests = redis
        at haccepted htracked
      simp only [hscope] at haccepted
      rcases verifyOtpScript_cases (redis.scopes scope) (redis.now + elapsed)
        (service.hashOtp scope (jsTrim code)) with
        ⟨_, hreply, _⟩ | ⟨hcompared, hverified⟩ | ⟨_, _, _, hreply, _⟩
      · rw [if_pos hreply] at haccepted
        cases haccepted
      · obtain ⟨_, hotp⟩ := not_locked_of_comparedWith hcompared
        obtain ⟨entry, hentry, hfresh, hvalue⟩ := live_eq_some.mp hotp
        obtain ⟨issued, hissued, hexpire⟩ := htracked.otp entry hentry
        have hnow : next.now = redis.now + elapsed := by
          rw [if_neg (not_not.mpr (congrArg Prod.fst hverified))] at haccepted
          rw [← (Prod.mk.inj haccepted).2]
          rfl
        have hbegun := (htracked.issued _ _ hissued).1
        rw [hvalue] at hissued
        refine ⟨scope, issued, rfl, hissued, by omega, ?_, hhistory⟩
        rw [hnow]
        exact hexpire ▸ hfresh
      · rw [if_pos hreply] at haccepted
        cases haccepted

/-- A service whose digests are the texts. -/
def plainOtpService : OtpService := ⟨id, id, id⟩

def issueRequest : OtpRequest :=
  ⟨.generate "kim@cafe.test" ⟨some "cafe", false, none⟩ "042137", 5⟩

def acceptRequest : OtpRequest := ⟨.verify "kim@cafe.test" "042137 " ⟨some "cafe", false, none⟩, 60000⟩

/-- A code is issued and, a minute later, accepted with a space after it. -/
theorem issued_code_accepted :
    ∃ scope issued,
      plainOtpService.scopeFor "kim@cafe.test" ⟨some "cafe", false, none⟩ = .ok scope ∧
        (plainOtpService.scopeHistory scope 0 [issueRequest]).issued =
          some (plainOtpService.hashOtp scope (jsTrim "042137 "), issued) ∧
        issued ≤ (final plainOtpService.otpStep ⟨0, fun _ => .empty⟩
          ([issueRequest] ++ [acceptRequest])).now ∧
        (final plainOtpService.otpStep ⟨0, fun _ => .empty⟩
          ([issueRequest] ++ [acceptRequest])).now < issued + 600000 ∧
        (plainOtpService.scopeHistory scope 0 ([issueRequest] ++ [acceptRequest])).issued = none :=
  last_code_accepted_once plainOtpService 0 [issueRequest] (Prod.ext (by decide) rfl)

end LunchLineup.Auth
