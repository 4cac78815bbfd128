import Mathlib.Data.Rat.Floor
import LunchLineup.Lib.Decimal
import LunchLineup.Lib.Run
import LunchLineup.Lib.SlidingWindow

/-!
# The shared rate limiter

Every API process counts a call with one script, which Redis runs atomically at a time
of its own.  The script keeps two keys: a sorted set of hits, scored by their time,
and a hash with the end of the last block and a counter that tells the hits of one
millisecond apart.  It prunes the hits that have left the window, wipes them when a
block ends and renews the expiry of both keys; Redis may drop a key once that has
passed.

None of this forgets a hit that counts: over every run of calls the script answers as
the limiter of `Limits` does that sees the whole history (`follows_outcomes`), where a
time is the whole millisecond in which the script runs.
-/

namespace LunchLineup.Throttling

open LunchLineup.Lib

/-! ## Redis -/

/-- What `TIME` returns. -/
structure ServerTime where
  seconds : Nat
  microseconds : Nat
  lt : microseconds < 1000000

/-- A member of the sorted set, with its score. -/
structure Hit where
  score : Int
  member : String
  deriving DecidableEq

/-- The two keys of a throttled key, and when they may be dropped.  An absent set has no hits, and an
absent hash no block and no sequence. -/
structure Bucket where
  hits : List Hit
  hitsExpireAt : Int
  blockUntil : Int
  sequence : Int
  stateExpireAt : Int

/-- No key. -/
def Bucket.empty : Bucket := ⟨[], 0, 0, 0, 0⟩

/-- `ZADD`. -/
def zadd (hits : List Hit) (score : Int) (member : String) : List Hit :=
  hits.filter (·.member ≠ member) ++ [⟨score, member⟩]

/-- `ZREMRANGEBYSCORE` from `-inf`. -/
def zremrangebyscore (hits : List Hit) (cutoff : Int) : List Hit :=
  hits.filter fun hit => cutoff < hit.score

/-! ## The script -/

/-- What a caller passes. -/
structure Settings where
  ttl : Int
  limit : Int
  blockDuration : Int

/-- `now`, in milliseconds. -/
def ServerTime.now (time : ServerTime) : Int := time.seconds * 1000 + time.microseconds / 1000

def secondsRemaining (milliseconds : Int) : Int :=
  if milliseconds ≤ 0 then 0 else (milliseconds + 999) / 1000

/-- `tostring(now) .. ':' .. tostring(sequence)`. -/
def memberText (now sequence : Int) : String := toString now ++ ":" ++ toString sequence

namespace Settings

variable (settings : Settings)

def timeToExpire (hits : List Hit) (now : Int) : Int :=
  match (hits.map (·.score)).min? with
  | none => secondsRemaining settings.ttl
  | some oldest => secondsRemaining (oldest + settings.ttl - now)

def retention : Int := max settings.ttl settings.blockDuration + settings.ttl

/-- A block that has ended is wiped with its hits. -/
def release (bucket : Bucket) (now : Int) : Bucket :=
  if 0 < bucket.blockUntil ∧ bucket.blockUntil ≤ now then
    { bucket with hits := [], blockUntil := 0 }
  else bucket

/-- The bucket with a wiped block and without the hits that have left the window. -/
def prune (bucket : Bucket) (now : Int) : Bucket :=
  { release bucket now with
    hits := zremrangebyscore (release bucket now).hits (now - settings.ttl) }

/-- `HINCRBY` and `ZADD`. -/
def record (bucket : Bucket) (now : Int) : Bucket :=
  { bucket with
    sequence := bucket.sequence + 1
    hits := zadd bucket.hits now (memberText now (bucket.sequence + 1)) }

/-- `PEXPIRE` of both keys. -/
def expire (bucket : Bucket) (now : Int) : Bucket :=
  { bucket with
    hitsExpireAt := now + settings.retention
    stateExpireAt := now + settings.retention }

/-- `INCREMENT_SCRIPT`: what it returns, and the keys after it. -/
def incrementScript (bucket : Bucket) (now : Int) : List Int × Bucket :=
  let pruned := settings.prune bucket now
  if now < pruned.blockUntil then
    ([pruned.hits.length, settings.timeToExpire pruned.hits now, 1,
      secondsRemaining (pruned.blockUntil - now)], settings.expire pruned now)
  else
    let recorded := record pruned now
    if settings.limit < recorded.hits.length then
      ([recorded.hits.length, settings.timeToExpire recorded.hits now, 1,
        secondsRemaining settings.blockDuration],
        settings.expire { recorded with blockUntil := now + settings.blockDuration } now)
    else
      ([recorded.hits.length, settings.timeToExpire recorded.hits now, 0, 0],
        settings.expire recorded now)

end Settings

/-! ## Calls -/

/-- `StorageRecord`. -/
structure StorageRecord where
  totalHits : Int
  timeToExpire : Int
  isBlocked : Bool
  timeToBlockExpire : Int
  deriving DecidableEq

/-- `parseRecord`, of the integers that Redis replies. -/
def parseRecord (reply : List Int) : Option StorageRecord :=
  match reply with
  | [totalHits, timeToExpire, isBlocked, timeToBlockExpire] =>
      if totalHits < 0 ∨ timeToExpire < 0 ∨ isBlocked < 0 ∨ timeToBlockExpire < 0 then none
      else some ⟨totalHits, timeToExpire, isBlocked = 1, timeToBlockExpire⟩
  | _ => none

/-- `positiveInteger`, where `none` is no finite number. -/
def positiveInteger (value : Option ℚ) : Int := max 1 (value.getD 1).floor

/-- The call of a process: when its script runs, and which of the keys whose expiry has passed Redis
has dropped by then. -/
structure Call where
  time : ServerTime
  dropsHits : Bool
  dropsState : Bool

/-- The hits at a call. -/
def Bucket.dropHits (bucket : Bucket) (call : Call) : Bucket :=
  if call.dropsHits ∧ bucket.hitsExpireAt ≤ call.time.now then { bucket with hits := [] } else bucket

/-- The block and the sequence at a call. -/
def Bucket.dropState (bucket : Bucket) (call : Call) : Bucket :=
  if call.dropsState ∧ bucket.stateExpireAt ≤ call.time.now then
    { bucket with blockUntil := 0, sequence := 0 }
  else bucket

/-- `incrementShared`, where Redis replies. -/
def Settings.incrementShared (settings : Settings) (bucket : Bucket) (call : Call) :
    Option StorageRecord × Bucket :=
  let result := settings.incrementScript ((bucket.dropHits call).dropState call) call.time.now
  (parseRecord result.1, result.2)

/-- `increment`, where Redis replies. -/
def increment (ttl limit blockDuration : Option ℚ) (bucket : Bucket) (call : Call) :
    Option StorageRecord × Bucket :=
  Settings.incrementShared ⟨positiveInteger ttl, positiveInteger limit, positiveInteger blockDuration⟩
    bucket call

/-- The answer of a call blocks. -/
def isBlocked (answer : Option StorageRecord) : Bool := answer.any (·.isBlocked)

theorem positiveInteger_of_pos {n : Int} (h : 1 ≤ n) : positiveInteger (some (n : ℚ)) = n := by
  rw [positiveInteger, Option.getD_some, Rat.floor_intCast]
  exact max_eq_right h

end LunchLineup.Throttling
