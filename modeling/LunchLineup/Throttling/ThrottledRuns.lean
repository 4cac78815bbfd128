import LunchLineup.Throttling.RedisThrottler

/-!
# Runs of the rate limiter

`Tracks` is what the keys know of the history: which block lasts, and how many admitted
calls lie in a window that ends now or later and not before the last block.  It holds at
a later time with the keys that Redis has not dropped (`Tracks.drop`), it is kept by
pruning and wiping (`Tracks.prune`), and with it the script answers as the limiter does
and the keys know of its answer (`Tracks.incrementScript`).  A run of calls is therefore
answered as the limiter answers it (`follows_outcomes`).
-/

namespace LunchLineup.Throttling

open LunchLineup.Lib

theorem memberText_injective {now now' sequence sequence' : Int}
    (h : memberText now sequence = memberText now' sequence') : sequence = sequence' := by
  have hcolon : ∀ n : Int, ':' ∉ (toString n).toList := by
    intro n hmem
    rcases mem_toString hmem with hminus | hdigit
    · exact absurd hminus (by decide)
    · exact absurd hdigit (by decide)
  have hchars := congrArg String.toList h
  have htext : ∀ n k : Int, (memberText n k).toList =
      (toString n).toList ++ ':' :: (toString k).toList := by
    intro n k
    rw [memberText, String.toList_append, String.toList_append, List.append_assoc]
    rfl
  rw [htext, htext, List.append_cons_inj_of_notMem (hcolon _) (hcolon _)] at hchars
  exact toString_injective (String.toList_inj.mp hchars.2.2)

/-- The limiter of some settings. -/
def Settings.limits (settings : Settings) : Limits :=
  ⟨settings.ttl, settings.limit, settings.blockDuration⟩

/-- The hits after a time. -/
def hitsAfter (hits : List Hit) (time : Int) : Nat := hits.countP fun hit => time < hit.score

theorem hitsAfter_eq_zero {hits : List Hit} {time : Int} (h : ∀ hit ∈ hits, hit.score ≤ time) :
    hitsAfter hits time = 0 := by
  rw [hitsAfter, List.countP_eq_zero]
  intro hit hmem
  have := h hit hmem
  rw [decide_eq_true_eq]
  omega

theorem admittedAfter_eq_zero {history : List Outcome} {time : Int}
    (h : ∀ o ∈ history, o.refused = false → o.time ≤ time) : Limits.admittedAfter history time = 0 := by
  rw [Limits.admittedAfter, List.countP_eq_zero]
  intro o hmem hafter
  simp only [Bool.and_eq_true, Bool.not_eq_true', decide_eq_true_eq] at hafter
  have := h o hmem hafter.1
  omega

theorem Bucket.without_state {bucket : Bucket} (hblock : bucket.blockUntil = 0)
    (hsequence : bucket.sequence = 0) :
    { bucket with blockUntil := 0, sequence := 0 } = bucket := by
  cases bucket
  cases hblock
  cases hsequence
  rfl

/-- What the keys know at a time. -/
structure Tracks (settings : Settings) (history : List Outcome) (now : Int) (bucket : Bucket) :
    Prop where
  clock : 0 ≤ now
  times : ∀ o ∈ history, o.time ≤ now
  scores : ∀ hit ∈ bucket.hits, hit.score ≤ now
  /-- A hit of the window has a sequence number that was given. -/
  members : ∀ hit ∈ bucket.hits, now - settings.ttl < hit.score →
    ∃ sequence ≤ bucket.sequence, hit.member = memberText hit.score sequence
  /-- No block is kept, and none lasts; or the last one is, and no call was admitted since. -/
  block : bucket.blockUntil = 0 ∧ settings.limits.blockEnd history ≤ now ∨
    bucket.blockUntil = settings.limits.blockEnd history ∧ ∀ o ∈ history, o.refused = false →
      o.time ≤ settings.limits.blockEnd history - settings.blockDuration
  admitted : ∀ time, now - settings.ttl ≤ time →
    settings.limits.blockEnd history - settings.ttl ≤ time →
      hitsAfter bucket.hits time = Limits.admittedAfter history time

/-- The keys are kept for as long as they matter. -/
structure Kept (settings : Settings) (last : Int) (bucket : Bucket) : Prop where
  hits : bucket.hits = [] ∨ last + settings.retention ≤ bucket.hitsExpireAt
  state : bucket.blockUntil = 0 ∧ bucket.sequence = 0 ∨
    last + settings.retention ≤ bucket.stateExpireAt

section

variable {settings : Settings} {history : List Outcome} {last now : Int} {bucket : Bucket}
  (httl : 1 ≤ settings.ttl) (hblock : settings.ttl ≤ settings.blockDuration)

theorem tracks_empty (htime : 0 ≤ now) : Tracks settings [] now Bucket.empty where
  clock := htime
  times := by simp
  scores := by simp [Bucket.empty]
  members := by simp [Bucket.empty]
  block := .inl ⟨rfl, htime⟩
  admitted := fun _ _ _ => rfl

theorem Tracks.mono (h : Tracks settings history last bucket) (hle : last ≤ now) :
    Tracks settings history now bucket where
  clock := h.clock.trans hle
  times := fun o ho => (h.times o ho).trans hle
  scores := fun hit hhit => (h.scores hit hhit).trans hle
  members := fun hit hhit hlt => h.members hit hhit (by omega)
  block := h.block.imp_left fun hfree => ⟨hfree.1, hfree.2.trans hle⟩
  admitted := fun time hwindow hend => h.admitted time (by omega) hend

include httl hblock

/-- What Redis drops does not matter any more. -/
theorem Tracks.drop (h : Tracks settings history last bucket) (hkept : Kept settings last bucket)
    {call : Call} (hle : last ≤ call.time.now) :
    Tracks settings history call.time.now ((bucket.dropHits call).dropState call) := by
  have hretention : settings.blockDuration + settings.ttl ≤ settings.retention := by
    unfold Settings.retention
    omega
  have hhits : Tracks settings history call.time.now (bucket.dropHits call) := by
    have hlater := h.mono hle
    unfold Bucket.dropHits
    split_ifs with hdrops
    · rcases hkept.hits with hnone | hkept
      · rw [← hnone]
        exact hlater
      · refine ⟨hlater.clock, hlater.times, by simp, by simp, hlater.block, fun time hwindow hend => ?_⟩
        have hold : ∀ o ∈ history, o.refused = false → o.time ≤ time := by
          intro o ho _
          have := h.times o ho
          omega
        rw [admittedAfter_eq_zero hold]
        rfl
    · exact hlater
  unfold Bucket.dropState
  split_ifs with hdrops
  · have hsame : (bucket.dropHits call).blockUntil = bucket.blockUntil ∧
        (bucket.dropHits call).sequence = bucket.sequence ∧
        (bucket.dropHits call).stateExpireAt = bucket.stateExpireAt := by
      unfold Bucket.dropHits
      split_ifs
      · exact ⟨rfl, rfl, rfl⟩
      · exact ⟨rfl, rfl, rfl⟩
    obtain ⟨hblockUntil, hsequence, hexpire⟩ := hsame
    rcases hkept.state with ⟨hnone, hzero⟩ | hkept
    · rw [Bucket.without_state (hblockUntil.trans hnone) (hsequence.trans hzero)]
      exact hhits
    · rw [hexpire] at hdrops
      have hpos : 0 ≤ settings.limits.block := (zero_le_one.trans httl).trans hblock
      have hend : settings.limits.blockEnd history ≤ last + settings.blockDuration :=
        Limits.blockEnd_le hpos h.clock h.times
      refine ⟨hhits.clock, hhits.times, hhits.scores, fun hit hhit hlt => ?_, .inl ⟨rfl, by omega⟩,
        hhits.admitted⟩
      -- a hit is older than the window by now
      have hscore : hit.score ≤ last := by
        have hmem : hit ∈ bucket.hits := by
          simp only [Bucket.dropHits] at hhit
          split_ifs at hhit
          · cases hhit
          · exact hhit
        exact h.scores hit hmem
      omega
  · exact hhits

/-- Wiping a block that has ended forgets no hit that counts. -/
theorem Tracks.release (h : Tracks settings history now bucket) :
    Tracks settings history now (Settings.release bucket now) ∧
      ((Settings.release bucket now).blockUntil = 0 ∨
        now < (Settings.release bucket now).blockUntil) := by
  unfold Settings.release
  split_ifs with hended
  · obtain ⟨hend, hsince⟩ := h.block.resolve_left fun hfree => by omega
    refine ⟨⟨h.clock, h.times, by simp, by simp, .inl ⟨rfl, by omega⟩, fun time hwindow _ => ?_⟩, .inl rfl⟩
    have hold : ∀ o ∈ history, o.refused = false → o.time ≤ time := by
      intro o ho hadmitted
      have := hsince o ho hadmitted
      omega
    rw [admittedAfter_eq_zero hold]
    rfl
  · refine ⟨h, ?_⟩
    rcases h.block with hfree | ⟨hend, -⟩
    · exact .inl hfree.1
    · have hpos : 0 ≤ settings.limits.block := (zero_le_one.trans httl).trans hblock
      have hle := Limits.blockEnd_le_append hpos [] history
      rw [List.nil_append, Limits.blockEnd_nil] at hle
      omega

omit httl hblock in
/-- And so does pruning. -/
theorem Tracks.pruneHits (h : Tracks settings history now bucket) :
    Tracks settings history now
      { bucket with hits := zremrangebyscore bucket.hits (now - settings.ttl) } := by
  have hmem : ∀ hit ∈ zremrangebyscore bucket.hits (now - settings.ttl), hit ∈ bucket.hits :=
    fun hit hhit => (List.mem_filter.mp hhit).1
  refine ⟨h.clock, h.times, fun hit hhit => h.scores hit (hmem hit hhit),
    fun hit hhit => h.members hit (hmem hit hhit), h.block, fun time hwindow hend => ?_⟩
  rw [← h.admitted time hwindow hend, hitsAfter, zremrangebyscore, List.countP_filter, hitsAfter]
  apply List.countP_congr
  intro hit _
  simp only [Bool.and_eq_true, decide_eq_true_eq]
  omega

theorem Tracks.prune (h : Tracks settings history now bucket) :
    Tracks settings history now (settings.prune bucket now) ∧
      ((settings.prune bucket now).blockUntil = 0 ∨
        now < (settings.prune bucket now).blockUntil) := by
  obtain ⟨hreleased, hfree⟩ := h.release httl hblock
  exact ⟨hreleased.pruneHits, hfree⟩

omit httl hblock in
theorem mem_prune_hits {hit : Hit} (hmem : hit ∈ (settings.prune bucket now).hits) :
    now - settings.ttl < hit.score := by
  simpa using (List.mem_filter.mp hmem).2

omit httl hblock in
/-- The new hit is one more. -/
theorem record_hits (h : Tracks settings history now bucket)
    (hwindow : ∀ hit ∈ bucket.hits, now - settings.ttl < hit.score) :
    (Settings.record bucket now).hits =
      bucket.hits ++ [⟨now, memberText now (bucket.sequence + 1)⟩] := by
  have hnew : ∀ hit ∈ bucket.hits, hit.member ≠ memberText now (bucket.sequence + 1) := by
    intro hit hmem heq
    obtain ⟨sequence, hle, hmember⟩ := h.members hit hmem (hwindow hit hmem)
    have := memberText_injective (hmember.symm.trans heq)
    omega
  rw [Settings.record, zadd, List.filter_eq_self.mpr]
  intro hit hmem
  exact decide_eq_true (hnew hit hmem)

omit httl hblock in
theorem secondsRemaining_nonneg (milliseconds : Int) : 0 ≤ secondsRemaining milliseconds := by
  unfold secondsRemaining
  split_ifs <;> omega

omit httl hblock in
theorem timeToExpire_nonneg (hits : List Hit) (now : Int) : 0 ≤ settings.timeToExpire hits now := by
  unfold Settings.timeToExpire
  split
  · exact secondsRemaining_nonneg _
  · exact secondsRemaining_nonneg _

omit httl hblock in
theorem parseRecord_reply {totalHits timeToExpire blocked timeToBlockExpire : Int}
    (htotal : 0 ≤ totalHits) (hexpire : 0 ≤ timeToExpire) (hblocked : 0 ≤ blocked)
    (htime : 0 ≤ timeToBlockExpire) :
    parseRecord [totalHits, timeToExpire, blocked, timeToBlockExpire] =
      some ⟨totalHits, timeToExpire, blocked = 1, timeToBlockExpire⟩ := by
  rw [parseRecord, if_neg]
  omega

/-- What one call does: it is answered as the limiter answers, and the keys know of it. -/
structure Answers (settings : Settings) (history : List Outcome) (now : Int)
    (result : Option StorageRecord × Bucket) : Prop where
  some : result.1.isSome
  answer : isBlocked result.1 = settings.limits.refuses history now
  tracks : Tracks settings (history ++ [⟨now, isBlocked result.1⟩]) now result.2
  kept : Kept settings now result.2

omit httl hblock in
theorem kept_expire : Kept settings now (settings.expire bucket now) :=
  ⟨.inr le_rfl, .inr le_rfl⟩

omit httl hblock in
/-- While a block lasts nothing is recorded. -/
theorem Tracks.refused (h : Tracks settings history now bucket) (hactive : now < bucket.blockUntil) :
    settings.limits.refuses history now = true ∧
      Tracks settings (history ++ [⟨now, true⟩]) now (settings.expire bucket now) := by
  obtain ⟨hend, hsince⟩ := h.block.resolve_left fun hfree => by
    have := h.clock
    omega
  have hsame : settings.limits.blockEnd (history ++ [⟨now, true⟩]) = settings.limits.blockEnd history := by
    rw [Limits.blockEnd_concat, if_neg]
    rintro ⟨-, hfree⟩
    have : settings.limits.blockEnd history ≤ now := hfree
    omega
  constructor
  · rw [Limits.refuses, Bool.or_eq_true, decide_eq_true_eq]
    exact .inl (by omega)
  · refine ⟨h.clock, ?_, h.scores, h.members, .inr ⟨by rw [hsame]; exact hend, ?_⟩, ?_⟩
    · intro o ho
      rcases List.mem_append.mp ho with ho | ho
      · exact h.times o ho
      · rw [List.mem_singleton.mp ho]
    · intro o ho hadmitted
      rw [hsame]
      rcases List.mem_append.mp ho with ho | ho
      · exact hsince o ho hadmitted
      · rw [List.mem_singleton.mp ho] at hadmitted
        cases hadmitted
    · intro time hwindow htime
      rw [hsame] at htime
      rw [Limits.admittedAfter_concat, if_neg (by simp), add_zero]
      exact h.admitted time hwindow htime

omit httl hblock in
/-- Outside of a block the hits of the window are the admitted calls, so that the script counts the
call as the limiter does. -/
theorem Tracks.recorded (h : Tracks settings history now bucket) (hfree : bucket.blockUntil = 0)
    (hwindow : ∀ hit ∈ bucket.hits, now - settings.ttl < hit.score) :
    settings.limits.blockEnd history ≤ now ∧ ((Settings.record bucket now).hits.length : Int) =
      Limits.admittedAfter history (now - settings.ttl) + 1 := by
  have hend : settings.limits.blockEnd history ≤ now := by
    have := h.clock
    rcases h.block with hnone | ⟨hend, -⟩
    · exact hnone.2
    · omega
  have hcount : bucket.hits.length = Limits.admittedAfter history (now - settings.ttl) := by
    rw [← h.admitted _ le_rfl (by omega), hitsAfter, List.countP_eq_length.mpr]
    intro hit hmem
    exact decide_eq_true (hwindow hit hmem)
  rw [record_hits h hwindow, List.length_append, hcount]
  exact ⟨hend, rfl⟩

omit httl hblock in
theorem Tracks.refuses_iff (h : Tracks settings history now bucket) (hfree : bucket.blockUntil = 0)
    (hwindow : ∀ hit ∈ bucket.hits, now - settings.ttl < hit.score) :
    settings.limits.refuses history now = true ↔
      settings.limit < (Settings.record bucket now).hits.length := by
  obtain ⟨hend, hcount⟩ := h.recorded hfree hwindow
  rw [hcount, Limits.refuses, Bool.or_eq_true, decide_eq_true_eq, decide_eq_true_eq]
  show now < settings.limits.blockEnd history ∨ settings.limit ≤ _ ↔ _
  constructor
  · rintro (hactive | hlimit)
    · omega
    · exact Int.lt_add_one_of_le hlimit
  · exact fun hlimit => .inr (Int.lt_add_one_iff.mp hlimit)

section

variable (h : Tracks settings history now bucket)
  (hwindow : ∀ hit ∈ bucket.hits, now - settings.ttl < hit.score)

include h hwindow

omit httl hblock in
theorem record_scores : ∀ hit ∈ (Settings.record bucket now).hits, hit.score ≤ now := by
  rw [record_hits h hwindow]
  intro hit hmem
  rcases List.mem_append.mp hmem with hmem | hmem
  · exact h.scores hit hmem
  · rw [List.mem_singleton.mp hmem]

omit httl hblock in
theorem record_members : ∀ hit ∈ (Settings.record bucket now).hits,
    ∃ sequence ≤ (Settings.record bucket now).sequence,
      hit.member = memberText hit.score sequence := by
  rw [record_hits h hwindow]
  intro hit hmem
  rcases List.mem_append.mp hmem with hmem | hmem
  · obtain ⟨sequence, hle, hmember⟩ := h.members hit hmem (hwindow hit hmem)
    exact ⟨sequence, hle.trans (Int.le_add_one le_rfl), hmember⟩
  · rw [List.mem_singleton.mp hmem]
    exact ⟨_, le_rfl, rfl⟩

omit httl in
/-- A call over the limit begins a block. -/
theorem Tracks.blocked (hend : settings.limits.blockEnd history ≤ now) :
    Tracks settings (history ++ [⟨now, true⟩]) now (settings.expire
      { Settings.record bucket now with blockUntil := now + settings.blockDuration } now) := by
  have hbegins : settings.limits.blockEnd (history ++ [⟨now, true⟩]) =
      now + settings.blockDuration := by
    rw [Limits.blockEnd_concat, if_pos ⟨rfl, hend⟩]
    rfl
  have htimes : ∀ o ∈ history ++ [⟨now, true⟩], o.time ≤ now := by
    intro o ho
    rcases List.mem_append.mp ho with ho | ho
    · exact h.times o ho
    · rw [List.mem_singleton.mp ho]
  refine ⟨h.clock, htimes, record_scores h hwindow, fun hit hmem _ => record_members h hwindow hit hmem,
    .inr ⟨hbegins.symm, fun o ho _ => ?_⟩, fun time _ htime => ?_⟩
  · rw [hbegins]
    have := htimes o ho
    omega
  · -- until the block ends the window ends before the block began
    rw [hbegins] at htime
    have hafter : now ≤ time := by omega
    rw [admittedAfter_eq_zero fun o ho _ => (htimes o ho).trans hafter]
    exact hitsAfter_eq_zero fun hit hmem => (record_scores h hwindow hit hmem).trans hafter

omit httl hblock in
/-- A call below the limit is recorded. -/
theorem Tracks.accepted (hfree : bucket.blockUntil = 0)
    (hend : settings.limits.blockEnd history ≤ now) :
    Tracks settings (history ++ [⟨now, false⟩]) now
      (settings.expire (Settings.record bucket now) now) := by
  have hsame : settings.limits.blockEnd (history ++ [⟨now, false⟩]) =
      settings.limits.blockEnd history := by
    rw [Limits.blockEnd_concat, if_neg]
    rintro ⟨hrefused, -⟩
    cases hrefused
  refine ⟨h.clock, fun o ho => ?_, record_scores h hwindow,
    fun hit hmem _ => record_members h hwindow hit hmem, .inl ⟨hfree, by rw [hsame]; exact hend⟩,
    fun time hle htime => ?_⟩
  · rcases List.mem_append.mp ho with ho | ho
    · exact h.times o ho
    · rw [List.mem_singleton.mp ho]
  · rw [hsame] at htime
    show hitsAfter (Settings.record bucket now).hits time = _
    rw [record_hits h hwindow, hitsAfter, List.countP_append, List.countP_singleton,
      Limits.admittedAfter_concat, ← h.admitted time hle htime]
    simp [hitsAfter]

end

/-- The script answers as the limiter. -/
theorem Tracks.incrementScript (h : Tracks settings history now bucket) :
    Answers settings history now
      (parseRecord (settings.incrementScript bucket now).1, (settings.incrementScript bucket now).2) := by
  obtain ⟨hpruned, hfree⟩ := h.prune httl hblock
  have hwindow : ∀ hit ∈ (settings.prune bucket now).hits, now - settings.ttl < hit.score :=
    fun hit => mem_prune_hits
  unfold Settings.incrementScript
  dsimp only
  split_ifs with hactive hover
  · obtain ⟨hrefuses, htracks⟩ := hpruned.refused hactive
    rw [parseRecord_reply (Int.natCast_nonneg _) (timeToExpire_nonneg _ _) (by decide)
      (secondsRemaining_nonneg _)]
    exact ⟨rfl, hrefuses.symm, htracks, kept_expire⟩
  · have hnone := hfree.resolve_right hactive
    have hrefuses := (hpruned.refuses_iff hnone hwindow).mpr hover
    rw [parseRecord_reply (Int.natCast_nonneg _) (timeToExpire_nonneg _ _) (by decide)
      (secondsRemaining_nonneg _)]
    exact ⟨rfl, hrefuses.symm, hpruned.blocked hblock hwindow (hpruned.recorded hnone hwindow).1,
      kept_expire⟩
  · have hnone := hfree.resolve_right hactive
    have haccepts : settings.limits.refuses history now = false := by
      rw [← Bool.not_eq_true, hpruned.refuses_iff hnone hwindow]
      exact hover
    rw [parseRecord_reply (Int.natCast_nonneg _) (timeToExpire_nonneg _ _) (by decide) (by decide)]
    exact ⟨rfl, haccepts.symm, hpruned.accepted hwindow hnone (hpruned.recorded hnone hwindow).1,
      kept_expire⟩

/-- The calls of a run are answered as the limiter answers. -/
theorem follows_trace (h : Tracks settings history last bucket) (hkept : Kept settings last bucket)
    (hfollows : settings.limits.Follows history) {calls : List Call}
    (hcalls : ∀ call ∈ calls, last ≤ call.time.now)
    (hordered : calls.Pairwise fun call next => call.time.now ≤ next.time.now) :
    settings.limits.Follows (history ++
      (trace settings.incrementShared bucket calls).map fun t => ⟨t.request.time.now, isBlocked t.answer⟩) ∧
    ∀ t ∈ trace settings.incrementShared bucket calls, t.answer.isSome := by
  induction calls generalizing history last bucket with
  | nil => exact ⟨by simpa [trace] using hfollows, by simp [trace]⟩
  | cons call calls ih =>
      rw [List.pairwise_cons] at hordered
      have hdropped := h.drop httl hblock hkept (hcalls call List.mem_cons_self)
      have hstep : Answers settings history call.time.now (settings.incrementShared bucket call) :=
        hdropped.incrementScript httl hblock
      have hnext := hfollows.concat (o := ⟨call.time.now, _⟩) hdropped.times hstep.answer
      obtain ⟨hrest, hsome⟩ := ih hstep.tracks hstep.kept hnext hordered.1 hordered.2
      rw [List.append_assoc] at hrest
      refine ⟨hrest, fun t ht => ?_⟩
      rcases List.mem_cons.mp ht with rfl | ht
      · exact hstep.some
      · exact hsome t ht

end

/-! ## The window over runs -/

/-- Microseconds since 1970. -/
def ServerTime.total (time : ServerTime) : Int := time.seconds * 1000000 + time.microseconds

theorem ServerTime.now_mono {time other : ServerTime} (h : time.total ≤ other.total) :
    time.now ≤ other.now := by
  have := time.lt
  have := other.lt
  unfold total at h
  unfold now
  omega

/-- The answers of a run of calls that begins without keys. -/
def answers (ttl limit blockDuration : Option ℚ) (calls : List Call) :
    List (Transition Bucket Call (Option StorageRecord)) :=
  trace (increment ttl limit blockDuration) Bucket.empty calls

/-- The times of the calls, in milliseconds, and whether they are blocked. -/
def outcomes (ttl limit blockDuration : Option ℚ) (calls : List Call) : List Outcome :=
  (answers ttl limit blockDuration calls).map fun t => ⟨t.request.time.now, isBlocked t.answer⟩

/-- A window of the length `ttl` holds at most `limit` admitted calls; a call that is blocked while no
block is active begins one of `blockDuration`; and a call while no block is active with fewer than
`limit` admitted calls in the `ttl` before is admitted. -/
structure SlidingWindow (limits : Limits) (outcomes : List Outcome) : Prop where
  bounded : ∀ start, Limits.admittedWithin outcomes start (start + limits.window) ≤ limits.limit
  blocks : ∀ earlier o later, outcomes = earlier ++ o :: later → limits.blockEnd earlier ≤ o.time →
    o.refused → ∀ p ∈ later, p.time < o.time + limits.block → p.refused
  admits : ∀ earlier o later, outcomes = earlier ++ o :: later → limits.blockEnd earlier ≤ o.time →
    Limits.admittedAfter earlier (o.time - limits.window) < limits.limit → o.refused = false

section

variable {ttl limit blockDuration : Int} (httl : 1 ≤ ttl) (hlimit : 1 ≤ limit)
  (hblock : ttl ≤ blockDuration) {calls : List Call}
  (hordered : calls.Pairwise fun call next => call.time.total ≤ next.time.total)

include httl hlimit hblock hordered

/-- Every call of a run gets a record, and the answer of the limiter. -/
theorem follows_outcomes :
    (∀ t ∈ answers (some ttl) (some limit) (some blockDuration) calls, t.answer.isSome) ∧
      Limits.Follows ⟨ttl, limit, blockDuration⟩
        (outcomes (some ttl) (some limit) (some blockDuration) calls) := by
  have hincrement : increment (some (ttl : ℚ)) (some (limit : ℚ)) (some (blockDuration : ℚ)) =
      Settings.incrementShared ⟨ttl, limit, blockDuration⟩ := by
    funext bucket call
    rw [increment, positiveInteger_of_pos httl, positiveInteger_of_pos hlimit,
      positiveInteger_of_pos (httl.trans hblock)]
  have hnow : ∀ call ∈ calls, 0 ≤ call.time.now := by
    intro call _
    unfold ServerTime.now
    omega
  have hwindow : 1 ≤ (Settings.mk ttl limit blockDuration).ttl := httl
  obtain ⟨hfollows, hsome⟩ := follows_trace hwindow hblock (tracks_empty le_rfl)
    ⟨.inl rfl, .inl ⟨rfl, rfl⟩⟩ Limits.follows_nil hnow (hordered.imp ServerTime.now_mono)
  rw [List.nil_append, ← hincrement] at hfollows
  rw [← hincrement] at hsome
  exact ⟨hsome, hfollows⟩

/-- In real time the limit holds over one millisecond less. -/
theorem bounded_microseconds (start : Int) :
    (answers (some ttl) (some limit) (some blockDuration) calls).countP (fun t =>
      !isBlocked t.answer && (decide (start ≤ t.request.time.total) &&
        decide (t.request.time.total < start + 1000 * (ttl - 1)))) ≤ limit := by
  obtain ⟨-, hfollows⟩ := follows_outcomes httl hlimit hblock hordered
  have hbounded := hfollows.bounded (zero_le_one.trans hlimit) (start / 1000)
  refine le_trans ?_ hbounded
  rw [Limits.admittedWithin, outcomes, List.countP_map]
  refine Int.ofNat_le.mpr (List.countP_mono_left fun t _ hwithin => ?_)
  simp only [Function.comp_apply, Bool.and_eq_true, Bool.not_eq_true', decide_eq_true_eq] at hwithin ⊢
  obtain ⟨hadmitted, hstart, hstop⟩ := hwithin
  have := t.request.time.lt
  unfold ServerTime.total at hstart hstop
  unfold ServerTime.now
  exact ⟨hadmitted, by omega, by omega⟩

/-- Every call of a run gets a record, and they slide a window. -/
theorem slidingWindow_outcomes :
    (∀ t ∈ answers (some ttl) (some limit) (some blockDuration) calls, t.answer.isSome) ∧
      SlidingWindow ⟨ttl, limit, blockDuration⟩
        (outcomes (some ttl) (some limit) (some blockDuration) calls) := by
  obtain ⟨hsome, hfollows⟩ := follows_outcomes httl hlimit hblock hordered
  have hpos : 0 ≤ blockDuration := by omega
  refine ⟨hsome, hfollows.bounded (zero_le_one.trans hlimit), ?_, ?_⟩
  · intro earlier o later heq hfree hrefused p hp
    exact hfollows.blocks hpos heq hrefused hfree hp
  · intro earlier o later heq hfree
    exact hfollows.admits heq hfree

end

namespace Sample

/-- A call at a time, with all keys that may be dropped gone. -/
def call (seconds microseconds : Nat) (h : microseconds < 1000000) : Call :=
  ⟨⟨seconds, microseconds, h⟩, true, true⟩

/-- The limiter of identifiers: five calls in fifteen minutes. -/
theorem slidingWindow_authIdentifier :
    (∀ t ∈ answers (some (900000 : Int)) (some (5 : Int)) (some (900000 : Int))
        [call 100 0 (by decide), call 100 7 (by decide), call 990 5000 (by decide)],
      t.answer.isSome) ∧
    SlidingWindow ⟨900000, 5, 900000⟩ (outcomes (some (900000 : Int)) (some (5 : Int))
      (some (900000 : Int)) [call 100 0 (by decide), call 100 7 (by decide),
        call 990 5000 (by decide)]) :=
  slidingWindow_outcomes (by decide) (by decide) (by decide) (by decide)

/-- Two calls less than a second apart, one at the end of a millisecond and one at the beginning of
another, are both admitted where one call is in a second. -/
theorem not_bounded_microseconds :
    [call 0 999 (by decide), call 1 0 (by decide)].Pairwise
      (fun call next => call.time.total ≤ next.time.total) ∧
    ¬∀ start : Int, (answers (some (1000 : Int)) (some (1 : Int)) (some (1000 : Int))
      [call 0 999 (by decide), call 1 0 (by decide)]).countP (fun t => !isBlocked t.answer &&
        (decide (start ≤ t.request.time.total) &&
          decide (t.request.time.total < start + 1000 * 1000))) ≤ 1 := by
  refine ⟨by decide, fun h => ?_⟩
  exact absurd (h 999) (by decide +kernel)

end Sample

end LunchLineup.Throttling
