import Mathlib.Algebra.Field.Rat
import Mathlib.Algebra.Order.Ring.Rat
import TurbocableServer.Foundations.SignificandRounding
import TurbocableServer.Foundations.Table
import TurbocableServer.Foundations.TokenBucket

/-!
# Per-stream rate limiter

The token buckets of `fanout/mod.rs`, with rationals for `f64` and for the
seconds of the clock.  Rates and bursts are rounded to `f64` when they are
stored; the arithmetic of a bucket is exact.  A bucket is made on the first
message of its stream; the clock is read once when it is made and once on every
check.
-/

namespace TurbocableServer.Fanout

open Foundations Foundations.TokenBucket

/-! ## Buckets -/

structure BucketState where
  tokens : ℚ
  lastRefill : ℚ
  rps : ℚ
  burst : ℚ

namespace BucketState

/-- A bucket starts full so the first burst can pass immediately. -/
def new (rps burst now : ℚ) : BucketState where
  tokens := burst
  lastRefill := now
  rps := rps
  burst := burst

/-- `duration_since`, which is zero for an earlier time. -/
def elapsed (state : BucketState) (now : ℚ) : ℚ :=
  max (now - state.lastRefill) 0

/-- The tokens after the refill, capped at burst. -/
def refilled (state : BucketState) (now : ℚ) : ℚ :=
  min (state.tokens + state.elapsed now * state.rps) state.burst

/-- Refills and tries to consume one token. -/
def tryConsume (state : BucketState) (now : ℚ) : Bool × BucketState :=
  if 1 ≤ state.refilled now then
    (true,
      { state with
        lastRefill := now
        tokens := state.refilled now - 1 })
  else
    (false,
      { state with
        lastRefill := now
        tokens := state.refilled now })

/-- `tokens as i64`: towards zero, and saturating. -/
def tokenCount (state : BucketState) : Int :=
  max (-2 ^ 63) (min (state.tokens.num.tdiv state.tokens.den) (2 ^ 63 - 1))

end BucketState

/-! ## The limiter -/

/-- The buckets, the defaults, and the overrides by stream. -/
structure StreamRateLimiter where
  buckets : Table String BucketState
  defaultRps : ℚ
  defaultBurst : ℚ
  overrides : List (String × ℚ × ℚ)

/-- A burst of zero stands for twice the rate, at least one.  The product is
one of `u64`. -/
def effectiveBurst (rps burst : Nat) : Nat :=
  if burst = 0 then max (rps * 2 % 2 ^ 64) 1 else burst

/-- `as f64` of an integer. -/
def asF64 (value : Nat) : ℚ :=
  roundToBits 53 value

/-- A call of `check`: the stream, and the readings of the clock at which a
bucket would be made and at which it is asked. -/
structure CheckCall where
  stream : String
  opened : ℚ
  now : ℚ

/-- A call with its answer: the verdict and the gauge of tokens. -/
structure Checked where
  call : CheckCall
  allowed : Bool
  tokens : Int

namespace StreamRateLimiter

def new (defaultRps defaultBurst : Nat)
    (overrides : List (String × Nat × Nat)) : StreamRateLimiter where
  buckets := ∅
  defaultRps := asF64 defaultRps
  defaultBurst := asF64 (effectiveBurst defaultRps defaultBurst)
  overrides :=
    overrides.map (fun (name, rps, burst) =>
      (name, asF64 rps, asF64 (effectiveBurst rps burst)))

/-- The stored rate and burst of a stream. -/
def limits (limiter : StreamRateLimiter) (stream : String) : ℚ × ℚ :=
  (limiter.overrides.lookup stream).getD
    (limiter.defaultRps, limiter.defaultBurst)

/-- Rate limiting is fully disabled. -/
def isDisabled (limiter : StreamRateLimiter) : Bool :=
  limiter.defaultRps = 0 &&
    !limiter.overrides.any (fun (_, rps, _) => 0 < rps)

/-- The bucket of the stream, made if it is missing. -/
def bucketFor (limiter : StreamRateLimiter) (stream : String) (opened : ℚ) :
    BucketState :=
  (limiter.buckets.lookup stream).getD
    (.new (limiter.limits stream).1 (limiter.limits stream).2 opened)

/-- Checks whether a message on the stream should be forwarded. -/
def check (limiter : StreamRateLimiter) (call : CheckCall) :
    Checked × StreamRateLimiter :=
  if (limiter.limits call.stream).1 = 0 then
    (⟨call, true, 2 ^ 63 - 1⟩, limiter)
  else
    let (allow, state) :=
      (limiter.bucketFor call.stream call.opened).tryConsume call.now
    (⟨call, allow, state.tokenCount⟩,
      { limiter with buckets := limiter.buckets.insert call.stream state })

/-- The answers to calls. -/
def trace (limiter : StreamRateLimiter) : List CheckCall → List Checked
  | [] => []
  | call :: later =>
      (limiter.check call).1 :: trace (limiter.check call).2 later

/-- The limiter after calls. -/
def after (limiter : StreamRateLimiter) (calls : List CheckCall) :
    StreamRateLimiter :=
  calls.foldl (fun current call => (current.check call).2) limiter

/-! ## Stored limits -/

theorem one_le_effectiveBurst (rps burst : Nat) :
    1 ≤ effectiveBurst rps burst := by
  unfold effectiveBurst
  split <;> omega

theorem asF64_nonneg (value : Nat) : 0 ≤ asF64 value :=
  Nat.cast_nonneg _

theorem one_le_asF64 {value : Nat} (positive : 1 ≤ value) :
    1 ≤ asF64 value := by
  have kept : 1 ≤ roundToBits 53 value :=
    roundToBits_pos (Nat.succ_pos 52) positive
  rw [asF64]
  exact_mod_cast kept

/-- The limits of a stream are the defaults or those of an override. -/
theorem limits_cases (limiter : StreamRateLimiter) (stream : String) :
    limiter.limits stream = (limiter.defaultRps, limiter.defaultBurst) ∨
      (stream, limiter.limits stream) ∈ limiter.overrides := by
  rw [limits]
  cases found : limiter.overrides.lookup stream with
  | none => exact Or.inl rfl
  | some pair =>
      right
      obtain ⟨before, after, isSplit, -⟩ := List.lookup_eq_some_iff.mp found
      rw [isSplit, Option.getD_some]
      simp

/-- A new limiter stores no negative rate and room for a message at least. -/
theorem limits_new (defaultRps defaultBurst : Nat)
    (overrides : List (String × Nat × Nat)) (stream : String) :
    0 ≤ ((new defaultRps defaultBurst overrides).limits stream).1 ∧
      1 ≤ ((new defaultRps defaultBurst overrides).limits stream).2 := by
  have bounds (rps burst : Nat) :
      0 ≤ asF64 rps ∧ 1 ≤ asF64 (effectiveBurst rps burst) :=
    ⟨asF64_nonneg rps, one_le_asF64 (one_le_effectiveBurst rps burst)⟩
  rcases limits_cases (new defaultRps defaultBurst overrides) stream with
    isDefault | isOverride
  · rw [isDefault]
    exact bounds defaultRps defaultBurst
  · obtain ⟨⟨name, rps, burst⟩, -, isEntry⟩ := List.mem_map.mp isOverride
    rw [← (Prod.mk.inj isEntry).2]
    exact bounds rps burst

/-- The fast path of the callers: a disabled limiter lets everything through and
keeps no bucket. -/
theorem check_new_of_isDisabled (defaultRps defaultBurst : Nat)
    (overrides : List (String × Nat × Nat)) (call : CheckCall)
    (disabled : (new defaultRps defaultBurst overrides).isDisabled = true) :
    (new defaultRps defaultBurst overrides).check call =
      (⟨call, true, 2 ^ 63 - 1⟩, new defaultRps defaultBurst overrides) := by
  rw [isDisabled, Bool.and_eq_true, Bool.not_eq_true', List.any_eq_false,
    decide_eq_true_iff] at disabled
  have unlimited :
      ((new defaultRps defaultBurst overrides).limits call.stream).1 = 0 := by
    rcases limits_cases (new defaultRps defaultBurst overrides) call.stream with
      isDefault | isOverride
    · rw [isDefault]
      exact disabled.1
    · have notPositive := disabled.2 _ isOverride
      have notNegative := (limits_new defaultRps defaultBurst overrides
        call.stream).1
      exact le_antisymm (not_lt.mp (by simpa using notPositive)) notNegative
  rw [check, if_pos unlimited]

/-! ## One stream at a time -/

variable {limiter other : StreamRateLimiter} {stream : String}
variable {call : CheckCall}

@[simp]
theorem check_call : (limiter.check call).1.call = call := by
  unfold check
  split <;> rfl

@[simp]
theorem limits_check (tested : String) :
    (limiter.check call).2.limits tested = limiter.limits tested := by
  unfold check
  split <;> rfl

theorem lookup_check_of_ne (different : call.stream ≠ stream) :
    (limiter.check call).2.buckets.lookup stream =
      limiter.buckets.lookup stream := by
  unfold check
  split
  · rfl
  · exact Finmap.lookup_insert_of_ne _ different.symm

/-- Every call is answered, in order. -/
theorem trace_map_call (calls : List CheckCall)
    (limiter : StreamRateLimiter) :
    (limiter.trace calls).map Checked.call = calls := by
  induction calls generalizing limiter with
  | nil => rfl
  | cons call later ih =>
      rw [trace, List.map_cons, check_call, ih]

/-- The limiters treat the stream alike. -/
structure SameFor (stream : String) (limiter other : StreamRateLimiter) :
    Prop where
  limits_eq : limiter.limits stream = other.limits stream
  lookup_eq : limiter.buckets.lookup stream = other.buckets.lookup stream

/-- A check of the stream reads and writes nothing else. -/
theorem SameFor.check (same : SameFor call.stream limiter other) :
    (limiter.check call).1 = (other.check call).1 ∧
      SameFor call.stream (limiter.check call).2 (other.check call).2 := by
  have sameBucket : limiter.bucketFor call.stream call.opened =
      other.bucketFor call.stream call.opened := by
    rw [bucketFor, bucketFor, same.lookup_eq, same.limits_eq]
  refine ⟨?_, ⟨?_, ?_⟩⟩
  · simp only [StreamRateLimiter.check, same.limits_eq, sameBucket]
    split <;> rfl
  · rw [limits_check, limits_check, same.limits_eq]
  · simp only [StreamRateLimiter.check, same.limits_eq, sameBucket]
    split
    · exact same.lookup_eq
    · simp

/-- The calls on other streams can be left out. -/
theorem trace_filter (calls : List CheckCall)
    (same : SameFor stream limiter other) :
    (limiter.trace calls).filter
        (fun checked => checked.call.stream = stream) =
      other.trace (calls.filter (fun call => call.stream = stream)) := by
  induction calls generalizing limiter other with
  | nil => rfl
  | cons call later ih =>
      by_cases here : call.stream = stream
      · subst here
        obtain ⟨sameAnswer, sameLater⟩ := same.check
        have isHere : decide ((limiter.check call).1.call.stream =
            call.stream) = true := by
          simp
        rw [trace, List.filter_cons, if_pos isHere, ih sameLater]
        simp [trace, sameAnswer]
      · have sameLater : SameFor stream (limiter.check call).2 other :=
          { limits_eq := (limits_check stream).trans same.limits_eq
            lookup_eq := (lookup_check_of_ne here).trans same.lookup_eq }
        rw [trace, List.filter_cons_of_neg (by simpa using here),
          List.filter_cons_of_neg (by simpa using here),
          ih sameLater]

/-! ## The bucket and its level -/

variable {rps burst : ℚ}

/-- The bucket of the stream after arrivals of which the newest comes first. -/
def Tracks (stream : String) (rps burst : ℚ) (limiter : StreamRateLimiter) :
    List (Arrival ℚ) → Prop
  | [] => limiter.buckets.lookup stream = none
  | newest :: older =>
      limiter.buckets.lookup stream =
        some
          { tokens :=
              level rps burst older newest.time -
                (if newest.allowed then 1 else 0)
            lastRefill := newest.time
            rps := rps
            burst := burst }

/-- A refill brings the bucket to the level, whether it has just been made or
not. -/
theorem refilled_bucketFor {history : List (Arrival ℚ)}
    (stored : limiter.limits stream = (rps, burst)) (positive : 0 < rps)
    (tracks : limiter.Tracks stream rps burst history)
    (opened : ℚ) {now : ℚ}
    (ordered : ∀ newest ∈ history.head?, newest.time ≤ now) :
    (limiter.bucketFor stream opened).refilled now =
      level rps burst history now := by
  cases history with
  | nil =>
      rw [bucketFor, show limiter.buckets.lookup stream = none from tracks,
        stored]
      have nonnegative : 0 ≤ (BucketState.new rps burst opened).elapsed now :=
        le_max_right _ _
      have more : burst ≤
          burst + (BucketState.new rps burst opened).elapsed now * rps := by
        linarith [mul_nonneg nonnegative positive.le]
      exact min_eq_right more
  | cons newest older =>
      have since : max (now - newest.time) 0 = now - newest.time :=
        max_eq_left (sub_nonneg.mpr (ordered newest rfl))
      rw [bucketFor, show limiter.buckets.lookup stream = some _ from tracks]
      simp only [Option.getD_some, BucketState.refilled, BucketState.elapsed,
        since, level]

theorem bucketFor_limits {history : List (Arrival ℚ)}
    (stored : limiter.limits stream = (rps, burst))
    (tracks : limiter.Tracks stream rps burst history) (opened : ℚ) :
    (limiter.bucketFor stream opened).rps = rps ∧
      (limiter.bucketFor stream opened).burst = burst := by
  cases history with
  | nil =>
      rw [bucketFor, show limiter.buckets.lookup stream = none from tracks,
        stored]
      exact ⟨rfl, rfl⟩
  | cons newest older =>
      rw [bucketFor, show limiter.buckets.lookup stream = some _ from tracks]
      exact ⟨rfl, rfl⟩

/-- A call as an arrival with its verdict. -/
def arrivalOf (checked : Checked) : Arrival ℚ where
  time := checked.call.now
  allowed := checked.allowed

/-- A check decides by the level, and the bucket keeps track. -/
theorem Tracks.check {history : List (Arrival ℚ)}
    (stored : limiter.limits call.stream = (rps, burst)) (positive : 0 < rps)
    (tracks : limiter.Tracks call.stream rps burst history)
    (ordered : ∀ newest ∈ history.head?, newest.time ≤ call.now) :
    ((limiter.check call).1.allowed = true ↔
        1 ≤ level rps burst history call.now) ∧
      (limiter.check call).2.Tracks call.stream rps burst
        (arrivalOf (limiter.check call).1 :: history) := by
  have limited : ¬ (limiter.limits call.stream).1 = 0 := by
    rw [stored]
    exact positive.ne'
  have refilled :=
    refilled_bucketFor stored positive tracks call.opened ordered
  obtain ⟨isRps, isBurst⟩ := bucketFor_limits stored tracks call.opened
  simp only [StreamRateLimiter.check, if_neg limited, Tracks, arrivalOf,
    Finmap.lookup_insert]
  unfold BucketState.tryConsume
  rw [refilled]
  split
  · rename_i enough
    simp [enough, isRps, isBurst]
  · rename_i short
    simp [short, isRps, isBurst]

/-- The verdicts of calls on one stream at non-decreasing times. -/
theorem meteredFrom_trace (calls : List CheckCall) :
    ∀ (limiter : StreamRateLimiter) (history : List (Arrival ℚ)),
      limiter.limits stream = (rps, burst) → 0 < rps →
      limiter.Tracks stream rps burst history →
      (∀ call ∈ calls, call.stream = stream) →
      (∀ newest ∈ history.head?, ∀ call ∈ calls, newest.time ≤ call.now) →
      calls.Pairwise (fun early late => early.now ≤ late.now) →
      MeteredFrom rps burst history
        ((limiter.trace calls).map arrivalOf) := by
  induction calls with
  | nil =>
      intro limiter history _ _ _ _ _ _
      exact trivial
  | cons call later ih =>
      intro limiter history stored positive tracks onStream ordered sorted
      have here : call.stream = stream := onStream call List.mem_cons_self
      subst here
      obtain ⟨verdict, tracked⟩ := tracks.check stored positive
        (fun newest isNewest =>
          ordered newest isNewest call List.mem_cons_self)
      have isTime : (arrivalOf (limiter.check call).1).time = call.now := by
        rw [arrivalOf, check_call]
      refine ⟨?_, ?_⟩
      · rw [isTime]
        exact verdict
      · apply ih _ _ _ positive tracked
        · intro other member
          exact onStream other (List.mem_cons_of_mem call member)
        · intro newest isNewest other member
          rw [← Option.some.inj isNewest, isTime]
          exact (List.pairwise_cons.mp sorted).1 other member
        · exact (List.pairwise_cons.mp sorted).2
        · rw [limits_check, stored]

/-! ## Bounds -/

/-- The bucket has the stored limits and between no token and a full burst. -/
structure Bounded (rps burst : ℚ) (bucket : BucketState) : Prop where
  rps_eq : bucket.rps = rps
  burst_eq : bucket.burst = burst
  tokens_nonneg : 0 ≤ bucket.tokens
  tokens_le : bucket.tokens ≤ burst

theorem Bounded.tryConsume {bucket : BucketState}
    (bounded : Bounded rps burst bucket)
    (rpsPositive : 0 < rps) (burstPositive : 1 ≤ burst) (now : ℚ) :
    Bounded rps burst (bucket.tryConsume now).2 := by
  have elapsed : 0 ≤ bucket.elapsed now := le_max_right _ _
  have added : 0 ≤ bucket.elapsed now * bucket.rps := by
    rw [bounded.rps_eq]
    exact mul_nonneg elapsed rpsPositive.le
  have filled : 0 ≤ bucket.refilled now := by
    apply le_min
    · linarith [bounded.tokens_nonneg]
    · rw [bounded.burst_eq]
      linarith
  have capped : bucket.refilled now ≤ burst := by
    rw [← bounded.burst_eq]
    exact min_le_right _ _
  unfold BucketState.tryConsume
  split
  · rename_i enough
    exact
      { rps_eq := bounded.rps_eq
        burst_eq := bounded.burst_eq
        tokens_nonneg := sub_nonneg.mpr enough
        tokens_le := (sub_le_self _ zero_le_one).trans capped }
  · exact
      { rps_eq := bounded.rps_eq
        burst_eq := bounded.burst_eq
        tokens_nonneg := filled
        tokens_le := capped }

theorem bounded_check
    (stored : limiter.limits stream = (rps, burst))
    (rpsPositive : 0 < rps) (burstPositive : 1 ≤ burst)
    (bounded : ∀ bucket, limiter.buckets.lookup stream = some bucket →
      Bounded rps burst bucket) :
    ∀ bucket, (limiter.check call).2.buckets.lookup stream = some bucket →
      Bounded rps burst bucket := by
  intro bucket present
  by_cases here : call.stream = stream
  · subst here
    have limited : ¬ (limiter.limits call.stream).1 = 0 := by
      rw [stored]
      exact rpsPositive.ne'
    simp only [check, if_neg limited, Finmap.lookup_insert,
      Option.some.injEq] at present
    rw [← present]
    have before :
        Bounded rps burst (limiter.bucketFor call.stream call.opened) := by
      rw [bucketFor]
      cases known : limiter.buckets.lookup call.stream with
      | none =>
          rw [Option.getD_none, stored]
          exact ⟨rfl, rfl, zero_le_one.trans burstPositive, le_rfl⟩
      | some bucket => exact bounded bucket known
    exact before.tryConsume rpsPositive burstPositive call.now
  · rw [lookup_check_of_ne here] at present
    exact bounded bucket present

theorem bounded_after (calls : List CheckCall)
    (rpsPositive : 0 < rps) (burstPositive : 1 ≤ burst) :
    ∀ limiter : StreamRateLimiter,
      limiter.limits stream = (rps, burst) →
      (∀ bucket, limiter.buckets.lookup stream = some bucket →
        Bounded rps burst bucket) →
      ∀ bucket, (limiter.after calls).buckets.lookup stream = some bucket →
        Bounded rps burst bucket := by
  induction calls with
  | nil =>
      intro limiter _ bounded
      exact bounded
  | cons call later ih =>
      intro limiter stored bounded
      apply ih (limiter.check call).2
      · rw [limits_check, stored]
      · exact bounded_check stored rpsPositive burstPositive bounded

/-! ## The law of the limiter -/

/-- The calls on the stream, as arrivals with their verdicts. -/
def arrivals (limiter : StreamRateLimiter) (stream : String)
    (calls : List CheckCall) : List (Arrival ℚ) :=
  ((limiter.trace calls).filter
    (fun checked => checked.call.stream = stream)).map arrivalOf

/-- Greedy admission for one stream of a limiter, whatever happens on the
others. -/
structure AdmitsGreedily (limiter : StreamRateLimiter) (stream : String)
    (rps burst : ℚ) (calls : List CheckCall) : Prop where
  /-- A call is allowed exactly if the allowed calls since any call up to it,
  and itself, stay below the line. -/
  greedy : Greedy rps burst (limiter.arrivals stream calls)
  /-- No window lets more than the line through. -/
  window_le :
    ∀ start length, 0 ≤ length →
      (passedIn start length (limiter.arrivals stream calls) : ℚ) ≤
        burst + rps * length
  /-- Conforming traffic is never dropped. -/
  conforming :
    Conforms rps burst (limiter.arrivals stream calls) →
      ∀ checked ∈ limiter.trace calls,
        checked.call.stream = stream → checked.allowed = true
  /-- The answers are those to the calls on this stream alone. -/
  alone :
    (limiter.trace calls).filter
        (fun checked => checked.call.stream = stream) =
      limiter.trace (calls.filter (fun call => call.stream = stream))
  tokens_bounded :
    ∀ bucket, (limiter.after calls).buckets.lookup stream = some bucket →
      0 ≤ bucket.tokens ∧ bucket.tokens ≤ burst

theorem rate_limiter_admits_greedily
    (limiter : StreamRateLimiter) (stream : String) (rps burst : ℚ)
    (stored : limiter.limits stream = (rps, burst))
    (rpsPositive : 0 < rps) (burstPositive : 1 ≤ burst)
    (fresh : limiter.buckets.lookup stream = none)
    (calls : List CheckCall)
    (sorted : calls.Pairwise (fun early late => early.now ≤ late.now)) :
    limiter.AdmitsGreedily stream rps burst calls := by
  have alone :
      (limiter.trace calls).filter
          (fun checked => checked.call.stream = stream) =
        limiter.trace (calls.filter (fun call => call.stream = stream)) :=
    trace_filter calls ⟨rfl, rfl⟩
  have sortedHere := sorted.filter (fun call => call.stream = stream)
  have metered : MeteredFrom rps burst [] (limiter.arrivals stream calls) := by
    rw [arrivals, alone]
    refine meteredFrom_trace _ limiter [] stored rpsPositive fresh ?_
      (by simp) sortedHere
    intro call member
    exact of_decide_eq_true (List.mem_filter.mp member).2
  have greedy := metered.metered.greedy burstPositive
  have sortedArrivals : (limiter.arrivals stream calls).Pairwise
      (fun early late => early.time ≤ late.time) := by
    rw [arrivals, alone, List.pairwise_map]
    rw [← trace_map_call (calls.filter (fun call => call.stream = stream))
      limiter, List.pairwise_map] at sortedHere
    exact sortedHere
  refine
    { greedy := greedy, window_le := ?_, conforming := ?_, alone := alone,
      tokens_bounded := ?_ }
  · intro start length nonnegative
    exact greedy.passedIn_le rpsPositive.le (zero_le_one.trans burstPositive)
      nonnegative
  · intro conforms checked member here
    apply greedy.allowed_of_conforms sortedArrivals conforms
      (arrivalOf checked)
    apply List.mem_map_of_mem
    rw [List.mem_filter]
    exact ⟨member, decide_eq_true here⟩
  · intro bucket present
    have bounded := bounded_after calls rpsPositive burstPositive limiter
      stored (by simp [fresh]) bucket present
    exact ⟨bounded.tokens_nonneg, bounded.tokens_le⟩

/-- A rate of two with a burst of one for alerts, and no limit otherwise. -/
def alertLimiter : StreamRateLimiter :=
  .new 0 0 [("alerts", 2, 1)]

def alertCalls : List CheckCall :=
  [⟨"alerts", 0, 0⟩, ⟨"chat", 1 / 8, 1 / 8⟩, ⟨"alerts", 1 / 4, 1 / 4⟩,
    ⟨"alerts", 1 / 2, 1 / 2⟩]

theorem rate_limiter_admits_greedily_alerts :
    alertLimiter.AdmitsGreedily "alerts" 2 1 alertCalls ∧
      (alertLimiter.trace alertCalls).map Checked.allowed =
        [true, true, false, true] := by
  constructor
  · apply rate_limiter_admits_greedily
    · rfl
    · norm_num
    · norm_num
    · rfl
    · norm_num [alertCalls]
  · decide +kernel

end StreamRateLimiter

end TurbocableServer.Fanout
