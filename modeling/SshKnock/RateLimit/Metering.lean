import SshKnock.Core.Quota
import SshKnock.RateLimit.Isolation

/-!
# Buckets are meters

When the interval is a whole number of seconds, the 32-bit arithmetic of a
bucket is that of a meter over natural numbers: saturation never changes what is
cut off at the capacity anyway.  A bucket is renewed only after two intervals
without a call.
-/

namespace SshKnock

open SshKnock.Sharded

theorem toNat_saturatingAdd (left right : UInt32) :
    (saturatingAdd left right).toNat =
      min (left.toNat + right.toNat) (2 ^ 32 - 1) := by
  apply UInt32.toNat_ofNat_of_lt'
  show min _ _ < 2 ^ 32
  omega

theorem toNat_saturatingMul (left right : UInt32) :
    (saturatingMul left right).toNat =
      min (left.toNat * right.toNat) (2 ^ 32 - 1) := by
  apply UInt32.toNat_ofNat_of_lt'
  show min _ _ < 2 ^ 32
  omega

theorem toNat_saturatingCast (count : ℕ) :
    (saturatingCast count).toNat = min count (2 ^ 32 - 1) := by
  apply UInt32.toNat_ofNat_of_lt'
  show min _ _ < 2 ^ 32
  omega

theorem toNat_min (left right : UInt32) :
    (min left right).toNat = min left.toNat right.toNat := by
  show (if left ≤ right then left else right).toNat = _
  rw [Nat.min_def]
  simp only [UInt32.le_iff_toNat_le]
  split <;> rfl

/-- Saturation is invisible below the capacity. -/
theorem toNat_credited (capacity refill tokens : UInt32) (intervals : ℕ) :
    (min capacity (saturatingAdd tokens
      (saturatingMul refill (saturatingCast intervals)))).toNat =
      min capacity.toNat (tokens.toNat + refill.toNat * intervals) := by
  have hcapacity : capacity.toNat ≤ 2 ^ 32 - 1 :=
    Nat.le_pred_of_lt capacity.toNat_lt
  rw [toNat_min, toNat_saturatingAdd, toNat_saturatingMul, toNat_saturatingCast]
  rcases Nat.eq_zero_or_pos refill.toNat with hzero | hpos
  · rw [hzero, Nat.zero_mul, Nat.zero_mul]
    omega
  by_cases hfew : intervals ≤ 2 ^ 32 - 1
  · rw [Nat.min_eq_left hfew]
    generalize refill.toNat * intervals = added
    omega
  · have hmany : 2 ^ 32 - 1 ≤ refill.toNat * min intervals (2 ^ 32 - 1) := by
      rw [Nat.min_eq_right (Nat.le_of_not_le hfew)]
      exact Nat.le_mul_of_pos_left _ hpos
    have hmore : 2 ^ 32 - 1 ≤ refill.toNat * intervals :=
      (Nat.le_of_not_le hfew).trans (Nat.le_mul_of_pos_left _ hpos)
    omega

def Bucket.meter (bucket : Bucket) : Meter :=
  { tokens := bucket.tokens.toNat, anchor := bucket.lastRefill }

namespace TokenBucketLimiter

variable {K : Type*}

theorem fromSecs_pos {secs : UInt64} (hsecs : secs ≠ 0) :
    0 < Duration.fromSecs secs := by
  have hpos : 0 < secs.toNat := Nat.pos_of_ne_zero fun hzero =>
    hsecs (UInt64.toNat_inj.mp hzero)
  exact Nat.mul_pos hpos (by decide)

/-- What the limiter grants to every key. -/
def quota (capacity refill : UInt32) {secs : UInt64} (hsecs : secs ≠ 0) :
    Quota where
  capacity := capacity.toNat
  refill := refill.toNat
  interval := Duration.fromSecs secs
  interval_pos := fromSecs_pos hsecs

/-- A bucket may be dropped after two intervals, on a clock that gets that
far. -/
def Droppable (secs : UInt64) (meter : Meter) (now : ℕ) : Prop :=
  2 * Duration.fromSecs secs ≤ now - meter.anchor ∧ now ≤ Instant.max

variable {capacity refill : UInt32} {secs : UInt64}

/-- Whole seconds are divided exactly although both counts are truncated. -/
theorem asSecs_div_whole {secs : ℕ} (hsecs : 0 < secs) (elapsed : ℕ) :
    Duration.asSecs elapsed /
        max (Duration.asSecs (secs * Duration.nanosPerSec)) 1 =
      elapsed / (secs * Duration.nanosPerSec) := by
  have hwhole : Duration.asSecs (secs * Duration.nanosPerSec) = secs :=
    Nat.mul_div_cancel _ (by decide)
  have hpos : 1 ≤ secs := hsecs
  rw [hwhole, Nat.max_eq_left hpos, Duration.asSecs, Nat.div_div_eq_div_mul,
    Nat.mul_comm]

theorem asSecs_div_asSecs (elapsed : ℕ) (hsecs : secs ≠ 0) :
    Duration.asSecs elapsed /
        max (Duration.asSecs (Duration.fromSecs secs)) 1 =
      elapsed / Duration.fromSecs secs :=
  asSecs_div_whole (Nat.pos_of_ne_zero fun hzero =>
    hsecs (UInt64.toNat_inj.mp hzero)) elapsed

/-- A refilled bucket is a credited meter. -/
theorem meter_refilled {limiter : TokenBucketLimiter K}
    (hlimits : HasLimits capacity refill (Duration.fromSecs secs) limiter)
    (hsecs : secs ≠ 0) (bucket : Bucket) (now : ℕ) :
    (limiter.refilled bucket now).meter =
      (quota capacity refill hsecs).credit now bucket.meter := by
  obtain ⟨rfl, rfl, hinterval⟩ := hlimits
  rw [refilled, Quota.credit]
  rw [hinterval]
  simp only [Instant.durationSince, asSecs_div_asSecs _ hsecs]
  by_cases hwhole : Duration.fromSecs secs ≤ now - bucket.lastRefill
  · have hmeter : (quota limiter.capacity limiter.refill hsecs).interval ≤
        now - bucket.meter.anchor := hwhole
    rw [if_pos hwhole, if_pos hmeter, Bucket.meter, toNat_credited]
    rfl
  · have hmeter : ¬(quota limiter.capacity limiter.refill hsecs).interval ≤
        now - bucket.meter.anchor := hwhole
    rw [if_neg hwhole, if_neg hmeter]

theorem spend_meter (bucket : Bucket) :
    Quota.spend bucket.meter =
      ((consumed bucket).1, (consumed bucket).2.meter) := by
  rw [Quota.spend, consumed]
  have hzero : bucket.meter.tokens = 0 ↔ bucket.tokens = 0 :=
    UInt32.toNat_inj (b := 0)
  by_cases hempty : bucket.tokens = 0
  · rw [if_pos hempty, if_pos (hzero.mpr hempty)]
  · rw [if_neg hempty, if_neg fun hnone => hempty (hzero.mp hnone)]
    have htokens : (bucket.tokens - 1).toNat = bucket.tokens.toNat - 1 :=
      UInt32.toNat_sub_of_le _ _ (one_le_of_ne_zero hempty)
    rw [Bucket.meter, Bucket.meter, htokens]

/-- A bucket is only dropped after two intervals. -/
theorem droppable_of_age {limiter : TokenBucketLimiter K}
    (hlimits : HasLimits capacity refill (Duration.fromSecs secs) limiter)
    {bucket : Bucket} {now : ℕ}
    (hbucket : bucket.lastRefill ≤ bucket.lastSeen)
    (hnow : now ≤ Instant.max) (haged : limiter.age now (some bucket) = none) :
    Droppable secs bucket.meter now := by
  have hidle : limiter.idleTtl ≤ now - bucket.lastSeen := by
    rw [age, Option.filter_eq_none_iff] at haged
    exact Nat.not_lt.mp (of_decide_eq_false
      (Bool.eq_false_iff.mpr (haged bucket rfl)))
  refine ⟨?_, hnow⟩
  show _ ≤ now - bucket.lastRefill
  rw [idleTtl, Duration.checkedMul] at hidle
  rw [hlimits.interval_eq] at hidle
  split at hidle
  · rw [Option.getD_some] at hidle
    omega
  · have hlong : Instant.max < Duration.max := by decide
    rw [Option.getD_none] at hidle
    omega

/-- A call finds the meter of its bucket. -/
theorem found_current {limiter : TokenBucketLimiter K}
    (hlimits : HasLimits capacity refill (Duration.fromSecs secs) limiter)
    (hsecs : secs ≠ 0) {slot : Option Bucket} {now : ℕ}
    (hslot : ∀ bucket ∈ slot, bucket.lastRefill ≤ bucket.lastSeen)
    (hnow : now ≤ Instant.max) :
    (quota capacity refill hsecs).Found (Droppable secs) now
      (slot.map Bucket.meter) (limiter.current now slot).meter := by
  have hinterval : 0 < limiter.interval := by
    rw [hlimits.interval_eq]
    exact fromSecs_pos hsecs
  have hfresh : (quota capacity refill hsecs).fresh now =
      (⟨limiter.capacity, now, now⟩ : Bucket).meter := by
    rw [hlimits.capacity_eq]
    rfl
  cases haged : limiter.age now slot with
  | none =>
      rw [current_dropped hinterval haged, ← hfresh]
      cases slot with
      | none => exact .opened
      | some bucket =>
          have hdroppable := droppable_of_age hlimits (hslot bucket rfl) hnow
            haged
          exact .renewed _ hdroppable
  | some bucket =>
      obtain ⟨rfl, hkept⟩ := Option.filter_eq_some_iff.mp haged
      rw [current_kept (of_decide_eq_true hkept), meter_refilled hlimits hsecs]
      exact .kept _

theorem lastSeen_refilled (limiter : TokenBucketLimiter K) (bucket : Bucket)
    (now : ℕ) : (limiter.refilled bucket now).lastSeen = bucket.lastSeen := by
  rw [refilled]
  simp only
  split <;> rfl

theorem lastRefill_refilled_le (limiter : TokenBucketLimiter K)
    {bucket : Bucket} {now : ℕ} (hbucket : bucket.lastRefill ≤ now) :
    (limiter.refilled bucket now).lastRefill ≤ now := by
  rw [refilled]
  simp only
  split
  · exact le_rfl
  · exact hbucket

theorem consumed_stamps (bucket : Bucket) :
    (consumed bucket).2.lastRefill = bucket.lastRefill ∧
      (consumed bucket).2.lastSeen = bucket.lastSeen := by
  rw [consumed]
  split <;> exact ⟨rfl, rfl⟩

/-- The last refill is never later than the last call. -/
theorem stamps_current (limiter : TokenBucketLimiter K)
    {slot : Option Bucket} {now : ℕ}
    (hslot : ∀ bucket ∈ slot, bucket.lastRefill ≤ bucket.lastSeen ∧
      bucket.lastSeen ≤ now) :
    (limiter.current now slot).lastRefill ≤ now ∧
      (limiter.current now slot).lastSeen = now := by
  refine ⟨limiter.lastRefill_refilled_le ?_, limiter.lastSeen_refilled _ now⟩
  cases haged : limiter.age now slot with
  | none => exact le_rfl
  | some bucket =>
      obtain ⟨hrefill, hseen⟩ :=
        hslot bucket (Option.filter_eq_some_iff.mp haged).1
      exact hrefill.trans hseen

/-- The answers that one key gets are the history of one meter. -/
theorem history_of_replays [DecidableEq K] (hsecs : secs ≠ 0) {interval : ℕ}
    (hinterval : interval = Duration.fromSecs secs) {slot : Option Bucket}
    {calls : List (LimiterCall K)}
    (hreplays : (machine capacity refill interval).Replays slot calls)
    (hslot : ∀ bucket ∈ slot, bucket.lastRefill ≤ bucket.lastSeen ∧
      ∀ call ∈ calls, bucket.lastSeen ≤ call.time)
    (hcalls : calls.Pairwise fun earlier later => earlier.time ≤ later.time)
    (hclock : ∀ call ∈ calls, call.time ≤ Instant.max) :
    (quota capacity refill hsecs).History (Droppable secs)
      (slot.map Bucket.meter)
      (calls.map fun call => (call.time, call.output)) := by
  induction calls generalizing slot with
  | nil => exact .nil _
  | cons call calls ih =>
      obtain ⟨houtput, hreplays⟩ := hreplays
      obtain ⟨hlater, hrest⟩ := List.pairwise_cons.mp hcalls
      obtain ⟨hnow, hclock⟩ := List.forall_mem_cons.mp hclock
      let limiter : TokenBucketLimiter K := new capacity refill interval
      let bucket := limiter.current call.time slot
      have hstamps := limiter.stamps_current fun found hfound =>
        ⟨(hslot found hfound).1, (hslot found hfound).2 call List.mem_cons_self⟩
      have hlimits : HasLimits capacity refill (Duration.fromSecs secs)
          limiter := ⟨rfl, rfl, hinterval⟩
      have hfound : (quota capacity refill hsecs).Found (Droppable secs)
          call.time (slot.map Bucket.meter) bucket.meter :=
        found_current hlimits hsecs
          (fun found hmem => (hslot found hmem).1) hnow
      have hconsumed := consumed_stamps bucket
      have hnext : ∀ found ∈ some (consumed bucket).2,
          found.lastRefill ≤ found.lastSeen ∧
            ∀ later ∈ calls, found.lastSeen ≤ later.time := by
        rintro _ ⟨⟩
        rw [hconsumed.1, hconsumed.2, hstamps.2]
        exact ⟨hstamps.1, hlater⟩
      have hhistory := ih hreplays hnext hrest hclock
      have hanswer : call.output = (Quota.spend bucket.meter).1 := by
        rw [houtput, spend_meter]
        rfl
      rw [List.map_cons, hanswer]
      apply Quota.History.cons hfound
      rw [spend_meter]
      exact hhistory

/-- The calls for a key in their order. -/
theorem pairwise_callsOf [DecidableEq K] (limiter : TokenBucketLimiter K)
    {calls : List (K × ℕ)} (hcalls : Chronological calls) (key : K) :
    (callsOf key (limiter.trace calls)).Pairwise fun earlier later =>
      earlier.time ≤ later.time := by
  have hmapped := hcalls
  rw [← (machine limiter.capacity limiter.refill
    limiter.interval).map_call_trace limiter calls, Chronological,
    List.pairwise_map] at hmapped
  exact hmapped.filter _

theorem map_call_callsOf [DecidableEq K] (limiter : TokenBucketLimiter K)
    (calls : List (K × ℕ)) (key : K) :
    (callsOf key (limiter.trace calls)).map
        (fun call => (call.input, call.time)) =
      calls.filter fun call => call.1 = key :=
  (machine limiter.capacity limiter.refill limiter.interval).map_call_own
    limiter key calls

/-- What a key is answered in any run is the history of one meter. -/
theorem history_callsOf [DecidableEq K] (capacity refill : UInt32)
    (hsecs : secs ≠ 0) {calls : List (K × ℕ)} (hcalls : Chronological calls)
    (hclock : ∀ call ∈ calls, call.2 ≤ Instant.max) (key : K) :
    (quota capacity refill hsecs).History (Droppable secs) none
      ((callsOf key ((new capacity refill (Duration.fromSecs secs)).trace
        calls)).map fun call => (call.time, call.output)) := by
  generalize hinterval : Duration.fromSecs secs = interval
  let limiter : TokenBucketLimiter K := new capacity refill interval
  let table : Machine (TokenBucketLimiter K) K K Unit Bool (Option Bucket) :=
    machine capacity refill interval
  have hgood : table.Good limiter := HasLimits.new _ _ _
  have hempty : table.age 0 (table.cell limiter key) = table.age 0 none := rfl
  have hcall : ∀ call ∈ callsOf key (limiter.trace calls),
      call.time ≤ Instant.max := by
    intro call hcall
    have hmem := List.mem_map_of_mem (f := fun call : LimiterCall K =>
      (call.input, call.time)) hcall
    rw [map_call_callsOf] at hmem
    exact hclock _ (List.mem_of_mem_filter hmem)
  exact history_of_replays hsecs hinterval.symm
    (table.replays_own 0 key hgood (fun _ _ => Nat.zero_le _) hcalls hempty)
    (fun _ hbucket => by cases hbucket) (limiter.pairwise_callsOf hcalls key)
    hcall

end TokenBucketLimiter

end SshKnock
