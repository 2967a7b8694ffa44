import SshKnock.Core.Sharded
import SshKnock.RateLimit

/-!
# Every key has its own allowance

A call for one key prunes the buckets of all keys.  A bucket that is pruned by
another key's call would also have been pruned by the next call of its own key,
so no key can tell that it shares the limiter.
-/

namespace SshKnock

open SshKnock.Sharded

namespace TokenBucketLimiter

variable {K : Type*}

/-- A bucket is forgotten once it has been idle for too long. -/
def age (limiter : TokenBucketLimiter K) (now : ℕ) (slot : Option Bucket) :
    Option Bucket :=
  slot.filter fun bucket =>
    Instant.durationSince now bucket.lastSeen < limiter.idleTtl

/-- The bucket as a call finds it. -/
def current (limiter : TokenBucketLimiter K) (now : ℕ)
    (slot : Option Bucket) : Bucket :=
  limiter.refilled
    { (limiter.age now slot).getD ⟨limiter.capacity, now, now⟩ with
      lastSeen := now } now

/-- The answer to a call for the slot's key, and the slot after it. -/
def advance (limiter : TokenBucketLimiter K) (now : ℕ)
    (slot : Option Bucket) : Bool × Option Bucket :=
  let (allowed, bucket) := consumed (limiter.current now slot)
  (allowed, some bucket)

theorem age_age (limiter : TokenBucketLimiter K) {early late : ℕ}
    (slot : Option Bucket) (hle : early ≤ late) :
    limiter.age late (limiter.age early slot) = limiter.age late slot := by
  simp only [age]
  rw [Option.filter_filter]
  congr 1
  funext bucket
  rw [Bool.and_eq_right_iff_imp, decide_eq_true_eq, decide_eq_true_eq]
  exact lt_of_le_of_lt (Nat.sub_le_sub_right hle bucket.lastSeen)

theorem advance_age (limiter : TokenBucketLimiter K) (now : ℕ)
    (slot : Option Bucket) :
    limiter.advance now (limiter.age now slot) = limiter.advance now slot := by
  simp only [advance, current]
  rw [age_age limiter slot (Nat.le_refl now)]

theorem current_dropped {limiter : TokenBucketLimiter K}
    (hinterval : 0 < limiter.interval) {slot : Option Bucket} {now : ℕ}
    (haged : limiter.age now slot = none) :
    limiter.current now slot = ⟨limiter.capacity, now, now⟩ := by
  rw [current, haged, Option.getD_none]
  apply if_neg
  rw [Instant.durationSince, Nat.sub_self]
  exact Nat.not_le.mpr hinterval

theorem age_kept {limiter : TokenBucketLimiter K} {bucket : Bucket} {now : ℕ}
    (hkept : now - bucket.lastSeen < limiter.idleTtl) :
    limiter.age now (some bucket) = some bucket :=
  Option.filter_eq_some_iff.mpr ⟨rfl, decide_eq_true hkept⟩

theorem current_kept {limiter : TokenBucketLimiter K} {bucket : Bucket}
    {now : ℕ} (hkept : now - bucket.lastSeen < limiter.idleTtl) :
    limiter.current now (some bucket) =
      limiter.refilled { bucket with lastSeen := now } now := by
  rw [current, age_kept hkept, Option.getD_some]

theorem current_same_instant {limiter : TokenBucketLimiter K}
    (hinterval : 0 < limiter.interval) (tokens : UInt32) (now : ℕ) :
    limiter.current now (some ⟨tokens, now, now⟩) = ⟨tokens, now, now⟩ := by
  rw [current_kept (by simpa using idleTtl_pos hinterval)]
  apply if_neg
  rw [Instant.durationSince, Nat.sub_self]
  exact Nat.not_le.mpr hinterval

/-- The limiter answers by these limits. -/
structure HasLimits (capacity refill : UInt32) (interval : ℕ)
    (limiter : TokenBucketLimiter K) : Prop where
  capacity_eq : limiter.capacity = capacity
  refill_eq : limiter.refill = refill
  interval_eq : limiter.interval = interval

theorem HasLimits.new (capacity refill : UInt32) (interval : ℕ) :
    HasLimits capacity refill interval
      (TokenBucketLimiter.new capacity refill interval :
        TokenBucketLimiter K) :=
  ⟨rfl, rfl, rfl⟩

variable [DecidableEq K] {capacity refill : UInt32} {interval : ℕ}
  {limiter : TokenBucketLimiter K}

omit [DecidableEq K] in
/-- The answer to a key depends on its own slot only. -/
theorem HasLimits.advance_eq (hlimits : HasLimits capacity refill interval limiter)
    (now : ℕ) (slot : Option Bucket) :
    (TokenBucketLimiter.new capacity refill interval :
      TokenBucketLimiter K).advance now slot = limiter.advance now slot := by
  obtain ⟨rfl, rfl, rfl⟩ := hlimits
  rfl

theorem bucketAt_eq (limiter : TokenBucketLimiter K) (key : K) (now : ℕ) :
    limiter.bucketAt key now = limiter.current now (limiter.buckets.get key) := by
  rw [bucketAt, pruneIdle, HashMap.get_retain]
  rfl

theorem get_allow_of_ne (limiter : TokenBucketLimiter K) {key other : K}
    (now : ℕ) (hother : other ≠ key) :
    (limiter.allow key now).2.buckets.get other =
      limiter.age now (limiter.buckets.get other) := by
  have hkept : (limiter.allow key now).2.buckets.get other =
      (limiter.pruneIdle now).buckets.get other :=
    HashMap.get_insert_of_ne _ _ hother
  rw [hkept, pruneIdle, HashMap.get_retain]
  rfl

/-- The limiter as a table of buckets. -/
def machine (capacity refill : UInt32) (interval : ℕ) :
    Machine (TokenBucketLimiter K) K K Unit Bool (Option Bucket) where
  owner := id
  step := allow
  cell limiter key := limiter.buckets.get key
  hint _ _ _ := ()
  advance _ _ := (new capacity refill interval : TokenBucketLimiter K).advance
  age := (new capacity refill interval : TokenBucketLimiter K).age
  Good := HasLimits capacity refill interval
  age_age := age_age _
  advance_age _ _ := advance_age _
  good_step _ _ hlimits := ⟨hlimits.1, hlimits.2, hlimits.3⟩
  output_step key now hlimits := by
    rw [hlimits.advance_eq, allow, bucketAt_eq]
    rfl
  cell_step_owner key now hlimits := by
    rw [hlimits.advance_eq, id, get_allow_self, bucketAt_eq]
    rfl
  cell_step_other key now other hlimits hother := by
    obtain ⟨rfl, rfl, rfl⟩ := hlimits
    exact get_allow_of_ne _ now hother

/-- A call with its time and its answer. -/
abbrev LimiterCall (K : Type*) := Entry K Unit Bool

/-- The answers of the limiter to a run of calls. -/
def trace (limiter : TokenBucketLimiter K) (calls : List (K × ℕ)) :
    List (LimiterCall K) :=
  (machine limiter.capacity limiter.refill limiter.interval).trace limiter calls

/-- The calls of a trace made for one key. -/
def callsOf (key : K) (calls : List (LimiterCall K)) : List (LimiterCall K) :=
  calls.filter fun call => call.input = key

/-- The calls for a key are answered as by a limiter that serves no other
key. -/
theorem keys_isolated (capacity refill : UInt32) (interval : ℕ)
    (calls : List (K × ℕ)) (hcalls : Chronological calls) (key : K) :
    callsOf key ((new capacity refill interval).trace calls) =
      (new capacity refill interval).trace
        (calls.filter fun call => call.1 = key) :=
  (machine capacity refill interval).own_trace 0 key
    (HasLimits.new _ _ _) (HasLimits.new _ _ _) (fun _ _ => Nat.zero_le _)
    hcalls rfl rfl

/-- The first key is pruned by the second exactly when its idle time is
over. -/
def prunedCalls : List (ℕ × ℕ) :=
  [(1, 0), (1, 0), (2, 0), (2, Duration.fromSecs 120),
    (1, Duration.fromSecs 120), (1, Duration.fromSecs 180)]

theorem keys_isolated_pruned :
    callsOf 1 ((new 1 1 (Duration.fromSecs 60)).trace prunedCalls) =
      (new 1 1 (Duration.fromSecs 60)).trace
        (prunedCalls.filter fun call => call.1 = 1) :=
  keys_isolated 1 1 (Duration.fromSecs 60) prunedCalls (by decide) 1

end TokenBucketLimiter

end SshKnock
