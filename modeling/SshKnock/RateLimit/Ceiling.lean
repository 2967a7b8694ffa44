import SshKnock.RateLimit.Allowance

/-!
# What no key can exceed

A bucket that is dropped and opened again gives its burst away once more, but
only after two intervals without a call.  So every interval is worth no more
than a refill or half a burst, whichever is larger.
-/

namespace SshKnock

open SshKnock.Sharded

namespace TokenBucketLimiter

variable {K : Type*} [DecidableEq K]

/-- The most that a key is granted within so much time. -/
def ceiling (capacity refill : UInt32) (interval elapsed : ℕ) : ℕ :=
  capacity.toNat +
    max refill.toNat ((capacity.toNat + 1) / 2) * (elapsed / interval)

/-- What the meter of a key has granted is what the limiter has. -/
theorem grantedUntil_eq (limiter : TokenBucketLimiter K) (key : K)
    (calls : List (K × ℕ)) (finish : ℕ) :
    limiter.grantedUntil key calls finish = Quota.granted finish
      ((callsOf key (limiter.trace calls)).map
        fun call => (call.time, call.output)) := by
  rw [grantedUntil, Quota.granted, List.countP_map]
  rfl

theorem ceiling_mono (capacity refill : UInt32) (interval : ℕ)
    {shorter longer : ℕ} (hle : shorter ≤ longer) :
    ceiling capacity refill interval shorter ≤
      ceiling capacity refill interval longer :=
  Nat.add_le_add_left
    (Nat.mul_le_mul_left _ (Nat.div_le_div_right hle)) _

/-- Whatever the limits and however the calls are timed, a key is granted no
more than its burst and, for every interval, a refill or half a burst. -/
theorem grantedUntil_le_ceiling (capacity refill : UInt32) {secs : UInt64}
    (hsecs : secs ≠ 0) {calls : List (K × ℕ)} (hcalls : Chronological calls)
    (hclock : OnClock calls) {key : K} {start : ℕ}
    (hstart : ∀ call ∈ calls, call.1 = key → start ≤ call.2) (finish : ℕ) :
    (new capacity refill (Duration.fromSecs secs)).grantedUntil key calls
        finish ≤
      ceiling capacity refill (Duration.fromSecs secs) (finish - start) := by
  have hhistory := history_callsOf capacity refill hsecs hcalls hclock key
  have hordered := pairwise_history
    (new capacity refill (Duration.fromSecs secs)) hcalls key
  have hstarts : ∀ call ∈ (callsOf key
      ((new capacity refill (Duration.fromSecs secs)).trace calls)),
      start ≤ call.time := by
    intro call hcall
    have hmem := List.mem_map_of_mem (f := fun call : LimiterCall K =>
      (call.input, call.time)) hcall
    rw [map_call_callsOf, List.mem_filter, decide_eq_true_eq] at hmem
    exact hstart _ hmem.1 hmem.2
  rw [grantedUntil_eq]
  generalize callsOf key _ = own at hhistory hordered hstarts
  cases own with
  | nil => exact Nat.zero_le _
  | cons first rest =>
      by_cases hfinish : first.time ≤ finish
      · calc _ ≤ ceiling capacity refill (Duration.fromSecs secs)
                (finish - first.time) :=
              Quota.granted_le_refilling (le_max_left _ _)
                (fun _ _ hdroppable =>
                  Quota.capacity_le_earned_half hdroppable.1)
                hhistory hordered hfinish
          _ ≤ _ := ceiling_mono _ _ _
              (Nat.sub_le_sub_left (hstarts first List.mem_cons_self) finish)
      · rw [Quota.granted_eq_zero]
        · exact Nat.zero_le _
        · rw [List.map_cons, List.pairwise_cons] at hordered
          exact List.forall_mem_cons.mpr ⟨Nat.not_le.mp hfinish,
            fun later hlater => (Nat.not_le.mp hfinish).trans_le
              (hordered.1 later hlater)⟩

end TokenBucketLimiter

end SshKnock
