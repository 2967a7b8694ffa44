import SshKnock.RateLimit.Representation

/-!
# A burst after a silence

A key without a live bucket opens one with its first call.  Until an interval
has passed nothing is refilled and nothing is pruned, so the calls of the key
are counted exactly, whatever other keys do in between.
-/

namespace SshKnock

namespace TokenBucketLimiter

variable {K : Type*}

/-- The slot of a key that had no live bucket at the start and has been called
at these times since. -/
inductive Burst (limiter : TokenBucketLimiter K) (start : ℕ) :
    List ℕ → Option Bucket → Prop where
  | silent {slot : Option Bucket} (hdropped : limiter.age start slot = none) :
      Burst limiter start [] slot
  | counted {times : List ℕ} {bucket : Bucket}
      (hfirst : times.head? = some bucket.lastRefill)
      (htokens :
        bucket.tokens.toNat + times.length = limiter.capacity.toNat)
      (hseen : bucket.lastRefill ≤ bucket.lastSeen) :
      Burst limiter start times (some bucket)

/-- A time within an interval of the first call. -/
structure Within (limiter : TokenBucketLimiter K) (start : ℕ)
    (times : List ℕ) (now : ℕ) : Prop where
  start_le : start ≤ now
  first_le : ∀ first ∈ times.head?, first ≤ now
  lt_first_add : ∀ first ∈ times.head?, now < first + limiter.interval

/-- The limiter measures time. -/
structure Timed (limiter : TokenBucketLimiter K) : Prop where
  interval_pos : 0 < limiter.interval
  interval_le : limiter.interval ≤ limiter.idleTtl

variable {limiter : TokenBucketLimiter K} {start now : ℕ} {times : List ℕ}
  {slot : Option Bucket}

/-- A bucket that was used after the burst began is not idle. -/
theorem Within.recent (hwithin : limiter.Within start times now)
    (htimed : limiter.Timed) {bucket : Bucket}
    (hfirst : times.head? = some bucket.lastRefill)
    (hseen : bucket.lastRefill ≤ bucket.lastSeen) :
    now - bucket.lastSeen < limiter.idleTtl ∧
      now - bucket.lastRefill < limiter.interval := by
  have hearly := hwithin.lt_first_add _ hfirst
  have hpos := htimed.interval_pos
  have hle := htimed.interval_le
  omega

/-- The calls of other keys leave a burst as it is. -/
theorem Burst.age (hburst : limiter.Burst start times slot)
    (htimed : limiter.Timed) (hwithin : limiter.Within start times now) :
    limiter.Burst start times (limiter.age now slot) := by
  cases hburst with
  | silent hdropped =>
      apply Burst.silent
      have haged : limiter.age now slot = none := by
        rw [← limiter.age_age slot hwithin.start_le, hdropped]
        rfl
      rw [haged]
      rfl
  | counted hfirst htokens hseen =>
      obtain ⟨hkept, -⟩ := hwithin.recent htimed hfirst hseen
      rw [age_kept hkept]
      exact .counted hfirst htokens hseen

/-- A call finds the tokens that the earlier calls of the burst left. -/
theorem Burst.current (hburst : limiter.Burst start times slot)
    (htimed : limiter.Timed) (hwithin : limiter.Within start times now) :
    (limiter.current now slot).tokens.toNat + times.length =
        limiter.capacity.toNat ∧
      times.head?.getD now = (limiter.current now slot).lastRefill ∧
      (limiter.current now slot).lastSeen = now := by
  cases hburst with
  | silent hdropped =>
      have haged : limiter.age now slot = none := by
        rw [← limiter.age_age slot hwithin.start_le, hdropped]
        rfl
      rw [current_dropped htimed.interval_pos haged]
      exact ⟨rfl, rfl, rfl⟩
  | @counted _ bucket hfirst htokens hseen =>
      obtain ⟨hkept, hpart⟩ := hwithin.recent htimed hfirst hseen
      have hcurrent : limiter.current now (some bucket) =
          { bucket with lastSeen := now } :=
        (current_kept hkept).trans (refilled_of_lt hpart)
      rw [hcurrent, hfirst]
      exact ⟨htokens, rfl, rfl⟩

/-- A call is allowed as long as the earlier calls of the burst have not used
the capacity up. -/
theorem Burst.advance (hburst : limiter.Burst start times slot)
    (htimed : limiter.Timed) (hwithin : limiter.Within start times now) :
    (limiter.advance now slot).1 =
        decide (times.length < limiter.capacity.toNat) ∧
      (times.length < limiter.capacity.toNat →
        limiter.Burst start (times ++ [now]) (limiter.advance now slot).2) := by
  obtain ⟨htokens, hfirst, hseen⟩ := hburst.current htimed hwithin
  have hadvance : limiter.advance now slot =
      ((consumed (limiter.current now slot)).1,
        some (consumed (limiter.current now slot)).2) := rfl
  rw [hadvance]
  generalize limiter.current now slot = bucket at htokens hfirst hseen
  rw [consumed]
  by_cases hempty : bucket.tokens = 0
  · have hused : ¬times.length < limiter.capacity.toNat := by
      rw [← htokens, hempty, UInt32.toNat_zero]
      omega
    rw [if_pos hempty, decide_eq_false hused]
    exact ⟨rfl, fun hroom => absurd hroom hused⟩
  · have hleft := toNat_sub_one hempty
    have hroom : times.length < limiter.capacity.toNat := by omega
    rw [if_neg hempty, decide_eq_true hroom]
    refine ⟨rfl, fun _ => .counted ?_ ?_ ?_⟩
    · rw [List.head?_append, List.head?_singleton, ← hfirst]
      cases times.head? <;> rfl
    · rw [List.length_append, List.length_singleton]
      show (bucket.tokens - 1).toNat + _ = _
      omega
    · show bucket.lastRefill ≤ bucket.lastSeen
      rw [hseen, ← hfirst]
      cases hhead : times.head? with
      | none => exact le_rfl
      | some first => exact hwithin.first_le first hhead

variable [DecidableEq K] {capacity refill : UInt32} {interval : ℕ} {key : K}

/-- The limiter amid the burst of a key. -/
structure Bursting (capacity refill : UInt32) (interval start : ℕ) (key : K)
    (times : List ℕ) (limiter : TokenBucketLimiter K) : Prop where
  limits : HasLimits capacity refill interval limiter
  burst : (new capacity refill interval : TokenBucketLimiter K).Burst start
    times (limiter.buckets.get key)

theorem Bursting.allow_other
    (hbursting : Bursting capacity refill interval start key times limiter)
    (htimed : (new capacity refill interval : TokenBucketLimiter K).Timed)
    (hwithin : (new capacity refill interval : TokenBucketLimiter K).Within
      start times now) {other : K} (hother : key ≠ other) :
    Bursting capacity refill interval start key times
      (limiter.allow other now).2 where
  limits := (machine capacity refill interval).good_step other now
    hbursting.limits
  burst := by
    have hcell : (limiter.allow other now).2.buckets.get key =
        (new capacity refill interval).age now (limiter.buckets.get key) :=
      (machine capacity refill interval).cell_step_other other now key
        hbursting.limits hother
    rw [hcell]
    exact hbursting.burst.age htimed hwithin

theorem Bursting.allow_own
    (hbursting : Bursting capacity refill interval start key times limiter)
    (htimed : (new capacity refill interval : TokenBucketLimiter K).Timed)
    (hwithin : (new capacity refill interval : TokenBucketLimiter K).Within
      start times now) :
    (limiter.allow key now).1 = decide (times.length < capacity.toNat) ∧
      (times.length < capacity.toNat →
        Bursting capacity refill interval start key (times ++ [now])
          (limiter.allow key now).2) := by
  obtain ⟨hallowed, hburst⟩ := hbursting.burst.advance htimed hwithin
  have hanswer : (limiter.allow key now).1 =
      ((new capacity refill interval).advance now
        (limiter.buckets.get key)).1 :=
    (machine capacity refill interval).output_step key now hbursting.limits
  have hcell : (limiter.allow key now).2.buckets.get key =
      ((new capacity refill interval).advance now
        (limiter.buckets.get key)).2 :=
    (machine capacity refill interval).cell_step_owner key now hbursting.limits
  refine ⟨hanswer.trans hallowed, fun hroom => ⟨?_, ?_⟩⟩
  · exact (machine capacity refill interval).good_step key now hbursting.limits
  · rw [hcell]
    exact hburst hroom

end TokenBucketLimiter

end SshKnock
