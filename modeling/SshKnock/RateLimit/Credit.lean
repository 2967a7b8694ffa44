import SshKnock.RateLimit.Representation

/-!
# Which intervals are credited right

A refill is due after an interval in nanoseconds, but what it credits is
counted in whole seconds.  The fraction of a second that is cut off from the
interval makes the count too large, and an interval below a second is counted
as a whole one.
-/

namespace SshKnock

open SshKnock.Sharded

namespace TokenBucketLimiter

variable {K : Type*} [DecidableEq K]

/-- Every call for the key that finds a surviving bucket is credited all the
intervals since the last refill. -/
def CreditsExactly (capacity refill : UInt32) (interval : ℕ) (key : K) :
    Prop :=
  ∀ (calls : List (K × ℕ)) (now : ℕ) (bucket : Bucket),
    Chronological (calls ++ [(key, now)]) → OnClock (calls ++ [(key, now)]) →
    let reached := (new capacity refill interval).after calls
    (reached.pruneIdle now).buckets.get key = some bucket →
      (reached.bucketAt key now).tokens.toNat =
        min capacity.toNat (bucket.tokens.toNat + refill.toNat *
          ((now - bucket.lastRefill) / interval))

/-! ## Where the count is right or does not matter -/

theorem creditedIntervals_whole {interval : ℕ} (hinterval : 0 < interval)
    (hwhole : interval % Duration.nanosPerSec = 0) (elapsed : ℕ) :
    creditedIntervals interval elapsed = elapsed / interval := by
  obtain ⟨secs, hsecs⟩ := Nat.dvd_of_mod_eq_zero hwhole
  have hproduct : interval = secs * Duration.nanosPerSec :=
    hsecs.trans (Nat.mul_comm _ _)
  have hpos : 0 < secs := Nat.pos_of_ne_zero fun hzero => by
    rw [hproduct, hzero, Nat.zero_mul] at hinterval
    exact Nat.lt_irrefl 0 hinterval
  rw [creditedIntervals, hproduct, asSecs_div_whole hpos elapsed]
  split
  · rfl
  · next hpart => exact (Nat.div_eq_of_lt (Nat.not_le.mp hpart)).symm

theorem creditedIntervals_of_lt {interval elapsed : ℕ}
    (hpart : elapsed < interval) :
    creditedIntervals interval elapsed = elapsed / interval := by
  rw [creditedIntervals, if_neg (Nat.not_le.mpr hpart), Nat.div_eq_of_lt hpart]

/-- The count once an interval of at least a second is over. -/
theorem creditedIntervals_of_le {interval elapsed : ℕ}
    (hsecond : Duration.nanosPerSec ≤ interval) (hwhole : interval ≤ elapsed) :
    creditedIntervals interval elapsed =
      Duration.asSecs elapsed / Duration.asSecs interval := by
  have hsecs : 1 ≤ Duration.asSecs interval :=
    (Nat.one_le_div_iff (by decide)).mpr hsecond
  rw [creditedIntervals, if_pos hwhole, Nat.max_eq_left hsecs]

theorem one_le_creditedIntervals {interval elapsed : ℕ}
    (hsecond : Duration.nanosPerSec ≤ interval) (hwhole : interval ≤ elapsed) :
    1 ≤ creditedIntervals interval elapsed := by
  have hsecs : 0 < Duration.asSecs interval :=
    (Nat.one_le_div_iff (by decide)).mpr hsecond
  rw [creditedIntervals_of_le hsecond hwhole, Nat.one_le_div_iff hsecs]
  exact Nat.div_le_div_right hwhole

/-- A single interval fills the bucket, so counting too many does not
matter. -/
theorem min_credited_of_le {capacity refill tokens credited passed : ℕ}
    (henough : capacity ≤ refill) (hcredited : 1 ≤ credited)
    (hpassed : 1 ≤ passed) :
    min capacity (tokens + refill * credited) =
      min capacity (tokens + refill * passed) := by
  have hfull : ∀ count, 1 ≤ count → capacity ≤ tokens + refill * count :=
    fun count hcount => (henough.trans
      (Nat.le_mul_of_pos_right refill hcount)).trans (Nat.le_add_left _ _)
  rw [Nat.min_eq_left (hfull credited hcredited),
    Nat.min_eq_left (hfull passed hpassed)]

/-- Below twice the truncated interval both counts are one. -/
theorem creditedIntervals_of_lt_twice {interval elapsed : ℕ}
    (hsecond : Duration.nanosPerSec ≤ interval)
    (hshort : elapsed <
      2 * (Duration.asSecs interval * Duration.nanosPerSec)) :
    creditedIntervals interval elapsed = elapsed / interval := by
  rcases Nat.lt_or_ge elapsed interval with hpart | hwhole
  · exact creditedIntervals_of_lt hpart
  have htruncated : Duration.asSecs interval * Duration.nanosPerSec ≤
      interval := Nat.div_mul_le_self _ _
  have hpos : 0 < Duration.asSecs interval :=
    (Nat.one_le_div_iff (by decide)).mpr hsecond
  have hcredited : creditedIntervals interval elapsed < 2 := by
    rw [creditedIntervals_of_le hsecond hwhole, Nat.div_lt_iff_lt_mul hpos,
      Duration.asSecs, Nat.div_lt_iff_lt_mul (by decide), Nat.mul_assoc]
    exact hshort
  have hone := one_le_creditedIntervals hsecond hwhole
  have hpassed : elapsed / interval = 1 :=
    Nat.div_eq_of_lt_le (by omega) (by omega)
  omega

/-! ## Where it goes wrong -/

omit [DecidableEq K] in
theorem onClock_replicate {key : K} {count now : ℕ} (hnow : now ≤ Instant.max) :
    OnClock (List.replicate count (key, 0) ++ [(key, now)]) := by
  intro call hcall
  rcases List.mem_append.mp hcall with hfirst | hlast
  · rw [List.eq_of_mem_replicate hfirst]
    exact Nat.zero_le _
  · rw [List.mem_singleton.mp hlast]
    exact hnow

omit [DecidableEq K] in
theorem chronological_replicate (key : K) (count now : ℕ) :
    Chronological (List.replicate count (key, 0) ++ [(key, now)]) := by
  apply List.pairwise_append.mpr
  refine ⟨List.pairwise_replicate.mpr (Or.inr le_rfl),
    List.pairwise_singleton _ _, ?_⟩
  intro first hfirst _ _
  rw [List.eq_of_mem_replicate hfirst]
  exact Nat.zero_le _

/-- Calls at one instant drain the bucket one token each. -/
theorem drained_after (capacity refill : UInt32) {interval : ℕ}
    (hinterval : 0 < interval) (key : K) (count : ℕ)
    (hcount : count ≤ capacity.toNat) :
    ∃ tokens : UInt32, tokens.toNat + count = capacity.toNat ∧
      ((new capacity refill interval).after
        (List.replicate count (key, 0))).Drained key 0 tokens := by
  induction count with
  | zero => exact ⟨capacity, rfl, Or.inr ⟨HashMap.get_empty _, rfl⟩⟩
  | succ count ih =>
      obtain ⟨tokens, htokens, hdrained⟩ := ih (Nat.le_of_succ_le hcount)
      have hsome : tokens ≠ 0 := by
        rintro rfl
        rw [UInt32.toNat_zero] at htokens
        omega
      have hone : (1 : UInt32) ≤ tokens := by
        rw [UInt32.le_iff_toNat_le, UInt32.toNat_one]
        exact Nat.pos_of_ne_zero fun hzero => hsome (UInt32.toNat_inj.mp hzero)
      have hpos : 0 < ((new capacity refill interval).after
          (List.replicate count (key, 0))).interval := by
        rw [(hasLimits_after capacity refill interval _).interval_eq]
        exact hinterval
      refine ⟨tokens - 1, ?_, ?_⟩
      · have hle := UInt32.le_iff_toNat_le.mp hone
        rw [UInt32.toNat_sub_of_le _ _ hone, UInt32.toNat_one] at *
        omega
      · rw [List.replicate_succ', after_concat]
        exact (hdrained.allow hpos).2 hsome

/-- A drained bucket is found again before two intervals are over, and gets
what the code counts. -/
theorem exists_drained {capacity refill : UInt32} {interval : ℕ}
    (hinterval : 0 < interval) (hcapacity : capacity ≠ 0) (key : K)
    {now : ℕ} (hclock : now ≤ Instant.max) (hnow : now < 2 * interval)
    (hexact : CreditsExactly capacity refill interval key) :
    min capacity.toNat (refill.toNat * creditedIntervals interval now) =
      min capacity.toNat (refill.toNat * (now / interval)) := by
  let reached := (new capacity refill interval).after
    (List.replicate capacity.toNat (key, 0))
  have hlimits : HasLimits capacity refill interval reached :=
    hasLimits_after capacity refill interval _
  have hget : reached.buckets.get key = some ⟨0, 0, 0⟩ := by
    obtain ⟨tokens, htokens, hdrained⟩ := drained_after capacity refill
      hinterval key capacity.toNat le_rfl
    obtain rfl : tokens = 0 := UInt32.toNat_inj.mp (by
      rw [UInt32.toNat_zero]
      omega)
    rcases hdrained with hsome | ⟨_, hzero⟩
    · exact hsome
    · exact absurd (hlimits.capacity_eq.symm.trans hzero) hcapacity
  have hpos : 0 < reached.interval := hlimits.interval_eq ▸ hinterval
  have hkept : (reached.pruneIdle now).buckets.get key = some ⟨0, 0, 0⟩ := by
    rw [get_pruneIdle_eq_some_iff, lt_idleTtl_iff hpos hclock,
      hlimits.interval_eq]
    exact ⟨hget, by omega⟩
  have hempty : (0 : UInt32) ≤ reached.capacity := UInt32.zero_le
  have hfound := toNat_tokens_bucketAt hkept hempty
  rw [hlimits.capacity_eq, hlimits.refill_eq, hlimits.interval_eq] at hfound
  have hright := hexact _ now _ (chronological_replicate key _ now)
    (onClock_replicate hclock) hkept
  have hsame := hfound.symm.trans hright
  rw [UInt32.toNat_zero, Nat.zero_add, Nat.zero_add, Nat.sub_zero] at hsame
  exact hsame

/-- An interval below a second is never credited at its end. -/
theorem not_creditsExactly_of_lt_second {capacity refill : UInt32}
    {interval : ℕ} (hinterval : 0 < interval) (hcapacity : capacity ≠ 0)
    (hrefill : refill ≠ 0) (hsecond : interval < Duration.nanosPerSec)
    (key : K) : ¬CreditsExactly capacity refill interval key := by
  intro hexact
  have hlong : Duration.nanosPerSec ≤ Instant.max := by decide
  have hnone : creditedIntervals interval interval = 0 := by
    rw [creditedIntervals, if_pos le_rfl, Duration.asSecs,
      Nat.div_eq_of_lt hsecond, Nat.zero_div]
  have hsame := exists_drained hinterval hcapacity key
    (hsecond.le.trans hlong) (by omega) hexact
  rw [hnone, Nat.div_self hinterval, Nat.mul_zero, Nat.mul_one] at hsame
  have hsome : 0 < refill.toNat := Nat.pos_of_ne_zero fun hzero =>
    hrefill (UInt32.toNat_inj.mp hzero)
  have hroom : 0 < capacity.toNat := Nat.pos_of_ne_zero fun hzero =>
    hcapacity (UInt32.toNat_inj.mp hzero)
  omega

/-- With a fraction of a second cut off, a second interval is credited before
it is over. -/
theorem not_creditsExactly_of_fraction {capacity refill : UInt32}
    {interval : ℕ} (hfraction : interval % Duration.nanosPerSec ≠ 0)
    (hrefill : refill ≠ 0) (hsecond : Duration.nanosPerSec ≤ interval)
    (hsmall : refill.toNat < capacity.toNat)
    (hclock : 2 * (Duration.asSecs interval * Duration.nanosPerSec) ≤
      Instant.max) (key : K) :
    ¬CreditsExactly capacity refill interval key := by
  intro hexact
  let truncated := Duration.asSecs interval * Duration.nanosPerSec
  have hsecs : 0 < Duration.asSecs interval :=
    (Nat.one_le_div_iff (by decide)).mpr hsecond
  have hsplit : truncated + interval % Duration.nanosPerSec = interval :=
    Nat.div_add_mod' _ _
  have hpart : interval % Duration.nanosPerSec < Duration.nanosPerSec :=
    Nat.mod_lt _ (by decide)
  have hwhole : Duration.nanosPerSec ≤ truncated :=
    Nat.le_mul_of_pos_left _ hsecs
  have hcapacity : capacity ≠ 0 := by
    rintro rfl
    exact Nat.not_lt_zero _ hsmall
  have hcredited : creditedIntervals interval (2 * truncated) = 2 := by
    rw [creditedIntervals_of_le hsecond (by omega), Duration.asSecs,
      ← Nat.mul_assoc, Nat.mul_div_cancel _ (by decide),
      Nat.mul_div_cancel _ hsecs]
  have hpassed : 2 * truncated / interval = 1 :=
    Nat.div_eq_of_lt_le (by omega) (by omega)
  have hsame := exists_drained (by omega) hcapacity key hclock (by omega)
    hexact
  rw [hcredited, hpassed, Nat.mul_one, Nat.min_eq_right hsmall.le] at hsame
  have hsome : 0 < refill.toNat := Nat.pos_of_ne_zero fun hzero =>
    hrefill (UInt32.toNat_inj.mp hzero)
  omega

/-- Refills are credited right in every run exactly when the interval has no
fraction of a second, or its fraction cannot be noticed. -/
theorem creditsExactly_iff (capacity refill : UInt32) (interval : ℕ)
    (hinterval : 0 < interval) (key : K) :
    CreditsExactly capacity refill interval key ↔
      interval % Duration.nanosPerSec = 0 ∨ refill = 0 ∨ capacity = 0 ∨
        Duration.nanosPerSec ≤ interval ∧
          (capacity.toNat ≤ refill.toNat ∨ Instant.max <
            2 * (Duration.asSecs interval * Duration.nanosPerSec)) := by
  constructor
  · intro hexact
    by_contra hnone
    simp only [not_or, not_and, Nat.not_le, Nat.not_lt] at hnone
    obtain ⟨hfraction, hrefill, hcapacity, hlong⟩ := hnone
    rcases Nat.lt_or_ge interval Duration.nanosPerSec with hshort | hsecond
    · exact not_creditsExactly_of_lt_second hinterval hcapacity hrefill hshort
        key hexact
    · obtain ⟨hsmall, hclock⟩ := hlong hsecond
      exact not_creditsExactly_of_fraction hfraction hrefill hsecond hsmall
        hclock key hexact
  · intro hright calls now bucket hcalls hclock reached hkept
    have hlimits : HasLimits capacity refill interval reached :=
      hasLimits_after capacity refill interval calls
    have hlive := (accounted_after capacity refill hinterval
      (List.pairwise_append.mp hcalls).1 hclock.of_concat.1 key).live
        (fun call hcall => (List.pairwise_append.mp hcalls).2.2 call hcall _
          List.mem_cons_self) bucket
        ((reached.get_pruneIdle_eq_some_iff key now bucket).mp hkept).1
    have htokens : bucket.tokens ≤ reached.capacity := by
      rw [hlimits.capacity_eq]
      exact hlive.tokens_le
    rw [toNat_tokens_bucketAt hkept htokens, hlimits.capacity_eq,
      hlimits.refill_eq, hlimits.interval_eq]
    rcases hright with hwhole | rfl | rfl | ⟨hsecond, henough | hshort⟩
    · rw [creditedIntervals_whole hinterval hwhole]
    · rw [UInt32.toNat_zero, Nat.zero_mul, Nat.zero_mul]
    · rw [UInt32.toNat_zero, Nat.zero_min, Nat.zero_min]
    · rcases Nat.lt_or_ge (now - bucket.lastRefill) interval with hpart | hover
      · rw [creditedIntervals_of_lt hpart]
      · exact min_credited_of_le henough
          (one_le_creditedIntervals hsecond hover)
          ((Nat.one_le_div_iff hinterval).mpr hover)
    · have hnow : now ≤ Instant.max := hclock.of_concat.2
      rw [creditedIntervals_of_lt_twice hsecond (by omega)]

/-- The limits the daemon asks for: one minute. -/
theorem creditsExactly_iff_minute :
    CreditsExactly 20 10 (Duration.fromSecs 60) 1 ↔
      Duration.fromSecs 60 % Duration.nanosPerSec = 0 ∨ (10 : UInt32) = 0 ∨
        (20 : UInt32) = 0 ∨ Duration.nanosPerSec ≤ Duration.fromSecs 60 ∧
          ((20 : UInt32).toNat ≤ (10 : UInt32).toNat ∨ Instant.max <
            2 * (Duration.asSecs (Duration.fromSecs 60) *
              Duration.nanosPerSec)) :=
  creditsExactly_iff 20 10 (Duration.fromSecs 60) (by decide) 1

/-- With an interval of half a second a bucket that was emptied half a second
ago is found empty, although one refill is due. -/
theorem half_second_uncredited :
    let reached := (new 1 1 500000000).after [(1, 0)]
    (reached.pruneIdle 500000000).buckets.get 1 = some ⟨0, 0, 0⟩ ∧
      (reached.bucketAt 1 500000000).tokens = 0 ∧
      min 1 (0 + 1 * ((500000000 - 0) / 500000000)) = 1 ∧
      ¬CreditsExactly 1 1 500000000 1 := by
  have hget : (((new 1 1 500000000).after [(1, 0)]).pruneIdle
      500000000).buckets.get 1 = some ⟨0, 0, 0⟩ := by decide +kernel
  have hempty : (((new 1 1 500000000).after [(1, 0)]).bucketAt 1
      500000000).tokens = 0 := by decide +kernel
  refine ⟨hget, hempty, by decide, fun hexact => ?_⟩
  have hcredited := hexact [(1, 0)] 500000000 ⟨0, 0, 0⟩ (by decide)
    (by unfold OnClock; decide) hget
  rw [hempty] at hcredited
  exact absurd hcredited (by decide)

end TokenBucketLimiter

end SshKnock
