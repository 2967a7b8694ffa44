import SshKnock.RateLimit.Allowance

/-!
# What the table of buckets always looks like

A bucket carries two time stamps.  One moves with every call, the other only
with a refill, and a call that does not refill comes less than one interval
after the last refill.  A bucket that survives pruning has therefore never
gone without a refill for three intervals.
-/

namespace SshKnock

open SshKnock.Sharded

/-- A bucket at a time. -/
structure Bucket.Live (bucket : Bucket) (capacity : UInt32)
    (interval now : ℕ) : Prop where
  tokens_le : bucket.tokens ≤ capacity
  lastRefill_le : bucket.lastRefill ≤ bucket.lastSeen
  lastSeen_le : bucket.lastSeen ≤ now
  refilled_since : bucket.lastSeen - bucket.lastRefill < interval

theorem Bucket.Live.mono {bucket : Bucket} {capacity : UInt32}
    {interval early late : ℕ} (hlive : bucket.Live capacity interval early)
    (hle : early ≤ late) : bucket.Live capacity interval late :=
  ⟨hlive.tokens_le, hlive.lastRefill_le, hlive.lastSeen_le.trans hle,
    hlive.refilled_since⟩

namespace TokenBucketLimiter

variable {K : Type*}

/-- The intervals a call credits to a bucket that was last refilled so long
ago. -/
def creditedIntervals (interval elapsed : ℕ) : ℕ :=
  if interval ≤ elapsed then
    Duration.asSecs elapsed / max (Duration.asSecs interval) 1
  else 0

theorem creditedIntervals_fromSecs {secs : UInt64} (hsecs : secs ≠ 0)
    (elapsed : ℕ) :
    creditedIntervals (Duration.fromSecs secs) elapsed =
      elapsed / Duration.fromSecs secs := by
  rw [creditedIntervals, asSecs_div_asSecs elapsed hsecs]
  split
  · rfl
  · next hpart => exact (Nat.div_eq_of_lt (Nat.not_le.mp hpart)).symm

theorem refilled_of_le {limiter : TokenBucketLimiter K} {bucket : Bucket}
    {now : ℕ} (hwhole : limiter.interval ≤ now - bucket.lastRefill) :
    limiter.refilled bucket now =
      { bucket with
        tokens := min limiter.capacity (saturatingAdd bucket.tokens
          (saturatingMul limiter.refill (saturatingCast
            (Duration.asSecs (now - bucket.lastRefill) /
              max (Duration.asSecs limiter.interval) 1))))
        lastRefill := now } :=
  if_pos hwhole

theorem refilled_of_lt {limiter : TokenBucketLimiter K} {bucket : Bucket}
    {now : ℕ} (hpart : now - bucket.lastRefill < limiter.interval) :
    limiter.refilled bucket now = bucket :=
  if_neg (Nat.not_le.mpr hpart)

/-- The saturating arithmetic is exact: what it cuts off is above the
capacity. -/
theorem toNat_tokens_refilled (limiter : TokenBucketLimiter K)
    {bucket : Bucket} (htokens : bucket.tokens ≤ limiter.capacity) (now : ℕ) :
    (limiter.refilled bucket now).tokens.toNat =
      min limiter.capacity.toNat (bucket.tokens.toNat + limiter.refill.toNat *
        creditedIntervals limiter.interval (now - bucket.lastRefill)) := by
  rw [creditedIntervals]
  by_cases hwhole : limiter.interval ≤ now - bucket.lastRefill
  · rw [refilled_of_le hwhole, if_pos hwhole]
    exact toNat_credited _ _ _ _
  · rw [refilled_of_lt (Nat.not_le.mp hwhole), if_neg hwhole, Nat.mul_zero,
      Nat.add_zero]
    exact (Nat.min_eq_right (UInt32.le_iff_toNat_le.mp htokens)).symm

/-- On the clock a bucket is kept for two intervals, even where these are
longer than a duration can be. -/
theorem lt_idleTtl_iff {limiter : TokenBucketLimiter K}
    (hinterval : 0 < limiter.interval) {seen now : ℕ}
    (hnow : now ≤ Instant.max) :
    now - seen < limiter.idleTtl ↔ now < seen + 2 * limiter.interval := by
  have hlong : Instant.max < Duration.max := by decide
  rw [idleTtl, Duration.checkedMul]
  split
  · rw [Option.getD_some]
    omega
  · rw [Option.getD_none]
    omega

theorem tokens_refilled_le (limiter : TokenBucketLimiter K) {bucket : Bucket}
    (htokens : bucket.tokens ≤ limiter.capacity) (now : ℕ) :
    (limiter.refilled bucket now).tokens ≤ limiter.capacity := by
  rw [UInt32.le_iff_toNat_le, limiter.toNat_tokens_refilled htokens]
  exact Nat.min_le_left _ _

theorem lt_lastRefill_refilled (limiter : TokenBucketLimiter K)
    (hinterval : 0 < limiter.interval) (bucket : Bucket) (now : ℕ) :
    now - (limiter.refilled bucket now).lastRefill < limiter.interval := by
  by_cases hwhole : limiter.interval ≤ now - bucket.lastRefill
  · rw [refilled_of_le hwhole, Nat.sub_self]
    exact hinterval
  · rw [refilled_of_lt (Nat.not_le.mp hwhole)]
    exact Nat.not_le.mp hwhole

theorem tokens_consumed_le (bucket : Bucket) :
    (consumed bucket).2.tokens ≤ bucket.tokens := by
  rw [consumed]
  split
  · exact UInt32.le_refl _
  · next hsome =>
      rw [UInt32.le_iff_toNat_le,
        UInt32.toNat_sub_of_le _ _ (one_le_of_ne_zero hsome)]
      exact Nat.sub_le _ _

/-- The bucket a call leaves to its own key. -/
theorem live_consumed {limiter : TokenBucketLimiter K}
    (hinterval : 0 < limiter.interval) {slot : Option Bucket} {now : ℕ}
    (hslot : ∀ bucket ∈ slot, bucket.Live limiter.capacity limiter.interval
      now) :
    (consumed (limiter.current now slot)).2.Live limiter.capacity
        limiter.interval now ∧
      (consumed (limiter.current now slot)).2.lastSeen = now := by
  have hstamps := limiter.stamps_current fun bucket hbucket =>
    ⟨(hslot bucket hbucket).lastRefill_le, (hslot bucket hbucket).lastSeen_le⟩
  have htokens : (limiter.current now slot).tokens ≤ limiter.capacity := by
    apply limiter.tokens_refilled_le
    cases haged : limiter.age now slot with
    | none => exact UInt32.le_refl _
    | some bucket =>
        exact (hslot bucket (Option.filter_eq_some_iff.mp haged).1).tokens_le
  have hsince : now - (limiter.current now slot).lastRefill <
      limiter.interval := limiter.lt_lastRefill_refilled hinterval _ now
  have hconsumed := consumed_stamps (limiter.current now slot)
  refine ⟨⟨UInt32.le_trans (tokens_consumed_le _) htokens, ?_, ?_, ?_⟩, ?_⟩
  · rw [hconsumed.1, hconsumed.2, hstamps.2]
    exact hstamps.1
  · rw [hconsumed.2, hstamps.2]
  · rw [hconsumed.1, hconsumed.2, hstamps.2]
    exact hsince
  · rw [hconsumed.2, hstamps.2]

/-- A bucket as the calls so far explain it: it was used by the last call for
its key, and no call came two intervals later. -/
structure Explained (capacity : UInt32) (interval : ℕ) (past : List (K × ℕ))
    (key : K) (bucket : Bucket) : Prop where
  last_call : (key, bucket.lastSeen) ∈ past
  no_later : ∀ call ∈ past, call.1 = key → call.2 ≤ bucket.lastSeen
  recent : ∀ call ∈ past, call.2 < bucket.lastSeen + 2 * interval
  live : bucket.Live capacity interval bucket.lastSeen

/-- A key without a bucket has not been called for two intervals. -/
def Idle (interval : ℕ) (past : List (K × ℕ)) (key : K) : Prop :=
  ∀ call ∈ past, call.1 = key →
    ∃ later ∈ past, call.2 + 2 * interval ≤ later.2

/-- What the calls so far say about the slot of a key. -/
def Accounted (capacity : UInt32) (interval : ℕ) (past : List (K × ℕ))
    (key : K) : Option Bucket → Prop
  | none => Idle interval past key
  | some bucket => Explained capacity interval past key bucket

theorem Accounted.live {capacity : UInt32} {interval : ℕ}
    {past : List (K × ℕ)} {key : K} {slot : Option Bucket}
    (haccounted : Accounted capacity interval past key slot) {now : ℕ}
    (hpast : ∀ call ∈ past, call.2 ≤ now) :
    ∀ bucket ∈ slot, bucket.Live capacity interval now := by
  rintro bucket rfl
  have hexplained : Explained capacity interval past key bucket := haccounted
  exact hexplained.live.mono (hpast _ hexplained.last_call)

/-- A key has a bucket exactly when one of its calls is less than two intervals
old. -/
theorem Accounted.isSome_iff {capacity : UInt32} {interval : ℕ}
    {past : List (K × ℕ)} {key last : K} {slot : Option Bucket} {now : ℕ}
    (haccounted : Accounted capacity interval past key slot)
    (hpast : ∀ call ∈ past, call.2 ≤ now) (hlast : (last, now) ∈ past) :
    slot.isSome = true ↔ ∃ call ∈ past, call.1 = key ∧
      now < call.2 + 2 * interval ∧ call.2 ≤ now := by
  cases slot with
  | some bucket =>
      have hexplained : Explained capacity interval past key bucket :=
        haccounted
      exact iff_of_true rfl ⟨_, hexplained.last_call, rfl,
        hexplained.recent _ hlast, hpast _ hexplained.last_call⟩
  | none =>
      have hidle : Idle interval past key := haccounted
      apply iff_of_false Bool.false_ne_true
      rintro ⟨call, hcall, hcalled, hrecent, -⟩
      obtain ⟨later, hlater, hle⟩ := hidle call hcall hcalled
      exact Nat.not_le.mpr hrecent (hle.trans (hpast later hlater))

/-- A call accounts for the bucket it leaves to its own key. -/
theorem Accounted.advance (limiter : TokenBucketLimiter K)
    (hinterval : 0 < limiter.interval) {past : List (K × ℕ)} {key : K}
    {slot : Option Bucket}
    (haccounted : Accounted limiter.capacity limiter.interval past key slot)
    {now : ℕ} (hpast : ∀ call ∈ past, call.2 ≤ now) :
    Accounted limiter.capacity limiter.interval (past ++ [(key, now)]) key
      (limiter.advance now slot).2 := by
  obtain ⟨hlive, hseen⟩ := live_consumed hinterval (haccounted.live hpast)
  have hcalls : ∀ call ∈ past ++ [(key, now)], call.2 ≤ now := by
    intro call hcall
    rcases List.mem_append.mp hcall with hold | hnew
    · exact hpast call hold
    · rw [List.mem_singleton.mp hnew]
  show Explained limiter.capacity limiter.interval (past ++ [(key, now)]) key
    (consumed (limiter.current now slot)).2
  constructor
  · rw [hseen]
    exact List.mem_append_right past List.mem_cons_self
  · intro call hcall _
    rw [hseen]
    exact hcalls call hcall
  · intro call hcall
    have hle := hcalls call hcall
    rw [hseen]
    omega
  · rw [hseen]
    exact hlive

/-- A call for another key leaves the slot accounted for. -/
theorem Accounted.age (limiter : TokenBucketLimiter K)
    (hinterval : 0 < limiter.interval) {past : List (K × ℕ)} {key other : K}
    {slot : Option Bucket}
    (haccounted : Accounted limiter.capacity limiter.interval past other slot)
    {now : ℕ} (hnow : now ≤ Instant.max) (hother : other ≠ key) :
    Accounted limiter.capacity limiter.interval (past ++ [(key, now)]) other
      (limiter.age now slot) := by
  have hown : ∀ call ∈ past ++ [(key, now)], call.1 = other →
      call ∈ past := by
    intro call hcall hcalled
    rcases List.mem_append.mp hcall with hold | hnew
    · exact hold
    · rw [List.mem_singleton.mp hnew] at hcalled
      exact absurd hcalled.symm hother
  cases slot with
  | none =>
      intro call hcall hcalled
      obtain ⟨later, hlater, hle⟩ := haccounted call (hown call hcall hcalled)
        hcalled
      exact ⟨later, List.mem_append_left _ hlater, hle⟩
  | some bucket =>
      have hexplained : Explained limiter.capacity limiter.interval past other
          bucket := haccounted
      by_cases hkept : now < bucket.lastSeen + 2 * limiter.interval
      · rw [age_kept ((lt_idleTtl_iff hinterval hnow).mpr hkept)]
        refine ⟨List.mem_append_left _ hexplained.last_call, ?_, ?_,
          hexplained.live⟩
        · exact fun call hcall hcalled =>
            hexplained.no_later call (hown call hcall hcalled) hcalled
        · intro call hcall
          rcases List.mem_append.mp hcall with hold | hnew
          · exact hexplained.recent call hold
          · rw [List.mem_singleton.mp hnew]
            exact hkept
      · have haged : limiter.age now (some bucket) = none := by
          rw [TokenBucketLimiter.age, Option.filter_eq_none_iff]
          rintro _ ⟨⟩
          rw [decide_eq_true_eq]
          exact fun hlt => hkept ((lt_idleTtl_iff hinterval hnow).mp hlt)
        rw [haged]
        intro call hcall hcalled
        have hle := hexplained.no_later call (hown call hcall hcalled) hcalled
        refine ⟨(key, now), List.mem_append_right _ List.mem_cons_self, ?_⟩
        simp only
        omega

variable [DecidableEq K]

/-- The limiter after a run of calls. -/
def after (limiter : TokenBucketLimiter K) (calls : List (K × ℕ)) :
    TokenBucketLimiter K :=
  (machine limiter.capacity limiter.refill limiter.interval).final limiter calls

theorem after_concat (limiter : TokenBucketLimiter K) (calls : List (K × ℕ))
    (key : K) (now : ℕ) :
    limiter.after (calls ++ [(key, now)]) =
      ((limiter.after calls).allow key now).2 :=
  (machine limiter.capacity limiter.refill limiter.interval).final_concat
    limiter calls (key, now)

theorem hasLimits_after (capacity refill : UInt32) (interval : ℕ)
    (calls : List (K × ℕ)) :
    HasLimits capacity refill interval
      ((new capacity refill interval).after calls) :=
  (machine capacity refill interval).good_final calls
    (HasLimits.new capacity refill interval)

omit [DecidableEq K] in
theorem OnClock.of_concat {past : List (K × ℕ)} {call : K × ℕ}
    (hclock : OnClock (past ++ [call])) :
    OnClock past ∧ call.2 ≤ Instant.max := by
  obtain ⟨hpast, hlast⟩ := List.forall_mem_append.mp hclock
  exact ⟨hpast, hlast call (List.mem_singleton_self call)⟩

/-- Calls account for every slot. -/
theorem keeps_accounted (capacity refill : UInt32) {interval : ℕ}
    (hinterval : 0 < interval) :
    (machine capacity refill interval :
      Machine (TokenBucketLimiter K) K K Unit Bool (Option Bucket)).Keeps
        fun past key slot =>
          OnClock past → Accounted capacity interval past key slot where
  own _ hpast haccounted hclock :=
    Accounted.advance (new capacity refill interval) hinterval
      (haccounted hclock.of_concat.1) hpast
  other _ hother haccounted hclock :=
    Accounted.age (new capacity refill interval) hinterval
      (haccounted hclock.of_concat.1) hclock.of_concat.2 hother

theorem accounted_after (capacity refill : UInt32) {interval : ℕ}
    (hinterval : 0 < interval) {calls : List (K × ℕ)}
    (hcalls : Chronological calls) (hclock : OnClock calls) (key : K) :
    Accounted capacity interval calls key
      (((new capacity refill interval).after calls).buckets.get key) :=
  (keeps_accounted capacity refill hinterval).final
    (HasLimits.new capacity refill interval)
    (fun _ _ _ hcall => absurd hcall List.not_mem_nil) hcalls key hclock

/-! ## How many buckets there are -/

/-- The keys that were called less than two intervals ago. -/
def recentKeys (interval : ℕ) (calls : List (K × ℕ)) (now : ℕ) : Finset K :=
  ((calls.filter fun call => now < call.2 + 2 * interval).map
    Prod.fst).toFinset

theorem mem_recentKeys_iff {interval : ℕ} {calls : List (K × ℕ)} {now : ℕ}
    {key : K} :
    key ∈ recentKeys interval calls now ↔
      ∃ call ∈ calls, call.1 = key ∧ now < call.2 + 2 * interval := by
  simp only [recentKeys, List.mem_toFinset, List.mem_map, List.mem_filter,
    decide_eq_true_eq]
  constructor
  · rintro ⟨call, ⟨hcall, hrecent⟩, hkey⟩
    exact ⟨call, hcall, hkey, hrecent⟩
  · rintro ⟨call, hcall, hkey, hrecent⟩
    exact ⟨call, ⟨hcall, hrecent⟩, hkey⟩

section

variable (capacity refill : UInt32) {interval : ℕ} (hinterval : 0 < interval)
include hinterval

/-- A key without a bucket was not called recently. -/
theorem recentKeys_subset {calls : List (K × ℕ)}
    (hcalls : Chronological calls) (hclock : OnClock calls) {now : ℕ}
    (hpast : ∀ call ∈ calls, call.2 ≤ now) :
    recentKeys interval calls now ⊆
      (AList.keys ((new capacity refill interval).after
        calls).buckets).toFinset := by
  intro key hrecent
  obtain ⟨call, hcall, hkey, hlive⟩ := mem_recentKeys_iff.mp hrecent
  have haccounted := accounted_after capacity refill hinterval hcalls hclock key
  rw [List.mem_toFinset, HashMap.mem_keys_iff, HashMap.containsKey]
  cases hget : ((new capacity refill interval).after calls).buckets.get key with
  | some bucket => rfl
  | none =>
      rw [hget] at haccounted
      obtain ⟨later, hlater, hle⟩ := haccounted call hcall hkey
      exact absurd (hle.trans (hpast later hlater)) (Nat.not_le.mpr hlive)

theorem card_recentKeys_le {calls : List (K × ℕ)}
    (hcalls : Chronological calls) (hclock : OnClock calls) {now : ℕ}
    (hpast : ∀ call ∈ calls, call.2 ≤ now) :
    (recentKeys interval calls now).card ≤
      ((new capacity refill interval).after calls).len := by
  rw [len, HashMap.len_eq_card]
  exact Finset.card_le_card
    (recentKeys_subset capacity refill hinterval hcalls hclock hpast)

/-- Right after a call there are as many buckets as keys called recently. -/
theorem len_after_concat {calls : List (K × ℕ)} {key : K} {now : ℕ}
    (hcalls : Chronological (calls ++ [(key, now)]))
    (hclock : OnClock (calls ++ [(key, now)])) :
    ((new capacity refill interval).after (calls ++ [(key, now)])).len =
      (recentKeys interval (calls ++ [(key, now)]) now).card := by
  have hlast : (key, now) ∈ calls ++ [(key, now)] :=
    List.mem_append_right calls List.mem_cons_self
  have hpast := hcalls.forall_le_last
  rw [len, HashMap.len_eq_card]
  congr 1
  ext other
  rw [List.mem_toFinset, HashMap.mem_keys_iff, HashMap.containsKey,
    (accounted_after capacity refill hinterval hcalls hclock
      other).isSome_iff hpast hlast, mem_recentKeys_iff]
  constructor
  · rintro ⟨call, hcall, hkey, hrecent, -⟩
    exact ⟨call, hcall, hkey, hrecent⟩
  · rintro ⟨call, hcall, hkey, hrecent⟩
    exact ⟨call, hcall, hkey, hrecent, hpast call hcall⟩

end

/-! ## What a further call finds -/

/-- The bucket of a further call that finds one is the one the run left. -/
theorem get_pruneIdle_eq_some_iff (limiter : TokenBucketLimiter K) (key : K)
    (now : ℕ) (bucket : Bucket) :
    (limiter.pruneIdle now).buckets.get key = some bucket ↔
      limiter.buckets.get key = some bucket ∧
        now - bucket.lastSeen < limiter.idleTtl := by
  rw [pruneIdle]
  rw [HashMap.get_retain, Option.filter_eq_some_iff, decide_eq_true_eq]
  rfl

/-- The tokens a call finds in a bucket that survives, before it takes one. -/
theorem toNat_tokens_bucketAt {limiter : TokenBucketLimiter K} {key : K}
    {now : ℕ} {bucket : Bucket}
    (hkept : (limiter.pruneIdle now).buckets.get key = some bucket)
    (htokens : bucket.tokens ≤ limiter.capacity) :
    (limiter.bucketAt key now).tokens.toNat =
      min limiter.capacity.toNat (bucket.tokens.toNat + limiter.refill.toNat *
        creditedIntervals limiter.interval (now - bucket.lastRefill)) := by
  have hseen : ({ bucket with lastSeen := now } : Bucket).tokens ≤
      limiter.capacity := htokens
  rw [bucketAt, hkept, Option.getD_some]
  exact limiter.toNat_tokens_refilled hseen now

/-- A further call finds a surviving bucket exactly as refilled as the time
since its last refill says. -/
structure FoundExactly (limiter : TokenBucketLimiter K) (key : K) (now : ℕ)
    (bucket : Bucket) : Prop where
  elapsed_lt : now - bucket.lastRefill < 3 * limiter.interval
  credited_le :
    creditedIntervals limiter.interval (now - bucket.lastRefill) ≤ 2
  tokens_eq : (limiter.bucketAt key now).tokens.toNat =
    min limiter.capacity.toNat (bucket.tokens.toNat + limiter.refill.toNat *
      ((now - bucket.lastRefill) / limiter.interval))

theorem foundExactly_of_live {capacity refill : UInt32} {secs : UInt64}
    (hsecs : secs ≠ 0) {limiter : TokenBucketLimiter K}
    (hlimits : HasLimits capacity refill (Duration.fromSecs secs) limiter)
    {key : K} {now : ℕ} (hnow : now ≤ Instant.max) {bucket : Bucket}
    (hlive : bucket.Live capacity (Duration.fromSecs secs) bucket.lastSeen)
    (hkept : (limiter.pruneIdle now).buckets.get key = some bucket) :
    limiter.FoundExactly key now bucket := by
  have hinterval : 0 < limiter.interval := by
    rw [hlimits.interval_eq]
    exact fromSecs_pos hsecs
  have hseen := (lt_idleTtl_iff hinterval hnow).mp
    ((limiter.get_pruneIdle_eq_some_iff key now bucket).mp hkept).2
  have hsince := hlive.refilled_since
  rw [← hlimits.interval_eq] at hsince
  have helapsed : now - bucket.lastRefill < 3 * limiter.interval := by
    have hle := hlive.lastRefill_le
    omega
  have hcredited : creditedIntervals limiter.interval
      (now - bucket.lastRefill) =
        (now - bucket.lastRefill) / limiter.interval := by
    rw [hlimits.interval_eq]
    exact creditedIntervals_fromSecs hsecs _
  have htokens : bucket.tokens ≤ limiter.capacity := by
    rw [hlimits.capacity_eq]
    exact hlive.tokens_le
  refine ⟨helapsed, ?_, ?_⟩
  · rw [hcredited]
    exact Nat.le_of_lt_succ ((Nat.div_lt_iff_lt_mul hinterval).mpr helapsed)
  · rw [toNat_tokens_bucketAt hkept htokens, hcredited]

/-- After every run the keys with a bucket are those called within the last two
intervals, every bucket is in shape, and every further call that finds a bucket
computes its tokens exactly. -/
theorem buckets_represented (capacity refill : UInt32) (secs : UInt64)
    (hsecs : secs ≠ 0) (calls : List (K × ℕ)) (key : K) (now : ℕ)
    (hcalls : Chronological (calls ++ [(key, now)]))
    (hclock : OnClock (calls ++ [(key, now)])) :
    let interval := Duration.fromSecs secs
    let reached :=
      (new capacity refill interval).after (calls ++ [(key, now)])
    (∀ other, reached.buckets.containsKey other = true ↔
        ∃ call ∈ calls ++ [(key, now)], call.1 = other ∧
          now < call.2 + 2 * interval ∧ call.2 ≤ now) ∧
      (∀ other bucket, reached.buckets.get other = some bucket →
        bucket.Live capacity interval now) ∧
      ∀ other later bucket, now ≤ later → later ≤ Instant.max →
        (reached.pruneIdle later).buckets.get other = some bucket →
          reached.FoundExactly other later bucket := by
  intro interval reached
  have hinterval : 0 < interval := fromSecs_pos hsecs
  have haccounted := accounted_after capacity refill hinterval hcalls hclock
  have hlast : (key, now) ∈ calls ++ [(key, now)] :=
    List.mem_append_right calls List.mem_cons_self
  have hpast := hcalls.forall_le_last
  refine ⟨fun other => (haccounted other).isSome_iff hpast hlast,
    fun other => (haccounted other).live hpast, ?_⟩
  · intro other later bucket _ hlater hkept
    have hlimits : HasLimits capacity refill interval reached :=
      hasLimits_after capacity refill interval _
    have hbucket := ((reached.get_pruneIdle_eq_some_iff other later
      bucket).mp hkept).1
    have hexplained : Explained capacity interval _ other bucket :=
      hbucket ▸ haccounted other
    exact foundExactly_of_live hsecs hlimits hlater hexplained.live hkept

/-- Two keys, the first one refilled late. -/
theorem buckets_represented_pair :
    let reached := (new 20 10 (Duration.fromSecs 60)).after
      ([(1, 0), (2, 5)] ++ [(1, Duration.fromSecs 119)])
    (∀ other : ℕ, reached.buckets.containsKey other = true ↔
        ∃ call ∈ [(1, 0), (2, 5)] ++ [(1, Duration.fromSecs 119)],
          call.1 = other ∧
            Duration.fromSecs 119 < call.2 + 2 * Duration.fromSecs 60 ∧
            call.2 ≤ Duration.fromSecs 119) ∧
      (∀ other bucket, reached.buckets.get other = some bucket →
        bucket.Live 20 (Duration.fromSecs 60) (Duration.fromSecs 119)) ∧
      ∀ other later bucket, Duration.fromSecs 119 ≤ later →
        later ≤ Instant.max →
        (reached.pruneIdle later).buckets.get other = some bucket →
          reached.FoundExactly other later bucket :=
  buckets_represented 20 10 60 (by decide) [(1, 0), (2, 5)] 1
    (Duration.fromSecs 119) (by decide) (by unfold OnClock; decide)

end TokenBucketLimiter

end SshKnock
