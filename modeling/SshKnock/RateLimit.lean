import SshKnock.Core.HashMap
import SshKnock.Time

/-!
# The token bucket limiter

Every key owns a bucket of tokens that is refilled once a whole interval has
passed.  A call first drops the buckets that have been idle for two intervals.
-/

namespace SshKnock

/-! ## Arithmetic on 32 bits -/

def saturatingAdd (left right : UInt32) : UInt32 :=
  .ofNat (min (left.toNat + right.toNat) (2 ^ 32 - 1))

def saturatingMul (left right : UInt32) : UInt32 :=
  .ofNat (min (left.toNat * right.toNat) (2 ^ 32 - 1))

/-- The largest 32-bit number replaces a count that does not fit. -/
def saturatingCast (count : ℕ) : UInt32 :=
  .ofNat (min count (2 ^ 32 - 1))

theorem one_le_of_ne_zero {count : UInt32} (hcount : count ≠ 0) : 1 ≤ count := by
  rw [UInt32.le_iff_toNat_le, UInt32.toNat_one]
  exact Nat.pos_of_ne_zero fun hzero => hcount (UInt32.toNat_inj.mp hzero)

/-- A token fewer. -/
theorem toNat_sub_one {tokens : UInt32} (hsome : tokens ≠ 0) :
    (tokens - 1).toNat + 1 = tokens.toNat := by
  have hpos : 1 ≤ tokens.toNat :=
    UInt32.le_iff_toNat_le.mp (one_le_of_ne_zero hsome)
  rw [UInt32.toNat_sub_of_le _ _ (one_le_of_ne_zero hsome), UInt32.toNat_one]
  omega

structure Bucket where
  tokens : UInt32
  lastRefill : ℕ
  lastSeen : ℕ
  deriving DecidableEq

structure TokenBucketLimiter (K : Type*) where
  capacity : UInt32
  refill : UInt32
  interval : ℕ
  buckets : HashMap K Bucket

namespace TokenBucketLimiter

variable {K : Type*}

def new (capacity refill : UInt32) (interval : ℕ) : TokenBucketLimiter K :=
  { capacity, refill, interval, buckets := HashMap.empty }

/-- The number of buckets. -/
def len (limiter : TokenBucketLimiter K) : ℕ :=
  limiter.buckets.len

def idleTtl (limiter : TokenBucketLimiter K) : ℕ :=
  (Duration.checkedMul limiter.interval 2).getD Duration.max

def pruneIdle (limiter : TokenBucketLimiter K) (now : ℕ) :
    TokenBucketLimiter K :=
  { limiter with
    buckets := limiter.buckets.retain fun _ bucket =>
      Instant.durationSince now bucket.lastSeen < limiter.idleTtl }

/-- The bucket once the whole intervals since its last refill are credited. -/
def refilled (limiter : TokenBucketLimiter K) (bucket : Bucket) (now : ℕ) :
    Bucket :=
  let elapsed := Instant.durationSince now bucket.lastRefill
  if limiter.interval ≤ elapsed then
    let intervals := Duration.asSecs elapsed /
      max (Duration.asSecs limiter.interval) 1
    let add := saturatingMul limiter.refill (saturatingCast intervals)
    { bucket with
      tokens := min limiter.capacity (saturatingAdd bucket.tokens add)
      lastRefill := now }
  else bucket

/-- Take one token, if there is one. -/
def consumed (bucket : Bucket) : Bool × Bucket :=
  if bucket.tokens = 0 then (false, bucket)
  else (true, { bucket with tokens := bucket.tokens - 1 })

variable [DecidableEq K]

/-- The key's bucket as it is before a token is taken. -/
def bucketAt (limiter : TokenBucketLimiter K) (key : K) (now : ℕ) : Bucket :=
  let bucket := ((limiter.pruneIdle now).buckets.get key).getD
    { tokens := limiter.capacity, lastRefill := now, lastSeen := now }
  limiter.refilled { bucket with lastSeen := now } now

def allow (limiter : TokenBucketLimiter K) (key : K) (now : ℕ) :
    Bool × TokenBucketLimiter K :=
  let (allowed, bucket) := consumed (limiter.bucketAt key now)
  let pruned := limiter.pruneIdle now
  (allowed, { pruned with buckets := pruned.buckets.insert key bucket })

omit [DecidableEq K] in
theorem idleTtl_pos {limiter : TokenBucketLimiter K}
    (hinterval : 0 < limiter.interval) : 0 < limiter.idleTtl := by
  rw [idleTtl, Duration.checkedMul]
  split
  · exact Nat.mul_pos hinterval Nat.two_pos
  · rw [Option.getD_none]
    decide

/-! ## A single instant -/

theorem bucketAt_fresh {limiter : TokenBucketLimiter K} {key : K} {now : ℕ}
    (hinterval : 0 < limiter.interval)
    (hbucket : limiter.buckets.get key = none) :
    limiter.bucketAt key now = ⟨limiter.capacity, now, now⟩ := by
  have helapsed : ¬limiter.interval ≤ now - now := by omega
  rw [bucketAt, pruneIdle, refilled]
  rw [HashMap.get_retain, hbucket, Option.filter_none, Option.getD_none]
  exact if_neg helapsed

/-- A bucket used at this instant is neither pruned nor refilled. -/
theorem bucketAt_same_instant {limiter : TokenBucketLimiter K} {key : K}
    {now : ℕ} {tokens : UInt32} (hinterval : 0 < limiter.interval)
    (hbucket : limiter.buckets.get key = some ⟨tokens, now, now⟩) :
    limiter.bucketAt key now = ⟨tokens, now, now⟩ := by
  have hkept : decide (now - now < limiter.idleTtl) = true :=
    decide_eq_true (by have := idleTtl_pos hinterval; omega)
  have helapsed : ¬limiter.interval ≤ now - now := by omega
  have hpruned : (limiter.pruneIdle now).buckets.get key =
      some ⟨tokens, now, now⟩ := by
    rw [pruneIdle]
    rw [HashMap.get_retain, hbucket]
    exact Option.filter_eq_some_iff.mpr ⟨rfl, hkept⟩
  rw [bucketAt, refilled]
  rw [hpruned, Option.getD_some]
  exact if_neg helapsed

/-- What a call leaves behind for its own key. -/
theorem get_allow_self (limiter : TokenBucketLimiter K) (key : K) (now : ℕ) :
    (limiter.allow key now).2.buckets.get key =
      some (consumed (limiter.bucketAt key now)).2 :=
  HashMap.get_insert_self _ _ _

/-- A key takes its tokens one by one: after `count` calls at one instant,
`tokens` of the original number are left. -/
def Drained (limiter : TokenBucketLimiter K) (key : K) (now : ℕ)
    (tokens : UInt32) : Prop :=
  limiter.buckets.get key = some ⟨tokens, now, now⟩ ∨
    limiter.buckets.get key = none ∧ limiter.capacity = tokens

theorem Drained.allow {limiter : TokenBucketLimiter K} {key : K} {now : ℕ}
    {tokens : UInt32} (hinterval : 0 < limiter.interval)
    (hdrained : limiter.Drained key now tokens) :
    (limiter.allow key now).1 = decide (tokens ≠ 0) ∧
      (tokens ≠ 0 →
        (limiter.allow key now).2.Drained key now (tokens - 1)) := by
  have hbucket : limiter.bucketAt key now = ⟨tokens, now, now⟩ := by
    rcases hdrained with hsome | ⟨hnone, rfl⟩
    · exact bucketAt_same_instant hinterval hsome
    · exact bucketAt_fresh hinterval hnone
  have hallowed : (limiter.allow key now).1 =
      (consumed (limiter.bucketAt key now)).1 := rfl
  have hleft := limiter.get_allow_self key now
  rw [hbucket, consumed] at hallowed hleft
  by_cases hempty : tokens = 0
  · rw [if_pos hempty] at hallowed
    exact ⟨by simp [hallowed, hempty], fun hsome => absurd hempty hsome⟩
  · rw [if_neg hempty] at hallowed hleft
    exact ⟨by simp [hallowed, hempty], fun _ => Or.inl hleft⟩

end TokenBucketLimiter

end SshKnock
