import SshKnock.RateLimit.Metering

/-!
# What the allowance is worth

A key is granted no more than its burst and its refills when two refills fill
the bucket, and a key that stays within them is never denied when a single
refill does.  Otherwise dropping an idle bucket gives too much away, and
dropping what is left of an interval takes too much.
-/

namespace SshKnock

open SshKnock.Sharded

namespace TokenBucketLimiter

variable {K : Type*} [DecidableEq K]

/-- How many calls for the key are granted until some time. -/
def grantedUntil (limiter : TokenBucketLimiter K) (key : K)
    (calls : List (K × ℕ)) (finish : ℕ) : ℕ :=
  (callsOf key (limiter.trace calls)).countP fun call =>
    call.output && call.time ≤ finish

/-- From the first call for the key on, no more are granted than the burst and
the refills of the time that has passed. -/
def GrantsWithin (limiter : TokenBucketLimiter K) (key : K)
    (calls : List (K × ℕ)) : Prop :=
  ∀ first ∈ (callsOf key (limiter.trace calls)).head?, ∀ finish,
    first.time ≤ finish → limiter.grantedUntil key calls finish ≤
      limiter.capacity.toNat + limiter.refill.toNat *
        ((finish - first.time) / limiter.interval)

/-- When the key is called. -/
def callTimes (key : K) (calls : List (K × ℕ)) : List ℕ :=
  (calls.filter fun call => call.1 = key).map Prod.snd

/-- Between any two calls for the key there are no more than the burst and the
refills of the time between them. -/
def Conforms (limiter : TokenBucketLimiter K) (key : K)
    (calls : List (K × ℕ)) : Prop :=
  ∀ start ∈ callTimes key calls, ∀ finish ∈ callTimes key calls,
    start ≤ finish →
      (callTimes key calls).countP (fun time => start ≤ time && time ≤ finish) ≤
        limiter.capacity.toNat + limiter.refill.toNat *
          ((finish - start) / limiter.interval)

/-- The clock can show every time of the run. -/
def OnClock (calls : List (K × ℕ)) : Prop :=
  ∀ call ∈ calls, call.2 ≤ Instant.max

variable {capacity refill : UInt32} {secs : UInt64}

/-! ## What is guaranteed -/

/-- The history of a key, answers and times in their order. -/
theorem pairwise_history (limiter : TokenBucketLimiter K)
    {calls : List (K × ℕ)} (hcalls : Chronological calls) (key : K) :
    ((callsOf key (limiter.trace calls)).map
      fun call => (call.time, call.output)).Pairwise
        fun earlier later => earlier.1 ≤ later.1 :=
  List.pairwise_map.mpr (limiter.pairwise_callsOf hcalls key)

/-- No key is granted more than its burst and its refills, if two refills fill
a bucket or the clock ends before a bucket can be dropped. -/
theorem grantsWithin_of_le (hsecs : secs ≠ 0)
    (henough : capacity.toNat ≤ 2 * refill.toNat ∨
      Instant.max < 2 * Duration.fromSecs secs)
    {calls : List (K × ℕ)} (hcalls : Chronological calls)
    (hclock : OnClock calls) (key : K) :
    (new capacity refill (Duration.fromSecs secs)).GrantsWithin key calls := by
  have hhistory := history_callsOf capacity refill hsecs hcalls hclock key
  have hordered := pairwise_history
    (new capacity refill (Duration.fromSecs secs)) hcalls key
  have hrenewable : ∀ meter now, Droppable secs meter now →
      (quota capacity refill hsecs).capacity ≤
        (quota capacity refill hsecs).earned (now - meter.anchor) := by
    rintro meter now ⟨hidle, hnow⟩
    rcases henough with htwice | hshort
    · have htwo : (quota capacity refill hsecs).earned
          (2 * (quota capacity refill hsecs).interval) = 2 * refill.toNat :=
        Quota.earned_two_intervals
      exact htwice.trans (htwo.ge.trans (Quota.earned_mono hidle))
    · omega
  intro first hfirst finish hfinish
  obtain ⟨rest, hrest⟩ := List.head?_eq_some_iff.mp hfirst
  have hcount : (new capacity refill (Duration.fromSecs secs)).grantedUntil key
      calls finish = Quota.granted finish
        ((callsOf key ((new capacity refill (Duration.fromSecs secs)).trace
          calls)).map fun call => (call.time, call.output)) := by
    rw [grantedUntil, Quota.granted, List.countP_map]
    rfl
  rw [hcount]
  rw [hrest, List.map_cons] at hhistory hordered ⊢
  exact Quota.granted_le_allowance hrenewable hhistory hordered hfinish

/-- A key that stays within its burst and its refills is never denied, if one
refill fills a bucket or the clock ends before two intervals are over. -/
theorem granted_of_conforms (hcapacity : capacity ≠ 0) (hsecs : secs ≠ 0)
    (henough : capacity.toNat ≤ refill.toNat ∨
      Instant.max < 2 * Duration.fromSecs secs)
    {calls : List (K × ℕ)} (hcalls : Chronological calls)
    (hclock : OnClock calls) {key : K}
    (hconforms :
      (new capacity refill (Duration.fromSecs secs)).Conforms key calls) :
    ∀ call ∈ callsOf key
        ((new capacity refill (Duration.fromSecs secs)).trace calls),
      call.output = true := by
  have hhistory := history_callsOf capacity refill hsecs hcalls hclock key
  have hordered := pairwise_history
    (new capacity refill (Duration.fromSecs secs)) hcalls key
  have hpositive : 0 < capacity.toNat := Nat.pos_of_ne_zero fun hzero =>
    hcapacity (UInt32.toNat_inj.mp hzero)
  have htimes : ((callsOf key
      ((new capacity refill (Duration.fromSecs secs)).trace calls)).map
        fun call => (call.time, call.output)).map Prod.fst =
        callTimes key calls := by
    rw [callTimes, ← map_call_callsOf, List.map_map, List.map_map]
    rfl
  have hlossless : (quota capacity refill hsecs).Lossless
      (callTimes key calls) := by
    apply henough.imp_right
    intro hshort time htime
    obtain ⟨call, hcall, rfl⟩ := List.mem_map.mp htime
    exact lt_of_le_of_lt (hclock call (List.mem_of_mem_filter hcall)) hshort
  intro call hcall
  apply Quota.forall_granted_of_conforming hpositive hhistory hordered
    (htimes ▸ hconforms) (htimes ▸ hlossless) (call.time, call.output)
  exact List.mem_map_of_mem hcall

/-! ## Calls that use up a bucket -/

/-- So many calls for the key at one instant, all of them granted. -/
def burst (key : K) (count now : ℕ) : List (LimiterCall K) :=
  List.replicate count { input := key, time := now, hint := (), output := true }

variable {interval : ℕ}

/-- A burst takes its tokens one by one. -/
theorem replays_burst (capacity refill : UInt32) (hinterval : 0 < interval)
    (key : K) (now count left : ℕ) {slot : Option Bucket} {tokens : UInt32}
    (hcurrent : (new capacity refill interval :
      TokenBucketLimiter K).current now slot = ⟨tokens, now, now⟩)
    (htokens : tokens.toNat = count + left) :
    (machine capacity refill interval).Replays slot (burst key count now) ∧
      (0 < count → ∃ rest : UInt32, rest.toNat = left ∧
        (machine capacity refill interval).replay slot (burst key count now) =
          some ⟨rest, now, now⟩) := by
  induction count generalizing slot tokens with
  | zero => exact ⟨trivial, fun hnone => absurd hnone (Nat.lt_irrefl 0)⟩
  | succ count ih =>
      have hsome : tokens ≠ 0 := by
        rintro rfl
        rw [UInt32.toNat_zero] at htokens
        omega
      have hrest : (tokens - 1).toNat = count + left := by
        have hone : (1 : UInt32) ≤ tokens := by
          rw [UInt32.le_iff_toNat_le, htokens, UInt32.toNat_one]
          omega
        rw [UInt32.toNat_sub_of_le _ _ hone, htokens, UInt32.toNat_one]
        omega
      have hadvance : (new capacity refill interval :
          TokenBucketLimiter K).advance now slot =
            (true, some ⟨tokens - 1, now, now⟩) := by
        rw [advance, hcurrent, consumed, if_neg hsome]
      have hnext := ih (current_same_instant hinterval (tokens - 1) now) hrest
      have hmachine : (machine capacity refill interval).advance () key now
          slot = (true, some ⟨tokens - 1, now, now⟩) := hadvance
      rw [burst, List.replicate_succ, Machine.Replays, Machine.replay, hmachine]
      refine ⟨⟨rfl, hnext.1⟩, fun _ => ?_⟩
      cases count with
      | zero => exact ⟨tokens - 1, by simpa using hrest, rfl⟩
      | succ count => exact hnext.2 (Nat.succ_pos count)

/-- A history of one key is what the limiter answers to its calls. -/
theorem callsOf_eq_of_replays {key : K} {calls : List (LimiterCall K)}
    (hreplays : (machine capacity refill interval).Replays none calls)
    (hkey : ∀ call ∈ calls, call.input = key)
    (hcalls : Chronological
      (calls.map fun call => (call.input, call.time))) :
    callsOf key ((new capacity refill interval).trace
      (calls.map fun call => (call.input, call.time))) = calls := by
  let table : Machine (TokenBucketLimiter K) K K Unit Bool (Option Bucket) :=
    machine capacity refill interval
  let limiter : TokenBucketLimiter K := new capacity refill interval
  have hgood : table.Good limiter := HasLimits.new _ _ _
  have hempty : table.age 0 (table.cell limiter key) = table.age 0 none := rfl
  have hown := table.replays_own 0 key hgood (fun _ _ => Nat.zero_le _) hcalls
    hempty
  apply table.eq_of_replays hown hreplays
  rw [table.map_call_own]
  apply List.filter_eq_self.mpr
  intro call hcall
  obtain ⟨entry, hentry, rfl⟩ := List.mem_map.mp hcall
  exact decide_eq_true (hkey entry hentry)

omit [DecidableEq K] in
theorem idleTtl_new (hclock : 2 * interval ≤ Instant.max) :
    (new capacity refill interval : TokenBucketLimiter K).idleTtl =
      2 * interval := by
  have hlong : Instant.max ≤ Duration.max := by decide
  have hfits : interval * 2 ≤ Duration.max := by omega
  show (Duration.checkedMul interval 2).getD Duration.max = _
  rw [Duration.checkedMul, if_pos hfits, Option.getD_some, Nat.mul_comm]

omit [DecidableEq K] in
theorem mem_burst {key : K} {count now : ℕ} {call : LimiterCall K}
    (hcall : call ∈ burst key count now) :
    call = { input := key, time := now, hint := (), output := true } :=
  List.eq_of_mem_replicate hcall

omit [DecidableEq K] in
theorem countP_burst (counts : LimiterCall K → Bool) (key : K)
    (count now : ℕ) : (burst key count now).countP counts =
      if counts ⟨key, now, (), true⟩ then count else 0 :=
  List.countP_replicate

omit [DecidableEq K] in
theorem chronological_burst (key : K) (count now : ℕ) :
    Chronological ((burst key count now).map
      fun call => (call.input, call.time)) := by
  rw [burst, List.map_replicate]
  exact List.pairwise_replicate.mpr (Or.inr le_rfl)

/-- A burst, and another one as soon as the idle bucket is dropped. -/
def renewedBursts (key : K) (count interval : ℕ) : List (LimiterCall K) :=
  burst key count 0 ++ burst key count (2 * interval)

theorem replays_renewedBursts (capacity refill : UInt32)
    (hinterval : 0 < interval) (hclock : 2 * interval ≤ Instant.max) (key : K) :
    (machine capacity refill interval).Replays none
      (renewedBursts key capacity.toNat interval) := by
  have hopened := replays_burst capacity refill hinterval key 0
    capacity.toNat 0 (current_dropped hinterval (Option.filter_none _)) rfl
  rw [renewedBursts, Machine.replays_append]
  refine ⟨hopened.1, ?_⟩
  rcases Nat.eq_zero_or_pos capacity.toNat with hnone | hsome
  · rw [hnone]
    trivial
  · obtain ⟨rest, -, hreplay⟩ := hopened.2 hsome
    have hidle : (new capacity refill interval : TokenBucketLimiter K).age
        (2 * interval) (some ⟨rest, 0, 0⟩) = none := by
      rw [age, Option.filter_eq_none_iff, idleTtl_new hclock]
      rintro _ ⟨⟩
      simp [Instant.durationSince]
    rw [hreplay]
    exact (replays_burst capacity refill hinterval key _ _ 0
      (current_dropped hinterval hidle) rfl).1

omit [DecidableEq K] in
theorem chronological_renewedBursts (key : K) (count interval : ℕ) :
    Chronological ((renewedBursts key count interval).map
      fun call => (call.input, call.time)) := by
  rw [renewedBursts, List.map_append]
  apply List.pairwise_append.mpr
  refine ⟨chronological_burst key count 0, chronological_burst key count _, ?_⟩
  intro first hfirst second _
  obtain ⟨call, hcall, rfl⟩ := List.mem_map.mp hfirst
  rw [mem_burst hcall]
  exact Nat.zero_le _

/-- Where both bursts fit the allowance, two refills fill a bucket. -/
theorem le_of_grantsWithin (hinterval : 0 < interval)
    (hclock : 2 * interval ≤ Instant.max) (key : K)
    (hwithin : (new capacity refill interval).GrantsWithin key
      ((renewedBursts key capacity.toNat interval).map
        fun call => (call.input, call.time))) :
    capacity.toNat ≤ 2 * refill.toNat := by
  have hkey : ∀ call ∈ renewedBursts key capacity.toNat interval,
      call.input = key := by
    intro call hcall
    rcases List.mem_append.mp hcall with hfirst | hsecond
    · rw [mem_burst hfirst]
    · rw [mem_burst hsecond]
  have hcalls := callsOf_eq_of_replays
    (replays_renewedBursts capacity refill hinterval hclock key) hkey
    (chronological_renewedBursts key capacity.toNat interval)
  rcases Nat.eq_zero_or_pos capacity.toNat with hnone | hsome
  · omega
  obtain ⟨count, hcount⟩ := Nat.exists_eq_add_one_of_ne_zero hsome.ne'
  have hfirst : (⟨key, 0, (), true⟩ : LimiterCall K) ∈
      (renewedBursts key capacity.toNat interval).head? := by
    rw [hcount]
    rfl
  have hgranted := hwithin ⟨key, 0, (), true⟩ (hcalls.symm ▸ hfirst)
    (2 * interval) (Nat.zero_le _)
  have htwice : (new capacity refill interval).grantedUntil key
      ((renewedBursts key capacity.toNat interval).map
        fun call => (call.input, call.time)) (2 * interval) =
        capacity.toNat + capacity.toNat := by
    rw [grantedUntil, hcalls, renewedBursts, List.countP_append, countP_burst,
      countP_burst]
    simp
  have hpassed : (2 * interval - 0) / interval = 2 := by
    rw [Nat.sub_zero, Nat.mul_div_cancel _ hinterval]
  have hbound : capacity.toNat + capacity.toNat ≤
      capacity.toNat + refill.toNat * ((2 * interval - 0) / interval) :=
    htwice ▸ hgranted
  rw [hpassed] at hbound
  omega

/-- A burst, one refill just before the second interval is over, and a call
when it is. -/
def unevenCalls (key : K) (count refill interval : ℕ) :
    List (LimiterCall K) :=
  burst key count 0 ++ burst key refill (2 * interval - 1) ++
    [{ input := key, time := 2 * interval, hint := (), output := false }]

omit [DecidableEq K] in
theorem mem_unevenCalls {key : K} {count refill : ℕ} {call : LimiterCall K}
    (hcall : call ∈ unevenCalls key count refill interval) :
    call.input = key ∧ call.time ≤ 2 * interval := by
  rw [unevenCalls, List.mem_append, List.mem_append] at hcall
  rcases hcall with (hfirst | hsecond) | hlast
  · rw [mem_burst hfirst]
    exact ⟨rfl, Nat.zero_le _⟩
  · rw [mem_burst hsecond]
    exact ⟨rfl, Nat.sub_le _ _⟩
  · rw [List.mem_singleton.mp hlast]
    exact ⟨rfl, le_rfl⟩

omit [DecidableEq K] in
/-- What the refill leaves in an empty bucket. -/
theorem current_refilled (hsecs : secs ≠ 0)
    (hinterval : interval = Duration.fromSecs secs)
    (hclock : 2 * interval ≤ Instant.max)
    (hrefill : refill.toNat ≤ capacity.toNat) :
    ∃ tokens : UInt32, tokens.toNat = refill.toNat + 0 ∧
      (new capacity refill interval : TokenBucketLimiter K).current
        (2 * interval - 1) (some ⟨0, 0, 0⟩) =
          ⟨tokens, 2 * interval - 1, 2 * interval - 1⟩ := by
  have hpos : 0 < interval := hinterval ▸ fromSecs_pos hsecs
  let limiter : TokenBucketLimiter K := new capacity refill interval
  have hlimits : HasLimits capacity refill (Duration.fromSecs secs) limiter :=
    ⟨rfl, rfl, hinterval⟩
  have hkept : 2 * interval - 1 - 0 < limiter.idleTtl := by
    rw [idleTtl_new hclock]
    omega
  have hmeter := meter_refilled hlimits hsecs
    ⟨0, 0, 2 * interval - 1⟩ (2 * interval - 1)
  have hseen := limiter.lastSeen_refilled ⟨0, 0, 2 * interval - 1⟩
    (2 * interval - 1)
  have hcredit : (quota capacity refill hsecs).credit (2 * interval - 1)
      (⟨0, 0, 2 * interval - 1⟩ : Bucket).meter =
        ⟨refill.toNat, 2 * interval - 1⟩ := by
    have hone : (2 * interval - 1 - 0) / interval = 1 :=
      Nat.div_eq_of_lt_le (by omega) (by omega)
    have hearned : (quota capacity refill hsecs).earned
        (2 * interval - 1 - 0) = refill.toNat := by
      show refill.toNat * ((2 * interval - 1 - 0) / Duration.fromSecs secs) = _
      rw [← hinterval, hone, Nat.mul_one]
    have hwhole : (quota capacity refill hsecs).interval ≤
        2 * interval - 1 - 0 := by
      show Duration.fromSecs secs ≤ _
      omega
    have hfits : min capacity.toNat (0 + refill.toNat) = refill.toNat := by
      omega
    show Quota.credit _ _ ⟨0, 0⟩ = _
    rw [Quota.credit, if_pos hwhole, hearned]
    exact congrArg (Meter.mk · _) hfits
  rw [current_kept hkept]
  generalize limiter.refilled ⟨0, 0, 2 * interval - 1⟩ (2 * interval - 1) =
    bucket at hmeter hseen
  obtain ⟨tokens, lastRefill, lastSeen⟩ := bucket
  obtain ⟨htokens, rfl⟩ := Meter.mk.inj (hmeter.trans hcredit)
  obtain rfl : lastSeen = 2 * interval - 1 := hseen
  exact ⟨tokens, htokens, rfl⟩

omit [DecidableEq K] in
/-- A single nanosecond after a refill nothing is restored. -/
theorem advance_emptied (hinterval : 1 < interval)
    (hclock : 2 * interval ≤ Instant.max) :
    ((new capacity refill interval : TokenBucketLimiter K).advance
      (2 * interval) (some ⟨0, 2 * interval - 1, 2 * interval - 1⟩)).1 =
        false := by
  let limiter : TokenBucketLimiter K := new capacity refill interval
  have hkept : 2 * interval - (2 * interval - 1) < limiter.idleTtl := by
    rw [idleTtl_new hclock]
    omega
  have hpart : ¬limiter.interval ≤ Instant.durationSince (2 * interval)
      (2 * interval - 1) := by
    show ¬interval ≤ 2 * interval - (2 * interval - 1)
    omega
  rw [advance, current_kept hkept, refilled, if_neg hpart]
  rfl

theorem replays_unevenCalls (hsecs : secs ≠ 0)
    (hinterval : interval = Duration.fromSecs secs) (hlong : 1 < interval)
    (hclock : 2 * interval ≤ Instant.max) (hrefill : 0 < refill.toNat)
    (hsmall : refill.toNat < capacity.toNat) (key : K) :
    (machine capacity refill interval).Replays none
      (unevenCalls key capacity.toNat refill.toNat interval) := by
  have hpos : 0 < interval := Nat.zero_lt_of_lt hlong
  have hopened := replays_burst capacity refill hpos key 0 capacity.toNat 0
    (current_dropped hpos (Option.filter_none _)) rfl
  obtain ⟨rest, hrest, hemptied⟩ := hopened.2 (hrefill.trans hsmall)
  obtain rfl : rest = 0 := UInt32.toNat_inj.mp hrest
  obtain ⟨tokens, htokens, hcurrent⟩ := current_refilled (K := K) hsecs
    hinterval hclock hsmall.le
  have hrefilled := replays_burst capacity refill hpos key (2 * interval - 1)
    refill.toNat 0 hcurrent htokens
  obtain ⟨rest, hrest, hspent⟩ := hrefilled.2 hrefill
  obtain rfl : rest = 0 := UInt32.toNat_inj.mp hrest
  rw [unevenCalls, Machine.replays_append, Machine.replays_append,
    Machine.replay_append, hemptied, hspent]
  exact ⟨⟨hopened.1, hrefilled.1⟩, (advance_emptied hlong hclock).symm, trivial⟩

omit [DecidableEq K] in
theorem chronological_unevenCalls (key : K) (count refill interval : ℕ) :
    Chronological ((unevenCalls key count refill interval).map
      fun call => (call.input, call.time)) := by
  simp only [Chronological, unevenCalls, burst, List.map_append,
    List.map_replicate, List.pairwise_append, List.pairwise_replicate]
  simp
  omega

theorem callTimes_unevenCalls (key : K) (count refill interval : ℕ) :
    callTimes key ((unevenCalls key count refill interval).map
      fun call => (call.input, call.time)) =
      List.replicate count 0 ++ List.replicate refill (2 * interval - 1) ++
        [2 * interval] := by
  simp [callTimes, unevenCalls, burst]

/-- How many of these calls come between two times. -/
theorem countP_unevenCalls (count refill interval start finish : ℕ) :
    (List.replicate count 0 ++ List.replicate refill (2 * interval - 1) ++
        [2 * interval]).countP (fun time => start ≤ time && time ≤ finish) =
      (if start = 0 then count else 0) +
        (if start ≤ 2 * interval - 1 ∧ 2 * interval - 1 ≤ finish then refill
          else 0) +
        if start ≤ 2 * interval ∧ 2 * interval ≤ finish then 1 else 0 := by
  rw [List.countP_append, List.countP_append, List.countP_replicate,
    List.countP_replicate, List.countP_singleton]
  simp

/-- These calls stay within the burst and the refills. -/
theorem conforms_unevenCalls (hlong : 1 < interval) (hrefill : 0 < refill.toNat)
    (hsmall : refill.toNat < capacity.toNat) (key : K) :
    (new capacity refill interval).Conforms key
      ((unevenCalls key capacity.toNat refill.toNat interval).map
        fun call => (call.input, call.time)) := by
  have hone : (2 * interval - 1) / interval = 1 :=
    Nat.div_eq_of_lt_le (by omega) (by omega)
  have htwo : 2 * interval / interval = 2 :=
    Nat.mul_div_cancel _ (Nat.zero_lt_of_lt hlong)
  have hcapacity : (new capacity refill interval :
      TokenBucketLimiter K).capacity.toNat = capacity.toNat := rfl
  rw [Conforms, callTimes_unevenCalls]
  have hmem : ∀ time ∈ List.replicate capacity.toNat 0 ++
      List.replicate refill.toNat (2 * interval - 1) ++ [2 * interval],
      time = 0 ∨ time = 2 * interval - 1 ∨ time = 2 * interval := by
    intro time htime
    rw [List.mem_append, List.mem_append, List.mem_replicate,
      List.mem_replicate, List.mem_singleton] at htime
    exact htime.elim (fun hearly => hearly.imp And.right fun hlate =>
      Or.inl hlate.2) fun hlast => Or.inr (Or.inr hlast)
  intro start hstart finish hfinish hle
  rw [countP_unevenCalls]
  have hallowance : ∀ intervals used : ℕ,
      (finish - start) / interval = intervals →
        used ≤ capacity.toNat + refill.toNat * intervals →
          used ≤ capacity.toNat + refill.toNat * ((finish - start) / interval) := by
    rintro intervals used rfl hused
    exact hused
  rcases hmem start hstart with rfl | rfl | rfl
  · rcases hmem finish hfinish with rfl | rfl | rfl
    · rw [if_pos rfl, if_neg (by omega), if_neg (by omega)]
      exact Nat.le_add_right _ _
    · rw [if_pos rfl, if_pos (by omega), if_neg (by omega)]
      exact hallowance 1 _ hone (by omega)
    · rw [if_pos rfl, if_pos (by omega), if_pos (by omega)]
      exact hallowance 2 _ htwo (by omega)
  · rw [if_neg (by omega), if_pos (by omega)]
    apply Nat.le_add_right_of_le
    split <;> omega
  · rw [if_neg (by omega), if_neg (by omega)]
    apply Nat.le_add_right_of_le
    split <;> omega

theorem one_lt_fromSecs (hsecs : secs ≠ 0) : 1 < Duration.fromSecs secs := by
  have hpos : 1 ≤ secs.toNat := Nat.pos_of_ne_zero fun hzero =>
    hsecs (UInt64.toNat_inj.mp hzero)
  calc 1 < Duration.nanosPerSec := by decide
    _ ≤ secs.toNat * Duration.nanosPerSec := Nat.le_mul_of_pos_left _ hpos

/-! ## Exactly when -/

/-- The limiter keeps every key within its burst and its refills exactly when
two refills fill a bucket; on a clock that ends before two intervals are over it
always does. -/
theorem grantsWithin_iff (capacity refill : UInt32) (secs : UInt64)
    (hsecs : secs ≠ 0) (key : K) :
    (∀ calls : List (K × ℕ), Chronological calls → OnClock calls →
        (new capacity refill (Duration.fromSecs secs)).GrantsWithin key calls) ↔
      capacity.toNat ≤ 2 * refill.toNat ∨
        Instant.max < 2 * Duration.fromSecs secs := by
  constructor
  · intro hwithin
    apply or_iff_not_imp_right.mpr
    intro hlong
    have hclock := Nat.not_lt.mp hlong
    apply le_of_grantsWithin (fromSecs_pos hsecs) hclock key
    apply hwithin _ (chronological_renewedBursts key _ _)
    intro call hcall
    obtain ⟨entry, hentry, rfl⟩ := List.mem_map.mp hcall
    rcases List.mem_append.mp hentry with hfirst | hsecond
    · rw [mem_burst hfirst]
      exact Nat.zero_le _
    · rw [mem_burst hsecond]
      exact hclock
  · exact fun henough _ hcalls hclock =>
      grantsWithin_of_le hsecs henough hcalls hclock key

/-- The default limits keep every source within its allowance. -/
theorem grantsWithin_iff_default :
    (∀ calls : List (ℕ × ℕ), Chronological calls → OnClock calls →
        (new 20 10 (Duration.fromSecs 60)).GrantsWithin 1 calls) ↔
      (20 : UInt32).toNat ≤ 2 * (10 : UInt32).toNat ∨
        Instant.max < 2 * Duration.fromSecs 60 :=
  grantsWithin_iff 20 10 60 (by decide) 1

/-- Five calls, and five more once the bucket has been idle for two minutes. -/
def idleCalls : List (ℕ × ℕ) :=
  List.replicate 5 (1, 0) ++ List.replicate 5 (1, Duration.fromSecs 120)

/-- All ten calls are granted where the burst and two refills are seven. -/
theorem idle_bucket_overgranted :
    Chronological idleCalls ∧ OnClock idleCalls ∧
      (new 5 1 (Duration.fromSecs 60)).grantedUntil 1 idleCalls
        (Duration.fromSecs 120) = 10 ∧
      ¬(new 5 1 (Duration.fromSecs 60)).GrantsWithin 1 idleCalls := by
  have hgranted : (new 5 1 (Duration.fromSecs 60)).grantedUntil 1 idleCalls
      (Duration.fromSecs 120) = 10 := by decide +kernel
  refine ⟨by decide, by unfold OnClock; decide, hgranted, fun hwithin => ?_⟩
  have hbound := hwithin ⟨1, 0, (), true⟩ (by decide +kernel)
    (Duration.fromSecs 120) (Nat.zero_le _)
  rw [hgranted] at hbound
  revert hbound
  decide +kernel

/-- No key that stays within its burst and its refills is ever denied exactly
when a single refill fills a bucket; on a clock that ends before two intervals
are over none is. -/
theorem granted_iff (capacity refill : UInt32) (secs : UInt64)
    (hcapacity : capacity ≠ 0) (hrefill : refill ≠ 0) (hsecs : secs ≠ 0)
    (key : K) :
    (∀ calls : List (K × ℕ), Chronological calls → OnClock calls →
        (new capacity refill (Duration.fromSecs secs)).Conforms key calls →
          ∀ call ∈ callsOf key
            ((new capacity refill (Duration.fromSecs secs)).trace calls),
            call.output = true) ↔
      capacity.toNat ≤ refill.toNat ∨
        Instant.max < 2 * Duration.fromSecs secs := by
  constructor
  · intro hgranted
    by_contra hneither
    obtain ⟨hsmall, hlong⟩ := not_or.mp hneither
    have hsmall := Nat.not_le.mp hsmall
    have hclock := Nat.not_lt.mp hlong
    have hsome : 0 < refill.toNat := Nat.pos_of_ne_zero fun hzero =>
      hrefill (UInt32.toNat_inj.mp hzero)
    have hlong := one_lt_fromSecs hsecs
    have hcalls := callsOf_eq_of_replays
      (replays_unevenCalls hsecs rfl hlong hclock hsome hsmall key)
      (fun _ hcall => (mem_unevenCalls hcall).1)
      (chronological_unevenCalls key _ _ _)
    have honClock : OnClock ((unevenCalls key capacity.toNat refill.toNat
        (Duration.fromSecs secs)).map fun call => (call.input, call.time)) := by
      intro call hcall
      obtain ⟨entry, hentry, rfl⟩ := List.mem_map.mp hcall
      exact (mem_unevenCalls hentry).2.trans hclock
    have hdenied := hgranted _ (chronological_unevenCalls key _ _ _) honClock
      (conforms_unevenCalls hlong hsome hsmall key)
      ⟨key, 2 * Duration.fromSecs secs, (), false⟩
      (by rw [hcalls]; exact List.mem_append_right _ List.mem_cons_self)
    cases hdenied
  · exact fun henough _ hcalls hclock hconforms =>
      granted_of_conforms hcapacity hsecs henough hcalls hclock hconforms

theorem granted_iff_single :
    (∀ calls : List (ℕ × ℕ), Chronological calls → OnClock calls →
        (new 1 1 (Duration.fromSecs 60)).Conforms 1 calls →
          ∀ call ∈ callsOf 1 ((new 1 1 (Duration.fromSecs 60)).trace calls),
            call.output = true) ↔
      (1 : UInt32).toNat ≤ (1 : UInt32).toNat ∨
        Instant.max < 2 * Duration.fromSecs 60 :=
  granted_iff 1 1 60 (by decide) (by decide) (by decide) 1

/-- A burst, the refill of one minute a nanosecond before the second is over,
and a call when it is. -/
def hurriedCalls : List (ℕ × ℕ) :=
  List.replicate 20 (1, 0) ++
    List.replicate 10 (1, Duration.fromSecs 120 - 1) ++
      [(1, Duration.fromSecs 120)]

instance (limiter : TokenBucketLimiter K) (key : K) (calls : List (K × ℕ)) :
    Decidable (limiter.Conforms key calls) :=
  inferInstanceAs (Decidable (∀ start ∈ callTimes key calls,
    ∀ finish ∈ callTimes key calls, _))

/-- With the default limits the calls conform, and the last one is denied. -/
theorem hurried_source_denied :
    Chronological hurriedCalls ∧ OnClock hurriedCalls ∧
      (new 20 10 (Duration.fromSecs 60)).Conforms 1 hurriedCalls ∧
      (callsOf 1 ((new 20 10 (Duration.fromSecs 60)).trace hurriedCalls)).map
        Entry.output = List.replicate 30 true ++ [false] := by
  refine ⟨by decide, by unfold OnClock; decide, ?_, ?_⟩ <;> decide +kernel

end TokenBucketLimiter

end SshKnock
