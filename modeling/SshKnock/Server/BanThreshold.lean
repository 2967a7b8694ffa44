import SshKnock.RateLimit.Burst
import SshKnock.Server.BanWindow
import SshKnock.Server.ClockRange
import SshKnock.Server.Steering

/-!
# How many invalid packets a source has

A source without a live bucket has its whole allowance of invalid packets for
the next minute.  Neither its valid packets nor the packets of others touch it,
so exactly the packet after the last allowed one leads to a ban, unless the
end of the ban is beyond the clock.
-/

namespace SshKnock

namespace Handling

/-- The packet reaches the tracker for this source and is found invalid. -/
def invalidFrom (sourceIp : IpAddr) (handling : Handling) : Bool :=
  handling.sourceIp = sourceIp &&
    !handling.before.bannedAt sourceIp handling.now &&
    (handling.before.outcome handling.arrival).isInvalid

/-- The packet causes no command, and the ban map does not hold the source
afterwards. -/
structure Tolerated (sourceIp : IpAddr) (handling : Handling) : Prop where
  issued_eq : handling.issued = []
  unbanned : handling.after.bannedSources.containsKey sourceIp = false

/-- The packet causes the command that bans the source and no other, and
nothing is reported but how the command ended. -/
structure BansOnce (sourceIp : IpAddr) (handling : Handling) : Prop where
  issued_eq :
    handling.issued = [handling.before.firewall.banIpCommand sourceIp]
  reported : ∃ event ∈ ["rate_limit_ban", "firewall_ban_failed"],
    ∃ message, handling.after.logger =
      (handling.before.logger.log event message).2
  packetTelemetryLimiter_eq : handling.after.packetTelemetryLimiter =
    handling.before.packetTelemetryLimiter

/-- A ban from now on would end on the clock, or the ban map is full, and then
no end is looked for. -/
def CanEnd (handling : Handling) : Prop :=
  handling.now + Duration.fromSecs handling.before.config.banTimeout ≤
      Instant.max ∨
    handling.before.config.maxPartialStates ≤
      (handling.before.expireBannedSources handling.now).bannedSources.len

end Handling

/-- The limiter of the sources as the configuration describes it. -/
def Config.sourceLimiter (config : Config) : TokenBucketLimiter IpAddr :=
  .new config.invalidBurstLimit config.invalidRefillPerMinute
    (Duration.fromSecs 60)

theorem Config.timed_sourceLimiter (config : Config) :
    config.sourceLimiter.Timed where
  interval_pos := TokenBucketLimiter.fromSecs_pos (by decide)
  interval_le := by
    show Duration.fromSecs 60 ≤
      (Duration.checkedMul (Duration.fromSecs 60) 2).getD Duration.max
    decide

namespace Server

variable {config : Config} {sourceIp : IpAddr} {start : ℕ} {times : List ℕ}
  {server : Server}

/-- A ban that is over stays over. -/
theorem get_expireBannedSources_mono {early late : ℕ} (hle : early ≤ late)
    (hover :
      (server.expireBannedSources early).bannedSources.get sourceIp = none) :
    (server.expireBannedSources late).bannedSources.get sourceIp = none := by
  rw [expireBannedSources, HashMap.get_retain,
    Option.filter_eq_none_iff] at hover ⊢
  intro expiresAt hentry hlive
  rw [decide_eq_true_eq] at hlive
  exact hover expiresAt hentry (decide_eq_true (lt_of_le_of_lt hle hlive))

/-- The source is not banned, and its invalid packets since the start came at
these times. -/
structure Counting (config : Config) (sourceIp : IpAddr) (start : ℕ)
    (times : List ℕ) (server : Server) : Prop where
  configured : Configured config server
  bursting : server.sourceLimiter.Bursting config.invalidBurstLimit
    config.invalidRefillPerMinute (Duration.fromSecs 60) start sourceIp times
  unbanned :
    (server.expireBannedSources start).bannedSources.get sourceIp = none

theorem Counting.sameMemory {other : Server}
    (hcounting : Counting config sourceIp start times server)
    (hsame : SameMemory other server) :
    Counting config sourceIp start times other where
  configured := hcounting.configured.sameMemory hsame
  bursting := hsame.sourceLimiter_eq ▸ hcounting.bursting
  unbanned := by
    rw [expireBannedSources, hsame.bannedSources_eq]
    exact hcounting.unbanned

theorem Counting.unbanned_at
    (hcounting : Counting config sourceIp start times server) {now : ℕ}
    (hle : start ≤ now) : server.bannedAt sourceIp now = false :=
  bannedAt_eq_false_iff.mpr
    (get_expireBannedSources_mono hle hcounting.unbanned)

/-- What a packet of another source or a valid packet leaves alone. -/
theorem Counting.judge_uncounted
    (hcounting : Counting config sourceIp start times server)
    {arrival : Arrival}
    (hwithin : config.sourceLimiter.Within start times arrival.now)
    (huncounted : arrival.sourceIp = sourceIp →
      (server.outcome arrival).isInvalid = false) :
    Counting config sourceIp start times (server.judge arrival).2 := by
  have hconfigured := hcounting.configured.judge arrival
  have hexpired := get_expireBannedSources_mono hwithin.start_le
    hcounting.unbanned
  have hover : ∀ {after : Server},
      after.bannedSources.get sourceIp = none →
        (after.expireBannedSources start).bannedSources.get sourceIp = none :=
    fun hnone => get_expireBannedSources_eq_none hnone start
  have hbursting : (server.judge arrival).2.sourceLimiter.Bursting
      config.invalidBurstLimit config.invalidRefillPerMinute
      (Duration.fromSecs 60) start sourceIp times := by
    rw [buckets_judge]
    split
    · next hasked =>
        have hother : sourceIp ≠ arrival.sourceIp := by
          rintro rfl
          rw [huncounted rfl] at hasked
          exact absurd hasked.2 (by simp)
        exact hcounting.bursting.allow_other config.timed_sourceLimiter
          hwithin hother
    · exact hcounting.bursting
  refine ⟨hconfigured, hbursting, ?_⟩
  have hjudged := server.judged arrival
  generalize server.judge arrival = result at hjudged ⊢
  cases hjudged with
  | ignored | valid | tolerated | aborted => exact hover hexpired
  | banned after hunbanned hinvalid _ hremembered =>
      obtain ⟨bannedSources, rfl, hothers⟩ :=
        rememberBannedSource_eq_some hremembered
      have hother : sourceIp ≠ arrival.sourceIp := by
        rintro rfl
        rw [huncounted rfl] at hinvalid
        cases hinvalid
      apply hover
      rw [hothers sourceIp hother, bannedSources_limited]
      exact hexpired

/-- An invalid packet within the allowance. -/
theorem Counting.judge_allowed
    (hcounting : Counting config sourceIp start times server)
    {arrival : Arrival}
    (hwithin : config.sourceLimiter.Within start times arrival.now)
    (hown : arrival.sourceIp = sourceIp)
    (hinvalid : (server.outcome arrival).isInvalid = true)
    (hroom : times.length < config.invalidBurstLimit.toNat) :
    server.judge arrival =
        (.answer (server.outcome arrival), server.limited arrival) ∧
      Counting config sourceIp start (times ++ [arrival.now])
        (server.judge arrival).2 := by
  subst hown
  obtain ⟨hallowed, hbursting⟩ := hcounting.bursting.allow_own
    config.timed_sourceLimiter hwithin
  rw [decide_eq_true hroom] at hallowed
  have hjudge : server.judge arrival =
      (.answer (server.outcome arrival), server.limited arrival) := by
    rw [judge, hcounting.unbanned_at hwithin.start_le, if_neg (by simp),
      if_pos hinvalid, if_pos hallowed]
  have hconfigured := hcounting.configured.judge arrival
  rw [hjudge] at hconfigured ⊢
  have hexpired := get_expireBannedSources_mono hwithin.start_le
    hcounting.unbanned
  exact ⟨rfl, hconfigured, hbursting hroom,
    get_expireBannedSources_eq_none hexpired start⟩

/-- The invalid packet after them. -/
theorem Counting.judge_denied
    (hcounting : Counting config sourceIp start times server)
    {arrival : Arrival}
    (hwithin : config.sourceLimiter.Within start times arrival.now)
    (hown : arrival.sourceIp = sourceIp)
    (hinvalid : (server.outcome arrival).isInvalid = true)
    (hused : times.length = config.invalidBurstLimit.toNat) :
    server.judge arrival =
      match (server.limited arrival).rememberBannedSource arrival.sourceIp
          arrival.now with
      | none => (.abort, server.limited arrival)
      | some after => (.ban, after) := by
  subst hown
  obtain ⟨hallowed, -⟩ := hcounting.bursting.allow_own
    config.timed_sourceLimiter hwithin
  rw [decide_eq_false (by omega)] at hallowed
  rw [judge, hcounting.unbanned_at hwithin.start_le, if_neg (by simp),
    if_pos hinvalid, hallowed]
  exact if_neg (by simp)

/-! ## Handlings -/

/-- A ban finds no end exactly when one is looked for beyond the clock. -/
theorem rememberBannedSource_eq_none_iff {arrival : Arrival}
    (hunbanned : server.bannedAt arrival.sourceIp arrival.now = false)
    (runner : RecordingRunner) :
    (server.limited arrival).rememberBannedSource arrival.sourceIp
        arrival.now = none ↔
      ¬(server.handling runner arrival).CanEnd := by
  have hconfig : (server.limited arrival).config = server.config := rfl
  have hunknown : (server.expireBannedSources
      arrival.now).bannedSources.containsKey arrival.sourceIp = false :=
    hunbanned
  have hcan : (server.handling runner arrival).CanEnd ↔
      arrival.now + Duration.fromSecs server.config.banTimeout ≤
          Instant.max ∨
        server.config.maxPartialStates ≤
          (server.expireBannedSources arrival.now).bannedSources.len := Iff.rfl
  rw [hcan, rememberBannedSource_def, Option.map_eq_none_iff,
    rememberedSources, bannedSources_limited, hconfig, hunknown]
  by_cases hfull : server.config.maxPartialStates ≤
      (server.expireBannedSources arrival.now).bannedSources.len
  · simp [hfull]
  · by_cases hfits : arrival.now +
        Duration.fromSecs server.config.banTimeout ≤ Instant.max
    · simp [hfull, hfits, Instant.checkedAdd_eq_some hfits]
    · simp [hfull, hfits, Instant.checkedAdd_eq_none (Nat.not_le.mp hfits)]

theorem logger_enforceBan (server : Server) (runner : RecordingRunner)
    (sourceIp : IpAddr) :
    ∃ event ∈ ["rate_limit_ban", "firewall_ban_failed"],
      ∃ message, (server.enforceBan runner sourceIp).2.1.logger =
        (server.logger.log event message).2 := by
  rw [enforceBan]
  split
  · exact ⟨"rate_limit_ban", by simp, _, rfl⟩
  · exact ⟨"firewall_ban_failed", by simp, _, rfl⟩

/-- The packet after the allowance leads to a single ban exactly when the ban
can end. -/
theorem Counting.bansOnce_iff
    (hcounting : Counting config sourceIp start times server)
    (runner : RecordingRunner) {arrival : Arrival}
    (hwithin : config.sourceLimiter.Within start times arrival.now)
    (hown : arrival.sourceIp = sourceIp)
    (hinvalid : (server.outcome arrival).isInvalid = true)
    (hused : times.length = config.invalidBurstLimit.toNat) :
    (server.handling runner arrival).BansOnce sourceIp ↔
      (server.handling runner arrival).CanEnd := by
  have hdenied := hcounting.judge_denied hwithin hown hinvalid hused
  have hunjudged := server.unjudged_judge arrival
  subst hown
  have hnone := rememberBannedSource_eq_none_iff
    (hcounting.unbanned_at hwithin.start_le) runner
  cases hremembered : (server.limited arrival).rememberBannedSource
      arrival.sourceIp arrival.now with
  | none =>
      have habort : (server.judge arrival).1 = .abort := by
        rw [hdenied, hremembered]
      have hnothing : (server.handling runner arrival).issued = [] := by
        rw [issued_def, handle_eq, habort, enact, List.drop_length]
      refine iff_of_false (fun hbans => ?_) (hnone.mp hremembered)
      have hissued := hbans.issued_eq
      rw [hnothing] at hissued
      cases hissued
  | some after =>
      have hban : (server.judge arrival).1 = .ban := by
        rw [hdenied, hremembered]
      have hcan : (server.handling runner arrival).CanEnd := by
        by_contra hcannot
        rw [hnone.mpr hcannot] at hremembered
        cases hremembered
      refine iff_of_true ⟨?_, ?_, ?_⟩ hcan
      · rw [issued_of_ban hban, hunjudged.firewall_eq]
        rfl
      · obtain ⟨event, hevent, message, hlogger⟩ :=
          (server.judge arrival).2.logger_enforceBan runner arrival.sourceIp
        refine ⟨event, hevent, message, ?_⟩
        rw [after_handling, hban, enact, hlogger, hunjudged.logger_eq]
        rfl
      · rw [after_handling, packetTelemetryLimiter_enact, hban]
        exact hunjudged.packetTelemetryLimiter_eq

/-- A packet within the allowance is tolerated and counted. -/
theorem Counting.handling_allowed
    (hcounting : Counting config sourceIp start times server)
    (runner : RecordingRunner) {arrival : Arrival}
    (hwithin : config.sourceLimiter.Within start times arrival.now)
    (hown : arrival.sourceIp = sourceIp)
    (hinvalid : (server.outcome arrival).isInvalid = true)
    (hroom : times.length < config.invalidBurstLimit.toNat) :
    (server.handling runner arrival).Tolerated sourceIp ∧
      Counting config sourceIp start (times ++ [arrival.now])
        (server.handling runner arrival).after := by
  obtain ⟨hjudge, hafter⟩ :=
    hcounting.judge_allowed hwithin hown hinvalid hroom
  have hsame := server.sameMemory_handling runner arrival
  have hissued := server.issued_handling runner arrival
  have hexpired := get_expireBannedSources_mono hwithin.start_le
    hcounting.unbanned
  refine ⟨⟨?_, ?_⟩, hafter.sameMemory hsame⟩
  · rw [hjudge] at hissued
    generalize (server.handling runner arrival).issued = issued at hissued ⊢
    cases hissued with
    | nothing => rfl
    | ban hban => cases hban
    | allow haccepted =>
        rw [Judgement.answer.inj haccepted] at hinvalid
        cases hinvalid
  · rw [HashMap.containsKey_eq_false_iff, hsame.bannedSources_eq, hjudge]
    exact hexpired

theorem Counting.invalidFrom_handling
    (hcounting : Counting config sourceIp start times server)
    (runner : RecordingRunner) {arrival : Arrival}
    (hle : start ≤ arrival.now) :
    (server.handling runner arrival).invalidFrom sourceIp = true ↔
      arrival.sourceIp = sourceIp ∧
        (server.outcome arrival).isInvalid = true := by
  have hinvalid : (server.handling runner arrival).invalidFrom sourceIp =
      (decide (arrival.sourceIp = sourceIp) &&
        !server.bannedAt sourceIp arrival.now &&
          (server.outcome arrival).isInvalid) := rfl
  rw [hinvalid, hcounting.unbanned_at hle, Bool.not_false, Bool.and_true,
    Bool.and_eq_true, decide_eq_true_eq]

/-- The times stay behind what is still to come. -/
theorem forall_head?_concat {Earliest : ℕ → Prop} {now : ℕ}
    (htimes : ∀ first ∈ times.head?, Earliest first) (hnow : Earliest now) :
    ∀ first ∈ (times ++ [now]).head?, Earliest first := by
  cases times with
  | nil => rintro _ ⟨⟩; exact hnow
  | cons first times => exact htimes

/-- The invalid packets of a run are tolerated until the allowance is used up,
and the next one leads to a single ban exactly when the ban can end. -/
theorem Counting.trace
    (hcounting : Counting config sourceIp start times server)
    (runner : RecordingRunner) {arrivals : List Arrival}
    (hstart : ∀ arrival ∈ arrivals, start ≤ arrival.now)
    (hchronological : arrivals.Pairwise fun earlier later =>
      earlier.now ≤ later.now)
    (hpast : ∀ first ∈ times.head?, ∀ arrival ∈ arrivals,
      first ≤ arrival.now)
    {others : List Handling} {last : Handling} {rest : List Handling}
    (hinvalid : (server.trace runner arrivals).filter
      (Handling.invalidFrom sourceIp) = others ++ last :: rest)
    (hcount : times.length + others.length = config.invalidBurstLimit.toNat)
    (hwithin : ∀ first ∈ (times ++ others.map Handling.now).head?,
      last.now < first + Duration.fromSecs 60) :
    (∀ handling ∈ others, handling.Tolerated sourceIp) ∧
      (last.BansOnce sourceIp ↔ last.CanEnd) := by
  induction arrivals generalizing server runner times others with
  | nil => simp [Server.trace] at hinvalid
  | cons arrival arrivals ih =>
      obtain ⟨hlater, hrest⟩ := List.pairwise_cons.mp hchronological
      obtain ⟨hfirst, hstart⟩ := List.forall_mem_cons.mp hstart
      have hlast : last ∈ server.trace runner (arrival :: arrivals) := by
        apply List.mem_of_mem_filter (p := Handling.invalidFrom sourceIp)
        rw [hinvalid]
        exact List.mem_append_right _ List.mem_cons_self
      have hle : arrival.now ≤ last.now := now_le_of_mem_trace hlater hlast
      have hnow : config.sourceLimiter.Within start times arrival.now := by
        refine ⟨hfirst, fun first hmem => hpast first hmem _ List.mem_cons_self,
          fun first hmem => lt_of_le_of_lt hle (hwithin first ?_)⟩
        rw [List.head?_append, Option.mem_def.mp hmem]
        rfl
      rw [trace_cons] at hinvalid
      by_cases hcounted :
          (server.handling runner arrival).invalidFrom sourceIp = true
      · obtain ⟨hown, hfound⟩ :=
          (hcounting.invalidFrom_handling runner hfirst).mp hcounted
        rw [List.filter_cons_of_pos hcounted] at hinvalid
        cases others with
        | nil =>
            obtain ⟨rfl, -⟩ := List.cons.inj hinvalid
            exact ⟨by simp,
              hcounting.bansOnce_iff runner hnow hown hfound hcount⟩
        | cons handling others =>
            obtain ⟨rfl, hfollowing⟩ := List.cons.inj hinvalid
            rw [List.length_cons] at hcount
            obtain ⟨htolerated, hafter⟩ := hcounting.handling_allowed runner
              hnow hown hfound (by omega)
            split at hfollowing
            · simp at hfollowing
            · have hpast : ∀ first ∈ (times ++ [arrival.now]).head?,
                  ∀ later ∈ arrivals, first ≤ later.now :=
                forall_head?_concat (fun first hmem =>
                  (List.forall_mem_cons.mp (hpast first hmem)).2) hlater
              have hused : (times ++ [arrival.now]).length + others.length =
                  config.invalidBurstLimit.toNat := by
                rw [List.length_append, List.length_singleton]
                omega
              have hwithin : ∀ first ∈ ((times ++ [arrival.now]) ++
                  others.map Handling.now).head?,
                  last.now < first + Duration.fromSecs 60 := by
                rw [List.append_assoc]
                exact hwithin
              obtain ⟨hothers, hbans⟩ :=
                ih hafter _ hstart hrest hpast hfollowing hused hwithin
              exact ⟨List.forall_mem_cons.mpr ⟨htolerated, hothers⟩, hbans⟩
      · rw [List.filter_cons_of_neg hcounted] at hinvalid
        split at hinvalid
        · simp at hinvalid
        · have huncounted : arrival.sourceIp = sourceIp →
              (server.outcome arrival).isInvalid = false := fun hown =>
            Bool.eq_false_iff.mpr fun hfound => hcounted
              ((hcounting.invalidFrom_handling runner hfirst).mpr
                ⟨hown, hfound⟩)
          exact ih ((hcounting.judge_uncounted hnow huncounted).sameMemory
              (server.sameMemory_handling runner arrival)) _ hstart hrest
            (fun first hmem => (List.forall_mem_cons.mp (hpast first hmem)).2)
            hinvalid hcount hwithin

/-- A configured server whose source limiter has its limits. -/
structure Limited (config : Config) (server : Server) : Prop where
  configured : Configured config server
  limits : server.sourceLimiter.HasLimits config.invalidBurstLimit
    config.invalidRefillPerMinute (Duration.fromSecs 60)

theorem Limited.handling (hlimited : Limited config server)
    (runner : RecordingRunner) (arrival : Arrival) :
    Limited config (server.handling runner arrival).after := by
  refine ⟨hlimited.configured.handling runner arrival, ?_⟩
  rw [(server.sameMemory_handling runner arrival).sourceLimiter_eq,
    buckets_judge]
  split
  · exact (TokenBucketLimiter.machine config.invalidBurstLimit
      config.invalidRefillPerMinute (Duration.fromSecs 60)).good_step _ _
      hlimited.limits
  · exact hlimited.limits

/-- An unbanned source without a live bucket has as many invalid packets
tolerated within a minute as the burst limit says, and the next one gets it
banned by a single command exactly when the ban can end. -/
theorem ban_threshold_iff (config : ValidConfig) (device : LogDevice)
    (answer : List CommandSpec → CommandSpec → Except Error CommandStatus)
    (arrivals : List Arrival)
    (hchronological : arrivals.Pairwise fun earlier later =>
      earlier.now ≤ later.now)
    (sourceIp : IpAddr) (earlier : List Handling) (opening : Handling)
    (continuation : List Handling)
    (hsplit : (started config device).trace (.answering answer) arrivals =
      earlier ++ opening :: continuation)
    (hunbanned : opening.before.bannedAt sourceIp opening.now = false)
    (hbucketless : (opening.before.sourceLimiter.pruneIdle
      opening.now).buckets.get sourceIp = none)
    (first : Handling) (others : List Handling) (last : Handling)
    (rest : List Handling)
    (hinvalid : (opening :: continuation).filter
      (Handling.invalidFrom sourceIp) = first :: others ++ last :: rest)
    (hcount : (first :: others).length = config.invalidBurstLimit.toNat)
    (hwithin : last.now < first.now + Duration.fromSecs 60) :
    (∀ handling ∈ first :: others, handling.Tolerated sourceIp) ∧
      (last.BansOnce sourceIp ↔ last.CanEnd) := by
  have hstarted : Limited config.toConfig (started config device) :=
    ⟨configured_started config device, .new _ _ _⟩
  obtain ⟨resumed, runner, remaining, hlimited, hsuffix, htrace⟩ :=
    resume_trace (fun _ runner arrival hlimited =>
      hlimited.handling runner arrival) hstarted hsplit
  have hremaining := hchronological.sublist hsuffix.sublist
  cases remaining with
  | nil => cases htrace
  | cons arrival remaining =>
      have hopening : opening = resumed.handling runner arrival := by
        rw [trace_cons] at htrace
        exact (List.cons.inj htrace).1.symm
      subst hopening
      have hpruned : (resumed.sourceLimiter.pruneIdle
          arrival.now).buckets.get sourceIp = none := hbucketless
      have hslot : config.sourceLimiter.age arrival.now
          (resumed.sourceLimiter.buckets.get sourceIp) = none := by
        obtain ⟨hcapacity, hrefill, hinterval⟩ := hlimited.limits
        rw [TokenBucketLimiter.pruneIdle, HashMap.get_retain,
          TokenBucketLimiter.idleTtl, hinterval] at hpruned
        exact hpruned
      have hcounting : Counting config.toConfig sourceIp arrival.now []
          resumed :=
        ⟨hlimited.configured, ⟨hlimited.limits, .silent hslot⟩,
          bannedAt_eq_false_iff.mp hunbanned⟩
      have hstart : ∀ later ∈ arrival :: remaining, arrival.now ≤ later.now :=
        List.forall_mem_cons.mpr
          ⟨le_rfl, (List.pairwise_cons.mp hremaining).1⟩
      rw [← htrace] at hinvalid
      apply hcounting.trace runner hstart hremaining (by simp) hinvalid
      · rw [List.length_nil, Nat.zero_add, hcount]
      · rintro _ ⟨⟩
        exact hwithin

/-- Two oversized packets of one source at the start of the clock, where no
ban can end: the second one ends the process before the ban command. -/
theorem endless_ban_never_ordered :
    ∃ first last,
      (started endlessBanConfig .writable).trace
          (.answering RecordingRunner.succeeding)
          (List.replicate 2 (oversizedArrival endlessBanConfig.toConfig)) =
        [] ++ first :: [last] ∧
      first.before.bannedAt (KnockTracker.testSource 20) first.now = false ∧
      (first.before.sourceLimiter.pruneIdle first.now).buckets.get
        (KnockTracker.testSource 20) = none ∧
      [first, last].filter
          (Handling.invalidFrom (KnockTracker.testSource 20)) =
        [first] ++ last :: [] ∧
      [first].length = endlessBanConfig.invalidBurstLimit.toNat ∧
      last.now < first.now + Duration.fromSecs 60 ∧
      ¬last.BansOnce (KnockTracker.testSource 20) := by
  have hlength : ((started endlessBanConfig .writable).trace
      (.answering RecordingRunner.succeeding)
      (List.replicate 2
        (oversizedArrival endlessBanConfig.toConfig))).length = 2 := by
    decide +kernel
  have hfacts : ((started endlessBanConfig .writable).trace
      (.answering RecordingRunner.succeeding)
      (List.replicate 2 (oversizedArrival endlessBanConfig.toConfig))).map
        (fun handling => (handling.now, handling.issued,
          handling.before.bannedAt (KnockTracker.testSource 20) handling.now,
          (handling.before.sourceLimiter.pruneIdle handling.now).buckets.get
            (KnockTracker.testSource 20),
          handling.invalidFrom (KnockTracker.testSource 20))) =
      [(0, [], false, none, true), (0, [], false, some ⟨0, 0, 0⟩, true)] := by
    decide +kernel
  obtain ⟨first, last, htrace⟩ := List.length_eq_two.mp hlength
  rw [htrace] at hfacts
  simp only [List.map_cons, List.map_nil, List.cons.injEq, Prod.mk.injEq,
    and_true] at hfacts
  obtain ⟨⟨hfirst, -, hunbanned, hbucketless, hinvalid⟩, hlast, hissued, -, -,
    hinvalidLast⟩ := hfacts
  refine ⟨first, last, htrace, hunbanned, hbucketless, ?_, rfl, ?_, ?_⟩
  · rw [List.filter_cons_of_pos hinvalid, List.filter_cons_of_pos hinvalidLast]
    rfl
  · rw [hfirst, hlast]
    decide
  · intro hbans
    have hban := hbans.issued_eq
    rw [hissued] at hban
    cases hban

/-- The test configuration with two invalid packets to spare. -/
def twoInvalidConfig : ValidConfig :=
  { testConfig with invalidBurstLimit := 2, validated := by decide }

/-- Three invalid packets of a source within a minute, with a first step of its
own and an invalid packet of another source in between. -/
def interleavedArrivals : List Arrival :=
  [{ firstStepArrival 0 20 with payloadSize := 513 },
    firstStepArrival 1 20,
    { firstStepArrival 2 10 with payloadSize := 513 },
    { firstStepArrival 3 20 with payloadSize := 513 },
    { firstStepArrival (Duration.fromSecs 59) 20 with payloadSize := 513 }]

/-- The third of them leads to the ban. -/
theorem ban_threshold_third :
    ∃ first step foreign second third,
      (started twoInvalidConfig .writable).trace
          (.answering RecordingRunner.succeeding) interleavedArrivals =
        first :: [step, foreign, second, third] ∧
      (∀ handling ∈ [first, second],
        handling.Tolerated (KnockTracker.testSource 20)) ∧
      third.BansOnce (KnockTracker.testSource 20) := by
  have hlength : ((started twoInvalidConfig .writable).trace
      (.answering RecordingRunner.succeeding)
      interleavedArrivals).tail.length = 4 := by
    decide +kernel
  have hfacts : ((started twoInvalidConfig .writable).trace
      (.answering RecordingRunner.succeeding) interleavedArrivals).map
        (fun handling => (handling.now,
          handling.before.bannedAt (KnockTracker.testSource 20) handling.now,
          (handling.before.sourceLimiter.pruneIdle
            handling.now).buckets.containsKey (KnockTracker.testSource 20),
          handling.invalidFrom (KnockTracker.testSource 20),
          handling.before.config.banTimeout)) =
      [(0, false, false, true, 2), (1, false, true, false, 2),
        (2, false, true, false, 2), (3, false, true, true, 2),
        (59000000000, false, true, true, 2)] := by
    decide +kernel
  obtain ⟨step, foreign, second, third, htail⟩ := List.length_eq_four.mp hlength
  cases htrace : (started twoInvalidConfig .writable).trace
      (.answering RecordingRunner.succeeding) interleavedArrivals with
  | nil => rw [htrace] at htail; cases htail
  | cons first following =>
      rw [htrace] at htail hfacts
      obtain rfl : following = [step, foreign, second, third] := htail
      simp only [List.map_cons, List.map_nil, List.cons.injEq, Prod.mk.injEq,
        and_true] at hfacts
      obtain ⟨⟨hfirst, hunbanned, hunknown, hinvalid, -⟩,
        ⟨-, -, -, hstep, -⟩, ⟨-, -, -, hforeign, -⟩, ⟨-, -, -, hsecond, -⟩,
        hthird, -, -, hthirdInvalid, htimeout⟩ := hfacts
      have hfiltered : [first, step, foreign, second, third].filter
          (Handling.invalidFrom (KnockTracker.testSource 20)) =
            first :: [second] ++ third :: [] := by
        simp only [List.filter_cons, hinvalid, hstep, hforeign, hsecond,
          hthirdInvalid, Bool.false_eq_true, if_true, if_false,
          List.filter_nil]
        rfl
      have hwithin : third.now < first.now + Duration.fromSecs 60 := by
        rw [hthird, hfirst]
        decide
      obtain ⟨htolerated, hbans⟩ := ban_threshold_iff twoInvalidConfig
        .writable RecordingRunner.succeeding interleavedArrivals (by decide)
        (KnockTracker.testSource 20) [] first _ htrace hunbanned
        (HashMap.containsKey_eq_false_iff.mp hunknown)
        first [second] third [] hfiltered rfl hwithin
      refine ⟨first, step, foreign, second, third, rfl, htolerated,
        hbans.mpr (Or.inl ?_)⟩
      rw [hthird, htimeout]
      decide

end Server

end SshKnock
