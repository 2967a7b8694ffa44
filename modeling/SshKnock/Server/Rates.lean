import Mathlib
import SshKnock.RateLimit.Ceiling
import SshKnock.Server.BanThreshold
import SshKnock.Server.Redaction

/-!
# How fast a source may guess and the log may grow

A source guesses when its packet is found invalid.  Guesses within its
allowance are answered, a guess beyond it gets the source banned, and until the
ban is over there are no more.  What is not about a command is logged within an
allowance of its own.
-/

namespace SshKnock

open TokenBucketLimiter (callsOf ceiling)

namespace Handling

/-- The packet is invalid and within the allowance of the source. -/
def toleratedFrom (sourceIp : IpAddr) (handling : Handling) : Bool :=
  handling.invalidFrom sourceIp &&
    (handling.before.sourceLimiter.allow sourceIp handling.now).1

/-- The ban map knows the source of the packet or has room for it. -/
def hasPlace (handling : Handling) : Bool :=
  (handling.before.expireBannedSources
      handling.now).bannedSources.containsKey handling.sourceIp ||
    (handling.before.expireBannedSources handling.now).bannedSources.len <
      handling.before.config.maxPartialStates

/-- The packet is invalid and beyond the allowance of the source, and its ban
can be remembered. -/
def bannedFrom (sourceIp : IpAddr) (handling : Handling) : Bool :=
  handling.invalidFrom sourceIp &&
    !(handling.before.sourceLimiter.allow sourceIp handling.now).1 &&
    handling.hasPlace

/-- The key that the packet asks the limiter of the sources for. -/
def asksFor (handling : Handling) : Option IpAddr :=
  if handling.invalidFrom handling.sourceIp then some handling.sourceIp
  else none

/-- The packet asks the limiter of the telemetry. -/
def asksTelemetry (handling : Handling) : Option String :=
  match (handling.before.judge handling.arrival).1 with
  | .answer _ =>
      if handling.before.packetTelemetryEnabled then some "packet" else none
  | _ => none

/-- The packet asks the limiter of the telemetry and is granted its lines. -/
def telemetered (handling : Handling) : Bool :=
  match handling.asksTelemetry with
  | some key => (handling.before.packetTelemetryLimiter.allow key
      handling.now).1
  | none => false

/-- How many lines the log has grown by. -/
def reported (handling : Handling) : ℕ :=
  handling.after.logger.lines.length - handling.before.logger.lines.length

end Handling

namespace Server

/-! ## The limiters of a run -/

section

variable {K : Type} [DecidableEq K] (limiterOf : Server → TokenBucketLimiter K)
  (asks : Handling → Option K)

/-- The limiter is asked for this key at each packet, and changes no
otherwise. -/
def Asked : Prop :=
  ∀ server runner arrival,
    limiterOf (server.handling runner arrival).after =
      match asks (server.handling runner arrival) with
      | none => limiterOf server
      | some key => ((limiterOf server).allow key arrival.now).2

/-- What the limiter is asked in the course of a run. -/
def calls (handlings : List Handling) : List (K × ℕ) :=
  handlings.filterMap fun handling =>
    (asks handling).map fun key => (key, handling.now)

variable {limiterOf asks}

/-- The answers of the limiter in a run are those it gives when it is asked
this and nothing else. -/
theorem Asked.map_trace (hasked : Asked limiterOf asks) (server : Server)
    (runner : RecordingRunner) (arrivals : List Arrival) :
    ((limiterOf server).trace (calls asks (server.trace runner arrivals))).map
        (fun call => (call.input, call.time, call.output)) =
      (server.trace runner arrivals).filterMap fun handling =>
        (asks handling).map fun key => (key, handling.now,
          ((limiterOf handling.before).allow key handling.now).1) := by
  induction arrivals generalizing server runner with
  | nil => rfl
  | cons arrival arrivals ih =>
      have hstep := hasked server runner arrival
      rw [trace_cons]
      have hrest : ((limiterOf (server.handling runner arrival).after).trace
          (calls asks (if (server.handle runner arrival).1 = .aborted then []
            else (server.handling runner arrival).after.trace
              (server.handle runner arrival).2.2 arrivals))).map
            (fun call => (call.input, call.time, call.output)) =
          (if (server.handle runner arrival).1 = .aborted then []
            else (server.handling runner arrival).after.trace
              (server.handle runner arrival).2.2 arrivals).filterMap
            fun handling => (asks handling).map fun key => (key, handling.now,
              ((limiterOf handling.before).allow key handling.now).1) := by
        split
        · rfl
        · exact ih _ _
      generalize (if (server.handle runner arrival).1 = .aborted then []
        else (server.handling runner arrival).after.trace
          (server.handle runner arrival).2.2 arrivals) = rest at hrest ⊢
      rw [calls, List.filterMap_cons, List.filterMap_cons]
      cases hasks : asks (server.handling runner arrival) with
      | none =>
          rw [hasks] at hstep
          rw [hstep] at hrest
          exact hrest
      | some key =>
          rw [hasks] at hstep
          rw [hstep] at hrest
          exact congrArg _ hrest

/-- What the limiter grants in a run, packet by packet. -/
theorem Asked.grantedUntil_eq (hasked : Asked limiterOf asks) (server : Server)
    (runner : RecordingRunner) (arrivals : List Arrival) (key : K)
    (finish : ℕ) :
    (limiterOf server).grantedUntil key
        (calls asks (server.trace runner arrivals)) finish =
      (server.trace runner arrivals).countP fun handling =>
        match asks handling with
        | some asked => handling.now ≤ finish && decide (asked = key) &&
            ((limiterOf handling.before).allow asked handling.now).1
        | none => false := by
  have hmap := hasked.map_trace server runner arrivals
  let counts : K × ℕ × Bool → Bool := fun call =>
    (call.2.2 && call.2.1 ≤ finish) && call.1 = key
  have hcounts := congrArg (List.countP counts) hmap
  rw [List.countP_map, List.countP_filterMap] at hcounts
  rw [TokenBucketLimiter.grantedUntil, callsOf, List.countP_filter]
  refine Eq.trans hcounts (List.countP_congr fun handling _ => ?_)
  cases asks handling with
  | none => exact Iff.rfl
  | some asked =>
      simp only [Option.map_some, Option.getD_some, counts, Bool.and_eq_true,
        decide_eq_true_eq]
      constructor
      · rintro ⟨⟨hgranted, hnow⟩, hkey⟩
        exact ⟨⟨hnow, hkey⟩, hgranted⟩
      · rintro ⟨⟨hnow, hkey⟩, hgranted⟩
        exact ⟨⟨hgranted, hnow⟩, hkey⟩

/-- What a run makes of the limiter is what the limiter makes of the calls. -/
theorem Asked.after_eq (hasked : Asked limiterOf asks) (server : Server)
    (runner : RecordingRunner) {arrivals : List Arrival}
    {earlier : List Handling} {handling : Handling}
    (hinitial : earlier ++ [handling] <+: server.trace runner arrivals) :
    limiterOf handling.after =
      (limiterOf server).after (calls asks (earlier ++ [handling])) := by
  have hcons : ∀ server runner arrival handlings,
      (limiterOf server).after
          (calls asks (server.handling runner arrival :: handlings)) =
        (limiterOf (server.handling runner arrival).after).after
          (calls asks handlings) := by
    intro server runner arrival handlings
    rw [hasked, calls, List.filterMap_cons]
    cases asks (server.handling runner arrival) <;> rfl
  induction arrivals generalizing server runner earlier with
  | nil => simp [trace] at hinitial
  | cons arrival arrivals ih =>
      rw [trace_cons] at hinitial
      cases earlier with
      | nil =>
          obtain ⟨rfl, -⟩ := List.cons_prefix_cons.mp hinitial
          rw [List.nil_append, hcons]
          rfl
      | cons first earlier =>
          obtain ⟨rfl, hrest⟩ := List.cons_prefix_cons.mp hinitial
          split at hrest
          · simp at hrest
          · rw [ih _ _ hrest, List.cons_append, hcons]

omit [DecidableEq K] in
theorem calls_chronological {handlings : List Handling}
    (hchronological : handlings.Pairwise fun earlier later =>
      earlier.now ≤ later.now) :
    Sharded.Chronological (calls asks handlings) := by
  apply List.Pairwise.filterMap _ _ hchronological
  rintro earlier later hle _ hearlier _ hlater
  obtain ⟨_, -, rfl⟩ := Option.map_eq_some_iff.mp hearlier
  obtain ⟨_, -, rfl⟩ := Option.map_eq_some_iff.mp hlater
  exact hle

end

/-- A chronological run handles its packets in the order of the clock. -/
theorem chronological_trace (server : Server) (runner : RecordingRunner)
    {arrivals : List Arrival}
    (hchronological : arrivals.Pairwise fun earlier later =>
      earlier.now ≤ later.now) :
    (server.trace runner arrivals).Pairwise fun earlier later =>
      earlier.now ≤ later.now := by
  induction arrivals generalizing server runner with
  | nil => exact .nil
  | cons arrival arrivals ih =>
      obtain ⟨hlater, hrest⟩ := List.pairwise_cons.mp hchronological
      rw [trace_cons]
      split
      · exact List.pairwise_singleton _ _
      · exact List.pairwise_cons.mpr ⟨fun handling hmem =>
          hlater _ (arrival_mem_of_mem_trace hmem), ih _ _ hrest⟩

/-! ## Guesses within the allowance -/

variable {config : Config} {sourceIp : IpAddr}

theorem invalidFrom_handling_iff (server : Server) (runner : RecordingRunner)
    (arrival : Arrival) :
    (server.handling runner arrival).invalidFrom sourceIp = true ↔
      arrival.sourceIp = sourceIp ∧
        server.bannedAt arrival.sourceIp arrival.now = false ∧
          (server.outcome arrival).isInvalid = true := by
  have hinvalid : (server.handling runner arrival).invalidFrom sourceIp =
      (decide (arrival.sourceIp = sourceIp) &&
        !server.bannedAt sourceIp arrival.now &&
          (server.outcome arrival).isInvalid) := rfl
  rw [hinvalid, Bool.and_eq_true, Bool.and_eq_true, decide_eq_true_eq,
    Bool.not_eq_true', and_assoc]
  apply and_congr_right
  rintro rfl
  exact Iff.rfl

theorem asksFor_eq_some_iff {handling : Handling} :
    handling.asksFor = some sourceIp ↔
      handling.invalidFrom sourceIp = true := by
  rw [Handling.asksFor]
  constructor
  · intro hasks
    split at hasks
    · next hinvalid =>
        cases hasks
        exact hinvalid
    · cases hasks
  · intro hinvalid
    have hown : handling.sourceIp = sourceIp := by
      simp only [Handling.invalidFrom, Bool.and_eq_true,
        decide_eq_true_eq] at hinvalid
      exact hinvalid.1.1
    rw [hown, if_pos hinvalid]

theorem asked_sourceLimiter : Asked Server.sourceLimiter Handling.asksFor := by
  intro server runner arrival
  rw [(server.sameMemory_handling runner arrival).sourceLimiter_eq,
    buckets_judge]
  split
  · next hinvalid =>
      rw [asksFor_eq_some_iff.mpr
        ((invalidFrom_handling_iff server runner arrival).mpr ⟨rfl, hinvalid⟩)]
  · next hvalid =>
      have hnone : (server.handling runner arrival).asksFor = none :=
        if_neg fun hinvalid => hvalid
          ((invalidFrom_handling_iff server runner arrival).mp hinvalid).2
      rw [hnone]

/-- The guesses that are tolerated are the calls that are granted. -/
theorem countP_toleratedFrom (config : ValidConfig) (device : LogDevice)
    (runner : RecordingRunner) (arrivals : List Arrival) (sourceIp : IpAddr)
    (finish : ℕ) :
    ((started config device).trace runner arrivals).countP
        (fun handling => handling.now ≤ finish &&
          handling.toleratedFrom sourceIp) =
      config.sourceLimiter.grantedUntil sourceIp
        (calls Handling.asksFor ((started config device).trace runner arrivals))
        finish := by
  refine Eq.trans (List.countP_congr fun handling _ => ?_)
    (asked_sourceLimiter.grantedUntil_eq (started config device) runner arrivals
      sourceIp finish).symm
  rw [Handling.toleratedFrom]
  cases hasks : handling.asksFor with
  | none =>
      have hvalid : handling.invalidFrom sourceIp = false :=
        Bool.eq_false_iff.mpr fun hinvalid => by
          rw [asksFor_eq_some_iff.mpr hinvalid] at hasks
          cases hasks
      simp [hvalid]
  | some key =>
      by_cases hkey : key = sourceIp
      · subst hkey
        simp [asksFor_eq_some_iff.mp hasks]
      · have hvalid : handling.invalidFrom sourceIp = false :=
          Bool.eq_false_iff.mpr fun hinvalid => by
            rw [asksFor_eq_some_iff.mpr hinvalid] at hasks
            exact hkey (Option.some.inj hasks).symm
        simp [hvalid, hkey]

theorem onClock_calls {K : Type} {asks : Handling → Option K}
    {server : Server} {runner : RecordingRunner} {arrivals : List Arrival}
    (hclock : ∀ arrival ∈ arrivals, arrival.now ≤ Instant.max) :
    TokenBucketLimiter.OnClock (calls asks (server.trace runner arrivals)) := by
  intro call hcall
  obtain ⟨handling, hhandling, hasks⟩ := List.mem_filterMap.mp hcall
  obtain ⟨key, -, rfl⟩ := Option.map_eq_some_iff.mp hasks
  exact hclock _ (arrival_mem_of_mem_trace hhandling)

/-! ## Guesses that are punished -/

theorem bans_of_bannedFrom {handling : Handling}
    (hbanned : handling.bannedFrom sourceIp = true) :
    handling.sourceIp = sourceIp ∧ handling.Bans := by
  simp only [Handling.bannedFrom, Handling.invalidFrom, Handling.hasPlace,
    Bool.and_eq_true, Bool.or_eq_true, Bool.not_eq_true',
    decide_eq_true_eq] at hbanned
  obtain ⟨⟨⟨⟨rfl, hunbanned⟩, hinvalid⟩, hdenied⟩, hroom⟩ := hbanned
  exact ⟨rfl, hunbanned, hinvalid, hdenied, hroom⟩

/-- A packet that gets its source banned is not dropped. -/
theorem not_dropped_of_bans (server : Server) (runner : RecordingRunner)
    (arrival : Arrival) (hbans : (server.handling runner arrival).Bans) :
    ¬(server.handling runner arrival).Dropped := by
  intro hdropped
  have hunbanned : server.bannedAt arrival.sourceIp arrival.now = false :=
    hbans.unbanned
  have hinvalid : (server.outcome arrival).isInvalid = true := hbans.invalid
  have hdenied : (server.sourceLimiter.allow arrival.sourceIp
      arrival.now).1 = false := hbans.denied
  have hjudged := server.judged arrival
  generalize hresult : server.judge arrival = result at hjudged
  cases hjudged with
  | ignored hbanned => rw [hunbanned] at hbanned; cases hbanned
  | valid _ hvalid => rw [hinvalid] at hvalid; cases hvalid
  | tolerated _ _ hallowed => rw [hdenied] at hallowed; cases hallowed
  | aborted =>
      have haborted := (handle_aborted_iff server runner arrival).mpr
        (congrArg Prod.fst hresult)
      exact absurd (haborted.symm.trans hdropped.ending_eq) (by simp)
  | banned =>
      have hissued := issued_of_ban (congrArg Prod.fst hresult) runner
      rw [hdropped.issued_eq] at hissued
      cases hissued

/-- Between two bans of a source that are remembered its ban is over. -/
theorem Configured.spaced_bans {server : Server}
    (hserver : Configured config server) (runner : RecordingRunner)
    {arrivals : List Arrival}
    (hchronological : arrivals.Pairwise fun earlier later =>
      earlier.now ≤ later.now) :
    (((server.trace runner arrivals).filter
        (Handling.bannedFrom sourceIp)).map Handling.now).Pairwise
      fun earlier later =>
        earlier + Duration.fromSecs config.banTimeout ≤ later := by
  have hfacts : ∀ handling ∈ server.trace runner arrivals,
      handling.before.config = config ∧
        (handling.Bans → ¬handling.Dropped) :=
    forall_trace (fun server runner arrival hserver =>
      ⟨⟨hserver.config_eq, server.not_dropped_of_bans runner arrival⟩,
        hserver.handling runner arrival⟩) hserver _ _
  rw [List.pairwise_map, List.pairwise_iff_forall_sublist]
  intro first second hsublist
  have hmem : ∀ handling ∈ [first, second],
      handling.bannedFrom sourceIp = true := fun handling hhandling =>
    (List.mem_filter.mp (hsublist.mem hhandling)).2
  obtain ⟨front, back, hsplit, hfront, hback⟩ := List.cons_sublist_iff.mp
    (hsublist.trans List.filter_sublist)
  obtain ⟨earlier, between, rfl⟩ := List.append_of_mem hfront
  have hsecond := List.singleton_sublist.mp hback
  rw [List.append_assoc, List.cons_append] at hsplit
  obtain ⟨hfirstOwn, hfirstBans⟩ :=
    bans_of_bannedFrom (hmem first (by simp))
  obtain ⟨hsecondOwn, hsecondBans⟩ :=
    bans_of_bannedFrom (hmem second (by simp))
  have hwindow := hserver.windows runner hchronological _ _ _ hsplit hfirstBans
  have hfirst := hfacts first (by rw [hsplit]; simp)
  by_contra hearly
  have hdropped := hwindow.dropped second
    (List.mem_append_right _ hsecond) (hsecondOwn.trans hfirstOwn.symm)
    (by
      rw [Handling.banEnd, hfirst.1]
      exact Nat.not_le.mp hearly)
  exact (hfacts second (by rw [hsplit]; simp [hsecond])).2 hsecondBans hdropped

/-- Of the guesses up to some time no more are punished than bans fit in. -/
theorem countP_bannedFrom_le (config : ValidConfig) (device : LogDevice)
    (runner : RecordingRunner) {arrivals : List Arrival}
    (hchronological : arrivals.Pairwise fun earlier later =>
      earlier.now ≤ later.now) {start : ℕ}
    (hstart : ∀ handling ∈ (started config device).trace runner arrivals,
      handling.invalidFrom sourceIp = true → start ≤ handling.now)
    (finish : ℕ) :
    ((started config device).trace runner arrivals).countP
        (fun handling => handling.now ≤ finish &&
          handling.bannedFrom sourceIp) ≤
      1 + (finish - start) / Duration.fromSecs config.banTimeout := by
  have hspaced : (((started config device).trace runner arrivals).filter
        (Handling.bannedFrom sourceIp) |>.map Handling.now).Pairwise
      fun earlier later =>
        earlier + Duration.fromSecs config.banTimeout ≤ later :=
    (configured_started config device).spaced_bans runner hchronological
  rw [← List.countP_filter, ← Function.comp_def (fun now => decide (now ≤ finish)),
    ← List.countP_map, List.countP_eq_length_filter]
  refine Quota.length_le_of_spaced
    (TokenBucketLimiter.fromSecs_pos config.valid.banTimeout_ne_zero)
    (hspaced.sublist List.filter_sublist) ?_ ?_
  · intro time htime
    obtain ⟨handling, hhandling, rfl⟩ :=
      List.mem_map.mp (List.mem_of_mem_filter htime)
    obtain ⟨hmem, hbanned⟩ := List.mem_filter.mp hhandling
    rw [Handling.bannedFrom, Bool.and_eq_true, Bool.and_eq_true] at hbanned
    exact hstart handling hmem hbanned.1.1
  · intro time htime
    exact of_decide_eq_true (List.mem_filter.mp htime).2

theorem countP_or_le {Item : Type} (first second : Item → Bool)
    (items : List Item) :
    items.countP (fun item => first item || second item) ≤
      items.countP first + items.countP second := by
  induction items with
  | nil => exact le_rfl
  | cons item items ih =>
      simp only [List.countP_cons]
      cases first item <;> cases second item <;> simp <;> omega

/-- However often a source guesses and whatever else is going on, no more of
its packets than this are judged and found invalid from the first one on, those
apart whose ban finds no place in memory. -/
theorem guesses_bounded (config : ValidConfig) (device : LogDevice)
    (answer : List CommandSpec → CommandSpec → Except Error CommandStatus)
    (arrivals : List Arrival)
    (hchronological : arrivals.Pairwise fun earlier later =>
      earlier.now ≤ later.now)
    (hclock : ∀ arrival ∈ arrivals, arrival.now ≤ Instant.max)
    (sourceIp : IpAddr) (start finish : ℕ)
    (hstart : ∀ handling ∈ (started config device).trace (.answering answer)
      arrivals, handling.invalidFrom sourceIp = true → start ≤ handling.now) :
    ((started config device).trace (.answering answer) arrivals).countP
        (fun handling => handling.now ≤ finish &&
          (handling.toleratedFrom sourceIp ||
            handling.bannedFrom sourceIp)) ≤
      ceiling config.invalidBurstLimit config.invalidRefillPerMinute
          (Duration.fromSecs 60) (finish - start) +
        (1 + (finish - start) / Duration.fromSecs config.banTimeout) := by
  have htolerated := countP_toleratedFrom config device (.answering answer)
    arrivals sourceIp finish
  have hstarts : ∀ call ∈ calls Handling.asksFor
      ((started config device).trace (.answering answer) arrivals),
      call.1 = sourceIp → start ≤ call.2 := by
    rintro call hcall rfl
    obtain ⟨handling, hhandling, hasks⟩ := List.mem_filterMap.mp hcall
    obtain ⟨key, hkey, rfl⟩ := Option.map_eq_some_iff.mp hasks
    exact hstart handling hhandling (asksFor_eq_some_iff.mp hkey)
  have hgranted : config.sourceLimiter.grantedUntil sourceIp
        (calls Handling.asksFor
          ((started config device).trace (.answering answer) arrivals))
        finish ≤ _ :=
    TokenBucketLimiter.grantedUntil_le_ceiling config.invalidBurstLimit
      config.invalidRefillPerMinute (by decide)
      (calls_chronological ((started config device).chronological_trace
        (.answering answer) hchronological))
      (onClock_calls hclock) hstarts finish
  simp only [Bool.and_or_distrib_left]
  refine (countP_or_le _ _ _).trans (Nat.add_le_add ?_
    (countP_bannedFrom_le config device _ hchronological hstart finish))
  exact htolerated.trans_le hgranted

/-- Two oversized packets, the second of which leads to the ban, are what the
source has judged until its ban is over. -/
theorem guesses_bounded_until_banned :
    ((started testConfig .writable).trace
        (.answering RecordingRunner.succeeding) bannedArrivals).countP
        (fun handling => handling.now ≤ 2000000000 &&
          (handling.toleratedFrom (KnockTracker.testSource 10) ||
            handling.bannedFrom (KnockTracker.testSource 10))) ≤
      ceiling testConfig.invalidBurstLimit testConfig.invalidRefillPerMinute
          (Duration.fromSecs 60) (2000000000 - 0) +
        (1 + (2000000000 - 0) / Duration.fromSecs testConfig.banTimeout) :=
  guesses_bounded testConfig .writable RecordingRunner.succeeding
    bannedArrivals (by decide) (by decide) (KnockTracker.testSource 10) 0
    2000000000 fun _ _ _ => Nat.zero_le _

/-! ## How fast the log may grow -/

theorem asked_telemetry :
    Asked Server.packetTelemetryLimiter Handling.asksTelemetry := by
  intro server runner arrival
  have hunjudged := server.unjudged_judge arrival
  have htelemetered : (server.judge arrival).2.telemetered arrival.now =
      server.telemetered arrival.now := by
    rw [telemetered, packetTelemetryEnabled, hunjudged.config_eq,
      hunjudged.packetTelemetryLimiter_eq]
    rfl
  have hasks : (server.handling runner arrival).asksTelemetry =
      match (server.judge arrival).1 with
      | .answer _ =>
          if server.packetTelemetryEnabled then some "packet" else none
      | _ => none := rfl
  rw [after_handling, packetTelemetryLimiter_enact, htelemetered,
    hunjudged.packetTelemetryLimiter_eq, hasks, telemetered]
  cases (server.judge arrival).1 with
  | ignore | abort | ban => rfl
  | answer outcome => cases server.packetTelemetryEnabled <;> rfl

theorem lines_log {server after : Server} {event message : String}
    {result : Except Error Unit}
    (hlog : server.log event message = (result, after)) :
    after.logger.lines.length ≤ server.logger.lines.length + 1 := by
  obtain rfl : (server.log event message).2 = after := by rw [hlog]
  change (server.logger.log event message).2.lines.length ≤ _
  rw [AuditLogger.log]
  split
  · exact Nat.le_succ _
  · exact (List.length_append).le

/-- How many lines the telemetry writes at most. -/
def telemetryLines (server : Server) (now : ℕ) : ℕ :=
  if server.packetTelemetryEnabled &&
    (server.packetTelemetryLimiter.allow "packet" now).1 then 2 else 0

theorem lines_logPacketTelemetry (server : Server) (sourceIp : IpAddr)
    (outcome : KnockOutcome) (now : ℕ) :
    (server.logPacketTelemetry sourceIp outcome now).2.logger.lines.length ≤
      server.logger.lines.length + server.telemetryLines now := by
  rw [logPacketTelemetry, telemetryLines]
  cases server.packetTelemetryEnabled with
  | false => exact Nat.le_add_right _ _
  | true =>
      simp only [Bool.not_true, Bool.false_eq_true, if_false, Bool.true_and]
      cases (server.packetTelemetryLimiter.allow "packet" now).1 with
      | false => exact Nat.le_add_right _ _
      | true =>
          simp only [Bool.not_true, Bool.false_eq_true, if_false, if_true]
          split
          · next hseen =>
              have hfirst := lines_log hseen
              exact hfirst.trans (Nat.le_succ _)
          · next hseen =>
              have hfirst := lines_log hseen
              exact (lines_log rfl).trans (Nat.succ_le_succ hfirst)

theorem lines_enforceBan (server : Server) (runner : RecordingRunner)
    (sourceIp : IpAddr) :
    (server.enforceBan runner sourceIp).2.1.logger.lines.length ≤
      server.logger.lines.length + 1 := by
  rw [enforceBan]
  split <;> exact lines_log rfl

theorem lines_openFirewall (server : Server) (runner : RecordingRunner)
    (sourceIp : IpAddr) :
    (server.openFirewall runner sourceIp).2.1.logger.lines.length ≤
      server.logger.lines.length + 1 := by
  rw [openFirewall]
  split
  · split <;> next hlog => exact lines_log hlog
  · exact lines_log rfl

/-- Beyond the telemetry there is a line for a command. -/
theorem lines_respond (server : Server) (runner : RecordingRunner)
    (sourceIp : IpAddr) (outcome : KnockOutcome) (now : ℕ) :
    (server.respond runner sourceIp outcome now).2.1.logger.lines.length +
        runner.commands.length ≤
      server.logger.lines.length + server.telemetryLines now +
        (server.respond runner sourceIp outcome
          now).2.2.commands.length := by
  have htelemetry := server.lines_logPacketTelemetry sourceIp outcome now
  rw [respond]
  split
  · next hlog =>
      rw [hlog] at htelemetry
      exact Nat.add_le_add_right htelemetry _
  · next after hlog =>
      rw [hlog] at htelemetry
      split
      · have hopened := after.lines_openFirewall runner sourceIp
        rw [commands_openFirewall, List.length_append, List.length_singleton]
        simp only at htelemetry
        omega
      · exact Nat.add_le_add_right htelemetry _

/-- A packet is logged by the telemetry, if that is granted, and by its
command, if there is one. -/
theorem reported_handling (server : Server) (runner : RecordingRunner)
    (arrival : Arrival) :
    (server.handling runner arrival).reported ≤
      2 * (server.handling runner arrival).telemetered.toNat +
        (server.handling runner arrival).issued.length := by
  have hunjudged := server.unjudged_judge arrival
  have htelemetered : (server.handling runner arrival).asksTelemetry =
      match (server.judge arrival).1 with
      | .answer _ =>
          if server.packetTelemetryEnabled then some "packet" else none
      | _ => none := rfl
  have hlines : (server.judge arrival).2.telemetryLines arrival.now =
      server.telemetryLines arrival.now := by
    rw [telemetryLines, packetTelemetryEnabled, hunjudged.config_eq,
      hunjudged.packetTelemetryLimiter_eq]
    rfl
  rw [Handling.reported, after_handling, issued_def, handle_eq,
    List.length_drop, Handling.telemetered, htelemetered]
  have hbefore : (server.handling runner arrival).before.logger =
      (server.judge arrival).2.logger := hunjudged.logger_eq.symm
  rw [hbefore]
  cases (server.judge arrival).1 with
  | ignore | abort => simp [enact]
  | ban =>
      have hban := (server.judge arrival).2.lines_enforceBan runner
        arrival.sourceIp
      rw [enact, commands_enforceBan, List.length_append,
        List.length_singleton]
      simp only [Bool.toNat_false]
      omega
  | answer outcome =>
      have hrespond := (server.judge arrival).2.lines_respond runner
        arrival.sourceIp outcome arrival.now
      rw [hlines, telemetryLines] at hrespond
      rw [enact]
      cases henabled : server.packetTelemetryEnabled with
      | false =>
          simp only [henabled, Bool.false_and, Bool.false_eq_true,
            if_false] at hrespond ⊢
          rw [Bool.toNat_false]
          omega
      | true =>
          change _ ≤ 2 * (server.packetTelemetryLimiter.allow "packet"
            arrival.now).1.toNat + _
          rw [henabled, Bool.true_and] at hrespond
          cases hgranted : (server.packetTelemetryLimiter.allow "packet"
              arrival.now).1 with
          | false =>
              rw [hgranted, if_neg Bool.false_ne_true] at hrespond
              rw [Bool.toNat_false]
              omega
          | true =>
              rw [hgranted, if_pos rfl] at hrespond
              rw [Bool.toNat_true]
              omega

/-- The lines of a run are those of its telemetry and of its commands. -/
theorem reported_trace (server : Server) (runner : RecordingRunner)
    (arrivals : List Arrival) :
    ((server.trace runner arrivals).map Handling.reported).sum ≤
      2 * (server.trace runner arrivals).countP Handling.telemetered +
        ((server.trace runner arrivals).map
          fun handling => handling.issued.length).sum := by
  have hstep : ∀ (server : Server) runner arrival, True →
      (server.handling runner arrival).reported ≤
          2 * (server.handling runner arrival).telemetered.toNat +
            (server.handling runner arrival).issued.length ∧ True :=
    fun server runner arrival _ =>
      ⟨server.reported_handling runner arrival, True.intro⟩
  have hreported : ∀ handling ∈ server.trace runner arrivals,
      handling.reported ≤
        2 * handling.telemetered.toNat + handling.issued.length :=
    forall_trace hstep True.intro runner arrivals
  generalize server.trace runner arrivals = handlings at hreported
  induction handlings with
  | nil => exact Nat.zero_le _
  | cons handling handlings ih =>
      obtain ⟨hfirst, hrest⟩ := List.forall_mem_cons.mp hreported
      have hrest := ih hrest
      simp only [List.map_cons, List.sum_cons, List.countP_cons]
      cases htelemetered : handling.telemetered <;>
        simp [htelemetered] at hfirst ⊢ <;> omega

theorem countP_telemetered (server : Server) (runner : RecordingRunner)
    {arrivals : List Arrival} {finish : ℕ}
    (hfinish : ∀ arrival ∈ arrivals, arrival.now ≤ finish) :
    (server.trace runner arrivals).countP Handling.telemetered =
      server.packetTelemetryLimiter.grantedUntil "packet"
        (calls Handling.asksTelemetry (server.trace runner arrivals))
        finish := by
  rw [asked_telemetry.grantedUntil_eq server runner arrivals "packet" finish]
  apply List.countP_congr
  intro handling hhandling
  have hnow : handling.now ≤ finish :=
    hfinish _ (arrival_mem_of_mem_trace hhandling)
  rw [Handling.telemetered]
  cases hasks : handling.asksTelemetry with
  | none => exact Iff.rfl
  | some key =>
      have hkey : key = "packet" := by
        rw [Handling.asksTelemetry] at hasks
        split at hasks
        · split at hasks <;> cases hasks
          rfl
        · cases hasks
      simp [hnow, hkey]

/-- However many packets arrive, the log grows by no more than the telemetry
allowance of the time that has passed and a line for every firewall command. -/
theorem log_bounded (config : ValidConfig) (device : LogDevice)
    (answer : List CommandSpec → CommandSpec → Except Error CommandStatus)
    (arrivals : List Arrival)
    (hchronological : arrivals.Pairwise fun earlier later =>
      earlier.now ≤ later.now)
    (hclock : ∀ arrival ∈ arrivals, arrival.now ≤ Instant.max)
    (start finish : ℕ)
    (hstart : ∀ arrival ∈ arrivals, start ≤ arrival.now)
    (hfinish : ∀ arrival ∈ arrivals, arrival.now ≤ finish) :
    (((started config device).trace (.answering answer) arrivals).map
        Handling.reported).sum ≤
      2 * ceiling (saturatingMul config.invalidBurstLimit 10)
          (saturatingMul config.invalidRefillPerMinute 10)
          (Duration.fromSecs 60) (finish - start) +
        (((started config device).trace (.answering answer) arrivals).map
          fun handling => handling.issued.length).sum := by
  have hstarts : ∀ call ∈ calls Handling.asksTelemetry
      ((started config device).trace (.answering answer) arrivals),
      call.1 = "packet" → start ≤ call.2 := by
    intro call hcall _
    obtain ⟨handling, hhandling, hasks⟩ := List.mem_filterMap.mp hcall
    obtain ⟨key, -, rfl⟩ := Option.map_eq_some_iff.mp hasks
    exact hstart _ (arrival_mem_of_mem_trace hhandling)
  have hgranted : (started config device).packetTelemetryLimiter.grantedUntil
        "packet" (calls Handling.asksTelemetry
          ((started config device).trace (.answering answer) arrivals))
        finish ≤ _ :=
    TokenBucketLimiter.grantedUntil_le_ceiling
      (saturatingMul config.invalidBurstLimit 10)
      (saturatingMul config.invalidRefillPerMinute 10) (by decide)
      (calls_chronological ((started config device).chronological_trace
        (.answering answer) hchronological))
      (onClock_calls hclock) hstarts finish
  rw [← countP_telemetered _ _ hfinish] at hgranted
  exact (reported_trace _ _ _).trans
    (Nat.add_le_add_right (Nat.mul_le_mul_left 2 hgranted) _)

/-- Two of three packets that make up a knock. -/
theorem log_bounded_in_progress :
    (((started debugConfig .writable).trace
        (.answering RecordingRunner.succeeding)
        [packetArrival 0 .tcp (some 7001),
          packetArrival 1 .udp (some 7002)]).map Handling.reported).sum ≤
      2 * ceiling (saturatingMul debugConfig.invalidBurstLimit 10)
          (saturatingMul debugConfig.invalidRefillPerMinute 10)
          (Duration.fromSecs 60) (1 - 0) +
        (((started debugConfig .writable).trace
          (.answering RecordingRunner.succeeding)
          [packetArrival 0 .tcp (some 7001),
            packetArrival 1 .udp (some 7002)]).map
          fun handling => handling.issued.length).sum :=
  log_bounded debugConfig .writable RecordingRunner.succeeding _ (by decide)
    (by decide) 0 1 (by decide) (by decide)

end Server

end SshKnock
