import SshKnock.RateLimit.Representation
import SshKnock.Server.Rates

/-!
# What a flood of sources costs

The source limiter keeps one bucket for every source with an invalid packet in
the last two minutes.  Nothing caps these sources, so they decide whether memory
stays within the cap.
-/

namespace SshKnock

open TokenBucketLimiter (recentKeys mem_recentKeys_iff)

namespace Server

/-- The different sources that were not banned and whose packets were found
invalid in the last two minutes. -/
def invalidSources (handlings : List Handling) (now : ℕ) : Finset IpAddr :=
  ((handlings.filter fun handling =>
    handling.invalidFrom handling.sourceIp &&
      now < handling.now + Duration.fromSecs 120).map
    Handling.sourceIp).toFinset

/-- At every packet there have been no more such sources than this. -/
def FewSources (bound : ℕ) (handlings : List Handling) : Prop :=
  ∀ earlier handling, earlier ++ [handling] <+: handlings →
    (invalidSources (earlier ++ [handling]) handling.now).card ≤ bound

/-- These are the sources for which the limiter was asked recently. -/
theorem invalidSources_eq (handlings : List Handling) (now : ℕ) :
    invalidSources handlings now =
      recentKeys (Duration.fromSecs 60) (calls Handling.asksFor handlings)
        now := by
  have htwo : Duration.fromSecs 120 = 2 * Duration.fromSecs 60 := by decide
  ext sourceIp
  simp only [invalidSources, mem_recentKeys_iff, List.mem_toFinset,
    List.mem_map, List.mem_filter, Bool.and_eq_true, decide_eq_true_eq, calls,
    List.mem_filterMap, Option.map_eq_some_iff, htwo]
  constructor
  · rintro ⟨handling, ⟨hmem, hinvalid, hrecent⟩, rfl⟩
    exact ⟨_, ⟨handling, hmem, _, asksFor_eq_some_iff.mpr hinvalid, rfl⟩, rfl,
      hrecent⟩
  · rintro ⟨_, ⟨handling, hmem, asked, hasks, rfl⟩, rfl, hrecent⟩
    have hinvalid := asksFor_eq_some_iff.mp hasks
    have hsource : handling.sourceIp = asked := by
      simp only [Handling.invalidFrom, Bool.and_eq_true,
        decide_eq_true_eq] at hinvalid
      exact hinvalid.1.1
    exact ⟨handling, ⟨hmem, hsource ▸ hinvalid, hrecent⟩, hsource⟩

variable {config : ValidConfig} {device : LogDevice}
  {runner : RecordingRunner} {arrivals : List Arrival}

/-- Every beginning of a run asks the limiter in the order of the clock. -/
theorem chronological_calls_initial {handlings : List Handling}
    (hinitial : handlings <+: (started config device).trace runner arrivals)
    (hchronological : arrivals.Pairwise fun earlier later =>
      earlier.now ≤ later.now) :
    Sharded.Chronological (calls Handling.asksFor handlings) :=
  calls_chronological
    ((chronological_trace _ runner hchronological).sublist hinitial.sublist)

theorem onClock_calls_initial {handlings : List Handling}
    (hinitial : handlings <+: (started config device).trace runner arrivals)
    (hclock : ∀ arrival ∈ arrivals, arrival.now ≤ Instant.max) :
    TokenBucketLimiter.OnClock (calls Handling.asksFor handlings) := by
  have hall : TokenBucketLimiter.OnClock (calls Handling.asksFor
      ((started config device).trace runner arrivals)) := onClock_calls hclock
  intro call hcall
  exact hall call ((hinitial.sublist.filterMap _).mem hcall)

/-- What the limiter has been asked so far comes before the current packet. -/
theorem calls_le_initial {earlier : List Handling} {handling : Handling}
    (hinitial : earlier ++ [handling] <+:
      (started config device).trace runner arrivals)
    (hchronological : arrivals.Pairwise fun earlier later =>
      earlier.now ≤ later.now) :
    ∀ call ∈ calls Handling.asksFor (earlier ++ [handling]),
      call.2 ≤ handling.now := by
  have hordered := (chronological_trace (started config device) runner
    hchronological).sublist hinitial.sublist
  rw [List.pairwise_append] at hordered
  intro call hcall
  obtain ⟨found, hfound, hasks⟩ := List.mem_filterMap.mp hcall
  obtain ⟨key, -, rfl⟩ := Option.map_eq_some_iff.mp hasks
  rcases List.mem_append.mp hfound with hold | hnew
  · exact hordered.2.2 found hold handling (List.mem_singleton_self handling)
  · exact le_of_eq (congrArg Handling.now (List.mem_singleton.mp hnew))

/-- Among few sources the limiter keeps few buckets: its last call left as many
as there were sources then. -/
theorem len_after_calls_le
    (hchronological : arrivals.Pairwise fun earlier later =>
      earlier.now ≤ later.now)
    (hclock : ∀ arrival ∈ arrivals, arrival.now ≤ Instant.max) {bound : ℕ}
    (hfew : FewSources bound ((started config device).trace runner arrivals))
    {handlings : List Handling}
    (hinitial : handlings <+: (started config device).trace runner arrivals) :
    (config.sourceLimiter.after (calls Handling.asksFor handlings)).len ≤
      bound := by
  induction handlings using List.reverseRecOn with
  | nil => exact Nat.zero_le _
  | append_singleton earlier handling ih =>
      have hcalls := chronological_calls_initial hinitial hchronological
      have honClock := onClock_calls_initial hinitial hclock
      have hcount := hfew earlier handling hinitial
      have hearlier := ih ((List.prefix_append _ _).trans hinitial)
      rw [invalidSources_eq] at hcount
      cases hasks : handling.asksFor with
      | none =>
          have hsame : calls Handling.asksFor (earlier ++ [handling]) =
              calls Handling.asksFor earlier := by
            simp [calls, List.filterMap_append, hasks]
          rw [hsame]
          exact hearlier
      | some key =>
          have hasked : calls Handling.asksFor (earlier ++ [handling]) =
              calls Handling.asksFor earlier ++ [(key, handling.now)] := by
            simp [calls, List.filterMap_append, hasks]
          rw [hasked] at hcalls honClock hcount ⊢
          rw [Config.sourceLimiter, TokenBucketLimiter.len_after_concat _ _
            (TokenBucketLimiter.fromSecs_pos (by decide)) hcalls honClock]
          exact hcount

/-- In a run each of the three maps stays within the cap exactly when at every
packet the different sources with an invalid packet in the last two minutes are
no more than that. -/
theorem memory_bounded_iff (config : ValidConfig) (device : LogDevice)
    (answer : List CommandSpec → CommandSpec → Except Error CommandStatus)
    (arrivals : List Arrival)
    (hchronological : arrivals.Pairwise fun earlier later =>
      earlier.now ≤ later.now)
    (hclock : ∀ arrival ∈ arrivals, arrival.now ≤ Instant.max) :
    (∀ handling ∈ (started config device).trace (.answering answer) arrivals,
        handling.after.Bounded config.maxPartialStates) ↔
      FewSources config.maxPartialStates
        ((started config device).trace (.answering answer) arrivals) := by
  have hlimiter : (started config device).sourceLimiter =
      config.sourceLimiter := rfl
  constructor
  · intro hbounded earlier handling hinitial
    have hbuckets := (hbounded handling
      (hinitial.subset (List.mem_append_right _
        (List.mem_singleton_self handling)))).buckets_le
    rw [asked_sourceLimiter.after_eq _ _ hinitial, hlimiter] at hbuckets
    rw [invalidSources_eq]
    exact (TokenBucketLimiter.card_recentKeys_le _ _
      (TokenBucketLimiter.fromSecs_pos (by decide))
      (chronological_calls_initial hinitial hchronological)
      (onClock_calls_initial hinitial hclock)
      (calls_le_initial hinitial hchronological)).trans hbuckets
  · intro hfew handling hhandling
    have hstep : ∀ server runner arrival, Capped config.toConfig server →
        Capped config.toConfig (server.handling runner arrival).after ∧
          Capped config.toConfig (server.handling runner arrival).after :=
      fun _ runner arrival hserver =>
        ⟨hserver.handling runner arrival, hserver.handling runner arrival⟩
    have hall : ∀ handling ∈ (started config device).trace (.answering answer)
        arrivals, Capped config.toConfig handling.after :=
      forall_trace hstep (capped_started config device) _ _
    have hcapped := hall handling hhandling
    obtain ⟨earlier, later, hsplit⟩ := List.append_of_mem hhandling
    have hinitial : earlier ++ [handling] <+:
        (started config device).trace (.answering answer) arrivals :=
      ⟨later, by rw [hsplit, List.append_assoc, List.singleton_append]⟩
    refine ⟨hcapped.states_le, hcapped.banned_le, ?_⟩
    rw [asked_sourceLimiter.after_eq _ _ hinitial, hlimiter]
    exact len_after_calls_le hchronological hclock hfew hinitial

/-- Two invalid packets of one source, and one of another source two minutes
after the last of them. -/
def farApartArrivals : List Arrival :=
  [(10, 0), (10, 1000000000), (20, 121000000000)].map fun (host, now) =>
    { now, addr := ⟨KnockTracker.testSource host, 12345⟩, protocol := .tcp
      port := some 7001, payloadSize := 513 }

theorem memory_bounded_far_apart :
    FewSources narrowConfig.maxPartialStates
        ((started narrowConfig .writable).trace
          (.answering RecordingRunner.succeeding) farApartArrivals) ∧
      ∀ handling ∈ (started narrowConfig .writable).trace
          (.answering RecordingRunner.succeeding) farApartArrivals,
        handling.after.Bounded narrowConfig.maxPartialStates := by
  have hcounts : ∀ handlings ∈ ((started narrowConfig .writable).trace
      (.answering RecordingRunner.succeeding) farApartArrivals).inits,
      ∀ handling ∈ handlings.getLast?,
        (invalidSources handlings handling.now).card ≤
          narrowConfig.maxPartialStates := by
    decide +kernel
  have hfew : FewSources narrowConfig.maxPartialStates
      ((started narrowConfig .writable).trace
        (.answering RecordingRunner.succeeding) farApartArrivals) := by
    intro earlier handling hinitial
    exact hcounts _ ((List.mem_inits _ _).mpr hinitial) handling
      List.getLast?_concat
  exact ⟨hfew, (memory_bounded_iff narrowConfig .writable
    RecordingRunner.succeeding farApartArrivals (by decide) (by decide)).mpr
      hfew⟩

/-- One invalid packet from each of three sources at one instant. -/
def floodArrivals : List Arrival :=
  [10, 20, 30].map fun host =>
    { now := 0, addr := ⟨KnockTracker.testSource host, 12345⟩, protocol := .tcp
      port := some 7001, payloadSize := 513 }

/-- Each source gets a bucket of its own. -/
theorem flood_grows_buckets :
    ((started narrowConfig .writable).trace
        (.answering RecordingRunner.succeeding) floodArrivals).map
        (fun handling => handling.after.sourceLimiter.len) = [1, 2, 3] ∧
      ¬∀ handling ∈ (started narrowConfig .writable).trace
          (.answering RecordingRunner.succeeding) floodArrivals,
        handling.after.Bounded narrowConfig.maxPartialStates := by
  have hgrown : ((started narrowConfig .writable).trace
      (.answering RecordingRunner.succeeding) floodArrivals).map
        (fun handling => handling.after.sourceLimiter.len) = [1, 2, 3] := by
    decide +kernel
  refine ⟨hgrown, fun hbounded => ?_⟩
  have hthree : 3 ∈ ((started narrowConfig .writable).trace
      (.answering RecordingRunner.succeeding) floodArrivals).map
        (fun handling => handling.after.sourceLimiter.len) := by
    rw [hgrown]
    decide
  obtain ⟨handling, hhandling, hlen⟩ := List.mem_map.mp hthree
  have hle := (hbounded handling hhandling).buckets_le
  rw [hlen] at hle
  exact absurd hle (by decide)

end Server

end SshKnock
