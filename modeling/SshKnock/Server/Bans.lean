import SshKnock.Knock.Isolation
import SshKnock.Server.Run

/-!
# Bans and the traffic of others

A source that knocks properly on its own is never banned as long as it never
meets a full table of partial states.  Meeting a full table counts as an
invalid packet, so other sources can get it banned.
-/

namespace SshKnock

namespace KnockTracker

/-- The shadow stays one while time passes. -/
theorem Shadows.later {rules : KnockRules} {capacity : ℕ} {sourceIp : IpAddr}
    {early late : ℕ} {joint solo : KnockTracker}
    (hshadows : Shadows rules capacity sourceIp early joint solo)
    (hle : early ≤ late) : Shadows rules capacity sourceIp late joint solo where
  joint_consistent := hshadows.joint_consistent
  solo_consistent := hshadows.solo_consistent
  slot_eq := by
    rw [← rules.age_age _ hle, hshadows.slot_eq, rules.age_age _ hle]
  others_none := hshadows.others_none

end KnockTracker

/-- The packet as it is handed to the tracker. -/
def Arrival.call (arrival : Arrival) : KnockPacket × ℕ :=
  (arrival.packet, arrival.now)

/-- The packet is no reason to ban the source: a command that names the source
opens the firewall to its accepted packet, and the ban map does not hold the
source afterwards. -/
structure Handling.Spares (sourceIp : IpAddr) (handling : Handling) :
    Prop where
  only_allowed : ∀ command ∈ handling.issued, ∀ set,
    command.addedEntry? = some (set, toString sourceIp) →
      handling.arrival.sourceIp = sourceIp ∧
        handling.before.outcome handling.arrival = .accepted ∧
        command = handling.before.firewall.addIpCommand sourceIp
  not_remembered : handling.after.bannedSources.containsKey sourceIp = false

/-- The tracker does not turn a packet of the source away for lack of room. -/
def Handling.HasRoom (sourceIp : IpAddr) (handling : Handling) : Prop :=
  handling.arrival.sourceIp = sourceIp →
    handling.before.tracker.refusedForCapacity handling.arrival.packet
      handling.arrival.now = false

instance (sourceIp : IpAddr) (handling : Handling) :
    Decidable (handling.HasRoom sourceIp) :=
  inferInstanceAs (Decidable (_ → _))

namespace Server

/-- The source is not banned and its partial state is that of a tracker of its
own. -/
structure Spared (config : Config) (sourceIp : IpAddr) (now : ℕ)
    (server : Server) (solo : KnockTracker) : Prop where
  configured : Configured config server
  shadows : KnockTracker.Shadows config.knockRules config.maxPartialStates
    sourceIp now server.tracker solo
  unbanned : server.bannedSources.get sourceIp = none

variable {config : Config} {sourceIp : IpAddr} {early : ℕ} {server : Server}
  {solo : KnockTracker}

/-- A packet of another source changes neither. -/
theorem Spared.judge_other
    (hspared : Spared config sourceIp early server solo) {arrival : Arrival}
    (hle : early ≤ arrival.now) (hother : arrival.sourceIp ≠ sourceIp) :
    Spared config sourceIp arrival.now (server.judge arrival).2 solo := by
  have hconfigured := hspared.configured.judge arrival
  have hexpired :=
    get_expireBannedSources_eq_none hspared.unbanned arrival.now
  have hshadows : KnockTracker.Shadows config.knockRules
      config.maxPartialStates sourceIp arrival.now
      (server.tracker.process arrival.packet arrival.now).2 solo :=
    hspared.shadows.process_other hle hother
  have hjudged := server.judged arrival
  generalize server.judge arrival = result at hjudged hconfigured ⊢
  cases hjudged with
  | ignored => exact ⟨hconfigured, hspared.shadows.later hle, hexpired⟩
  | valid => exact ⟨hconfigured, hshadows, hexpired⟩
  | tolerated => exact ⟨hconfigured, hshadows, hexpired⟩
  | aborted => exact ⟨hconfigured, hshadows, hexpired⟩
  | banned after _ _ _ hremembered =>
      obtain ⟨bannedSources, rfl, hothers⟩ :=
        rememberBannedSource_eq_some hremembered
      refine ⟨hconfigured, hshadows, ?_⟩
      rw [hothers sourceIp (Ne.symm hother)]
      exact get_expireBannedSources_eq_none hexpired arrival.now

/-- A packet of the source itself is answered as by its own tracker. -/
theorem Spared.judge_own
    (hspared : Spared config sourceIp early server solo) {arrival : Arrival}
    (hle : early ≤ arrival.now) (hown : arrival.sourceIp = sourceIp)
    (hroom : server.tracker.refusedForCapacity arrival.packet arrival.now =
      false)
    (hvalid : (solo.process arrival.packet arrival.now).1.isInvalid = false) :
    (server.judge arrival).1 ≠ .ban ∧
      Spared config sourceIp arrival.now (server.judge arrival).2
        (solo.process arrival.packet arrival.now).2 := by
  subst hown
  have hshadows : KnockTracker.Shadows config.knockRules
      config.maxPartialStates arrival.packet.sourceIp early server.tracker
      solo := hspared.shadows
  obtain ⟨houtcome, hshadows⟩ := hshadows.process_own hle hroom
  have hconfigured := hspared.configured.judge arrival
  have hexpired :=
    get_expireBannedSources_eq_none hspared.unbanned arrival.now
  have hvalid : (server.outcome arrival).isInvalid = false := by
    rw [outcome, houtcome, hvalid]
  have hjudged := server.judged arrival
  generalize server.judge arrival = result at hjudged hconfigured ⊢
  cases hjudged with
  | ignored hbanned =>
      rw [bannedAt_eq_false_iff.mpr hexpired] at hbanned
      cases hbanned
  | valid => exact ⟨by simp, hconfigured, hshadows, hexpired⟩
  | tolerated _ hinvalid => rw [hvalid] at hinvalid; cases hinvalid
  | aborted _ hinvalid => rw [hvalid] at hinvalid; cases hinvalid
  | banned _ _ hinvalid => rw [hvalid] at hinvalid; cases hinvalid

/-- What the source's own packet and the packets of others keep. -/
theorem Spared.handling (hspared : Spared config sourceIp early server solo)
    {arrival : Arrival} (hle : early ≤ arrival.now)
    (runner : RecordingRunner)
    (hroom : (server.handling runner arrival).HasRoom sourceIp)
    (hvalid : arrival.sourceIp = sourceIp →
      (solo.process arrival.packet arrival.now).1.isInvalid = false) :
    (server.handling runner arrival).Spares sourceIp ∧
      Spared config sourceIp arrival.now (server.handling runner arrival).after
        (if arrival.sourceIp = sourceIp then
          (solo.process arrival.packet arrival.now).2 else solo) := by
  have hsame := server.sameMemory_handling runner arrival
  have hjudge : (arrival.sourceIp = sourceIp → (server.judge arrival).1 ≠ .ban) ∧
      Spared config sourceIp arrival.now (server.judge arrival).2
        (if arrival.sourceIp = sourceIp then
          (solo.process arrival.packet arrival.now).2 else solo) := by
    by_cases hown : arrival.sourceIp = sourceIp
    · obtain ⟨hban, hafter⟩ :=
        hspared.judge_own hle hown (hroom hown) (hvalid hown)
      rw [if_pos hown]
      exact ⟨fun _ => hban, hafter⟩
    · rw [if_neg hown]
      exact ⟨fun hself => absurd hself hown, hspared.judge_other hle hown⟩
  obtain ⟨hban, hafter⟩ := hjudge
  have hunbanned : (server.handling runner arrival).after.bannedSources.get
      sourceIp = none := by
    rw [hsame.bannedSources_eq, hafter.unbanned]
  refine ⟨⟨?_, ?_⟩, hafter.configured.sameMemory hsame, ?_, hunbanned⟩
  · have hfirewall : (server.judge arrival).2.firewall = server.firewall :=
      hafter.configured.firewall_eq.trans hspared.configured.firewall_eq.symm
    have hissued := server.issued_handling runner arrival
    generalize hcommands : (server.handling runner arrival).issued = issued
      at hissued
    intro command hcommand set hentry
    cases hissued with
    | nothing => cases hcommand
    | ban hbanned =>
        rw [List.mem_singleton.mp hcommand, Firewall.addedEntry?_banIpCommand,
          Option.some.injEq, Prod.mk.injEq] at hentry
        have hown := IpAddr.toString_injective hentry.2
        exact absurd hbanned (hban hown)
    | allow haccepted =>
        rw [List.mem_singleton.mp hcommand, Firewall.addedEntry?_addIpCommand,
          Option.some.injEq, Prod.mk.injEq] at hentry
        have hown := IpAddr.toString_injective hentry.2
        rw [List.mem_singleton.mp hcommand, hfirewall, hown]
        exact ⟨hown, (accepted_of_judge haccepted).2, rfl⟩
  · exact HashMap.containsKey_eq_false_iff.mpr hunbanned
  · rw [hsame.tracker_eq]
    exact hafter.shadows

/-- The tracker of its own answers the source's first packet, if the first
packet is its own, and then the others. -/
theorem forall_outcomesOf_cons {Property : KnockOutcome → Prop}
    {rules : KnockRules} {capacity : ℕ} {solo : KnockTracker}
    {arrival : Arrival} {arrivals : List Arrival}
    (hall : ∀ outcome ∈ KnockTracker.outcomesOf
        ((KnockTracker.machine rules capacity).trace solo
          (KnockTracker.packetsOf sourceIp
            ((arrival :: arrivals).map Arrival.call))), Property outcome) :
    (arrival.sourceIp = sourceIp →
        Property (solo.process arrival.packet arrival.now).1) ∧
      ∀ outcome ∈ KnockTracker.outcomesOf
        ((KnockTracker.machine rules capacity).trace
          (if arrival.sourceIp = sourceIp then
            (solo.process arrival.packet arrival.now).2 else solo)
          (KnockTracker.packetsOf sourceIp (arrivals.map Arrival.call))),
        Property outcome := by
  rw [List.map_cons, KnockTracker.packetsOf] at hall
  by_cases hown : arrival.sourceIp = sourceIp
  · have hkept : arrival.call.1.sourceIp = sourceIp := hown
    rw [List.filter_cons_of_pos (by simpa using hkept)] at hall
    rw [if_pos hown]
    obtain ⟨hfirst, hrest⟩ := List.forall_mem_cons.mp hall
    exact ⟨fun _ => hfirst, hrest⟩
  · have hdropped : arrival.call.1.sourceIp ≠ sourceIp := hown
    rw [List.filter_cons_of_neg (by simpa using hdropped)] at hall
    rw [if_neg hown]
    exact ⟨fun hself => absurd hself hown, hall⟩

theorem Spared.trace (hspared : Spared config sourceIp early server solo)
    (runner : RecordingRunner) {arrivals : List Arrival}
    (hstart : ∀ arrival ∈ arrivals, early ≤ arrival.now)
    (harrivals : arrivals.Pairwise fun earlier later => earlier.now ≤ later.now)
    (hvalid : ∀ outcome ∈ KnockTracker.outcomesOf
        ((KnockTracker.machine config.knockRules config.maxPartialStates).trace
          solo (KnockTracker.packetsOf sourceIp (arrivals.map Arrival.call))),
      outcome.isInvalid = false)
    (hroom : ∀ handling ∈ server.trace runner arrivals,
      handling.HasRoom sourceIp) :
    ∀ handling ∈ server.trace runner arrivals, handling.Spares sourceIp := by
  induction arrivals generalizing server solo early runner with
  | nil => simp [Server.trace]
  | cons arrival arrivals ih =>
      obtain ⟨hlater, hrest⟩ := List.pairwise_cons.mp harrivals
      obtain ⟨hfirst, hvalid⟩ := forall_outcomesOf_cons hvalid
      rw [trace_cons] at hroom ⊢
      obtain ⟨hroomFirst, hroom⟩ := List.forall_mem_cons.mp hroom
      obtain ⟨hspares, hafter⟩ := hspared.handling
        (hstart arrival List.mem_cons_self) runner hroomFirst hfirst
      refine List.forall_mem_cons.mpr ⟨hspares, ?_⟩
      by_cases haborted : (server.handle runner arrival).1 = .aborted
      · rw [if_pos haborted]
        simp
      · rw [if_neg haborted] at hroom ⊢
        exact ih hafter _ hlater hrest hvalid hroom

/-- A source whose packets a tracker of its own would all answer with progress
or acceptance is never banned in a run in which none of them meets a full
table, whatever the other sources send. -/
theorem never_banned (config : ValidConfig) (device : LogDevice)
    (answer : List CommandSpec → CommandSpec → Except Error CommandStatus)
    (arrivals : List Arrival)
    (harrivals : arrivals.Pairwise fun earlier later => earlier.now ≤ later.now)
    (sourceIp : IpAddr)
    (hvalid : ∀ outcome ∈ KnockTracker.outcomesOf
        ((KnockTracker.fresh config.knockRules config.maxPartialStates).trace
          (KnockTracker.packetsOf sourceIp (arrivals.map Arrival.call))),
      outcome.isInvalid = false)
    (hroom : ∀ handling ∈
        (started config device).trace (.answering answer) arrivals,
      handling.HasRoom sourceIp) :
    ∀ handling ∈ (started config device).trace (.answering answer) arrivals,
      handling.Spares sourceIp := by
  have hspared : Spared config.toConfig sourceIp 0 (started config device)
      (.fresh config.knockRules config.maxPartialStates) :=
    ⟨configured_started config device, .fresh _ _ _, HashMap.get_empty _⟩
  exact hspared.trace _ (fun _ _ => Nat.zero_le _) harrivals hvalid hroom

/-! ## A full table -/

/-- The test configuration with room for a single partial state. -/
def narrowConfig : ValidConfig :=
  { testConfig with maxPartialStates := 1, validated := by decide }

/-- The first step of the test configuration. -/
def firstStepArrival (now : ℕ) (host : UInt8) : Arrival :=
  { now, addr := ⟨KnockTracker.testSource host, 12345⟩, protocol := .tcp
    port := some 7001, payloadSize := 1 }

/-- While another source holds the only partial state, a source knocks for the
first time twice. -/
def crowdedArrivals : List Arrival :=
  [firstStepArrival 0 10, firstStepArrival 1 20, firstStepArrival 2 20]

/-- On its own the source is answered with progress both times; in the shared
table it is banned. -/
theorem crowded_source_banned :
    crowdedArrivals.Pairwise
        (fun earlier later => earlier.now ≤ later.now) ∧
      KnockTracker.outcomesOf
        ((KnockTracker.fresh narrowConfig.knockRules
          narrowConfig.maxPartialStates).trace
          (KnockTracker.packetsOf (KnockTracker.testSource 20)
            (crowdedArrivals.map Arrival.call))) =
        [.progress 1, .progress 1] ∧
      ((started narrowConfig .writable).trace
          (.answering RecordingRunner.succeeding) crowdedArrivals).map
          (fun handling => (handling.issued,
            handling.after.bannedSources.containsKey
              (KnockTracker.testSource 20))) =
        [([], false), ([], false),
          ([{ program := "ipset"
              args := ["add", "ssh_ban", "192.0.2.20", "timeout", "2",
                "-exist"] }], true)] := by
  refine ⟨by decide, ?_, ?_⟩ <;> decide +kernel

/-- In a table with room for both, the same packets lead to no ban. -/
theorem never_banned_with_room :
    crowdedArrivals.Pairwise
        (fun earlier later => earlier.now ≤ later.now) ∧
      ∀ handling ∈ (started testConfig .writable).trace
          (.answering RecordingRunner.succeeding) crowdedArrivals,
        handling.Spares (KnockTracker.testSource 20) := by
  have hordered : crowdedArrivals.Pairwise
      fun earlier later => earlier.now ≤ later.now := by decide
  refine ⟨hordered, ?_⟩
  apply never_banned testConfig .writable RecordingRunner.succeeding
    crowdedArrivals hordered (KnockTracker.testSource 20)
  · decide +kernel
  · decide +kernel

end Server

end SshKnock
