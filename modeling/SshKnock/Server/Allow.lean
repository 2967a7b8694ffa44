import SshKnock.Server.Run

/-!
# What the allow set gains

The firewall is opened only for the source of an accepted packet, provided the
two sets have different names.  The configuration check does not compare the
names: when they are equal, a ban adds the banned source to the allow set.
-/

namespace SshKnock

/-- A handled packet causes at most one command, which adds the packet's own
source and nothing else to a set, and to the allow set only when the source is
not banned and the packet is accepted. -/
structure Handling.Sound (handling : Handling) : Prop where
  at_most_one : handling.issued.length ≤ 1
  names_source : ∀ command ∈ handling.issued, ∃ set,
    command.addedEntry? = some (set, toString handling.arrival.sourceIp)
  names_no_other : ∀ command ∈ handling.issued, ∀ (set : String)
    (address : IpAddr), command.addedEntry? = some (set, toString address) →
    address = handling.arrival.sourceIp
  allow_earned : ∀ command ∈ handling.issued, ∀ entry,
    command.addedEntry? = some (handling.before.config.ipsetName, entry) →
    handling.before.bannedAt handling.arrival.sourceIp handling.arrival.now =
        false ∧
      handling.before.outcome handling.arrival = .accepted

namespace Server

/-- A single command that adds the source is sound when it is earned. -/
theorem sound_of_issued {handling : Handling} {command : CommandSpec}
    {set : String} (hissued : handling.issued = [command])
    (hentry : command.addedEntry? =
      some (set, toString handling.arrival.sourceIp))
    (hearned : set = handling.before.config.ipsetName →
      handling.before.bannedAt handling.arrival.sourceIp handling.arrival.now =
          false ∧
        handling.before.outcome handling.arrival = .accepted) :
    handling.Sound where
  at_most_one := by simp [hissued]
  names_source other hother := by
    rw [hissued, List.mem_singleton] at hother
    exact ⟨set, hother ▸ hentry⟩
  names_no_other other hother otherSet address haddress := by
    rw [hissued, List.mem_singleton] at hother
    rw [hother, hentry, Option.some.injEq, Prod.mk.injEq] at haddress
    exact (IpAddr.toString_injective haddress.2).symm
  allow_earned other hother entry hadded := by
    rw [hissued, List.mem_singleton] at hother
    rw [hother, hentry, Option.some.injEq, Prod.mk.injEq] at hadded
    exact hearned hadded.1

variable {config : Config}

/-- Every packet is handled soundly unless it leads to a ban and the sets share
their name. -/
theorem Configured.sound {server : Server} (hserver : Configured config server)
    (runner : RecordingRunner) (arrival : Arrival)
    (hban : (server.judge arrival).1 = .ban →
      config.ipsetName ≠ config.banIpsetName) :
    (server.handling runner arrival).Sound := by
  have hfirewall := (hserver.judge arrival).firewall_eq
  have hissued := server.issued_handling runner arrival
  generalize hcommands : (server.handling runner arrival).issued = issued
    at hissued
  cases hissued with
  | nothing =>
      constructor <;> simp [hcommands]
  | ban hbanned =>
      refine sound_of_issued hcommands (Firewall.addedEntry?_banIpCommand _ _) ?_
      intro hset
      have hname : config.banIpsetName = config.ipsetName := by
        rw [hfirewall] at hset
        exact hset.trans (congrArg Config.ipsetName hserver.config_eq)
      exact absurd hname.symm (hban hbanned)
  | allow haccepted =>
      exact sound_of_issued hcommands (Firewall.addedEntry?_addIpCommand _ _)
        fun _ => accepted_of_judge haccepted

/-! ## A ban that never ends in representable time -/

theorem checkedAdd_banTimeout_eq_none {banTimeout : UInt64}
    (hlong : 2 ^ 63 ≤ banTimeout.toNat) (now : ℕ) :
    Instant.checkedAdd now (Duration.fromSecs banTimeout) = none := by
  apply Instant.checkedAdd_eq_none
  rw [Instant.max, Duration.fromSecs, Duration.nanosPerSec]
  omega

theorem fits_banTimeout {banTimeout : UInt64}
    (hshort : banTimeout.toNat < 2 ^ 63) :
    0 + Duration.fromSecs banTimeout ≤ Instant.max := by
  rw [Instant.max, Duration.fromSecs, Duration.nanosPerSec]
  omega

/-- A server that has never remembered a ban. -/
structure BanFree (config : Config) (server : Server) : Prop where
  configured : Configured config server
  bannedSources_eq : server.bannedSources = HashMap.empty

/-- An empty ban map takes a source exactly when the end of its ban is
representable. -/
theorem rememberBannedSource_of_empty {server : Server} (sourceIp : IpAddr)
    (now : ℕ) (hempty : server.bannedSources = HashMap.empty)
    (hcapacity : 0 < server.config.maxPartialStates) :
    server.rememberBannedSource sourceIp now =
      (Instant.checkedAdd now (Duration.fromSecs server.config.banTimeout)).map
        fun expiresAt => { server with
          bannedSources := HashMap.empty.insert sourceIp expiresAt } := by
  have hretained : (server.expireBannedSources now).bannedSources =
      HashMap.empty := by
    rw [expireBannedSources, hempty, HashMap.retain_empty]
  rw [rememberBannedSource_def, rememberedSources]
  simp only [hretained, HashMap.len_empty, Nat.le_zero,
    Nat.ne_of_gt hcapacity, decide_false, Bool.false_and, Bool.false_eq_true,
    if_false, Option.map_map]
  rfl

theorem BanFree.bannedSources_limited {server : Server}
    (hserver : BanFree config server) (arrival : Arrival) :
    (server.limited arrival).bannedSources = HashMap.empty := by
  rw [limited, tracked, expireBannedSources, hserver.bannedSources_eq,
    HashMap.retain_empty]

/-- With a ban too long for the clock, denying a source panics before the
firewall is reached. -/
theorem BanFree.judge {server : Server} (hserver : BanFree config server)
    (hcapacity : 0 < config.maxPartialStates)
    (hlong : 2 ^ 63 ≤ config.banTimeout.toNat) (arrival : Arrival) :
    (server.judge arrival).1 ≠ .ban ∧ BanFree config (server.judge arrival).2 := by
  have hconfigured := hserver.configured.judge arrival
  have hempty : (server.expireBannedSources arrival.now).bannedSources =
      HashMap.empty := by
    rw [expireBannedSources, hserver.bannedSources_eq, HashMap.retain_empty]
  have hjudged := server.judged arrival
  generalize server.judge arrival = result at hjudged hconfigured ⊢
  cases hjudged with
  | ignored => exact ⟨by simp, hconfigured, hempty⟩
  | valid => exact ⟨by simp, hconfigured, hempty⟩
  | tolerated => exact ⟨by simp, hconfigured, hempty⟩
  | aborted => exact ⟨by simp, hconfigured, hempty⟩
  | banned after _ _ _ hremembered =>
      have hconfig : (server.limited arrival).config = config :=
        hserver.configured.config_eq
      rw [rememberBannedSource_of_empty _ _
        (hserver.bannedSources_limited arrival) (hconfig ▸ hcapacity), hconfig,
        checkedAdd_banTimeout_eq_none hlong] at hremembered
      cases hremembered

theorem BanFree.handling {server : Server} (hserver : BanFree config server)
    (hcapacity : 0 < config.maxPartialStates)
    (hlong : 2 ^ 63 ≤ config.banTimeout.toNat) (runner : RecordingRunner)
    (arrival : Arrival) :
    (server.handling runner arrival).Sound ∧
      BanFree config (server.handling runner arrival).after := by
  obtain ⟨hban, hafter⟩ := hserver.judge hcapacity hlong arrival
  have hsame := server.sameMemory_handling runner arrival
  exact ⟨hserver.configured.sound runner arrival
      fun hbanned => absurd hbanned hban,
    hafter.configured.sameMemory hsame,
    hsame.bannedSources_eq.trans hafter.bannedSources_eq⟩

/-! ## A flood of oversized packets -/

/-- The oversized packet arrives again and again: its source has `tokens` left
and is not banned yet. -/
structure Flooded (config : Config) (arrival : Arrival) (tokens : UInt32)
    (server : Server) : Prop where
  banFree : BanFree config server
  interval_pos : 0 < server.sourceLimiter.interval
  oversized : config.maxPayloadSize < arrival.payloadSize
  drained : server.sourceLimiter.Drained arrival.sourceIp arrival.now tokens

variable {arrival : Arrival}

theorem Flooded.outcome_eq {tokens : UInt32} {server : Server}
    (hserver : Flooded config arrival tokens server) :
    server.outcome arrival = .oversized := by
  have hanswers := KnockTracker.answers_process
    hserver.banFree.configured.tracker_consistent arrival.packet arrival.now
  exact hanswers.outcome_eq.trans
    (congrArg Prod.fst (if_pos hserver.oversized))

theorem Flooded.bannedAt_eq {tokens : UInt32} {server : Server}
    (hserver : Flooded config arrival tokens server) :
    server.bannedAt arrival.sourceIp arrival.now = false := by
  rw [bannedAt, expireBannedSources, hserver.banFree.bannedSources_eq,
    HashMap.retain_empty]
  rfl

theorem Flooded.judge_of_ne_zero {tokens : UInt32} {server : Server}
    (hserver : Flooded config arrival tokens server) (hsome : tokens ≠ 0) :
    server.judge arrival = (.answer .oversized, server.limited arrival) := by
  have hallowed := (hserver.drained.allow hserver.interval_pos).1
  rw [decide_eq_true hsome] at hallowed
  rw [judge, hserver.bannedAt_eq, hserver.outcome_eq, if_neg (by simp),
    if_pos (by rfl)]
  exact if_pos hallowed

theorem Flooded.handling {tokens : UInt32} {server : Server}
    (hserver : Flooded config arrival tokens server) (hsome : tokens ≠ 0)
    (runner : RecordingRunner) :
    Flooded config arrival (tokens - 1)
      (server.handling runner arrival).after := by
  have hsame := server.sameMemory_handling runner arrival
  have hconfigured := hserver.banFree.configured.judge arrival
  rw [hserver.judge_of_ne_zero hsome] at hsame hconfigured
  refine ⟨⟨hconfigured.sameMemory hsame, ?_⟩, ?_, hserver.oversized, ?_⟩
  · rw [hsame.bannedSources_eq]
    exact hserver.banFree.bannedSources_limited arrival
  · rw [hsame.sourceLimiter_eq]
    exact hserver.interval_pos
  · rw [hsame.sourceLimiter_eq]
    exact (hserver.drained.allow hserver.interval_pos).2 hsome

/-- Without a token left the source is banned, as far as the clock goes. -/
theorem Flooded.judge_of_zero {server : Server}
    (hserver : Flooded config arrival 0 server)
    (hcapacity : 0 < config.maxPartialStates) :
    (server.judge arrival).1 =
      if arrival.now + Duration.fromSecs config.banTimeout ≤ Instant.max then
        .ban
      else .abort := by
  have hdenied : (server.sourceLimiter.allow arrival.sourceIp
      arrival.now).1 = false :=
    (hserver.drained.allow hserver.interval_pos).1
  have hconfig : (server.limited arrival).config = config :=
    hserver.banFree.configured.config_eq
  have hremembered := rememberBannedSource_of_empty arrival.sourceIp
    arrival.now (hserver.banFree.bannedSources_limited arrival)
    (hconfig ▸ hcapacity)
  rw [hconfig] at hremembered
  rw [judge, hserver.bannedAt_eq, hserver.outcome_eq, if_neg (by simp),
    if_pos (by rfl), hdenied, if_neg (by simp)]
  by_cases hfits : arrival.now + Duration.fromSecs config.banTimeout ≤
      Instant.max
  · rw [Instant.checkedAdd_eq_some hfits, Option.map_some] at hremembered
    rw [hremembered, if_pos hfits]
  · rw [Instant.checkedAdd_eq_none (Nat.not_le.mp hfits),
      Option.map_none] at hremembered
    rw [hremembered, if_neg hfits]

/-- A flood that outlasts the allowance ends in a ban of a source whose packets
were only ever oversized. -/
theorem Flooded.exists_ban {tokens : UInt32} {server : Server}
    (hserver : Flooded config arrival tokens server)
    (hcapacity : 0 < config.maxPartialStates)
    (hfits : arrival.now + Duration.fromSecs config.banTimeout ≤ Instant.max)
    (runner : RecordingRunner) :
    ∃ handling ∈ server.trace runner
        (List.replicate (tokens.toNat + 1) arrival),
      handling.issued = [config.firewall.banIpCommand arrival.sourceIp] ∧
        handling.before.outcome handling.arrival = .oversized ∧
        handling.before.config = config := by
  generalize hcount : tokens.toNat = count
  induction count generalizing tokens server runner with
  | zero =>
      obtain rfl : tokens = 0 := UInt32.toNat_inj.mp hcount
      have hban := hserver.judge_of_zero hcapacity
      rw [if_pos hfits] at hban
      refine ⟨server.handling runner arrival, List.mem_cons_self, ?_,
        hserver.outcome_eq, hserver.banFree.configured.config_eq⟩
      rw [issued_of_ban hban,
        (hserver.banFree.configured.judge arrival).firewall_eq]
  | succ count ih =>
      have hsome : tokens ≠ 0 := by
        rintro rfl
        cases hcount
      have hleft : (tokens - 1).toNat = count :=
        Nat.succ.inj ((toNat_sub_one hsome).trans hcount)
      have hnot : (server.handle runner arrival).1 ≠ .aborted := by
        rw [Ne, handle_aborted_iff, hserver.judge_of_ne_zero hsome]
        simp
      obtain ⟨handling, hmem, hbanned⟩ :=
        ih (hserver.handling hsome runner) (server.handle runner arrival).2.2
          hleft
      refine ⟨handling, ?_, hbanned⟩
      rw [List.replicate_succ, trace_cons, if_neg hnot]
      exact List.mem_cons_of_mem _ hmem

theorem flooded_started (config : ValidConfig) (device : LogDevice)
    (hoversized : config.maxPayloadSize < arrival.payloadSize) :
    Flooded config.toConfig arrival config.invalidBurstLimit
      (started config device) where
  banFree := ⟨configured_started config device, rfl⟩
  interval_pos := by
    show 0 < Duration.fromSecs 60
    decide
  oversized := hoversized
  drained := Or.inr ⟨HashMap.get_empty _, rfl⟩

/-! ## When only accepted sources enter the allow set -/

/-- An oversized packet at the start of the clock. -/
def oversizedArrival (config : Config) : Arrival :=
  { now := 0, addr := ⟨.v4 ⟨192, 0, 2, 20⟩, 12345⟩, protocol := .tcp
    port := some 7001, payloadSize := config.maxPayloadSize + 1 }

/-- Every packet of every run is handled soundly exactly when the two sets have
different names, or no ban can be remembered at all. -/
theorem allow_set_sound_iff (config : ValidConfig) :
    (∀ (device : LogDevice)
        (answer : List CommandSpec → CommandSpec → Except Error CommandStatus)
        (arrivals : List Arrival),
      arrivals.Pairwise (fun earlier later => earlier.now ≤ later.now) →
      ∀ handling ∈ (started config device).trace (.answering answer) arrivals,
        handling.Sound) ↔
      config.ipsetName ≠ config.banIpsetName ∨
        2 ^ 63 ≤ config.banTimeout.toNat := by
  constructor
  · intro hsound
    by_contra hneither
    obtain ⟨hsame, hshort⟩ := not_or.mp hneither
    have hsame := not_not.mp hsame
    have hflooded : Flooded config.toConfig (oversizedArrival config.toConfig)
        config.invalidBurstLimit (started config .writable) :=
      flooded_started config .writable (Nat.lt_succ_self _)
    obtain ⟨handling, hmem, hissued, houtcome, hconfig⟩ :=
      hflooded.exists_ban config.valid.maxPartialStates_pos
        (fits_banTimeout (Nat.not_le.mp hshort))
        (.answering RecordingRunner.succeeding)
    have hhandling := hsound .writable _ _
      (List.pairwise_replicate.mpr (Or.inr (Nat.le_refl _))) handling hmem
    obtain ⟨-, haccepted⟩ := hhandling.allow_earned
      (config.firewall.banIpCommand (oversizedArrival config.toConfig).sourceIp)
      (hissued ▸ List.mem_singleton_self _) _
      (by rw [Firewall.addedEntry?_banIpCommand, hconfig, hsame]; rfl)
    rw [houtcome] at haccepted
    cases haccepted
  · rintro (hnames | hlong) device answer arrivals -
    · exact forall_trace
        (fun _ runner arrival hserver =>
          ⟨hserver.sound runner arrival fun _ => hnames,
            hserver.handling runner arrival⟩)
        (configured_started config device) _ arrivals
    · exact forall_trace
        (fun _ runner arrival hserver =>
          hserver.handling config.valid.maxPartialStates_pos hlong runner
            arrival)
        (⟨configured_started config device, rfl⟩ : BanFree config.toConfig _) _
        arrivals

/-- The test configuration with one name for both sets. -/
def sharedSetConfig : ValidConfig :=
  { testConfig with banIpsetName := "ssh_allow", validated := by decide }

/-- Two oversized packets of one source. -/
def oversizedTwice : List Handling :=
  (started sharedSetConfig .writable).trace
    (.answering RecordingRunner.succeeding)
    (List.replicate 2 (oversizedArrival sharedSetConfig.toConfig))

def secondOversized : Handling :=
  oversizedTwice.get ⟨1, by decide +kernel⟩

/-- The second of two oversized packets puts its source into the allow set. -/
theorem oversized_source_enters_allow_set :
    ∃ handling ∈ oversizedTwice,
      handling.before.outcome handling.arrival = .oversized ∧
        handling.issued = [{ program := "ipset"
                             args := ["add", "ssh_allow", "192.0.2.20",
                               "timeout", "2", "-exist"] }] ∧
        ¬handling.Sound := by
  have houtcome : secondOversized.before.outcome secondOversized.arrival =
      .oversized := by
    decide +kernel
  have hissued : secondOversized.issued =
      [{ program := "ipset"
         args := ["add", "ssh_allow", "192.0.2.20", "timeout", "2",
          "-exist"] }] := by
    decide +kernel
  have hname : secondOversized.before.config.ipsetName = "ssh_allow" := by
    decide +kernel
  refine ⟨secondOversized, List.get_mem _ _, houtcome, hissued, ?_⟩
  intro hsound
  obtain ⟨-, haccepted⟩ := hsound.allow_earned _
    (hissued ▸ List.mem_singleton_self _) "192.0.2.20" (by rw [hname]; rfl)
  rw [houtcome] at haccepted
  cases haccepted

end Server

end SshKnock
