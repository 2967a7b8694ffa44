import SshKnock.Server.Bans

/-!
# What the server remembers of its sources

The partial states and the bans are both capped.  The buckets of the source
limiter are not: every source whose packet is invalid gets one, and only idle
buckets are dropped.
-/

namespace SshKnock

namespace Server

/-- What remembering a banned source leaves behind. -/
inductive Remembers (server : Server) (sourceIp : IpAddr) (now : ℕ) :
    Server → Prop where
  | full (hfull : server.config.maxPartialStates ≤
        (server.expireBannedSources now).bannedSources.len)
      (hunknown : (server.expireBannedSources now).bannedSources.containsKey
        sourceIp = false) :
      Remembers server sourceIp now (server.expireBannedSources now)
  | recorded
      (hroom : (server.expireBannedSources now).bannedSources.containsKey
          sourceIp = true ∨
        (server.expireBannedSources now).bannedSources.len <
          server.config.maxPartialStates) :
      Remembers server sourceIp now
        { server.expireBannedSources now with
          bannedSources := (server.expireBannedSources now).bannedSources.insert
            sourceIp (now + Duration.fromSecs server.config.banTimeout) }

theorem remembers {server after : Server} {sourceIp : IpAddr} {now : ℕ}
    (hremembered : server.rememberBannedSource sourceIp now = some after) :
    Remembers server sourceIp now after := by
  simp only [rememberBannedSource] at hremembered
  split at hremembered
  · next hfull =>
      rw [Bool.and_eq_true, decide_eq_true_eq, Bool.not_eq_true'] at hfull
      cases hremembered
      exact .full hfull.1 hfull.2
  · next hroom =>
      obtain ⟨expiresAt, hexpires, rfl⟩ := Option.map_eq_some_iff.mp hremembered
      obtain rfl := Instant.eq_add_of_checkedAdd hexpires
      apply Remembers.recorded
      rw [Bool.and_eq_true, decide_eq_true_eq, Bool.not_eq_true'] at hroom
      by_cases hknown : (server.expireBannedSources now).bannedSources.containsKey
          sourceIp = true
      · exact Or.inl hknown
      · exact Or.inr (Nat.not_le.mp fun hfull =>
          hroom ⟨hfull, Bool.eq_false_iff.mpr hknown⟩)

/-- The two capped maps. -/
structure Capped (config : Config) (server : Server) : Prop where
  configured : Configured config server
  banned_le : server.bannedSources.len ≤ config.maxPartialStates

variable {config : Config} {server : Server}

theorem capped_started (config : ValidConfig) (device : LogDevice) :
    Capped config.toConfig (started config device) :=
  ⟨configured_started config device, Nat.zero_le _⟩

theorem Capped.states_le (hserver : Capped config server) :
    server.tracker.states.len ≤ config.maxPartialStates :=
  hserver.configured.tracker_consistent.len_le

theorem Capped.sameMemory {other : Server} (hserver : Capped config server)
    (hsame : SameMemory other server) : Capped config other :=
  ⟨hserver.configured.sameMemory hsame,
    hsame.bannedSources_eq ▸ hserver.banned_le⟩

/-- No packet makes either of them exceed the cap. -/
theorem Capped.judge (hserver : Capped config server) (arrival : Arrival) :
    Capped config (server.judge arrival).2 := by
  have hconfigured := hserver.configured.judge arrival
  have hexpired : (server.expireBannedSources arrival.now).bannedSources.len ≤
      config.maxPartialStates :=
    (HashMap.len_retain_le _ _).trans hserver.banned_le
  have hjudged := server.judged arrival
  generalize server.judge arrival = result at hjudged hconfigured ⊢
  cases hjudged with
  | ignored | valid | tolerated | aborted => exact ⟨hconfigured, hexpired⟩
  | banned after _ _ _ hremembered =>
      refine ⟨hconfigured, ?_⟩
      have htwice : ((server.limited arrival).expireBannedSources
          arrival.now).bannedSources.len ≤ config.maxPartialStates :=
        (HashMap.len_retain_le _ _).trans hexpired
      have hlimit : (server.limited arrival).config.maxPartialStates =
          config.maxPartialStates :=
        congrArg Config.maxPartialStates hserver.configured.config_eq
      have hremembers := remembers hremembered
      cases hremembers with
      | full => exact htwice
      | recorded hroom =>
          rw [hlimit] at hroom
          exact (HashMap.len_insert_le_iff _ _ _ htwice).mpr hroom

theorem Capped.handling (hserver : Capped config server)
    (runner : RecordingRunner) (arrival : Arrival) :
    Capped config (server.handling runner arrival).after :=
  (hserver.judge arrival).sameMemory (server.sameMemory_handling runner arrival)

/-- Each of the three maps holds at most so many sources. -/
structure Bounded (bound : ℕ) (server : Server) : Prop where
  states_le : server.tracker.len ≤ bound
  banned_le : server.bannedSources.len ≤ bound
  buckets_le : server.sourceLimiter.len ≤ bound

/-- The buckets after a packet. -/
theorem buckets_judge (server : Server) (arrival : Arrival) :
    (server.judge arrival).2.sourceLimiter =
      if server.bannedAt arrival.sourceIp arrival.now = false ∧
          (server.outcome arrival).isInvalid = true then
        (server.sourceLimiter.allow arrival.sourceIp arrival.now).2
      else server.sourceLimiter := by
  have hjudged := server.judged arrival
  generalize server.judge arrival = result at hjudged ⊢
  cases hjudged with
  | ignored hbanned => rw [if_neg (by simp [hbanned])]; rfl
  | valid _ hvalid => rw [if_neg (by simp [hvalid])]; rfl
  | tolerated hunbanned hinvalid => rw [if_pos ⟨hunbanned, hinvalid⟩]; rfl
  | aborted hunbanned hinvalid => rw [if_pos ⟨hunbanned, hinvalid⟩]; rfl
  | banned after hunbanned hinvalid _ hremembered =>
      obtain ⟨bannedSources, rfl, -⟩ :=
        rememberBannedSource_eq_some hremembered
      rw [if_pos ⟨hunbanned, hinvalid⟩]
      rfl

end Server

end SshKnock
