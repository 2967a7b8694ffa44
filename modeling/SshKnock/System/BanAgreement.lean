import SshKnock.Server.Memory
import SshKnock.System.Admission

/-!
# The two memories of a ban

The daemon remembers a ban by itself and has the kernel remember it as well.
While the daemon ignores a source the kernel drops it too, and for no less
time, unless the command that should have told the kernel failed.
-/

namespace SshKnock

open Fallible
open SshKnock.Firewall (bareHost)

namespace System

variable {N Stream Tag : Type} [Network N Stream Tag] {config : ValidConfig}
  {system : System} {events : List (Event N)}

/-- The kernel's ban of the source does not end before `expiresAt`. -/
def BannedUntil (config : ValidConfig) (system : System)
    (events : List (Event N)) (sourceIp : IpAddr) (expiresAt : ℕ) : Prop :=
  ∃ finished, Executed config system events (config.banList.command sourceIp)
      finished ∧ expiresAt ≤ finished + config.banList.duration

/-- At some point of the run the daemon banned the source until `expiresAt`,
and its command to ban the source in the kernel failed. -/
def BanFailed (config : ValidConfig) (system : System)
    (events : List (Event N)) (sourceIp : IpAddr) (expiresAt : ℕ) : Prop :=
  ∃ handed served reports finished,
    Served config system events handed served reports finished ∧
      handed.sourceIp = sourceIp ∧
      (handed.before.judge handed.arrival).1 = .ban ∧
      expiresAt =
        handed.arrival.now + Duration.fromSecs config.banTimeout ∧
      ¬Report.Succeeded (config.banList.command sourceIp) reports

/-- Every ban that the daemon remembers is known to the kernel as well, or its
command failed. -/
def BansAgree (config : ValidConfig) (system : System)
    (events : List (Event N)) : Prop :=
  ∀ process ∈ (system.run config events).daemon, ∀ sourceIp expiresAt,
    process.server.bannedSources.get sourceIp = some expiresAt →
      BannedUntil config system events sourceIp expiresAt ∨
        BanFailed config system events sourceIp expiresAt

theorem Executed.append {spec : CommandSpec} {finished : ℕ}
    (hexecuted : Executed config system events spec finished)
    (later : List (Event N)) :
    Executed config system (events ++ later) spec finished := by
  obtain ⟨earlier, event, rest, rfl, hfound⟩ := hexecuted
  exact ⟨earlier, event, rest ++ later,
    by rw [List.append_assoc, List.cons_append], hfound⟩

/-- What is known of a ban stays known. -/
theorem agreed_append {sourceIp : IpAddr} {expiresAt : ℕ}
    (hagreed : BannedUntil config system events sourceIp expiresAt ∨
      BanFailed config system events sourceIp expiresAt)
    (later : List (Event N)) :
    BannedUntil config system (events ++ later) sourceIp expiresAt ∨
      BanFailed config system (events ++ later) sourceIp expiresAt := by
  apply hagreed.imp
  · rintro ⟨finished, hexecuted, hlate⟩
    exact ⟨finished, hexecuted.append later, hlate⟩
  · rintro ⟨handed, served, reports, finished, hserved, hfacts⟩
    exact ⟨handed, served, reports, finished, hserved.append later, hfacts⟩

/-- What the daemon remembers after judging a packet: an earlier ban, or one
for the packet. -/
theorem get_bannedSources_judge {server : Server} {arrival : Arrival}
    {sourceIp : IpAddr} {expiresAt : ℕ}
    (hget : (server.judge arrival).2.bannedSources.get sourceIp =
      some expiresAt) :
    server.bannedSources.get sourceIp = some expiresAt ∨
      arrival.sourceIp = sourceIp ∧ (server.judge arrival).1 = .ban ∧
        expiresAt =
          arrival.now + Duration.fromSecs server.config.banTimeout := by
  have hretained : ∀ {map : HashMap IpAddr ℕ} {found : ℕ},
      (map.retain fun _ expiresAt => arrival.now < expiresAt).get sourceIp =
        some found → map.get sourceIp = some found := by
    intro map found hfound
    rw [HashMap.get_retain] at hfound
    exact (Option.filter_eq_some_iff.mp hfound).1
  have hjudged := server.judged arrival
  generalize server.judge arrival = result at hjudged hget ⊢
  cases hjudged with
  | ignored => exact Or.inl (hretained hget)
  | valid => exact Or.inl (hretained hget)
  | tolerated => exact Or.inl (hretained hget)
  | aborted => exact Or.inl (hretained hget)
  | banned after _ _ _ hremembered =>
      cases Server.remembers hremembered with
      | full => exact Or.inl (hretained (hretained hget))
      | recorded =>
          by_cases hown : sourceIp = arrival.sourceIp
          · subst hown
            have hself := HashMap.get_insert_self
              ((server.limited arrival).expireBannedSources
                arrival.now).bannedSources arrival.sourceIp
              (arrival.now + Duration.fromSecs server.config.banTimeout)
            exact Or.inr ⟨rfl, rfl,
              Option.some.inj (hget.symm.trans hself)⟩
          · have hother := HashMap.get_insert_of_ne
              ((server.limited arrival).expireBannedSources
                arrival.now).bannedSources
              (arrival.now + Duration.fromSecs server.config.banTimeout) hown
            exact Or.inl (hretained (hretained (hother.symm.trans hget)))

theorem BansAgree.concat (hagree : BansAgree config system events)
    (hconsistent : Consistent config (system.run config events))
    (event : Event N) : BansAgree config system (events ++ [event]) := by
  intro process hprocess sourceIp expiresAt hget
  rw [run_concat] at hprocess
  cases proceeds (Option.mem_def.mp hprocess) with
  | started device _ _ _ _ hsame =>
      rw [hsame.bannedSources_eq,
        show (Server.started config device).bannedSources = HashMap.empty
          from rfl, HashMap.get_empty] at hget
      cases hget
  | kept _ _ hold =>
      exact agreed_append (hagree process hold sourceIp expiresAt hget) _
  | processed addr protocol port payloadSize schedule old _ hold hsame =>
      rw [hsame.bannedSources_eq] at hget
      rcases get_bannedSources_judge hget with hearlier | ⟨hown, hban, hexpires⟩
      · exact agreed_append (hagree old hold sourceIp expiresAt hearlier) _
      have hconfig : old.server.config = config.toConfig :=
        (hconsistent old hold).configured.config_eq
      rw [hconfig] at hexpires
      have hserved : Served config system
          (events ++ [Event.packet addr protocol port payloadSize schedule])
          ⟨⟨(system.run config events).kernel.now, addr, protocol, port,
            payloadSize⟩, (), old.server⟩ old.served _ _ :=
        ⟨events, addr, protocol, port, payloadSize, schedule, [], old, rfl,
          hold, rfl, rfl, rfl, rfl⟩
      by_cases hsucceeded : Report.Succeeded (config.banList.command sourceIp)
          ((system.run config events).step config
            (.packet addr protocol port payloadSize schedule : Event N)).2
      · refine Or.inl ⟨_, hserved.executed hsucceeded, ?_⟩
        rw [hexpires, run_concat]
        exact Nat.add_le_add_right (hconsistent.now_le _) _
      · exact Or.inr ⟨_, _, _, _, hserved, hown, hban, hexpires, hsucceeded⟩

theorem bansAgree_run (config : ValidConfig) (host : Host) (now : ℕ)
    (events : List (Event N)) : BansAgree config (quiet host now) events := by
  induction events using List.reverseRecOn with
  | nil => rintro process ⟨⟩
  | append_singleton events event ih =>
      exact ih.concat ((consistent_quiet config host now).run events) event

/-- While the kernel's ban lasts, the SSH port is closed to the source. -/
theorem BannedUntil.drop {host : Host} {now : ℕ} (hready : Ready config host)
    (hsetUp : SetUp config (quiet host now) events) {sourceIp : IpAddr}
    {expiresAt : ℕ}
    (hbanned : BannedUntil config (quiet host now) events sourceIp expiresAt)
    (hlive : ((quiet host now).run config events).kernel.now < expiresAt)
    (otherwise : Verdict) :
    ((quiet host now).run config events).sshVerdict config otherwise sourceIp =
      .drop := by
  obtain ⟨finished, hexecuted, hlate⟩ := hbanned
  cases hverdict : ((quiet host now).run config events).sshVerdict config
      otherwise sourceIp with
  | drop => rfl
  | accept =>
      obtain ⟨-, -, hfree⟩ :=
        (sshVerdict_accept_iff hready hsetUp otherwise sourceIp).mp hverdict
      exact absurd ⟨finished, hexecuted, hlive.trans_le hlate⟩ hfree

/-- A source that the daemon ignores for its ban is dropped by the kernel for
at least as long, whatever happens to the daemon meanwhile, or the command that
should have banned it in the kernel failed. -/
theorem ignored_source_dropped (config : ValidConfig) (host : Host) (now : ℕ)
    (events : List (Event N)) (hready : Ready config host)
    (hsetUp : SetUp config (quiet host now) events) (process : Process)
    (hprocess : ((quiet host now).run config events).daemon = some process)
    (sourceIp : IpAddr)
    (hbanned : process.server.bannedAt sourceIp
      ((quiet host now).run config events).kernel.now = true) :
    ∃ expiresAt,
      process.server.bannedSources.get sourceIp = some expiresAt ∧
        ((quiet host now).run config events).kernel.now < expiresAt ∧
        (BanFailed config (quiet host now) events sourceIp expiresAt ∨
          ∀ (later : List (Event N)) otherwise,
            ((quiet host now).run config (events ++ later)).kernel.now <
                expiresAt →
              ((quiet host now).run config (events ++ later)).sshVerdict config
                otherwise sourceIp = .drop) := by
  obtain ⟨expiresAt, hretained⟩ := Option.isSome_iff_exists.mp hbanned
  rw [Server.expireBannedSources, HashMap.get_retain,
    Option.filter_eq_some_iff, decide_eq_true_eq] at hretained
  obtain ⟨hget, hlive⟩ := hretained
  refine ⟨expiresAt, hget, hlive, ?_⟩
  rcases bansAgree_run config host now events process hprocess sourceIp
    expiresAt hget with huntil | hfailed
  · refine Or.inr fun later otherwise hlater => ?_
    obtain ⟨finished, hexecuted, hlate⟩ := huntil
    exact BannedUntil.drop hready (hsetUp.append later)
      ⟨finished, hexecuted.append later, hlate⟩ hlater otherwise
  · exact Or.inl hfailed

/-- A source sends two oversized packets to the daemon of the tests. -/
def oversizedTwiceEvents : List (Event Queues) :=
  [.setup [], .start .writable (.empty (fun _ => 0) []) [],
    .packet ⟨KnockTracker.testSource 10, 12345⟩ .tcp (some 7001) 513 [],
    .packet ⟨KnockTracker.testSource 10, 12345⟩ .tcp (some 7001) 513 []]

theorem ignored_source_dropped_after_two :
    ∃ process expiresAt,
      ((quiet bareHost 0).run testConfig oversizedTwiceEvents).daemon =
          some process ∧
        process.server.bannedSources.get (KnockTracker.testSource 10) =
          some expiresAt ∧
        ((quiet bareHost 0).run testConfig oversizedTwiceEvents).kernel.now <
          expiresAt ∧
        (BanFailed testConfig (quiet bareHost 0) oversizedTwiceEvents
            (KnockTracker.testSource 10) expiresAt ∨
          ∀ (later : List (Event Queues)) otherwise,
            ((quiet bareHost 0).run testConfig
                (oversizedTwiceEvents ++ later)).kernel.now < expiresAt →
              ((quiet bareHost 0).run testConfig
                (oversizedTwiceEvents ++ later)).sshVerdict testConfig
                  otherwise (KnockTracker.testSource 10) = .drop) := by
  have hbanned : ((quiet bareHost 0).run testConfig
      oversizedTwiceEvents).daemon.any (fun process =>
        process.server.bannedAt (KnockTracker.testSource 10)
          ((quiet bareHost 0).run testConfig
            oversizedTwiceEvents).kernel.now) = true := by
    decide +kernel
  rw [Option.any_eq_true] at hbanned
  obtain ⟨process, hprocess, hsource⟩ := hbanned
  obtain ⟨expiresAt, hfacts⟩ := ignored_source_dropped testConfig bareHost 0
    oversizedTwiceEvents (ready_bareHost testConfig)
    (setUp_of_setup testConfig _ [] _) process hprocess _ hsource
  exact ⟨process, expiresAt, hprocess, hfacts⟩

end System

end SshKnock
