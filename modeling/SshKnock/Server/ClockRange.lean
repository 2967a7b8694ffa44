import SshKnock.Server.Allow
import SshKnock.Server.PollLoop

/-!
# The range of the clock

The daemon adds two configured times to the clock: how long an accepted
connection may stay pending and how long a ban lasts.  The configuration check
bounds neither of them, so an addition may leave the range of the clock, and
then the process panics.
-/

namespace SshKnock

/-- Until when a connection accepted now may stay pending. -/
def Config.tcpDeadline? (config : Config) (now : ℕ) : Option ℕ :=
  Instant.checkedAdd now (Duration.fromSecs config.partialStateTimeout)

/-- The daemon gives exactly this deadline to a connection it accepts. -/
theorem Daemon.tcpDeadline_eq {N R Tag : Type} (config : Config) (now : ℕ) :
    (Daemon.tcpDeadline config now : DaemonM N R Tag ℕ) =
      Fallible.orThrow .aborted (config.tcpDeadline? now) := rfl

/-- What reaches the daemon from its listeners. -/
inductive Contact where
  | connection (now : ℕ) (port : UInt16)
  | packet (arrival : Arrival)

namespace Contact

def now : Contact → ℕ
  | .connection now _ => now
  | .packet arrival => arrival.now

/-- A step of the sequence has the listener it comes from. -/
def OnListener (config : Config) : Contact → Prop
  | .connection _ port =>
      ∃ step ∈ config.knock.sequence,
        step.protocol = .tcp ∧ step.port = some port
  | .packet arrival =>
      ∃ step ∈ config.knock.sequence,
        step.protocol = arrival.protocol ∧ step.port = arrival.port

end Contact

namespace Server

def meet (server : Server) (runner : RecordingRunner) :
    Contact → Ending × Server × RecordingRunner
  | .connection now _ =>
      (if (server.config.tcpDeadline? now).isSome then .ok else .aborted,
        server, runner)
  | .packet arrival => server.handle runner arrival

/-- How the daemon meets one contact after the other ends. -/
def meetAll (server : Server) (runner : RecordingRunner) :
    List Contact → Ending
  | [] => .ok
  | contact :: contacts =>
      match server.meet runner contact with
      | (.ok, server, runner) => server.meetAll runner contacts
      | (ending, _, _) => ending

/-- Every time that is added to the clock up to this reading stays within its
range. -/
structure InRange (config : Config) (latest : ℕ) : Prop where
  ban : latest + Duration.fromSecs config.banTimeout ≤ Instant.max
  connection : (∃ step ∈ config.knock.sequence, step.protocol = .tcp) →
    latest + Duration.fromSecs config.partialStateTimeout ≤ Instant.max

variable {config : Config} {server : Server} {latest : ℕ}

theorem Configured.judge_ne_abort (hserver : Configured config server)
    {arrival : Arrival}
    (hfits : arrival.now + Duration.fromSecs config.banTimeout ≤
      Instant.max) : (server.judge arrival).1 ≠ .abort := by
  have hconfig : (server.limited arrival).config = config := hserver.config_eq
  have hjudged := server.judged arrival
  generalize server.judge arrival = result at hjudged ⊢
  cases hjudged with
  | ignored | valid | tolerated | banned => simp
  | aborted _ _ _ hoverflow =>
      rw [rememberBannedSource_def, Option.map_eq_none_iff, rememberedSources,
        hconfig, Instant.checkedAdd_eq_some hfits] at hoverflow
      split at hoverflow <;> cases hoverflow

/-- A contact within the range neither panics nor changes the configuration. -/
theorem Configured.meet (hserver : Configured config server)
    (hrange : InRange config latest) (runner : RecordingRunner)
    {contact : Contact} (hlistener : contact.OnListener config)
    (hle : contact.now ≤ latest) :
    (server.meet runner contact).1 ≠ .aborted ∧
      Configured config (server.meet runner contact).2.1 := by
  cases contact with
  | connection now port =>
      obtain ⟨step, hstep, hprotocol, -⟩ := hlistener
      have hfits : now + Duration.fromSecs config.partialStateTimeout ≤
          Instant.max :=
        (Nat.add_le_add_right hle _).trans
          (hrange.connection ⟨step, hstep, hprotocol⟩)
      have hdeadline : (server.config.tcpDeadline? now).isSome = true := by
        rw [hserver.config_eq, Config.tcpDeadline?,
          Instant.checkedAdd_eq_some hfits]
        rfl
      rw [Server.meet, if_pos hdeadline]
      exact ⟨by simp, hserver⟩
  | packet arrival =>
      have hfits : arrival.now + Duration.fromSecs config.banTimeout ≤
          Instant.max :=
        (Nat.add_le_add_right hle _).trans hrange.ban
      exact ⟨fun haborted => hserver.judge_ne_abort hfits
        ((server.handle_aborted_iff runner arrival).mp haborted),
        hserver.handling runner arrival⟩

theorem Configured.meetAll (hserver : Configured config server)
    (hrange : InRange config latest) (runner : RecordingRunner)
    {contacts : List Contact}
    (hcontacts : ∀ contact ∈ contacts,
      contact.OnListener config ∧ contact.now ≤ latest) :
    server.meetAll runner contacts ≠ .aborted := by
  induction contacts generalizing server runner with
  | nil => simp [Server.meetAll]
  | cons contact contacts ih =>
      obtain ⟨⟨hlistener, hle⟩, hrest⟩ := List.forall_mem_cons.mp hcontacts
      obtain ⟨hending, hafter⟩ := hserver.meet hrange runner hlistener hle
      rw [Server.meetAll]
      split
      · next hmet =>
          rw [hmet] at hafter
          exact ih hafter _ hrest
      · next hmet =>
          rw [hmet] at hending
          exact hending

/-! ## Out of range -/

/-- A flood that outlasts the allowance ends in a panic when the end of the ban
is out of range. -/
theorem Flooded.meetAll {arrival : Arrival} {tokens : UInt32}
    (hserver : Flooded config arrival tokens server)
    (hwritable : server.Writable) (hcapacity : 0 < config.maxPartialStates)
    (hover : Instant.max < arrival.now + Duration.fromSecs config.banTimeout)
    (runner : RecordingRunner) :
    server.meetAll runner
      (List.replicate (tokens.toNat + 1) (.packet arrival)) = .aborted := by
  generalize hcount : tokens.toNat = count
  induction count generalizing tokens server runner with
  | zero =>
      obtain rfl : tokens = 0 := UInt32.toNat_inj.mp hcount
      have habort := hserver.judge_of_zero hcapacity
      rw [if_neg (Nat.not_le.mpr hover)] at habort
      have haborted := (server.handle_aborted_iff runner arrival).mpr habort
      rw [List.replicate_succ, Server.meetAll, meet]
      split
      · next hmet => rw [hmet] at haborted; cases haborted
      · next hmet => rw [hmet] at haborted; exact haborted
  | succ count ih =>
      have hsome : tokens ≠ 0 := by
        rintro rfl
        cases hcount
      have hleft : (tokens - 1).toNat = count :=
        Nat.succ.inj ((toNat_sub_one hsome).trans hcount)
      have hjudged := hserver.judge_of_ne_zero hsome
      have hlimited : (server.limited arrival).Writable := hwritable
      have hending : (server.handle runner arrival).1 = .ok := by
        rw [handle_eq, hjudged]
        exact hlimited.respond_of_ne runner arrival.sourceIp (by simp)
          arrival.now
      have hafter : (server.handle runner arrival).2.1.Writable := by
        have hsame := server.sameMemory_handling runner arrival
        rw [hjudged] at hsame
        exact hsame.writable hlimited
      have hflooded : Flooded config arrival (tokens - 1)
          (server.handle runner arrival).2.1 := hserver.handling hsome runner
      rw [List.replicate_succ, Server.meetAll, meet]
      generalize server.handle runner arrival = met
        at hending hafter hflooded ⊢
      obtain ⟨ending, after, afterRunner⟩ := met
      obtain rfl : ending = .ok := hending
      exact ih hflooded hafter afterRunner hleft

theorem meetAll_connection {port : UInt16} (runner : RecordingRunner)
    (hserver : Configured config server)
    (hover : Instant.max <
      latest + Duration.fromSecs config.partialStateTimeout) :
    server.meetAll runner [.connection latest port] = .aborted := by
  have hdeadline : server.config.tcpDeadline? latest = none := by
    rw [hserver.config_eq]
    exact Instant.checkedAdd_eq_none hover
  rw [Server.meetAll, meet, hdeadline]
  rfl

/-- The clock may be read up to `latest` without any contact making the daemon
panic exactly when this reading is in range. -/
theorem never_aborted_iff (config : ValidConfig) (latest : ℕ) :
    (∀ (device : LogDevice)
        (answer : List CommandSpec → CommandSpec → Except Error CommandStatus)
        (contacts : List Contact),
      (∀ contact ∈ contacts,
        contact.OnListener config.toConfig ∧ contact.now ≤ latest) →
      contacts.Pairwise (fun earlier later => earlier.now ≤ later.now) →
      (started config device).meetAll (.answering answer) contacts ≠
        .aborted) ↔
      InRange config.toConfig latest := by
  constructor
  · intro hnever
    refine ⟨?_, ?_⟩
    · by_contra hover
      have hlength := config.valid.three_le_length
      obtain ⟨step, hstep⟩ := List.exists_mem_of_length_pos
        (Nat.lt_of_lt_of_le (by decide) hlength)
      let arrival : Arrival :=
        { now := latest, addr := ⟨KnockTracker.testSource 10, 12345⟩
          protocol := step.protocol, port := step.port
          payloadSize := config.maxPayloadSize + 1 }
      have hflooded : Flooded config.toConfig arrival config.invalidBurstLimit
          (started config .writable) :=
        flooded_started config .writable (Nat.lt_succ_self _)
      have haborted := hflooded.meetAll (fun _ => rfl)
        config.valid.maxPartialStates_pos (Nat.not_le.mp hover)
        (.answering RecordingRunner.succeeding)
      refine hnever .writable _ _ ?_ ?_ haborted
      · intro contact hcontact
        rw [List.eq_of_mem_replicate hcontact]
        exact ⟨⟨step, hstep, rfl, rfl⟩, le_rfl⟩
      · exact List.pairwise_replicate.mpr (Or.inr le_rfl)
    · rintro ⟨step, hstep, hprotocol⟩
      by_contra hover
      have hvalid := config.valid.step_valid step hstep
      obtain ⟨port, hport⟩ := Option.ne_none_iff_exists'.mp fun hnone =>
        absurd (hprotocol.symm.trans (hvalid.port_none_iff.mp hnone)) (by decide)
      refine hnever .writable RecordingRunner.succeeding
        [.connection latest port] ?_ (List.pairwise_singleton _ _) ?_
      · intro contact hcontact
        rw [List.mem_singleton.mp hcontact]
        exact ⟨⟨step, hstep, hprotocol, hport⟩, le_rfl⟩
      · exact meetAll_connection _ (configured_started config _)
          (Nat.not_le.mp hover)
  · intro hrange device answer contacts hcontacts _
    exact (configured_started config device).meetAll hrange _ hcontacts

/-- The test configuration with a ban that outlasts the clock. -/
def endlessBanConfig : ValidConfig :=
  { testConfig with banTimeout := 9223372036854775808, validated := by decide }

/-- The test configuration with connections that outlast the clock. -/
def endlessWaitConfig : ValidConfig :=
  { testConfig with
    partialStateTimeout := 9223372036854775808, validated := by decide }

/-- Two oversized packets, or one connection, end the daemon at the start of
the clock. -/
theorem endless_times_abort :
    (started endlessBanConfig .writable).meetAll
        (.answering RecordingRunner.succeeding)
        (List.replicate 2 (.packet
          (oversizedArrival endlessBanConfig.toConfig))) = .aborted ∧
      (started endlessWaitConfig .writable).meetAll
        (.answering RecordingRunner.succeeding) [.connection 0 7001] =
          .aborted := by
  constructor <;> decide +kernel

end Server

end SshKnock
