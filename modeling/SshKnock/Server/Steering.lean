import SshKnock.Server.Run

/-!
# What the firewall cannot decide

Memory judges a packet before any command runs.  However the commands end, the
same commands are attempted in the same order and the same state is left
behind; only a failed allow command is reported.
-/

namespace SshKnock

/-- The commands that carry a judgement out. -/
def Judgement.commands (firewall : Firewall) (sourceIp : IpAddr) :
    Judgement → List CommandSpec
  | .ban => [firewall.banIpCommand sourceIp]
  | .answer .accepted => [firewall.addIpCommand sourceIp]
  | _ => []

/-- What a packet leaves behind, the log apart. -/
structure Footprint where
  issued : List CommandSpec
  tracker : KnockTracker
  bannedSources : HashMap IpAddr ℕ
  sourceLimiter : TokenBucketLimiter IpAddr
  packetTelemetryLimiter : TokenBucketLimiter String

namespace Handling

def footprint (handling : Handling) : Footprint :=
  { issued := handling.issued
    tracker := handling.after.tracker
    bannedSources := handling.after.bannedSources
    sourceLimiter := handling.after.sourceLimiter
    packetTelemetryLimiter := handling.after.packetTelemetryLimiter }

/-- The packet is answered with an error. -/
def Failed (handling : Handling) : Prop :=
  ∃ error, handling.ending = .error error

/-- The packet of an unbanned source completes the knock, and the command that
would open the firewall fails after those attempted before. -/
structure AllowFailed
    (answer : List CommandSpec → CommandSpec → Except Error CommandStatus)
    (attempted : List CommandSpec) (handling : Handling) : Prop where
  unbanned : handling.before.bannedAt handling.arrival.sourceIp
    handling.arrival.now = false
  accepted : handling.before.outcome handling.arrival = .accepted
  failed : ∃ error, CommandRunner.required
    (answer attempted
      (handling.before.firewall.addIpCommand handling.arrival.sourceIp)) =
    .error error

end Handling

/-- The runner after more commands. -/
def RecordingRunner.having (runner : RecordingRunner)
    (commands : List CommandSpec) : RecordingRunner :=
  { runner with commands := runner.commands ++ commands }

theorem RecordingRunner.having_nil (runner : RecordingRunner) :
    runner.having [] = runner := by
  rw [having, List.append_nil]

namespace Server

variable {server : Server}

/-! ## Commands -/

theorem Writable.runner_respond (hwritable : server.Writable)
    (runner : RecordingRunner) (sourceIp : IpAddr) (outcome : KnockOutcome)
    (now : ℕ) :
    (server.respond runner sourceIp outcome now).2.2 =
      runner.having
        ((Judgement.answer outcome).commands server.firewall sourceIp) := by
  have htelemetry := hwritable.logPacketTelemetry sourceIp outcome now
  have hsame := server.sameMemory_logPacketTelemetry sourceIp outcome now
  rw [Server.respond]
  split
  · next hfailed =>
      rw [hfailed] at htelemetry
      cases htelemetry
  · next after hlog =>
      rw [hlog] at hsame
      split
      · next haccepted =>
          rw [runner_openFirewall, hsame.firewall_eq, haccepted]
          rfl
      · next hother =>
          cases outcome with
          | accepted => exact absurd rfl hother
          | progress | rejected | oversized => exact runner.having_nil.symm

/-- A judgement alone decides which commands are attempted. -/
theorem Writable.runner_enact (hwritable : server.Writable)
    (runner : RecordingRunner) (arrival : Arrival) (judgement : Judgement) :
    (server.enact runner arrival judgement).2.2 =
      runner.having
        (judgement.commands server.firewall arrival.sourceIp) := by
  cases judgement with
  | ignore | abort => exact runner.having_nil.symm
  | ban => exact server.runner_enforceBan runner arrival.sourceIp
  | answer outcome =>
      exact hwritable.runner_respond runner arrival.sourceIp outcome
        arrival.now

theorem Writable.runner_handle (hwritable : server.Writable)
    (runner : RecordingRunner) (arrival : Arrival) :
    (server.handle runner arrival).2.2 =
      runner.having
        ((server.judge arrival).1.commands server.firewall arrival.sourceIp) := by
  rw [handle_eq, (hwritable.judge arrival).runner_enact,
    (server.unjudged_judge arrival).firewall_eq]

theorem Writable.issued_handling (hwritable : server.Writable)
    (runner : RecordingRunner) (arrival : Arrival) :
    (server.handling runner arrival).issued =
      (server.judge arrival).1.commands server.firewall arrival.sourceIp := by
  rw [issued_def, hwritable.runner_handle]
  exact List.drop_left

/-! ## The telemetry allowance -/

/-- The telemetry allowance once a packet may have been reported. -/
def telemetered (server : Server) (now : ℕ) : TokenBucketLimiter String :=
  if server.packetTelemetryEnabled then
    (server.packetTelemetryLimiter.allow "packet" now).2
  else server.packetTelemetryLimiter

theorem packetTelemetryLimiter_log {after : Server} {event message : String}
    {result : Except Error Unit}
    (hlog : server.log event message = (result, after)) :
    after.packetTelemetryLimiter = server.packetTelemetryLimiter := by
  obtain rfl : (server.log event message).2 = after := by rw [hlog]
  rfl

theorem packetTelemetryLimiter_logPacketTelemetry (server : Server)
    (sourceIp : IpAddr) (outcome : KnockOutcome) (now : ℕ) :
    (server.logPacketTelemetry sourceIp outcome now).2.packetTelemetryLimiter =
      server.telemetered now := by
  rw [logPacketTelemetry, telemetered]
  cases server.packetTelemetryEnabled with
  | false => rfl
  | true =>
      simp only [Bool.not_true, Bool.false_eq_true, if_false, if_true]
      split
      · rfl
      split
      · next hseen => exact packetTelemetryLimiter_log hseen
      · next hseen => exact packetTelemetryLimiter_log hseen

variable {R : Type} [CommandRunner R]

theorem packetTelemetryLimiter_enforceBan (server : Server) (runner : R)
    (sourceIp : IpAddr) :
    (server.enforceBan runner sourceIp).2.1.packetTelemetryLimiter =
      server.packetTelemetryLimiter := by
  rw [enforceBan]
  split <;> rfl

theorem packetTelemetryLimiter_openFirewall (server : Server) (runner : R)
    (sourceIp : IpAddr) :
    (server.openFirewall runner sourceIp).2.1.packetTelemetryLimiter =
      server.packetTelemetryLimiter := by
  rw [openFirewall]
  split
  · split <;> next hlog => exact packetTelemetryLimiter_log hlog
  · rfl

theorem packetTelemetryLimiter_respond (server : Server) (runner : R)
    (sourceIp : IpAddr) (outcome : KnockOutcome) (now : ℕ) :
    (server.respond runner sourceIp outcome now).2.1.packetTelemetryLimiter =
      server.telemetered now := by
  have htelemetry :=
    server.packetTelemetryLimiter_logPacketTelemetry sourceIp outcome now
  rw [respond]
  split
  · next hlog => rwa [hlog] at htelemetry
  · next after hlog =>
      rw [hlog] at htelemetry
      split
      · exact (after.packetTelemetryLimiter_openFirewall runner sourceIp).trans
          htelemetry
      · exact htelemetry

/-- So does a judgement decide about the telemetry allowance. -/
theorem packetTelemetryLimiter_enact (server : Server) (runner : R)
    (arrival : Arrival) (judgement : Judgement) :
    (server.enact runner arrival judgement).2.1.packetTelemetryLimiter =
      match judgement with
      | .answer _ => server.telemetered arrival.now
      | _ => server.packetTelemetryLimiter := by
  cases judgement with
  | ignore | abort => rfl
  | ban =>
      exact server.packetTelemetryLimiter_enforceBan runner arrival.sourceIp
  | answer outcome =>
      exact server.packetTelemetryLimiter_respond runner arrival.sourceIp
        outcome arrival.now

/-! ## Two runs -/

/-- The two servers are in the same state, what they have logged apart. -/
structure SameState (left right : Server) : Prop where
  sameMemory : SameMemory left right
  packetTelemetryLimiter_eq :
    left.packetTelemetryLimiter = right.packetTelemetryLimiter

variable {left right : Server}

theorem SameState.judge (hsame : SameState left right) (arrival : Arrival) :
    (left.judge arrival).1 = (right.judge arrival).1 ∧
      SameState (left.judge arrival).2 (right.judge arrival).2 := by
  have hjudgement := hsame.sameMemory.judge arrival
  have hafter : (left.judge arrival).2 =
      (right.judge arrival).2.reporting left.logger
        left.packetTelemetryLimiter := by
    rw [hsame.sameMemory.eq_reporting, judge_reporting]
    rfl
  refine ⟨hjudgement, ⟨?_, ?_⟩⟩
  · rw [hafter]
    refine ⟨rfl, rfl, rfl, rfl, rfl, ?_⟩
    rw [(right.unjudged_judge arrival).logger_eq]
    exact hsame.sameMemory.device_eq
  · rw [(left.unjudged_judge arrival).packetTelemetryLimiter_eq,
      (right.unjudged_judge arrival).packetTelemetryLimiter_eq]
    exact hsame.packetTelemetryLimiter_eq

/-- Carrying out the same judgement leaves the same state behind. -/
theorem SameState.enact (hsame : SameState left right) (leftRunner rightRunner : R)
    (arrival : Arrival) (judgement : Judgement) :
    SameState (left.enact leftRunner arrival judgement).2.1
      (right.enact rightRunner arrival judgement).2.1 where
  sameMemory := (left.sameMemory_enact leftRunner arrival judgement).trans
    (hsame.sameMemory.trans
      (right.sameMemory_enact rightRunner arrival judgement).symm)
  packetTelemetryLimiter_eq := by
    have henabled : left.telemetered arrival.now =
        right.telemetered arrival.now := by
      rw [telemetered, telemetered, packetTelemetryEnabled,
        hsame.sameMemory.config_eq, hsame.packetTelemetryLimiter_eq,
        packetTelemetryEnabled]
    rw [packetTelemetryLimiter_enact, packetTelemetryLimiter_enact, henabled,
      hsame.packetTelemetryLimiter_eq]

/-- Whatever the two firewalls answer, a packet causes the same commands and
leaves the same state behind. -/
theorem SameState.handling (hsame : SameState left right)
    (hwritable : right.Writable) (leftRunner rightRunner : RecordingRunner)
    (arrival : Arrival) :
    (left.handling leftRunner arrival).issued =
        (right.handling rightRunner arrival).issued ∧
      SameState (left.handling leftRunner arrival).after
        (right.handling rightRunner arrival).after := by
  obtain ⟨hjudgement, hafter⟩ := hsame.judge arrival
  constructor
  · rw [(hsame.sameMemory.writable hwritable).issued_handling,
      hwritable.issued_handling, hjudgement, hsame.sameMemory.firewall_eq]
  · rw [after_handling, after_handling, hjudgement]
    exact hafter.enact leftRunner rightRunner arrival (right.judge arrival).1

theorem SameState.footprint_eq (hsame : SameState left right)
    (hwritable : right.Writable) (leftRunner rightRunner : RecordingRunner)
    (arrival : Arrival) :
    (left.handling leftRunner arrival).footprint =
      (right.handling rightRunner arrival).footprint := by
  obtain ⟨hissued, hafter⟩ :=
    hsame.handling hwritable leftRunner rightRunner arrival
  rw [Handling.footprint, hissued, hafter.sameMemory.tracker_eq,
    hafter.sameMemory.bannedSources_eq, hafter.sameMemory.sourceLimiter_eq,
    hafter.packetTelemetryLimiter_eq]
  rfl

theorem Writable.handling (hwritable : server.Writable)
    (runner : RecordingRunner) (arrival : Arrival) :
    (server.handling runner arrival).after.Writable :=
  (server.sameMemory_handling runner arrival).writable (hwritable.judge arrival)

/-- So it is over whole runs. -/
theorem SameState.trace (hsame : SameState left right)
    (hwritable : right.Writable) (leftRunner rightRunner : RecordingRunner)
    (arrivals : List Arrival) :
    (left.trace leftRunner arrivals).map Handling.footprint =
      (right.trace rightRunner arrivals).map Handling.footprint := by
  induction arrivals generalizing left right leftRunner rightRunner with
  | nil => rfl
  | cons arrival arrivals ih =>
      have hfootprint :=
        hsame.footprint_eq hwritable leftRunner rightRunner arrival
      obtain ⟨-, hafter⟩ :=
        hsame.handling hwritable leftRunner rightRunner arrival
      have haborted : (left.handle leftRunner arrival).1 = .aborted ↔
          (right.handle rightRunner arrival).1 = .aborted := by
        rw [handle_aborted_iff, handle_aborted_iff, (hsame.judge arrival).1]
      rw [trace_cons, trace_cons, List.map_cons, List.map_cons, hfootprint]
      simp only [haborted]
      congr 1
      split
      · rfl
      · exact ih hafter (hwritable.handling rightRunner arrival) _ _

/-! ## Errors -/

theorem judge_accepted_iff (server : Server) (arrival : Arrival) :
    (server.judge arrival).1 = .answer .accepted ↔
      server.bannedAt arrival.sourceIp arrival.now = false ∧
        server.outcome arrival = .accepted := by
  refine ⟨accepted_of_judge, fun ⟨hunbanned, haccepted⟩ => ?_⟩
  rw [judge, hunbanned, haccepted]
  rfl

theorem Writable.error_openFirewall_iff (hwritable : server.Writable)
    (runner : RecordingRunner) (sourceIp : IpAddr) :
    (∃ error, (server.openFirewall runner sourceIp).1 = .error error) ↔
      ∃ error, CommandRunner.required (runner.answer runner.commands
        (server.firewall.addIpCommand sourceIp)) = .error error := by
  rw [Server.openFirewall, Firewall.addIp, RecordingRunner.perform_run]
  cases CommandRunner.required (runner.answer runner.commands
    (server.firewall.addIpCommand sourceIp)) with
  | ok value => simp [hwritable.log, Ending.ofResult]
  | error error =>
      have hlog := hwritable.log "firewall_allow_failed"
        s!"source_ip={sourceIp} error={error}"
      simp only
      split
      · next hfailed =>
          rw [hfailed] at hlog
          cases hlog
      · simp

/-- A packet is answered with an error exactly when it is accepted and the
allow command fails. -/
theorem Writable.error_handle_iff (hwritable : server.Writable)
    (runner : RecordingRunner) (arrival : Arrival) :
    (∃ error, (server.handle runner arrival).1 = .error error) ↔
      (server.bannedAt arrival.sourceIp arrival.now = false ∧
        server.outcome arrival = .accepted) ∧
      ∃ error, CommandRunner.required (runner.answer runner.commands
        (server.firewall.addIpCommand arrival.sourceIp)) = .error error := by
  have hjudged := hwritable.judge arrival
  have hfirewall := (server.unjudged_judge arrival).firewall_eq
  rw [handle_eq, ← judge_accepted_iff]
  generalize server.judge arrival = result at hjudged hfirewall ⊢
  obtain ⟨judgement, after⟩ := result
  change after.Writable at hjudged
  change after.firewall = server.firewall at hfirewall
  cases judgement with
  | ignore | abort => simp [enact]
  | ban => simp [enact, hjudged.enforceBan]
  | answer outcome =>
      by_cases haccepted : outcome = .accepted
      · have hsame := after.sameMemory_logPacketTelemetry arrival.sourceIp
          .accepted arrival.now
        rw [haccepted, enact, hjudged.respond_accepted,
          (hsame.writable hjudged).error_openFirewall_iff, hsame.firewall_eq,
          hfirewall]
        simp
      · simp [enact, hjudged.respond_of_ne _ _ haccepted, haccepted]

theorem Writable.failed_handling_iff (hwritable : server.Writable)
    (runner : RecordingRunner) (arrival : Arrival) :
    (server.handling runner arrival).Failed ↔
      (server.handling runner arrival).AllowFailed runner.answer
        runner.commands :=
  (hwritable.error_handle_iff runner arrival).trans
    ⟨fun ⟨⟨hunbanned, haccepted⟩, hfailed⟩ => ⟨hunbanned, haccepted, hfailed⟩,
      fun hallow => ⟨⟨hallow.unbanned, hallow.accepted⟩, hallow.failed⟩⟩

theorem Writable.failed_trace_iff (hwritable : server.Writable)
    (runner : RecordingRunner) {arrivals : List Arrival}
    {earlier : List Handling} {handling : Handling} {later : List Handling}
    (hsplit : server.trace runner arrivals = earlier ++ handling :: later) :
    handling.Failed ↔ handling.AllowFailed runner.answer
      (runner.commands ++ earlier.flatMap Handling.issued) := by
  induction earlier generalizing server runner arrivals with
  | nil =>
      cases arrivals with
      | nil => cases hsplit
      | cons arrival arrivals =>
          rw [trace_cons] at hsplit
          obtain ⟨rfl, -⟩ := List.cons.inj hsplit
          rw [List.flatMap_nil, List.append_nil]
          exact hwritable.failed_handling_iff runner arrival
  | cons first earlier ih =>
      cases arrivals with
      | nil => cases hsplit
      | cons arrival arrivals =>
          rw [trace_cons] at hsplit
          obtain ⟨rfl, hafter⟩ := List.cons.inj hsplit
          split at hafter
          · exact absurd hafter.symm (List.append_ne_nil_of_right_ne_nil _
              (List.cons_ne_nil _ _))
          · have hrest := ih (hwritable.handling runner arrival) _ hafter
            rw [hwritable.runner_handle, ← hwritable.issued_handling runner,
              RecordingRunner.having] at hrest
            rw [List.flatMap_cons, ← List.append_assoc]
            exact hrest

/-- However the commands end, every run attempts the same commands and passes
through the same states, and a packet is answered with an error exactly when it
is accepted and its allow command fails. -/
theorem results_never_steer (config : ValidConfig) (device : LogDevice)
    (hwritable : ∀ write, device.failure write = none)
    (left right : List CommandSpec → CommandSpec → Except Error CommandStatus)
    (arrivals : List Arrival) :
    ((started config device).trace (.answering left) arrivals).map
        Handling.footprint =
      ((started config device).trace (.answering right) arrivals).map
        Handling.footprint ∧
    ∀ earlier handling later,
      (started config device).trace (.answering left) arrivals =
          earlier ++ handling :: later →
        (handling.Failed ↔
          handling.AllowFailed left (earlier.flatMap Handling.issued)) := by
  have hstarted : (started config device).Writable := hwritable
  have hsame : SameState (started config device) (started config device) :=
    ⟨.refl _, rfl⟩
  exact ⟨hsame.trace hstarted _ _ arrivals, fun earlier handling later hsplit =>
    hstarted.failed_trace_iff (.answering left) hsplit⟩

/-- No command starts. -/
def failing (_ : List CommandSpec) (_ : CommandSpec) :
    Except Error CommandStatus :=
  .error "failed to execute"

/-- A source that is banned and one that completes the knock. -/
def mixedArrivals : List Arrival :=
  [⟨0, ⟨KnockTracker.testSource 20, 12345⟩, .tcp, some 7001, 513⟩,
    ⟨1, ⟨KnockTracker.testSource 20, 12345⟩, .tcp, some 7001, 513⟩,
    ⟨2, ⟨KnockTracker.testSource 10, 12345⟩, .tcp, some 7001, 1⟩,
    ⟨3, ⟨KnockTracker.testSource 10, 12345⟩, .udp, some 7002, 2⟩,
    ⟨4, ⟨KnockTracker.testSource 10, 12345⟩, .tcp, some 7003, 3⟩]

/-- The failed ban changes nothing, the failed opening is reported. -/
theorem results_never_steer_failing :
    ((started testConfig .writable).trace (.answering failing)
        mixedArrivals).map Handling.footprint =
      ((started testConfig .writable).trace
        (.answering RecordingRunner.succeeding) mixedArrivals).map
        Handling.footprint ∧
    ((started testConfig .writable).trace (.answering failing)
        mixedArrivals).map Handling.ending =
      [.ok, .ok, .ok, .ok, .error "failed to execute"] :=
  ⟨(results_never_steer testConfig .writable (fun _ => rfl) failing
    RecordingRunner.succeeding mixedArrivals).1, by decide +kernel⟩

end Server

end SshKnock
