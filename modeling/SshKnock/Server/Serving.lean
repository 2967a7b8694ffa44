import SshKnock.Server.StartUpLog

/-!
# The loop serves packets one by one

Whatever the network does, the poll loop listens where the sequence says, and
all it does to the server and to the firewall is to process the packets it has
taken there, one after another, until one of them fails.  So what holds of a
run of packets holds of the daemon.
-/

namespace SshKnock

open Fallible

namespace Server

variable {R Tag : Type} [CommandRunner R]

/-- The packets were processed one by one, the first by `server`; all but the
last were processed to the end. -/
inductive Serves (server : Server) (runner : R) :
    List (Handed Tag) → Ending → Server → R → Prop where
  | nothing : Serves server runner [] .ok server runner
  | next (handed : List (Handed Tag)) (before : Server) (runnerBefore : R)
      (hearlier : Serves server runner handed .ok before runnerBefore)
      (arrival : Arrival) (tag : Tag) (ending : Ending) (after : Server)
      (runnerAfter : R)
      (hhandle : before.handle runnerBefore arrival =
        (ending, after, runnerAfter)) :
      Serves server runner (handed ++ [⟨arrival, tag, before⟩]) ending after
        runnerAfter

variable {server before after : Server}
  {runner runnerBefore runnerAfter : RecordingRunner} {ending : Ending}
  {handed : List (Handed Tag)}

/-- Commands are only ever added to those sent before. -/
theorem commands_handle (server : Server) (runner : RecordingRunner)
    (arrival : Arrival) :
    (server.handle runner arrival).2.2.commands =
      runner.commands ++ (server.handling runner arrival).issued := by
  have hadded : ∃ commands, (server.handle runner arrival).2.2.commands =
      runner.commands ++ commands := by
    rw [handle_eq]
    cases (server.judge arrival).1 with
    | ignore => exact ⟨[], (List.append_nil _).symm⟩
    | abort => exact ⟨[], (List.append_nil _).symm⟩
    | ban => exact ⟨_, commands_enforceBan _ _ _⟩
    | answer outcome =>
        rcases (server.judge arrival).2.commands_respond runner
          arrival.sourceIp outcome arrival.now with hnothing | ⟨-, hallow⟩
        · exact ⟨[], hnothing.trans (List.append_nil _).symm⟩
        · exact ⟨_, hallow⟩
  obtain ⟨commands, hcommands⟩ := hadded
  rw [issued_def, hcommands, List.drop_left]

/-- A run goes on where the packets served so far have left the server. -/
theorem Serves.trace_append
    (hserves : Serves server runner handed .ok before runnerBefore)
    (arrivals : List Arrival) :
    server.trace runner (handed.map Handed.arrival ++ arrivals) =
      server.trace runner (handed.map Handed.arrival) ++
        before.trace runnerBefore arrivals := by
  generalize hended : Ending.ok = ending at hserves
  induction hserves generalizing arrivals with
  | nothing => rfl
  | next handed middle runnerMiddle _ arrival tag ending after runnerAfter
      hhandle ih =>
      subst hended
      have hrest : ∀ arrivals, middle.trace runnerMiddle (arrival :: arrivals) =
          middle.handling runnerMiddle arrival ::
            after.trace runnerAfter arrivals := by
        intro arrivals
        rw [Server.trace, hhandle]
        rfl
      have happend := ih [arrival] rfl
      rw [hrest [], Server.trace] at happend
      rw [List.map_append, List.map_singleton, List.append_assoc,
        List.singleton_append, ih (arrival :: arrivals) rfl, hrest, happend,
        List.append_assoc, List.singleton_append]

/-- The packets served are those of a run, in which each finds the same memory
and which leaves the same behind; all of them but the last are processed to the
end. -/
structure Replayed (server : Server) (runner : RecordingRunner)
    (handed : List (Handed Tag)) (ending : Ending) (after : Server)
    (runnerAfter : RecordingRunner) : Prop where
  found_eq : (server.trace runner (handed.map Handed.arrival)).map
      (fun handling => (handling.arrival, handling.before)) =
    handed.map fun found => (found.arrival, found.before)
  after_eq : (server.trace runner
    (handed.map Handed.arrival)).getLast?.elim server Handling.after = after
  commands_eq : runnerAfter.commands = runner.commands ++
    (server.trace runner (handed.map Handed.arrival)).flatMap Handling.issued
  earlier_ok : ∀ handling ∈
    (server.trace runner (handed.map Handed.arrival)).dropLast,
      handling.ending = .ok
  last_ended : ∀ handling ∈
    (server.trace runner (handed.map Handed.arrival)).getLast?,
      handling.ending = ending

/-- When the last packet was processed to the end, all of them were. -/
theorem Replayed.all_ok
    (hreplayed : Replayed server runner handed .ok after runnerAfter) :
    ∀ handling ∈ server.trace runner (handed.map Handed.arrival),
      handling.ending = .ok := by
  have hearlier := hreplayed.earlier_ok
  have hlast := hreplayed.last_ended
  rcases List.eq_nil_or_concat'
    (server.trace runner (handed.map Handed.arrival)) with
      hnil | ⟨earlier, last, hsplit⟩
  · simp [hnil]
  · rw [hsplit, List.dropLast_concat] at hearlier
    rw [hsplit, List.getLast?_concat] at hlast
    rw [hsplit]
    exact List.forall_mem_append.mpr ⟨hearlier,
      List.forall_mem_singleton.mpr (hlast last rfl)⟩

theorem Serves.replayed
    (hserves : Serves server runner handed ending after runnerAfter) :
    Replayed server runner handed ending after runnerAfter := by
  induction hserves with
  | nothing => exact ⟨rfl, rfl, (List.append_nil _).symm, by simp [trace],
      by simp [trace]⟩
  | next handed middle runnerMiddle hearlier arrival tag ending after
      runnerAfter hhandle ih =>
      let last : Handed Tag := ⟨arrival, tag, middle⟩
      have htrace : server.trace runner
          ((handed ++ [last]).map Handed.arrival) =
            server.trace runner (handed.map Handed.arrival) ++
              [middle.handling runnerMiddle arrival] := by
        have hlast : middle.trace runnerMiddle [arrival] =
            [middle.handling runnerMiddle arrival] := by
          rw [trace_cons]
          split <;> rfl
        rw [List.map_append, List.map_singleton, hearlier.trace_append, hlast]
      have hhandling : (middle.handling runnerMiddle arrival).after = after ∧
          (middle.handling runnerMiddle arrival).ending = ending := by
        rw [handling, hhandle]
        exact ⟨rfl, rfl⟩
      have hcommands := middle.commands_handle runnerMiddle arrival
      rw [hhandle, ih.commands_eq] at hcommands
      refine ⟨?_, ?_, ?_, ?_, ?_⟩
      · rw [htrace, List.map_append, List.map_append, ih.found_eq]
        rfl
      · rw [htrace, List.getLast?_concat]
        exact hhandling.1
      · rw [htrace, List.flatMap_append, List.flatMap_singleton,
          ← List.append_assoc]
        exact hcommands
      · rw [htrace, List.dropLast_concat]
        exact ih.all_ok
      · rw [htrace, List.getLast?_concat]
        rintro _ ⟨⟩
        exact hhandling.2

end Server

/-! ## Where the daemon listens -/

namespace Sockets

/-- The sockets once that of the step is bound. -/
def covering (sockets : Sockets) (step : KnockStep) : Sockets :=
  match step.protocol, step.port with
  | .udp, some port =>
      if port ∈ sockets.udp then sockets
      else { sockets with udp := sockets.udp ++ [port] }
  | .tcp, some port =>
      if port ∈ sockets.tcp then sockets
      else { sockets with tcp := sockets.tcp ++ [port] }
  | .icmp, _ => { sockets with icmp := true }
  | _, none => sockets

theorem listens_covering_iff (sockets : Sockets) {step : KnockStep}
    (hport : step.port = none ↔ step.protocol = .icmp) (protocol : Protocol)
    (port : Option UInt16) :
    (sockets.covering step).Listens protocol port ↔
      sockets.Listens protocol port ∨
        step.protocol = protocol ∧ step.port = port := by
  obtain ⟨own, ownPort, size⟩ := step
  cases own with
  | udp =>
      cases ownPort with
      | none => simp at hport
      | some ownPort =>
          simp only [covering]
          split
          · cases protocol <;> cases port <;> simp [Listens]
            rintro rfl
            assumption
          · cases protocol <;> cases port <;> simp [Listens]
            exact or_congr_right eq_comm
  | tcp =>
      cases ownPort with
      | none => simp at hport
      | some ownPort =>
          simp only [covering]
          split
          · cases protocol <;> cases port <;> simp [Listens]
            rintro rfl
            assumption
          · cases protocol <;> cases port <;> simp [Listens]
            exact or_congr_right eq_comm
  | icmp =>
      cases ownPort with
      | none => cases protocol <;> cases port <;> simp [covering, Listens]
      | some ownPort => simp at hport

/-- The daemon listens exactly where the steps say. -/
def Covers (sockets : Sockets) (steps : List KnockStep) : Prop :=
  ∀ protocol port, sockets.Listens protocol port ↔
    ∃ step ∈ steps, step.protocol = protocol ∧ step.port = port

theorem covers_nil : Covers ⟨[], [], false⟩ [] := by
  intro protocol port
  cases protocol <;> cases port <;> simp [Listens]

theorem Covers.concat {sockets : Sockets} {steps : List KnockStep}
    (hcovers : sockets.Covers steps) {step : KnockStep}
    (hport : step.port = none ↔ step.protocol = .icmp) :
    (sockets.covering step).Covers (steps ++ [step]) := by
  intro protocol port
  rw [sockets.listens_covering_iff hport, hcovers protocol port]
  simp only [List.mem_append, List.mem_singleton, or_and_right, exists_or,
    exists_eq_left]

end Sockets

namespace Daemon

variable {N R Stream Tag : Type} [Network N Stream Tag]

/-- Whatever befalls the daemon, what a step returns is its sockets. -/
theorem triple_bindStep (config : Config) (sockets : Sockets)
    (step : KnockStep) :
    Triple (fun _ => True)
      (bindStep config sockets step : DaemonM N R Tag Sockets)
      (fun bound _ => bound = sockets.covering step) fun _ => True := by
  have hbound : ∀ listener event message (bound : Sockets),
      Triple (fun _ => True) (do
        Daemon.bind listener
        logEvent event message
        pure bound : DaemonM N R Tag Sockets)
        (fun result _ => result = bound) fun _ => True :=
    fun _ _ _ _ => Triple.bind (Triple.trivial _) fun _ =>
      Triple.bind (Triple.trivial _) fun _ => Triple.pure fun _ _ => rfl
  obtain ⟨protocol, port, size⟩ := step
  cases protocol with
  | udp =>
      cases port with
      | none => exact Triple.throw fun _ _ => trivial
      | some port =>
          simp only [bindStep, Sockets.covering]
          split
          · exact Triple.pure fun _ _ => rfl
          · exact hbound _ _ _ _
  | tcp =>
      cases port with
      | none => exact Triple.throw fun _ _ => trivial
      | some port =>
          simp only [bindStep, Sockets.covering]
          split
          · exact Triple.pure fun _ _ => rfl
          · exact hbound _ _ _ _
  | icmp =>
      simp only [bindStep, Sockets.covering]
      split
      · next hicmp => exact Triple.pure fun _ _ => by rw [← hicmp]
      · exact hbound _ _ _ _

/-- The loop over the sequence opens the sockets of all its steps. -/
theorem triple_bindSteps (config : Config) {steps done : List KnockStep}
    (hports : ∀ step ∈ steps, step.port = none ↔ step.protocol = .icmp)
    {sockets : Sockets} (hcovers : sockets.Covers done) :
    Triple (fun _ => True)
      (steps.foldlM (bindStep config) sockets : DaemonM N R Tag Sockets)
      (fun bound _ => bound.Covers (done ++ steps)) fun _ => True := by
  induction steps generalizing done sockets with
  | nil =>
      apply Triple.pure
      intro _ _
      rw [List.append_nil]
      exact hcovers
  | cons step steps ih =>
      obtain ⟨hport, hports⟩ := List.forall_mem_cons.mp hports
      rw [List.foldlM_cons, List.append_cons]
      apply Triple.bind (triple_bindStep config sockets step)
      rintro bound daemon rfl
      exact ih hports (hcovers.concat hport) daemon trivial

variable [CommandRunner R]

theorem triple_covers_startUp (config : ValidConfig) :
    Triple (fun _ => True)
      (startUp config.toConfig : DaemonM N R Tag Sockets)
      (fun sockets _ => sockets.Covers config.knock.sequence)
      fun _ => True := by
  have hports : ∀ step ∈ config.knock.sequence,
      step.port = none ↔ step.protocol = .icmp :=
    fun step hstep => (config.valid.step_valid step hstep).port_none_iff
  have hloop : Triple (fun _ => True)
      (config.knock.sequence.foldlM (bindStep config.toConfig)
        { udp := [], tcp := [], icmp := false } : DaemonM N R Tag Sockets)
      (fun sockets _ => sockets.Covers config.knock.sequence)
      fun _ => True :=
    triple_bindSteps config.toConfig hports Sockets.covers_nil
  rw [startUp]
  apply Triple.bind (Triple.trivial _)
  intro _
  apply Triple.bind (Triple.trivial _)
  intro result
  cases result with
  | error error =>
      exact Triple.bind (Triple.trivial _) fun _ =>
        Triple.throw_bind fun _ _ => trivial
  | ok value => exact Triple.bind (Triple.trivial _) fun _ => hloop

/-! ## What the daemon serves -/

omit [CommandRunner R] in
/-- A call to the network changes nothing else. -/
theorem triple_onNetwork {α : Type} {poll : N → α × N}
    {before failed : Daemon N R Tag → Prop}
    {returned : α → Daemon N R Tag → Prop}
    (hpoll : ∀ daemon, before daemon → returned (poll daemon.network).1
      { daemon with network := (poll daemon.network).2 }) :
    Triple before (onNetwork poll) returned failed :=
  hpoll

/-- An invariant that ignores the network is kept by the passes if processing
keeps it. -/
theorem polls_of_processPacket {sockets : Sockets}
    {Invariant Failed : Daemon N R Tag → Prop}
    (hfailed : ∀ daemon, Invariant daemon → Failed daemon)
    (hnetwork : ∀ (daemon : Daemon N R Tag) network, Invariant daemon →
      Invariant { daemon with network })
    (hprocess : ∀ addr protocol port size tag, sockets.Listens protocol port →
      Triple Invariant (processPacket addr protocol port size tag)
        (fun _ => Invariant) Failed) :
    Polls sockets Invariant Failed
      (fun _ protocol port _ _ daemon =>
        sockets.Listens protocol port ∧ Invariant daemon)
      (fun connection : PendingTcp Stream =>
        connection.port ∈ sockets.tcp) where
  failed := hfailed
  now daemon hinvariant := hnetwork daemon _ hinvariant
  setNonblocking _ daemon hinvariant := hnetwork daemon _ hinvariant
  accept _ hport daemon hinvariant :=
    ⟨hnetwork daemon _ hinvariant, fun _ _ _ _ => hport⟩
  recvUdp port hport length := by
    apply triple_onNetwork
    intro daemon hinvariant
    have hafter := hnetwork daemon
      (Network.recvUdp port length daemon.network).2 hinvariant
    generalize (Network.recvUdp port length daemon.network).1 = result
    cases result with
    | ok datagram => exact ⟨hport, hafter⟩
    | error error => exact hafter
  recvIcmp hicmp length := by
    apply triple_onNetwork
    intro daemon hinvariant
    have hafter := hnetwork daemon
      (Network.recvIcmp length daemon.network).2 hinvariant
    generalize (Network.recvIcmp length daemon.network).1 = result
    cases result with
    | ok datagram => exact ⟨fun _ => hafter, fun _ _ => ⟨hicmp, hafter⟩⟩
    | error error => exact hafter
  read connection length hport := by
    apply triple_onNetwork
    intro daemon hinvariant
    have hafter := hnetwork daemon
      (Streams.read connection.stream length daemon.network).2 hinvariant
    generalize (Streams.read connection.stream length daemon.network).1 = result
    cases result with
    | ok received => exact ⟨hport, hafter⟩
    | error error => exact hafter
  close_inFlight _ _ _ _ _ _ daemon hinFlight :=
    ⟨hinFlight.1, hnetwork daemon _ hinFlight.2⟩
  close _ daemon hinvariant := hnetwork daemon _ hinvariant
  processPacket addr protocol port size tag daemon hinFlight :=
    hprocess addr protocol port size tag hinFlight.1 daemon hinFlight.2

/-- Since `base` the daemon has served these packets, which arrived where it
listens. -/
structure Served (sockets : Sockets) (base : Daemon N R Tag)
    (handed : List (Handed Tag)) (ending : Ending) (daemon : Daemon N R Tag) :
    Prop where
  handed_eq : daemon.handed = base.handed ++ handed
  serves : Server.Serves base.server base.runner handed ending daemon.server
    daemon.runner
  listens : ∀ found ∈ handed,
    sockets.Listens found.arrival.protocol found.arrival.port

theorem Served.processPacket {sockets : Sockets}
    {base daemon : Daemon N R Tag} {handed : List (Handed Tag)}
    (hserved : Served sockets base handed .ok daemon) (addr : SocketAddr)
    {protocol : Protocol} {port : Option UInt16} (size : ℕ) (tag : Tag)
    (hlistens : sockets.Listens protocol port) :
    ∃ found ending, Served sockets base (handed ++ [found]) ending
        (perform (processPacket addr protocol port size tag) daemon).2 ∧
      ((perform (processPacket addr protocol port size tag) daemon).1 =
        .ok () → ending = .ok) := by
  rw [perform_processPacket]
  generalize Streams.now daemon.network = clock
  obtain ⟨now, network⟩ := clock
  simp only
  generalize hhandle : daemon.server.handle daemon.runner _ = result
  obtain ⟨ending, server, runner⟩ := result
  refine ⟨⟨⟨now, addr, protocol, port, size⟩, tag, daemon.server⟩, ending,
    ⟨?_, .next _ _ _ hserved.serves _ _ _ _ _ hhandle, ?_⟩, ?_⟩
  · rw [← List.append_assoc, ← hserved.handed_eq]
  · exact List.forall_mem_append.mpr
      ⟨hserved.listens, List.forall_mem_singleton.mpr hlistens⟩
  · intro hok
    by_contra hne
    rw [if_neg hne] at hok
    cases hok

/-- The daemon has served packets since `base`, all of them to the end. -/
def Serving (sockets : Sockets) (base daemon : Daemon N R Tag) : Prop :=
  ∃ handed, Served sockets base handed .ok daemon

/-- The daemon has served packets since `base`, the last of which may have
failed. -/
def Halted (sockets : Sockets) (base daemon : Daemon N R Tag) : Prop :=
  ∃ handed ending, Served sockets base handed ending daemon

/-- The passes serve packets one by one. -/
theorem triple_serving_passes (config : Config) (sockets : Sockets)
    (base : Daemon N R Tag) (count : ℕ) :
    Triple (Serving sockets base)
      (passes config sockets count [] :
        DaemonM N R Tag (List (PendingTcp Stream)))
      (fun _ => Serving sockets base) (Halted sockets base) := by
  have hprocess : ∀ addr protocol port size tag,
      sockets.Listens protocol port →
        Triple (Serving sockets base)
          (processPacket addr protocol port size tag : DaemonM N R Tag Unit)
          (fun _ => Serving sockets base) (Halted sockets base) := by
    rintro addr protocol port size tag hlistens daemon ⟨handed, hserved⟩
    obtain ⟨found, ending, hafter, hok⟩ :=
      hserved.processPacket addr size tag hlistens
    generalize perform (processPacket addr protocol port size tag) daemon =
      result at hafter hok ⊢
    obtain ⟨_ | _, after⟩ := result
    · exact ⟨_, ending, hafter⟩
    · obtain rfl := hok rfl
      exact ⟨_, hafter⟩
  have hpolls : Polls sockets (Serving sockets base) (Halted sockets base) _
      (fun connection : PendingTcp Stream => connection.port ∈ sockets.tcp) :=
    polls_of_processPacket
      (fun _ ⟨handed, hserved⟩ => ⟨handed, .ok, hserved⟩)
      (fun _ _ ⟨handed, hserved⟩ =>
        ⟨handed, hserved.handed_eq, hserved.serves, hserved.listens⟩) hprocess
  exact ((hpolls.passes config count []).of_imp fun _ hserving =>
    ⟨hserving, by simp⟩).imp_returned fun _ _ hserving => hserving.1

/-- The start-up writes to the log and looks at the firewall; it serves no
packet. -/
theorem triple_unserved_startUp (config : ValidConfig) (device : LogDevice) :
    Keeps (fun daemon : Daemon N R Tag => daemon.handed = [] ∧
        ∃ logger, logger.device = device ∧
          daemon.server = { Server.started config device with logger })
      (startUp config.toConfig : DaemonM N R Tag Sockets) := by
  apply StartsUp.startUp
  refine StartsUp.of_keeps (fun _ _ hdaemon => hdaemon)
    (fun event message => ?_) fun _ hdaemon => hdaemon
  apply Keeps.of_perform
  rintro daemon ⟨hhanded, logger, hdevice, hserver⟩
  refine ⟨hhanded, (logger.log event message).2, ?_, ?_⟩
  · rw [AuditLogger.device_log, hdevice]
  · change (daemon.server.log event message).2 = _
    rw [hserver]
    rfl

/-- What a run of the daemon comes down to: the packets it has processed came
in where the sequence says, and its memory, its commands and what each packet
found are those of a run of the server on these packets, after a start-up that
has changed only the log. -/
theorem run_serves_packets (config : ValidConfig) (device : LogDevice)
    (network : N) (runner : RecordingRunner) (count : ℕ) :
    let ended := perform
      (run config.toConfig count :
        DaemonM N RecordingRunner Tag (List (PendingTcp Stream)))
      { server := .started config device, network, runner, handed := [] }
    (∀ found ∈ ended.2.handed, ∃ step ∈ config.knock.sequence,
        step.protocol = found.arrival.protocol ∧
          step.port = found.arrival.port) ∧
      ∃ logger booted ending, logger.device = device ∧
        (ended.1.isOk = true → ending = .ok) ∧
        Server.Replayed { Server.started config device with logger } booted
          ended.2.handed ending ended.2.server ended.2.runner := by
  have hcovers := triple_covers_startUp config
    ({ server := .started config device, network, runner, handed := [] } :
      Daemon N RecordingRunner Tag) trivial
  have hunserved := triple_unserved_startUp config device
    ({ server := .started config device, network, runner, handed := [] } :
      Daemon N RecordingRunner Tag) ⟨rfl, _, rfl, rfl⟩
  simp only [run, perform_bind]
  generalize perform (startUp config.toConfig)
    ({ server := .started config device, network, runner, handed := [] } :
      Daemon N RecordingRunner Tag) = result at hcovers hunserved ⊢
  obtain ⟨error | sockets, booted⟩ := result
  · obtain ⟨hhanded, logger, hdevice, hserver⟩ := hunserved
    simp only [hhanded]
    refine ⟨by simp, logger, booted.runner, .ok, hdevice, fun _ => rfl, ?_⟩
    rw [hserver]
    exact Server.Serves.nothing.replayed
  · obtain ⟨hhanded, logger, hdevice, hserver⟩ := hunserved
    have hpasses := triple_serving_passes config.toConfig sockets booted count
      booted ⟨[], (List.append_nil _).symm, .nothing, by simp⟩
    simp only
    have hserved : ∀ {handed ending} {after : Daemon N RecordingRunner Tag},
        Served sockets booted handed ending after →
          (∀ found ∈ after.handed, ∃ step ∈ config.knock.sequence,
              step.protocol = found.arrival.protocol ∧
                step.port = found.arrival.port) ∧
            Server.Replayed { Server.started config device with logger }
              booted.runner after.handed ending after.server after.runner := by
      intro handed ending after hserved
      have heq := hserved.handed_eq
      rw [hhanded, List.nil_append] at heq
      rw [heq, ← hserver]
      exact ⟨fun found hfound => (hcovers _ _).mp (hserved.listens found hfound),
        hserved.serves.replayed⟩
    generalize perform (passes config.toConfig sockets count []) booted =
      result at hpasses ⊢
    obtain ⟨error | pending, after⟩ := result
    · obtain ⟨handed, ending, hafter⟩ := hpasses
      obtain ⟨hlistens, hreplayed⟩ := hserved hafter
      exact ⟨hlistens, logger, booted.runner, ending, hdevice,
        (fun hok => by cases hok), hreplayed⟩
    · obtain ⟨handed, hafter⟩ := hpasses
      obtain ⟨hlistens, hreplayed⟩ := hserved hafter
      exact ⟨hlistens, logger, booted.runner, .ok, hdevice, fun _ => rfl,
        hreplayed⟩

end Daemon

end SshKnock
