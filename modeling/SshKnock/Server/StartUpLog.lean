import SshKnock.Server.ArrivalOrder
import SshKnock.Server.Redaction

/-!
# What the start-up log tells

The daemon logs an event for every listener it binds, and the name of the event
names the protocol.  The log before the first pass therefore tells two
configurations apart exactly when their sequences use the protocols in a
different order, where only the first ICMP step counts.
-/

namespace SshKnock

open Fallible

/-! ## The log as a list of events -/

structure LogEvent where
  event : String
  message : String

/-- The line of an event that is the `write`-th to be written. -/
def LogDevice.line (device : LogDevice) (write : ℕ) (logged : LogEvent) :
    String :=
  let timestamp := device.unixSeconds write
  s!"ts={timestamp} event={logged.event} {logged.message}"

/-- The log consists of exactly these events. -/
structure AuditLogger.Records (device : LogDevice) (events : List LogEvent)
    (logger : AuditLogger) : Prop where
  device_eq : logger.device = device
  writes_eq : logger.writes = events.length
  lines_eq : logger.lines = events.mapIdx device.line

namespace AuditLogger

variable {device : LogDevice} {events : List LogEvent} {logger : AuditLogger}

theorem records_opened (device : LogDevice) : Records device [] (opened device) :=
  ⟨rfl, rfl, rfl⟩

theorem Records.log (hrecords : Records device events logger)
    {event message : String}
    (hwritten : (logger.log event message).1 = .ok ()) :
    Records device (events ++ [⟨event, message⟩])
      (logger.log event message).2 := by
  simp only [AuditLogger.log] at hwritten ⊢
  split at hwritten
  · cases hwritten
  · next hok =>
      refine ⟨hrecords.device_eq, ?_, ?_⟩
      · rw [List.length_append, List.length_singleton, hrecords.writes_eq]
      · rw [List.mapIdx_concat, ← hrecords.lines_eq, ← hrecords.writes_eq,
          ← hrecords.device_eq]
        rfl

end AuditLogger

/-- The event of a listener. -/
def Protocol.bindEvent : Protocol → LogEvent
  | .udp => ⟨"bind_udp", "status=bound"⟩
  | .tcp => ⟨"bind_tcp", "status=bound"⟩
  | .icmp => ⟨"bind_icmp", "enabled"⟩

/-- The line of a listener's event shows its protocol. -/
theorem Protocol.line_bindEvent_injective (device : LogDevice) (write : ℕ) :
    Function.Injective fun protocol : Protocol =>
      device.line write protocol.bindEvent := by
  intro left right heq
  have hlists := congrArg String.toList heq
  simp only [LogDevice.line, String.toList_append, List.append_assoc,
    List.append_cancel_left_eq] at hlists
  cases left <;> cases right <;> first | rfl | exact absurd hlists (by decide)

/-- The protocols of the listeners that the steps bind, in their order;
`icmpBound` when ICMP has its listener already. -/
def listenerProtocols (icmpBound : Bool) : List KnockStep → List Protocol
  | [] => []
  | step :: steps =>
      if step.protocol = .icmp ∧ icmpBound then listenerProtocols true steps
      else step.protocol ::
        listenerProtocols (icmpBound || step.protocol = .icmp) steps

/-- The protocols of the sequence, every ICMP step after the first left out. -/
def Config.listenerProtocols (config : Config) : List Protocol :=
  SshKnock.listenerProtocols false config.knock.sequence

/-- What a start-up that succeeds logs. -/
def startUpEvents (protocols : List Protocol) : List LogEvent :=
  [⟨"daemon_start", "sshknockd starting"⟩, ⟨"firewall_preflight", "completed"⟩]
    ++ protocols.map Protocol.bindEvent

/-- Different protocols make different lines. -/
theorem mapIdx_startUpEvents_injective (device : LogDevice) :
    Function.Injective fun protocols : List Protocol =>
      (startUpEvents protocols).mapIdx device.line := by
  intro left right heq
  simp only [startUpEvents, List.mapIdx_append,
    List.append_cancel_left_eq] at heq
  apply List.ext_getElem?
  intro index
  have hline := congrArg (fun lines => lines[index]?) heq
  simp only [List.getElem?_mapIdx, List.getElem?_map, Option.map_map] at hline
  exact Option.map_injective
    (Protocol.line_bindEvent_injective device _) hline

def Sockets.ports (sockets : Sockets) : List UInt16 :=
  sockets.udp ++ sockets.tcp

namespace Daemon

variable {N R Stream Tag : Type} {device : LogDevice} {events : List LogEvent}

/-- The daemon has logged exactly these events. -/
def Logged (device : LogDevice) (events : List LogEvent)
    (daemon : Daemon N R Tag) : Prop :=
  daemon.server.logger.Records device events

theorem triple_logged_logEvent (event message : String) :
    Triple (Logged device events)
      (logEvent event message : DaemonM N R Tag Unit)
      (fun _ => Logged device (events ++ [⟨event, message⟩]))
      fun _ => True := by
  intro daemon hlogged
  have hperform : perform (logEvent event message) daemon =
      ((daemon.server.log event message).1.mapError .error,
        { daemon with server := (daemon.server.log event message).2 }) := rfl
  rw [hperform]
  cases hwritten : (daemon.server.log event message).1 with
  | error error => trivial
  | ok value => exact AuditLogger.Records.log hlogged hwritten

theorem triple_logged_onNetwork {α : Type} (poll : N → α × N) :
    Triple (Logged device events) (onNetwork poll : DaemonM N R Tag α)
      (fun _ => Logged device events) fun _ => True :=
  fun _ hlogged => hlogged

theorem triple_logged_preflight [CommandRunner R] :
    Triple (Logged device events)
      (preflight : DaemonM N R Tag (Except Error Unit))
      (fun _ => Logged device events) fun _ => True :=
  fun _ hlogged => hlogged

variable [Network N Stream Tag]

theorem triple_logged_bind (listener : Listener) :
    Triple (Logged device events) (bind listener : DaemonM N R Tag Unit)
      (fun _ => Logged device events) fun _ => True := by
  apply Triple.bind (triple_logged_onNetwork _)
  intro result
  cases result with
  | ok value => exact Triple.pure fun _ hlogged => hlogged
  | error failure => exact Triple.throw fun _ _ => trivial

/-- A listener is bound and logged. -/
theorem triple_bound (listener : Listener) (protocol : Protocol)
    (bound : Sockets) :
    Triple (Logged device events) (do
      Daemon.bind listener
      logEvent protocol.bindEvent.event protocol.bindEvent.message
      pure bound : DaemonM N R Tag Sockets)
      (fun result daemon => result = bound ∧
        Logged device (events ++ [protocol.bindEvent]) daemon)
      fun _ => True := by
  apply Triple.bind (triple_logged_bind listener)
  intro _
  apply Triple.bind (triple_logged_logEvent _ _)
  intro _
  exact Triple.pure fun _ hlogged => ⟨rfl, hlogged⟩

/-- What binding the socket of a step leaves behind. -/
structure StepBound (device : LogDevice) (events : List LogEvent)
    (sockets : Sockets) (step : KnockStep) (bound : Sockets)
    (daemon : Daemon N R Tag) : Prop where
  icmp_eq : bound.icmp = (sockets.icmp || decide (step.protocol = .icmp))
  ports_subset : ∀ port ∈ bound.ports,
    port ∈ sockets.ports ∨ step.port = some port
  logged : Logged device (events ++ (listenerProtocols sockets.icmp
    [step]).map Protocol.bindEvent) daemon

theorem triple_stepBound (config : Config) (sockets : Sockets)
    (step : KnockStep)
    (hnew : ∀ port, step.port = some port → port ∉ sockets.ports) :
    Triple (Logged device events)
      (bindStep config sockets step : DaemonM N R Tag Sockets)
      (StepBound device events sockets step) fun _ => True := by
  obtain ⟨protocol, port, size⟩ := step
  cases protocol with
  | udp =>
      cases port with
      | none => exact Triple.throw fun _ _ => trivial
      | some port =>
          have hfresh : port ∉ sockets.udp := fun hmem =>
            hnew port rfl (List.mem_append_left _ hmem)
          simp only [bindStep, if_neg hfresh]
          refine (triple_bound _ .udp _).imp_returned ?_
          rintro _ daemon ⟨rfl, hlogged⟩
          refine ⟨by simp, fun other hother => ?_, hlogged⟩
          simp only [Sockets.ports, List.mem_append, List.mem_singleton] at hother ⊢
          rcases hother with (hudp | rfl) | htcp
          · exact Or.inl (Or.inl hudp)
          · exact Or.inr rfl
          · exact Or.inl (Or.inr htcp)
  | tcp =>
      cases port with
      | none => exact Triple.throw fun _ _ => trivial
      | some port =>
          have hfresh : port ∉ sockets.tcp := fun hmem =>
            hnew port rfl (List.mem_append_right _ hmem)
          simp only [bindStep, if_neg hfresh]
          refine (triple_bound _ .tcp _).imp_returned ?_
          rintro _ daemon ⟨rfl, hlogged⟩
          refine ⟨by simp, fun other hother => ?_, hlogged⟩
          simp only [Sockets.ports, List.mem_append, List.mem_singleton] at hother ⊢
          rcases hother with hudp | htcp | rfl
          · exact Or.inl (Or.inl hudp)
          · exact Or.inl (Or.inr htcp)
          · exact Or.inr rfl
  | icmp =>
      cases hicmp : sockets.icmp with
      | true =>
          simp only [bindStep, hicmp, if_true]
          apply Triple.pure
          intro daemon hlogged
          refine ⟨by simp [hicmp], fun other hother => Or.inl hother, ?_⟩
          simpa [listenerProtocols, hicmp] using hlogged
      | false =>
          simp only [bindStep, hicmp, Bool.false_eq_true, if_false]
          refine (triple_bound _ .icmp _).imp_returned ?_
          rintro _ daemon ⟨rfl, hlogged⟩
          refine ⟨by simp, fun other hother => Or.inl hother, ?_⟩
          simpa [listenerProtocols, hicmp] using hlogged

/-- The protocols of a sequence are those of its first step and those of the
others. -/
theorem listenerProtocols_cons (icmpBound : Bool) (step : KnockStep)
    (steps : List KnockStep) :
    listenerProtocols icmpBound (step :: steps) =
      listenerProtocols icmpBound [step] ++
        listenerProtocols (icmpBound || decide (step.protocol = .icmp))
          steps := by
  rw [listenerProtocols, listenerProtocols]
  split
  · next hbound => simp [listenerProtocols, hbound.1]
  · rfl

/-- The loop over the sequence logs the event of each listener it binds. -/
theorem triple_logged_bindSteps (config : Config) (steps : List KnockStep)
    (sockets : Sockets) (hnodup : (steps.filterMap (·.port)).Nodup)
    (hnew : ∀ port ∈ steps.filterMap (·.port), port ∉ sockets.ports) :
    Triple (Logged device events)
      (steps.foldlM (bindStep config) sockets : DaemonM N R Tag Sockets)
      (fun _ => Logged device (events ++ (listenerProtocols sockets.icmp
        steps).map Protocol.bindEvent)) fun _ => True := by
  induction steps generalizing sockets events with
  | nil =>
      apply Triple.pure
      intro daemon hlogged
      rw [listenerProtocols, List.map_nil, List.append_nil]
      exact hlogged
  | cons step steps ih =>
      have hfirst : ∀ port, step.port = some port → port ∉ sockets.ports :=
        fun port hport => hnew port
          (List.mem_filterMap.mpr ⟨step, List.mem_cons_self, hport⟩)
      rw [List.foldlM_cons]
      apply Triple.bind (triple_stepBound config sockets step hfirst)
      intro bound daemon hbound
      have hrest : (steps.filterMap (·.port)).Nodup :=
        hnodup.sublist ((List.sublist_cons_self step steps).filterMap _)
      have hnewRest : ∀ port ∈ steps.filterMap (·.port),
          port ∉ bound.ports := by
        intro port hmem hported
        rcases hbound.ports_subset port hported with hold | hown
        · exact hnew port (((List.sublist_cons_self step steps).filterMap
            _).subset hmem) hold
        · rw [List.filterMap_cons_some hown] at hnodup
          exact (List.nodup_cons.mp hnodup).1 hmem
      have hloop := ih bound hrest hnewRest daemon
        hbound.logged
      rw [listenerProtocols_cons, List.map_append, ← List.append_assoc,
        ← hbound.icmp_eq]
      exact hloop

variable [CommandRunner R]

/-- A start-up that succeeds logs an event for each listener. -/
theorem triple_logged_startUp (config : ValidConfig) :
    Triple (Logged device [])
      (startUp config.toConfig : DaemonM N R Tag Sockets)
      (fun _ => Logged device (startUpEvents config.listenerProtocols))
      fun _ => True := by
  have hloop : Triple (Logged device (startUpEvents []))
      (config.knock.sequence.foldlM (bindStep config.toConfig)
        { udp := [], tcp := [], icmp := false } : DaemonM N R Tag Sockets)
      (fun _ => Logged device (startUpEvents config.listenerProtocols))
      fun _ => True :=
    triple_logged_bindSteps config.toConfig config.knock.sequence
      { udp := [], tcp := [], icmp := false } config.valid.ports_nodup
      fun _ _ hmem => by cases hmem
  rw [startUp]
  apply Triple.bind (triple_logged_logEvent _ _)
  intro _
  apply Triple.bind triple_logged_preflight
  intro result
  cases result with
  | error error =>
      apply Triple.bind (triple_logged_logEvent _ _)
      intro _
      exact Triple.throw_bind fun _ _ => trivial
  | ok value => exact Triple.bind (triple_logged_logEvent _ _) fun _ => hloop

/-- The start-up of a daemon. -/
def starting (config : ValidConfig) (device : LogDevice) (network : N)
    (runner : R) : Except Ending Sockets × Daemon N R Tag :=
  perform (startUp config.toConfig)
    { server := .started config device, network, runner, handed := [] }

/-- When the preflight, the binds and the writes to the log succeed, the log is
the list of the listeners' events. -/
theorem lines_starting (config : ValidConfig) (device : LogDevice) (network : N)
    (runner : R)
    (hstarted : (starting config device network runner).1.isOk = true) :
    (starting config device network runner).2.server.logger.lines =
      (startUpEvents config.listenerProtocols).mapIdx device.line := by
  have hlogged := triple_logged_startUp config
    { server := .started config device, network, runner, handed := [] }
    (AuditLogger.records_opened device)
  rw [← starting] at hlogged
  generalize starting config device network runner = result at hlogged hstarted
  obtain ⟨_ | sockets, after⟩ := result
  · cases hstarted
  · exact hlogged.lines_eq

/-- Two configurations start with the same log exactly when their sequences
use the same protocols in the same order, where only the first ICMP step
counts. -/
theorem start_up_log_eq_iff (left right : ValidConfig) (device : LogDevice)
    (leftNetwork rightNetwork : N) (leftRunner rightRunner : R)
    (hleft : (starting left device leftNetwork leftRunner).1.isOk = true)
    (hright : (starting right device rightNetwork rightRunner).1.isOk = true) :
    (starting left device leftNetwork leftRunner).2.server.logger.lines =
        (starting right device rightNetwork rightRunner).2.server.logger.lines ↔
      left.listenerProtocols = right.listenerProtocols := by
  rw [lines_starting _ _ _ _ hleft, lines_starting _ _ _ _ hright]
  exact (mapIdx_startUpEvents_injective device).eq_iff

/-- A start-up in which nothing fails. -/
def startingWell (config : ValidConfig) :
    Except Ending Sockets × Daemon Queues RecordingRunner Taken :=
  starting config .writable (.empty (fun _ => 0) [])
    (.answering RecordingRunner.succeeding)

/-- The log shows the protocols of the knock in their order. -/
theorem bind_events_reveal_protocols :
    Server.otherKnockConfig.toConfig = { Server.debugConfig.toConfig with
        knock := Server.otherKnockConfig.knock } ∧
      (startingWell Server.debugConfig).1.isOk = true ∧
      (startingWell Server.otherKnockConfig).1.isOk = true ∧
      (startingWell Server.debugConfig).2.server.logger.lines =
        ["ts=0 event=daemon_start sshknockd starting",
          "ts=0 event=firewall_preflight completed",
          "ts=0 event=bind_tcp status=bound",
          "ts=0 event=bind_udp status=bound",
          "ts=0 event=bind_tcp status=bound"] ∧
      (startingWell Server.otherKnockConfig).2.server.logger.lines =
        ["ts=0 event=daemon_start sshknockd starting",
          "ts=0 event=firewall_preflight completed",
          "ts=0 event=bind_icmp enabled",
          "ts=0 event=bind_tcp status=bound",
          "ts=0 event=bind_udp status=bound"] ∧
      (startingWell Server.debugConfig).2.server.logger.lines ≠
        (startingWell Server.otherKnockConfig).2.server.logger.lines := by
  refine ⟨rfl, ?_, ?_, ?_, ?_, ?_⟩ <;> decide +kernel

/-- Other ports and sizes leave no trace. -/
theorem start_up_log_eq_for_other_ports :
    (startingWell { testConfig with
        knock := ⟨[⟨.tcp, some 9001, 4⟩, ⟨.udp, some 9002, 5⟩,
          ⟨.tcp, some 9003, 6⟩]⟩
        validated := by decide }).2.server.logger.lines =
      (startingWell testConfig).2.server.logger.lines := by
  apply (start_up_log_eq_iff _ _ _ _ _ _ _ _ _).mpr
  · decide
  · decide +kernel
  · decide +kernel

end Daemon

end SshKnock
