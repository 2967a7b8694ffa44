import SshKnock.Server.LoopPair

/-!
# Bounded buffers lose nothing

The daemon receives into buffers that hold one byte more than a payload may
have.  A longer payload is cut off there, and nobody can tell: the daemon does
exactly what it would do with the whole payload.
-/

namespace SshKnock

open Fallible

/-! ## Cutting off -/

/-- A network that hands over no more bytes than the buffer holds. -/
structure Clipped (N : Type) where
  network : N

def Datagram.clip {Addr Tag : Type} (length : ℕ) (datagram : Datagram Addr Tag) :
    Datagram Addr Tag :=
  { datagram with size := min datagram.size length }

namespace Clipped

variable {N : Type} {α : Type}

/-- Do the same on the whole network. -/
def lift (poll : N → α × N) (clipped : Clipped N) : α × Clipped N :=
  let (result, network) := poll clipped.network
  (result, ⟨network⟩)

instance {Stream Tag : Type} [Network N Stream Tag] :
    Network (Clipped N) Stream Tag where
  now := lift Streams.now
  read stream length clipped :=
    let (received, clipped) := lift (Streams.read stream length) clipped
    (received.map fun data => (min data.1 length, data.2), clipped)
  close stream clipped := ⟨Streams.close stream clipped.network⟩
  bind listener := lift (Network.bind listener)
  recvUdp port length clipped :=
    let (received, clipped) := lift (Network.recvUdp port length) clipped
    (received.map (Datagram.clip length), clipped)
  accept port := lift (Network.accept port)
  setNonblocking stream := lift (Network.setNonblocking stream)
  recvIcmp length clipped :=
    let (received, clipped) := lift (Network.recvIcmp length) clipped
    (received.map (Datagram.clip length), clipped)

end Clipped

/-- The packet as it is received into a buffer. -/
def Arrival.clip (length : ℕ) (arrival : Arrival) : Arrival :=
  { arrival with payloadSize := min arrival.payloadSize length }

def Handed.clip {Tag : Type} (length : ℕ) (handed : Handed Tag) : Handed Tag :=
  { handed with arrival := handed.arrival.clip length }

/-! ## The server cannot tell -/

/-- A packet that is cut off beyond the maximum is as oversized as the whole
one. -/
theorem KnockTracker.process_min (tracker : KnockTracker) (packet : KnockPacket)
    (now : ℕ) {length : ℕ} (hlength : tracker.maxPayloadSize < length) :
    tracker.process { packet with payloadSize := min packet.payloadSize length }
        now = tracker.process packet now := by
  rcases Nat.le_total packet.payloadSize length with hshort | hlong
  · rw [min_eq_left hshort]
  · have hcut : (tracker.expire now).maxPayloadSize <
        min packet.payloadSize length := lt_min (hlength.trans_le hlong) hlength
    have hwhole : (tracker.expire now).maxPayloadSize < packet.payloadSize :=
      hlength.trans_le hlong
    rw [process_eq, process_eq]
    simp only [if_pos hcut, if_pos hwhole]

theorem Server.handle_clip {R : Type} [CommandRunner R] {config : Config}
    {server : Server} (hserver : Server.Configured config server) (runner : R)
    (arrival : Arrival) :
    server.handle runner (arrival.clip (Daemon.bufferLen config)) =
      server.handle runner arrival := by
  have hlength : (server.expireBannedSources
      arrival.now).tracker.maxPayloadSize < Daemon.bufferLen config := by
    rw [Daemon.bufferLen]
    exact Nat.lt_succ_of_le (hserver.tracker_consistent.maxPayloadSize_eq).le
  have hprocess := (server.expireBannedSources arrival.now).tracker.process_min
    ⟨arrival.addr.ip, arrival.protocol, arrival.port, arrival.payloadSize⟩
    arrival.now hlength
  simp only [handle, processPacket, isSourceBanned, Arrival.clip, hprocess]
  rfl

/-! ## The daemon cannot tell -/

namespace Daemon

variable {N R Stream Tag : Type}

/-- The daemon on the same network, had it received into its buffers. -/
def clip (config : Config) (daemon : Daemon N R Tag) :
    Daemon (Clipped N) R Tag :=
  { server := daemon.server, network := ⟨daemon.network⟩
    runner := daemon.runner
    handed := daemon.handed.map (Handed.clip (bufferLen config)) }

/-- The second daemon differs from the first in its buffers only. -/
structure CutOff (config : Config) (daemon : Daemon N R Tag)
    (clipped : Daemon (Clipped N) R Tag) : Prop where
  configured : Server.Configured config daemon.server
  clipped_eq : clipped = daemon.clip config

/-- What is received of a payload. -/
def CutTo (length : ℕ) (received other : ℕ × Tag) : Prop :=
  other = (min received.1 length, received.2)

variable {config : Config}

theorem lockstep_onNetwork {α : Type} (poll : N → α × N) :
    Lockstep (CutOff config : Daemon N R Tag → _)
      (onNetwork poll) (onNetwork (Clipped.lift poll)) := by
  apply Lockstep.of_perform
  rintro daemon clipped ⟨hconfigured, rfl⟩
  exact ⟨rfl, hconfigured, rfl⟩

theorem lockstep_logEvent (event message : String) :
    Lockstep (CutOff config : Daemon N R Tag → _)
      (logEvent event message) (logEvent event message) := by
  apply Lockstep.of_perform
  rintro daemon clipped ⟨hconfigured, rfl⟩
  exact ⟨rfl, hconfigured.sameMemory (Server.sameMemory_log rfl), rfl⟩

variable [CommandRunner R] [Network N Stream Tag]

theorem lockstep_preflight :
    Lockstep (CutOff config : Daemon N R Tag → _) preflight preflight := by
  apply Lockstep.of_perform
  rintro daemon clipped ⟨hconfigured, rfl⟩
  exact ⟨rfl, hconfigured, rfl⟩

theorem lockstep_processPacket (addr : SocketAddr) (protocol : Protocol)
    (port : Option UInt16) (size : ℕ) (tag : Tag) :
    Lockstep (CutOff config : Daemon N R Tag → _)
      (processPacket addr protocol port size tag)
      (processPacket addr protocol port (min size (bufferLen config)) tag) := by
  apply Lockstep.of_perform
  rintro daemon clipped ⟨hconfigured, rfl⟩
  let arrival : Arrival :=
    ⟨(Streams.now daemon.network).1, addr, protocol, port, size⟩
  have hhandle : daemon.server.handle daemon.runner
      ⟨(Streams.now daemon.network).1, addr, protocol, port,
        min size (bufferLen config)⟩ =
        daemon.server.handle daemon.runner
          ⟨(Streams.now daemon.network).1, addr, protocol, port, size⟩ :=
    Server.handle_clip hconfigured daemon.runner arrival
  have hnow : Streams.now (⟨daemon.network⟩ : Clipped N) =
      ((Streams.now daemon.network).1, ⟨(Streams.now daemon.network).2⟩) := rfl
  have hsame := Server.sameMemory_enact (daemon.server.judge arrival).2
    daemon.runner arrival (daemon.server.judge arrival).1
  rw [← Server.handle_eq] at hsame
  have hclipped : perform (processPacket addr protocol port
      (min size (bufferLen config)) tag) (daemon.clip config) =
        ((perform (processPacket addr protocol port size tag) daemon).1,
          (perform (processPacket addr protocol port size tag)
            daemon).2.clip config) := by
    have happend : ∀ handed : Handed Tag,
        (daemon.handed ++ [handed]).map (Handed.clip (bufferLen config)) =
          daemon.handed.map (Handed.clip (bufferLen config)) ++
            [handed.clip (bufferLen config)] := by
      intro handed
      rw [List.map_append, List.map_singleton]
    rw [perform_processPacket, perform_processPacket]
    simp only [clip, happend, hnow, hhandle]
    rfl
  rw [hclipped]
  exact ⟨rfl, (hconfigured.judge arrival).sameMemory hsame, rfl⟩

theorem cutTo_map {α β : Type} {alike : α → β → Prop} {Reason : Type}
    (received : Except Reason α) (clip : α → β)
    (hclip : ∀ value, alike value (clip value)) :
    Alike alike received (received.map clip) := by
  cases received with
  | ok value => exact .ok (hclip value)
  | error reason => exact .error reason

theorem bootPairs_cutOff :
    BootPairs (CutOff config : Daemon N R Tag → _)
      (fun ending other daemon clipped =>
        CutOff config daemon clipped ∧ ending = other) False where
  failed_alike _ _ _ hcutOff := ⟨hcutOff, rfl⟩
  bind _ := lockstep_onNetwork _
  logEvent := lockstep_logEvent
  preflight := lockstep_preflight

theorem pairs_cutOff :
    Pairs config config (CutTo (bufferLen config))
      (CutOff config : Daemon N R Tag → _)
      (fun ending other daemon clipped =>
        CutOff config daemon clipped ∧ ending = other) False where
  partialStateTimeout_eq := rfl
  maxPartialStates_eq := rfl
  failed_alike _ _ _ hcutOff := ⟨hcutOff, rfl⟩
  now := lockstep_onNetwork _
  setNonblocking _ := lockstep_onNetwork _
  accept _ := lockstep_onNetwork _
  close _ := lockstep_onNetwork _
  read stream := by
    rintro daemon clipped ⟨hconfigured, rfl⟩
    exact ⟨⟨hconfigured, rfl⟩, cutTo_map _ _ fun _ => rfl⟩
  recvUdp port := by
    rintro daemon clipped ⟨hconfigured, rfl⟩
    exact ⟨⟨hconfigured, rfl⟩, cutTo_map _ _ fun _ => ⟨rfl, rfl⟩⟩
  recvIcmp := by
    rintro daemon clipped ⟨hconfigured, rfl⟩
    refine ⟨⟨hconfigured, rfl⟩, cutTo_map _ _ fun datagram => ⟨rfl, ?_⟩⟩
    have hcut : min datagram.size (config.maxPayloadSize + (icmpHeaderLen + 1)) -
        icmpHeaderLen = min (datagram.size - icmpHeaderLen) (bufferLen config) := by
      rw [bufferLen]
      omega
    rw [CutTo, ← hcut]
    rfl
  processPacket addr protocol port received other hcut := by
    rw [hcut]
    exact lockstep_processPacket addr protocol port received.1 received.2

/-- Receiving into bounded buffers goes unnoticed: on every network the daemon
ends as it would end with whole payloads, with the same memory, the same
commands and the same connections, and having processed the same packets, cut
off one byte beyond the maximum. -/
theorem buffers_unnoticed (config : ValidConfig) (device : LogDevice)
    (network : N) (runner : R) (count : ℕ) :
    perform (run config.toConfig count :
        DaemonM (Clipped N) R Tag (List (PendingTcp Stream)))
        { server := .started config device, network := ⟨network⟩, runner
          handed := [] } =
      let whole := perform (run config.toConfig count :
          DaemonM N R Tag (List (PendingTcp Stream)))
        { server := .started config device, network, runner, handed := [] }
      (whole.1, whole.2.clip config.toConfig) := by
  have hrun : Lockstep (CutOff config.toConfig : Daemon N R Tag → _)
      (run config.toConfig count : DaemonM N R Tag (List (PendingTcp Stream)))
      (run config.toConfig count) :=
    InStep.bind (bootPairs_cutOff.startUp config.toConfig) fun sockets =>
      pairs_cutOff.passes sockets count []
  have hcutOff : CutOff config.toConfig
      ({ server := .started config device, network, runner, handed := [] } :
        Daemon N R Tag)
      { server := .started config device, network := ⟨network⟩, runner
        handed := [] } :=
    ⟨Server.configured_started config device, rfl⟩
  obtain ⟨hresult, -, hclipped⟩ := hrun.perform_eq hcutOff
  exact Prod.ext hresult.symm hclipped

end Daemon

end SshKnock
