import SshKnock.Core.SwapRemove
import SshKnock.Server.Run

/-!
# The poll loop

After start-up the daemon polls its sockets in passes.  A pass takes at most one
datagram from every UDP socket, accepts the connections that wait, reads every
pending connection once and takes at most one ICMP datagram.  The network
decides what a poll returns and what the clock shows.
-/

namespace SshKnock

open Fallible

/-- The error kinds that the daemon tells apart, and all others. -/
inductive ErrorKind where
  | wouldBlock
  | timedOut
  | other (name : String)
  deriving DecidableEq

structure SocketError where
  kind : ErrorKind
  message : Error

/-- A received datagram.  The tag is the network's own note on it, which the
daemon never looks at. -/
structure Datagram (Addr Tag : Type) where
  size : ℕ
  addr : Addr
  tag : Tag

inductive Listener where
  | udp (listen : String) (port : UInt16)
  | tcp (listen : String) (port : UInt16)
  | icmp (family : AddressFamily)

/-- Why a listener does not come up. -/
inductive BindFailure where
  | unbound
  | unconfigured

def Listener.failure : Listener → BindFailure → Error
  | .udp _ port, .unbound => s!"failed to bind UDP knock port {port}"
  | .udp _ _, .unconfigured => "failed to configure UDP socket"
  | .tcp _ port, .unbound => s!"failed to bind TCP knock port {port}"
  | .tcp _ _, .unconfigured => "failed to configure TCP listener"
  | .icmp _, .unbound => "failed to create ICMP datagram socket"
  | .icmp _, .unconfigured => "failed to configure ICMP raw socket"

/-- The clock and the accepted connections. -/
class Streams (N : Type) (Stream Tag : outParam Type) where
  now : N → ℕ × N
  /-- Read at most so many bytes. -/
  read : Stream → ℕ → N → Except SocketError (ℕ × Tag) × N
  close : Stream → N → N

/-- The sockets as well. -/
class Network (N : Type) (Stream Tag : outParam Type) extends
    Streams N Stream Tag where
  bind : Listener → N → Except BindFailure Unit × N
  recvUdp : UInt16 → ℕ → N → Except SocketError (Datagram SocketAddr Tag) × N
  accept : UInt16 → N → Except SocketError (Stream × SocketAddr) × N
  setNonblocking : Stream → N → Bool × N
  /-- The source of an ICMP datagram may be no IP address. -/
  recvIcmp : ℕ → N →
    Except SocketError (Datagram (Option SocketAddr) Tag) × N

structure PendingTcp (Stream : Type) where
  port : UInt16
  stream : Stream
  addr : SocketAddr
  deadline : ℕ

/-- A packet handed to the server, and the server at that moment. -/
structure Handed (Tag : Type) where
  arrival : Arrival
  tag : Tag
  before : Server

/-- The daemon and what it runs on; `handed` is the history of all packets it
has processed. -/
structure Daemon (N R Tag : Type) where
  server : Server
  network : N
  runner : R
  handed : List (Handed Tag)

/-- Steps of the daemon, which runs until one of them fails. -/
abbrev DaemonM (N R Tag : Type) := Fallible (Daemon N R Tag) Ending

structure Sockets where
  udp : List UInt16
  tcp : List UInt16
  icmp : Bool

def icmpHeaderLen : ℕ := 8

/-- One read of a connection; nothing when no data is available yet. -/
def readTcpKnock {Tag : Type} :
    Except SocketError (ℕ × Tag) → Except SocketError (Option (ℕ × Tag))
  | .ok received => .ok (some received)
  | .error error =>
      match error.kind with
      | .wouldBlock | .timedOut => .ok none
      | .other _ => .error error

namespace Daemon

variable {N R Stream Tag : Type}

/-! ## Single steps -/

def onNetwork {α : Type} (poll : N → α × N) : DaemonM N R Tag α :=
  ExceptT.mk fun daemon =>
    let (result, network) := poll daemon.network
    (.ok result, { daemon with network })

def logEvent (event message : String) : DaemonM N R Tag Unit :=
  ExceptT.mk fun daemon =>
    let (result, server) := daemon.server.log event message
    (result.mapError .error, { daemon with server })

def preflight [CommandRunner R] : DaemonM N R Tag (Except Error Unit) :=
  ExceptT.mk fun daemon =>
    let (result, runner) :=
      perform daemon.server.firewall.preflight daemon.runner
    (.ok result, { daemon with runner })

variable [CommandRunner R]

/-- Process a packet; the server reads the clock itself. -/
def processPacket [Streams N Stream Tag] (addr : SocketAddr)
    (protocol : Protocol) (port : Option UInt16) (payloadSize : ℕ)
    (tag : Tag) : DaemonM N R Tag Unit :=
  ExceptT.mk fun daemon =>
    let (now, network) := Streams.now daemon.network
    let (ending, server, runner) :=
      daemon.server.processPacket daemon.runner now addr protocol port
        payloadSize
    let arrival := { now, addr, protocol, port, payloadSize }
    (if ending = .ok then .ok () else .error ending,
      { server, network, runner
        handed := daemon.handed ++ [⟨arrival, tag, daemon.server⟩] })

theorem perform_processPacket [Streams N Stream Tag] (addr : SocketAddr)
    (protocol : Protocol) (port : Option UInt16) (payloadSize : ℕ) (tag : Tag)
    (daemon : Daemon N R Tag) :
    perform (processPacket addr protocol port payloadSize tag) daemon =
      let (now, network) := Streams.now daemon.network
      let arrival : Arrival := { now, addr, protocol, port, payloadSize }
      let (ending, server, runner) :=
        daemon.server.handle daemon.runner arrival
      (if ending = .ok then .ok () else .error ending,
        { server, network, runner
          handed := daemon.handed ++ [⟨arrival, tag, daemon.server⟩] }) := rfl

/-! ## Start-up -/

section
variable [Network N Stream Tag]

def bind (listener : Listener) : DaemonM N R Tag Unit := do
  match ← onNetwork (Network.bind listener) with
  | .ok () => pure ()
  | .error failure => throw (.error (listener.failure failure))

/-- Bind the socket of a step, unless it is bound already. -/
def bindStep (config : Config) (sockets : Sockets) (step : KnockStep) :
    DaemonM N R Tag Sockets :=
  match step.protocol, step.port with
  | .udp, none => throw (.error "validated udp step has port")
  | .udp, some port =>
      if port ∈ sockets.udp then pure sockets
      else do
        bind (.udp config.listen port)
        logEvent "bind_udp" "status=bound"
        pure { sockets with udp := sockets.udp ++ [port] }
  | .tcp, none => throw (.error "validated tcp step has port")
  | .tcp, some port =>
      if port ∈ sockets.tcp then pure sockets
      else do
        bind (.tcp config.listen port)
        logEvent "bind_tcp" "status=bound"
        pure { sockets with tcp := sockets.tcp ++ [port] }
  | .icmp, _ =>
      if sockets.icmp then pure sockets
      else do
        bind (.icmp config.addressFamily)
        logEvent "bind_icmp" "enabled"
        pure { sockets with icmp := true }

def startUp (config : Config) : DaemonM N R Tag Sockets := do
  logEvent "daemon_start" "sshknockd starting"
  match ← preflight with
  | .error error =>
      logEvent "firewall_preflight_failed" s!"error={error}"
      throw (.error error)
  | .ok () => logEvent "firewall_preflight" "completed"
  config.knock.sequence.foldlM (bindStep config)
    { udp := [], tcp := [], icmp := false }

end

/-! ## A pass -/

/-- One more byte than a payload may have, so that an oversized payload is
received as one. -/
def bufferLen (config : Config) : ℕ :=
  config.maxPayloadSize + 1

/-- A connection is closed when it leaves the list. -/
def close [Streams N Stream Tag] (connection : PendingTcp Stream) :
    DaemonM N R Tag Unit :=
  onNetwork fun network => ((), Streams.close connection.stream network)

/-- The connections still pending after reading each from `index` on once.  The
connection that replaces a removed one is read next. -/
def pollPending [Streams N Stream Tag] (config : Config) (now : ℕ)
    (pending : List (PendingTcp Stream)) (index : ℕ) :
    DaemonM N R Tag (List (PendingTcp Stream)) :=
  if hindex : index < pending.length then do
    let connection := pending.get ⟨index, hindex⟩
    match readTcpKnock (← onNetwork
        (Streams.read connection.stream (bufferLen config))) with
    | .error error => throw (.error error.message)
    | .ok (some (size, tag)) =>
        close connection
        processPacket connection.addr .tcp (some connection.port) size tag
        pollPending config now (SwapRemove.swapRemove pending index) index
    | .ok none =>
        if connection.deadline ≤ now then do
          close connection
          pollPending config now (SwapRemove.swapRemove pending index) index
        else pollPending config now pending (index + 1)
  else pure pending
termination_by pending.length - index
decreasing_by
  all_goals
    have := SwapRemove.length_swapRemove hindex
    omega

/-- Until when a connection accepted now may stay pending. -/
def tcpDeadline (config : Config) (now : ℕ) : DaemonM N R Tag ℕ :=
  orThrow .aborted (Instant.checkedAdd now
    (Duration.fromSecs config.partialStateTimeout))

variable [Network N Stream Tag]

def pollUdp (config : Config) (port : UInt16) : DaemonM N R Tag Unit := do
  match ← onNetwork (Network.recvUdp port (bufferLen config)) with
  | .ok datagram =>
      processPacket datagram.addr .udp (some port) datagram.size datagram.tag
  | .error error =>
      if error.kind = .wouldBlock then pure ()
      else throw (.error error.message)

/-- Accept one connection, if one waits. -/
def acceptOne (config : Config) (now : ℕ) (port : UInt16) :
    DaemonM N R Tag (Option (PendingTcp Stream)) := do
  match ← onNetwork (Network.accept port) with
  | .error error =>
      if error.kind = .wouldBlock then pure none
      else throw (.error error.message)
  | .ok (stream, addr) =>
      if !(← onNetwork (Network.setNonblocking stream)) then
        throw (.error "failed to configure accepted TCP stream")
      let deadline ← tcpDeadline config now
      pure (some { port, stream, addr, deadline })

/-- Accept from one listener until none waits or no more may be pending. -/
def acceptAll (config : Config) (now : ℕ) (port : UInt16)
    (pending : List (PendingTcp Stream)) :
    DaemonM N R Tag (List (PendingTcp Stream)) :=
  if _ : config.maxPartialStates ≤ pending.length then pure pending
  else do
    match ← acceptOne config now port with
    | none => pure pending
    | some connection => acceptAll config now port (pending ++ [connection])
termination_by config.maxPartialStates - pending.length
decreasing_by
  rw [List.length_append, List.length_singleton]
  omega

def pollIcmp (config : Config) : DaemonM N R Tag Unit := do
  match ← onNetwork
      (Network.recvIcmp (config.maxPayloadSize + (icmpHeaderLen + 1))) with
  | .ok datagram =>
      match datagram.addr with
      | none => throw (.error "failed to read ICMP source address")
      | some addr =>
          processPacket addr .icmp none (datagram.size - icmpHeaderLen)
            datagram.tag
  | .error error =>
      if error.kind = .wouldBlock then pure ()
      else throw (.error error.message)

def pass (config : Config) (sockets : Sockets)
    (pending : List (PendingTcp Stream)) :
    DaemonM N R Tag (List (PendingTcp Stream)) := do
  sockets.udp.forM (pollUdp config)
  let now ← onNetwork Streams.now
  let pending ← sockets.tcp.foldlM
    (fun pending port => acceptAll config now port pending) pending
  let pending ← pollPending config now pending 0
  if sockets.icmp then pollIcmp config
  pure pending

/-- So many passes of the loop. -/
def passes (config : Config) (sockets : Sockets) :
    ℕ → List (PendingTcp Stream) →
      DaemonM N R Tag (List (PendingTcp Stream))
  | 0, pending => pure pending
  | count + 1, pending => do
      let pending ← pass config sockets pending
      passes config sockets count pending

/-- The daemon from its start through `count` passes of its endless loop. -/
def run (config : Config) (count : ℕ) :
    DaemonM N R Tag (List (PendingTcp Stream)) := do
  let sockets ← startUp config
  passes config sockets count []

end Daemon

end SshKnock
