import SshKnock.Server.Chronicle
import SshKnock.System.Entries

/-!
# The daemon and the kernel together

The setup, the daemon and the administrator who starts and stops it share one
kernel and one clock.  A run of this system is any sequence of these events:
time passes, a setup is run, the daemon starts, a packet is processed, the
daemon is stopped.  Every command takes the time it takes and may fail.
-/

namespace SshKnock

open Fallible

/-- The running daemon: its server and the packets it has processed. -/
structure Process where
  server : Server
  served : List (Handed Unit)

structure System where
  kernel : Kernel
  daemon : Option Process

/-- What happens next, with the fate of the commands it causes.  The network
and the log device are those of a daemon that starts. -/
inductive Event (N : Type) where
  | elapse (duration : ℕ)
  | setup (schedule : List (ℕ × Option Fault))
  | start (device : LogDevice) (network : N)
      (schedule : List (ℕ × Option Fault))
  | packet (addr : SocketAddr) (protocol : Protocol) (port : Option UInt16)
      (payloadSize : ℕ) (schedule : List (ℕ × Option Fault))
  | stop

namespace System

variable {N Stream Tag : Type} [Network N Stream Tag]

/-- A session of a process that has sent no command yet. -/
def session (system : System) (schedule : List (ℕ × Option Fault)) :
    Session :=
  { kernel := system.kernel, schedule, reports := [] }

/-- The daemon before its start-up. -/
def launched (system : System) (config : ValidConfig) (device : LogDevice)
    (network : N) (schedule : List (ℕ × Option Fault)) :
    Daemon N Session Tag :=
  { server := .started config device, network
    runner := system.session schedule, handed := [] }

/-- The system after an event, and the commands it caused. -/
def step (config : ValidConfig) (system : System) :
    Event N → System × List Report
  | .elapse duration =>
      ({ system with kernel := system.kernel.elapse duration }, [])
  | .setup schedule =>
      let (_, session) := perform (config.firewall.setup config.sshPort)
        (system.session schedule)
      ({ system with kernel := session.kernel }, session.reports)
  | .start device network schedule =>
      match system.daemon with
      | some _ => (system, [])
      | none =>
          let (result, daemon) := perform (Daemon.startUp config.toConfig)
            (system.launched config device network schedule)
          ({ kernel := daemon.runner.kernel
             daemon := result.toOption.map fun _ => ⟨daemon.server, []⟩ },
            daemon.runner.reports)
  | .packet addr protocol port payloadSize schedule =>
      match system.daemon with
      | none => (system, [])
      | some process =>
          let arrival : Arrival :=
            { now := system.kernel.now, addr, protocol, port, payloadSize }
          let (ending, server, session) :=
            process.server.handle (system.session schedule) arrival
          let handed : Handed Unit := ⟨arrival, (), process.server⟩
          ({ kernel := session.kernel
             daemon := if ending = .ok then
                 some ⟨server, process.served ++ [handed]⟩
               else none },
            session.reports)
  | .stop => ({ system with daemon := none }, [])

/-- The system after the events. -/
def run (config : ValidConfig) (system : System) (events : List (Event N)) :
    System :=
  events.foldl (fun system event => (system.step config event).1) system

theorem run_append (config : ValidConfig) (system : System)
    (first second : List (Event N)) :
    system.run config (first ++ second) =
      (system.run config first).run config second :=
  List.foldl_append

theorem run_concat (config : ValidConfig) (system : System)
    (events : List (Event N)) (event : Event N) :
    system.run config (events ++ [event]) =
      ((system.run config events).step config event).1 :=
  system.run_append config events [event]

/-- A system on which no daemon runs and whose sets are empty. -/
def quiet (host : Host) (now : ℕ) : System :=
  { kernel := { host, entries := HashMap.empty, now }, daemon := none }

end System

/-! ## What handling a packet sends to the kernel -/

namespace Server

variable {R : Type} [CommandRunner R]

theorem runnerAfter_enforceBan (server : Server) (runner : R)
    (sourceIp : IpAddr) :
    (server.enforceBan runner sourceIp).2.2 =
      (perform (server.firewall.banIp sourceIp) runner).2 := by
  rw [enforceBan]
  generalize perform (server.firewall.banIp sourceIp) runner = result
  obtain ⟨_ | _, after⟩ := result <;> rfl

theorem runnerAfter_openFirewall (server : Server) (runner : R)
    (sourceIp : IpAddr) :
    (server.openFirewall runner sourceIp).2.2 =
      (perform (server.firewall.addIp sourceIp) runner).2 := by
  rw [openFirewall]
  generalize perform (server.firewall.addIp sourceIp) runner = result
  obtain ⟨error | _, after⟩ := result
  · simp only
    split <;> rfl
  · rfl

/-- Commands are sent for an accepted packet at most. -/
theorem runnerAfter_respond (server : Server) (runner : R) (sourceIp : IpAddr)
    (outcome : KnockOutcome) (now : ℕ) :
    (server.respond runner sourceIp outcome now).2.2 = runner ∨
      outcome = .accepted ∧
        (server.respond runner sourceIp outcome now).2.2 =
          (perform (server.firewall.addIp sourceIp) runner).2 := by
  have htelemetry := server.sameMemory_logPacketTelemetry sourceIp outcome now
  rw [respond]
  split
  · exact Or.inl rfl
  · next after hlog =>
      rw [hlog] at htelemetry
      split
      · next haccepted =>
          rw [runnerAfter_openFirewall, htelemetry.firewall_eq]
          exact Or.inr ⟨haccepted, rfl⟩
      · exact Or.inl rfl

/-- Everything a judgement can send to the kernel. -/
inductive Sends (firewall : Firewall) (sourceIp : IpAddr) (session : Session) :
    Judgement → Session → Prop where
  | nothing (judgement : Judgement) :
      Sends firewall sourceIp session judgement session
  | ban (result : Except Error Unit) (after : Session)
      (hadds : session.Adds firewall.banIpsetName sourceIp firewall.banTimeout
        (result, after)) : Sends firewall sourceIp session .ban after
  | allow (result : Except Error Unit) (after : Session)
      (hadds : session.Adds firewall.ipsetName sourceIp firewall.ipTimeout
        (result, after)) :
      Sends firewall sourceIp session (.answer .accepted) after

theorem sends {config : ValidConfig} {server : Server}
    (hserver : Configured config.toConfig server) (session : Session)
    (arrival : Arrival) :
    Sends config.firewall arrival.sourceIp session (server.judge arrival).1
      (server.handle session arrival).2.2 := by
  have hfirewall : (server.judge arrival).2.firewall = config.firewall :=
    (hserver.judge arrival).firewall_eq
  rw [handle_eq]
  cases (server.judge arrival).1 with
  | ignore => exact .nothing _
  | abort => exact .nothing _
  | ban =>
      rw [enact, runnerAfter_enforceBan, hfirewall]
      exact .ban _ _ (session.adds _ _ config.valid.banTimeout_ne_zero)
  | answer outcome =>
      rw [enact]
      rcases (server.judge arrival).2.runnerAfter_respond session
        arrival.sourceIp outcome arrival.now with hsame | ⟨rfl, hallow⟩
      · rw [hsame]
        exact .nothing _
      · rw [hallow, hfirewall]
        exact .allow _ _ (session.adds _ _ config.valid.ipTimeout_ne_zero)

end Server

end SshKnock
