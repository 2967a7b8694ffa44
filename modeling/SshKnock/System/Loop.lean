import SshKnock.Server.Serving
import SshKnock.System.StartUp

/-!
# The poll loop among the events

A daemon that polls a network and sends its commands to a kernel is the daemon
of a run of the system.  A packet that it processes is an event, before which
the time until then passes; whatever else ends the loop, such as a failing
socket call, stops the daemon.  The daemon reads the clock of its network, so
that clock and the kernel's have to be one.
-/

namespace SshKnock

open Fallible CommandRunner
open SshKnock.Firewall (bareHost)

/-! ## One packet and two runners -/

namespace Server

/-- A packet was handled alike with two runners: it sent the same command, or
none, to both of them. -/
inductive HandledAlike {R R' : Type} [CommandRunner R] [CommandRunner R']
    (runner : R) (runner' : R') :
    Ending × Server × R → Ending × Server × R' → Prop where
  | unsent (ending : Ending) (after : Server) :
      HandledAlike runner runner' (ending, after, runner)
        (ending, after, runner')
  | sent (spec : CommandSpec) (ending : Ending) (after : Server) :
      HandledAlike runner runner'
        (ending, after, (perform (run spec) runner).2)
        (ending, after, (perform (run spec) runner').2)

variable {R R' : Type} [CommandRunner R] [CommandRunner R'] (server : Server)
  (runner : R) (runner' : R')

theorem handledAlike_enforceBan (sourceIp : IpAddr)
    (hanswers : ∀ spec, (server.enforceBan runner sourceIp).2.2 =
      (perform (run spec) runner).2 →
        (perform (run spec) runner).1 = (perform (run spec) runner').1) :
    HandledAlike runner runner' (server.enforceBan runner sourceIp)
      (server.enforceBan runner' sourceIp) := by
  have hanswer := hanswers (server.firewall.banIpCommand sourceIp)
    (server.runnerAfter_enforceBan runner sourceIp)
  have hsent : ∀ ending after, HandledAlike runner runner'
      (ending, after,
        (perform (run (server.firewall.banIpCommand sourceIp)) runner).2)
      (ending, after,
        (perform (run (server.firewall.banIpCommand sourceIp)) runner').2) :=
    HandledAlike.sent _
  rw [enforceBan, enforceBan, Firewall.banIp, Firewall.banIp]
  generalize perform (run (server.firewall.banIpCommand sourceIp)) runner =
    left at hanswer hsent ⊢
  generalize perform (run (server.firewall.banIpCommand sourceIp)) runner' =
    right at hanswer hsent ⊢
  obtain ⟨result, after⟩ := left
  obtain ⟨_, after'⟩ := right
  obtain rfl := hanswer
  cases result <;> exact hsent _ _

theorem handledAlike_openFirewall (sourceIp : IpAddr)
    (hanswers : ∀ spec, (server.openFirewall runner sourceIp).2.2 =
      (perform (run spec) runner).2 →
        (perform (run spec) runner).1 = (perform (run spec) runner').1) :
    HandledAlike runner runner' (server.openFirewall runner sourceIp)
      (server.openFirewall runner' sourceIp) := by
  have hanswer := hanswers (server.firewall.addIpCommand sourceIp)
    (server.runnerAfter_openFirewall runner sourceIp)
  have hsent : ∀ ending after, HandledAlike runner runner'
      (ending, after,
        (perform (run (server.firewall.addIpCommand sourceIp)) runner).2)
      (ending, after,
        (perform (run (server.firewall.addIpCommand sourceIp)) runner').2) :=
    HandledAlike.sent _
  rw [openFirewall, openFirewall, Firewall.addIp, Firewall.addIp]
  generalize perform (run (server.firewall.addIpCommand sourceIp)) runner =
    left at hanswer hsent ⊢
  generalize perform (run (server.firewall.addIpCommand sourceIp)) runner' =
    right at hanswer hsent ⊢
  obtain ⟨result, after⟩ := left
  obtain ⟨_, after'⟩ := right
  obtain rfl := hanswer
  cases result with
  | ok => exact hsent _ _
  | error error =>
      simp only
      split <;> exact hsent _ _

/-- Runners that give the same answer to the command that a packet causes, if
it causes one, take the server through the packet alike. -/
theorem handledAlike_handle (arrival : Arrival)
    (hanswers : ∀ spec, (server.handle runner arrival).2.2 =
      (perform (run spec) runner).2 →
        (perform (run spec) runner).1 = (perform (run spec) runner').1) :
    HandledAlike runner runner' (server.handle runner arrival)
      (server.handle runner' arrival) := by
  rw [handle_eq] at hanswers
  rw [handle_eq, handle_eq]
  generalize (server.judge arrival).2 = judged at hanswers ⊢
  cases hjudgement : (server.judge arrival).1 with
  | ignore | abort => exact .unsent _ _
  | ban =>
      rw [hjudgement] at hanswers
      exact judged.handledAlike_enforceBan _ _ arrival.sourceIp hanswers
  | answer outcome =>
      rw [hjudgement] at hanswers
      simp only [enact, respond] at hanswers ⊢
      generalize judged.logPacketTelemetry arrival.sourceIp outcome
        arrival.now = logged at hanswers ⊢
      obtain ⟨_ | _, after⟩ := logged
      · exact .unsent _ _
      · simp only at hanswers ⊢
        split
        · next haccepted =>
            simp only [haccepted, if_true] at hanswers
            exact after.handledAlike_openFirewall _ _ arrival.sourceIp hanswers
        · exact .unsent _ _

end Server

/-! ## One kernel at two readings of the clock -/

theorem Kernel.now_execute (kernel : Kernel) (spec : CommandSpec) :
    (kernel.execute spec).2.now = kernel.now := by
  unfold Kernel.execute
  split
  · split
    · rfl
    · rw [Kernel.addEntry]
      split
      · rfl
      split <;> rfl
  · rfl
  · rfl
  · rfl

theorem Kernel.now_answer (kernel : Kernel) (spec : CommandSpec)
    (fault : Option Fault) :
    (kernel.answer spec fault).2.now = kernel.now := by
  cases fault with
  | none => exact kernel.now_execute spec
  | some fault =>
      cases fault with
      | notStarted error => rfl
      | exited code diagnostics =>
          rw [Kernel.answer]
          split
          · exact kernel.now_execute spec
          · rfl

namespace Session

/-- The instant at which the next command ends. -/
def due (session : Session) : ℕ :=
  session.kernel.now + (session.schedule.headD (0, none)).1

/-- The next command's time from `now` on, and its fate. -/
def next (session : Session) (now : ℕ) : List (ℕ × Option Fault) :=
  [(session.due - now, (session.schedule.headD (0, none)).2)]

theorem now_perform_run (session : Session) (spec : CommandSpec) :
    (perform (run spec) session).2.kernel.now = session.due := by
  rw [perform_run]
  exact Kernel.now_answer _ _ _

theorem reports_perform_run (session : Session) (spec : CommandSpec) :
    ∃ report, (perform (run spec) session).2.reports =
      session.reports ++ [report] := by
  rw [perform_run]
  exact ⟨_, rfl⟩

/-- The session in which the next command is sent to `kernel`. -/
def resumed (session : Session) (kernel : Kernel) : Session :=
  { kernel, schedule := session.next kernel.now, reports := [] }

/-- The same kernel answers a command that ends at the same instant alike,
whenever the command was sent. -/
theorem perform_run_resumed (session : Session) {kernel : Kernel}
    (hhost : kernel.host = session.kernel.host)
    (hentries : kernel.entries = session.kernel.entries)
    (hdue : kernel.now ≤ session.due) (spec : CommandSpec) :
    (perform (run spec) session).1 =
        (perform (run spec) (session.resumed kernel)).1 ∧
      (perform (run spec) session).2.kernel =
        (perform (run spec) (session.resumed kernel)).2.kernel := by
  have hkernel : kernel.elapse (session.due - kernel.now) =
      session.kernel.elapse (session.schedule.headD (0, none)).1 := by
    rw [Kernel.elapse, Nat.add_sub_cancel' hdue, hhost, hentries]
    rfl
  simp only [perform_run, execute, resumed, next, List.headD_cons, hkernel,
    and_self]

end Session

/-! ## The packets of the loop as events -/

/-- The packet without the network's note on it. -/
def Handed.untagged {Tag : Type} (found : Handed Tag) : Handed Unit :=
  ⟨found.arrival, (), found.before⟩

/-- The event is one of a running daemon: neither a setup nor a start. -/
def Event.isRunning {N : Type} : Event N → Bool
  | .setup _ | .start _ _ _ => false
  | _ => true

namespace Server

/-- When the packets are read and when the commands that they cause end, in the
order in which this happens. -/
def instants (server : Server) (session : Session) : List Arrival → List ℕ
  | [] => []
  | arrival :: arrivals =>
      let (_, after, sessionAfter) := server.handle session arrival
      arrival.now ::
        (sessionAfter.reports.drop session.reports.length).map
          (fun _ => sessionAfter.kernel.now) ++
        after.instants sessionAfter arrivals

variable {Tag : Type} {server before : Server} {session : Session}
  {sessionBefore : Session} {handed : List (Handed Tag)} {ending : Ending}

theorem Serves.instants_append
    (hserves : Serves server session handed ending before sessionBefore)
    (arrivals : List Arrival) :
    server.instants session (handed.map Handed.arrival ++ arrivals) =
      server.instants session (handed.map Handed.arrival) ++
        before.instants sessionBefore arrivals := by
  induction hserves generalizing arrivals with
  | nothing => rfl
  | next handed middle sessionMiddle _ arrival tag ending after sessionAfter
      hhandle ih =>
      have hrest : ∀ arrivals,
          middle.instants sessionMiddle (arrival :: arrivals) =
            middle.instants sessionMiddle [arrival] ++
              after.instants sessionAfter arrivals := by
        intro arrivals
        simp only [instants, hhandle, List.append_nil, List.cons_append]
      rw [List.map_append, List.map_singleton, List.append_assoc,
        List.singleton_append, ih, hrest, ih, List.append_assoc]

end Server

namespace System

variable {Tag : Type}

/-- The system runs this daemon, or none once a packet has ended it, and its
kernel is that of the session, at an instant of `instants`. -/
structure Mirrors (server : Server) (session : Session)
    (handed : List (Handed Tag)) (ending : Ending) (instants : List ℕ)
    (system : System) : Prop where
  daemon_eq : system.daemon = if ending = .ok then
    some ⟨server, handed.map Handed.untagged⟩ else none
  host_eq : system.kernel.host = session.kernel.host
  entries_eq : system.kernel.entries = session.kernel.entries
  now_le : session.kernel.now ≤ system.kernel.now
  now_mem : system.kernel.now ∈ instants

variable (N : Type) {Stream : Type} [Network N Stream Tag]
  (config : ValidConfig)

/-- The time until the packet is read passes, and it is processed. -/
def reading (system : System) (arrival : Arrival)
    (schedule : List (ℕ × Option Fault)) : List (Event N) :=
  [.elapse (arrival.now - system.kernel.now),
    .packet arrival.addr arrival.protocol arrival.port arrival.payloadSize
      schedule]

theorem run_reading {system : System} {server : Server}
    {served : List (Handed Unit)}
    (hdaemon : system.daemon = some ⟨server, served⟩) {arrival : Arrival}
    (hread : system.kernel.now ≤ arrival.now) (session : Session) :
    let waited := system.kernel.elapse (arrival.now - system.kernel.now)
    let handled := server.handle (session.resumed waited) arrival
    system.run config (system.reading N arrival (session.next arrival.now)) =
      { kernel := handled.2.2.kernel
        daemon := if handled.1 = .ok then
            some ⟨handled.2.1, served ++ [⟨arrival, (), server⟩]⟩
          else none } := by
  have hwaited : system.kernel.now + (arrival.now - system.kernel.now) =
      arrival.now := Nat.add_sub_cancel' hread
  simp only [reading, run, List.foldl_cons, List.foldl_nil, step, hdaemon,
    Kernel.elapse, System.session, Session.resumed, hwaited]
  rfl

/-- A packet of the loop is two events. -/
theorem Mirrors.packet {system : System} {server after : Server}
    {session sessionAfter : Session} {handed : List (Handed Tag)}
    {instants : List ℕ} {ending : Ending}
    (hmirrors : Mirrors server session handed .ok instants system)
    {arrival : Arrival} (tag : Tag)
    (hhandle : server.handle session arrival = (ending, after, sessionAfter))
    (hordered : (instants ++ server.instants session [arrival]).Pairwise
      (· ≤ ·)) :
    Mirrors after sessionAfter (handed ++ [⟨arrival, tag, server⟩]) ending
      (instants ++ server.instants session [arrival])
      (system.run config
        (system.reading N arrival (session.next arrival.now))) := by
  have hinstants : server.instants session [arrival] = arrival.now ::
      (sessionAfter.reports.drop session.reports.length).map
        fun _ => sessionAfter.kernel.now := by
    rw [Server.instants, hhandle]
    exact List.append_nil _
  rw [hinstants] at hordered ⊢
  have hread : system.kernel.now ≤ arrival.now :=
    (List.pairwise_append.mp hordered).2.2 _ hmirrors.now_mem _
      List.mem_cons_self
  rw [run_reading N config hmirrors.daemon_eq hread]
  generalize hkernel :
    system.kernel.elapse (arrival.now - system.kernel.now) = waited
  have hwaited : waited.now = arrival.now :=
    hkernel ▸ Nat.add_sub_cancel' hread
  have hhost : waited.host = session.kernel.host :=
    hkernel ▸ hmirrors.host_eq
  have hentries : waited.entries = session.kernel.entries :=
    hkernel ▸ hmirrors.entries_eq
  -- The clock orders the packet before the end of its command.
  have hsent : ∀ spec,
      sessionAfter = (perform (CommandRunner.run spec) session).2 →
        waited.now ≤ session.due ∧
          session.due ∈ (sessionAfter.reports.drop session.reports.length).map
            fun _ => sessionAfter.kernel.now := by
    rintro spec hspec
    obtain ⟨report, hreports⟩ := session.reports_perform_run spec
    rw [hspec, session.now_perform_run, hreports, List.drop_left,
      List.map_singleton] at hordered ⊢
    have hlast := (List.pairwise_append.mp hordered).2.1
    rw [List.pairwise_cons] at hlast
    exact ⟨hwaited.trans_le (hlast.1 _ (List.mem_singleton_self _)),
      List.mem_singleton_self _⟩
  have halike :=
    server.handledAlike_handle session (session.resumed waited) arrival
  rw [hhandle] at halike
  specialize halike fun spec hspec =>
    (session.perform_run_resumed hhost hentries (hsent spec hspec).1 spec).1
  generalize server.handle (session.resumed waited) arrival = handled
    at halike ⊢
  cases halike with
  | unsent =>
      refine ⟨by rw [List.map_append]; rfl, hhost, hentries, ?_, ?_⟩
      · exact hmirrors.now_le.trans (hread.trans hwaited.ge)
      · exact List.mem_append_right _ (hwaited ▸ List.mem_cons_self)
  | sent spec =>
      obtain ⟨hdue, hmem⟩ := hsent spec rfl
      obtain ⟨-, hsame⟩ :=
        session.perform_run_resumed hhost hentries hdue spec
      refine ⟨by rw [List.map_append]; rfl, ?_, ?_, ?_, ?_⟩
      · simp only [hsame]
      · simp only [hsame]
      · simp only [hsame, le_refl]
      · rw [← session.now_perform_run spec] at hmem
        simp only [← hsame]
        exact List.mem_append_right _ (List.mem_cons_of_mem _ hmem)

/-- Packets served one by one are events of the system. -/
theorem exists_mirrors {server before : Server}
    {session sessionBefore : Session} {handed : List (Handed Tag)}
    {ending : Ending}
    (hserves : Server.Serves server session handed ending before
      sessionBefore)
    (hordered : (session.kernel.now ::
      server.instants session (handed.map Handed.arrival)).Pairwise (· ≤ ·)) :
    ∃ events : List (Event N), (∀ event ∈ events, event.isRunning = true) ∧
      Mirrors before sessionBefore handed ending (session.kernel.now ::
          server.instants session (handed.map Handed.arrival))
        (({ kernel := session.kernel, daemon := some ⟨server, []⟩ } :
          System).run config events) := by
  induction hserves with
  | nothing =>
      exact ⟨[], by simp, rfl, rfl, rfl, le_refl _, List.mem_cons_self⟩
  | next handed middle sessionMiddle hearlier arrival tag ending after
      sessionAfter hhandle ih =>
      rw [List.map_append, List.map_singleton, hearlier.instants_append,
        ← List.cons_append] at hordered ⊢
      obtain ⟨events, hevents, hmirrors⟩ :=
        ih (List.pairwise_append.mp hordered).1
      have hafter := hmirrors.packet N config tag hhandle hordered
      rw [← run_append] at hafter
      refine ⟨_, List.forall_mem_append.mpr ⟨hevents, ?_⟩, hafter⟩
      simp [reading, Event.isRunning]

/-! ## The loop as a run -/

variable {N} (system : System) (device : LogDevice) (network : N)
  (schedule : List (ℕ × Option Fault)) (count : ℕ)

/-- The daemon from its start through `count` passes of its loop, with its
commands sent to the kernel of the system. -/
def loop : Except Ending (List (PendingTcp Stream)) × Daemon N Session Tag :=
  perform (Daemon.run config.toConfig count)
    (system.launched config device network schedule)

/-- The clock that the daemon reads and that of the kernel are one: from the
start-up on, what happens later never happens at an earlier instant. -/
def OneClock : Prop :=
  let booted := (perform (Daemon.startUp config.toConfig)
    (system.launched config device network schedule)).2
  (booted.runner.kernel.now :: booted.server.instants booted.runner
    ((system.loop config device network schedule count).2.handed.map
      Handed.arrival)).Pairwise (· ≤ ·)

instance : Decidable (system.OneClock config device network schedule count) :=
  inferInstanceAs (Decidable (List.Pairwise _ _))

/-- The system ends where the daemon does: it runs no daemon once the loop has
ended, and but for the time since the last command it has the same kernel. -/
structure EndsAs {α : Type} (ended : Except Ending α × Daemon N Session Tag)
    (system : System) : Prop where
  daemon_eq : system.daemon = if ended.1.isOk = true then
    some ⟨ended.2.server, ended.2.handed.map Handed.untagged⟩ else none
  host_eq : system.kernel.host = ended.2.runner.kernel.host
  entries_eq : system.kernel.entries = ended.2.runner.kernel.entries
  now_le : ended.2.runner.kernel.now ≤ system.kernel.now

/-- Whatever the network does, start-up and loop are a run of the system without
setups and further starts; when a failing socket call ends the loop, the run
ends with a stop. -/
theorem loop_is_run (hstopped : system.daemon = none)
    (hclock : system.OneClock config device network schedule count) :
    ∃ events : List (Event N), (∀ event ∈ events, event.isRunning = true) ∧
      EndsAs (system.loop config device network schedule count)
        (system.run config (.start device network schedule :: events)) := by
  have hunserved := Daemon.triple_unserved_startUp config device
    (system.launched config device network schedule) ⟨rfl, _, rfl, rfl⟩
  have hstart : (system.step config (.start device network schedule)).1 =
      let (result, daemon) := perform (Daemon.startUp config.toConfig)
        (system.launched config device network schedule)
      { kernel := daemon.runner.kernel
        daemon := result.toOption.map fun _ => ⟨daemon.server, []⟩ } := by
    rw [step, hstopped]
  simp only [OneClock, loop, Daemon.run, perform_bind] at hclock ⊢
  change ∃ events : List (Event N), _ ∧ EndsAs _
    ((system.step config (.start device network schedule)).1.run config events)
  rw [hstart]
  generalize perform (Daemon.startUp config.toConfig)
    (system.launched config device network schedule) = result
    at hunserved hclock ⊢
  obtain ⟨error | sockets, booted⟩ := result
  · exact ⟨[], by simp, rfl, rfl, rfl, le_refl _⟩
  have hpasses := Daemon.triple_serving_passes config.toConfig sockets booted
    count booted ⟨[], (List.append_nil _).symm, .nothing, by simp⟩
  simp only at hclock ⊢
  generalize perform (Daemon.passes config.toConfig sockets count []) booted =
    result at hpasses hclock ⊢
  obtain ⟨ended, after⟩ := result
  have hrun : ∀ {handed ending},
      Daemon.Served sockets booted handed ending after →
        ∃ (events : List (Event N)) (instants : List ℕ),
          (∀ event ∈ events, event.isRunning = true) ∧
            Mirrors after.server after.runner after.handed ending instants
              (({ kernel := booted.runner.kernel
                  daemon := some ⟨booted.server, []⟩ } : System).run config
                events) := by
    intro handed ending hserved
    have hall := hserved.handed_eq
    rw [hunserved.1, List.nil_append] at hall
    rw [hall] at hclock ⊢
    obtain ⟨events, hevents, hmirrors⟩ :=
      exists_mirrors N config hserved.serves hclock
    exact ⟨events, _, hevents, hmirrors⟩
  cases ended with
  | ok pending =>
      obtain ⟨handed, hserved⟩ := hpasses
      obtain ⟨events, instants, hevents, hmirrors⟩ := hrun hserved
      exact ⟨events, hevents, hmirrors.daemon_eq, hmirrors.host_eq,
        hmirrors.entries_eq, hmirrors.now_le⟩
  | error error =>
      obtain ⟨handed, ending, hserved⟩ := hpasses
      obtain ⟨events, instants, hevents, hmirrors⟩ := hrun hserved
      refine ⟨events ++ [.stop], List.forall_mem_append.mpr ⟨hevents, ?_⟩, ?_⟩
      · exact List.forall_mem_singleton.mpr rfl
      · rw [run_concat]
        exact ⟨rfl, hmirrors.host_eq, hmirrors.entries_eq, hmirrors.now_le⟩

/-- Two oversized datagrams of one source, and a connection that is accepted
when the clock is at its end. -/
def oversizedThenConnect : Queues :=
  .empty (fun reading => if reading < 3 then reading else Instant.max)
    [[], [], [],
      [.datagram 7002 ⟨KnockTracker.testSource 10, 12345⟩ 513,
        .datagram 7002 ⟨KnockTracker.testSource 10, 12345⟩ 513],
      [], [], [], [],
      [.connect 7001 ⟨7001, ⟨KnockTracker.testSource 20, 12345⟩⟩]]

/-- A host that has been set up, and no daemon yet. -/
def setUpSystem : System :=
  (quiet bareHost 0).run testConfig [(.setup [] : Event Queues)]

/-- Three commands look at the firewall, the fourth is the ban. -/
def banSchedule : List (ℕ × Option Fault) :=
  [(0, none), (0, none), (0, none), (5, none)]

/-- The daemon bans the source and aborts at the connection: a run that ends
with a stop. -/
theorem loop_is_run_aborted :
    (setUpSystem.loop testConfig .writable oversizedThenConnect banSchedule
        2).1.isOk = false ∧
      ∃ events : List (Event Queues),
        (∀ event ∈ events, event.isRunning = true) ∧
          EndsAs (setUpSystem.loop testConfig .writable oversizedThenConnect
              banSchedule 2)
            (setUpSystem.run testConfig
              (.start .writable oversizedThenConnect banSchedule ::
                events)) :=
  ⟨by decide +kernel, loop_is_run testConfig setUpSystem .writable
    oversizedThenConnect banSchedule 2 (by decide +kernel)
    (by decide +kernel)⟩

/-- However the loop ended on a host that was set up once, a start that nothing
hinders leaves a running daemon. -/
theorem restarts_after_loop (host : Host) (now : ℕ) (events : List (Event N))
    (hsetUp : SetUp config (quiet host now) events)
    (hstopped : ((quiet host now).run config events).daemon = none)
    (hclock : ((quiet host now).run config events).OneClock config device
      network schedule count) (later : N)
    (undisturbed : List (ℕ × Option Fault)) (Free : N → Prop)
    (hwritable : ∀ write, device.failure write = none)
    (hbindable : Daemon.Bindable Free) (hfree : Free later)
    (hundisturbed : ∀ next ∈ undisturbed, next.2 = none) :
    let ended := ((quiet host now).run config events).loop config device
      network schedule count
    (({ kernel := ended.2.runner.kernel, daemon := none } : System).step config
      (.start device later undisturbed)).1.daemon ≠ none := by
  obtain ⟨looped, -, hends⟩ := loop_is_run config
    ((quiet host now).run config events) device network schedule count hstopped
    hclock
  have hfurnished := furnished_setupOnce config host
  rw [← (host_run config host now _).2 (hsetUp.append
    (.start device network schedule :: looped)), run_append,
    hends.host_eq] at hfurnished
  exact running_of_furnished rfl hwritable hbindable hfree hundisturbed
    hfurnished

end System

end SshKnock
