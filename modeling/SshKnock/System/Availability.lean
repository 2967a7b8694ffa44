import SshKnock.Server.AcceptanceOrder
import SshKnock.Server.Steering
import SshKnock.System.StartUp

/-!
# A knock opens the port

Who completes a knock gets in: when a source that is not banned and finds room
spells the sequence in time, and the command that lets it in meets no fault,
then the chain lets its packets to the SSH port through until the allow timeout
has passed.  Nothing that others send in between or that happens afterwards
prevents it, except a ban of the source.
-/

namespace SshKnock

open Fallible
open SshKnock.Firewall (bareHost)

/-! ## What the running daemon has served -/

namespace Server

variable {Tag : Type} {config : Config} {server after : Server}

/-- The later ones of consecutive packets are consecutive. -/
theorem Consecutive.drop {earlier later : List (Handed Tag)}
    (hserver : Configured config server)
    (hhanded : server.Consecutive (earlier ++ later) after) :
    ∃ reached, Configured config reached ∧ reached.Consecutive later after := by
  induction earlier generalizing server with
  | nil => exact ⟨server, hserver, hhanded⟩
  | cons first earlier ih => exact ih (hserver.judge first.arrival) hhanded.2

end Server

namespace System

variable {N Stream Tag : Type} [Network N Stream Tag] {config : ValidConfig}
  {system : System}

/-- The daemon's memory is what the packets it has served have made of the
memory it started with, in the order of the clock. -/
def Remembered (config : ValidConfig) (system : System) : Prop :=
  ∀ process ∈ system.daemon,
    (∃ device, (Server.started config device).Consecutive process.served
      process.server) ∧
    (process.served.Pairwise fun earlier later =>
      earlier.arrival.now ≤ later.arrival.now) ∧
    ∀ handed ∈ process.served, handed.arrival.now ≤ system.kernel.now

theorem Remembered.step (hremembered : Remembered config system)
    (hconsistent : Consistent config system) (event : Event N) :
    Remembered config (system.step config event).1 := by
  have hlater := hconsistent.now_le event
  intro process hprocess
  cases proceeds (Option.mem_def.mp hprocess) with
  | started device _ _ _ _ hsame hserved =>
      rw [hserved]
      exact ⟨⟨device, hsame⟩, .nil, fun _ hmem => absurd hmem (by simp)⟩
  | kept _ _ hold =>
      obtain ⟨hserved, hordered, hpast⟩ := hremembered process hold
      exact ⟨hserved, hordered, fun handed hmem =>
        (hpast handed hmem).trans hlater⟩
  | processed addr protocol port payloadSize _ old _ hold hsame hserved =>
      obtain ⟨⟨device, hconsecutive⟩, hordered, hpast⟩ := hremembered old hold
      rw [hserved]
      refine ⟨⟨device, hconsecutive.concat (.refl _) hsame⟩, ?_, ?_⟩
      · exact List.pairwise_append.mpr ⟨hordered, List.pairwise_singleton _ _,
          fun handed hmem last hlast => by
            rw [List.mem_singleton.mp hlast]
            exact hpast handed hmem⟩
      · exact List.forall_mem_append.mpr
          ⟨fun handed hmem => (hpast handed hmem).trans hlater,
            List.forall_mem_singleton.mpr hlater⟩

theorem remembered_run (config : ValidConfig) (host : Host) (now : ℕ)
    (events : List (Event N)) :
    Remembered config ((quiet host now).run config events) := by
  induction events using List.reverseRecOn with
  | nil => rintro process ⟨⟩
  | append_singleton events event ih =>
      rw [run_concat]
      exact ih.step ((consistent_quiet config host now).run events) event

/-- A daemon that was started with a writable log can write its log. -/
theorem writable_run {events : List (Event N)}
    (hdevices : ∀ device network schedule,
      Event.start device network schedule ∈ events →
        ∀ write, device.failure write = none) (host : Host) (now : ℕ) :
    ∀ process ∈ ((quiet host now).run config events).daemon,
      process.server.Writable := by
  induction events using List.reverseRecOn with
  | nil => rintro process ⟨⟩
  | append_singleton events event ih =>
      intro process hprocess
      have hearlier := ih fun device network schedule hmem =>
        hdevices device network schedule (List.mem_append_left _ hmem)
      rw [run_concat] at hprocess
      cases proceeds (Option.mem_def.mp hprocess) with
      | started device network schedule _ _ hsame =>
          exact hsame.writable (hdevices device network schedule
            (List.mem_append_right _ (List.mem_singleton_self _)))
      | kept _ _ hold => exact hearlier process hold
      | processed _ _ _ _ _ old _ hold hsame =>
          exact hsame.writable ((hearlier old hold).judge _)

/-! ## The knock -/

/-- Among the packets, those of the source spell the sequence in time, and the
first of them finds the source not banned and room for it. -/
structure Knocks (config : ValidConfig) (sourceIp : IpAddr)
    (recent : List (Handed Unit)) : Prop where
  welcome : ∀ first ∈ (Handed.own sourceIp recent).head?, first.Welcome
  inTime : config.knockRules.InTime
    ((Handed.own sourceIp recent).map fun found => found.arrival.now)
  spelled : (Handed.own sourceIp recent).map
    (fun found => found.arrival.packet.spelled) = config.knock.sequence

instance (config : ValidConfig) (sourceIp : IpAddr)
    (recent : List (Handed Unit)) :
    Decidable (Knocks config sourceIp recent) :=
  decidable_of_iff
    ((∀ first ∈ (Handed.own sourceIp recent).head?, first.Welcome) ∧
      config.knockRules.InTime
        ((Handed.own sourceIp recent).map fun found => found.arrival.now) ∧
      (Handed.own sourceIp recent).map
        (fun found => found.arrival.packet.spelled) = config.knock.sequence)
    ⟨fun ⟨hwelcome, hinTime, hspelled⟩ => ⟨hwelcome, hinTime, hspelled⟩,
      fun hknocks => ⟨hknocks.welcome, hknocks.inTime, hknocks.spelled⟩⟩

variable {process : Process} {arrival : Arrival}
  {recent : List (Handed Unit)}

/-- The packet that completes a knock is accepted, whatever others have sent
in between. -/
theorem Knocks.accepted
    (hknocks : Knocks config arrival.sourceIp recent)
    (hremembered : Remembered config system)
    (hprocess : system.daemon = some process)
    (hnow : arrival.now = system.kernel.now)
    (hfirstStep : ∀ first ∈ config.knock.sequence.head?,
      first.protocol ≠ .icmp)
    (hrecent : recent <:+ process.served ++ [⟨arrival, (), process.server⟩]) :
    (process.server.judge arrival).1 = .answer .accepted := by
  obtain ⟨⟨device, hconsecutive⟩, hordered, hpast⟩ :=
    hremembered process hprocess
  obtain ⟨earlier, hsplit⟩ := hrecent
  let last : Handed Unit := ⟨arrival, (), process.server⟩
  have hserved : (Server.started config device).Consecutive
      (process.served ++ [last]) (process.server.judge arrival).2 :=
    hconsecutive.concat (.refl _) (.refl _)
  have hchronological : (process.served ++ [last]).Pairwise
      fun earlier later => earlier.arrival.now ≤ later.arrival.now := by
    refine List.pairwise_append.mpr ⟨hordered, List.pairwise_singleton _ _, ?_⟩
    intro handed hmem found hfound
    rw [List.mem_singleton.mp hfound]
    exact (hpast handed hmem).trans hnow.ge
  rw [← hsplit] at hserved hchronological
  obtain ⟨reached, hreached, hrecent⟩ := Server.Consecutive.drop
    (Server.configured_started config device) hserved
  have hanswers := Server.answers_of_spelled config hreached hrecent
    (List.pairwise_append.mp hchronological).2.1 hfirstStep hknocks.welcome
    hknocks.inTime hknocks.spelled
  obtain ⟨-, found, hfound, haccepted⟩ :=
    Daemon.recognised_of_answers hknocks.spelled hanswers
  have hlast : (Handed.own arrival.sourceIp recent).getLast? = some last := by
    rcases List.eq_nil_or_concat' recent with rfl | ⟨front, final, rfl⟩
    · cases hfound
    · rw [← List.append_assoc] at hsplit
      obtain ⟨-, hfinal⟩ := List.append_inj' hsplit rfl
      obtain rfl := List.singleton_inj.mp hfinal
      rw [show arrival.sourceIp = last.sourceIp from rfl,
        Handed.own_append_self, List.getLast?_concat]
  obtain rfl := Option.some.inj (hlast.symm.trans hfound)
  exact (process.server.judge_accepted_iff arrival).mpr haccepted

variable {addr : SocketAddr} {protocol : Protocol} {port : Option UInt16}
  {payloadSize : ℕ} {schedule : List (ℕ × Option Fault)}

/-- An acceptance has its source added, if the log can be written and nothing
befalls the command. -/
theorem succeeded_of_accepted (hconsistent : Consistent config system)
    (hprocess : system.daemon = some process)
    (haccepted : (process.server.judge
      ⟨system.kernel.now, addr, protocol, port, payloadSize⟩).1 =
        .answer .accepted)
    (hwritable : process.server.Writable)
    (htakes : system.kernel.Takes config.ipsetName addr.ip)
    (hundisturbed : (schedule.headD (0, none)).2 = none) :
    Report.Succeeded (config.allowList.command addr.ip)
      (system.step config (.packet addr protocol port payloadSize schedule :
        Event N)).2 := by
  let arrival : Arrival :=
    ⟨system.kernel.now, addr, protocol, port, payloadSize⟩
  have hserver := (hconsistent process hprocess).configured.judge arrival
  have htelemetry := (process.server.judge
    arrival).2.sameMemory_logPacketTelemetry arrival.sourceIp .accepted
      arrival.now
  have hadded := (system.session schedule).perform_add_of_no_fault
    (Prod.ext rfl hundisturbed) htakes config.valid.ipTimeout_ne_zero
  have hrunner : (process.server.handle (system.session schedule)
      arrival).2.2 = (perform (config.firewall.addIp addr.ip)
        (system.session schedule)).2 := by
    rw [Server.handle_eq, haccepted, Server.enact,
      (hwritable.judge arrival).respond_accepted,
      Server.runnerAfter_openFirewall, htelemetry.firewall_eq,
      hserver.firewall_eq]
    rfl
  have hreports : (system.step config
      (.packet addr protocol port payloadSize schedule : Event N)).2 =
        (process.server.handle (system.session schedule)
          arrival).2.2.reports := by
    rw [step, hprocess]
  rw [hreports, hrunner, Firewall.addIp, Firewall.addIpCommand_eq]
  refine ⟨Host.succeeded, ?_, rfl⟩
  rw [show config.firewall.ipsetName = config.ipsetName from rfl,
    show config.firewall.ipTimeout = config.ipTimeout from rfl, hadded]
  exact List.mem_append_right _ (List.mem_singleton_self _)

/-- Who knocks gets in: the packet that completes a knock opens the SSH port to
its source until the allow timeout, whatever happens meanwhile, as long as the
ban set does not hold the source. -/
theorem knock_opens_port (config : ValidConfig) (host : Host) (now : ℕ)
    (events later : List (Event N)) (process : Process) (addr : SocketAddr)
    (protocol : Protocol) (port : Option UInt16) (payloadSize : ℕ)
    (schedule : List (ℕ × Option Fault)) (recent : List (Handed Unit))
    (hready : Ready config host)
    (hdedicated : host.Dedicated config.ipsetName config.addressFamily)
    (hnames : config.ipsetName ≠ config.banIpsetName)
    (hfirstStep : ∀ first ∈ config.knock.sequence.head?,
      first.protocol ≠ .icmp)
    (hsetUp : SetUp config (quiet host now) events)
    (hprocess : ((quiet host now).run config events).daemon = some process)
    (hwritable : process.server.Writable)
    (hfamily : addr.ip.family = config.addressFamily)
    (hundisturbed : (schedule.headD (0, none)).2 = none)
    (hrecent : recent <:+ process.served ++
      [⟨⟨((quiet host now).run config events).kernel.now, addr, protocol, port,
        payloadSize⟩, (), process.server⟩])
    (hknocks : Knocks config addr.ip recent)
    (hlive : ((quiet host now).run config (events ++
          .packet addr protocol port payloadSize schedule ::
            later)).kernel.now <
      ((quiet host now).run config (events ++
          [.packet addr protocol port payloadSize schedule])).kernel.now +
        Duration.fromSecs config.ipTimeout)
    (hfree : ((quiet host now).run config (events ++
        .packet addr protocol port payloadSize schedule ::
          later)).kernel.members config.banIpsetName addr.ip = false)
    (otherwise : Verdict) :
    ((quiet host now).run config (events ++
        .packet addr protocol port payloadSize schedule :: later)).sshVerdict
      config otherwise addr.ip = .accept := by
  have hquiet := consistent_quiet config host now
  have hconsistent := hquiet.run events
  have haccepted := hknocks.accepted (remembered_run config host now events)
    hprocess rfl hfirstStep hrecent
  have htakes : ((quiet host now).run config events).kernel.Takes
      config.ipsetName addr.ip :=
    ((serviceable_run hdedicated now events).takes_iff (by simp [hprocess])
      addr.ip).mpr hfamily
  have hexecuted : Executed config (quiet host now) (events ++
      .packet addr protocol port payloadSize schedule :: later)
        (config.allowList.command addr.ip) _ :=
    ⟨events, _, later, rfl, succeeded_of_accepted hconsistent hprocess
      haccepted hwritable htakes hundisturbed, rfl⟩
  have hheld := ((ledger_run config host now _).members_iff hnames
    (Or.inl rfl) addr.ip).mpr ⟨_, hexecuted, hlive⟩
  have hheld : ((quiet host now).run config (events ++
      .packet addr protocol port payloadSize schedule ::
        later)).kernel.members config.firewall.ipsetName addr.ip = true := hheld
  have hfree : ((quiet host now).run config (events ++
      .packet addr protocol port payloadSize schedule ::
        later)).kernel.members config.firewall.banIpsetName addr.ip = false :=
    hfree
  rw [sshVerdict_eq hready (hsetUp.append _), Firewall.intendedVerdict, hheld,
    hfree]
  rfl

/-- All but the last step of a knock, with a packet of another source in
between. -/
def almostKnocked : List (Event Queues) :=
  [.setup [], .start .writable (.empty (fun _ => 0) []) [],
    .packet ⟨KnockTracker.testSource 10, 12345⟩ .tcp (some 7001) 1 [],
    .packet ⟨KnockTracker.testSource 20, 12345⟩ .udp (some 7002) 2 [],
    .elapse 1000000000,
    .packet ⟨KnockTracker.testSource 10, 12345⟩ .udp (some 7002) 2 []]

theorem writable_almostKnocked : ∀ device network schedule,
    Event.start device network schedule ∈ almostKnocked →
      ∀ write, device.failure write = none := by
  intro device network schedule hmem
  simp only [almostKnocked, List.mem_cons, List.not_mem_nil, or_false,
    reduceCtorEq, Event.start.injEq, false_or] at hmem
  rw [hmem.1]
  exact fun _ => rfl

/-- The last step, after which the daemon is stopped and two seconds pass. -/
def lastStep : List (Event Queues) :=
  [.packet ⟨KnockTracker.testSource 10, 12345⟩ .tcp (some 7003) 3 [],
    .stop, .elapse 2000000000]

/-- The source has knocked, and the port is open to it although the daemon was
stopped. -/
theorem knock_opens_port_after_stop :
    ((quiet bareHost 0).run testConfig (almostKnocked ++ lastStep)).sshVerdict
      testConfig .drop (KnockTracker.testSource 10) = .accept := by
  have hserved : ((quiet bareHost 0).run testConfig
      almostKnocked).daemon.any (fun process =>
        decide (Knocks testConfig (KnockTracker.testSource 10)
          (process.served ++ [⟨⟨((quiet bareHost 0).run testConfig
              almostKnocked).kernel.now, ⟨KnockTracker.testSource 10, 12345⟩,
            .tcp, some 7003, 3⟩, (), process.server⟩]))) = true := by
    decide +kernel
  rw [Option.any_eq_true] at hserved
  obtain ⟨process, hprocess, hknocks⟩ := hserved
  refine knock_opens_port testConfig bareHost 0 almostKnocked _ process
    ⟨KnockTracker.testSource 10, 12345⟩ .tcp (some 7003) 3 [] _
    (ready_bareHost testConfig) ?_ (by decide) (by decide)
    (setUp_of_setup testConfig _ [] _) hprocess
    (writable_run ?_ bareHost 0 process hprocess) rfl rfl (List.suffix_refl _)
    (of_decide_eq_true hknocks) ?_ ?_ .drop
  · intro declared hget
    cases hget
  · exact writable_almostKnocked
  · decide +kernel
  · decide +kernel

end System

end SshKnock
