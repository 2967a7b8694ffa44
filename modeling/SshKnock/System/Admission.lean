import SshKnock.Server.ArrivalOrder
import SshKnock.System.Grants

/-!
# Who reaches the SSH port

Once a setup has succeeded, the chain lets a packet to the SSH port through
exactly when the daemon has allowed its source within the allow timeout and has
not banned it within the ban timeout.  So only who has just knocked gets in,
and without the daemon the port closes by itself.
-/

namespace SshKnock

open Fallible
open SshKnock.Firewall (bareHost)
open SshKnock.KnockRules (EndsInKnock)

namespace System

variable {N Stream Tag : Type} [Network N Stream Tag] {config : ValidConfig}

/-! ## The chain -/

/-- A setup has succeeded at some point of the run. -/
def SetUp (config : ValidConfig) (system : System) (events : List (Event N)) :
    Prop :=
  ∃ earlier schedule later, events = earlier ++ .setup schedule :: later ∧
    (perform (config.firewall.setup config.sshPort)
      ((system.run config earlier).session schedule)).1 = .ok ()

theorem setUp_concat_iff {system : System} {events : List (Event N)}
    {event : Event N} :
    SetUp config system (events ++ [event]) ↔
      SetUp config system events ∨ ∃ schedule, event = .setup schedule ∧
        (perform (config.firewall.setup config.sshPort)
          ((system.run config events).session schedule)).1 = .ok () := by
  constructor
  · rintro ⟨earlier, schedule, later, hsplit, hok⟩
    rcases List.eq_nil_or_concat' later with rfl | ⟨middle, last, rfl⟩
    · obtain ⟨rfl, hlast⟩ := List.append_inj' hsplit rfl
      exact Or.inr ⟨schedule, List.singleton_inj.mp hlast, hok⟩
    · rw [← List.cons_append, ← List.append_assoc] at hsplit
      obtain ⟨rfl, -⟩ := List.append_inj' hsplit rfl
      exact Or.inl ⟨earlier, schedule, middle, rfl, hok⟩
  · rintro (⟨earlier, schedule, later, rfl, hok⟩ | ⟨schedule, rfl, hok⟩)
    · exact ⟨earlier, schedule, later ++ [event],
        by rw [List.append_assoc, List.cons_append], hok⟩
    · exact ⟨events, schedule, [], rfl, hok⟩

theorem SetUp.append {system : System} {events : List (Event N)}
    (hsetUp : SetUp config system events) (later : List (Event N)) :
    SetUp config system (events ++ later) := by
  obtain ⟨earlier, schedule, rest, rfl, hok⟩ := hsetUp
  exact ⟨earlier, schedule, rest ++ later,
    by rw [List.append_assoc, List.cons_append], hok⟩

/-- A setup does to the host what it does to a host alone. -/
theorem host_setup (config : ValidConfig) (system : System)
    (schedule : List (ℕ × Option Fault)) :
    (perform (config.firewall.setup config.sshPort)
        (system.session schedule)).1 =
        (config.firewall.setupWith config.sshPort (schedule.map Prod.snd)
          system.kernel.host).1 ∧
      (system.step config (.setup schedule : Event N)).1.kernel.host =
        (config.firewall.setupWith config.sshPort (schedule.map Prod.snd)
          system.kernel.host).2.host := by
  obtain ⟨hresult, hafter⟩ := config.firewall.perform_setup config.sshPort
    (system.session schedule) (by simp [session])
  exact ⟨hresult, hafter.host_eq⟩

/-- Nothing else touches the host. -/
theorem Consistent.host_step {system : System}
    (hsystem : Consistent config system) {event : Event N}
    (hother : ∀ schedule, event ≠ .setup schedule) :
    (system.step config event).1.kernel.host = system.kernel.host := by
  have hstepped := hsystem.stepped event
  generalize system.step config event = result at hstepped ⊢
  cases hstepped with
  | other _ _ _ _ hhost => exact hhost
  | setup schedule => exact absurd rfl (hother schedule)
  | added _ _ _ _ _ _ _ _ _ _ _ hkernel =>
      rw [hkernel]
      rfl

/-- What the steps of a setup do to a host, every event does. -/
theorem Consistent.host_step_relates {system : System}
    (hsystem : Consistent config system) {Relates : Host → Host → Prop}
    (hrefl : ∀ host, Relates host host)
    (htrans : ∀ {first second third}, Relates first second →
      Relates second third → Relates first third)
    (hsteps : ∀ step ∈ config.firewall.setupSteps config.sshPort, ∀ host,
      Relates host (step host)) (event : Event N) :
    Relates system.kernel.host (system.step config event).1.kernel.host := by
  cases event with
  | setup schedule =>
      rw [(host_setup config system schedule).2]
      exact config.firewall.setupWith_relates _ hrefl htrans hsteps _ _
  | elapse | start | packet | stop =>
      rw [hsystem.host_step (by simp)]
      exact hrefl _

/-- The host is what setups, failed or not, have made of it; one that succeeds
completes it for good. -/
theorem host_run (config : ValidConfig) (host : Host) (now : ℕ)
    (events : List (Event N)) :
    (∃ schedules, ((quiet host now).run config events).kernel.host =
        config.firewall.setupAfter config.sshPort schedules host) ∧
      (SetUp config (quiet host now) events →
        ((quiet host now).run config events).kernel.host =
          config.firewall.setupOnce config.sshPort host) := by
  induction events using List.reverseRecOn with
  | nil =>
      refine ⟨⟨[], rfl⟩, ?_⟩
      rintro ⟨earlier, schedule, later, hsplit, -⟩
      exact absurd hsplit.symm (List.append_ne_nil_of_right_ne_nil _
        (List.cons_ne_nil _ _))
  | append_singleton events event ih =>
      obtain ⟨⟨schedules, hschedules⟩, hdone⟩ := ih
      have hconsistent :=
        (consistent_quiet config host now).run events
      rw [run_concat, setUp_concat_iff]
      by_cases hsetup : ∃ schedule, event = .setup schedule
      · obtain ⟨schedule, rfl⟩ := hsetup
        obtain ⟨hresult, hhost⟩ := host_setup (N := N) config
          ((quiet host now).run config events) schedule
        have hattempts := config.firewall.attempts_setup config.sshPort
        rw [hhost]
        refine ⟨⟨schedules ++ [schedule.map Prod.snd], ?_⟩, ?_⟩
        · rw [hschedules, Firewall.setupAfter, Firewall.setupAfter,
            List.foldl_concat]
        rintro (hearlier | ⟨found, hfound, hok⟩)
        -- An interrupted setup leaves a complete host alone.
        · obtain ⟨count, hcount⟩ := hattempts.stops
            ⟨((quiet host now).run config events).kernel.host,
              schedule.map Prod.snd, []⟩
          refine hcount.trans ?_
          rw [hdone hearlier, Firewall.setupOnce_eq,
            (config.firewall.recoverable_setupSteps _).run_take_run]
        · cases hfound
          rw [hresult] at hok
          refine (hattempts.finishes _ hok).trans ?_
          rw [← Firewall.setupOnce_eq, hschedules,
            Firewall.setupOnce_setupAfter]
      · have hother : ∀ schedule, event ≠ .setup schedule :=
          fun schedule hevent => hsetup ⟨schedule, hevent⟩
        rw [hconsistent.host_step hother]
        refine ⟨⟨schedules, hschedules⟩, ?_⟩
        rintro (hearlier | ⟨schedule, hevent, -⟩)
        · exact hdone hearlier
        · exact absurd hevent (hother schedule)

/-! ## The sets -/

/-- At some point of the run the daemon, which has processed `served`,
processes `handed`; it is done at `finished` and has executed `reports`. -/
def Served (config : ValidConfig) (system : System) (events : List (Event N))
    (handed : Handed Unit) (served : List (Handed Unit))
    (reports : List Report) (finished : ℕ) : Prop :=
  ∃ earlier addr protocol port payloadSize schedule later process,
    events = earlier ++
        .packet addr protocol port payloadSize schedule :: later ∧
      (system.run config earlier).daemon = some process ∧
      handed = ⟨⟨(system.run config earlier).kernel.now, addr, protocol, port,
        payloadSize⟩, (), process.server⟩ ∧
      served = process.served ∧
      reports = ((system.run config earlier).step config
        (.packet addr protocol port payloadSize schedule : Event N)).2 ∧
      finished = (system.run config (earlier ++
        [.packet addr protocol port payloadSize schedule])).kernel.now

/-- The source completes a knock at this point and is let in at `finished`. -/
def Allowed (config : ValidConfig) (system : System) (events : List (Event N))
    (sourceIp : IpAddr) (finished : ℕ) : Prop :=
  ∃ handed served reports,
    Served config system events handed served reports finished ∧
      handed.sourceIp = sourceIp ∧ handed.Accepted ∧
      EndsInKnock config.knockRules
        ((Handed.own sourceIp (served ++ [handed])).map Handed.call) ∧
      Report.Succeeded (config.allowList.command sourceIp) reports

theorem Served.executed {system : System} {events : List (Event N)}
    {handed : Handed Unit} {served : List (Handed Unit)}
    {reports : List Report} {finished : ℕ} {spec : CommandSpec}
    (hserved : Served config system events handed served reports finished)
    (hsucceeded : Report.Succeeded spec reports) :
    Executed config system events spec finished := by
  obtain ⟨earlier, addr, protocol, port, payloadSize, schedule, later, process,
    hsplit, -, -, -, rfl, hfinished⟩ := hserved
  exact ⟨earlier, _, later, hsplit, hsucceeded, hfinished⟩

theorem Served.append {handed : Handed Unit} {served : List (Handed Unit)}
    {reports : List Report} {finished : ℕ}
    (hserved : Served config system events handed served reports finished)
    (later : List (Event N)) :
    Served config system (events ++ later) handed served reports finished := by
  obtain ⟨earlier, addr, protocol, port, payloadSize, schedule, rest, process,
    rfl, hfound⟩ := hserved
  exact ⟨earlier, addr, protocol, port, payloadSize, schedule, rest ++ later,
    process, by rw [List.append_assoc, List.cons_append], hfound⟩

theorem Allowed.append {system : System} {events : List (Event N)}
    {sourceIp : IpAddr} {finished : ℕ}
    (hallowed : Allowed config system events sourceIp finished)
    (later : List (Event N)) :
    Allowed config system (events ++ later) sourceIp finished := by
  obtain ⟨handed, served, reports, hserved, hfacts⟩ := hallowed
  exact ⟨handed, served, reports, hserved.append later, hfacts⟩

/-- What becomes of a packet to the SSH port. -/
def sshVerdict (config : ValidConfig) (system : System) (otherwise : Verdict)
    (sourceIp : IpAddr) : Verdict :=
  chainVerdict system.kernel.members ⟨.tcp, sourceIp, config.sshPort⟩ otherwise
    system.kernel.host.chain

/-- The chain holds nothing but what earlier setups have left of it, a ban rule
only in front of this port's allow rule. -/
structure Ready (config : ValidConfig) (host : Host) : Prop where
  left : Firewall.LeftBySetups config.firewall host.chain
  ban_first : config.firewall.iptablesBanDropRuleArgs ∈ host.chain →
    RuleChain.Precedes config.firewall.iptablesBanDropRuleArgs
      (config.firewall.iptablesAllowRuleArgs config.sshPort) host.chain

variable {host : Host} {now : ℕ} {events : List (Event N)}

/-- Once a setup has succeeded, the chain does what is intended. -/
theorem sshVerdict_eq (hready : Ready config host)
    (hsetUp : SetUp config (quiet host now) events) (otherwise : Verdict)
    (sourceIp : IpAddr) :
    ((quiet host now).run config events).sshVerdict config otherwise sourceIp =
      config.firewall.intendedVerdict
        ((quiet host now).run config events).kernel.members sourceIp := by
  have hcomplete : ∀ rule ∈ config.firewall.ownRules config.sshPort,
      rule ∈ (config.firewall.setupOnce config.sshPort host).chain := by
    intro rule hrule
    rw [← List.one_le_count_iff,
      config.firewall.count_ownRules config.sshPort host rule hrule]
    exact Nat.le_max_left _ _
  have henforces := ((hready.left.tidy.setupOnce config.sshPort).enforces_iff
    config.sshPort hcomplete).mpr ((config.firewall.precedes_setupOnce_iff
      config.sshPort host).mpr hready.ban_first)
  rw [sshVerdict, (host_run config host now events).2 hsetUp]
  exact henforces _ otherwise sourceIp

/-- Once a setup has succeeded, the two lists decide. -/
theorem sshVerdict_accept_iff (hready : Ready config host)
    (hsetUp : SetUp config (quiet host now) events) (otherwise : Verdict)
    (sourceIp : IpAddr) :
    ((quiet host now).run config events).sshVerdict config otherwise sourceIp =
        .accept ↔
      config.ipsetName ≠ config.banIpsetName ∧
        (∃ finished, Executed config (quiet host now) events
            (config.allowList.command sourceIp) finished ∧
          ((quiet host now).run config events).kernel.now <
            finished + config.allowList.duration) ∧
        ¬∃ finished, Executed config (quiet host now) events
            (config.banList.command sourceIp) finished ∧
          ((quiet host now).run config events).kernel.now <
            finished + config.banList.duration := by
  have hledger := ledger_run config host now events
  have hlists : config.firewall.banIpsetName = config.banList.set ∧
      config.firewall.ipsetName = config.allowList.set := ⟨rfl, rfl⟩
  rw [sshVerdict_eq hready hsetUp, Firewall.intendedVerdict, hlists.1, hlists.2]
  by_cases hnames : config.ipsetName = config.banIpsetName
  · have hsame : config.allowList.set = config.banList.set := hnames
    simp only [hsame, hnames, ne_eq, not_true_eq_false, false_and, iff_false]
    split <;> simp
  · rw [← hledger.members_iff hnames (Or.inl rfl) sourceIp,
      ← hledger.members_iff hnames (Or.inr rfl) sourceIp]
    simp only [ne_eq, hnames, not_false_eq_true, true_and, Bool.not_eq_true]
    split
    · next hheld => simp [hheld]
    · next hfree =>
        have hfree := Bool.eq_false_iff.mpr hfree
        split
        · next hheld => simp [hheld, hfree]
        · next hmissing => simp [hmissing]

theorem ready_bareHost (config : ValidConfig) : Ready config bareHost :=
  ⟨.empty, fun hmem => absurd hmem (by simp [bareHost])⟩

/-- A setup that nothing disturbs succeeds. -/
theorem setUp_of_setup (config : ValidConfig) (system : System)
    (earlier later : List (Event N)) :
    SetUp config system (earlier ++ .setup [] :: later) := by
  refine ⟨earlier, [], later, rfl, ?_⟩
  rw [(host_setup (N := N) config _ []).1]
  exact config.firewall.setupWith_nil_ok config.sshPort _

end System

end SshKnock
