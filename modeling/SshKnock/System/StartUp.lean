import SshKnock.System.Admission

/-!
# What the daemon needs to start

A setup keeps every set there is and creates the missing ones for the
configured family.  The daemon comes up only where both sets exist, and where
nothing else hinders it, it does come up there.
-/

namespace SshKnock

open Fallible CommandRunner
open SshKnock.Firewall (bareHost)

/-! ## The sets -/

namespace Host

/-- The set, if it exists, is for addresses of this family. -/
def Dedicated (host : Host) (name : String) (family : AddressFamily) : Prop :=
  ∀ declared, host.sets.get name = some declared →
    Ipset.family declared = family

theorem get_createSet_self (host : Host) (name : String)
    (options : List String) :
    (host.createSet name options).sets.get name =
      some ((host.sets.get name).getD options) := by
  rw [createSet]
  cases hget : host.sets.get name with
  | none =>
      rw [if_neg (by simp [HashMap.containsKey, hget])]
      exact HashMap.get_insert_self _ _ _
  | some declared =>
      rw [if_pos (by simp [HashMap.containsKey, hget]), hget]
      rfl

theorem get_createSet_of_ne (host : Host) {other name : String}
    (options : List String) (hne : other ≠ name) :
    (host.createSet name options).sets.get other = host.sets.get other := by
  rw [createSet]
  split
  · rfl
  · exact HashMap.get_insert_of_ne _ _ hne

end Host

namespace Firewall

/-- Every set is kept, or is new and for addresses of the family. -/
def Furnishes (firewall : Firewall) (before after : Host) : Prop :=
  ∀ name, after.sets.get name = before.sets.get name ∨
    before.sets.get name = none ∧
      ∃ declared, after.sets.get name = some declared ∧
        Ipset.family declared = firewall.addressFamily

variable {firewall : Firewall}

/-- A set is created for the configured family. -/
theorem family_setOptions (firewall : Firewall) (timeout : UInt64) :
    Ipset.family (firewall.setOptions timeout) = firewall.addressFamily := by
  have hnumeral : "inet6" ≠ toString timeout := by
    intro hsame
    have hread : readNumeral "inet6" = some timeout.toNat := by
      rw [hsame]
      exact readNumeral_repr timeout.toNat
    exact absurd hread (by simp [show readNumeral "inet6" = none from rfl])
  rw [Ipset.family, setOptions]
  cases firewall.addressFamily with
  | ipv4 => exact if_neg (by simp [hnumeral])
  | ipv6 => exact if_pos (by simp)

theorem Furnishes.refl (host : Host) : Furnishes firewall host host :=
  fun _ => Or.inl rfl

theorem Furnishes.trans {first second third : Host}
    (hfirst : Furnishes firewall first second)
    (hsecond : Furnishes firewall second third) :
    Furnishes firewall first third := by
  intro name
  rcases hsecond name with hkept | ⟨hmissing, hcreated⟩
  · rw [hkept]
    exact hfirst name
  · rcases hfirst name with hkept | ⟨-, declared, hget, -⟩
    · exact Or.inr ⟨hkept.symm.trans hmissing, hcreated⟩
    · rw [hget] at hmissing
      cases hmissing

theorem furnishes_createSet (name : String) (timeout : UInt64) (host : Host) :
    Furnishes firewall host
      (host.createSet name (firewall.setOptions timeout)) := by
  intro other
  by_cases hsame : other = name
  · rw [hsame, Host.get_createSet_self]
    cases host.sets.get name with
    | some declared => exact Or.inl rfl
    | none => exact Or.inr ⟨rfl, _, rfl, firewall.family_setOptions timeout⟩
  · exact Or.inl (host.get_createSet_of_ne _ hsame)

theorem furnishes_ensureRule (position : RuleChain.Position) (rule : Rule)
    (host : Host) : Furnishes firewall host (host.ensureRule position rule) :=
  fun _ => Or.inl rfl

theorem furnishes_setupSteps (firewall : Firewall) (sshPort : UInt16) :
    ∀ step ∈ firewall.setupSteps sshPort, ∀ host,
      Furnishes firewall host (step host) := by
  simp only [setupSteps, List.forall_mem_cons, List.not_mem_nil,
    false_implies, implies_true, and_true]
  exact ⟨furnishes_createSet _ _, furnishes_createSet _ _,
    furnishes_ensureRule _ _, furnishes_ensureRule _ _,
    furnishes_ensureRule _ _⟩

theorem Furnishes.dedicated {before after : Host} {name : String}
    (hfurnishes : Furnishes firewall before after)
    (hdedicated : before.Dedicated name firewall.addressFamily) :
    after.Dedicated name firewall.addressFamily := by
  intro declared hget
  rcases hfurnishes name with hkept | ⟨-, created, hcreated, hfamily⟩
  · exact hdedicated declared (hkept.symm.trans hget)
  · rw [hcreated] at hget
    rw [← Option.some.inj hget]
    exact hfamily

end Firewall

/-- Both sets exist. -/
structure Furnished (config : ValidConfig) (host : Host) : Prop where
  allow : ∃ declared, host.sets.get config.ipsetName = some declared
  ban : ∃ declared, host.sets.get config.banIpsetName = some declared

/-- What exists stays. -/
theorem Firewall.Furnishes.exists {firewall : Firewall} {before after : Host}
    {name : String} (hfurnishes : firewall.Furnishes before after)
    (hexists : ∃ declared, before.sets.get name = some declared) :
    ∃ declared, after.sets.get name = some declared := by
  obtain ⟨declared, hget⟩ := hexists
  rcases hfurnishes name with hkept | ⟨-, created, hcreated, -⟩
  · exact ⟨declared, hkept.trans hget⟩
  · exact ⟨created, hcreated⟩

theorem Furnished.mono {config : ValidConfig} {before after : Host}
    (hfurnishes : config.firewall.Furnishes before after)
    (hfurnished : Furnished config before) : Furnished config after :=
  ⟨hfurnishes.exists hfurnished.allow, hfurnishes.exists hfurnished.ban⟩

/-- A setup leaves both sets. -/
theorem furnished_setupOnce (config : ValidConfig) (host : Host) :
    Furnished config (config.firewall.setupOnce config.sshPort host) := by
  let allowed := host.createSet config.firewall.ipsetName
    (config.firewall.setOptions config.firewall.ipTimeout)
  let both := allowed.createSet config.firewall.banIpsetName
    (config.firewall.setOptions config.firewall.banTimeout)
  have hsets : (config.firewall.setupOnce config.sshPort host).sets =
      both.sets := by
    rw [config.firewall.setupOnce_eq]
    rfl
  have hallow : ∃ declared,
      both.sets.get config.ipsetName = some declared :=
    (Firewall.furnishes_createSet _ _ allowed).exists
      ⟨_, host.get_createSet_self _ _⟩
  have hban : ∃ declared,
      both.sets.get config.banIpsetName = some declared :=
    ⟨_, allowed.get_createSet_self _ _⟩
  rw [← hsets] at hallow hban
  exact ⟨hallow, hban⟩

/-! ## The start-up -/

namespace Session

variable {host : Host}

/-- A command that looks for a set succeeds only if the set exists. -/
theorem triple_list (set : String) :
    Triple (fun session : Session => session.kernel.host = host)
      (run ⟨"ipset", ["list", set]⟩)
      (fun _ session => session.kernel.host = host ∧
        ∃ declared, host.sets.get set = some declared)
      fun _ => True := by
  rintro session rfl
  rw [perform_run, execute]
  generalize session.schedule.headD (0, none) = next
  obtain ⟨duration, fault⟩ := next
  cases fault with
  | none =>
      cases hget : session.kernel.host.sets.get set with
      | none =>
          simp [Kernel.answer, Kernel.execute, Kernel.elapse,
            HashMap.containsKey, hget, required, Host.exitedWith]
      | some declared =>
          simp [Kernel.answer, Kernel.execute, Kernel.elapse,
            HashMap.containsKey, hget, required, Host.succeeded]
  | some fault =>
      cases fault with
      | notStarted error => trivial
      | exited code diagnostics =>
          simp [Kernel.answer, CommandSpec.checkedRule?, required]

/-- So does a preflight only if both exist. -/
theorem triple_preflight (config : ValidConfig) :
    Triple (fun session : Session => session.kernel.host = host)
      config.firewall.preflight (fun _ _ => Furnished config host)
      fun _ => True := by
  apply Triple.bind (triple_list _)
  intro _
  apply Triple.assuming
  intro hallow
  apply Triple.bind (triple_list _)
  intro _
  apply Triple.assuming
  intro hban
  exact (Triple.trivial _).imp_returned fun _ _ _ => ⟨hallow, hban⟩

/-- Nothing befalls the commands. -/
structure Undisturbed (host : Host) (session : Session) : Prop where
  host_eq : session.kernel.host = host
  faultless : ∀ next ∈ session.schedule, next.2 = none

theorem triple_run_undisturbed {spec : CommandSpec}
    (hexecute : ∀ kernel : Kernel, kernel.host = host →
      kernel.execute spec = (Host.succeeded, kernel)) :
    Triple (Undisturbed host) (run spec) (fun _ => Undisturbed host)
      fun _ => False := by
  intro session hsession
  have hfault : (session.schedule.headD (0, none)).2 = none := by
    cases hschedule : session.schedule with
    | nil => rfl
    | cons next schedule =>
        exact hsession.faultless next (by simp [hschedule])
  rw [perform_run, execute]
  generalize session.schedule.headD (0, none) = next at hfault
  obtain ⟨duration, fault⟩ := next
  cases hfault
  have hanswer := hexecute (session.kernel.elapse duration) hsession.host_eq
  simp only [Kernel.answer, hanswer, required, Host.succeeded, if_true]
  exact ⟨hsession.host_eq, fun next hnext =>
    hsession.faultless next (List.mem_of_mem_tail hnext)⟩

/-- Where both sets exist an undisturbed preflight succeeds. -/
theorem triple_preflight_undisturbed {config : ValidConfig}
    (hfurnished : Furnished config host) :
    Triple (Undisturbed host) config.firewall.preflight
      (fun _ => Undisturbed host) fun _ => False := by
  have hlist : ∀ set, (∃ declared, host.sets.get set = some declared) →
      ∀ kernel : Kernel, kernel.host = host →
        kernel.execute ⟨"ipset", ["list", set]⟩ =
          (Host.succeeded, kernel) := by
    rintro set ⟨declared, hget⟩ kernel rfl
    simp [Kernel.execute, HashMap.containsKey, hget]
  have hrules : ∀ kernel : Kernel, kernel.host = host →
      kernel.execute ⟨config.firewall.firewallProgram, ["-S"]⟩ =
        (Host.succeeded, kernel) := by
    rintro kernel -
    rw [Firewall.firewallProgram]
    cases config.firewall.backend <;> rfl
  apply Triple.bind (triple_run_undisturbed (hlist _ hfurnished.allow))
  intro _
  apply Triple.bind (triple_run_undisturbed (hlist _ hfurnished.ban))
  intro _
  exact triple_run_undisturbed hrules

end Session

namespace Daemon

variable {N Stream Tag : Type} [Network N Stream Tag] {config : ValidConfig}
  {host : Host}

/-- A preflight asks the firewall of the server. -/
theorem triple_preflight {before : Session → Prop}
    {returned : Unit → Session → Prop} {failed : Session → Prop}
    (hpreflight : Triple before config.firewall.preflight returned failed)
    {Rest : Server → N → Prop} (hfirewall : ∀ server network,
      Rest server network → server.firewall = config.firewall) :
    Triple (fun daemon => Rest daemon.server daemon.network ∧
        before daemon.runner)
      (preflight : DaemonM N Session Tag (Except Error Unit))
      (fun result daemon => Rest daemon.server daemon.network ∧
        match result with
        | .ok value => returned value daemon.runner
        | .error _ => failed daemon.runner)
      fun _ => False := by
  rintro daemon ⟨hrest, hbefore⟩
  have hended := hpreflight daemon.runner hbefore
  rw [← hfirewall _ _ hrest] at hended
  have hperform : perform (preflight : DaemonM N Session Tag _) daemon =
      (.ok (perform daemon.server.firewall.preflight daemon.runner).1,
        { daemon with
          runner := (perform daemon.server.firewall.preflight
            daemon.runner).2 }) := rfl
  rw [hperform]
  generalize perform daemon.server.firewall.preflight daemon.runner = result
    at hended ⊢
  obtain ⟨_ | value, after⟩ := result <;> exact ⟨hrest, hended⟩

/-- The daemon comes up only where both sets exist. -/
theorem triple_startUp (config : ValidConfig) (host : Host) :
    Triple (fun daemon => daemon.server.firewall = config.firewall ∧
        daemon.runner.kernel.host = host)
      (startUp config.toConfig : DaemonM N Session Tag Sockets)
      (fun _ _ => Furnished config host) fun _ => True := by
  have hlog : ∀ event message,
      Triple (fun daemon : Daemon N Session Tag =>
          daemon.server.firewall = config.firewall ∧
            daemon.runner.kernel.host = host) (logEvent event message)
        (fun _ daemon => daemon.server.firewall = config.firewall ∧
          daemon.runner.kernel.host = host) fun _ => True := by
    intro event message
    refine (Triple.of_perform fun daemon hdaemon => ?_).imp_failed
      fun _ _ => trivial
    exact ⟨(Server.sameMemory_log rfl).firewall_eq.trans hdaemon.1, hdaemon.2⟩
  apply Triple.bind (hlog _ _)
  intro _
  apply Triple.bind ((triple_preflight (Session.triple_preflight config)
    fun _ _ hfirewall => hfirewall).imp_failed fun _ _ => trivial)
  rintro (error | ⟨⟩)
  · apply Triple.bind (Triple.trivial _)
    intro _
    exact Triple.throw_bind fun _ _ => trivial
  · apply Triple.assuming
    intro hfurnished
    exact (Triple.trivial _).imp_returned fun _ _ _ => hfurnished

/-- Every socket can be bound. -/
def Bindable (Free : N → Prop) : Prop :=
  ∀ listener network, Free network →
    (Network.bind listener network).1 = .ok () ∧
      Free (Network.bind listener network).2

/-- Nothing hinders the start-up. -/
structure Unhindered (config : ValidConfig) (Free : N → Prop)
    (server : Server) (network : N) : Prop where
  writable : server.Writable
  firewall_eq : server.firewall = config.firewall
  free : Free network

/-- Nothing hinders it, and the commands find the session as `before` says. -/
def Calm (config : ValidConfig) (Free : N → Prop) (before : Session → Prop)
    (daemon : Daemon N Session Tag) : Prop :=
  Unhindered config Free daemon.server daemon.network ∧ before daemon.runner

variable {Free : N → Prop} {before : Session → Prop}

theorem triple_log_calm (event message : String) :
    Triple (Calm config Free before)
      (logEvent event message : DaemonM N Session Tag Unit)
      (fun _ => Calm config Free before) fun _ => False := by
  rintro daemon ⟨hdaemon, hbefore⟩
  have hsame : Server.SameMemory (daemon.server.log event message).2
      daemon.server := Server.sameMemory_log rfl
  have hperform : perform (logEvent event message : DaemonM N Session Tag Unit)
      daemon = ((daemon.server.log event message).1.mapError .error,
        { daemon with server := (daemon.server.log event message).2 }) := rfl
  rw [hperform, hdaemon.writable.log]
  exact ⟨⟨hsame.writable hdaemon.writable,
    hsame.firewall_eq.trans hdaemon.firewall_eq, hdaemon.free⟩, hbefore⟩

theorem triple_bind_calm (hbindable : Bindable Free) (listener : Listener) :
    Triple (Calm config Free before)
      (bind listener : DaemonM N Session Tag Unit)
      (fun _ => Calm config Free before) fun _ => False := by
  rintro daemon ⟨⟨hwritable, hfirewall, hfree⟩, hbefore⟩
  obtain ⟨hbound, hstays⟩ := hbindable listener daemon.network hfree
  have honNetwork : perform (onNetwork (Network.bind listener) :
      DaemonM N Session Tag _) daemon = (.ok (.ok ()),
        { daemon with
          network := (Network.bind listener daemon.network).2 }) := by
    rw [← hbound]
    rfl
  rw [bind, perform_bind_ok honNetwork]
  exact ⟨⟨hwritable, hfirewall, hstays⟩, hbefore⟩

theorem triple_bindStep_calm (hbindable : Bindable Free) (sockets : Sockets)
    {step : KnockStep} (hstep : config.toConfig.ValidStep step) :
    Triple (Calm config Free before)
      (bindStep config.toConfig sockets step : DaemonM N Session Tag Sockets)
      (fun _ => Calm config Free before) fun _ => False := by
  have hbound : ∀ listener event message (bound : Sockets),
      Triple (Calm config Free before) (do
          Daemon.bind listener
          Daemon.logEvent event message
          Pure.pure bound : DaemonM N Session Tag Sockets)
        (fun _ => Calm config Free before) fun _ => False :=
    fun listener event message bound =>
      Triple.bind (triple_bind_calm hbindable listener) fun _ =>
        Triple.bind (triple_log_calm event message) fun _ =>
          Triple.pure fun _ hdaemon => hdaemon
  have hport := hstep.port_none_iff
  rw [bindStep]
  split
  · next hprotocol hnone => simp [hprotocol, hnone] at hport
  · split
    · exact Triple.pure fun _ hdaemon => hdaemon
    · exact hbound _ _ _ _
  · next hprotocol hnone => simp [hprotocol, hnone] at hport
  · split
    · exact Triple.pure fun _ hdaemon => hdaemon
    · exact hbound _ _ _ _
  · split
    · exact Triple.pure fun _ hdaemon => hdaemon
    · exact hbound _ _ _ _

/-- Where both sets exist, a start-up that nothing hinders succeeds. -/
theorem triple_startUp_calm (hbindable : Bindable Free)
    (hfurnished : Furnished config host) :
    Triple (Calm config Free (Session.Undisturbed host))
      (startUp config.toConfig : DaemonM N Session Tag Sockets)
      (fun _ _ => True) fun _ => False := by
  have hpreflight : Triple (Calm config Free (Session.Undisturbed host))
      (preflight : DaemonM N Session Tag (Except Error Unit))
      (fun result daemon =>
        Calm config Free (Session.Undisturbed host) daemon ∧ result = .ok ())
      fun _ => False := by
    have hfirewall : ∀ server network, Unhindered config Free server network →
        server.firewall = config.firewall := fun _ _ hrest => hrest.firewall_eq
    refine (triple_preflight (Session.triple_preflight_undisturbed hfurnished)
      hfirewall).imp_returned ?_
    rintro (error | ⟨⟩) daemon ⟨hunhindered, hended⟩
    · exact hended.elim
    · exact ⟨⟨hunhindered, hended⟩, rfl⟩
  apply Triple.bind (triple_log_calm _ _)
  intro _
  apply Triple.bind hpreflight
  intro result
  apply Triple.assuming
  rintro rfl
  apply Triple.bind (triple_log_calm _ _)
  intro _
  have hloop : Triple (Calm config Free (Session.Undisturbed host))
      (config.knock.sequence.foldlM (bindStep config.toConfig)
        { udp := [], tcp := [], icmp := false } : DaemonM N Session Tag Sockets)
      (fun _ => Calm config Free (Session.Undisturbed host)) fun _ => False :=
    Triple.foldlM_of_mem _ fun sockets step hstep =>
      triple_bindStep_calm hbindable sockets
        (config.valid.step_valid step hstep)
  exact hloop.imp_returned fun _ _ _ => trivial

end Daemon

namespace System

variable {N Stream Tag : Type} [Network N Stream Tag] {config : ValidConfig}
  {system : System}

/-! ## The daemon and the sets -/

/-- The daemon finds its sets, and the allow set takes the addresses of the
configured family. -/
structure Serviceable (config : ValidConfig) (system : System) : Prop where
  dedicated : system.kernel.host.Dedicated config.ipsetName config.addressFamily
  furnished : system.daemon ≠ none → Furnished config system.kernel.host

theorem Consistent.furnishes_step (hsystem : Consistent config system)
    (event : Event N) :
    config.firewall.Furnishes system.kernel.host
      (system.step config event).1.kernel.host :=
  hsystem.host_step_relates .refl .trans
    (config.firewall.furnishes_setupSteps config.sshPort) event

/-- A start leaves a daemon running exactly when its start-up succeeds. -/
theorem running_start_iff {device : LogDevice} {network : N}
    {schedule : List (ℕ × Option Fault)} (hnone : system.daemon = none) :
    (system.step config (.start device network schedule)).1.daemon ≠ none ↔
      (perform (Daemon.startUp config.toConfig)
        (system.launched config device network schedule :
          Daemon N Session Tag)).1.isOk = true := by
  rw [step, hnone]
  simp only [ne_eq, Option.map_eq_none_iff]
  generalize (perform (Daemon.startUp config.toConfig)
    (system.launched config device network schedule)).1 = result
  cases result <;> simp [Except.toOption, Except.isOk, Except.toBool]

/-- A start that leaves a daemon running found both sets. -/
theorem furnished_of_started {device : LogDevice} {network : N}
    {schedule : List (ℕ × Option Fault)} (hnone : system.daemon = none)
    (hstarted : (system.step config (.start device network schedule)).1.daemon ≠
      none) : Furnished config system.kernel.host := by
  have hok := (running_start_iff hnone).mp hstarted
  have hended := Daemon.triple_startUp config system.kernel.host
    (system.launched config device network schedule) ⟨rfl, rfl⟩
  generalize perform (Daemon.startUp config.toConfig)
    (system.launched config device network schedule) = result at hok hended
  obtain ⟨error | sockets, after⟩ := result
  · cases hok
  · exact hended

theorem Serviceable.step (hserviceable : Serviceable config system)
    (hconsistent : Consistent config system) (event : Event N) :
    Serviceable config (system.step config event).1 where
  dedicated := (hconsistent.furnishes_step event).dedicated
    hserviceable.dedicated
  furnished hrunning := by
    apply Furnished.mono (hconsistent.furnishes_step event)
    obtain ⟨process, hprocess⟩ := Option.ne_none_iff_exists'.mp hrunning
    cases proceeds hprocess with
    | started _ _ _ _ hnone => exact furnished_of_started hnone hrunning
    | kept _ _ hold => exact hserviceable.furnished (by simp [hold])
    | processed _ _ _ _ _ _ _ hold =>
        exact hserviceable.furnished (by simp [hold])

theorem serviceable_run {host : Host}
    (hdedicated : host.Dedicated config.ipsetName config.addressFamily)
    (now : ℕ) (events : List (Event N)) :
    Serviceable config ((quiet host now).run config events) := by
  induction events using List.reverseRecOn with
  | nil => exact ⟨hdedicated, fun hrunning => absurd rfl hrunning⟩
  | append_singleton events event ih =>
      rw [run_concat]
      exact ih.step ((consistent_quiet config host now).run events) event

/-- Where nothing hinders it, a start that finds both sets leaves a daemon
running. -/
theorem running_of_furnished {device : LogDevice} {network : N}
    {schedule : List (ℕ × Option Fault)} {Free : N → Prop}
    (hnone : system.daemon = none)
    (hwritable : ∀ write, device.failure write = none)
    (hbindable : Daemon.Bindable Free) (hfree : Free network)
    (hundisturbed : ∀ next ∈ schedule, next.2 = none)
    (hfurnished : Furnished config system.kernel.host) :
    (system.step config (.start device network schedule)).1.daemon ≠ none := by
  have hended := Daemon.triple_startUp_calm hbindable hfurnished
    (system.launched config device network schedule)
    ⟨⟨hwritable, rfl, hfree⟩, rfl, hundisturbed⟩
  rw [running_start_iff hnone]
  generalize perform (Daemon.startUp config.toConfig)
    (system.launched config device network schedule) = result at hended ⊢
  obtain ⟨error | sockets, after⟩ := result
  · exact hended.elim
  · rfl

/-- The allow set takes the addresses of the family. -/
theorem Serviceable.takes_iff (hserviceable : Serviceable config system)
    (hrunning : system.daemon ≠ none) (sourceIp : IpAddr) :
    system.kernel.Takes config.ipsetName sourceIp ↔
      sourceIp.family = config.addressFamily := by
  obtain ⟨declared, hget⟩ := (hserviceable.furnished hrunning).allow
  have hfamily := hserviceable.dedicated declared hget
  rw [← hfamily, ← Ipset.entryFamily_toString]
  constructor
  · rintro ⟨found, hfound, htakes⟩
    rw [hget] at hfound
    rw [Option.some.inj hfound]
    exact htakes
  · exact fun htakes => ⟨declared, hget, htakes⟩

end System

end SshKnock
