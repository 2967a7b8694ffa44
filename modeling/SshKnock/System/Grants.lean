import SshKnock.System.Run

/-!
# What the sets hold

The entries of the two sets are exactly what the daemon's successful commands
have added, each until its timeout has passed since the command that last
added it.
-/

namespace SshKnock

open Fallible

/-- One of the two sets, with the timeout of what is added to it. -/
structure Listing where
  set : String
  timeout : UInt64
  deriving DecidableEq

namespace Listing

def command (listing : Listing) (sourceIp : IpAddr) : CommandSpec :=
  Ipset.addCommand listing.set sourceIp listing.timeout

/-- How long an address stays in the set. -/
def duration (listing : Listing) : ℕ :=
  Duration.fromSecs listing.timeout

theorem command_injective {first second : Listing} {left right : IpAddr}
    (hsame : first.command left = second.command right) :
    first.set = second.set ∧ left = right := by
  have hargs := congrArg CommandSpec.args hsame
  simp only [command, Ipset.addCommand, List.cons.injEq, true_and] at hargs
  exact ⟨hargs.1, IpAddr.toString_injective hargs.2.1⟩

end Listing

def Config.allowList (config : Config) : Listing :=
  ⟨config.ipsetName, config.ipTimeout⟩

def Config.banList (config : Config) : Listing :=
  ⟨config.banIpsetName, config.banTimeout⟩

/-- A command that has started and reported success. -/
def Report.Succeeded (spec : CommandSpec) (reports : List Report) : Prop :=
  ∃ status : CommandStatus, ⟨spec, .ok status⟩ ∈ reports ∧
    status.success = true

namespace System

variable {N Stream Tag : Type} [Network N Stream Tag]

/-- At some point of the run the daemon executed the command successfully; it
was finished at `finished`. -/
def Executed (config : ValidConfig) (system : System) (events : List (Event N))
    (spec : CommandSpec) (finished : ℕ) : Prop :=
  ∃ earlier event later, events = earlier ++ event :: later ∧
    Report.Succeeded spec ((system.run config earlier).step config event).2 ∧
    finished = (system.run config (earlier ++ [event])).kernel.now

/-- No address has been added. -/
structure Unentered (before after : Kernel) (reports : List Report) :
    Prop where
  entries_eq : after.entries = before.entries
  now_le : before.now ≤ after.now
  adds_nothing : ∀ listing : Listing, ∀ sourceIp,
    ¬Report.Succeeded (listing.command sourceIp) reports

/-- Everything an event can do to the kernel: a setup may change the host, and
a judged packet may add one address. -/
inductive Stepped (config : ValidConfig) (before : System) :
    Event N → System × List Report → Prop where
  | other (event : Event N) (after : System) (reports : List Report)
      (hevent : ∀ schedule, event ≠ .setup schedule)
      (hhost : after.kernel.host = before.kernel.host)
      (hkernel : Unentered before.kernel after.kernel reports) :
      Stepped config before event (after, reports)
  | setup (schedule : List (ℕ × Option Fault)) (after : System)
      (reports : List Report)
      (hkernel : Unentered before.kernel after.kernel reports) :
      Stepped config before (.setup schedule) (after, reports)
  | added (addr : SocketAddr) (protocol : Protocol) (port : Option UInt16)
      (payloadSize : ℕ) (schedule : List (ℕ × Option Fault))
      (process : Process) (hprocess : before.daemon = some process)
      (after : System) (listing : Listing) (duration : ℕ)
      (hjudged :
        listing = config.allowList ∧ (process.server.judge
          ⟨before.kernel.now, addr, protocol, port, payloadSize⟩).1 =
            .answer .accepted ∨
        listing = config.banList ∧ (process.server.judge
          ⟨before.kernel.now, addr, protocol, port, payloadSize⟩).1 = .ban)
      (hkernel : after.kernel = (before.kernel.elapse duration).add
        listing.set addr.ip listing.timeout) :
      Stepped config before
        (.packet addr protocol port payloadSize schedule)
        (after, [⟨listing.command addr.ip, .ok Host.succeeded⟩])

end System

namespace Report

theorem not_succeeded_nil (spec : CommandSpec) : ¬Succeeded spec [] := by
  rintro ⟨status, hreport, -⟩
  cases hreport

/-- Commands that add nothing do not add an address. -/
theorem not_succeeded_of_adds_nothing {reports : List Report}
    (hreports : ∀ report ∈ reports, report.spec.addedEntry? = none)
    (listing : Listing) (sourceIp : IpAddr) :
    ¬Succeeded (listing.command sourceIp) reports := by
  rintro ⟨status, hreport, -⟩
  cases hreports _ hreport

/-- A failed command has not succeeded, and no other was executed. -/
theorem not_succeeded_of_failed {spec failing : CommandSpec}
    {answer : Except Error CommandStatus} {error : Error}
    (hfailed : CommandRunner.required answer = .error error) :
    ¬Succeeded spec [⟨failing, answer⟩] := by
  rintro ⟨status, hreport, hsuccess⟩
  obtain ⟨-, rfl⟩ := Report.mk.inj (List.mem_singleton.mp hreport)
  rw [CommandRunner.required, if_pos hsuccess] at hfailed
  cases hfailed

theorem succeeded_singleton_iff {spec other : CommandSpec} :
    Succeeded spec [⟨other, .ok Host.succeeded⟩] ↔ spec = other := by
  constructor
  · rintro ⟨status, hreport, -⟩
    exact (Report.mk.inj (List.mem_singleton.mp hreport)).1
  · rintro rfl
    exact ⟨Host.succeeded, List.mem_singleton_self _, rfl⟩

end Report

namespace System

variable {N Stream Tag : Type} [Network N Stream Tag]
  {config : ValidConfig} {system : System}

/-- What a daemon is when it comes up: as configured, and it has only looked at
the kernel. -/
theorem startUp_launched (config : ValidConfig) (system : System)
    (device : LogDevice) (network : N)
    (schedule : List (ℕ × Option Fault)) :
    Server.SameMemory
        (perform (Daemon.startUp config.toConfig)
          (system.launched config device network schedule)).2.server
        (.started config device) ∧
      Session.Looked system.kernel
        (perform (Daemon.startUp config.toConfig)
          (system.launched config device network schedule)).2.runner := by
  have hstarts : Daemon.StartsUp (fun _ => True)
      fun daemon : Daemon N Session Tag =>
        Server.SameMemory daemon.server (.started config device) ∧
          Session.Looked system.kernel daemon.runner := by
    refine Daemon.StartsUp.of_keeps (fun _ _ hdaemon => hdaemon)
      (fun event message => ?_) ?_
    · apply Keeps.of_perform
      intro daemon hdaemon
      exact ⟨(Server.sameMemory_log rfl).trans hdaemon.1, hdaemon.2⟩
    · intro daemon hdaemon
      exact ⟨hdaemon.1, (Session.keeps_preflight daemon.server.firewall
        system.kernel).perform hdaemon.2⟩
  apply (hstarts.startUp config.toConfig).perform
  exact ⟨.refl _, rfl, rfl, le_refl _, by simp [launched, session]⟩

/-- The running daemon, if any, is configured as `config` says, and its history
explains its memory. -/
def Consistent (config : ValidConfig) (system : System) : Prop :=
  ∀ process ∈ system.daemon,
    Server.Chronicle config.toConfig process.server process.served

theorem consistent_quiet (config : ValidConfig) (host : Host) (now : ℕ) :
    Consistent config (quiet host now) := by
  rintro process ⟨⟩

theorem Unentered.elapsed (kernel : Kernel) (duration : ℕ) :
    Unentered kernel (kernel.elapse duration) [] :=
  ⟨rfl, Nat.le_add_right _ _, fun _ _ => Report.not_succeeded_nil _⟩

theorem Unentered.refl (kernel : Kernel) : Unentered kernel kernel [] :=
  ⟨rfl, le_refl _, fun _ _ => Report.not_succeeded_nil _⟩

theorem Consistent.stepped (hsystem : Consistent config system)
    (event : Event N) :
    Stepped config system event (system.step config event) := by
  cases event with
  | elapse duration =>
      exact .other _ _ _ (by simp) rfl (.elapsed system.kernel duration)
  | stop => exact .other _ _ _ (by simp) rfl (.refl system.kernel)
  | setup schedule =>
      have hsetup := (config.firewall.perform_setup config.sshPort
        (system.session schedule) (by simp [session])).2
      exact .setup schedule _ _ ⟨hsetup.entries_eq, hsetup.since_le,
        Report.not_succeeded_of_adds_nothing hsetup.adds_nothing⟩
  | start device network schedule =>
      rw [step]
      split
      · exact .other _ _ _ (by simp) rfl (.refl system.kernel)
      · have hlooked := (system.startUp_launched config device network
          schedule).2
        exact .other _ _ _ (by simp) hlooked.host_eq
          ⟨hlooked.entries_eq, hlooked.now_le,
            Report.not_succeeded_of_adds_nothing hlooked.adds_nothing⟩
  | packet addr protocol port payloadSize schedule =>
      rw [step]
      split
      · exact .other _ _ _ (by simp) rfl (.refl system.kernel)
      · next process hprocess =>
          have hsends := Server.sends (hsystem process hprocess).configured
            (system.session schedule)
            ⟨system.kernel.now, addr, protocol, port, payloadSize⟩
          simp only
          generalize process.server.handle (system.session schedule) _ =
            result at hsends ⊢
          generalize hjudge : (process.server.judge _).1 = judgement at hsends
          obtain ⟨ending, server, session⟩ := result
          cases hsends with
          | nothing => exact .other _ _ _ (by simp) rfl (.refl system.kernel)
          | ban result after hadds =>
              cases hadds with
              | added duration later =>
                  exact .added addr protocol port payloadSize schedule process
                    hprocess _ config.banList duration (.inr ⟨rfl, hjudge⟩) rfl
              | failed duration later answer error hfailed =>
                  exact .other _ _ _ (by simp) rfl
                    ⟨rfl, Nat.le_add_right _ _, fun _ _ =>
                      Report.not_succeeded_of_failed hfailed⟩
          | allow result after hadds =>
              cases hadds with
              | added duration later =>
                  exact .added addr protocol port payloadSize schedule process
                    hprocess _ config.allowList duration (.inl ⟨rfl, hjudge⟩)
                    rfl
              | failed duration later answer error hfailed =>
                  exact .other _ _ _ (by simp) rfl
                    ⟨rfl, Nat.le_add_right _ _, fun _ _ =>
                      Report.not_succeeded_of_failed hfailed⟩

/-- The daemon after an event: a new one, or the old one that has processed at
most one more packet. -/
inductive Proceeds (config : ValidConfig) (before : System) :
    Event N → Process → Prop where
  | started (device : LogDevice) (network : N)
      (schedule : List (ℕ × Option Fault)) (process : Process)
      (hnone : before.daemon = none)
      (hsame : Server.SameMemory process.server (.started config device))
      (hserved : process.served = []) :
      Proceeds config before (.start device network schedule) process
  | kept (event : Event N) (process : Process)
      (hprocess : before.daemon = some process) :
      Proceeds config before event process
  | processed (addr : SocketAddr) (protocol : Protocol) (port : Option UInt16)
      (payloadSize : ℕ) (schedule : List (ℕ × Option Fault))
      (old process : Process) (hprocess : before.daemon = some old)
      (hsame : Server.SameMemory process.server (old.server.judge
        ⟨before.kernel.now, addr, protocol, port, payloadSize⟩).2)
      (hserved : process.served = old.served ++
        [⟨⟨before.kernel.now, addr, protocol, port, payloadSize⟩, (),
          old.server⟩]) :
      Proceeds config before (.packet addr protocol port payloadSize schedule)
        process

theorem proceeds {event : Event N} {process : Process}
    (hprocess : (system.step config event).1.daemon = some process) :
    Proceeds config system event process := by
  cases event with
  | elapse duration => exact .kept _ process hprocess
  | setup schedule => exact .kept _ process hprocess
  | stop => cases hprocess
  | start device network schedule =>
      rw [step] at hprocess
      split at hprocess
      · exact .kept _ process hprocess
      · next hnone =>
          obtain ⟨sockets, -, rfl⟩ := Option.map_eq_some_iff.mp hprocess
          exact .started device network schedule _ hnone
            (system.startUp_launched config device network schedule).1 rfl
  | packet addr protocol port payloadSize schedule =>
      rw [step] at hprocess
      split at hprocess
      · exact .kept _ process hprocess
      · next old hold =>
          let arrival : Arrival :=
            { now := system.kernel.now, addr, protocol, port, payloadSize }
          have hsame := Server.sameMemory_enact (old.server.judge arrival).2
            (system.session schedule) arrival (old.server.judge arrival).1
          rw [← Server.handle_eq] at hsame
          simp only at hprocess
          split at hprocess
          · cases hprocess
            exact .processed addr protocol port payloadSize schedule old _ hold
              hsame rfl
          · cases hprocess

/-- Every event keeps the daemon's history an explanation of its memory. -/
theorem Consistent.step (hsystem : Consistent config system)
    (event : Event N) : Consistent config (system.step config event).1 := by
  intro process hprocess
  cases proceeds (Option.mem_def.mp hprocess) with
  | started device _ _ _ _ hsame hserved =>
      rw [hserved]
      exact (Server.chronicle_started config device).sameMemory hsame
  | kept _ _ hold => exact hsystem process hold
  | processed addr protocol port payloadSize _ old _ hold hsame hserved =>
      have hbefore : Server.Chronicle config.toConfig
          (Handed.before ⟨⟨system.kernel.now, addr, protocol, port,
            payloadSize⟩, (), old.server⟩) old.served := hsystem old hold
      rw [hserved]
      exact hbefore.judge.sameMemory hsame

theorem Consistent.run (hsystem : Consistent config system)
    (events : List (Event N)) : Consistent config (system.run config events) := by
  induction events generalizing system with
  | nil => exact hsystem
  | cons event events ih => exact ih (hsystem.step event)

/-- The clock never goes back. -/
theorem Consistent.now_le (hsystem : Consistent config system)
    (event : Event N) :
    system.kernel.now ≤ (system.step config event).1.kernel.now := by
  have hstepped := hsystem.stepped event
  generalize system.step config event = result at hstepped ⊢
  cases hstepped with
  | other _ _ _ _ _ hkernel => exact hkernel.now_le
  | setup _ _ _ hkernel => exact hkernel.now_le
  | added _ _ _ _ _ _ _ _ _ _ _ hkernel =>
      rw [hkernel]
      exact Nat.le_add_right _ _

/-! ## Commands and entries -/

variable {events : List (Event N)} {event : Event N} {spec : CommandSpec}
  {finished : ℕ}

/-- What has been executed after one more event. -/
theorem executed_concat_iff :
    Executed config system (events ++ [event]) spec finished ↔
      Executed config system events spec finished ∨
        Report.Succeeded spec ((system.run config events).step config event).2 ∧
          finished = (system.run config (events ++ [event])).kernel.now := by
  constructor
  · rintro ⟨earlier, found, later, hsplit, hsucceeded, hfinished⟩
    rcases List.eq_nil_or_concat' later with rfl | ⟨middle, last, rfl⟩
    · obtain ⟨rfl, hlast⟩ := List.append_inj' hsplit rfl
      obtain rfl := List.singleton_inj.mp hlast
      exact Or.inr ⟨hsucceeded, hfinished⟩
    · rw [← List.cons_append, ← List.append_assoc] at hsplit
      obtain ⟨rfl, -⟩ := List.append_inj' hsplit rfl
      exact Or.inl ⟨earlier, found, middle, rfl, hsucceeded, hfinished⟩
  · rintro (⟨earlier, found, later, rfl, hfound⟩ | ⟨hsucceeded, hfinished⟩)
    · exact ⟨earlier, found, later ++ [event],
        by rw [List.append_assoc, List.cons_append], hfound⟩
    · exact ⟨events, event, [], rfl, hsucceeded, hfinished⟩

theorem not_executed_nil :
    ¬Executed config system ([] : List (Event N)) spec finished := by
  rintro ⟨earlier, event, later, hsplit, -⟩
  exact absurd hsplit.symm (List.append_ne_nil_of_right_ne_nil _
    (List.cons_ne_nil _ _))

/-- An event that adds nothing leaves the record as it was. -/
theorem executed_concat_of_not {listing : Listing} {sourceIp : IpAddr}
    (hother : ¬Report.Succeeded (listing.command sourceIp)
      ((system.run config events).step config event).2) :
    Executed config system (events ++ [event]) (listing.command sourceIp)
        finished ↔
      Executed config system events (listing.command sourceIp) finished := by
  rw [executed_concat_iff]
  exact or_iff_left fun hnew => hother hnew.1

/-- The entries and the commands executed so far belong together. -/
structure Ledger (config : ValidConfig) (system : System)
    (events : List (Event N)) : Prop where
  explained : ∀ set sourceIp expiry,
    (system.run config events).kernel.entries.get (set, toString sourceIp) =
        some expiry →
      ∃ listing : Listing,
        (listing = config.allowList ∨ listing = config.banList) ∧
          listing.set = set ∧ ∃ finished,
            Executed config system events (listing.command sourceIp)
              finished ∧ expiry = some (finished + listing.duration)
  past : ∀ listing : Listing, ∀ sourceIp finished,
    Executed config system events (listing.command sourceIp) finished →
      finished ≤ (system.run config events).kernel.now
  kept : config.ipsetName ≠ config.banIpsetName →
    ∀ listing, listing = config.allowList ∨ listing = config.banList →
      ∀ sourceIp finished,
        Executed config system events (listing.command sourceIp) finished →
          ∃ renewed, finished ≤ renewed ∧
            (system.run config events).kernel.entries.get
                (listing.set, toString sourceIp) =
              some (some (renewed + listing.duration))

theorem ledger_quiet (config : ValidConfig) (host : Host) (now : ℕ) :
    Ledger config (quiet host now) ([] : List (Event N)) where
  explained set sourceIp expiry hentry := by
    rw [show (run config (quiet host now) ([] : List (Event N))).kernel.entries
      = HashMap.empty from rfl, HashMap.get_empty] at hentry
    cases hentry
  past _ _ _ hexecuted := absurd hexecuted not_executed_nil
  kept _ _ _ _ _ hexecuted := absurd hexecuted not_executed_nil

/-- With different names, a set belongs to one list only. -/
theorem listing_eq (hnames : config.ipsetName ≠ config.banIpsetName)
    {first second : Listing}
    (hfirst : first = config.allowList ∨ first = config.banList)
    (hsecond : second = config.allowList ∨ second = config.banList)
    (hset : first.set = second.set) : first = second := by
  rcases hfirst with rfl | rfl <;> rcases hsecond with rfl | rfl
  · rfl
  · exact absurd hset hnames
  · exact absurd hset.symm hnames
  · rfl

/-- An event that adds nothing keeps entries and commands together. -/
theorem Ledger.concat_unentered (hledger : Ledger config system events)
    (hkernel : Unentered (system.run config events).kernel
      (system.run config (events ++ [event])).kernel
      ((system.run config events).step config event).2) :
    Ledger config system (events ++ [event]) := by
  have hexecuted : ∀ (listing : Listing) sourceIp finished,
      Executed config system (events ++ [event]) (listing.command sourceIp)
          finished ↔
        Executed config system events (listing.command sourceIp) finished :=
    fun listing sourceIp finished =>
      executed_concat_of_not (hkernel.adds_nothing listing sourceIp)
  refine ⟨?_, ?_, ?_⟩
  · simp only [hkernel.entries_eq, hexecuted]
    exact hledger.explained
  · simp only [hexecuted]
    intro listing sourceIp finished hfinished
    exact (hledger.past listing sourceIp finished hfinished).trans
      hkernel.now_le
  · simp only [hkernel.entries_eq, hexecuted]
    exact hledger.kept

/-- An event that adds an address is entered with its command. -/
theorem Ledger.concat_added (hledger : Ledger config system events)
    {added : Listing} {sourceIp : IpAddr} {duration : ℕ}
    (hadded : added = config.allowList ∨ added = config.banList)
    (hreports : ((system.run config events).step config event).2 =
      [⟨added.command sourceIp, .ok Host.succeeded⟩])
    (hkernel : (system.run config (events ++ [event])).kernel =
      ((system.run config events).kernel.elapse duration).add added.set
        sourceIp added.timeout) :
    Ledger config system (events ++ [event]) := by
  have hexecuted : ∀ (listing : Listing) otherIp finished,
      Executed config system (events ++ [event]) (listing.command otherIp)
          finished ↔
        Executed config system events (listing.command otherIp) finished ∨
          listing.command otherIp = added.command sourceIp ∧ finished =
            (system.run config (events ++ [event])).kernel.now := by
    intro listing otherIp finished
    rw [executed_concat_iff, hreports, Report.succeeded_singleton_iff]
  have hnow : (system.run config events).kernel.now ≤
      (system.run config (events ++ [event])).kernel.now := by
    rw [hkernel]
    exact Nat.le_add_right _ _
  have hself : (system.run config (events ++ [event])).kernel.entries.get
      (added.set, toString sourceIp) = some (some ((system.run config
        (events ++ [event])).kernel.now + added.duration)) := by
    rw [hkernel]
    exact Kernel.holds_add_self _ _ _ _
  have hother : ∀ set otherIp, (set, otherIp) ≠ (added.set, sourceIp) →
      (system.run config (events ++ [event])).kernel.entries.get
          (set, toString otherIp) =
        (system.run config events).kernel.entries.get
          (set, toString otherIp) := by
    intro set otherIp hne
    rw [hkernel, Kernel.entries_add_of_ne _ _ hne]
    rfl
  refine ⟨?_, ?_, ?_⟩
  · simp only [hexecuted]
    intro set otherIp expiry hentry
    by_cases hkey : (set, otherIp) = (added.set, sourceIp)
    · obtain ⟨rfl, rfl⟩ := Prod.mk.inj hkey
      rw [hself, Option.some.injEq] at hentry
      exact ⟨added, hadded, rfl, _, Or.inr ⟨rfl, rfl⟩, hentry.symm⟩
    · rw [hother set otherIp hkey] at hentry
      obtain ⟨listing, hlisting, hset, finished, hfinished, hexpiry⟩ :=
        hledger.explained set otherIp expiry hentry
      exact ⟨listing, hlisting, hset, finished, Or.inl hfinished, hexpiry⟩
  · simp only [hexecuted]
    rintro listing otherIp finished (hearlier | ⟨-, rfl⟩)
    · exact (hledger.past listing otherIp finished hearlier).trans hnow
    · exact le_refl _
  · simp only [hexecuted]
    intro hnames listing hlisting otherIp finished hfinished
    by_cases hkey : (listing.set, otherIp) = (added.set, sourceIp)
    · obtain ⟨hset, rfl⟩ := Prod.mk.inj hkey
      obtain rfl := listing_eq hnames hlisting hadded hset
      refine ⟨_, ?_, hself⟩
      rcases hfinished with hearlier | ⟨-, rfl⟩
      · exact (hledger.past listing otherIp finished hearlier).trans hnow
      · exact le_refl _
    · rw [hother listing.set otherIp hkey]
      have hearlier := hfinished.resolve_right fun hnew =>
        hkey (Prod.ext (Listing.command_injective hnew.1).1
          (Listing.command_injective hnew.1).2)
      exact hledger.kept hnames listing hlisting otherIp finished hearlier

theorem Ledger.concat (hledger : Ledger config system events)
    (hconsistent : Consistent config (system.run config events))
    (event : Event N) : Ledger config system (events ++ [event]) := by
  have hstepped := hconsistent.stepped event
  have hrun := system.run_concat config events event
  generalize hstep : (system.run config events).step config event = result
    at hstepped hrun
  cases hstepped with
  | other event after reports _ _ hkernel =>
      exact hledger.concat_unentered (by rw [hstep, hrun]; exact hkernel)
  | setup schedule after reports hkernel =>
      exact hledger.concat_unentered (by rw [hstep, hrun]; exact hkernel)
  | added addr protocol port payloadSize schedule process _ after added
      duration hjudged hkernel =>
      exact hledger.concat_added (hjudged.imp And.left And.left)
        (congrArg Prod.snd hstep) ((congrArg System.kernel hrun).trans hkernel)

theorem ledger_run (config : ValidConfig) (host : Host) (now : ℕ)
    (events : List (Event N)) : Ledger config (quiet host now) events := by
  induction events using List.reverseRecOn with
  | nil => exact ledger_quiet config host now
  | append_singleton events event ih =>
      exact ih.concat ((consistent_quiet config host now).run events) event

/-- A set holds an address exactly while the timeout of some command that has
added it runs. -/
theorem Ledger.members_iff (hledger : Ledger config system events)
    (hnames : config.ipsetName ≠ config.banIpsetName) {listing : Listing}
    (hlisting : listing = config.allowList ∨ listing = config.banList)
    (sourceIp : IpAddr) :
    (system.run config events).kernel.members listing.set sourceIp = true ↔
      ∃ finished,
        Executed config system events (listing.command sourceIp) finished ∧
          (system.run config events).kernel.now <
            finished + listing.duration := by
  have hexplained := hledger.explained listing.set sourceIp
  have hkept := hledger.kept hnames listing hlisting sourceIp
  rw [Kernel.members, Kernel.holds]
  constructor
  · intro hheld
    generalize (system.run config events).kernel.entries.get
      (listing.set, toString sourceIp) = entry at hheld hexplained
    cases entry with
    | none => cases hheld
    | some expiry =>
        obtain ⟨found, hfound, hset, finished, hfinished, rfl⟩ :=
          hexplained expiry rfl
        obtain rfl := listing_eq hnames hfound hlisting hset
        exact ⟨finished, hfinished, of_decide_eq_true hheld⟩
  · rintro ⟨finished, hfinished, hlive⟩
    obtain ⟨renewed, hrenewed, hentry⟩ := hkept finished hfinished
    rw [hentry]
    exact decide_eq_true (hlive.trans_le (Nat.add_le_add_right hrenewed _))

end System

end SshKnock
