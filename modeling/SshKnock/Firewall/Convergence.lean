import SshKnock.Core.Recovery
import SshKnock.Firewall.Host

/-!
# The setup converges

The setup is five steps, each settled once it has run: two sets to create and
three rules to make sure of.  A run that fails at any command has performed
some first steps and nothing else, so running the setup again after any
failures reaches the state of one run that never failed.
-/

namespace SshKnock

open Fallible CommandRunner
open SshKnock.RuleChain (Position)

namespace Host

def ensureRule (position : Position) (rule : Rule) (host : Host) : Host :=
  { host with chain := RuleChain.ensure position rule host.chain }

theorem settled_createSet_iff {name : String} {options : List String}
    {host : Host} :
    Recovery.Settled (createSet name options) host ↔
      host.sets.containsKey name = true := by
  rw [Recovery.Settled, createSet]
  split
  · next hexists => simp [hexists]
  · next hmissing =>
      constructor
      · intro hsame
        have hsets : host.sets.insert name options = host.sets :=
          congrArg Host.sets hsame
        rw [← hsets, HashMap.containsKey, HashMap.get_insert_self]
        rfl
      · exact fun hexists => absurd hexists hmissing

theorem settled_ensureRule_iff {position : Position} {rule : Rule}
    {host : Host} :
    Recovery.Settled (ensureRule position rule) host ↔ rule ∈ host.chain := by
  rw [Recovery.Settled]
  constructor
  · intro hsame
    rw [← hsame]
    exact RuleChain.mem_ensure_self position rule host.chain
  · intro hmem
    rw [ensureRule, RuleChain.ensure_of_mem hmem]

end Host

/-- The two kinds of step the setup is made of. -/
inductive SetupStep : (Host → Host) → Prop where
  | createSet (name : String) (options : List String) :
      SetupStep (Host.createSet name options)
  | ensureRule (position : Position) (rule : Rule) :
      SetupStep (Host.ensureRule position rule)

namespace SetupStep

theorem settles {step : Host → Host} (hstep : SetupStep step) (host : Host) :
    Recovery.Settled step (step host) := by
  cases hstep with
  | createSet name options =>
      rw [Host.settled_createSet_iff, Host.createSet]
      split
      · next hexists => exact hexists
      · rw [HashMap.containsKey, HashMap.get_insert_self]
        rfl
  | ensureRule position rule =>
      rw [Host.settled_ensureRule_iff]
      exact RuleChain.mem_ensure_self position rule host.chain

theorem containsKey_of_step {step : Host → Host} (hstep : SetupStep step)
    {host : Host} {name : String}
    (hexists : host.sets.containsKey name = true) :
    (step host).sets.containsKey name = true := by
  cases hstep with
  | ensureRule position rule => exact hexists
  | createSet other options =>
      rw [Host.createSet]
      split
      · exact hexists
      · by_cases hname : name = other
        · rw [hname, HashMap.containsKey, HashMap.get_insert_self]
          rfl
        · rw [HashMap.containsKey, HashMap.get_insert_of_ne _ _ hname]
          exact hexists

theorem mem_chain_of_step {step : Host → Host} (hstep : SetupStep step)
    {host : Host} {rule : Rule} (hmem : rule ∈ host.chain) :
    rule ∈ (step host).chain := by
  cases hstep with
  | ensureRule position other => exact RuleChain.mem_ensure_of_mem hmem
  | createSet name options =>
      rw [Host.createSet]
      split <;> exact hmem

/-- No step unsettles another: sets and rules are only added. -/
theorem stays {step other : Host → Host} (hstep : SetupStep step)
    (hother : SetupStep other) (host : Host)
    (hsettled : Recovery.Settled step host) :
    Recovery.Settled step (other host) := by
  cases hstep with
  | createSet name options =>
      rw [Host.settled_createSet_iff] at hsettled ⊢
      exact hother.containsKey_of_step hsettled
  | ensureRule position rule =>
      rw [Host.settled_ensureRule_iff] at hsettled ⊢
      exact hother.mem_chain_of_step hsettled

theorem recoverable {steps : List (Host → Host)}
    (hsteps : ∀ step ∈ steps, SetupStep step) :
    Recovery.Recoverable steps where
  settles step hstep := (hsteps step hstep).settles
  stays step hstep other hother := (hsteps step hstep).stays (hsteps other hother)

end SetupStep

namespace FaultyHost

/-- Everything a command can be answered. -/
inductive Answered (host : Host) (spec : CommandSpec) :
    Except Error CommandStatus × Host → Prop where
  | regular : Answered host spec
      (.ok (host.execute spec).1, (host.execute spec).2)
  | notStarted (error : Error) : Answered host spec (.error error, host)
  | failed (status : CommandStatus) (hfailed : status.success = false)
      (hcode : spec.checkedRule?.isSome = true → status.code ≠ some 1) :
      Answered host spec (.ok status, host)

theorem answered (host : Host) (spec : CommandSpec) (fault : Option Fault) :
    Answered host spec (answer host spec fault) := by
  cases fault with
  | none => exact .regular
  | some fault =>
      cases fault with
      | notStarted error => exact .notStarted error
      | exited code diagnostics =>
          simp only [answer]
          split
          · exact .regular
          · next hfault =>
              apply Answered.failed ⟨false, code, diagnostics⟩ rfl
              intro hcheck hcode
              exact hfault (by rw [hcheck, decide_eq_true hcode]; rfl)

/-- `command` performs some first steps of `steps` and stops, or performs all
of them; nothing but a fault stops it, and what it adds it has checked. -/
structure Attempts (command : CommandM FaultyHost Unit)
    (steps : List (Host → Host)) : Prop where
  stops : ∀ faulty, ∃ count, (perform command faulty).2.host =
    Recovery.run (steps.take count) faulty.host
  finishes : ∀ faulty, (perform command faulty).1 = .ok () →
    (perform command faulty).2.host = Recovery.run steps faulty.host
  faultless : ∀ faulty, faulty.schedule = [] →
    (perform command faulty).1 = .ok () ∧
      (perform command faulty).2.schedule = []
  reports : ∀ faulty, ∃ new,
    (perform command faulty).2.history = faulty.history ++ new ∧ Checked new

/-- One attempt after another. -/
theorem Attempts.bind {first second : CommandM FaultyHost Unit}
    {firstSteps secondSteps : List (Host → Host)}
    (hfirst : Attempts first firstSteps)
    (hsecond : Attempts second secondSteps) :
    Attempts (first >>= fun _ => second) (firstSteps ++ secondSteps) where
  stops faulty := by
    obtain ⟨count, hstops⟩ := hfirst.stops faulty
    have hfinishes := hfirst.finishes faulty
    rw [perform_bind]
    cases hresult : perform first faulty with
    | mk result after =>
        rw [hresult] at hstops hfinishes
        cases result with
        | error error =>
            refine ⟨min count firstSteps.length, hstops.trans ?_⟩
            rw [List.take_append_of_le_length (Nat.min_le_right _ _),
              ← List.take_take, List.take_length]
        | ok value =>
            obtain ⟨more, hmore⟩ := hsecond.stops after
            refine ⟨firstSteps.length + more, hmore.trans ?_⟩
            rw [hfinishes rfl, List.take_length_add_append,
              Recovery.run_append]
  finishes faulty := by
    have hfinishes := hfirst.finishes faulty
    rw [perform_bind]
    cases hresult : perform first faulty with
    | mk result after =>
        rw [hresult] at hfinishes
        cases result with
        | error error => exact fun hok => absurd hok (by simp)
        | ok value =>
            intro hok
            rw [hsecond.finishes after hok, hfinishes rfl, Recovery.run_append]
  faultless faulty hschedule := by
    obtain ⟨hok, hrest⟩ := hfirst.faultless faulty hschedule
    rw [perform_bind_ok (Prod.ext hok rfl)]
    exact hsecond.faultless _ hrest
  reports faulty := by
    obtain ⟨new, hnew, hchecked⟩ := hfirst.reports faulty
    rw [perform_bind]
    cases hresult : perform first faulty with
    | mk result after =>
        rw [hresult] at hnew
        cases result with
        | error error => exact ⟨new, hnew, hchecked⟩
        | ok value =>
            obtain ⟨more, hmore, hcheckedMore⟩ := hsecond.reports after
            refine ⟨new ++ more, hmore.trans ?_, hchecked.append hcheckedMore⟩
            rw [hnew, List.append_assoc]

theorem perform_runStatus (spec : CommandSpec) (faulty : FaultyHost) :
    perform (runStatus spec) faulty = faulty.execute spec := rfl

theorem execute_of_no_schedule {faulty : FaultyHost}
    (hschedule : faulty.schedule = []) (spec : CommandSpec) :
    faulty.execute spec =
      (.ok (faulty.host.execute spec).1,
        ⟨(faulty.host.execute spec).2, [],
          faulty.history ++ [⟨spec, .ok (faulty.host.execute spec).1⟩]⟩) := by
  rw [execute]
  rw [hschedule]
  rfl

/-- Either the step is done, or the command fails and the host is as before. -/
def AllOrNothing (command : CommandM FaultyHost Unit) (step : Host → Host) :
    Prop :=
  ∀ faulty,
    (perform command faulty).1 = .ok () ∧
        (perform command faulty).2.host = step faulty.host ∨
      (∃ error, (perform command faulty).1 = .error error) ∧
        (perform command faulty).2.host = faulty.host

theorem AllOrNothing.attempts {command : CommandM FaultyHost Unit}
    {step : Host → Host} (hcommand : AllOrNothing command step)
    (hfaultless : ∀ faulty, faulty.schedule = [] →
      (perform command faulty).1 = .ok () ∧
        (perform command faulty).2.schedule = [])
    (hreports : ∀ faulty, ∃ new,
      (perform command faulty).2.history = faulty.history ++ new ∧
        Checked new) : Attempts command [step] where
  stops faulty := by
    rcases hcommand faulty with ⟨_, hdone⟩ | ⟨_, hsame⟩
    · exact ⟨1, hdone⟩
    · exact ⟨0, hsame⟩
  finishes faulty hok := by
    rcases hcommand faulty with ⟨_, hdone⟩ | ⟨⟨error, herror⟩, _⟩
    · exact hdone
    · exact absurd (hok.symm.trans herror) (by simp)
  faultless := hfaultless
  reports := hreports

theorem allOrNothing_run {spec : CommandSpec} {step : Host → Host}
    (hstep : ∀ host : Host, host.execute spec = (Host.succeeded, step host)) :
    AllOrNothing (run spec) step := by
  intro faulty
  rw [perform_run, perform_runStatus, execute]
  have hanswered := answered faulty.host spec (faulty.schedule.headD none)
  generalize answer faulty.host spec (faulty.schedule.headD none) = result
    at hanswered ⊢
  cases hanswered with
  | regular =>
      rw [hstep]
      exact Or.inl ⟨rfl, rfl⟩
  | notStarted error => exact Or.inr ⟨⟨error, rfl⟩, rfl⟩
  | failed status hfailed =>
      exact Or.inr ⟨⟨status.diagnostics, by simp [required, hfailed]⟩, rfl⟩

/-- A command that works unless it meets a fault is one step. -/
theorem attempts_run {spec : CommandSpec} {step : Host → Host}
    (hstep : ∀ host : Host, host.execute spec = (Host.succeeded, step host))
    (hother : spec.addedRule? = none) : Attempts (run spec) [step] := by
  apply (allOrNothing_run hstep).attempts
  · intro faulty hschedule
    rw [perform_run, perform_runStatus, execute_of_no_schedule hschedule, hstep]
    exact ⟨rfl, rfl⟩
  · intro faulty
    rw [perform_run, perform_runStatus]
    exact ⟨_, rfl, checked_singleton hother⟩

/-- The commands that check a rule and add it. -/
structure EnsurePair (position : Position) (rule : Rule)
    (check apply : CommandSpec) : Prop where
  execute_check : ∀ host : Host, host.execute check =
    (if rule ∈ host.chain then Host.succeeded else Host.exitedWith 1, host)
  execute_apply : ∀ host : Host, host.execute apply =
    (Host.succeeded,
      { host with chain := RuleChain.add position rule host.chain })
  program_eq : check.program = apply.program
  checkedRule : check.checkedRule? = some rule
  check_addedRule : check.addedRule? = none
  apply_addedRule : apply.addedRule? = some rule

variable {position : Position} {rule : Rule} {check apply : CommandSpec}

theorem EnsurePair.allOrNothing (hpair : EnsurePair position rule check apply) :
    AllOrNothing (Firewall.ensureIptablesRule check apply)
      (Host.ensureRule position rule) := by
  intro faulty
  rw [Firewall.perform_ensureIptablesRule, perform_runStatus, execute]
  have hanswered := answered faulty.host check (faulty.schedule.headD none)
  generalize answer faulty.host check (faulty.schedule.headD none) = result
    at hanswered ⊢
  cases hanswered with
  | regular =>
      rw [hpair.execute_check]
      by_cases hmem : rule ∈ faulty.host.chain
      · simp only [if_pos hmem, Host.ensureRule, RuleChain.ensure_of_mem hmem]
        exact Or.inl ⟨rfl, rfl⟩
      · simp only [if_neg hmem, Host.ensureRule,
          RuleChain.ensure_of_notMem hmem]
        exact allOrNothing_run hpair.execute_apply _
  | notStarted error => exact Or.inr ⟨⟨error, rfl⟩, rfl⟩
  | failed status hfailed hcode =>
      have hother := hcode (by rw [hpair.checkedRule]; rfl)
      simp only [hfailed, Bool.false_eq_true, if_false, if_neg hother]
      exact Or.inr ⟨⟨status.diagnostics, rfl⟩, trivial⟩

theorem EnsurePair.attempts (hpair : EnsurePair position rule check apply) :
    Attempts (Firewall.ensureIptablesRule check apply)
      [Host.ensureRule position rule] := by
  apply hpair.allOrNothing.attempts
  · intro faulty hschedule
    rw [Firewall.perform_ensureIptablesRule, perform_runStatus,
      execute_of_no_schedule hschedule, hpair.execute_check]
    by_cases hmem : rule ∈ faulty.host.chain
    · simp only [if_pos hmem]
      exact ⟨rfl, rfl⟩
    · simp only [if_neg hmem, perform_run, perform_runStatus]
      rw [execute_of_no_schedule rfl, hpair.execute_apply]
      exact ⟨rfl, rfl⟩
  · intro faulty
    have hsingle : ∀ answer, Checked [⟨check, answer⟩] :=
      fun answer => checked_singleton hpair.check_addedRule
    rw [Firewall.perform_ensureIptablesRule, perform_runStatus, execute]
    generalize answer faulty.host check (faulty.schedule.headD none) = result
    obtain ⟨answer, host⟩ := result
    cases answer with
    | error error => exact ⟨_, rfl, hsingle _⟩
    | ok status =>
        simp only
        split
        · exact ⟨_, rfl, hsingle _⟩
        split
        · next hcode =>
            rw [perform_run, perform_runStatus]
            refine ⟨_, List.append_assoc _ _ _, ?_⟩
            exact checked_pair hpair.program_eq hpair.checkedRule
              hpair.check_addedRule hpair.apply_addedRule hcode
        · exact ⟨_, rfl, hsingle _⟩

end FaultyHost

namespace Firewall

open FaultyHost

/-- The options a set is created with. -/
def setOptions (firewall : Firewall) (timeout : UInt64) : List String :=
  ["hash:ip", "timeout", toString timeout] ++
    (if firewall.addressFamily = .ipv6 then ["family", "inet6"] else []) ++
    ["-exist"]

/-- What the setup does to a host, step by step. -/
def setupSteps (firewall : Firewall) (sshPort : UInt16) :
    List (Host → Host) :=
  [Host.createSet firewall.ipsetName (firewall.setOptions firewall.ipTimeout),
    Host.createSet firewall.banIpsetName
      (firewall.setOptions firewall.banTimeout),
    Host.ensureRule .first (firewall.iptablesAllowRuleArgs sshPort),
    Host.ensureRule .last (firewall.iptablesDropRuleArgs sshPort),
    Host.ensureRule .first firewall.iptablesBanDropRuleArgs]

theorem attempts_createSet (firewall : Firewall) (name : String)
    (timeout : UInt64) :
    Attempts (run (firewall.createSetCommand name timeout))
      [Host.createSet name (firewall.setOptions timeout)] := by
  apply attempts_run
  · intro host
    have hcommand : (firewall.createSetCommand name timeout).args =
        "create" :: name :: firewall.setOptions timeout := rfl
    have hexist : (firewall.setOptions timeout).elem "-exist" = true := by
      simp [setOptions]
    rw [Host.execute]
    rw [hcommand]
    simp only [createSetCommand, hexist, Bool.not_true, Bool.and_false,
      Bool.false_eq_true, if_false]
  · rfl

theorem ensurePair (firewall : Firewall) (rule : Rule) :
    EnsurePair .first rule
        ⟨firewall.firewallProgram, ["-C", "INPUT"] ++ rule⟩
        ⟨firewall.firewallProgram, ["-I", "INPUT", "1"] ++ rule⟩ ∧
      EnsurePair .last rule
        ⟨firewall.firewallProgram, ["-C", "INPUT"] ++ rule⟩
        ⟨firewall.firewallProgram, ["-A", "INPUT"] ++ rule⟩ := by
  rw [firewallProgram]
  cases firewall.backend <;>
    exact ⟨⟨fun _ => rfl, fun _ => rfl, rfl, rfl, rfl, rfl⟩,
      ⟨fun _ => rfl, fun _ => rfl, rfl, rfl, rfl, rfl⟩⟩

theorem attempts_setup (firewall : Firewall) (sshPort : UInt16) :
    Attempts (firewall.setup sshPort) (firewall.setupSteps sshPort) := by
  have hallow := (firewall.ensurePair
    (firewall.iptablesAllowRuleArgs sshPort)).1.attempts
  have hdrop := (firewall.ensurePair
    (firewall.iptablesDropRuleArgs sshPort)).2.attempts
  have hban := (firewall.ensurePair firewall.iptablesBanDropRuleArgs).1.attempts
  exact (firewall.attempts_createSet _ _).bind
    ((firewall.attempts_createSet _ _).bind (hallow.bind (hdrop.bind hban)))

theorem recoverable_setupSteps (firewall : Firewall) (sshPort : UInt16) :
    Recovery.Recoverable (firewall.setupSteps sshPort) := by
  apply SetupStep.recoverable
  simp only [setupSteps, List.forall_mem_cons, List.not_mem_nil,
    false_implies, implies_true, and_true]
  exact ⟨.createSet _ _, .createSet _ _, .ensureRule _ _, .ensureRule _ _,
    .ensureRule _ _⟩

/-- The rules of the daemon for one SSH port. -/
def ownRules (firewall : Firewall) (sshPort : UInt16) : List Rule :=
  [firewall.iptablesAllowRuleArgs sshPort,
    firewall.iptablesDropRuleArgs sshPort, firewall.iptablesBanDropRuleArgs]

theorem allow_ne_drop (firewall : Firewall) (sshPort otherPort : UInt16) :
    firewall.iptablesAllowRuleArgs sshPort ≠
      firewall.iptablesDropRuleArgs otherPort :=
  fun hsame => absurd (congrArg List.length hsame) (Nat.ne_of_beq_eq_false rfl)

theorem allow_ne_ban (firewall : Firewall) (sshPort : UInt16) :
    firewall.iptablesAllowRuleArgs sshPort ≠
      firewall.iptablesBanDropRuleArgs :=
  fun hsame => absurd (congrArg List.length hsame) (Nat.ne_of_beq_eq_false rfl)

theorem drop_ne_ban (firewall : Firewall) (sshPort : UInt16) :
    firewall.iptablesDropRuleArgs sshPort ≠
      firewall.iptablesBanDropRuleArgs :=
  fun hsame => absurd (congrArg List.length hsame) (Nat.ne_of_beq_eq_false rfl)

/-- A setup run on `host` under a schedule of faults. -/
def setupWith (firewall : Firewall) (sshPort : UInt16)
    (schedule : List (Option Fault)) (host : Host) :
    Except Error Unit × FaultyHost :=
  perform (firewall.setup sshPort) ⟨host, schedule, []⟩

/-- The host after a setup run that nothing disturbs. -/
def setupOnce (firewall : Firewall) (sshPort : UInt16) (host : Host) : Host :=
  (firewall.setupWith sshPort [] host).2.host

/-- The host after setup runs under each of the schedules in turn. -/
def setupAfter (firewall : Firewall) (sshPort : UInt16)
    (schedules : List (List (Option Fault))) (host : Host) : Host :=
  schedules.foldl
    (fun host schedule => (firewall.setupWith sshPort schedule host).2.host)
    host

/-- What the steps do to the host, a setup does, wherever it fails. -/
theorem setupWith_relates (firewall : Firewall) (sshPort : UInt16)
    {Relates : Host → Host → Prop} (hrefl : ∀ host, Relates host host)
    (htrans : ∀ {first second third}, Relates first second →
      Relates second third → Relates first third)
    (hsteps : ∀ step ∈ firewall.setupSteps sshPort, ∀ host,
      Relates host (step host))
    (schedule : List (Option Fault)) (host : Host) :
    Relates host (firewall.setupWith sshPort schedule host).2.host := by
  obtain ⟨count, hstops⟩ :=
    (firewall.attempts_setup sshPort).stops ⟨host, schedule, []⟩
  rw [setupWith, hstops]
  exact Recovery.run_relates hrefl htrans (fun step hstep =>
    hsteps step (List.mem_of_mem_take hstep)) host

theorem setupWith_nil_ok (firewall : Firewall) (sshPort : UInt16)
    (host : Host) : (firewall.setupWith sshPort [] host).1 = .ok () :=
  ((firewall.attempts_setup sshPort).faultless ⟨host, [], []⟩ rfl).1

theorem setupOnce_eq (firewall : Firewall) (sshPort : UInt16) (host : Host) :
    firewall.setupOnce sshPort host =
      Recovery.run (firewall.setupSteps sshPort) host :=
  (firewall.attempts_setup sshPort).finishes _
    (firewall.setupWith_nil_ok sshPort host)

/-- Whatever failed in earlier runs, a whole setup leaves what a single one
would have. -/
theorem setupOnce_setupAfter (firewall : Firewall) (sshPort : UInt16)
    (schedules : List (List (Option Fault))) (host : Host) :
    firewall.setupOnce sshPort (firewall.setupAfter sshPort schedules host) =
      firewall.setupOnce sshPort host := by
  induction schedules generalizing host with
  | nil => rfl
  | cons schedule schedules ih =>
      obtain ⟨count, hcount⟩ :=
        (firewall.attempts_setup sshPort).stops ⟨host, schedule, []⟩
      have hfirst : (firewall.setupWith sshPort schedule host).2.host =
          Recovery.run ((firewall.setupSteps sshPort).take count) host := hcount
      calc
        firewall.setupOnce sshPort (firewall.setupAfter sshPort schedules
            (firewall.setupWith sshPort schedule host).2.host) =
            firewall.setupOnce sshPort
              (firewall.setupWith sshPort schedule host).2.host := ih _
        _ = firewall.setupOnce sshPort host := by
          rw [setupOnce_eq, setupOnce_eq, hfirst,
            (firewall.recoverable_setupSteps sshPort).run_run_take]

/-- The chain after an undisturbed setup. -/
theorem chain_setupOnce (firewall : Firewall) (sshPort : UInt16)
    (host : Host) :
    (firewall.setupOnce sshPort host).chain =
      RuleChain.ensure .first firewall.iptablesBanDropRuleArgs
        (RuleChain.ensure .last (firewall.iptablesDropRuleArgs sshPort)
          (RuleChain.ensure .first (firewall.iptablesAllowRuleArgs sshPort)
            host.chain)) := by
  have hcreate : ∀ (name : String) (options : List String) (host : Host),
      (host.createSet name options).chain = host.chain := by
    intro name options host
    rw [Host.createSet]
    split <;> rfl
  simp only [setupOnce_eq, setupSteps, Recovery.run_cons, Recovery.run_nil,
    Host.ensureRule, hcreate]

theorem count_ownRules (firewall : Firewall) (sshPort : UInt16) (host : Host) :
    ∀ rule ∈ firewall.ownRules sshPort,
      (firewall.setupOnce sshPort host).chain.count rule =
        max 1 (host.chain.count rule) := by
  have hallowDrop := firewall.allow_ne_drop sshPort sshPort
  have hallowBan := firewall.allow_ne_ban sshPort
  have hdropBan := firewall.drop_ne_ban sshPort
  rw [chain_setupOnce]
  simp only [ownRules, List.forall_mem_cons, List.not_mem_nil, false_implies,
    implies_true, and_true]
  refine ⟨?_, ?_, ?_⟩
  · rw [RuleChain.count_ensure_of_ne _ hallowBan,
      RuleChain.count_ensure_of_ne _ hallowDrop, RuleChain.count_ensure_self]
  · rw [RuleChain.count_ensure_of_ne _ hdropBan, RuleChain.count_ensure_self,
      RuleChain.count_ensure_of_ne _ hallowDrop.symm]
  · rw [RuleChain.count_ensure_self,
      RuleChain.count_ensure_of_ne _ hdropBan.symm,
      RuleChain.count_ensure_of_ne _ hallowBan.symm]

theorem filter_foreign (firewall : Firewall) (sshPort : UInt16) (host : Host) :
    (firewall.setupOnce sshPort host).chain.filter
        (fun rule => rule ∉ firewall.ownRules sshPort) =
      host.chain.filter (fun rule => rule ∉ firewall.ownRules sshPort) := by
  rw [chain_setupOnce, RuleChain.filter_ensure_of_neg,
    RuleChain.filter_ensure_of_neg, RuleChain.filter_ensure_of_neg] <;>
    simp [ownRules]

/-- The setup recovers from any failures: a run without faults succeeds and
leaves the host as one undisturbed run would have, with every rule of the
daemon present, no foreign rule moved and nothing left to do; and no run, failed
or not, adds a rule that its own check did not just report absent. -/
theorem setup_converges (firewall : Firewall) (sshPort : UInt16) (host : Host)
    (schedules : List (List (Option Fault))) :
    (firewall.setupWith sshPort []
        (firewall.setupAfter sshPort schedules host)).1 = .ok () ∧
      firewall.setupOnce sshPort (firewall.setupAfter sshPort schedules host) =
        firewall.setupOnce sshPort host ∧
      (∀ rule ∈ firewall.ownRules sshPort,
        (firewall.setupOnce sshPort host).chain.count rule =
          max 1 (host.chain.count rule)) ∧
      (firewall.setupOnce sshPort host).chain.filter
          (fun rule => rule ∉ firewall.ownRules sshPort) =
        host.chain.filter (fun rule => rule ∉ firewall.ownRules sshPort) ∧
      firewall.setupOnce sshPort (firewall.setupOnce sshPort host) =
        firewall.setupOnce sshPort host ∧
      ∀ schedule host,
        Checked (firewall.setupWith sshPort schedule host).2.history := by
  refine ⟨firewall.setupWith_nil_ok sshPort _,
    firewall.setupOnce_setupAfter sshPort schedules host,
    firewall.count_ownRules sshPort host, firewall.filter_foreign sshPort host,
    ?_, ?_⟩
  · rw [setupOnce_eq, setupOnce_eq,
      (firewall.recoverable_setupSteps sshPort).run_run]
  · intro schedule host
    obtain ⟨new, hnew, hchecked⟩ :=
      (firewall.attempts_setup sshPort).reports ⟨host, schedule, []⟩
    rw [setupWith, hnew]
    exact hchecked

end Firewall

end SshKnock
