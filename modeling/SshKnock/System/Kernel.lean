import SshKnock.Core.Coupled
import SshKnock.Firewall.Policy
import SshKnock.Time

/-!
# The kernel behind the commands

Beside the chain and the sets of the host, the kernel keeps the entries of the
sets, each until its timeout.  An added address is found in its set until then,
and adding it again starts its timeout anew.
-/

namespace SshKnock

open Fallible CommandRunner

/-- The number that a decimal numeral denotes. -/
def readNumeral (text : String) : Option ℕ :=
  if text.toList ≠ [] ∧ text.toList.all Char.isDigit = true then
    some (Nat.ofDigitChars 10 text.toList 0)
  else none

/-- A printed number is read back. -/
theorem readNumeral_repr (number : ℕ) :
    readNumeral (Nat.repr number) = some number := by
  have hdigits : (Nat.repr number).toList = Nat.toDigits 10 number :=
    Nat.toList_repr
  have hall : (Nat.toDigits 10 number).all Char.isDigit = true :=
    List.all_eq_true.mpr fun _ hmem =>
      Nat.isDigit_of_mem_toDigits (by decide) (by decide) hmem
  rw [readNumeral, hdigits, if_pos ⟨Nat.toDigits_ne_nil, hall⟩,
    Nat.ofDigitChars_ten_toDigits]

/-! ## Entries of a set -/

namespace Ipset

/-- The timeout among the options, in seconds. -/
def timeout? : List String → Option ℕ
  | "timeout" :: seconds :: _ => readNumeral seconds
  | _ :: options => timeout? options
  | [] => none

/-- The addresses that a set created with the options takes. -/
def family (options : List String) : AddressFamily :=
  if "inet6" ∈ options then .ipv6 else .ipv4

def entryFamily (entry : String) : AddressFamily :=
  if ':' ∈ entry.toList then .ipv6 else .ipv4

end Ipset

/-- A kernel and its clock.  An entry without an expiry is permanent. -/
structure Kernel where
  host : Host
  entries : HashMap (String × String) (Option ℕ)
  now : ℕ

namespace Kernel

/-- Whether the set holds the entry now. -/
def holds (kernel : Kernel) (set entry : String) : Bool :=
  match kernel.entries.get (set, entry) with
  | none => false
  | some none => true
  | some (some expiresAt) => kernel.now < expiresAt

def members (kernel : Kernel) : Members :=
  fun set sourceIp => kernel.holds set (toString sourceIp)

def elapse (kernel : Kernel) (duration : ℕ) : Kernel :=
  { kernel with now := kernel.now + duration }

/-- When a timeout that starts now ends; a timeout of zero never ends. -/
def expiry (kernel : Kernel) : Option ℕ → Option ℕ
  | none | some 0 => none
  | some seconds => some (kernel.now + seconds * Duration.nanosPerSec)

/-- Add an entry to a set that was created with the options `declared`. -/
def addEntry (kernel : Kernel) (set entry : String)
    (options declared : List String) : CommandStatus × Kernel :=
  if Ipset.entryFamily entry ≠ Ipset.family declared then
    (Host.exitedWith 1, kernel)
  else if kernel.holds set entry && !options.elem "-exist" then
    (Host.exitedWith 1, kernel)
  else
    let seconds := (Ipset.timeout? options).or (Ipset.timeout? declared)
    (Host.succeeded, { kernel with
      entries := kernel.entries.insert (set, entry) (kernel.expiry seconds) })

/-- The answer to a command and the kernel after it. -/
def execute (kernel : Kernel) (spec : CommandSpec) : CommandStatus × Kernel :=
  match spec.program, spec.args with
  | "ipset", "add" :: set :: entry :: options =>
      match kernel.host.sets.get set with
      | none => (Host.exitedWith 1, kernel)
      | some declared => kernel.addEntry set entry options declared
  | "ipset", ["list", set] =>
      (if kernel.host.sets.containsKey set then Host.succeeded
        else Host.exitedWith 1, kernel)
  | _, ["-S"] => (Host.succeeded, kernel)
  | _, _ =>
      let (status, host) := kernel.host.execute spec
      (status, { kernel with host })

/-- The answer of a command that meets `fault`. -/
def answer (kernel : Kernel) (spec : CommandSpec) :
    Option Fault → Except Error CommandStatus × Kernel
  | none => (.ok (kernel.execute spec).1, (kernel.execute spec).2)
  | some (.notStarted error) => (.error error, kernel)
  | some (.exited code diagnostics) =>
      if spec.checkedRule?.isSome && code = some 1 then
        (.ok (kernel.execute spec).1, (kernel.execute spec).2)
      else (.ok { success := false, code, diagnostics }, kernel)

end Kernel

/-! ## Sessions -/

/-- A kernel that one process sends its commands to: `schedule` says how long
the next commands take and what befalls them. -/
structure Session where
  kernel : Kernel
  schedule : List (ℕ × Option Fault)
  reports : List Report

namespace Session

def execute (session : Session) (spec : CommandSpec) :
    Except Error CommandStatus × Session :=
  let (duration, fault) := session.schedule.headD (0, none)
  let (answer, kernel) := (session.kernel.elapse duration).answer spec fault
  (answer, { kernel, schedule := session.schedule.tail
             reports := session.reports ++ [⟨spec, answer⟩] })

instance : CommandRunner Session where
  runStatus spec := ExceptT.mk fun session => session.execute spec

theorem perform_runStatus (spec : CommandSpec) (session : Session) :
    perform (runStatus spec) session = session.execute spec := rfl

end Session

/-! ## The setup in the kernel -/

/-- A command that concerns the chain and the existence of sets only. -/
structure HostCommand (spec : CommandSpec) : Prop where
  adds_nothing : spec.addedEntry? = none
  execute_eq : ∀ kernel : Kernel, kernel.execute spec =
    ((kernel.host.execute spec).1,
      { kernel with host := (kernel.host.execute spec).2 })

/-- The session and the faulty host have the same host before them, and the
session has left the entries alone. -/
structure SetsUp (entries : HashMap (String × String) (Option ℕ)) (since : ℕ)
    (session : Session) (faulty : FaultyHost) : Prop where
  host_eq : session.kernel.host = faulty.host
  schedule_eq : faulty.schedule = session.schedule.map Prod.snd
  entries_eq : session.kernel.entries = entries
  since_le : since ≤ session.kernel.now
  adds_nothing : ∀ report ∈ session.reports, report.spec.addedEntry? = none

variable {entries : HashMap (String × String) (Option ℕ)} {since : ℕ}

theorem HostCommand.lockstep_runStatus {spec : CommandSpec}
    (hspec : HostCommand spec) :
    Lockstep (SetsUp entries since) (runStatus spec : CommandM Session _)
      (runStatus spec : CommandM FaultyHost _) := by
  apply Lockstep.of_perform
  rintro ⟨⟨host, entries', now⟩, schedule, reports⟩ ⟨host', schedule', history⟩
    ⟨rfl, rfl, rfl, hsince, hreports⟩
  have hexecute := hspec.execute_eq (Kernel.elapse ⟨host, entries', now⟩
    (schedule.headD (0, none)).1)
  have hlater : since ≤ now + (schedule.headD (0, none)).1 :=
    hsince.trans (Nat.le_add_right _ _)
  have hreported : ∀ answer, ∀ report ∈ reports ++ [⟨spec, answer⟩],
      report.spec.addedEntry? = none := fun answer =>
    List.forall_mem_append.mpr ⟨hreports,
      List.forall_mem_singleton.mpr hspec.adds_nothing⟩
  have hfault : (schedule.map Prod.snd).headD none =
      (schedule.headD (0, none)).2 := by
    cases schedule <;> rfl
  rw [Session.perform_runStatus, FaultyHost.perform_runStatus,
    Session.execute, FaultyHost.execute]
  simp only [hfault]
  generalize (schedule.headD (0, none)).2 = fault
  cases fault with
  | none =>
      simp only [Kernel.answer, FaultyHost.answer, hexecute]
      exact ⟨rfl, rfl, List.map_tail.symm, rfl, hlater, hreported _⟩
  | some fault =>
      cases fault with
      | notStarted error => exact ⟨rfl, rfl, List.map_tail.symm, rfl, hlater, hreported _⟩
      | exited code diagnostics =>
          simp only [Kernel.answer, FaultyHost.answer]
          split
          · simp only [hexecute]
            exact ⟨rfl, rfl, List.map_tail.symm, rfl, hlater, hreported _⟩
          · exact ⟨rfl, rfl, List.map_tail.symm, rfl, hlater, hreported _⟩

theorem HostCommand.lockstep_run {spec : CommandSpec}
    (hspec : HostCommand spec) :
    Lockstep (SetsUp entries since) (run spec : CommandM Session Unit)
      (run spec : CommandM FaultyHost Unit) := by
  apply Lockstep.bind hspec.lockstep_runStatus
  intro status
  split
  · exact Lockstep.throw _
  · exact Lockstep.pure ()

namespace Firewall

theorem lockstep_ensureIptablesRule {check apply : CommandSpec}
    (hcheck : HostCommand check) (happly : HostCommand apply) :
    Lockstep (SetsUp entries since)
      (ensureIptablesRule check apply : CommandM Session Unit)
      (ensureIptablesRule check apply : CommandM FaultyHost Unit) := by
  apply Lockstep.bind hcheck.lockstep_runStatus
  intro status
  split
  · exact Lockstep.pure ()
  split
  · exact happly.lockstep_run
  · exact Lockstep.throw _

theorem hostCommand_create (firewall : Firewall) (name : String)
    (timeout : UInt64) :
    HostCommand (firewall.createSetCommand name timeout) :=
  ⟨rfl, fun _ => rfl⟩

/-- Checking and adding a rule leaves the entries alone. -/
theorem hostCommand_rule (firewall : Firewall) (rule : Rule) :
    HostCommand ⟨firewall.firewallProgram, ["-C", "INPUT"] ++ rule⟩ ∧
      HostCommand ⟨firewall.firewallProgram, ["-I", "INPUT", "1"] ++ rule⟩ ∧
      HostCommand ⟨firewall.firewallProgram, ["-A", "INPUT"] ++ rule⟩ := by
  rw [firewallProgram]
  cases firewall.backend <;>
    exact ⟨⟨rfl, fun _ => rfl⟩, ⟨rfl, fun _ => rfl⟩, ⟨rfl, fun _ => rfl⟩⟩

theorem lockstep_setup (firewall : Firewall) (sshPort : UInt16) :
    Lockstep (SetsUp entries since)
      (firewall.setup sshPort : CommandM Session Unit)
      (firewall.setup sshPort : CommandM FaultyHost Unit) := by
  have hallow := firewall.hostCommand_rule
    (firewall.iptablesAllowRuleArgs sshPort)
  have hdrop := firewall.hostCommand_rule
    (firewall.iptablesDropRuleArgs sshPort)
  have hban := firewall.hostCommand_rule firewall.iptablesBanDropRuleArgs
  apply Lockstep.bind (firewall.hostCommand_create _ _).lockstep_run
  intro _
  apply Lockstep.bind (firewall.hostCommand_create _ _).lockstep_run
  intro _
  apply Lockstep.bind (lockstep_ensureIptablesRule hallow.1 hallow.2.1)
  intro _
  apply Lockstep.bind (lockstep_ensureIptablesRule hdrop.1 hdrop.2.2)
  intro _
  exact lockstep_ensureIptablesRule hban.1 hban.2.1

/-- In the kernel a setup does to the host what it does to a host alone, and
adds no entry. -/
theorem perform_setup (firewall : Firewall) (sshPort : UInt16)
    (session : Session)
    (hreports : ∀ report ∈ session.reports, report.spec.addedEntry? = none) :
    (perform (firewall.setup sshPort) session).1 =
        (firewall.setupWith sshPort (session.schedule.map Prod.snd)
          session.kernel.host).1 ∧
      SetsUp session.kernel.entries session.kernel.now
        (perform (firewall.setup sshPort) session).2
        (firewall.setupWith sshPort (session.schedule.map Prod.snd)
          session.kernel.host).2 :=
  (firewall.lockstep_setup sshPort).perform_eq
    ⟨rfl, rfl, rfl, le_refl _, hreports⟩

end Firewall

end SshKnock
