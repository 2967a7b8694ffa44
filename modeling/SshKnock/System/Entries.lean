import SshKnock.System.Kernel

/-!
# Commands that add entries

The daemon has two commands that change the kernel: each adds one address with
its timeout to one of the two sets.  A command that fails changes nothing, and
the commands of the preflight only look.
-/

namespace SshKnock

open Fallible CommandRunner

namespace Ipset

/-- Add an address to a set, or start its timeout anew. -/
def addCommand (set : String) (sourceIp : IpAddr) (timeout : UInt64) :
    CommandSpec :=
  { program := "ipset"
    args := ["add", set, toString sourceIp, "timeout", toString timeout,
      "-exist"] }

theorem timeout?_timeout (timeout : UInt64) (rest : List String) :
    timeout? ("timeout" :: toString timeout :: rest) = some timeout.toNat :=
  readNumeral_repr timeout.toNat

end Ipset

def IpAddr.family : IpAddr → AddressFamily
  | v4 _ => .ipv4
  | v6 _ => .ipv6

theorem Ipset.entryFamily_toString (sourceIp : IpAddr) :
    entryFamily (toString sourceIp) = sourceIp.family := by
  have hchars : (toString sourceIp).toList = sourceIp.chars :=
    String.toList_ofList
  rw [entryFamily, hchars]
  cases sourceIp with
  | v4 addr => exact if_neg addr.colon_notMem_chars
  | v6 addr => exact if_pos addr.colon_mem_chars

theorem Firewall.addIpCommand_eq (firewall : Firewall) (ip : IpAddr) :
    firewall.addIpCommand ip =
      Ipset.addCommand firewall.ipsetName ip firewall.ipTimeout := rfl

namespace Kernel

/-- The set exists and is for addresses of this kind. -/
def Takes (kernel : Kernel) (set : String) (sourceIp : IpAddr) : Prop :=
  ∃ declared, kernel.host.sets.get set = some declared ∧
    Ipset.entryFamily (toString sourceIp) = Ipset.family declared

/-- The kernel once the address is in the set, until the timeout. -/
def add (kernel : Kernel) (set : String) (sourceIp : IpAddr)
    (timeout : UInt64) : Kernel :=
  { kernel with
    entries := kernel.entries.insert (set, toString sourceIp)
      (some (kernel.now + Duration.fromSecs timeout)) }

variable {kernel : Kernel} {set : String} {sourceIp : IpAddr}
  {timeout : UInt64}

theorem expiry_eq (kernel : Kernel) (hpos : timeout ≠ 0) :
    kernel.expiry (some timeout.toNat) =
      some (kernel.now + Duration.fromSecs timeout) := by
  have hseconds : timeout.toNat ≠ 0 := fun hzero =>
    hpos (UInt64.toNat_inj.mp hzero)
  obtain ⟨seconds, hsucc⟩ := Nat.exists_eq_succ_of_ne_zero hseconds
  rw [Duration.fromSecs, hsucc]
  rfl

theorem execute_addCommand (htakes : kernel.Takes set sourceIp)
    (hpos : timeout ≠ 0) :
    kernel.execute (Ipset.addCommand set sourceIp timeout) =
      (Host.succeeded, kernel.add set sourceIp timeout) := by
  obtain ⟨declared, hdeclared, hfamily⟩ := htakes
  have hexecute : kernel.execute (Ipset.addCommand set sourceIp timeout) =
      kernel.addEntry set (toString sourceIp)
        ["timeout", toString timeout, "-exist"] declared := by
    simp only [execute, Ipset.addCommand, hdeclared]
  rw [hexecute, addEntry, if_neg (not_not.mpr hfamily), if_neg (by simp),
    Ipset.timeout?_timeout, Option.some_or]
  simp only [kernel.expiry_eq hpos]
  rfl

theorem execute_addCommand_of_not (htakes : ¬kernel.Takes set sourceIp) :
    kernel.execute (Ipset.addCommand set sourceIp timeout) =
      (Host.exitedWith 1, kernel) := by
  cases hset : kernel.host.sets.get set with
  | none => simp only [execute, Ipset.addCommand, hset]
  | some declared =>
      have hfamily : Ipset.entryFamily (toString sourceIp) ≠
          Ipset.family declared := fun hsame => htakes ⟨declared, hset, hsame⟩
      simp only [execute, Ipset.addCommand, hset, addEntry, if_pos hfamily]

/-- An added address stays in its set until its timeout, whatever else is
added. -/
theorem holds_add_self (kernel : Kernel) (set : String) (sourceIp : IpAddr)
    (timeout : UInt64) :
    (kernel.add set sourceIp timeout).entries.get (set, toString sourceIp) =
      some (some (kernel.now + Duration.fromSecs timeout)) :=
  HashMap.get_insert_self _ _ _

theorem entries_add_of_ne (kernel : Kernel) {set other : String}
    {sourceIp otherIp : IpAddr} (timeout : UInt64)
    (hne : (other, otherIp) ≠ (set, sourceIp)) :
    (kernel.add set sourceIp timeout).entries.get (other, toString otherIp) =
      kernel.entries.get (other, toString otherIp) := by
  apply HashMap.get_insert_of_ne
  intro hsame
  obtain ⟨hset, htext⟩ := Prod.mk.inj hsame
  exact hne (Prod.ext hset (IpAddr.toString_injective htext))

end Kernel

namespace Session

/-- Everything the command to add an address can lead to. -/
inductive Adds (session : Session) (set : String) (sourceIp : IpAddr)
    (timeout : UInt64) : Except Error Unit × Session → Prop where
  | added (duration : ℕ) (schedule : List (ℕ × Option Fault)) :
      Adds session set sourceIp timeout (.ok (),
        { kernel := (session.kernel.elapse duration).add set sourceIp timeout
          schedule
          reports := session.reports ++
            [⟨Ipset.addCommand set sourceIp timeout, .ok Host.succeeded⟩] })
  | failed (duration : ℕ) (schedule : List (ℕ × Option Fault))
      (answer : Except Error CommandStatus) (error : Error)
      (hfailed : required answer = .error error) :
      Adds session set sourceIp timeout (.error error,
        { kernel := session.kernel.elapse duration
          schedule
          reports := session.reports ++
            [⟨Ipset.addCommand set sourceIp timeout, answer⟩] })

variable {set : String} {sourceIp : IpAddr} {timeout : UInt64}

theorem perform_run (spec : CommandSpec) (session : Session) :
    perform (run spec) session =
      (required (session.execute spec).1, (session.execute spec).2) := by
  rw [CommandRunner.perform_run, perform_runStatus]

theorem adds (session : Session) (set : String) (sourceIp : IpAddr)
    (hpos : timeout ≠ 0) :
    Adds session set sourceIp timeout
      (perform (run (Ipset.addCommand set sourceIp timeout)) session) := by
  have hcheck : (Ipset.addCommand set sourceIp timeout).checkedRule? = none :=
    rfl
  rw [perform_run, execute]
  generalize session.schedule.headD (0, none) = next
  obtain ⟨duration, fault⟩ := next
  cases fault with
  | none =>
      simp only [Kernel.answer]
      by_cases htakes : (session.kernel.elapse duration).Takes set sourceIp
      · rw [Kernel.execute_addCommand htakes hpos]
        exact .added duration _
      · rw [Kernel.execute_addCommand_of_not htakes]
        exact .failed duration _ _ _ rfl
  | some fault =>
      cases fault with
      | notStarted error => exact .failed duration _ _ _ rfl
      | exited code diagnostics =>
          simp only [Kernel.answer, hcheck, Option.isSome_none,
            Bool.false_and, Bool.false_eq_true, if_false]
          exact .failed duration _ _ _ rfl

/-- Where nothing befalls the command, the address is added. -/
theorem perform_add_of_no_fault (session : Session) {duration : ℕ}
    (hschedule : session.schedule.headD (0, none) = (duration, none))
    (htakes : session.kernel.Takes set sourceIp) (hpos : timeout ≠ 0) :
    perform (run (Ipset.addCommand set sourceIp timeout)) session = (.ok (),
      { kernel := (session.kernel.elapse duration).add set sourceIp timeout
        schedule := session.schedule.tail
        reports := session.reports ++
          [⟨Ipset.addCommand set sourceIp timeout, .ok Host.succeeded⟩] }) := by
  have htakes : (session.kernel.elapse duration).Takes set sourceIp := htakes
  rw [perform_run, execute, hschedule]
  simp only [Kernel.answer, Kernel.execute_addCommand htakes hpos]
  rfl

/-- The session has only looked: the clock may have advanced. -/
structure Looked (kernel : Kernel) (session : Session) : Prop where
  host_eq : session.kernel.host = kernel.host
  entries_eq : session.kernel.entries = kernel.entries
  now_le : kernel.now ≤ session.kernel.now
  adds_nothing : ∀ report ∈ session.reports, report.spec.addedEntry? = none

/-- A command that changes nothing, whatever it answers. -/
def Inert (spec : CommandSpec) : Prop :=
  spec.addedEntry? = none ∧ ∀ kernel : Kernel, (kernel.execute spec).2 = kernel

theorem Inert.keeps_run {spec : CommandSpec} (hspec : Inert spec)
    (kernel : Kernel) : Keeps (Looked kernel) (run spec) := by
  apply Keeps.of_perform
  intro session hlooked
  have hkernel : ∀ duration fault,
      ((session.kernel.elapse duration).answer spec fault).2 =
        session.kernel.elapse duration := by
    intro duration fault
    cases fault with
    | none => exact hspec.2 _
    | some fault =>
        cases fault with
        | notStarted error => rfl
        | exited code diagnostics =>
            simp only [Kernel.answer]
            split
            · exact hspec.2 _
            · rfl
  rw [perform_run, execute]
  simp only
  refine ⟨?_, ?_, ?_, ?_⟩
  · rw [hkernel]
    exact hlooked.host_eq
  · rw [hkernel]
    exact hlooked.entries_eq
  · rw [hkernel]
    exact hlooked.now_le.trans (Nat.le_add_right _ _)
  · exact List.forall_mem_append.mpr ⟨hlooked.adds_nothing,
      List.forall_mem_singleton.mpr hspec.1⟩

theorem inert_list (set : String) :
    Inert { program := "ipset", args := ["list", set] } :=
  ⟨rfl, fun _ => rfl⟩

theorem inert_rules (firewall : Firewall) :
    Inert { program := firewall.firewallProgram, args := ["-S"] } := by
  rw [Firewall.firewallProgram]
  cases firewall.backend <;> exact ⟨rfl, fun _ => rfl⟩

/-- The preflight only looks. -/
theorem keeps_preflight (firewall : Firewall) (kernel : Kernel) :
    Keeps (Looked kernel) firewall.preflight :=
  Keeps.bind ((inert_list _).keeps_run kernel) fun _ =>
    Keeps.bind ((inert_list _).keeps_run kernel) fun _ =>
      (inert_rules firewall).keeps_run kernel

end Session

end SshKnock
