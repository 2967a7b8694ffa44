import SshKnock.Config
import SshKnock.Core.Fallible
import SshKnock.Net.Address

/-!
# Firewall commands

The daemon changes the host only through `ipset` and `iptables` command lines.
A runner executes them one after another; a command can fail to start, or
start and report a status.
-/

namespace SshKnock

structure CommandSpec where
  program : String
  args : List String
  deriving DecidableEq

/-- The set and the entry that the command adds, if it adds one. -/
def CommandSpec.addedEntry? (spec : CommandSpec) : Option (String × String) :=
  match spec.program, spec.args with
  | "ipset", "add" :: set :: entry :: _ => some (set, entry)
  | _, _ => none

structure CommandStatus where
  success : Bool
  code : Option Int32
  diagnostics : String
  deriving DecidableEq

/-- Computations that run commands on a runner and may fail. -/
abbrev CommandM (R : Type) := Fallible R Error

/-- Whatever executes command lines; its state is what they change. -/
class CommandRunner (R : Type) where
  runStatus : CommandSpec → CommandM R CommandStatus

namespace CommandRunner

variable {R : Type} [CommandRunner R]

/-- Run a command that has to succeed. -/
def run (spec : CommandSpec) : CommandM R Unit := do
  let status ← runStatus spec
  if !status.success then throw status.diagnostics

/-- What is left of an answer that has to be a success. -/
def required : Except Error CommandStatus → Except Error Unit
  | .error error => .error error
  | .ok status => if status.success then .ok () else .error status.diagnostics

theorem perform_run (spec : CommandSpec) (runner : R) :
    Fallible.perform (run spec) runner =
      (required (Fallible.perform (runStatus spec) runner).1,
        (Fallible.perform (runStatus spec) runner).2) := by
  rw [run, Fallible.perform_bind]
  cases Fallible.perform (runStatus spec) runner with
  | mk answer after =>
      cases answer with
      | error error => rfl
      | ok status => cases hsuccess : status.success <;> simp [required, hsuccess]

end CommandRunner

structure Firewall where
  ipsetName : String
  banIpsetName : String
  ipTimeout : UInt64
  banTimeout : UInt64
  backend : FirewallBackend
  addressFamily : AddressFamily

namespace Firewall

open CommandRunner

def new (ipsetName banIpsetName : String) (ipTimeout banTimeout : UInt64)
    (backend : FirewallBackend) (addressFamily : AddressFamily) :
    Except Error Firewall := do
  Config.validateIpsetName ipsetName
  Config.validateIpsetName banIpsetName
  bailIf (ipTimeout = 0 ∨ banTimeout = 0)
    "firewall timeouts must be greater than zero"
  .ok { ipsetName, banIpsetName, ipTimeout, banTimeout, backend, addressFamily }

def createSetCommand (firewall : Firewall) (name : String) (timeout : UInt64) :
    CommandSpec :=
  { program := "ipset"
    args := ["create", name, "hash:ip", "timeout", toString timeout] ++
      (if firewall.addressFamily = .ipv6 then ["family", "inet6"] else []) ++
      ["-exist"] }

def createIpsetCommand (firewall : Firewall) : CommandSpec :=
  firewall.createSetCommand firewall.ipsetName firewall.ipTimeout

def createBanIpsetCommand (firewall : Firewall) : CommandSpec :=
  firewall.createSetCommand firewall.banIpsetName firewall.banTimeout

def firewallProgram (firewall : Firewall) : String :=
  match firewall.backend with
  | .iptables => "iptables"
  | .ip6tables => "ip6tables"

def iptablesBanDropRuleArgs (firewall : Firewall) : List String :=
  ["-m", "set", "--match-set", firewall.banIpsetName, "src", "-j", "DROP"]

def iptablesBanDropCommand (firewall : Firewall) : CommandSpec :=
  { program := firewall.firewallProgram
    args := ["-I", "INPUT", "1"] ++ firewall.iptablesBanDropRuleArgs }

def iptablesBanDropCheckCommand (firewall : Firewall) : CommandSpec :=
  { program := firewall.firewallProgram
    args := ["-C", "INPUT"] ++ firewall.iptablesBanDropRuleArgs }

def iptablesAllowRuleArgs (firewall : Firewall) (sshPort : UInt16) :
    List String :=
  ["-p", "tcp", "--dport", toString sshPort, "-m", "set", "--match-set",
    firewall.ipsetName, "src", "-j", "ACCEPT"]

def iptablesAllowCommand (firewall : Firewall) (sshPort : UInt16) :
    CommandSpec :=
  { program := firewall.firewallProgram
    args := ["-I", "INPUT", "1"] ++ firewall.iptablesAllowRuleArgs sshPort }

def iptablesAllowCheckCommand (firewall : Firewall) (sshPort : UInt16) :
    CommandSpec :=
  { program := firewall.firewallProgram
    args := ["-C", "INPUT"] ++ firewall.iptablesAllowRuleArgs sshPort }

def iptablesDropRuleArgs (_firewall : Firewall) (sshPort : UInt16) :
    List String :=
  ["-p", "tcp", "--dport", toString sshPort, "-j", "DROP"]

def iptablesDropCommand (firewall : Firewall) (sshPort : UInt16) :
    CommandSpec :=
  { program := firewall.firewallProgram
    args := ["-A", "INPUT"] ++ firewall.iptablesDropRuleArgs sshPort }

def iptablesDropCheckCommand (firewall : Firewall) (sshPort : UInt16) :
    CommandSpec :=
  { program := firewall.firewallProgram
    args := ["-C", "INPUT"] ++ firewall.iptablesDropRuleArgs sshPort }

variable {R : Type} [CommandRunner R]

/-- Add a rule only when its check reports, with exit code 1, that it is
absent. -/
def ensureIptablesRule (check apply : CommandSpec) : CommandM R Unit := do
  let status ← runStatus check
  if status.success then return ()
  else if status.code = some 1 then run apply
  else throw status.diagnostics

theorem perform_ensureIptablesRule (check apply : CommandSpec) (runner : R) :
    Fallible.perform (ensureIptablesRule check apply) runner =
      match Fallible.perform (runStatus check) runner with
      | (.error error, after) => (.error error, after)
      | (.ok status, after) =>
          if status.success then (.ok (), after)
          else if status.code = some 1 then Fallible.perform (run apply) after
          else (.error status.diagnostics, after) := by
  rw [ensureIptablesRule, Fallible.perform_bind]
  cases Fallible.perform (runStatus check) runner with
  | mk answer after =>
      cases answer with
      | error error => rfl
      | ok status =>
          simp only
          split
          · rfl
          · split <;> rfl

def setup (firewall : Firewall) (sshPort : UInt16) : CommandM R Unit := do
  run firewall.createIpsetCommand
  run firewall.createBanIpsetCommand
  ensureIptablesRule (firewall.iptablesAllowCheckCommand sshPort)
    (firewall.iptablesAllowCommand sshPort)
  ensureIptablesRule (firewall.iptablesDropCheckCommand sshPort)
    (firewall.iptablesDropCommand sshPort)
  ensureIptablesRule firewall.iptablesBanDropCheckCommand
    firewall.iptablesBanDropCommand

def addIpCommand (firewall : Firewall) (ip : IpAddr) : CommandSpec :=
  { program := "ipset"
    args := ["add", firewall.ipsetName, toString ip, "timeout",
      toString firewall.ipTimeout, "-exist"] }

def banIpCommand (firewall : Firewall) (ip : IpAddr) : CommandSpec :=
  { program := "ipset"
    args := ["add", firewall.banIpsetName, toString ip, "timeout",
      toString firewall.banTimeout, "-exist"] }

theorem addedEntry?_addIpCommand (firewall : Firewall) (ip : IpAddr) :
    CommandSpec.addedEntry? (firewall.addIpCommand ip) =
      some (firewall.ipsetName, toString ip) := rfl

theorem addedEntry?_banIpCommand (firewall : Firewall) (ip : IpAddr) :
    CommandSpec.addedEntry? (firewall.banIpCommand ip) =
      some (firewall.banIpsetName, toString ip) := rfl

def addIp (firewall : Firewall) (ip : IpAddr) : CommandM R Unit :=
  run (firewall.addIpCommand ip)

def banIp (firewall : Firewall) (ip : IpAddr) : CommandM R Unit :=
  run (firewall.banIpCommand ip)

/-- The tools and both sets have to be there before the daemon starts. -/
def preflight (firewall : Firewall) : CommandM R Unit := do
  run { program := "ipset", args := ["list", firewall.ipsetName] }
  run { program := "ipset", args := ["list", firewall.banIpsetName] }
  run { program := firewall.firewallProgram, args := ["-S"] }

end Firewall

end SshKnock
