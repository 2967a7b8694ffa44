import Mathlib.Data.List.Nodup

/-!
# Configuration and its validation

The daemon starts only from a configuration that `validate` accepts.  Every
check keeps its message and its place in the order of checks, and `Valid`
collects what an accepted configuration guarantees.
-/

namespace SshKnock

/-- The message an operation fails with. -/
abbrev Error := String

/-- Fail with `message` when `condition` holds. -/
def bailIf (condition : Prop) [Decidable condition] (message : String) :
    Except Error Unit :=
  if condition then .error message else .ok ()

@[simp]
theorem bailIf_eq_ok {condition : Prop} [Decidable condition]
    {message : String} : bailIf condition message = .ok () ↔ ¬condition := by
  rw [bailIf]
  split <;> simp_all

/-- A sequence of checks passes exactly when each of them does. -/
theorem check_bind_eq_ok {A : Type} {check : Except Error Unit}
    {rest : Unit → Except Error A} {result : A} :
    (check >>= rest) = .ok result ↔
      check = .ok () ∧ rest () = .ok result := by
  cases check with
  | error message =>
      simp only [bind, Except.bind, reduceCtorEq, false_and]
  | ok value => simp [bind, Except.bind]

inductive Protocol where
  | tcp
  | udp
  | icmp
  deriving DecidableEq

inductive FirewallBackend where
  | iptables
  | ip6tables
  deriving DecidableEq

inductive AddressFamily where
  | ipv4
  | ipv6
  deriving DecidableEq

structure KnockStep where
  protocol : Protocol
  port : Option UInt16
  size : ℕ
  deriving DecidableEq

structure KnockSection where
  sequence : List KnockStep

def defaultSequenceWindow : UInt64 := 5
def defaultIpTimeout : UInt64 := 10
def defaultPartialStateTimeout : UInt64 := 10
def defaultMaxPartialStates : ℕ := 4096
def defaultMaxPayloadSize : ℕ := 512
def defaultInvalidBurstLimit : UInt32 := 20
def defaultInvalidRefillPerMinute : UInt32 := 10
def defaultBanTimeout : UInt64 := 86400

/-- A parsed configuration file.  A field the file leaves out takes its
default. -/
structure Config where
  listen : String
  sshPort : UInt16
  ipsetName : String
  firewallBackend : FirewallBackend := .iptables
  addressFamily : AddressFamily := .ipv4
  sequenceWindow : UInt64 := defaultSequenceWindow
  ipTimeout : UInt64 := defaultIpTimeout
  partialStateTimeout : UInt64 := defaultPartialStateTimeout
  maxPartialStates : ℕ := defaultMaxPartialStates
  maxPayloadSize : ℕ := defaultMaxPayloadSize
  logLevel : String := "info"
  logFile : String := "/var/log/sshknockd/sshknockd.log"
  invalidBurstLimit : UInt32 := defaultInvalidBurstLimit
  invalidRefillPerMinute : UInt32 := defaultInvalidRefillPerMinute
  banTimeout : UInt64 := defaultBanTimeout
  banIpsetName : String := "sshknockd_ban"
  knock : KnockSection

namespace Config

def isAsciiAlphanumeric (byte : UInt8) : Bool :=
  (48 ≤ byte && byte ≤ 57) || (65 ≤ byte && byte ≤ 90) ||
    (97 ≤ byte && byte ≤ 122)

/-- Letters, digits and `_`, `.`, `:`, `-`. -/
def isIpsetNameByte (byte : UInt8) : Bool :=
  isAsciiAlphanumeric byte || byte = 95 || byte = 46 || byte = 58 || byte = 45

def validateIpsetName (name : String) : Except Error Unit := do
  bailIf (name.utf8ByteSize = 0 ∨ 31 < name.utf8ByteSize)
    "ipset_name length must be between 1 and 31 characters"
  bailIf (¬name.toUTF8.data.toList.all isIpsetNameByte)
    "ipset_name contains invalid characters"

/-- The loop over the sequence; `ports` are the ports of the steps already
seen. -/
def validateSteps (config : Config) (ports : List UInt16) :
    List KnockStep → Except Error Unit
  | [] => .ok ()
  | step :: steps => do
      bailIf (step.size = 0 ∨ config.maxPayloadSize < step.size)
        "knock step size must be between 1 and max_payload_size"
      match step.protocol with
      | .tcp | .udp =>
          match step.port with
          | none => .error "tcp and udp knock steps require a port"
          | some port => do
              bailIf (port = 0)
                "tcp and udp knock step ports must be greater than zero"
              bailIf (port = config.sshPort)
                "ssh_port must not overlap knock listener ports"
              bailIf (port ∈ ports)
                "knock ports must be unique within the active sequence"
              validateSteps config (ports ++ [port]) steps
      | .icmp => do
          bailIf step.port.isSome "icmp knock steps must not define a port"
          validateSteps config ports steps

def validate (config : Config) : Except Error Unit := do
  bailIf (config.knock.sequence.length < 3)
    "knock sequence must contain at least three steps"
  bailIf (config.sequenceWindow = 0 ∨ 60 < config.sequenceWindow)
    "sequence_window must be between 1 and 60 seconds"
  bailIf (config.partialStateTimeout = 0)
    "partial_state_timeout must be greater than zero"
  bailIf (config.maxPartialStates = 0)
    "max_partial_states must be greater than zero"
  bailIf (config.ipTimeout = 0) "ip_timeout must be greater than zero"
  bailIf (config.maxPayloadSize = 0)
    "max_payload_size must be greater than zero"
  validateIpsetName config.ipsetName
  validateIpsetName config.banIpsetName
  bailIf (config.invalidBurstLimit = 0 ∨ config.invalidRefillPerMinute = 0)
    "invalid rate limit values must be greater than zero"
  bailIf (config.banTimeout = 0) "ban_timeout must be greater than zero"
  validateSteps config [] config.knock.sequence

/-- What one step of an accepted sequence satisfies. -/
structure ValidStep (config : Config) (step : KnockStep) : Prop where
  size_pos : 0 < step.size
  size_le : step.size ≤ config.maxPayloadSize
  port_none_iff : step.port = none ↔ step.protocol = .icmp
  port_ne_zero : step.port ≠ some 0
  port_ne_sshPort : step.port ≠ some config.sshPort

/-- The loop accepts exactly the sequences of valid steps whose ports are new
and pairwise different. -/
theorem validateSteps_eq_ok_iff (config : Config) (ports : List UInt16)
    (steps : List KnockStep) :
    validateSteps config ports steps = .ok () ↔
      (∀ step ∈ steps, ValidStep config step) ∧
        (steps.filterMap (·.port)).Nodup ∧
        ∀ port ∈ steps.filterMap (·.port), port ∉ ports := by
  induction steps generalizing ports with
  | nil => simp [validateSteps]
  | cons step steps ih =>
      obtain ⟨protocol, port, size⟩ := step
      have hsize : (¬(size = 0 ∨ config.maxPayloadSize < size)) ↔
          0 < size ∧ size ≤ config.maxPayloadSize := by omega
      cases port with
      | none =>
          cases protocol <;>
            simp only [validateSteps, check_bind_eq_ok, bailIf_eq_ok, hsize,
              ih, reduceCtorEq, and_false, false_iff, not_and,
              List.filterMap_cons, List.forall_mem_cons, Option.isSome_none,
              Bool.false_eq_true, not_false_eq_true, true_and, and_assoc]
          · intro hvalid
            simpa using hvalid.port_none_iff
          · intro hvalid
            simpa using hvalid.port_none_iff
          · constructor
            · rintro ⟨hpos, hle, hrest⟩
              exact ⟨⟨hpos, hle, by simp, by simp, by simp⟩, hrest⟩
            · rintro ⟨hvalid, hrest⟩
              exact ⟨hvalid.size_pos, hvalid.size_le, hrest⟩
      | some port =>
          have hstep : ∀ protocol : Protocol, protocol ≠ .icmp →
              (ValidStep config ⟨protocol, some port, size⟩ ↔
                (0 < size ∧ size ≤ config.maxPayloadSize) ∧ port ≠ 0 ∧
                  port ≠ config.sshPort) := by
            intro protocol hprotocol
            constructor
            · rintro ⟨hpos, hle, _, hzero, hssh⟩
              exact ⟨⟨hpos, hle⟩, by simpa using hzero, by simpa using hssh⟩
            · rintro ⟨⟨hpos, hle⟩, hzero, hssh⟩
              exact ⟨hpos, hle, by simpa using hprotocol, by simpa using hzero,
                by simpa using hssh⟩
          cases protocol <;>
            simp only [validateSteps, check_bind_eq_ok, bailIf_eq_ok, hsize,
              ih, List.filterMap_cons, List.forall_mem_cons, List.nodup_cons,
              Option.isSome_some, not_true_eq_false, false_and, and_false,
              false_iff, hstep, ne_eq, reduceCtorEq, not_false_eq_true,
              List.mem_append, List.mem_singleton, not_or]
          · grind
          · grind
          · rintro ⟨⟨hvalid, _⟩, _⟩
            simpa using hvalid.port_none_iff

/-- What `validate` guarantees. -/
structure Valid (config : Config) : Prop where
  three_le_length : 3 ≤ config.knock.sequence.length
  sequenceWindow_ne_zero : config.sequenceWindow ≠ 0
  sequenceWindow_le : config.sequenceWindow ≤ 60
  partialStateTimeout_ne_zero : config.partialStateTimeout ≠ 0
  maxPartialStates_pos : 0 < config.maxPartialStates
  ipTimeout_ne_zero : config.ipTimeout ≠ 0
  maxPayloadSize_pos : 0 < config.maxPayloadSize
  ipsetName_ok : validateIpsetName config.ipsetName = .ok ()
  banIpsetName_ok : validateIpsetName config.banIpsetName = .ok ()
  invalidBurstLimit_ne_zero : config.invalidBurstLimit ≠ 0
  invalidRefillPerMinute_ne_zero : config.invalidRefillPerMinute ≠ 0
  banTimeout_ne_zero : config.banTimeout ≠ 0
  step_valid : ∀ step ∈ config.knock.sequence, ValidStep config step
  ports_nodup : (config.knock.sequence.filterMap (·.port)).Nodup

/-- No two steps of an accepted sequence share a port. -/
theorem Valid.ports_ne {config : Config} (hvalid : config.Valid) :
    config.knock.sequence.Pairwise fun earlier later =>
      earlier.port = later.port → earlier.port = none := by
  apply (List.pairwise_filterMap.mp hvalid.ports_nodup).imp
  intro earlier later hports hsame
  cases hport : earlier.port with
  | none => rfl
  | some port => exact absurd rfl (hports port hport port (hsame ▸ hport))

theorem validate_eq_ok_iff (config : Config) :
    config.validate = .ok () ↔ config.Valid := by
  simp only [validate, check_bind_eq_ok, bailIf_eq_ok,
    validateSteps_eq_ok_iff, not_or]
  constructor
  · rintro ⟨hlength, ⟨hwindow, hwindowLe⟩, hpartial, hstates, hip, hpayload,
      hname, hbanName, ⟨hburst, hrefill⟩, hban, hsteps, hports, _⟩
    exact ⟨by omega, hwindow, UInt64.not_lt.mp hwindowLe, hpartial, by omega,
      hip, by omega, hname, hbanName, hburst, hrefill, hban, hsteps, hports⟩
  · intro hvalid
    have hlength := hvalid.three_le_length
    have hstates := hvalid.maxPartialStates_pos
    have hpayload := hvalid.maxPayloadSize_pos
    exact ⟨by omega, ⟨hvalid.sequenceWindow_ne_zero,
      UInt64.not_lt.mpr hvalid.sequenceWindow_le⟩,
      hvalid.partialStateTimeout_ne_zero, by omega, hvalid.ipTimeout_ne_zero,
      by omega, hvalid.ipsetName_ok, hvalid.banIpsetName_ok,
      ⟨hvalid.invalidBurstLimit_ne_zero,
        hvalid.invalidRefillPerMinute_ne_zero⟩,
      hvalid.banTimeout_ne_zero, hvalid.step_valid, hvalid.ports_nodup,
      by simp⟩

end Config

/-- A configuration the daemon can start from. -/
structure ValidConfig extends Config where
  validated : toConfig.validate = .ok ()

theorem ValidConfig.valid (config : ValidConfig) : config.toConfig.Valid :=
  (Config.validate_eq_ok_iff config.toConfig).mp config.validated

/-- The configuration of the server tests. -/
def testConfig : ValidConfig where
  listen := "127.0.0.1"
  sshPort := 22
  ipsetName := "ssh_allow"
  logFile := "sshknockd.log"
  invalidBurstLimit := 1
  invalidRefillPerMinute := 1
  banTimeout := 2
  banIpsetName := "ssh_ban"
  knock := ⟨[⟨.tcp, some 7001, 1⟩, ⟨.udp, some 7002, 2⟩, ⟨.tcp, some 7003, 3⟩]⟩
  validated := by decide

end SshKnock
