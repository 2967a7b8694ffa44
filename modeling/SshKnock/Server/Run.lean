import SshKnock.Knock.Soundness
import SshKnock.Server.Packet

/-!
# Runs of the server

What becomes of a packet is decided from memory before any command runs, and
carrying the decision out changes nothing but the log, the telemetry allowance
and the firewall.  A run hands one packet after another to the server and ends
early only when the process panics.
-/

namespace SshKnock

open CommandRunner

/-- A packet as it reaches the server, and the clock at that moment. -/
structure Arrival where
  now : ℕ
  addr : SocketAddr
  protocol : Protocol
  port : Option UInt16
  payloadSize : ℕ

namespace Arrival

def sourceIp (arrival : Arrival) : IpAddr :=
  arrival.addr.ip

def packet (arrival : Arrival) : KnockPacket :=
  { sourceIp := arrival.sourceIp, protocol := arrival.protocol
    port := arrival.port, payloadSize := arrival.payloadSize }

end Arrival

namespace KnockRules

/-- An invalid packet leaves its source without a partial state. -/
theorem advance_of_isInvalid {rules : KnockRules} {room : Bool}
    {packet : KnockPacket} {now : ℕ} {slot : Slot}
    (hinvalid : (rules.advance room packet now slot).1.isInvalid = true) :
    (rules.advance room packet now slot).2 = none := by
  have hadvanced := rules.advanced room packet now slot
  generalize rules.advance room packet now slot = result at hadvanced hinvalid
  cases hadvanced with
  | oversized | rejected | acceptedAtOnce | accepted => rfl
  | started | progressed => cases hinvalid

end KnockRules

/-- What memory says about a packet. -/
inductive Judgement where
  | ignore
  | abort
  | ban
  | answer (outcome : KnockOutcome)
  deriving DecidableEq

namespace Server

/-- The source is in the ban map and its ban has not expired. -/
def bannedAt (server : Server) (sourceIp : IpAddr) (now : ℕ) : Bool :=
  (server.expireBannedSources now).bannedSources.containsKey sourceIp

/-- The tracker's outcome, should the packet reach the tracker. -/
def outcome (server : Server) (arrival : Arrival) : KnockOutcome :=
  (server.tracker.process arrival.packet arrival.now).1

/-- Memory once the tracker has seen the packet. -/
def tracked (server : Server) (arrival : Arrival) : Server :=
  { server.expireBannedSources arrival.now with
    tracker := (server.tracker.process arrival.packet arrival.now).2 }

/-- Memory once the limiter has been asked as well. -/
def limited (server : Server) (arrival : Arrival) : Server :=
  { server.tracked arrival with
    sourceLimiter :=
      (server.sourceLimiter.allow arrival.sourceIp arrival.now).2 }

def judge (server : Server) (arrival : Arrival) : Judgement × Server :=
  if server.bannedAt arrival.sourceIp arrival.now then
    (.ignore, server.expireBannedSources arrival.now)
  else if (server.outcome arrival).isInvalid then
    if (server.sourceLimiter.allow arrival.sourceIp arrival.now).1 then
      (.answer (server.outcome arrival), server.limited arrival)
    else
      match (server.limited arrival).rememberBannedSource arrival.sourceIp
          arrival.now with
      | none => (.abort, server.limited arrival)
      | some server => (.ban, server)
  else (.answer (server.outcome arrival), server.tracked arrival)

theorem bannedAt_eq_false_iff {server : Server} {sourceIp : IpAddr} {now : ℕ} :
    server.bannedAt sourceIp now = false ↔
      (server.expireBannedSources now).bannedSources.get sourceIp = none :=
  HashMap.containsKey_eq_false_iff

/-- Expiry bans no source. -/
theorem get_expireBannedSources_eq_none {server : Server} {sourceIp : IpAddr}
    (hunbanned : server.bannedSources.get sourceIp = none) (now : ℕ) :
    (server.expireBannedSources now).bannedSources.get sourceIp = none := by
  rw [expireBannedSources, HashMap.get_retain, hunbanned, Option.filter_none]

variable {R : Type} [CommandRunner R]

/-- Carry a judgement out. -/
def enact (server : Server) (runner : R) (arrival : Arrival) :
    Judgement → Ending × Server × R
  | .ignore => (.ok, server, runner)
  | .abort => (.aborted, server, runner)
  | .ban => server.enforceBan runner arrival.sourceIp
  | .answer outcome =>
      server.respond runner arrival.sourceIp outcome arrival.now

def handle (server : Server) (runner : R) (arrival : Arrival) :
    Ending × Server × R :=
  server.processPacket runner arrival.now arrival.addr arrival.protocol
    arrival.port arrival.payloadSize

theorem handle_def (server : Server) (runner : R) (arrival : Arrival) :
    server.handle runner arrival =
      if server.bannedAt arrival.sourceIp arrival.now then
        (.ok, server.expireBannedSources arrival.now, runner)
      else if (server.outcome arrival).isInvalid then
        if (server.sourceLimiter.allow arrival.sourceIp arrival.now).1 then
          (server.limited arrival).respond runner arrival.sourceIp
            (server.outcome arrival) arrival.now
        else
          match (server.limited arrival).rememberBannedSource arrival.sourceIp
              arrival.now with
          | none => (.aborted, server.limited arrival, runner)
          | some server => server.enforceBan runner arrival.sourceIp
      else
        (server.tracked arrival).respond runner arrival.sourceIp
          (server.outcome arrival) arrival.now := rfl

/-- Memory judges, and the judgement is carried out. -/
theorem handle_eq (server : Server) (runner : R) (arrival : Arrival) :
    server.handle runner arrival =
      (server.judge arrival).2.enact runner arrival (server.judge arrival).1 := by
  rw [handle_def, judge]
  split
  · rfl
  split
  · split
    · rfl
    · split <;> rfl
  · rfl

/-- Everything memory can say about a packet, and when. -/
inductive Judged (server : Server) (arrival : Arrival) :
    Judgement × Server → Prop where
  | ignored
      (hbanned : server.bannedAt arrival.sourceIp arrival.now = true) :
      Judged server arrival (.ignore, server.expireBannedSources arrival.now)
  | valid (hunbanned : server.bannedAt arrival.sourceIp arrival.now = false)
      (hvalid : (server.outcome arrival).isInvalid = false) :
      Judged server arrival
        (.answer (server.outcome arrival), server.tracked arrival)
  | tolerated
      (hunbanned : server.bannedAt arrival.sourceIp arrival.now = false)
      (hinvalid : (server.outcome arrival).isInvalid = true)
      (hallowed :
        (server.sourceLimiter.allow arrival.sourceIp arrival.now).1 = true) :
      Judged server arrival
        (.answer (server.outcome arrival), server.limited arrival)
  | aborted (hunbanned : server.bannedAt arrival.sourceIp arrival.now = false)
      (hinvalid : (server.outcome arrival).isInvalid = true)
      (hdenied :
        (server.sourceLimiter.allow arrival.sourceIp arrival.now).1 = false)
      (hoverflow : (server.limited arrival).rememberBannedSource
        arrival.sourceIp arrival.now = none) :
      Judged server arrival (.abort, server.limited arrival)
  | banned (after : Server)
      (hunbanned : server.bannedAt arrival.sourceIp arrival.now = false)
      (hinvalid : (server.outcome arrival).isInvalid = true)
      (hdenied :
        (server.sourceLimiter.allow arrival.sourceIp arrival.now).1 = false)
      (hremembered : (server.limited arrival).rememberBannedSource
        arrival.sourceIp arrival.now = some after) :
      Judged server arrival (.ban, after)

theorem judged (server : Server) (arrival : Arrival) :
    Judged server arrival (server.judge arrival) := by
  rw [judge]
  split
  · next hbanned => exact .ignored hbanned
  next hunbanned =>
  have hunbanned := Bool.eq_false_iff.mpr hunbanned
  split
  · next hinvalid =>
      split
      · next hallowed => exact .tolerated hunbanned hinvalid hallowed
      next hdenied =>
      have hdenied := Bool.eq_false_iff.mpr hdenied
      split
      · next hoverflow => exact .aborted hunbanned hinvalid hdenied hoverflow
      · next after hremembered =>
          exact .banned after hunbanned hinvalid hdenied hremembered
  · next hvalid => exact .valid hunbanned (Bool.eq_false_iff.mpr hvalid)

theorem accepted_of_judge {server : Server} {arrival : Arrival}
    (haccepted : (server.judge arrival).1 = .answer .accepted) :
    server.bannedAt arrival.sourceIp arrival.now = false ∧
      server.outcome arrival = .accepted := by
  have hjudged := server.judged arrival
  generalize server.judge arrival = result at hjudged haccepted
  cases hjudged with
  | ignored => cases haccepted
  | aborted => cases haccepted
  | banned => cases haccepted
  | valid hunbanned => exact ⟨hunbanned, Judgement.answer.inj haccepted⟩
  | tolerated hunbanned => exact ⟨hunbanned, Judgement.answer.inj haccepted⟩

/-- The two servers agree on everything a judgement looks at and write to the
same log device. -/
structure SameMemory (left right : Server) : Prop where
  config_eq : left.config = right.config
  firewall_eq : left.firewall = right.firewall
  tracker_eq : left.tracker = right.tracker
  sourceLimiter_eq : left.sourceLimiter = right.sourceLimiter
  bannedSources_eq : left.bannedSources = right.bannedSources
  device_eq : left.logger.device = right.logger.device

theorem SameMemory.refl (server : Server) : SameMemory server server :=
  ⟨rfl, rfl, rfl, rfl, rfl, rfl⟩

theorem SameMemory.symm {left right : Server} (hsame : SameMemory left right) :
    SameMemory right left :=
  ⟨hsame.config_eq.symm, hsame.firewall_eq.symm, hsame.tracker_eq.symm,
    hsame.sourceLimiter_eq.symm, hsame.bannedSources_eq.symm,
    hsame.device_eq.symm⟩

theorem SameMemory.trans {first second third : Server}
    (hfirst : SameMemory first second) (hsecond : SameMemory second third) :
    SameMemory first third :=
  ⟨hfirst.config_eq.trans hsecond.config_eq,
    hfirst.firewall_eq.trans hsecond.firewall_eq,
    hfirst.tracker_eq.trans hsecond.tracker_eq,
    hfirst.sourceLimiter_eq.trans hsecond.sourceLimiter_eq,
    hfirst.bannedSources_eq.trans hsecond.bannedSources_eq,
    hfirst.device_eq.trans hsecond.device_eq⟩

theorem sameMemory_log {server after : Server} {event message : String}
    {result : Except Error Unit}
    (hlog : server.log event message = (result, after)) :
    SameMemory after server := by
  obtain rfl : (server.log event message).2 = after := by rw [hlog]
  refine ⟨rfl, rfl, rfl, rfl, rfl, ?_⟩
  exact server.logger.device_log event message

theorem sameMemory_logPacketTelemetry (server : Server) (sourceIp : IpAddr)
    (outcome : KnockOutcome) (now : ℕ) :
    SameMemory (server.logPacketTelemetry sourceIp outcome now).2 server := by
  have hlimiter : ∀ packetTelemetryLimiter,
      SameMemory { server with packetTelemetryLimiter } server :=
    fun _ => ⟨rfl, rfl, rfl, rfl, rfl, rfl⟩
  rw [logPacketTelemetry]
  split
  · exact .refl server
  simp only
  split
  · exact hlimiter _
  split
  · next hseen => exact (sameMemory_log hseen).trans (hlimiter _)
  · next hseen =>
      exact (sameMemory_log rfl).trans
        ((sameMemory_log hseen).trans (hlimiter _))

theorem sameMemory_enforceBan (server : Server) (runner : R)
    (sourceIp : IpAddr) :
    SameMemory (server.enforceBan runner sourceIp).2.1 server := by
  rw [enforceBan]
  split <;> exact sameMemory_log rfl

theorem sameMemory_openFirewall (server : Server) (runner : R)
    (sourceIp : IpAddr) :
    SameMemory (server.openFirewall runner sourceIp).2.1 server := by
  rw [openFirewall]
  split
  · split <;> next hlog => exact sameMemory_log hlog
  · exact sameMemory_log rfl

theorem sameMemory_respond (server : Server) (runner : R) (sourceIp : IpAddr)
    (outcome : KnockOutcome) (now : ℕ) :
    SameMemory (server.respond runner sourceIp outcome now).2.1 server := by
  have htelemetry := server.sameMemory_logPacketTelemetry sourceIp outcome now
  rw [respond]
  split
  · next hlog => rwa [hlog] at htelemetry
  · next after hlog =>
      rw [hlog] at htelemetry
      split
      · exact (after.sameMemory_openFirewall runner sourceIp).trans htelemetry
      · exact htelemetry

theorem ofResult_ne_aborted (result : Except Error Unit) :
    Ending.ofResult result ≠ .aborted := by
  cases result <;> simp [Ending.ofResult]

theorem ending_enforceBan_ne (server : Server) (runner : R)
    (sourceIp : IpAddr) :
    (server.enforceBan runner sourceIp).1 ≠ .aborted := by
  rw [enforceBan]
  split <;> exact ofResult_ne_aborted _

theorem ending_openFirewall_ne (server : Server) (runner : R)
    (sourceIp : IpAddr) :
    (server.openFirewall runner sourceIp).1 ≠ .aborted := by
  rw [openFirewall]
  split
  · split <;> simp
  · exact ofResult_ne_aborted _

theorem ending_respond_ne (server : Server) (runner : R) (sourceIp : IpAddr)
    (outcome : KnockOutcome) (now : ℕ) :
    (server.respond runner sourceIp outcome now).1 ≠ .aborted := by
  rw [respond]
  split
  · simp
  · next after _ =>
      split
      · exact after.ending_openFirewall_ne runner sourceIp
      · simp

/-- Carrying a judgement out leaves memory alone. -/
theorem sameMemory_enact (server : Server) (runner : R) (arrival : Arrival)
    (judgement : Judgement) :
    SameMemory (server.enact runner arrival judgement).2.1 server := by
  cases judgement with
  | ignore => exact .refl server
  | abort => exact .refl server
  | ban => exact server.sameMemory_enforceBan runner arrival.sourceIp
  | answer outcome =>
      exact server.sameMemory_respond runner arrival.sourceIp outcome
        arrival.now

/-- The ban map once a ban has been remembered. -/
def rememberedSources (server : Server) (sourceIp : IpAddr) (now : ℕ) :
    Option (HashMap IpAddr ℕ) :=
  let bannedSources := (server.expireBannedSources now).bannedSources
  if server.config.maxPartialStates ≤ bannedSources.len &&
      !bannedSources.containsKey sourceIp then
    some bannedSources
  else
    (Instant.checkedAdd now (Duration.fromSecs server.config.banTimeout)).map
      fun expiresAt => bannedSources.insert sourceIp expiresAt

/-- Remembering a ban changes the ban map only. -/
theorem rememberBannedSource_def (server : Server) (sourceIp : IpAddr)
    (now : ℕ) :
    server.rememberBannedSource sourceIp now =
      (server.rememberedSources sourceIp now).map
        fun bannedSources => { server with bannedSources } := by
  have hconfig : (server.expireBannedSources now).config = server.config := rfl
  rw [rememberBannedSource, rememberedSources]
  simp only [hconfig]
  split
  · rfl
  · rw [Option.map_map]
    rfl

/-- In the ban map only the entries that have expired and the entry of the
banned source change. -/
theorem rememberBannedSource_eq_some {server after : Server}
    {sourceIp : IpAddr} {now : ℕ}
    (hremembered : server.rememberBannedSource sourceIp now = some after) :
    ∃ bannedSources, after = { server with bannedSources } ∧
      ∀ other, other ≠ sourceIp → bannedSources.get other =
        (server.expireBannedSources now).bannedSources.get other := by
  rw [rememberBannedSource_def] at hremembered
  obtain ⟨bannedSources, hsources, rfl⟩ := Option.map_eq_some_iff.mp hremembered
  refine ⟨bannedSources, rfl, fun other hne => ?_⟩
  simp only [rememberedSources] at hsources
  split at hsources
  · cases hsources
    rfl
  · obtain ⟨expiresAt, -, rfl⟩ := Option.map_eq_some_iff.mp hsources
    exact HashMap.get_insert_of_ne _ _ hne

/-- What a judgement leaves alone. -/
structure Unjudged (before after : Server) : Prop where
  config_eq : after.config = before.config
  firewall_eq : after.firewall = before.firewall
  logger_eq : after.logger = before.logger
  packetTelemetryLimiter_eq :
    after.packetTelemetryLimiter = before.packetTelemetryLimiter

theorem unjudged_judge (server : Server) (arrival : Arrival) :
    Unjudged server (server.judge arrival).2 := by
  have hjudged := server.judged arrival
  generalize server.judge arrival = result at hjudged ⊢
  cases hjudged with
  | ignored | valid | tolerated | aborted => exact ⟨rfl, rfl, rfl, rfl⟩
  | banned after _ _ _ hremembered =>
      obtain ⟨bannedSources, rfl, -⟩ :=
        rememberBannedSource_eq_some hremembered
      exact ⟨rfl, rfl, rfl, rfl⟩

/-- The server with another log and another telemetry allowance. -/
def reporting (server : Server) (logger : AuditLogger)
    (packetTelemetryLimiter : TokenBucketLimiter String) : Server :=
  { server with logger, packetTelemetryLimiter }

theorem rememberBannedSource_reporting (server : Server) (logger : AuditLogger)
    (packetTelemetryLimiter : TokenBucketLimiter String) (sourceIp : IpAddr)
    (now : ℕ) :
    (server.reporting logger packetTelemetryLimiter).rememberBannedSource
        sourceIp now =
      (server.rememberBannedSource sourceIp now).map
        fun after => after.reporting logger packetTelemetryLimiter := by
  have hremembered : (server.reporting logger
      packetTelemetryLimiter).rememberedSources sourceIp now =
        server.rememberedSources sourceIp now := rfl
  rw [rememberBannedSource_def, rememberBannedSource_def, hremembered,
    Option.map_map]
  rfl

/-- What is reported plays no role in a judgement. -/
theorem judge_reporting (server : Server) (logger : AuditLogger)
    (packetTelemetryLimiter : TokenBucketLimiter String) (arrival : Arrival) :
    (server.reporting logger packetTelemetryLimiter).judge arrival =
      ((server.judge arrival).1, (server.judge arrival).2.reporting logger
        packetTelemetryLimiter) := by
  have hlimited : (server.reporting logger
      packetTelemetryLimiter).limited arrival =
        (server.limited arrival).reporting logger packetTelemetryLimiter := rfl
  have hjudge : (server.reporting logger packetTelemetryLimiter).judge arrival =
      if server.bannedAt arrival.sourceIp arrival.now then
        (.ignore, (server.expireBannedSources arrival.now).reporting logger
          packetTelemetryLimiter)
      else if (server.outcome arrival).isInvalid then
        if (server.sourceLimiter.allow arrival.sourceIp arrival.now).1 then
          (.answer (server.outcome arrival),
            (server.limited arrival).reporting logger packetTelemetryLimiter)
        else
          match ((server.limited arrival).reporting logger
              packetTelemetryLimiter).rememberBannedSource arrival.sourceIp
              arrival.now with
          | none => (.abort, (server.limited arrival).reporting logger
              packetTelemetryLimiter)
          | some server => (.ban, server)
      else (.answer (server.outcome arrival), (server.tracked arrival).reporting
        logger packetTelemetryLimiter) := rfl
  rw [hjudge, rememberBannedSource_reporting, judge]
  split
  · rfl
  split
  · split
    · rfl
    · cases (server.limited arrival).rememberBannedSource arrival.sourceIp
        arrival.now <;> rfl
  · rfl

theorem SameMemory.eq_reporting {left right : Server}
    (hsame : SameMemory left right) :
    left = right.reporting left.logger left.packetTelemetryLimiter := by
  obtain ⟨config, tracker, firewall, logger, sourceLimiter,
    packetTelemetryLimiter, bannedSources⟩ := left
  obtain ⟨rfl, rfl, rfl, rfl, rfl, -⟩ := hsame
  rfl

/-- Servers with the same memory judge alike. -/
theorem SameMemory.judge {left right : Server} (hsame : SameMemory left right)
    (arrival : Arrival) :
    (left.judge arrival).1 = (right.judge arrival).1 := by
  rw [hsame.eq_reporting, judge_reporting]

/-! ## When nothing fails -/

/-- Every write to the log succeeds. -/
def Writable (server : Server) : Prop :=
  ∀ write, server.logger.device.failure write = none

theorem SameMemory.writable {left right : Server}
    (hsame : SameMemory left right) (hright : right.Writable) :
    left.Writable := by
  rw [Writable, hsame.device_eq]
  exact hright

theorem Writable.judge {server : Server} (hwritable : server.Writable)
    (arrival : Arrival) : (server.judge arrival).2.Writable := by
  rw [Writable, (server.unjudged_judge arrival).logger_eq]
  exact hwritable

theorem Writable.log {server : Server} (hwritable : server.Writable)
    (event message : String) :
    (server.log event message).1 = .ok () :=
  AuditLogger.log_eq_ok hwritable event message

theorem Writable.logPacketTelemetry {server : Server}
    (hwritable : server.Writable) (sourceIp : IpAddr) (outcome : KnockOutcome)
    (now : ℕ) :
    (server.logPacketTelemetry sourceIp outcome now).1 = .ok () := by
  rw [Server.logPacketTelemetry]
  split
  · rfl
  simp only
  split
  · rfl
  split
  · next hseen =>
      have hok := congrArg Prod.fst hseen
      rw [Writable.log] at hok
      · cases hok
      · exact hwritable
  · next hseen =>
      exact ((sameMemory_log hseen).writable hwritable).log _ _

/-- Every command starts and succeeds. -/
def Obliging (R : Type) [CommandRunner R] : Prop :=
  ∀ (spec : CommandSpec) (runner : R),
    required (Fallible.perform (runStatus spec) runner).1 = .ok ()

/-- A ban that fails in the firewall is only logged. -/
theorem Writable.enforceBan {server : Server} (hwritable : server.Writable)
    (runner : R) (sourceIp : IpAddr) :
    (server.enforceBan runner sourceIp).1 = .ok := by
  rw [Server.enforceBan]
  split <;> simp only [hwritable.log, Ending.ofResult]

theorem Writable.openFirewall {server : Server} (hwritable : server.Writable)
    (hobliging : Obliging R) (runner : R) (sourceIp : IpAddr) :
    (server.openFirewall runner sourceIp).1 = .ok := by
  have hallowed : (Fallible.perform
      (server.firewall.addIp sourceIp) runner).1 = .ok () := by
    rw [Firewall.addIp, CommandRunner.perform_run]
    exact hobliging _ _
  rw [Server.openFirewall]
  split
  · next hfailed =>
      rw [hfailed] at hallowed
      cases hallowed
  · simp only [hwritable.log, Ending.ofResult]

/-- The firewall is opened once the packet has been reported. -/
theorem Writable.respond_accepted {server : Server}
    (hwritable : server.Writable) (runner : R) (sourceIp : IpAddr) (now : ℕ) :
    server.respond runner sourceIp .accepted now =
      (server.logPacketTelemetry sourceIp .accepted now).2.openFirewall runner
        sourceIp := by
  have htelemetry := hwritable.logPacketTelemetry sourceIp .accepted now
  rw [Server.respond]
  split
  · next hfailed =>
      rw [hfailed] at htelemetry
      cases htelemetry
  · next hlog => rw [hlog, if_pos rfl]

/-- Without an acceptance there is no command that could fail. -/
theorem Writable.respond_of_ne {server : Server} (hwritable : server.Writable)
    (runner : R) (sourceIp : IpAddr) {outcome : KnockOutcome}
    (houtcome : outcome ≠ .accepted) (now : ℕ) :
    (server.respond runner sourceIp outcome now).1 = .ok := by
  have htelemetry := hwritable.logPacketTelemetry sourceIp outcome now
  rw [Server.respond]
  split
  · next hfailed =>
      rw [hfailed] at htelemetry
      cases htelemetry
  · rw [if_neg houtcome]

theorem Writable.respond {server : Server} (hwritable : server.Writable)
    (hobliging : Obliging R) (runner : R) (sourceIp : IpAddr)
    (outcome : KnockOutcome) (now : ℕ) :
    (server.respond runner sourceIp outcome now).1 = .ok := by
  by_cases haccepted : outcome = .accepted
  · have hsame := server.sameMemory_logPacketTelemetry sourceIp .accepted now
    rw [haccepted, hwritable.respond_accepted]
    exact (hsame.writable hwritable).openFirewall hobliging runner sourceIp
  · exact hwritable.respond_of_ne runner sourceIp haccepted now

/-- When nothing fails, a packet is processed to the end unless the end of a
ban is not representable. -/
theorem ending_enact {server : Server} (hwritable : server.Writable)
    (hobliging : Obliging R) (runner : R) (arrival : Arrival)
    (judgement : Judgement) :
    (server.enact runner arrival judgement).1 =
      if judgement = .abort then .aborted else .ok := by
  cases judgement with
  | ignore => rfl
  | abort => rfl
  | ban => exact hwritable.enforceBan runner arrival.sourceIp
  | answer outcome =>
      exact hwritable.respond hobliging runner arrival.sourceIp outcome
        arrival.now

end Server

/-! ## Recorded runs -/

/-- A runner that records its commands and may answer each of them in any way,
also depending on the earlier ones. -/
structure RecordingRunner where
  answer : List CommandSpec → CommandSpec → Except Error CommandStatus
  commands : List CommandSpec

namespace RecordingRunner

def execute (runner : RecordingRunner) (spec : CommandSpec) :
    Except Error CommandStatus × RecordingRunner :=
  (runner.answer runner.commands spec,
    { runner with commands := runner.commands ++ [spec] })

instance : CommandRunner RecordingRunner where
  runStatus spec := ExceptT.mk fun runner => runner.execute spec

/-- The answer of a command that succeeds. -/
def succeeding (_ : List CommandSpec) (_ : CommandSpec) :
    Except Error CommandStatus :=
  .ok { success := true, code := some 0, diagnostics := "" }

/-- A runner with no command recorded yet. -/
def answering
    (answer : List CommandSpec → CommandSpec → Except Error CommandStatus) :
    RecordingRunner :=
  { answer, commands := [] }

/-- Every command is recorded, whatever its answer. -/
theorem perform_run (spec : CommandSpec) (runner : RecordingRunner) :
    Fallible.perform (run spec) runner =
      (required (runner.answer runner.commands spec),
        { runner with commands := runner.commands ++ [spec] }) := by
  rw [CommandRunner.perform_run]
  rfl

end RecordingRunner

namespace Server

theorem runner_enforceBan (server : Server) (runner : RecordingRunner)
    (sourceIp : IpAddr) :
    (server.enforceBan runner sourceIp).2.2 = { runner with
      commands := runner.commands ++
        [server.firewall.banIpCommand sourceIp] } := by
  rw [enforceBan, Firewall.banIp, RecordingRunner.perform_run]
  cases required (runner.answer runner.commands _) <;> rfl

theorem commands_enforceBan (server : Server) (runner : RecordingRunner)
    (sourceIp : IpAddr) :
    (server.enforceBan runner sourceIp).2.2.commands =
      runner.commands ++ [server.firewall.banIpCommand sourceIp] :=
  congrArg RecordingRunner.commands
    (server.runner_enforceBan runner sourceIp)

theorem runner_openFirewall (server : Server) (runner : RecordingRunner)
    (sourceIp : IpAddr) :
    (server.openFirewall runner sourceIp).2.2 = { runner with
      commands := runner.commands ++
        [server.firewall.addIpCommand sourceIp] } := by
  rw [openFirewall, Firewall.addIp, RecordingRunner.perform_run]
  cases required (runner.answer runner.commands _) with
  | ok value => rfl
  | error error =>
      simp only
      split <;> rfl

theorem commands_openFirewall (server : Server) (runner : RecordingRunner)
    (sourceIp : IpAddr) :
    (server.openFirewall runner sourceIp).2.2.commands =
      runner.commands ++ [server.firewall.addIpCommand sourceIp] :=
  congrArg RecordingRunner.commands
    (server.runner_openFirewall runner sourceIp)

/-- The firewall is opened at most for an accepted packet. -/
theorem commands_respond (server : Server) (runner : RecordingRunner)
    (sourceIp : IpAddr) (outcome : KnockOutcome) (now : ℕ) :
    (server.respond runner sourceIp outcome now).2.2.commands =
        runner.commands ∨
      outcome = .accepted ∧
        (server.respond runner sourceIp outcome now).2.2.commands =
          runner.commands ++ [server.firewall.addIpCommand sourceIp] := by
  have htelemetry := server.sameMemory_logPacketTelemetry sourceIp outcome now
  rw [respond]
  split
  · exact Or.inl rfl
  · next after hlog =>
      rw [hlog] at htelemetry
      split
      · next haccepted =>
          rw [commands_openFirewall, htelemetry.firewall_eq]
          exact Or.inr ⟨haccepted, rfl⟩
      · exact Or.inl rfl

end Server

/-- One packet of a run: the server before and after it, how its handling
ended and the commands it caused. -/
structure Handling where
  arrival : Arrival
  before : Server
  ending : Ending
  after : Server
  issued : List CommandSpec

namespace Server

def handling (server : Server) (runner : RecordingRunner) (arrival : Arrival) :
    Handling :=
  let (ending, after, runnerAfter) := server.handle runner arrival
  { arrival, before := server, ending, after
    issued := runnerAfter.commands.drop runner.commands.length }

theorem after_handling (server : Server) (runner : RecordingRunner)
    (arrival : Arrival) :
    (server.handling runner arrival).after =
      ((server.judge arrival).2.enact runner arrival
        (server.judge arrival).1).2.1 :=
  congrArg (fun result => result.2.1) (server.handle_eq runner arrival)

theorem issued_def (server : Server) (runner : RecordingRunner)
    (arrival : Arrival) :
    (server.handling runner arrival).issued =
      (server.handle runner arrival).2.2.commands.drop
        runner.commands.length := rfl

/-- Hand the packets over one by one, until the process panics. -/
def trace (server : Server) (runner : RecordingRunner) :
    List Arrival → List Handling
  | [] => []
  | arrival :: arrivals =>
      let (ending, after, runnerAfter) := server.handle runner arrival
      server.handling runner arrival ::
        if ending = .aborted then [] else after.trace runnerAfter arrivals

theorem trace_cons (server : Server) (runner : RecordingRunner)
    (arrival : Arrival) (arrivals : List Arrival) :
    server.trace runner (arrival :: arrivals) =
      server.handling runner arrival ::
        if (server.handle runner arrival).1 = .aborted then []
        else (server.handling runner arrival).after.trace
          (server.handle runner arrival).2.2 arrivals := rfl

/-- What holds of every packet handled under an invariant that every packet
keeps holds of every packet of a run. -/
theorem forall_trace {Invariant : Server → Prop} {Property : Handling → Prop}
    (hstep : ∀ server runner arrival, Invariant server →
      Property (server.handling runner arrival) ∧
        Invariant (server.handling runner arrival).after)
    {server : Server} (hserver : Invariant server) (runner : RecordingRunner)
    (arrivals : List Arrival) :
    ∀ handling ∈ server.trace runner arrivals, Property handling := by
  induction arrivals generalizing server runner with
  | nil => simp [trace]
  | cons arrival arrivals ih =>
      obtain ⟨hproperty, hafter⟩ := hstep server runner arrival hserver
      rw [trace_cons]
      refine List.forall_mem_cons.mpr ⟨hproperty, ?_⟩
      by_cases haborted : (server.handle runner arrival).1 = .aborted
      · rw [if_pos haborted]
        simp
      · rw [if_neg haborted]
        exact ih hafter _

/-- A run can be resumed at each of its packets, under an invariant that every
packet keeps. -/
theorem resume_trace {Invariant : Server → Prop}
    (hstep : ∀ server runner arrival, Invariant server →
      Invariant (server.handling runner arrival).after)
    {server : Server} (hserver : Invariant server) {runner : RecordingRunner}
    {arrivals : List Arrival} {earlier : List Handling} {handling : Handling}
    {later : List Handling}
    (hsplit : server.trace runner arrivals = earlier ++ handling :: later) :
    ∃ resumed resumedRunner rest, Invariant resumed ∧ rest <:+ arrivals ∧
      resumed.trace resumedRunner rest = handling :: later := by
  induction earlier generalizing server runner arrivals with
  | nil => exact ⟨server, runner, arrivals, hserver, List.suffix_rfl, hsplit⟩
  | cons first earlier ih =>
      cases arrivals with
      | nil => cases hsplit
      | cons arrival arrivals =>
          rw [trace_cons] at hsplit
          obtain ⟨-, hsplit⟩ := List.cons.inj hsplit
          split at hsplit
          · exact absurd hsplit.symm (List.append_ne_nil_of_right_ne_nil _
              (List.cons_ne_nil _ _))
          · obtain ⟨resumed, resumedRunner, rest, hresumed, hsuffix, htrace⟩ :=
              ih (hstep server runner arrival hserver) hsplit
            exact ⟨resumed, resumedRunner, rest, hresumed,
              hsuffix.trans (List.suffix_cons arrival arrivals), htrace⟩

/-- A run handles no packet that did not arrive. -/
theorem arrival_mem_of_mem_trace {server : Server} {runner : RecordingRunner}
    {arrivals : List Arrival} {handling : Handling}
    (hhandling : handling ∈ server.trace runner arrivals) :
    handling.arrival ∈ arrivals := by
  induction arrivals generalizing server runner with
  | nil => cases hhandling
  | cons arrival arrivals ih =>
      rw [trace_cons] at hhandling
      rcases List.mem_cons.mp hhandling with rfl | hrest
      · exact List.mem_cons_self
      · split at hrest
        · cases hrest
        · exact List.mem_cons_of_mem _ (ih hrest)

/-- Nothing is handled before the first packet of a chronological run. -/
theorem now_le_of_mem_trace {server : Server} {runner : RecordingRunner}
    {arrival : Arrival} {arrivals : List Arrival} {handling : Handling}
    (hlater : ∀ later ∈ arrivals, arrival.now ≤ later.now)
    (hhandling : handling ∈ server.trace runner (arrival :: arrivals)) :
    arrival.now ≤ handling.arrival.now := by
  rcases List.mem_cons.mp (arrival_mem_of_mem_trace hhandling) with
    hfirst | hfollows
  · exact le_of_eq (congrArg Arrival.now hfirst.symm)
  · exact hlater _ hfollows

theorem sameMemory_handling (server : Server) (runner : RecordingRunner)
    (arrival : Arrival) :
    SameMemory (server.handling runner arrival).after
      (server.judge arrival).2 := by
  rw [after_handling]
  exact sameMemory_enact _ _ _ _

/-- The commands that carrying out a judgement can cause. -/
inductive Issued (server : Server) (arrival : Arrival) (judgement : Judgement) :
    List CommandSpec → Prop where
  | nothing : Issued server arrival judgement []
  | ban (hban : judgement = .ban) : Issued server arrival judgement
      [server.firewall.banIpCommand arrival.sourceIp]
  | allow (haccepted : judgement = .answer .accepted) :
      Issued server arrival judgement
        [server.firewall.addIpCommand arrival.sourceIp]

theorem issued_handling (server : Server) (runner : RecordingRunner)
    (arrival : Arrival) :
    Issued (server.judge arrival).2 arrival (server.judge arrival).1
      (server.handling runner arrival).issued := by
  rw [issued_def, handle_eq]
  cases (server.judge arrival).1 with
  | ignore => simpa [enact] using Issued.nothing
  | abort => simpa [enact] using Issued.nothing
  | ban =>
      rw [enact, commands_enforceBan, List.drop_left]
      exact .ban rfl
  | answer outcome =>
      rw [enact]
      rcases (server.judge arrival).2.commands_respond runner arrival.sourceIp
        outcome arrival.now with hnothing | ⟨rfl, hallow⟩
      · rw [hnothing, List.drop_length]
        exact .nothing
      · rw [hallow, List.drop_left]
        exact .allow rfl

/-- A ban is always handed to the firewall. -/
theorem issued_of_ban {server : Server} {arrival : Arrival}
    (hban : (server.judge arrival).1 = .ban) (runner : RecordingRunner) :
    (server.handling runner arrival).issued =
      [(server.judge arrival).2.firewall.banIpCommand arrival.sourceIp] := by
  rw [issued_def, handle_eq, hban, enact, commands_enforceBan, List.drop_left]

/-- The process panics exactly when memory says so. -/
theorem handle_aborted_iff {R : Type} [CommandRunner R] (server : Server)
    (runner : R) (arrival : Arrival) :
    (server.handle runner arrival).1 = .aborted ↔
      (server.judge arrival).1 = .abort := by
  rw [handle_eq]
  cases (server.judge arrival).1 with
  | ignore => simp [enact]
  | abort => simp [enact]
  | ban => simp [enact, ending_enforceBan_ne]
  | answer outcome => simp [enact, ending_respond_ne]

/-! ## A configured server -/

end Server

/-- The firewall that a configuration describes. -/
def Config.firewall (config : Config) : Firewall :=
  { ipsetName := config.ipsetName, banIpsetName := config.banIpsetName
    ipTimeout := config.ipTimeout, banTimeout := config.banTimeout
    backend := config.firewallBackend, addressFamily := config.addressFamily }

namespace Server

/-- The server as it starts from an accepted configuration. -/
def started (config : ValidConfig) (device : LogDevice) : Server :=
  { config := config.toConfig
    tracker := .fresh config.knockRules config.maxPartialStates
    firewall := config.firewall
    logger := .opened device
    sourceLimiter := .new config.invalidBurstLimit
      config.invalidRefillPerMinute (Duration.fromSecs 60)
    packetTelemetryLimiter := .new (saturatingMul config.invalidBurstLimit 10)
      (saturatingMul config.invalidRefillPerMinute 10) (Duration.fromSecs 60)
    bannedSources := HashMap.empty }

theorem new_eq_started (config : ValidConfig) (device : LogDevice) :
    new config.toConfig (fun _ => .ok (.opened device)) =
      .ok (started config device) := by
  have hvalid := config.valid
  have hfirewall : Firewall.new config.ipsetName config.banIpsetName
      config.ipTimeout config.banTimeout config.firewallBackend
      config.addressFamily = .ok config.firewall := by
    rw [Firewall.new, hvalid.ipsetName_ok, hvalid.banIpsetName_ok,
      bailIf_eq_ok.mpr (not_or.mpr
        ⟨hvalid.ipTimeout_ne_zero, hvalid.banTimeout_ne_zero⟩)]
    rfl
  rw [new, hfirewall]
  rfl

/-- The server still runs the configuration it was started with. -/
structure Configured (config : Config) (server : Server) : Prop where
  config_eq : server.config = config
  firewall_eq : server.firewall = config.firewall
  tracker_consistent : server.tracker.Consistent config.knockRules
    config.maxPartialStates

theorem configured_started (config : ValidConfig) (device : LogDevice) :
    Configured config.toConfig (started config device) :=
  ⟨rfl, rfl, .fresh _ _⟩

variable {config : Config}

theorem Configured.judge {server : Server} (hserver : Configured config server)
    (arrival : Arrival) : Configured config (server.judge arrival).2 := by
  have htracked : Configured config (server.tracked arrival) :=
    ⟨hserver.config_eq, hserver.firewall_eq,
      (KnockTracker.answers_process hserver.tracker_consistent arrival.packet
        arrival.now).consistent⟩
  have hlimited : Configured config (server.limited arrival) :=
    ⟨htracked.config_eq, htracked.firewall_eq, htracked.tracker_consistent⟩
  have hjudged := server.judged arrival
  generalize server.judge arrival = result at hjudged ⊢
  cases hjudged with
  | ignored =>
      exact ⟨hserver.config_eq, hserver.firewall_eq,
        hserver.tracker_consistent⟩
  | valid => exact htracked
  | tolerated => exact hlimited
  | aborted => exact hlimited
  | banned after _ _ _ hremembered =>
      obtain ⟨bannedSources, rfl, -⟩ :=
        rememberBannedSource_eq_some hremembered
      exact ⟨hlimited.config_eq, hlimited.firewall_eq,
        hlimited.tracker_consistent⟩

theorem Configured.sameMemory {left right : Server}
    (hright : Configured config right) (hsame : SameMemory left right) :
    Configured config left :=
  ⟨hsame.config_eq.trans hright.config_eq,
    hsame.firewall_eq.trans hright.firewall_eq,
    hsame.tracker_eq ▸ hright.tracker_consistent⟩

theorem Configured.handling {server : Server}
    (hserver : Configured config server) (runner : RecordingRunner)
    (arrival : Arrival) :
    Configured config (server.handling runner arrival).after :=
  (hserver.judge arrival).sameMemory (server.sameMemory_handling runner arrival)

end Server

end SshKnock
