import SshKnock.Firewall.Commands
import SshKnock.Knock.Tracker
import SshKnock.Logger
import SshKnock.RateLimit

/-!
# Handling a packet

The server drops what banned sources send, hands everything else to the
tracker, bans a source whose invalid packets exceed its allowance and opens the
firewall for a source that completes the knock.
-/

namespace SshKnock

structure Server where
  config : Config
  tracker : KnockTracker
  firewall : Firewall
  logger : AuditLogger
  sourceLimiter : TokenBucketLimiter IpAddr
  packetTelemetryLimiter : TokenBucketLimiter String
  bannedSources : HashMap IpAddr ℕ

/-- How the handling of a packet ends: it returns, or an addition of times
overflows and the process panics. -/
inductive Ending where
  | ok
  | error (error : Error)
  | aborted
  deriving DecidableEq

def Ending.ofResult : Except Error Unit → Ending
  | .ok () => .ok
  | .error message => .error message

/-- The outcomes that use up the allowance of a source. -/
def KnockOutcome.isInvalid : KnockOutcome → Bool
  | .rejected | .oversized => true
  | .accepted | .progress _ => false

namespace Server

/-- `openLog` opens the audit log at a path. -/
def new (config : Config) (openLog : String → Except Error AuditLogger) :
    Except Error Server := do
  let tracker := KnockTracker.new config.knock.sequence
    (Duration.fromSecs config.sequenceWindow)
    (Duration.fromSecs config.partialStateTimeout)
    config.maxPartialStates config.maxPayloadSize
  let firewall ← Firewall.new config.ipsetName config.banIpsetName
    config.ipTimeout config.banTimeout config.firewallBackend
    config.addressFamily
  let logger ← openLog config.logFile
  let sourceBurst := config.invalidBurstLimit
  let sourceRefill := config.invalidRefillPerMinute
  .ok
    { config, tracker, firewall, logger
      sourceLimiter :=
        .new sourceBurst sourceRefill (Duration.fromSecs 60)
      packetTelemetryLimiter :=
        .new (saturatingMul sourceBurst 10) (saturatingMul sourceRefill 10)
          (Duration.fromSecs 60)
      bannedSources := HashMap.empty }

def log (server : Server) (event message : String) :
    Except Error Unit × Server :=
  let (result, logger) := server.logger.log event message
  (result, { server with logger })

def expireBannedSources (server : Server) (now : ℕ) : Server :=
  { server with
    bannedSources := server.bannedSources.retain fun _ expiresAt =>
      now < expiresAt }

def isSourceBanned (server : Server) (sourceIp : IpAddr) (now : ℕ) :
    Bool × Server :=
  let server := server.expireBannedSources now
  (server.bannedSources.containsKey sourceIp, server)

/-- A full map takes no further source.  Nothing when the end of the ban is not
representable. -/
def rememberBannedSource (server : Server) (sourceIp : IpAddr) (now : ℕ) :
    Option Server :=
  let server := server.expireBannedSources now
  if server.config.maxPartialStates ≤ server.bannedSources.len &&
      !server.bannedSources.containsKey sourceIp then
    some server
  else
    (Instant.checkedAdd now (Duration.fromSecs server.config.banTimeout)).map
      fun expiresAt => { server with
        bannedSources := server.bannedSources.insert sourceIp expiresAt }

def eqIgnoreAsciiCase (left right : String) : Bool :=
  left.toList.map Char.toLower = right.toList.map Char.toLower

def packetTelemetryEnabled (server : Server) : Bool :=
  eqIgnoreAsciiCase server.config.logLevel "debug" ||
    eqIgnoreAsciiCase server.config.logLevel "trace"

def redactedOutcome : KnockOutcome → String
  | .accepted => "accepted"
  | .progress _ => "progress"
  | .rejected => "rejected"
  | .oversized => "oversized"

def logPacketTelemetry (server : Server) (sourceIp : IpAddr)
    (outcome : KnockOutcome) (now : ℕ) : Except Error Unit × Server :=
  if !server.packetTelemetryEnabled then (.ok (), server)
  else
    let (allowed, packetTelemetryLimiter) :=
      server.packetTelemetryLimiter.allow "packet" now
    let server := { server with packetTelemetryLimiter }
    if !allowed then (.ok (), server)
    else
      match server.log "packet_seen"
          s!"source_ip={sourceIp} observed=true" with
      | (.error error, server) => (.error error, server)
      | (.ok (), server) =>
          let outcomeClass := redactedOutcome outcome
          server.log "knock_outcome"
            s!"source_ip={sourceIp} outcome={outcomeClass}"

variable {R : Type} [CommandRunner R]

/-- Ban the source in the firewall; a failure is only logged. -/
def enforceBan (server : Server) (runner : R) (sourceIp : IpAddr) :
    Ending × Server × R :=
  match Fallible.perform (server.firewall.banIp sourceIp) runner with
  | (.ok (), runner) =>
      let banTimeout := server.config.banTimeout
      let (result, server) := server.log "rate_limit_ban"
        s!"source_ip={sourceIp} ban_timeout_seconds={banTimeout}"
      (.ofResult result, server, runner)
  | (.error error, runner) =>
      let (result, server) := server.log "firewall_ban_failed"
        s!"source_ip={sourceIp} error={error}"
      (.ofResult result, server, runner)

/-- Open the firewall for the source. -/
def openFirewall (server : Server) (runner : R) (sourceIp : IpAddr) :
    Ending × Server × R :=
  match Fallible.perform (server.firewall.addIp sourceIp) runner with
  | (.error error, runner) =>
      match server.log "firewall_allow_failed"
          s!"source_ip={sourceIp} error={error}" with
      | (.error logError, server) => (.error logError, server, runner)
      | (.ok (), server) => (.error error, server, runner)
  | (.ok (), runner) =>
      let ipTimeout := server.config.ipTimeout
      let (result, server) := server.log "ssh_allow"
        s!"source_ip={sourceIp} allow_timeout_seconds={ipTimeout}"
      (.ofResult result, server, runner)

/-- What follows the outcome of a packet that leads to no ban. -/
def respond (server : Server) (runner : R) (sourceIp : IpAddr)
    (outcome : KnockOutcome) (now : ℕ) : Ending × Server × R :=
  match server.logPacketTelemetry sourceIp outcome now with
  | (.error error, server) => (.error error, server, runner)
  | (.ok (), server) =>
      if outcome = .accepted then server.openFirewall runner sourceIp
      else (.ok, server, runner)

def processPacket (server : Server) (runner : R) (now : ℕ) (addr : SocketAddr)
    (protocol : Protocol) (port : Option UInt16) (payloadSize : ℕ) :
    Ending × Server × R :=
  let sourceIp := addr.ip
  let (banned, server) := server.isSourceBanned sourceIp now
  if banned then (.ok, server, runner)
  else
    let (outcome, tracker) :=
      server.tracker.process { sourceIp, protocol, port, payloadSize } now
    let server := { server with tracker }
    if outcome.isInvalid then
      let (allowed, sourceLimiter) := server.sourceLimiter.allow sourceIp now
      let server := { server with sourceLimiter }
      if allowed then server.respond runner sourceIp outcome now
      else
        -- The ban is remembered first, so it holds even if the firewall fails.
        match server.rememberBannedSource sourceIp now with
        | none => (.aborted, server, runner)
        | some server => server.enforceBan runner sourceIp
    else server.respond runner sourceIp outcome now

end Server

end SshKnock
