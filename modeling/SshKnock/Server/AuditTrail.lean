import SshKnock.Firewall.SystemRunner
import SshKnock.Server.Serving

/-!
# The audit trail

The audit log can be trusted as far as the commands go: whatever they print, no
line of the log is anything but an event of the daemon, and read back, the log
tells of exactly the sources that were let in or banned, in order.
-/

namespace SshKnock

open Fallible Text

/-! ## Plain words -/

theorem Ipv4Addr.word_chars (addr : Ipv4Addr) : Word addr.chars := by
  refine above_intercalate (by decide) fun field hfield => ?_
  obtain ⟨octet, _, rfl⟩ := List.mem_map.mp hfield
  exact word_toDigits (by decide) (by decide)

theorem Ipv6Addr.word_subslice (chunk : List UInt16) :
    Word (subslice chunk) := by
  refine above_intercalate (by decide) fun field hfield => ?_
  obtain ⟨segment, _, rfl⟩ := List.mem_map.mp hfield
  exact word_toDigits (by decide) (by decide)

theorem Ipv6Addr.word_chars (addr : Ipv6Addr) : Word addr.chars := by
  rw [chars]
  split
  · next mapped _ => exact above_append.mpr ⟨by decide, mapped.word_chars⟩
  · split
    · exact above_append.mpr ⟨above_append.mpr ⟨word_subslice _, by decide⟩,
        word_subslice _⟩
    · exact word_subslice _

/-- A displayed address is a single word. -/
theorem IpAddr.word_toString (addr : IpAddr) : Word addr.toString.toList := by
  rw [toString, String.toList_ofList]
  cases addr with
  | v4 addr => exact addr.word_chars
  | v6 addr => exact addr.word_chars

/-! ## Reading the log -/

structure LogEntry where
  timestamp : ℕ
  event : String
  message : String

namespace LogEntry

def line (entry : LogEntry) : String :=
  s!"ts={entry.timestamp} event={entry.event} {entry.message}"

/-- Read one line. -/
def read (line : List Char) : Option LogEntry := do
  let (timestamp, rest) ← readField "ts=".toList line
  let (event, message) ← readField "event=".toList rest
  some { timestamp := Nat.ofDigitChars 10 timestamp 0
         event := String.ofList event, message := String.ofList message }

structure Legible (entry : LogEntry) : Prop where
  event_word : Word entry.event.toList
  message_plain : Plain entry.message.toList

variable {entry : LogEntry}

theorem Legible.plain_line (hlegible : entry.Legible) :
    Plain entry.line.toList :=
  .concat (.concat (.concat (.concat (.concat (by decide)
    (Text.word_toString entry.timestamp).plain) (by decide))
    hlegible.event_word.plain) (by decide)) hlegible.message_plain

/-- A legible entry is read back from its line. -/
theorem Legible.read_line (hlegible : entry.Legible) :
    read entry.line.toList = some entry := by
  have htimestamp : Word (Nat.toDigits 10 entry.timestamp) :=
    word_toDigits (by decide) (by decide)
  have hline : entry.line.toList = "ts=".toList ++
      (Nat.toDigits 10 entry.timestamp ++ ' ' :: ("event=".toList ++
        (entry.event.toList ++ ' ' :: entry.message.toList))) := by
    have hnumber : (toString entry.timestamp).toList =
        Nat.toDigits 10 entry.timestamp := by
      rw [Nat.toString_eq_ofList_toDigits, String.toList_ofList]
    simp only [line, String.toList_append, hnumber, List.append_assoc]
    rfl
  rw [hline, read, readField_append _ htimestamp, Option.bind_eq_bind,
    Option.bind_some]
  simp only
  rw [readField_append _ hlegible.event_word, Option.bind_some]
  simp only [Nat.ofDigitChars_ten_toDigits, String.ofList_toList]

end LogEntry

/-- The text of the log file. -/
def AuditLogger.text (logger : AuditLogger) : List Char :=
  unlines (logger.lines.map String.toList)

/-- Read a log file. -/
def readLog (text : List Char) : Option (List LogEntry) :=
  (lines text).mapM LogEntry.read

/-- The log consists of the lines of these entries. -/
structure AuditLogger.Holds (entries : List LogEntry) (logger : AuditLogger) :
    Prop where
  lines_eq : logger.lines = entries.map LogEntry.line
  legible : ∀ entry ∈ entries, entry.Legible

namespace AuditLogger

variable {entries : List LogEntry} {logger : AuditLogger}

/-- What the log holds is read back from its text. -/
theorem Holds.readLog_text (hholds : Holds entries logger) :
    readLog logger.text = some entries := by
  have hplain : ∀ line ∈ logger.lines.map String.toList, Plain line := by
    rw [hholds.lines_eq, List.map_map, List.forall_mem_map]
    exact fun entry hentry => (hholds.legible entry hentry).plain_line
  have hlegible := hholds.legible
  rw [readLog, text, lines_unlines hplain, hholds.lines_eq]
  clear hholds hplain
  induction entries with
  | nil => rfl
  | cons entry entries ih =>
      obtain ⟨hentry, hentries⟩ := List.forall_mem_cons.mp hlegible
      rw [List.map_cons, List.map_cons, List.mapM_cons, hentry.read_line,
        ih hentries]
      rfl

theorem holds_opened (device : LogDevice) : Holds [] (opened device) :=
  ⟨rfl, by simp⟩

/-- A legible event that is logged makes one more entry, unless the write
fails. -/
theorem Holds.log (hholds : Holds entries logger) {event message : String}
    (hevent : Word event.toList) (hmessage : Plain message.toList) :
    match logger.log event message with
    | (.ok (), after) =>
        ∃ timestamp, Holds (entries ++ [⟨timestamp, event, message⟩]) after
    | (.error _, after) => Holds entries after := by
  cases hfailure : logger.device.failure logger.writes with
  | some failure =>
      simp only [AuditLogger.log, hfailure]
      exact ⟨hholds.lines_eq, hholds.legible⟩
  | none =>
      simp only [AuditLogger.log, hfailure]
      refine ⟨logger.device.unixSeconds logger.writes, ?_, ?_⟩
      · rw [hholds.lines_eq, List.map_append, List.map_singleton]
        rfl
      · exact List.forall_mem_append.mpr ⟨hholds.legible,
          List.forall_mem_singleton.mpr ⟨hevent, hmessage⟩⟩

end AuditLogger

/-! ## Decisions -/

inductive Action where
  | allow
  | ban
  deriving DecidableEq

namespace Action

def spec (firewall : Firewall) (sourceIp : IpAddr) : Action → CommandSpec
  | allow => firewall.addIpCommand sourceIp
  | ban => firewall.banIpCommand sourceIp

/-- The event that reports the action, by its success. -/
def event : Action → Bool → String
  | allow, true => "ssh_allow"
  | allow, false => "firewall_allow_failed"
  | ban, true => "rate_limit_ban"
  | ban, false => "firewall_ban_failed"

theorem word_event (action : Action) (succeeded : Bool) :
    Word (action.event succeeded).toList := by
  cases action <;> cases succeeded <;> decide

theorem plain_program_spec (action : Action) (firewall : Firewall)
    (sourceIp : IpAddr) :
    Plain (action.spec firewall sourceIp).program.toList := by
  have hipset : Plain "ipset".toList := by decide
  cases action with
  | allow => exact hipset
  | ban => exact hipset

end Action

/-- What the daemon had the firewall do with a source, and whether it did. -/
structure Decision where
  action : Action
  sourceIp : IpAddr
  succeeded : Bool

namespace Decision

/-- The command of the decision and its success. -/
def executed (firewall : Firewall) (decision : Decision) : CommandSpec × Bool :=
  (decision.action.spec firewall decision.sourceIp, decision.succeeded)

def event (decision : Decision) : String :=
  decision.action.event decision.succeeded

/-- What the log shows of the decision. -/
def shown (decision : Decision) : Action × Bool × String :=
  (decision.action, decision.succeeded, decision.sourceIp.toString)

end Decision

namespace LogEntry

/-- The decisions that an event reports. -/
def reported? (event : String) : Option (Action × Bool) :=
  if event = "ssh_allow" then some (.allow, true)
  else if event = "firewall_allow_failed" then some (.allow, false)
  else if event = "rate_limit_ban" then some (.ban, true)
  else if event = "firewall_ban_failed" then some (.ban, false)
  else none

/-- The decision that an entry tells of, if any. -/
def decision? (entry : LogEntry) : Option (Action × Bool × String) := do
  let (action, succeeded) ← reported? entry.event
  let (source, _) ← readField "source_ip=".toList entry.message.toList
  some (action, succeeded, String.ofList source)

theorem decision?_of_reported?_eq_none {entry : LogEntry}
    (hreported : reported? entry.event = none) : entry.decision? = none := by
  rw [decision?, hreported]
  rfl

/-- An entry about a decision shows the decision. -/
theorem decision?_event (decision : Decision) (timestamp : ℕ)
    {message : String} {details : List Char}
    (hmessage : message.toList = "source_ip=".toList ++
      (decision.sourceIp.toString.toList ++ ' ' :: details)) :
    decision? ⟨timestamp, decision.event, message⟩ = some decision.shown := by
  have hreported : reported? decision.event =
      some (decision.action, decision.succeeded) := by
    obtain ⟨action, sourceIp, succeeded⟩ := decision
    cases action <;> cases succeeded <;> rfl
  have hsource := readField_append "source_ip=".toList
    decision.sourceIp.word_toString details
  rw [← hmessage] at hsource
  rw [decision?, hreported, Option.bind_eq_bind, Option.bind_some]
  simp only
  rw [hsource, Option.bind_eq_bind, Option.bind_some, String.ofList_toList,
    Decision.shown]

example : (LogEntry.read "ts=7 event=ssh_allow source_ip=::1 rest".toList).bind
    decision? = some (.allow, true, "::1") := by
  decide

end LogEntry

/-! ## The trail -/

/-- The commands that add an entry to a set, and whether they succeeded. -/
def SystemCommandRunner.additions (runner : SystemCommandRunner) :
    List (CommandSpec × Bool) :=
  runner.journal.filter fun done =>
    Option.isSome (CommandSpec.addedEntry? done.1)

theorem SystemCommandRunner.additions_of_journal
    {runner after : SystemCommandRunner} {spec : CommandSpec} {succeeded : Bool}
    (hafter : after.journal = runner.journal ++ [(spec, succeeded)]) :
    after.additions = runner.additions ++
      if Option.isSome (CommandSpec.addedEntry? spec) then [(spec, succeeded)]
      else [] := by
  rw [additions, hafter, List.filter_append, List.filter_singleton,
    Bool.cond_eq_ite]
  rfl

/-- The log holds the entries, which tell of the decisions.  What has been added
to the sets are the decisions and what has not been logged. -/
structure Trail (firewall : Firewall) (entries : List LogEntry)
    (decisions unlogged : List Decision) (server : Server)
    (runner : SystemCommandRunner) : Prop where
  firewall_eq : server.firewall = firewall
  holds : server.logger.Holds entries
  decision?_eq :
    entries.filterMap LogEntry.decision? = decisions.map Decision.shown
  additions_eq : runner.additions =
    (decisions ++ unlogged).map (Decision.executed firewall)

/-- All decisions have been logged but for these. -/
def Audited (firewall : Firewall) (unlogged : List Decision) (server : Server)
    (runner : SystemCommandRunner) : Prop :=
  ∃ entries decisions, Trail firewall entries decisions unlogged server runner

/-- At most the last decision has not been logged, and only when the handling
of its packet has failed. -/
def Accounted (firewall : Firewall)
    (result : Ending × Server × SystemCommandRunner) : Prop :=
  ∃ unlogged, unlogged.length ≤ 1 ∧ (result.1 = .ok → unlogged = []) ∧
    Audited firewall unlogged result.2.1 result.2.2

namespace Audited

variable {firewall : Firewall} {unlogged : List Decision} {server : Server}
  {runner : SystemCommandRunner}

theorem accounted (haudited : Audited firewall [] server runner)
    (ending : Ending) : Accounted firewall (ending, server, runner) :=
  ⟨[], Nat.zero_le 1, fun _ => rfl, haudited⟩

/-- Only the log and the firewall matter. -/
theorem of_eq {after : Server}
    (haudited : Audited firewall unlogged server runner)
    (hfirewall : after.firewall = server.firewall)
    (hlogger : after.logger = server.logger) :
    Audited firewall unlogged after runner := by
  obtain ⟨entries, decisions, htrail⟩ := haudited
  exact ⟨entries, decisions, hfirewall.trans htrail.firewall_eq,
    hlogger ▸ htrail.holds, htrail.decision?_eq, htrail.additions_eq⟩

/-- Other events tell of no decision. -/
theorem log_other (haudited : Audited firewall unlogged server runner)
    {event message : String} (hevent : Word event.toList)
    (hmessage : Plain message.toList)
    (hreported : LogEntry.reported? event = none) :
    Audited firewall unlogged (server.log event message).2 runner := by
  obtain ⟨entries, decisions, htrail⟩ := haudited
  have hlog := htrail.holds.log hevent hmessage
  rw [Server.log]
  generalize server.logger.log event message = result at hlog ⊢
  obtain ⟨_ | _, after⟩ := result
  · exact ⟨entries, decisions, htrail.firewall_eq, hlog, htrail.decision?_eq,
      htrail.additions_eq⟩
  · obtain ⟨timestamp, hholds⟩ := hlog
    refine ⟨_, decisions, htrail.firewall_eq, hholds, ?_, htrail.additions_eq⟩
    have hnone : LogEntry.decision? ⟨timestamp, event, message⟩ = none :=
      LogEntry.decision?_of_reported?_eq_none hreported
    rw [List.filterMap_append, htrail.decision?_eq, List.filterMap_cons, hnone]
    simp

/-- Once its event is written, a decision is logged. -/
theorem log_decision {decision : Decision}
    (haudited : Audited firewall [decision] server runner) {message : String}
    {details : List Char} (hdetails : Plain details)
    (hmessage : message.toList = "source_ip=".toList ++
      (decision.sourceIp.toString.toList ++ ' ' :: details)) :
    match server.log decision.event message with
    | (.ok (), after) => Audited firewall [] after runner
    | (.error _, after) => Audited firewall [decision] after runner := by
  obtain ⟨entries, decisions, htrail⟩ := haudited
  have hevent : Word decision.event.toList :=
    decision.action.word_event decision.succeeded
  have hplain : Plain message.toList := by
    rw [hmessage]
    exact above_append.mpr ⟨by decide, above_append.mpr
      ⟨decision.sourceIp.word_toString.plain,
        above_cons.mpr ⟨by decide, hdetails⟩⟩⟩
  have hlog := htrail.holds.log hevent hplain
  rw [Server.log]
  generalize server.logger.log decision.event message = result at hlog ⊢
  obtain ⟨_ | _, after⟩ := result
  · exact ⟨entries, decisions, htrail.firewall_eq, hlog, htrail.decision?_eq,
      htrail.additions_eq⟩
  · obtain ⟨timestamp, hholds⟩ := hlog
    refine ⟨_, decisions ++ [decision], htrail.firewall_eq, hholds, ?_, ?_⟩
    · rw [List.filterMap_append, htrail.decision?_eq, List.filterMap_cons,
        LogEntry.decision?_event decision timestamp hmessage, List.map_append]
      rfl
    · rw [List.append_nil]
      exact htrail.additions_eq

/-- A decision is executed before it is logged. -/
theorem run (haudited : Audited firewall [] server runner) (action : Action)
    (sourceIp : IpAddr) :
    match perform (CommandRunner.run (action.spec firewall sourceIp))
        runner with
    | (.ok (), after) =>
        Audited firewall [⟨action, sourceIp, true⟩] server after
    | (.error error, after) =>
        Audited firewall [⟨action, sourceIp, false⟩] server after ∧
          Plain error.toList := by
  obtain ⟨entries, decisions, htrail⟩ := haudited
  have hdecided : ∀ {after : SystemCommandRunner} (succeeded : Bool),
      after.journal = runner.journal ++
        [(action.spec firewall sourceIp, succeeded)] →
      Audited firewall [⟨action, sourceIp, succeeded⟩] server after := by
    intro after succeeded hafter
    have hadds : Option.isSome
        (CommandSpec.addedEntry? (action.spec firewall sourceIp)) := by
      cases action <;> rfl
    refine ⟨entries, decisions, htrail.firewall_eq, htrail.holds,
      htrail.decision?_eq, ?_⟩
    rw [SystemCommandRunner.additions_of_journal hafter, htrail.additions_eq,
      if_pos hadds, List.append_nil, List.map_append]
    rfl
  have hrun := runner.perform_run
    (action.plain_program_spec firewall sourceIp)
  generalize perform (CommandRunner.run (action.spec firewall sourceIp))
    runner = result at hrun ⊢
  obtain ⟨error | _, after⟩ := result
  · exact ⟨hdecided false hrun.1, hrun.2⟩
  · exact hdecided true hrun

/-- A check leaves no trail. -/
theorem check (haudited : Audited firewall unlogged server runner)
    {spec : CommandSpec} (hcheck : spec.addedEntry? = none) {succeeded : Bool}
    {after : SystemCommandRunner}
    (hafter : after.journal = runner.journal ++ [(spec, succeeded)]) :
    Audited firewall unlogged server after := by
  obtain ⟨entries, decisions, htrail⟩ := haudited
  refine ⟨entries, decisions, htrail.firewall_eq, htrail.holds,
    htrail.decision?_eq, ?_⟩
  rw [SystemCommandRunner.additions_of_journal hafter, hcheck]
  exact (List.append_nil _).trans htrail.additions_eq

end Audited

/-! ## What a packet adds to the trail -/

section

variable {firewall : Firewall} {server : Server} {runner : SystemCommandRunner}

theorem Audited.firewall_eq {unlogged : List Decision}
    (haudited : Audited firewall unlogged server runner) :
    server.firewall = firewall := by
  obtain ⟨_, _, htrail⟩ := haudited
  exact htrail.firewall_eq

/-- A decision whose event cannot be written is the last one. -/
theorem Audited.accounted_log {decision : Decision}
    (haudited : Audited firewall [decision] server runner) {message : String}
    {details : List Char} (hdetails : Plain details)
    (hmessage : message.toList = "source_ip=".toList ++
      (decision.sourceIp.toString.toList ++ ' ' :: details))
    {ending : Ending}
    (hending : ending = .ok → (server.log decision.event message).1 = .ok ()) :
    Accounted firewall
      (ending, (server.log decision.event message).2, runner) := by
  have hlog := haudited.log_decision hdetails hmessage
  generalize server.log decision.event message = result at hlog hending ⊢
  obtain ⟨error | _, after⟩ := result
  · refine ⟨[decision], le_refl 1, fun hok => ?_, hlog⟩
    cases hending hok
  · exact hlog.accounted ending

theorem Ending.ofResult_eq_ok {result : Except Error Unit}
    (hok : Ending.ofResult result = .ok) : result = .ok () := by
  cases result with
  | error error => cases hok
  | ok value => rfl

theorem Audited.accounted_enforceBan
    (haudited : Audited firewall [] server runner) (sourceIp : IpAddr) :
    Accounted firewall (server.enforceBan runner sourceIp) := by
  have hperform : perform (server.firewall.banIp sourceIp) runner =
      perform (CommandRunner.run (Action.ban.spec firewall sourceIp))
        runner := by
    rw [haudited.firewall_eq]
    rfl
  have hrun := haudited.run .ban sourceIp
  rw [Server.enforceBan, hperform]
  generalize perform (CommandRunner.run (Action.ban.spec firewall sourceIp))
    runner = result at hrun ⊢
  obtain ⟨error | _, after⟩ := result
  · have hdetails : Plain ("error=".toList ++ error.toList) :=
      above_append.mpr ⟨by decide, hrun.2⟩
    refine hrun.1.accounted_log hdetails ?_ Ending.ofResult_eq_ok
    simp only [String.toList_append, List.append_assoc]
    rfl
  · have hdetails : Plain ("ban_timeout_seconds=".toList ++
        (toString server.config.banTimeout).toList) :=
      above_append.mpr ⟨by decide, (word_toString _).plain⟩
    refine hrun.accounted_log hdetails ?_ Ending.ofResult_eq_ok
    simp only [String.toList_append, List.append_assoc]
    rfl

theorem Audited.accounted_openFirewall
    (haudited : Audited firewall [] server runner) (sourceIp : IpAddr) :
    Accounted firewall (server.openFirewall runner sourceIp) := by
  have hperform : perform (server.firewall.addIp sourceIp) runner =
      perform (CommandRunner.run (Action.allow.spec firewall sourceIp))
        runner := by
    rw [haudited.firewall_eq]
    rfl
  have hrun := haudited.run .allow sourceIp
  rw [Server.openFirewall, hperform]
  generalize perform (CommandRunner.run (Action.allow.spec firewall sourceIp))
    runner = result at hrun ⊢
  obtain ⟨error | _, after⟩ := result
  · have hdetails : Plain ("error=".toList ++ error.toList) :=
      above_append.mpr ⟨by decide, hrun.2⟩
    have hmessage : (s!"source_ip={sourceIp} error={error}").toList =
        "source_ip=".toList ++ (sourceIp.toString.toList ++
          ' ' :: ("error=".toList ++ error.toList)) := by
      simp only [String.toList_append, List.append_assoc]
      rfl
    have hlogged : ∀ reason, Accounted firewall
        (.error reason, (server.log "firewall_allow_failed"
          s!"source_ip={sourceIp} error={error}").2, after) :=
      fun reason => hrun.1.accounted_log hdetails hmessage fun hok => by
        cases hok
    simp only
    split <;> next hlog =>
      rw [hlog] at hlogged
      exact hlogged _
  · have hdetails : Plain ("allow_timeout_seconds=".toList ++
        (toString server.config.ipTimeout).toList) :=
      above_append.mpr ⟨by decide, (word_toString _).plain⟩
    refine hrun.accounted_log hdetails ?_ Ending.ofResult_eq_ok
    simp only [String.toList_append, List.append_assoc]
    rfl

theorem Audited.logPacketTelemetry
    (haudited : Audited firewall [] server runner) (sourceIp : IpAddr)
    (outcome : KnockOutcome) (now : ℕ) :
    Audited firewall [] (server.logPacketTelemetry sourceIp outcome now).2
      runner := by
  have hsource : Plain ("source_ip=" ++ sourceIp.toString).toList :=
    .concat (by decide) sourceIp.word_toString.plain
  have hlimiter : ∀ packetTelemetryLimiter,
      Audited firewall [] { server with packetTelemetryLimiter } runner :=
    fun _ => haudited.of_eq rfl rfl
  have hclass : Plain (Server.redactedOutcome outcome).toList := by
    have hclasses : ∀ outcomeClass ∈
        ["accepted", "progress", "rejected", "oversized"],
        Plain outcomeClass.toList := by decide
    apply hclasses
    cases outcome <;> simp [Server.redactedOutcome]
  rw [Server.logPacketTelemetry]
  split
  · exact haudited
  simp only
  split
  · exact hlimiter _
  generalize (server.packetTelemetryLimiter.allow "packet" now).2 = limiter
  have hseen : Audited firewall []
      (Server.log { server with packetTelemetryLimiter := limiter }
        "packet_seen" s!"source_ip={sourceIp} observed=true").2 runner :=
    (hlimiter limiter).log_other (by decide) (hsource.concat (by decide)) rfl
  split
  · next hlog =>
      rw [hlog] at hseen
      exact hseen
  · next hlog =>
      rw [hlog] at hseen
      exact hseen.log_other (by decide)
        ((hsource.concat (by decide)).concat hclass) rfl

theorem Audited.accounted_respond
    (haudited : Audited firewall [] server runner) (sourceIp : IpAddr)
    (outcome : KnockOutcome) (now : ℕ) :
    Accounted firewall (server.respond runner sourceIp outcome now) := by
  have htelemetry := haudited.logPacketTelemetry sourceIp outcome now
  rw [Server.respond]
  split
  · next hlog =>
      rw [hlog] at htelemetry
      exact htelemetry.accounted _
  · next hlog =>
      rw [hlog] at htelemetry
      split
      · exact htelemetry.accounted_openFirewall sourceIp
      · exact htelemetry.accounted _

/-- Handling a packet leaves at most its own decision unlogged. -/
theorem Audited.accounted_handle
    (haudited : Audited firewall [] server runner) (arrival : Arrival) :
    Accounted firewall (server.handle runner arrival) := by
  have hunjudged := server.unjudged_judge arrival
  have hjudged := haudited.of_eq hunjudged.firewall_eq hunjudged.logger_eq
  rw [Server.handle_eq]
  cases (server.judge arrival).1 with
  | ignore => exact hjudged.accounted _
  | abort => exact hjudged.accounted _
  | ban => exact hjudged.accounted_enforceBan arrival.sourceIp
  | answer outcome =>
      exact hjudged.accounted_respond arrival.sourceIp outcome arrival.now

end

/-! ## The trail of a run -/

section

variable {firewall : Firewall} {server : Server}

/-- The command leaves no trail, and its error is plain. -/
def Checks (firewall : Firewall) (server : Server)
    (command : CommandM SystemCommandRunner Unit) : Prop :=
  ∀ runner, Audited firewall [] server runner →
    match perform command runner with
    | (.ok (), after) => Audited firewall [] server after
    | (.error error, after) =>
        Audited firewall [] server after ∧ Plain error.toList

theorem checks_run {spec : CommandSpec} (hprogram : Plain spec.program.toList)
    (hcheck : spec.addedEntry? = none) :
    Checks firewall server (CommandRunner.run spec) := by
  intro runner haudited
  have hrun := runner.perform_run hprogram
  generalize perform (CommandRunner.run spec) runner = result at hrun ⊢
  obtain ⟨error | _, after⟩ := result
  · exact ⟨haudited.check hcheck hrun.1, hrun.2⟩
  · exact haudited.check hcheck hrun

theorem Checks.bind {first second : CommandM SystemCommandRunner Unit}
    (hfirst : Checks firewall server first)
    (hsecond : Checks firewall server second) :
    Checks firewall server (first >>= fun _ => second) := by
  intro runner haudited
  have hended := hfirst runner haudited
  rw [perform_bind]
  generalize perform first runner = result at hended ⊢
  obtain ⟨error | _, after⟩ := result
  · exact hended
  · exact hsecond after hended

theorem checks_preflight :
    Checks firewall server firewall.preflight := by
  have hipset : Plain "ipset".toList := by decide
  have hprogram : Plain firewall.firewallProgram.toList := by
    rw [Firewall.firewallProgram]
    cases firewall.backend <;> decide
  have hlist : ∀ name, Checks firewall server
      (CommandRunner.run { program := "ipset", args := ["list", name] }) :=
    fun _ => checks_run hipset rfl
  refine (hlist _).bind ((hlist _).bind (checks_run hprogram ?_))
  rw [Firewall.firewallProgram]
  cases firewall.backend <;> rfl

end

namespace Daemon

variable {N Stream Tag : Type} [Network N Stream Tag] {firewall : Firewall}

/-- The daemon has logged all its decisions but these. -/
def Unlogged (firewall : Firewall) (unlogged : List Decision)
    (daemon : Daemon N SystemCommandRunner Tag) : Prop :=
  Audited firewall unlogged daemon.server daemon.runner

theorem startsUp_unlogged :
    StartsUp (fun error => Plain error.toList)
      (Unlogged firewall [] : Daemon N SystemCommandRunner Tag → Prop) where
  bind _ _ haudited := haudited
  logEvent event message hevent := by
    apply Keeps.of_perform
    intro daemon haudited
    cases hevent with
    | starting => exact haudited.log_other (by decide) (by decide) rfl
    | refused hreported =>
        exact haudited.log_other (by decide) (.concat (by decide) hreported) rfl
    | completed => exact haudited.log_other (by decide) (by decide) rfl
    | udp => exact haudited.log_other (by decide) (by decide) rfl
    | tcp => exact haudited.log_other (by decide) (by decide) rfl
    | icmp => exact haudited.log_other (by decide) (by decide) rfl
  preflight := by
    intro daemon haudited
    have hchecked : Checks firewall daemon.server
        daemon.server.firewall.preflight := by
      rw [haudited.firewall_eq]
      exact checks_preflight
    have hended := hchecked daemon.runner haudited
    have hperform : perform Daemon.preflight daemon =
        (.ok (perform daemon.server.firewall.preflight daemon.runner).1,
          { daemon with runner :=
            (perform daemon.server.firewall.preflight daemon.runner).2 }) := rfl
    rw [hperform]
    generalize perform daemon.server.firewall.preflight daemon.runner = result
      at hended ⊢
    obtain ⟨error | _, after⟩ := result
    · refine ⟨hended.1, fun reported hreported => ?_⟩
      obtain rfl := Except.error.inj hreported
      exact hended.2
    · exact ⟨hended, by simp⟩

theorem triple_unlogged_processPacket (addr : SocketAddr) (protocol : Protocol)
    (port : Option UInt16) (size : ℕ) (tag : Tag) :
    Triple (Unlogged firewall [])
      (processPacket addr protocol port size tag :
        DaemonM N SystemCommandRunner Tag Unit)
      (fun _ => Unlogged firewall [])
      (fun daemon => ∃ unlogged, unlogged.length ≤ 1 ∧
        Unlogged firewall unlogged daemon) := by
  intro daemon haudited
  rw [perform_processPacket]
  simp only
  obtain ⟨unlogged, hlength, hok, hafter⟩ := haudited.accounted_handle
    ⟨(Streams.now daemon.network).1, addr, protocol, port, size⟩
  split_ifs with hending
  · exact hok hending ▸ hafter
  · exact ⟨unlogged, hlength, hafter⟩

/-- Wherever the daemon stops, its trail is complete but for at most one
decision, and complete if nothing has failed. -/
theorem triple_unlogged_run (config : Config) (count : ℕ) :
    Triple (Unlogged firewall [])
      (run config count :
        DaemonM N SystemCommandRunner Tag (List (PendingTcp Stream)))
      (fun _ => Unlogged firewall [])
      (fun daemon => ∃ unlogged, unlogged.length ≤ 1 ∧
        Unlogged firewall unlogged daemon) := by
  have hfailed : ∀ daemon : Daemon N SystemCommandRunner Tag,
      Unlogged firewall [] daemon → ∃ unlogged : List Decision,
        unlogged.length ≤ 1 ∧ Unlogged firewall unlogged daemon :=
    fun _ haudited => ⟨[], Nat.zero_le 1, haudited⟩
  apply Triple.bind
    (Triple.imp_failed (startsUp_unlogged.startUp config) hfailed)
  intro sockets
  apply Triple.imp_returned
  · exact ((polls_of_processPacket hfailed (fun _ _ haudited => haudited)
      fun addr protocol port size tag _ =>
        triple_unlogged_processPacket addr protocol port size tag).passes config
          count []).of_imp fun _ haudited => ⟨haudited, by simp⟩
  · exact fun _ _ hpending => hpending.1

/-- The audit trail is complete and cannot be forged.  Whatever the commands
print and however they end, every line of the log is an entry of the daemon
without line breaks or other characters below the blank, the file is read back
as these entries, and their decisions are the entries added to the firewall's
sets, in order and with their success.  Only when the daemon ends may the last
decision be missing. -/
theorem audit_log_complete (config : ValidConfig) (device : LogDevice)
    (network : N) (tables : CharTables)
    (process : List CommandSpec → CommandSpec → Option Output) (count : ℕ) :
    let ended := perform
      (run config.toConfig count :
        DaemonM N SystemCommandRunner Tag (List (PendingTcp Stream)))
      { server := .started config device, network
        runner := { tables, process, finished := [] }, handed := [] }
    ∃ entries decisions unlogged,
      (∀ line ∈ ended.2.server.logger.lines, Plain line.toList) ∧
      ended.2.server.logger.lines = entries.map LogEntry.line ∧
      readLog ended.2.server.logger.text = some entries ∧
      entries.filterMap LogEntry.decision? = decisions.map Decision.shown ∧
      ended.2.runner.additions = (decisions ++ unlogged).map
        (Decision.executed (Server.started config device).firewall) ∧
      unlogged.length ≤ 1 ∧
      ((∃ pending, ended.1 = .ok pending) → unlogged = []) := by
  have hstarted : Unlogged (Server.started config device).firewall []
      ({ server := .started config device, network
         runner := { tables, process, finished := [] }, handed := [] } :
        Daemon N SystemCommandRunner Tag) :=
    ⟨[], [], rfl, AuditLogger.holds_opened device, rfl, rfl⟩
  have hended := triple_unlogged_run config.toConfig count _ hstarted
  generalize perform
    (run config.toConfig count :
      DaemonM N SystemCommandRunner Tag (List (PendingTcp Stream))) _ = ended
    at hended ⊢
  have hunlogged : ∃ unlogged, unlogged.length ≤ 1 ∧
      Unlogged (Server.started config device).firewall unlogged ended.2 ∧
      ((∃ pending, ended.1 = .ok pending) → unlogged = []) := by
    obtain ⟨_ | pending, after⟩ := ended
    · obtain ⟨unlogged, hlength, haudited⟩ := hended
      exact ⟨unlogged, hlength, haudited, fun ⟨_, hpending⟩ => by
        cases hpending⟩
    · exact ⟨[], Nat.zero_le 1, hended, fun _ => rfl⟩
  obtain ⟨unlogged, hlength, ⟨entries, decisions, htrail⟩, hok⟩ := hunlogged
  refine ⟨entries, decisions, unlogged, ?_, htrail.holds.lines_eq,
    htrail.holds.readLog_text, htrail.decision?_eq, htrail.additions_eq,
    hlength, hok⟩
  rw [htrail.holds.lines_eq, List.forall_mem_map]
  exact fun entry hentry => (htrail.holds.legible entry hentry).plain_line

end Daemon

end SshKnock
