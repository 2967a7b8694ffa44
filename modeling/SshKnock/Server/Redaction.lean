import SshKnock.Server.Run

/-!
# What the packet log can tell

Two servers that differ only in the knock they wait for report the same about
packets of the same sources at the same times, as long as their trackers answer
with outcomes of the same class.
-/

namespace SshKnock

/-- What a packet shows to everyone but the tracker: how its handling ends, the
commands it causes, the log afterwards and whether it reaches the tracker. -/
structure Observation where
  ending : Ending
  issued : List CommandSpec
  logger : AuditLogger
  reachesTracker : Bool

/-- The classes of outcomes, one for each way to make an outcome. -/
inductive OutcomeClass where
  | accepted
  | progress
  | rejected
  | oversized
  deriving DecidableEq

/-- The class forgets the step that comes next. -/
def KnockOutcome.outcomeClass : KnockOutcome → OutcomeClass
  | .accepted => .accepted
  | .progress _ => .progress
  | .rejected => .rejected
  | .oversized => .oversized

namespace Handling

def reachesTracker (handling : Handling) : Bool :=
  !handling.before.bannedAt handling.arrival.sourceIp handling.arrival.now

/-- The class of the tracker's outcome. -/
def outcomeClass (handling : Handling) : OutcomeClass :=
  (handling.before.outcome handling.arrival).outcomeClass

def observation (handling : Handling) : Observation :=
  { ending := handling.ending
    issued := handling.issued
    logger := handling.after.logger
    reachesTracker := handling.reachesTracker }

end Handling

/-- The packets come from the same source at the same time. -/
structure Arrival.Alike (left right : Arrival) : Prop where
  sourceIp_eq : left.sourceIp = right.sourceIp
  now_eq : left.now = right.now

namespace KnockOutcome

variable {left right : KnockOutcome}

/-- Outcomes of one class differ at most in the step that comes next. -/
theorem eq_or_progress_of_class
    (hclass : left.outcomeClass = right.outcomeClass) :
    left = right ∨
      ∃ nextStep otherStep, left = .progress nextStep ∧
        right = .progress otherStep := by
  cases left <;> cases right <;> first
    | exact Or.inl rfl
    | exact Or.inr ⟨_, _, rfl, rfl⟩
    | cases hclass

/-- What the log says of an outcome depends on its class alone. -/
theorem redactedOutcome_eq_of_class
    (hclass : left.outcomeClass = right.outcomeClass) :
    Server.redactedOutcome left = Server.redactedOutcome right := by
  obtain rfl | ⟨nextStep, otherStep, rfl, rfl⟩ :=
    eq_or_progress_of_class hclass <;> rfl

/-- The class of an outcome decides whether it is invalid. -/
theorem isInvalid_eq_of_class
    (hclass : left.outcomeClass = right.outcomeClass) :
    left.isInvalid = right.isInvalid := by
  obtain rfl | ⟨nextStep, otherStep, rfl, rfl⟩ :=
    eq_or_progress_of_class hclass <;> rfl

/-- Acceptance is a class of its own. -/
theorem accepted_iff_of_class
    (hclass : left.outcomeClass = right.outcomeClass) :
    left = .accepted ↔ right = .accepted := by
  obtain rfl | ⟨nextStep, otherStep, rfl, rfl⟩ :=
    eq_or_progress_of_class hclass
  · exact Iff.rfl
  · simp

end KnockOutcome

namespace Server

variable {R : Type} [CommandRunner R]

/-- The server with another knock to wait for. -/
def reknocked (server : Server) (knock : KnockSection)
    (tracker : KnockTracker) : Server :=
  { server with config := { server.config with knock }, tracker }

/-- The same result, but of a server with another knock. -/
def reknock (knock : KnockSection) (tracker : KnockTracker)
    (result : Ending × Server × R) : Ending × Server × R :=
  (result.1, result.2.1.reknocked knock tracker, result.2.2)

variable (server : Server) (knock : KnockSection) (tracker : KnockTracker)

theorem log_reknocked (event message : String) :
    (server.reknocked knock tracker).log event message =
      ((server.log event message).1,
        (server.log event message).2.reknocked knock tracker) := rfl

theorem logPacketTelemetry_reknocked (sourceIp : IpAddr)
    {left right : KnockOutcome} (now : ℕ)
    (hclass : left.outcomeClass = right.outcomeClass) :
    (server.reknocked knock tracker).logPacketTelemetry sourceIp right now =
      ((server.logPacketTelemetry sourceIp left now).1,
        (server.logPacketTelemetry sourceIp left now).2.reknocked knock
          tracker) := by
  have henabled : (server.reknocked knock tracker).packetTelemetryEnabled =
      server.packetTelemetryEnabled := rfl
  have hlimiter : ∀ packetTelemetryLimiter,
      { server.reknocked knock tracker with packetTelemetryLimiter } =
        { server with packetTelemetryLimiter }.reknocked knock tracker :=
    fun _ => rfl
  simp only [logPacketTelemetry]
  rw [henabled]
  split
  · rfl
  have hallow : (server.reknocked knock tracker).packetTelemetryLimiter =
      server.packetTelemetryLimiter := rfl
  have hredacted := KnockOutcome.redactedOutcome_eq_of_class hclass
  simp only [hlimiter, hallow, ← hredacted]
  generalize server.packetTelemetryLimiter.allow "packet" now = asked
  obtain ⟨allowed, packetTelemetryLimiter⟩ := asked
  cases allowed with
  | false => rfl
  | true =>
      simp only [log_reknocked]
      generalize { server with packetTelemetryLimiter }.log _ _ = logged
      obtain ⟨result, after⟩ := logged
      cases result <;> rfl

theorem enforceBan_reknocked (runner : R) (sourceIp : IpAddr) :
    (server.reknocked knock tracker).enforceBan runner sourceIp =
      reknock knock tracker (server.enforceBan runner sourceIp) := by
  have hfirewall : (server.reknocked knock tracker).firewall =
      server.firewall := rfl
  rw [enforceBan, enforceBan, hfirewall]
  rcases Fallible.perform (server.firewall.banIp sourceIp) runner with
    ⟨result, runner⟩
  cases result <;> rfl

theorem openFirewall_reknocked (runner : R) (sourceIp : IpAddr) :
    (server.reknocked knock tracker).openFirewall runner sourceIp =
      reknock knock tracker (server.openFirewall runner sourceIp) := by
  have hfirewall : (server.reknocked knock tracker).firewall =
      server.firewall := rfl
  rw [openFirewall, openFirewall, hfirewall]
  rcases Fallible.perform (server.firewall.addIp sourceIp) runner with
    ⟨result, runner⟩
  cases result with
  | ok value => rfl
  | error error =>
      simp only [log_reknocked]
      generalize server.log _ _ = logged
      obtain ⟨result, after⟩ := logged
      cases result <;> rfl

theorem respond_reknocked (runner : R) (sourceIp : IpAddr)
    {left right : KnockOutcome} (now : ℕ)
    (hclass : left.outcomeClass = right.outcomeClass) :
    (server.reknocked knock tracker).respond runner sourceIp right now =
      reknock knock tracker (server.respond runner sourceIp left now) := by
  have haccepted := KnockOutcome.accepted_iff_of_class hclass
  rw [respond, respond,
    server.logPacketTelemetry_reknocked knock tracker sourceIp now hclass]
  generalize server.logPacketTelemetry sourceIp left now = logged
  obtain ⟨result, after⟩ := logged
  cases result with
  | error error => rfl
  | ok value =>
      simp only [← haccepted]
      split
      · exact after.openFirewall_reknocked knock tracker runner sourceIp
      · rfl

theorem rememberBannedSource_reknocked (sourceIp : IpAddr) (now : ℕ) :
    (server.reknocked knock tracker).rememberBannedSource sourceIp now =
      (server.rememberBannedSource sourceIp now).map
        fun after => after.reknocked knock tracker := by
  have hremembered : (server.reknocked knock tracker).rememberedSources
      sourceIp now = server.rememberedSources sourceIp now := rfl
  rw [rememberBannedSource_def, rememberBannedSource_def, hremembered,
    Option.map_map]
  rfl

theorem expireBannedSources_reknocked (now : ℕ) :
    (server.reknocked knock tracker).expireBannedSources now =
      (server.expireBannedSources now).reknocked knock tracker := rfl

variable {left right : Arrival}

theorem tracked_reknocked (halike : left.Alike right) :
    (server.reknocked knock tracker).tracked right =
      (server.tracked left).reknocked knock
        (tracker.process right.packet right.now).2 := by
  rw [tracked, tracked, halike.now_eq]
  rfl

theorem limited_reknocked (halike : left.Alike right) :
    (server.reknocked knock tracker).limited right =
      (server.limited left).reknocked knock
        (tracker.process right.packet right.now).2 := by
  rw [limited, limited, tracked_reknocked server knock tracker halike,
    halike.sourceIp_eq, halike.now_eq]
  rfl

theorem bannedAt_reknocked (halike : left.Alike right) :
    (server.reknocked knock tracker).bannedAt right.sourceIp right.now =
      server.bannedAt left.sourceIp left.now := by
  rw [halike.sourceIp_eq, halike.now_eq]
  rfl

/-- With another knock to wait for, the server reports the same about a packet
whose outcome is of the same class. -/
theorem handle_reknocked (runner : R) (halike : left.Alike right)
    (hclass : server.bannedAt left.sourceIp left.now = false →
      (server.outcome left).outcomeClass =
        ((server.reknocked knock tracker).outcome right).outcomeClass) :
    ∃ after, (server.reknocked knock tracker).handle runner right =
      reknock knock after (server.handle runner left) := by
  have hbannedAt := server.bannedAt_reknocked knock tracker halike
  have hlimiter : (server.reknocked knock tracker).sourceLimiter =
      server.sourceLimiter := rfl
  rw [handle_def, handle_def, hbannedAt]
  split
  · refine ⟨tracker, ?_⟩
    rw [expireBannedSources_reknocked, ← halike.now_eq]
    rfl
  next hunbanned =>
  have hclass := hclass (Bool.eq_false_iff.mpr hunbanned)
  refine ⟨(tracker.process right.packet right.now).2, ?_⟩
  rw [tracked_reknocked server knock tracker halike,
    limited_reknocked server knock tracker halike, hlimiter,
    ← KnockOutcome.isInvalid_eq_of_class hclass, ← halike.sourceIp_eq,
    ← halike.now_eq]
  split
  · split
    · exact respond_reknocked _ _ _ _ _ _ hclass
    · rw [rememberBannedSource_reknocked]
      generalize (server.limited left).rememberBannedSource _ _ = remembered
      cases remembered with
      | none => rfl
      | some after => exact enforceBan_reknocked _ _ _ _ _
  · exact respond_reknocked _ _ _ _ _ _ hclass

theorem observation_handling (runner : RecordingRunner) (arrival : Arrival) :
    (server.handling runner arrival).observation =
      { ending := (server.handle runner arrival).1
        issued := (server.handle runner arrival).2.2.commands.drop
          runner.commands.length
        logger := (server.handle runner arrival).2.1.logger
        reachesTracker := !server.bannedAt arrival.sourceIp arrival.now } := rfl

/-- At every packet that reaches both trackers their outcomes have the same
class. -/
def SameClasses (left right : List Handling) : Prop :=
  ∀ pair ∈ left.zip right, pair.1.reachesTracker = true →
    pair.2.reachesTracker = true → pair.1.outcomeClass = pair.2.outcomeClass

instance (left right : List Handling) : Decidable (SameClasses left right) :=
  inferInstanceAs (Decidable (∀ pair ∈ left.zip right, _ → _ → _))

/-- Over whole runs, too, it reports the same. -/
theorem trace_reknocked (runner : RecordingRunner)
    {leftArrivals rightArrivals : List Arrival}
    (halike : List.Forall₂ Arrival.Alike leftArrivals rightArrivals)
    (hclasses : SameClasses (server.trace runner leftArrivals)
      ((server.reknocked knock tracker).trace runner rightArrivals)) :
    (server.trace runner leftArrivals).map Handling.observation =
      ((server.reknocked knock tracker).trace runner rightArrivals).map
        Handling.observation := by
  induction halike generalizing server tracker runner with
  | nil => rfl
  | @cons left right leftArrivals rightArrivals hfirst hrest ih =>
      rw [trace_cons, trace_cons] at hclasses ⊢
      rw [SameClasses, List.zip_cons_cons] at hclasses
      obtain ⟨hclass, hclasses⟩ := List.forall_mem_cons.mp hclasses
      have hbannedAt := server.bannedAt_reknocked knock tracker hfirst
      obtain ⟨after, hhandle⟩ := server.handle_reknocked knock tracker runner
        hfirst fun hunbanned => by
          apply hclass
          · exact Bool.not_eq_true' _ ▸ hunbanned
          · exact Bool.not_eq_true' _ ▸ hbannedAt.trans hunbanned
      have hobserved : (server.handling runner left).observation =
          ((server.reknocked knock tracker).handling runner
            right).observation := by
        rw [observation_handling, observation_handling, hhandle, hbannedAt]
        rfl
      have hending : ((server.reknocked knock tracker).handle runner right).1 =
          (server.handle runner left).1 := by
        rw [hhandle]
        rfl
      have hafter : ((server.reknocked knock tracker).handling runner
          right).after = (server.handling runner left).after.reknocked knock
            after :=
        congrArg (fun result => result.2.1) hhandle
      have hrunner : ((server.reknocked knock tracker).handle runner
          right).2.2 = (server.handle runner left).2.2 :=
        congrArg (fun result => result.2.2) hhandle
      rw [hending, hafter, hrunner] at hclasses ⊢
      rw [List.map_cons, List.map_cons, hobserved]
      congr 1
      split
      · rfl
      · next hcontinues =>
          rw [if_neg hcontinues, if_neg hcontinues] at hclasses
          exact ih _ _ _ hclasses

/-- Whatever the knock is, the log and the firewall show only the classes of
the outcomes. -/
theorem packet_log_redacted (left right : ValidConfig) {knock : KnockSection}
    (hknock : right.toConfig = { left.toConfig with knock })
    (device : LogDevice)
    (answer : List CommandSpec → CommandSpec → Except Error CommandStatus)
    {leftArrivals rightArrivals : List Arrival}
    (halike : List.Forall₂ Arrival.Alike leftArrivals rightArrivals)
    (hclasses : SameClasses
      ((started left device).trace (.answering answer) leftArrivals)
      ((started right device).trace (.answering answer) rightArrivals)) :
    ((started left device).trace (.answering answer) leftArrivals).map
        Handling.observation =
      ((started right device).trace (.answering answer) rightArrivals).map
        Handling.observation := by
  have hstarted : started right device = (started left device).reknocked knock
      (.fresh right.knockRules right.maxPartialStates) := by
    obtain ⟨config, hvalidated⟩ := right
    subst hknock
    rfl
  rw [hstarted] at hclasses ⊢
  exact trace_reknocked _ _ _ _ halike hclasses

/-- The test configuration, logging each packet. -/
def debugConfig : ValidConfig :=
  { testConfig with logLevel := "debug", validated := by decide }

/-- The same configuration with a knock on another protocol and other ports. -/
def otherKnockConfig : ValidConfig :=
  { debugConfig with
    knock := ⟨[⟨.icmp, none, 1⟩, ⟨.tcp, some 9001, 2⟩, ⟨.udp, some 9002, 3⟩]⟩
    validated := by decide }

/-- A packet of one and the same source. -/
def packetArrival (now : ℕ) (protocol : Protocol) (port : Option UInt16) :
    Arrival :=
  { now, addr := ⟨KnockTracker.testSource 10, 12345⟩, protocol, port
    payloadSize := 1 }

/-- Each source completes the knock it is expected to make. -/
theorem packet_log_redacted_accepted :
    ((started debugConfig .writable).trace
        (.answering RecordingRunner.succeeding)
        [packetArrival 0 .tcp (some 7001), packetArrival 1 .udp (some 7002),
          packetArrival 2 .tcp (some 7003)]).map Handling.observation =
      ((started otherKnockConfig .writable).trace
        (.answering RecordingRunner.succeeding)
        [packetArrival 0 .icmp none, packetArrival 1 .tcp (some 9001),
          packetArrival 2 .udp (some 9002)]).map Handling.observation := by
  apply packet_log_redacted debugConfig otherKnockConfig rfl
  · exact .cons ⟨rfl, rfl⟩ (.cons ⟨rfl, rfl⟩ (.cons ⟨rfl, rfl⟩ .nil))
  · decide +kernel

end Server

end SshKnock
