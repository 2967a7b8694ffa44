import SshKnock.Server.Memory

/-!
# How long a ban lasts

From the packet that gets a source banned until the ban ends, its packets change
nothing that decides about later packets.  When the ban is over the source is
treated like one that was never banned and has not begun to knock.
-/

namespace SshKnock

namespace Handling

def sourceIp (handling : Handling) : IpAddr :=
  handling.arrival.sourceIp

def now (handling : Handling) : ℕ :=
  handling.arrival.now

/-- The packet is invalid and exceeds the allowance of its source, and the ban
map can take the source. -/
structure Bans (handling : Handling) : Prop where
  unbanned : handling.before.bannedAt handling.sourceIp handling.now = false
  invalid : (handling.before.outcome handling.arrival).isInvalid = true
  denied : (handling.before.sourceLimiter.allow handling.sourceIp
    handling.now).1 = false
  room : (handling.before.expireBannedSources
      handling.now).bannedSources.containsKey handling.sourceIp = true ∨
    (handling.before.expireBannedSources handling.now).bannedSources.len <
      handling.before.config.maxPartialStates

/-- When the ban that the packet causes ends. -/
def banEnd (handling : Handling) : ℕ :=
  handling.now + Duration.fromSecs handling.before.config.banTimeout

/-- The packet is dropped without a trace. -/
structure Dropped (handling : Handling) : Prop where
  ending_eq : handling.ending = .ok
  issued_eq : handling.issued = []
  logger_eq : handling.after.logger = handling.before.logger
  tracker_eq : handling.after.tracker = handling.before.tracker
  sourceLimiter_eq :
    handling.after.sourceLimiter = handling.before.sourceLimiter
  packetTelemetryLimiter_eq : handling.after.packetTelemetryLimiter =
    handling.before.packetTelemetryLimiter

end Handling

namespace Server

/-- The server had it never banned the source nor seen it knock. -/
def forgetting (server : Server) (sourceIp : IpAddr) : Server :=
  { server with
    tracker := server.tracker.forget sourceIp
    bannedSources := server.bannedSources.remove sourceIp }

end Server

/-- The source is not banned and has no partial state, and its packet is
handled as if it never had. -/
structure Handling.Released (handling : Handling) : Prop where
  unbanned : handling.before.bannedAt handling.sourceIp handling.now = false
  idle : handling.before.tracker.slot handling.sourceIp = none
  handled_eq : ∀ runner : RecordingRunner,
    handling.before.handle runner handling.arrival =
      (handling.before.forgetting handling.sourceIp).handle runner
        handling.arrival

namespace Server

variable {config : Config} {sourceIp : IpAddr} {expiresAt now : ℕ}
  {server : Server}

/-- A packet only sees the bans that have not expired. -/
theorem handle_congr {R : Type} [CommandRunner R] {left right : Server}
    {arrival : Arrival} (runner : R)
    (hexpired : left.expireBannedSources arrival.now =
      right.expireBannedSources arrival.now) :
    left.handle runner arrival = right.handle runner arrival := by
  have htracker := congrArg Server.tracker hexpired
  have hlimiter := congrArg Server.sourceLimiter hexpired
  change left.tracker = right.tracker at htracker
  change left.sourceLimiter = right.sourceLimiter at hlimiter
  have hbanned : left.bannedAt arrival.sourceIp arrival.now =
      right.bannedAt arrival.sourceIp arrival.now := by
    rw [bannedAt, hexpired, bannedAt]
  have houtcome : left.outcome arrival = right.outcome arrival := by
    rw [outcome, htracker, outcome]
  have htracked : left.tracked arrival = right.tracked arrival := by
    rw [tracked, hexpired, htracker, tracked]
  have hlimited : left.limited arrival = right.limited arrival := by
    rw [limited, htracked, hlimiter, limited]
  rw [handle_def, handle_def, hbanned, houtcome, hlimiter, hlimited, htracked,
    hexpired]

/-- The source is confined until its ban ends: its entry stands until then, and
it has no partial state. -/
structure Confined (config : Config) (sourceIp : IpAddr) (expiresAt now : ℕ)
    (server : Server) : Prop where
  configured : Configured config server
  entry : server.bannedSources.get sourceIp = some expiresAt ∨
    server.bannedSources.get sourceIp = none ∧ expiresAt ≤ now
  idle : server.tracker.slot sourceIp = none

theorem Configured.expire (hserver : Configured config server) (now : ℕ) :
    Configured config (server.expireBannedSources now) :=
  ⟨hserver.config_eq, hserver.firewall_eq, hserver.tracker_consistent⟩

theorem Confined.expire (hconfined : Confined config sourceIp expiresAt now server)
    {later : ℕ} (hle : now ≤ later) :
    (server.expireBannedSources later).bannedSources.get sourceIp =
        some expiresAt ∧ later < expiresAt ∨
      (server.expireBannedSources later).bannedSources.get sourceIp = none ∧
        expiresAt ≤ later := by
  rw [expireBannedSources, HashMap.get_retain]
  rcases hconfined.entry with hentry | ⟨hentry, hover⟩
  · rw [hentry]
    by_cases hearly : later < expiresAt
    · exact Or.inl ⟨by simp [hearly], hearly⟩
    · exact Or.inr ⟨by simpa using hearly, Nat.not_lt.mp hearly⟩
  · rw [hentry]
    exact Or.inr ⟨Option.filter_none _, hover.trans hle⟩

/-- Until the ban ends the packets of the source are dropped. -/
theorem Confined.dropped (hconfined : Confined config sourceIp expiresAt now server)
    (runner : RecordingRunner) {arrival : Arrival}
    (hown : arrival.sourceIp = sourceIp) (hle : now ≤ arrival.now)
    (hearly : arrival.now < expiresAt) :
    (server.handling runner arrival).Dropped ∧
      Confined config sourceIp expiresAt arrival.now
        (server.handling runner arrival).after := by
  subst hown
  obtain ⟨hentry, -⟩ | ⟨-, hover⟩ := hconfined.expire hle
  · have hbanned : server.bannedAt arrival.sourceIp arrival.now = true := by
      rw [bannedAt, HashMap.containsKey, hentry]
      rfl
    have hhandle : server.handle runner arrival =
        (.ok, server.expireBannedSources arrival.now, runner) := by
      rw [handle_def, if_pos hbanned]
    have hhandling : server.handling runner arrival =
        { arrival, before := server, ending := .ok
          after := server.expireBannedSources arrival.now
          issued := runner.commands.drop runner.commands.length } := by
      rw [Server.handling, hhandle]
    rw [hhandling]
    exact ⟨⟨rfl, List.drop_length, rfl, rfl, rfl, rfl⟩,
      hconfined.configured.expire arrival.now, Or.inl hentry, hconfined.idle⟩
  · exact absurd hearly (Nat.not_lt.mpr hover)

/-- The first packet after the ban finds nothing left of it. -/
theorem Confined.released (hconfined : Confined config sourceIp expiresAt now server)
    (runner : RecordingRunner) {arrival : Arrival}
    (hown : arrival.sourceIp = sourceIp) (hle : now ≤ arrival.now)
    (hover : expiresAt ≤ arrival.now) :
    (server.handling runner arrival).Released := by
  subst hown
  obtain ⟨-, hearly⟩ | ⟨hentry, -⟩ := hconfined.expire hle
  · exact absurd hearly (Nat.not_lt.mpr hover)
  · have hunbanned : server.bannedAt arrival.sourceIp arrival.now = false :=
      bannedAt_eq_false_iff.mpr hentry
    refine ⟨hunbanned, hconfined.idle, fun _ => handle_congr _ ?_⟩
    have htracker : server.tracker.forget arrival.sourceIp = server.tracker := by
      rw [KnockTracker.forget, HashMap.remove_of_get_none _ hconfined.idle]
    have hbanned : (server.bannedSources.remove arrival.sourceIp).retain
        (fun _ expiresAt => decide (arrival.now < expiresAt)) =
          server.bannedSources.retain
            fun _ expiresAt => decide (arrival.now < expiresAt) := by
      apply HashMap.retain_remove
      intro value hvalue
      rw [expireBannedSources, HashMap.get_retain, hvalue,
        Option.filter_eq_none_iff] at hentry
      exact Bool.eq_false_iff.mpr (hentry value rfl)
    show server.expireBannedSources arrival.now =
      (server.forgetting arrival.sourceIp).expireBannedSources arrival.now
    rw [expireBannedSources, expireBannedSources, forgetting, htracker, hbanned]

/-- Packets of other sources leave it confined. -/
theorem Confined.judge_other
    (hconfined : Confined config sourceIp expiresAt now server)
    {arrival : Arrival} (hother : arrival.sourceIp ≠ sourceIp)
    (hle : now ≤ arrival.now) :
    Confined config sourceIp expiresAt arrival.now (server.judge arrival).2 := by
  have hconfigured := hconfined.configured.judge arrival
  have hentry : (server.expireBannedSources arrival.now).bannedSources.get
        sourceIp = some expiresAt ∨
      (server.expireBannedSources arrival.now).bannedSources.get sourceIp =
        none ∧ expiresAt ≤ arrival.now :=
    (hconfined.expire hle).imp_left And.left
  have hidle : (server.tracked arrival).tracker.slot sourceIp = none := by
    have hslot : (server.tracked arrival).tracker.slot sourceIp =
        (server.tracker.expire arrival.now).slot sourceIp :=
      (KnockTracker.answers_process hconfined.configured.tracker_consistent
        arrival.packet arrival.now).slot_other sourceIp (Ne.symm hother)
    rw [hslot, KnockTracker.slot_expire, hconfined.idle]
    rfl
  have hjudged := server.judged arrival
  generalize server.judge arrival = result at hjudged hconfigured ⊢
  cases hjudged with
  | ignored => exact ⟨hconfigured, hentry, hconfined.idle⟩
  | valid | tolerated | aborted => exact ⟨hconfigured, hentry, hidle⟩
  | banned after _ _ _ hremembered =>
      obtain ⟨bannedSources, rfl, hothers⟩ :=
        rememberBannedSource_eq_some hremembered
      have hexpired : Confined config sourceIp expiresAt arrival.now
          (server.limited arrival) :=
        ⟨⟨hconfigured.config_eq, hconfigured.firewall_eq,
          hconfigured.tracker_consistent⟩, hentry, hidle⟩
      have hkept := hexpired.expire le_rfl
      rw [← hothers sourceIp (Ne.symm hother)] at hkept
      exact ⟨hconfigured, hkept.imp_left And.left, hidle⟩

theorem Confined.sameMemory
    (hconfined : Confined config sourceIp expiresAt now server)
    {other : Server} (hsame : SameMemory other server) :
    Confined config sourceIp expiresAt now other where
  configured := hconfined.configured.sameMemory hsame
  entry := hsame.bannedSources_eq ▸ hconfined.entry
  idle := hsame.tracker_eq ▸ hconfined.idle

/-- The expired bans are dropped before the tracker sees the packet. -/
theorem bannedSources_limited (server : Server) (arrival : Arrival) :
    ((server.limited arrival).expireBannedSources arrival.now).bannedSources =
      (server.expireBannedSources arrival.now).bannedSources :=
  HashMap.retain_retain_of_imp server.bannedSources
    (fun _ expiresAt => arrival.now < expiresAt) _ fun _ _ hlive => hlive

/-- The packet that gets a source banned confines it. -/
theorem Configured.confined (hserver : Configured config server)
    {runner : RecordingRunner} {arrival : Arrival}
    (hbans : (server.handling runner arrival).Bans)
    (hcontinues : (server.handle runner arrival).1 ≠ .aborted) :
    Confined config arrival.sourceIp (server.handling runner arrival).banEnd
      arrival.now (server.handling runner arrival).after := by
  have hconfigured := hserver.judge arrival
  have hsame := server.sameMemory_handling runner arrival
  have hidle : (server.tracked arrival).tracker.slot arrival.sourceIp =
      none := by
    have hanswers := KnockTracker.answers_process hserver.tracker_consistent
      arrival.packet arrival.now
    have hinvalid : (server.outcome arrival).isInvalid = true := hbans.invalid
    rw [outcome, hanswers.outcome_eq] at hinvalid
    exact hanswers.slot_eq.trans (KnockRules.advance_of_isInvalid hinvalid)
  have hunbanned : server.bannedAt arrival.sourceIp arrival.now = false :=
    hbans.unbanned
  have hinvalid : (server.outcome arrival).isInvalid = true := hbans.invalid
  have hdenied : (server.sourceLimiter.allow arrival.sourceIp
      arrival.now).1 = false := hbans.denied
  have hroom := hbans.room
  rw [handle_eq] at hcontinues
  have hjudged := server.judged arrival
  refine Confined.sameMemory ?_ hsame
  generalize server.judge arrival = result at hjudged hconfigured hcontinues ⊢
  cases hjudged with
  | ignored hbanned => rw [hunbanned] at hbanned; cases hbanned
  | valid _ hvalid => rw [hinvalid] at hvalid; cases hvalid
  | tolerated _ _ hallowed => rw [hdenied] at hallowed; cases hallowed
  | aborted => exact absurd rfl hcontinues
  | banned after _ _ _ hremembered =>
      have hremembers := remembers hremembered
      cases hremembers with
      | full hfull hunknown =>
          rw [bannedSources_limited] at hfull hunknown
          rcases hroom with hknown | hfits
          · exact absurd (hknown.symm.trans hunknown) Bool.true_eq_false.mp
          · exact absurd hfits (Nat.not_lt.mpr hfull)
      | recorded =>
          exact ⟨hconfigured, Or.inl (HashMap.get_insert_self _ _ _), hidle⟩

/-- Whatever the others send, what the source sends is dropped until its ban
ends, and then nothing is left of it. -/
theorem Confined.handling
    (hconfined : Confined config sourceIp expiresAt now server)
    (runner : RecordingRunner) {arrival : Arrival} (hle : now ≤ arrival.now)
    (hwithin : arrival.sourceIp = sourceIp → arrival.now < expiresAt) :
    (arrival.sourceIp = sourceIp → (server.handling runner arrival).Dropped) ∧
      Confined config sourceIp expiresAt arrival.now
        (server.handling runner arrival).after := by
  by_cases hown : arrival.sourceIp = sourceIp
  · obtain ⟨hdropped, hafter⟩ := hconfined.dropped runner hown hle (hwithin hown)
    exact ⟨fun _ => hdropped, hafter⟩
  · exact ⟨fun hself => absurd hself hown, (hconfined.judge_other hown
      hle).sameMemory (server.sameMemory_handling runner arrival)⟩

/-- The packets of the source are dropped while it is confined, and the first
one after that is handled as if it had never been banned. -/
structure Window (sourceIp : IpAddr) (expiresAt : ℕ)
    (handlings : List Handling) : Prop where
  dropped : ∀ handling ∈ handlings, handling.sourceIp = sourceIp →
    handling.now < expiresAt → handling.Dropped
  released : ∀ between first after, handlings = between ++ first :: after →
    (∀ handling ∈ between, handling.sourceIp = sourceIp →
      handling.now < expiresAt) →
    first.sourceIp = sourceIp → expiresAt ≤ first.now → first.Released

theorem Window.nil : Window sourceIp expiresAt [] where
  dropped := by simp
  released between first after hsplit := by simp at hsplit

/-- A packet that keeps the source confined extends a window at its front. -/
theorem Window.cons {first : Handling} {handlings : List Handling}
    (hwithin : first.sourceIp = sourceIp → first.now < expiresAt)
    (hdropped : first.sourceIp = sourceIp → first.Dropped)
    (hrest : Window sourceIp expiresAt handlings) :
    Window sourceIp expiresAt (first :: handlings) where
  dropped := List.forall_mem_cons.mpr ⟨fun hown _ => hdropped hown,
    hrest.dropped⟩
  released between release after hsplit hbetween hown hover := by
    cases between with
    | nil =>
        obtain ⟨rfl, -⟩ := List.cons.inj hsplit
        exact absurd (hwithin hown) (Nat.not_lt.mpr hover)
    | cons handling between =>
        obtain ⟨-, hsplit⟩ := List.cons.inj hsplit
        exact hrest.released between release after hsplit
          (List.forall_mem_cons.mp hbetween).2 hown hover

/-- The first packet after the ban closes the window. -/
theorem Window.last {first : Handling} {handlings : List Handling}
    (hover : ∀ handling ∈ first :: handlings, expiresAt ≤ handling.now)
    (hown : first.sourceIp = sourceIp) (hreleased : first.Released) :
    Window sourceIp expiresAt (first :: handlings) where
  dropped handling hmem _ hearly :=
    absurd hearly (Nat.not_lt.mpr (hover handling hmem))
  released between release after hsplit hbetween _ _ := by
    cases between with
    | nil =>
        obtain ⟨rfl, -⟩ := List.cons.inj hsplit
        exact hreleased
    | cons handling between =>
        obtain ⟨rfl, -⟩ := List.cons.inj hsplit
        have hearly := hbetween first List.mem_cons_self hown
        exact absurd hearly (Nat.not_lt.mpr (hover first List.mem_cons_self))

/-- In every run from a confined server the packets of the source fall into
the window of its ban. -/
theorem Confined.trace
    (hconfined : Confined config sourceIp expiresAt now server)
    (runner : RecordingRunner) {arrivals : List Arrival}
    (hstart : ∀ arrival ∈ arrivals, now ≤ arrival.now)
    (hchronological : arrivals.Pairwise fun earlier later =>
      earlier.now ≤ later.now) :
    Window sourceIp expiresAt (server.trace runner arrivals) := by
  induction arrivals generalizing server now runner with
  | nil => exact .nil
  | cons arrival arrivals ih =>
      obtain ⟨hlater, hrest⟩ := List.pairwise_cons.mp hchronological
      have hle := hstart arrival List.mem_cons_self
      by_cases hover : arrival.sourceIp = sourceIp ∧ expiresAt ≤ arrival.now
      · have hreleased := hconfined.released runner hover.1 hle hover.2
        have htimes : ∀ handling ∈ server.trace runner (arrival :: arrivals),
            expiresAt ≤ handling.now := fun handling hmem =>
          hover.2.trans (now_le_of_mem_trace hlater hmem)
        rw [trace_cons] at htimes ⊢
        exact Window.last htimes hover.1 hreleased
      · have hwithin : arrival.sourceIp = sourceIp →
            arrival.now < expiresAt :=
          fun hown => Nat.not_le.mp fun hle => hover ⟨hown, hle⟩
        obtain ⟨hdropped, hafter⟩ := hconfined.handling runner hle hwithin
        rw [trace_cons]
        have hfirst : (server.handling runner arrival).sourceIp = sourceIp →
            (server.handling runner arrival).now < expiresAt := hwithin
        apply Window.cons hfirst hdropped
        split
        · exact .nil
        · exact ih hafter _ hlater hrest

/-! ## Every run -/

/-- Every ban of a run opens a window. -/
theorem Configured.windows (hserver : Configured config server)
    (runner : RecordingRunner) {arrivals : List Arrival}
    (hchronological : arrivals.Pairwise fun earlier later =>
      earlier.now ≤ later.now)
    (earlier : List Handling) (ban : Handling) (later : List Handling)
    (hsplit : server.trace runner arrivals = earlier ++ ban :: later)
    (hbans : ban.Bans) : Window ban.sourceIp ban.banEnd later := by
  obtain ⟨resumed, runner, rest, hresumed, hsuffix, htrace⟩ :=
    resume_trace (fun _ runner arrival hbefore =>
      hbefore.handling runner arrival) hserver hsplit
  have hrest := hchronological.sublist hsuffix.sublist
  cases rest with
  | nil => cases htrace
  | cons arrival arrivals =>
      rw [trace_cons] at htrace
      obtain ⟨rfl, rfl⟩ := List.cons.inj htrace
      obtain ⟨hlater, hrest⟩ := List.pairwise_cons.mp hrest
      split
      · exact .nil
      · next hcontinues =>
          have hconfined := hresumed.confined hbans hcontinues
          exact hconfined.trace _ hlater hrest

/-- A ban holds exactly until it ends, whatever the other sources send, and
the ban map never exceeds its cap. -/
theorem ban_window (config : ValidConfig) (device : LogDevice)
    (answer : List CommandSpec → CommandSpec → Except Error CommandStatus)
    (arrivals : List Arrival)
    (hchronological : arrivals.Pairwise fun earlier later =>
      earlier.now ≤ later.now) :
    (∀ handling ∈ (started config device).trace (.answering answer) arrivals,
        handling.after.bannedSources.len ≤ config.maxPartialStates) ∧
      ∀ earlier ban later,
        (started config device).trace (.answering answer) arrivals =
            earlier ++ ban :: later →
          ban.Bans → Window ban.sourceIp ban.banEnd later :=
  ⟨forall_trace (fun _ runner arrival hcapped =>
      ⟨(hcapped.handling runner arrival).banned_le,
        hcapped.handling runner arrival⟩) (capped_started config device) _ _,
    (configured_started config device).windows _ hchronological⟩

/-- Two oversized packets, and a first step before, at and after the end of
the ban. -/
def bannedArrivals : List Arrival :=
  [{ firstStepArrival 0 10 with payloadSize := 513 },
    { firstStepArrival 1 10 with payloadSize := 513 },
    firstStepArrival 2000000000 10, firstStepArrival 2000000001 10]

/-- The second packet gets the source banned, the third is dropped and the
fourth is handled as if nothing had happened. -/
theorem ban_window_two_seconds :
    ∃ first ban dropped released,
      (started testConfig .writable).trace
          (.answering RecordingRunner.succeeding) bannedArrivals =
        [first, ban, dropped, released] ∧
      ban.Bans ∧ dropped.Dropped ∧ released.Released := by
  obtain ⟨-, hwindows⟩ := ban_window testConfig .writable
    RecordingRunner.succeeding bannedArrivals (by decide)
  have hlength : ((started testConfig .writable).trace
      (.answering RecordingRunner.succeeding) bannedArrivals).length = 4 := by
    decide +kernel
  have htimes : ((started testConfig .writable).trace
      (.answering RecordingRunner.succeeding) bannedArrivals).map
        (fun handling => (handling.sourceIp, handling.now, handling.banEnd)) =
      [(KnockTracker.testSource 10, 0, 2000000000),
        (KnockTracker.testSource 10, 1, 2000000001),
        (KnockTracker.testSource 10, 2000000000, 4000000000),
        (KnockTracker.testSource 10, 2000000001, 4000000001)] := by
    decide +kernel
  have hfacts : ((started testConfig .writable).trace
      (.answering RecordingRunner.succeeding) bannedArrivals)[1]?.map
        (fun ban => (ban.before.bannedAt ban.sourceIp ban.now,
          (ban.before.outcome ban.arrival).isInvalid,
          (ban.before.sourceLimiter.allow ban.sourceIp ban.now).1,
          decide ((ban.before.expireBannedSources ban.now).bannedSources.len <
            ban.before.config.maxPartialStates))) =
      some (false, true, false, true) := by
    decide +kernel
  obtain ⟨first, ban, dropped, released, htrace⟩ :=
    List.length_eq_four.mp hlength
  rw [htrace] at htimes hfacts
  simp only [List.map_cons, List.map_nil, List.cons.injEq, Prod.mk.injEq,
    and_true] at htimes
  obtain ⟨-, ⟨hban, -, hend⟩, ⟨hdropped, hearly, -⟩, hreleased, hlate, -⟩ :=
    htimes
  simp only [List.getElem?_cons_succ, List.getElem?_cons_zero, Option.map_some,
    Option.some.injEq, Prod.mk.injEq, decide_eq_true_eq] at hfacts
  obtain ⟨hunbanned, hinvalid, hdenied, hroom⟩ := hfacts
  have hbans : ban.Bans := ⟨hunbanned, hinvalid, hdenied, Or.inr hroom⟩
  have hwindow := hwindows [first] ban [dropped, released] htrace hbans
  rw [hban, hend] at hwindow
  refine ⟨first, ban, dropped, released, htrace, hbans, ?_, ?_⟩
  · apply hwindow.dropped dropped List.mem_cons_self hdropped
    rw [hearly]
    decide
  · apply hwindow.released [dropped] released [] rfl
    · intro handling hmem _
      rw [List.mem_singleton.mp hmem, hearly]
      decide
    · exact hreleased
    · exact le_of_eq hlate.symm

end Server

end SshKnock
