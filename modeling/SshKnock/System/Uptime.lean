import SshKnock.Server.ClockRange
import SshKnock.System.Availability

/-!
# What takes the daemon down

While its log can be written, a running daemon goes down when it is stopped or
when a packet completes a knock whose allow command fails.  No other packet that
it processes ends it, no failing ban and no failing setup; a poll loop that ends
otherwise, such as at a failing socket, counts as stopped.  Once the host was
set up, a start brings the daemon back whatever took it down.
-/

namespace SshKnock

open Fallible CommandRunner
open SshKnock.Firewall (bareHost)

/-! ## How the handling of a packet ends -/

namespace Server

variable {R : Type} [CommandRunner R] {server : Server}

theorem Writable.ok_openFirewall_iff (hwritable : server.Writable) (runner : R)
    (sourceIp : IpAddr) :
    (server.openFirewall runner sourceIp).1 = .ok ↔
      (perform (server.firewall.addIp sourceIp) runner).1 = .ok () := by
  rw [Server.openFirewall]
  generalize perform (server.firewall.addIp sourceIp) runner = result
  obtain ⟨error | ⟨⟩, after⟩ := result
  · simp only
    split <;> simp
  · simp [hwritable.log, Ending.ofResult]

/-- The daemon goes on, unless the end of a ban is not representable or an
accepted source cannot be let in. -/
theorem Writable.ok_handle_iff (hwritable : server.Writable) (runner : R)
    (arrival : Arrival) :
    (server.handle runner arrival).1 = .ok ↔
      (server.judge arrival).1 ≠ .abort ∧
        ((server.judge arrival).1 = .answer .accepted →
          (perform (server.firewall.addIp arrival.sourceIp) runner).1 =
            .ok ()) := by
  have hjudged := hwritable.judge arrival
  have hfirewall := (server.unjudged_judge arrival).firewall_eq
  rw [handle_eq]
  generalize server.judge arrival = result at hjudged hfirewall ⊢
  obtain ⟨judgement, after⟩ := result
  change after.Writable at hjudged
  change after.firewall = server.firewall at hfirewall
  cases judgement with
  | ignore | abort => simp [enact]
  | ban => simp [enact, hjudged.enforceBan]
  | answer outcome =>
      by_cases haccepted : outcome = .accepted
      · have hsame := after.sameMemory_logPacketTelemetry arrival.sourceIp
          .accepted arrival.now
        rw [haccepted, enact, hjudged.respond_accepted,
          (hsame.writable hjudged).ok_openFirewall_iff, hsame.firewall_eq,
          hfirewall]
        simp
      · simp [enact, hjudged.respond_of_ne _ _ haccepted, haccepted]

end Server

namespace Session

/-- An address is added exactly when nothing befalls the command and the set
takes the address. -/
theorem ok_add_iff (session : Session) {set : String} {sourceIp : IpAddr}
    {timeout : UInt64} (hpos : timeout ≠ 0) :
    (perform (run (Ipset.addCommand set sourceIp timeout)) session).1 =
        .ok () ↔
      (session.schedule.headD (0, none)).2 = none ∧
        session.kernel.Takes set sourceIp := by
  have hcheck : (Ipset.addCommand set sourceIp timeout).checkedRule? = none :=
    rfl
  rw [perform_run, execute]
  generalize session.schedule.headD (0, none) = next
  obtain ⟨duration, fault⟩ := next
  cases fault with
  | none =>
      by_cases htakes : session.kernel.Takes set sourceIp
      · have hlater : (session.kernel.elapse duration).Takes set sourceIp :=
          htakes
        simp [Kernel.answer, Kernel.execute_addCommand hlater hpos, required,
          Host.succeeded, htakes]
      · have hlater : ¬(session.kernel.elapse duration).Takes set sourceIp :=
          htakes
        simp [Kernel.answer, Kernel.execute_addCommand_of_not hlater, required,
          Host.exitedWith, htakes]
  | some fault =>
      cases fault with
      | notStarted error => simp [Kernel.answer, required]
      | exited code diagnostics => simp [Kernel.answer, hcheck, required]

end Session

namespace System

variable {N Stream Tag : Type} [Network N Stream Tag] {config : ValidConfig}
  {system : System}

/-! ## The running daemon -/

/-- The event takes the running daemon down: it is stopped, or it accepts a
knock whose source cannot be let in. -/
def TakesDown (config : ValidConfig) (system : System) : Event N → Prop
  | .stop => True
  | .packet addr protocol port payloadSize schedule =>
      ∃ process, system.daemon = some process ∧
        (process.server.judge
          ⟨system.kernel.now, addr, protocol, port, payloadSize⟩).1 =
            .answer .accepted ∧
        ((schedule.headD (0, none)).2 ≠ none ∨
          addr.ip.family ≠ config.addressFamily)
  | _ => False

/-- A step takes the daemon down as described, and not otherwise. -/
theorem Serviceable.running_step_iff (hserviceable : Serviceable config system)
    (hconsistent : Consistent config system) {process : Process}
    (hprocess : system.daemon = some process)
    (hwritable : process.server.Writable)
    (hrange : system.kernel.now + Duration.fromSecs config.banTimeout ≤
      Instant.max) (event : Event N) :
    (system.step config event).1.daemon ≠ none ↔
      ¬TakesDown config system event := by
  cases event with
  | elapse | setup => simp [System.step, TakesDown, hprocess]
  | start => simp [System.step, TakesDown, hprocess]
  | stop => simp [System.step, TakesDown]
  | packet addr protocol port payloadSize schedule =>
      let arrival : Arrival :=
        ⟨system.kernel.now, addr, protocol, port, payloadSize⟩
      have hconfigured := (hconsistent process hprocess).configured
      have hadds : (perform (process.server.firewall.addIp arrival.sourceIp)
          (system.session schedule)).1 = .ok () ↔
            (schedule.headD (0, none)).2 = none ∧
              addr.ip.family = config.addressFamily := by
        rw [hconfigured.firewall_eq, Firewall.addIp, Firewall.addIpCommand_eq]
        exact ((system.session schedule).ok_add_iff
          config.valid.ipTimeout_ne_zero).trans (and_congr_right fun _ =>
            hserviceable.takes_iff (by simp [hprocess]) addr.ip)
      have hgoes : (process.server.handle (system.session schedule)
          arrival).1 = .ok ↔ ¬TakesDown config system
            (.packet addr protocol port payloadSize schedule : Event N) := by
        rw [hwritable.ok_handle_iff, hadds,
          and_iff_right (hconfigured.judge_ne_abort hrange)]
        simp only [TakesDown, hprocess, Option.some.injEq, exists_eq_left',
          not_and, not_or, not_not]
        rfl
      rw [← hgoes, System.step, hprocess]
      simp only [ne_eq, ite_eq_right_iff, reduceCtorEq, imp_false, not_not]
      rfl

theorem Consistent.now_le_run (hconsistent : Consistent config system)
    (events : List (Event N)) :
    system.kernel.now ≤ (system.run config events).kernel.now := by
  induction events generalizing system with
  | nil => exact le_refl _
  | cons event events ih =>
      exact (hconsistent.now_le event).trans (ih (hconsistent.step event))

/-- The daemon that goes on can still write its log. -/
theorem writable_step {process after : Process}
    (hprocess : system.daemon = some process)
    (hwritable : process.server.Writable) {event : Event N}
    (hafter : (system.step config event).1.daemon = some after) :
    after.server.Writable := by
  cases proceeds hafter with
  | started _ _ _ _ hnone =>
      rw [hnone] at hprocess
      cases hprocess
  | kept _ _ hold =>
      rw [hold] at hprocess
      cases hprocess
      exact hwritable
  | processed _ _ _ _ _ old _ hold hsame =>
      rw [hold] at hprocess
      cases hprocess
      exact hsame.writable (hwritable.judge _)

theorem Serviceable.running_run_iff
    (hserviceable : Serviceable config system)
    (hconsistent : Consistent config system) {process : Process}
    (hprocess : system.daemon = some process)
    (hwritable : process.server.Writable) (later : List (Event N))
    (hrange : (system.run config later).kernel.now +
      Duration.fromSecs config.banTimeout ≤ Instant.max) :
    (∀ reached, reached <+: later →
        (system.run config reached).daemon ≠ none) ↔
      ∀ earlier event rest, later = earlier ++ event :: rest →
        ¬TakesDown config (system.run config earlier) event := by
  induction later generalizing system process with
  | nil =>
      constructor
      · intro _ earlier event rest hsplit
        exact absurd hsplit.symm (List.append_ne_nil_of_right_ne_nil _
          (List.cons_ne_nil _ _))
      · intro _ reached hreached
        rw [List.prefix_nil.mp hreached]
        simp [run, hprocess]
  | cons event later ih =>
      have hnow : system.kernel.now + Duration.fromSecs config.banTimeout ≤
          Instant.max :=
        (Nat.add_le_add_right (hconsistent.now_le_run _) _).trans hrange
      have hstep := hserviceable.running_step_iff hconsistent hprocess
        hwritable hnow event
      by_cases htakes : TakesDown config system event
      · refine iff_of_false (fun hall => ?_)
          fun hall => hall [] event later rfl htakes
        exact hstep.mp (hall [event] (List.prefix_append [event] later)) htakes
      · obtain ⟨after, hafter⟩ :=
          Option.ne_none_iff_exists'.mp (hstep.mpr htakes)
        have hrest := ih (hserviceable.step hconsistent event)
          (hconsistent.step event) hafter
          (writable_step hprocess hwritable hafter) hrange
        constructor
        · intro hall earlier found rest hsplit
          cases earlier with
          | nil =>
              obtain ⟨rfl, -⟩ := List.cons.inj hsplit
              exact htakes
          | cons first earlier =>
              obtain ⟨rfl, hlater⟩ := List.cons.inj hsplit
              refine hrest.mp (fun reached hreached => ?_) earlier found rest
                hlater
              exact hall (event :: reached)
                (List.cons_prefix_cons.mpr ⟨rfl, hreached⟩)
        · intro hall reached hreached
          rcases List.prefix_cons_iff.mp hreached with
            rfl | ⟨later', rfl, hlater'⟩
          · simp [run, hprocess]
          · exact hrest.mpr (fun earlier found rest hsplit =>
              hall (event :: earlier) found rest (by rw [hsplit]; rfl))
              later' hlater'

/-- While the log can be written and the clock is within its range, a running
daemon goes on exactly until it is stopped or an accepted source cannot be let
in: of the packets that it processes, no other ends it, and no failing ban or
setup does. -/
theorem stays_up_iff (config : ValidConfig) (host : Host) (now : ℕ)
    (events later : List (Event N))
    (hdedicated : host.Dedicated config.ipsetName config.addressFamily)
    (hdevices : ∀ device network schedule,
      Event.start device network schedule ∈ events →
        ∀ write, device.failure write = none)
    (hrunning : ((quiet host now).run config events).daemon ≠ none)
    (hrange : ((quiet host now).run config (events ++ later)).kernel.now +
      Duration.fromSecs config.banTimeout ≤ Instant.max) :
    (∀ reached, reached <+: later →
        ((quiet host now).run config (events ++ reached)).daemon ≠ none) ↔
      ∀ earlier event rest, later = earlier ++ event :: rest →
        ¬TakesDown config ((quiet host now).run config (events ++ earlier))
          event := by
  obtain ⟨process, hprocess⟩ := Option.ne_none_iff_exists'.mp hrunning
  rw [run_append] at hrange
  simp only [run_append]
  exact (serviceable_run hdedicated now events).running_run_iff
    ((consistent_quiet config host now).run events) hprocess
    (writable_run hdevices host now process hprocess) later hrange

/-- The last step of a knock, and a setup that fails at once. -/
def lastStepAndSetup : List (Event Queues) :=
  [.packet ⟨KnockTracker.testSource 10, 12345⟩ .tcp (some 7003) 3 [],
    .setup [(0, some (.notStarted "no ipset"))]]

/-- The daemon accepts the knock and survives both. -/
theorem stays_up_at_acceptance :
    ((quiet bareHost 0).run testConfig
      (almostKnocked ++ lastStepAndSetup)).daemon ≠ none := by
  refine (stays_up_iff testConfig bareHost 0 almostKnocked lastStepAndSetup
    ?_ ?_ ?_ ?_).mpr ?_ lastStepAndSetup (List.prefix_refl _)
  · intro declared hget
    cases hget
  · exact writable_almostKnocked
  · decide +kernel
  · decide +kernel
  · rintro (_ | ⟨first, _ | ⟨second, earlier⟩⟩) event rest hsplit
    · obtain ⟨rfl, -⟩ := List.cons.inj hsplit
      rintro ⟨process, -, -, hfault | hfamily⟩
      · exact hfault rfl
      · exact hfamily rfl
    · obtain ⟨-, hsecond⟩ := List.cons.inj hsplit
      obtain ⟨rfl, -⟩ := List.cons.inj hsecond
      exact id
    · simp [lastStepAndSetup] at hsplit

end System

end SshKnock
