import SshKnock.Server.ConnectionStage
import SshKnock.Server.HandledOnce

/-!
# Payloads that arrive in segments

A payload sent over a connection arrives in segments, and a poll of the daemon
may come between two of them.  The first poll that finds anything decides: what
has arrived by then is taken for the payload, and what follows is lost.
-/

namespace SshKnock

open Fallible SwapRemove

namespace Daemon

variable {traffic : Traffic} {R : Type} [CommandRunner R] {config : Config}
  {transmission : Transmission} {connection : ℕ} {settled : Prop}
  {own : List (PendingTcp ℕ)} {before after : Daemon (Wire traffic) R (Option ℕ)}
  {now : ℕ} {pending passed rest : List (PendingTcp ℕ)}

/-! ## Steps that do not concern the connection -/

theorem quiet_processPacket (addr : SocketAddr) (protocol : Protocol)
    (port : Option UInt16) (payloadSize : ℕ) {tag : Option ℕ}
    (htag : tag ≠ some connection)
    (daemon : Daemon (Wire traffic) R (Option ℕ)) :
    Quiet connection daemon (perform
      (processPacket addr protocol port payloadSize tag) daemon).2 := by
  refine ⟨Nat.le_succ _, rfl, ?_⟩
  rw [perform_processPacket, handedFor, List.filter_append,
    List.filter_cons_of_neg (by simpa using htag), List.filter_nil,
    List.append_nil]
  rfl

/-- Until a packet of another source is processed, nothing happens either. -/
def Elsewhere (config : Config) (transmission : Transmission)
    (connection : ℕ) (settled : Prop) (own : List (PendingTcp ℕ))
    (tag : Option ℕ) (daemon : Daemon (Wire traffic) R (Option ℕ)) : Prop :=
  Known config transmission connection settled own daemon ∧
    tag ≠ some connection

theorem steps_known : Steps
    (Known config transmission connection settled own :
      Daemon (Wire traffic) R (Option ℕ) → Prop)
    (fun _ tag => Elsewhere config transmission connection settled own tag) where
  bind _ := keeps_of_quiet fun daemon =>
    daemon.quiet_step daemon.network.reading
  logEvent _ _ := keeps_of_quiet fun _ => ⟨le_rfl, rfl, rfl⟩
  preflight := keeps_of_quiet fun _ => ⟨le_rfl, rfl, rfl⟩
  recvUdp port length := by
    intro daemon hknown
    have hafter := hknown.quiet (daemon.quiet_step daemon.network.reading)
    have hperform : perform (onNetwork (Network.recvUdp port length)) daemon =
        (.ok ((traffic.datagram daemon.network.tick).map fun received =>
            ⟨received.1, received.2, none⟩),
          { daemon with network := daemon.network.step }) := rfl
    rw [hperform]
    cases traffic.datagram daemon.network.tick with
    | error error => exact hafter
    | ok received => exact ⟨hafter, by simp⟩
  recvIcmp length := by
    intro daemon hknown
    have hafter := hknown.quiet (daemon.quiet_step daemon.network.reading)
    have hperform : perform (onNetwork (Network.recvIcmp length)) daemon =
        (.ok ((traffic.echo daemon.network.tick).map fun received =>
            ⟨received.1, received.2, none⟩),
          { daemon with network := daemon.network.step }) := rfl
    rw [hperform]
    cases traffic.echo daemon.network.tick with
    | error error => exact hafter
    | ok received => exact ⟨fun _ => hafter, fun _ _ => ⟨hafter, by simp⟩⟩
  processPacket addr protocol port payloadSize tag := by
    apply Triple.of_perform
    rintro daemon ⟨hknown, htag⟩
    exact hknown.quiet
      (quiet_processPacket addr protocol port payloadSize htag daemon)

/-! ## Runs -/

theorem processed_own {size : ℕ} (addr : SocketAddr) (port : Option UInt16)
    (hfound : Found config transmission connection size before)
    (hseen : connection < before.network.tick)
    (hended : settled → transmission.endedBy before.network.tick = true)
    (hnow : now ≤ traffic.time before.network.tick)
    (hnone : entriesOf connection (passed ++ rest) = []) :
    Polling config transmission connection settled now passed rest
      (perform (Daemon.processPacket addr .tcp port size (some connection))
        before).2 := by
  obtain ⟨earlier, tick, hpolls, hearlier, hfruitful, hsize⟩ := hfound.polled
  have hlater : before.network.tick ≤ before.network.tick + 1 := Nat.le_succ _
  obtain ⟨handed, hhanded, hcontent, htag⟩ :=
    handed_processPacket addr .tcp port size (some connection) before
  have hhandedFor : handedFor connection (perform (Daemon.processPacket addr
      .tcp port size (some connection)) before).2 = [handed] := by
    have hnothing := hfound.nothing
    rw [handedFor] at hnothing
    rw [handedFor, hhanded, List.filter_append, hnothing,
      List.filter_cons_of_pos (by simpa using htag)]
    rfl
  have hpayload : handed.arrival.payloadSize = size :=
    congrArg (fun content => content.2.2.2) hcontent
  refine ⟨⟨?_, fun hsettled => Transmission.endedBy_mono hlater
    (hended hsettled)⟩, hnow.trans (traffic.monotone_time hlater), fun _ => ?_⟩
  · rw [hnone]
    exact .answered (hseen.trans_le hlater) ⟨handed, earlier, tick, hhandedFor,
      hpolls, hearlier, hfruitful, hpayload.trans hsize⟩
  · rw [entriesOf_append] at hnone
    exact (List.append_eq_nil_iff.mp hnone).1

/-- What was read is processed. -/
theorem InHand.processPacket {size : ℕ} {tag : Option ℕ} (addr : SocketAddr)
    (port : Option UInt16) :
    Triple
      (InHand config transmission connection settled now passed rest size tag)
      (Daemon.processPacket addr .tcp port size tag :
        DaemonM (Wire traffic) R (Option ℕ) Unit)
      (fun _ =>
        Polling config transmission connection settled now passed rest)
      (Decided config transmission connection) := by
  apply Triple.imp_failed
  · apply Triple.of_perform
    intro daemon hinHand
    cases hinHand with
    | other htag hpolling =>
        exact hpolling.quiet
          (quiet_processPacket addr .tcp port size htag daemon)
    | own htag hfound hseen hended hnow hnone =>
        subst htag
        exact processed_own addr port hfound hseen hended hnow hnone
  · exact fun _ hpolling => hpolling.known.stage.decided

/-- Reading every pending connection once. -/
theorem Polling.pollPending
    (hclient : traffic.client connection = .sends transmission)
    (passed rest : List (PendingTcp ℕ)) :
    Triple (Polling config transmission connection settled now passed rest)
      (Daemon.pollPending config now (passed ++ rest) passed.length :
        DaemonM (Wire traffic) R (Option ℕ) (List (PendingTcp ℕ)))
      (fun pending =>
        Polling config transmission connection settled now pending [])
      (Decided config transmission connection) := by
  induction hlength : rest.length generalizing passed rest with
  | zero =>
      obtain rfl := List.length_eq_zero_iff.mp hlength
      rw [List.append_nil, pollPending_nil]
      exact Triple.pure fun _ hpolling => hpolling
  | succ length ih =>
      obtain ⟨entry, rest, rfl⟩ := List.exists_cons_of_length_eq_add_one hlength
      have hremoved := ih passed (promote rest)
        ((length_promote rest).trans (Nat.succ_injective hlength))
      have hkept := ih (passed ++ [entry]) rest (Nat.succ_injective hlength)
      rw [pollPending_cons]
      apply Triple.bind (Polling.read hclient)
      intro received
      cases received with
      | ok received =>
          have hclosed : Triple
              (InHand config transmission connection settled now passed
                (promote rest) received.1 received.2)
              (close entry : DaemonM (Wire traffic) R (Option ℕ) Unit)
              (fun _ => InHand config transmission connection settled now passed
                (promote rest) received.1 received.2)
              (Decided config transmission connection) :=
            fun daemon hinHand =>
              hinHand.quiet (daemon.quiet_step daemon.network.reading)
          exact Triple.bind hclosed fun _ =>
            Triple.bind (InHand.processPacket _ _) fun _ => hremoved
      | error error =>
          cases hkind : error.kind with
          | wouldBlock | timedOut =>
              simp only [handleRead, readTcpKnock, hkind]
              split
              · next hlate =>
                  have hclosed : Triple
                      (Blocked config transmission connection settled now
                        passed entry rest)
                      (close entry : DaemonM (Wire traffic) R (Option ℕ) Unit)
                      (fun _ => Polling config transmission connection settled
                        now passed (promote rest))
                      (Decided config transmission connection) :=
                    fun daemon hblocked => (hblocked.dropped hlate).quiet
                      (daemon.quiet_step daemon.network.reading)
                  exact Triple.bind hclosed fun _ => hremoved
              · next hearly =>
                  exact hkept.of_imp fun _ hblocked =>
                    hblocked.kept (Nat.not_le.mp hearly)
          | other name =>
              simp only [handleRead, readTcpKnock, hkind]
              exact Triple.throw fun _ hblocked => hblocked.decided

/-- What is known of the connection between two passes. -/
structure Between (config : Config) (transmission : Transmission)
    (connection : ℕ) (settled : Prop) (pending : List (PendingTcp ℕ))
    (daemon : Daemon (Wire traffic) R (Option ℕ)) : Prop where
  known : Known config transmission connection settled
    (entriesOf connection pending) daemon
  none_pending : settled → entriesOf connection pending = []

/-- A pass after the client has closed the connection leaves no entry of it. -/
theorem Known.pass (hclient : traffic.client connection = .sends transmission)
    (sockets : Sockets) (pending : List (PendingTcp ℕ)) :
    Triple
      (Known config transmission connection settled
        (entriesOf connection pending))
      (Daemon.pass config sockets pending :
        DaemonM (Wire traffic) R (Option ℕ) (List (PendingTcp ℕ)))
      (Between config transmission connection settled)
      (Decided config transmission connection) := by
  have hkeeps : ∀ {own : List (PendingTcp ℕ)}
      {command : DaemonM (Wire traffic) R (Option ℕ) Unit},
      Keeps (Known config transmission connection settled own) command →
      Triple (Known config transmission connection settled own) command
        (fun _ => Known config transmission connection settled own)
        (Decided config transmission connection) :=
    fun hcommand => Triple.imp_failed hcommand
      fun _ hknown => hknown.stage.decided
  have hnow : Triple
      (Known config transmission connection settled
        (entriesOf connection pending))
      (onNetwork Streams.now : DaemonM (Wire traffic) R (Option ℕ) ℕ)
      (fun now =>
        Accepting config transmission connection settled now pending)
      (Decided config transmission connection) := fun daemon hknown =>
    ⟨hknown.quiet (daemon.quiet_step _), rfl,
      traffic.monotone_time (Nat.le_succ _)⟩
  apply Triple.bind (hkeeps (Keeps.forM (steps_known.pollUdp config)))
  intro _
  apply Triple.bind hnow
  intro now
  apply Triple.bind (Triple.foldlM pending fun pending port =>
    Accepting.acceptAll port pending)
  intro pending
  apply Triple.bind (Triple.of_imp (Polling.pollPending hclient [] pending)
    fun _ haccepting => ⟨haccepting.known, haccepting.now_le, fun _ => rfl⟩)
  intro pending
  have hstart : ∀ daemon : Daemon (Wire traffic) R (Option ℕ),
      Polling config transmission connection settled now pending [] daemon →
        Known config transmission connection settled
            (entriesOf connection pending) daemon ∧
          (settled → entriesOf connection pending = []) := by
    intro daemon hpolling
    have hknown := hpolling.known
    rw [List.append_nil] at hknown
    exact ⟨hknown, hpolling.passed_nil⟩
  refine Triple.of_imp (Triple.assuming fun hnone => ?_) hstart
  have hreturn : Triple
      (Known config transmission connection settled
        (entriesOf connection pending))
      (pure pending : DaemonM (Wire traffic) R (Option ℕ) (List (PendingTcp ℕ)))
      (Between config transmission connection settled)
      (Decided config transmission connection) :=
    Triple.pure fun _ hknown => ⟨hknown, hnone⟩
  split
  · exact Triple.bind (hkeeps (steps_known.pollIcmp config)) fun _ => hreturn
  · exact hreturn

/-- Between passes nothing needs to be settled. -/
theorem Known.passes (hclient : traffic.client connection = .sends transmission)
    (sockets : Sockets) (count : ℕ) (pending : List (PendingTcp ℕ)) :
    Triple
      (Known config transmission connection False
        (entriesOf connection pending))
      (Daemon.passes config sockets count pending :
        DaemonM (Wire traffic) R (Option ℕ) (List (PendingTcp ℕ)))
      (fun pending => Known config transmission connection False
        (entriesOf connection pending))
      (Decided config transmission connection) := by
  induction count generalizing pending with
  | zero => exact Triple.pure fun _ hknown => hknown
  | succ count ih =>
      exact Triple.bind (Known.pass hclient sockets pending) fun pending =>
        Triple.of_imp (ih pending) fun _ hbetween => hbetween.known

theorem Known.run (hclient : traffic.client connection = .sends transmission)
    (count : ℕ) :
    Triple (Known config transmission connection False [])
      (Daemon.run config count :
        DaemonM (Wire traffic) R (Option ℕ) (List (PendingTcp ℕ)))
      (fun pending => Known config transmission connection False
        (entriesOf connection pending))
      (Decided config transmission connection) := by
  apply Triple.bind (Triple.imp_failed (steps_known.startsUp.startUp config)
    fun _ hknown => hknown.stage.decided)
  exact fun sockets => Known.passes hclient sockets count []

/-- One more pass. -/
theorem passes_concat (sockets : Sockets) (count : ℕ)
    (pending : List (PendingTcp ℕ)) :
    (passes config sockets (count + 1) pending :
        DaemonM (Wire traffic) R (Option ℕ) (List (PendingTcp ℕ))) =
      passes config sockets count pending >>= pass config sockets := by
  induction count generalizing pending with
  | zero =>
      rw [passes, passes, pure_bind]
      exact bind_pure _
  | succ count ih =>
      rw [passes, passes, bind_assoc]
      exact bind_congr ih

theorem run_succ {count : ℕ} {start : Daemon (Wire traffic) R (Option ℕ)}
    (hrun : perform (run config count) start = (.ok pending, before)) :
    ∃ sockets, perform (run config (count + 1)) start =
      perform (pass config sockets pending) before := by
  rw [run, perform_bind] at hrun
  generalize hstarted : perform (startUp config) start = result at hrun
  obtain ⟨_ | sockets, started⟩ := result
  · cases hrun
  · refine ⟨sockets, ?_⟩
    rw [run, perform_bind_ok hstarted, passes_concat]
    exact perform_bind_ok hrun

/-- What a pass does with a connection that the client closed in time. -/
theorem Known.answered
    (hclient : traffic.client connection = .sends transmission)
    {sockets : Sockets} {later : List (PendingTcp ℕ)} {closed reading : ℕ}
    (hknown : Known config transmission connection False
      (entriesOf connection pending) before)
    (hpass : perform (Daemon.pass config sockets pending) before =
      (.ok later, after))
    (hclosed : transmission.closed = some closed)
    (hbefore : closed ≤ before.network.tick)
    (haccepted : (after.network.lines connection).accepted = some reading)
    (hearly : traffic.time closed <
      reading + Duration.fromSecs config.partialStateTimeout) :
    Answered config transmission connection after := by
  have hsettled : Known config transmission connection True
      (entriesOf connection pending) before :=
    ⟨hknown.stage, fun _ => Transmission.endedBy_iff.mpr
      ⟨closed, hclosed, hbefore⟩⟩
  have hended := Known.pass hclient sockets pending before hsettled
  rw [hpass] at hended
  have hstage := hended.known.stage
  rw [hended.none_pending trivial] at hstage
  cases hstage with
  | answered _ hanswered => exact hanswered
  | unseen hnone => rw [hnone] at haccepted; cases haccepted
  | expired _ hreading hfruitless hlate =>
      rw [hreading, Option.some.injEq] at haccepted
      subst haccepted
      have hopen : ¬closed ≤ _ := fun hle => absurd
        (Transmission.endedBy_iff.mpr ⟨closed, hclosed, hle⟩)
        (hfruitless.2 ▸ Bool.false_ne_true)
      have hmono := traffic.monotone_time (Nat.le_of_not_le hopen)
      omega

/-- In every run the packet handed over for a connection has the size of the
payload, as far as the daemon can take it, exactly when no poll comes in the
midst of the payload; and a connection that the client closes in time is handed
over by the end of the next pass. -/
theorem payload_size_iff (config : Config) (traffic : Traffic)
    (start : Daemon (Wire traffic) R (Option ℕ)) (hidle : start.Idle)
    (connection : ℕ) (transmission : Transmission)
    (hclient : traffic.client connection = .sends transmission) (count : ℕ) :
    (∀ handed ∈ (perform (run config count) start).2.handed,
      handed.tag = some connection →
        (perform (run config count) start).2.handedFor connection = [handed] ∧
        (handed.arrival.payloadSize =
            min transmission.total (bufferLen config) ↔
          PolledWhole config transmission ((perform (run config count)
            start).2.network.lines connection).polls)) ∧
    ∀ pending before later after closed reading,
      perform (run config count) start = (.ok pending, before) →
      perform (run config (count + 1)) start = (.ok later, after) →
      transmission.closed = some closed → closed ≤ before.network.tick →
      (after.network.lines connection).accepted = some reading →
      traffic.time closed <
        reading + Duration.fromSecs config.partialStateTimeout →
      ∃ handed, after.handedFor connection = [handed] ∧
        (handed.arrival.payloadSize =
            min transmission.total (bufferLen config) ↔
          PolledWhole config transmission
            (after.network.lines connection).polls) := by
  have htriple : Triple (Known config transmission connection False [])
      (run config count :
        DaemonM (Wire traffic) R (Option ℕ) (List (PendingTcp ℕ)))
      (fun pending => Known config transmission connection False
        (entriesOf connection pending))
      (Decided config transmission connection) := Known.run hclient count
  have hrun := htriple start hidle.known
  constructor
  · intro handed hmem htag
    refine Decided.size_iff ?_ hmem htag
    generalize perform (run config count) start = result at hrun
    obtain ⟨_ | pending, after⟩ := result
    · exact hrun
    · exact hrun.stage.decided
  · intro pending before later after closed reading hbefore hafter hclosed hle
      haccepted hearly
    rw [hbefore] at hrun
    obtain ⟨sockets, hpass⟩ := run_succ hbefore
    rw [hpass] at hafter
    exact (Known.answered hclient hrun hafter hclosed hle haccepted
      hearly).size_iff

/-! ## Two segments -/

/-- Two bytes that arrive one by one. -/
def twoSegments (second : Fin 12) : Transmission where
  segments := [⟨5, 1⟩, ⟨second, 1⟩]
  closed := some 11
  sent_before := by
    rintro _ ⟨⟩ segment hsegment
    simp only [List.mem_cons, List.not_mem_nil, or_false] at hsegment
    rcases hsegment with rfl | rfl
    · decide
    · exact Nat.le_of_lt_succ second.isLt

/-- A single client connects when the daemon first accepts. -/
def singleClient (transmission : Transmission) : Traffic where
  time _ := 0
  monotone_time := monotone_const
  bind _ := .ok ()
  datagram _ := .error ⟨.wouldBlock, ""⟩
  accept tick :=
    if tick = 5 then .ok ⟨KnockTracker.testSource 10, 12345⟩
    else .error ⟨.wouldBlock, ""⟩
  configures _ := true
  client _ := .sends transmission
  echo _ := .error ⟨.wouldBlock, ""⟩

/-- The daemon before its start. -/
def beforeStart (traffic : Traffic) :
    Daemon (Wire traffic) WillingRunner (Option ℕ) :=
  { server := idleDaemon.server, network := .fresh traffic
    runner := idleDaemon.runner, handed := [] }

/-- What a run has to do with a connection: whether it goes on, the calls to
the network so far, the clock at the acceptance, the polls and the sizes handed
over. -/
def account (connection : ℕ)
    (result : Except Ending (List (PendingTcp ℕ)) ×
      Daemon (Wire traffic) R (Option ℕ)) :
    Bool × ℕ × Option ℕ × List ℕ × List ℕ :=
  (result.1.toOption.isSome, result.2.network.tick,
    (result.2.network.lines connection).accepted,
    (result.2.network.lines connection).polls,
    (result.2.handedFor connection).map fun handed =>
      handed.arrival.payloadSize)

omit [CommandRunner R] in
theorem exists_of_account
    {result : Except Ending (List (PendingTcp ℕ)) ×
      Daemon (Wire traffic) R (Option ℕ)}
    {ticks : ℕ} {accepted : Option ℕ} {polls sizes : List ℕ}
    (haccount : account connection result =
      (true, ticks, accepted, polls, sizes)) :
    ∃ pending after, result = (.ok pending, after) ∧
      after.network.tick = ticks ∧
      (after.network.lines connection).accepted = accepted ∧
      (after.network.lines connection).polls = polls ∧
      (after.handedFor connection).map (fun handed =>
        handed.arrival.payloadSize) = sizes := by
  obtain ⟨_ | pending, after⟩ := result
  · cases haccount
  · simp only [account, Prod.mk.injEq] at haccount
    exact ⟨pending, after, rfl, haccount.2⟩

/-- A poll between the two bytes hands the first one over, which is the first
step of the knock; the payload is no step of it. -/
theorem split_payload_mistaken :
    ∃ pending before later after handed,
      perform (run testConfig.toConfig 1)
          (beforeStart (singleClient (twoSegments 10))) =
        (.ok pending, before) ∧
      perform (run testConfig.toConfig 2)
          (beforeStart (singleClient (twoSegments 10))) =
        (.ok later, after) ∧
      11 ≤ before.network.tick ∧
      (after.network.lines 5).accepted = some 0 ∧
      (singleClient (twoSegments 10)).time 11 <
        0 + Duration.fromSecs testConfig.partialStateTimeout ∧
      after.handedFor 5 = [handed] ∧ handed.arrival.payloadSize = 1 ∧
      min (twoSegments 10).total (bufferLen testConfig.toConfig) = 2 := by
  have hfirst : account 5 (perform (run testConfig.toConfig 1)
      (beforeStart (singleClient (twoSegments 10)))) =
        (true, 12, some 0, [9], [1]) := by
    decide +kernel
  have hsecond : account 5 (perform (run testConfig.toConfig 2)
      (beforeStart (singleClient (twoSegments 10)))) =
        (true, 16, some 0, [9], [1]) := by
    decide +kernel
  obtain ⟨pending, before, hbefore, htick, -⟩ := exists_of_account hfirst
  have hclosed : 11 ≤ before.network.tick := by omega
  obtain ⟨later, after, hafter, -, haccepted, -, hsizes⟩ :=
    exists_of_account hsecond
  obtain ⟨handed, hhanded, hsize⟩ := List.map_eq_singleton_iff.mp hsizes
  exact ⟨pending, before, later, after, handed, hbefore, hafter,
    hclosed, haccepted, by decide, hhanded, hsize, by decide⟩

theorem payload_size_iff_together :
    ∃ later after handed,
      perform (run testConfig.toConfig 2)
          (beforeStart (singleClient (twoSegments 9))) = (.ok later, after) ∧
      after.handedFor 5 = [handed] ∧
      handed.arrival.payloadSize =
        min (twoSegments 9).total (bufferLen testConfig.toConfig) := by
  have hfirst : account 5 (perform (run testConfig.toConfig 1)
      (beforeStart (singleClient (twoSegments 9)))) =
        (true, 12, some 0, [9], [2]) := by
    decide +kernel
  have hsecond : account 5 (perform (run testConfig.toConfig 2)
      (beforeStart (singleClient (twoSegments 9)))) =
        (true, 16, some 0, [9], [2]) := by
    decide +kernel
  obtain ⟨pending, before, hbefore, htick, -⟩ := exists_of_account hfirst
  have hclosed : 11 ≤ before.network.tick := by omega
  obtain ⟨later, after, hafter, -, haccepted, hpolls, -⟩ :=
    exists_of_account hsecond
  obtain ⟨handed, hhanded, hsize⟩ := (payload_size_iff testConfig.toConfig
    (singleClient (twoSegments 9)) (beforeStart _) ⟨rfl, rfl⟩ 5 (twoSegments 9)
    rfl 1).2 pending before later after 11 0 hbefore hafter rfl
    hclosed haccepted (by decide)
  refine ⟨later, after, handed, hafter, hhanded, hsize.mpr ?_⟩
  rw [hpolls]
  intro tick htick
  rw [List.mem_singleton.mp htick]
  decide

end Daemon

end SshKnock
