import SshKnock.Server.Serving

/-!
# What a pass costs

However much traffic arrives, a pass makes a bounded number of calls to the
network and processes a bounded number of packets, so no flood on one listener
keeps the daemon from coming back to the others.
-/

namespace SshKnock

open Fallible SwapRemove

/-- A network that counts the calls made to it. -/
structure Counted (N : Type) where
  network : N
  calls : ℕ

namespace Counted

variable {N α : Type}

/-- Do the same and count it. -/
def lift (poll : N → α × N) (counted : Counted N) : α × Counted N :=
  let (result, network) := poll counted.network
  (result, ⟨network, counted.calls + 1⟩)

instance {Stream Tag : Type} [Network N Stream Tag] :
    Network (Counted N) Stream Tag where
  now := lift Streams.now
  read stream length := lift (Streams.read stream length)
  close stream counted :=
    ⟨Streams.close stream counted.network, counted.calls + 1⟩
  bind listener := lift (Network.bind listener)
  recvUdp port length := lift (Network.recvUdp port length)
  accept port := lift (Network.accept port)
  setNonblocking stream := lift (Network.setNonblocking stream)
  recvIcmp length := lift (Network.recvIcmp length)

end Counted

namespace Daemon

variable {N R Stream Tag : Type}

/-- So many calls and packets are still within the limits. -/
structure Within (maxCalls maxPackets calls packets : ℕ)
    (daemon : Daemon (Counted N) R Tag) : Prop where
  calls_le : daemon.network.calls + calls ≤ maxCalls
  packets_le : daemon.handed.length + packets ≤ maxPackets

variable {maxCalls maxPackets calls packets : ℕ}

theorem Within.of_le {daemon : Daemon (Counted N) R Tag}
    (hwithin : Within maxCalls maxPackets calls packets daemon)
    {fewerCalls fewerPackets : ℕ} (hcalls : fewerCalls ≤ calls)
    (hpackets : fewerPackets ≤ packets) :
    Within maxCalls maxPackets fewerCalls fewerPackets daemon where
  calls_le := (Nat.add_le_add_left hcalls _).trans hwithin.calls_le
  packets_le := (Nat.add_le_add_left hpackets _).trans hwithin.packets_le

/-- The limits hold wherever a step fails. -/
theorem Within.failed (daemon : Daemon (Counted N) R Tag)
    (hwithin : Within maxCalls maxPackets calls packets daemon) :
    Within maxCalls maxPackets 0 0 daemon :=
  hwithin.of_le (Nat.zero_le _) (Nat.zero_le _)

/-- A call to the network is one call. -/
theorem costs_onNetwork {α : Type} {poll : Counted N → α × Counted N}
    (hpoll : ∀ counted, (poll counted).2.calls = counted.calls + 1) :
    Triple (Within maxCalls maxPackets (calls + 1) packets)
      (onNetwork poll : DaemonM (Counted N) R Tag α)
      (fun _ => Within maxCalls maxPackets calls packets)
      (Within maxCalls maxPackets 0 0) := by
  intro daemon hwithin
  have hcalls := hwithin.calls_le
  refine ⟨?_, hwithin.packets_le⟩
  change (poll daemon.network).2.calls + calls ≤ maxCalls
  rw [hpoll]
  omega

variable [Network N Stream Tag]

theorem costs_close (connection : PendingTcp Stream) :
    Triple (Within maxCalls maxPackets (calls + 1) packets)
      (close connection : DaemonM (Counted N) R Tag Unit)
      (fun _ => Within maxCalls maxPackets calls packets)
      (Within maxCalls maxPackets 0 0) :=
  costs_onNetwork fun _ => rfl

/-- Accepting costs two calls, finding no connection one. -/
theorem costs_acceptOne (config : Config) (now : ℕ) (port : UInt16) :
    Triple (Within maxCalls maxPackets (calls + 2) packets)
      (acceptOne config now port :
        DaemonM (Counted N) R Tag (Option (PendingTcp Stream)))
      (fun accepted daemon => match accepted with
        | none => Within maxCalls maxPackets (calls + 1) packets daemon
        | some _ => Within maxCalls maxPackets calls packets daemon)
      (Within maxCalls maxPackets 0 0) := by
  apply Triple.bind (costs_onNetwork fun _ => rfl)
  intro result
  cases result with
  | error error =>
      simp only
      split
      · exact Triple.pure fun _ hwithin => hwithin
      · exact Triple.throw Within.failed
  | ok accepted =>
      obtain ⟨stream, addr⟩ := accepted
      apply Triple.bind (costs_onNetwork fun _ => rfl)
      intro configured
      have hdeadline : Triple (Within maxCalls maxPackets calls packets)
          (do
            let deadline ← tcpDeadline config now
            pure (some { port, stream, addr, deadline }) :
            DaemonM (Counted N) R Tag (Option (PendingTcp Stream)))
          (fun accepted daemon => match accepted with
            | none => Within maxCalls maxPackets (calls + 1) packets daemon
            | some _ => Within maxCalls maxPackets calls packets daemon)
          (Within maxCalls maxPackets 0 0) := by
        apply Triple.bind (Triple.orThrow Within.failed)
        intro deadline
        exact Triple.pure fun _ hwithin => hwithin.1
      cases configured with
      | false =>
          exact Triple.bind (Triple.throw Within.failed) fun _ => hdeadline
      | true => exact hdeadline

/-- Every connection that may still become pending costs two calls, and finding
no further one another. -/
theorem costs_acceptAll (config : Config) (now : ℕ) (port : UInt16)
    (pending : List (PendingTcp Stream)) :
    Triple
      (Within maxCalls maxPackets
        (calls + 2 * (config.maxPartialStates - pending.length) + 1) packets)
      (acceptAll config now port pending :
        DaemonM (Counted N) R Tag (List (PendingTcp Stream)))
      (fun accepted daemon =>
        Within maxCalls maxPackets
          (calls + 2 * (config.maxPartialStates - accepted.length)) packets
            daemon ∧
          accepted.length ≤ max pending.length config.maxPartialStates)
      (Within maxCalls maxPackets 0 0) := by
  induction hroom : config.maxPartialStates - pending.length
    generalizing pending with
  | zero =>
      rw [acceptAll, dif_pos (by omega)]
      apply Triple.pure
      intro _ hwithin
      exact ⟨hwithin.of_le (by omega) (le_refl _), le_max_left _ _⟩
  | succ room ih =>
      rw [acceptAll, dif_neg (by omega)]
      have hcredit : calls + 2 * (room + 1) + 1 = calls + 2 * room + 1 + 2 := by
        omega
      rw [hcredit]
      apply Triple.bind (costs_acceptOne config now port)
      intro accepted
      cases accepted with
      | none =>
          apply Triple.pure
          intro _ hwithin
          exact ⟨hwithin.of_le (by omega) (le_refl _), le_max_left _ _⟩
      | some connection =>
          have hlength : (pending ++ [connection]).length =
              pending.length + 1 := by
            rw [List.length_append, List.length_singleton]
          refine (ih (pending ++ [connection]) (by omega)).imp_returned ?_
          rintro accepted _ ⟨hwithin, haccepted⟩
          exact ⟨hwithin, by omega⟩

/-- Each listener costs one call more than its connections. -/
theorem costs_acceptEach (config : Config) (now : ℕ) (ports : List UInt16)
    (pending : List (PendingTcp Stream)) :
    Triple
      (Within maxCalls maxPackets
        (calls + 2 * (config.maxPartialStates - pending.length) + ports.length)
        packets)
      (ports.foldlM (fun pending port => acceptAll config now port pending)
        pending : DaemonM (Counted N) R Tag (List (PendingTcp Stream)))
      (fun accepted daemon =>
        Within maxCalls maxPackets calls packets daemon ∧
          accepted.length ≤ max pending.length config.maxPartialStates)
      (Within maxCalls maxPackets 0 0) := by
  induction ports generalizing pending with
  | nil =>
      apply Triple.pure
      intro _ hwithin
      exact ⟨hwithin.of_le (by omega) (le_refl _), le_max_left _ _⟩
  | cons port ports ih =>
      rw [List.foldlM_cons]
      have hcredit : calls + 2 * (config.maxPartialStates - pending.length) +
          (port :: ports).length = calls + ports.length +
            2 * (config.maxPartialStates - pending.length) + 1 := by
        rw [List.length_cons]
        omega
      rw [hcredit]
      apply Triple.bind (costs_acceptAll config now port pending)
      intro accepted
      apply Triple.assuming
      intro haccepted
      rw [Nat.add_right_comm]
      refine (ih accepted).imp_returned ?_
      rintro kept _ ⟨hwithin, hkept⟩
      exact ⟨hwithin, by omega⟩

variable [CommandRunner R]

/-- Processing a packet reads the clock. -/
theorem costs_processPacket (addr : SocketAddr) (protocol : Protocol)
    (port : Option UInt16) (size : ℕ) (tag : Tag) :
    Triple (Within maxCalls maxPackets (calls + 1) (packets + 1))
      (processPacket addr protocol port size tag :
        DaemonM (Counted N) R Tag Unit)
      (fun _ => Within maxCalls maxPackets calls packets)
      (Within maxCalls maxPackets 0 0) := by
  intro daemon hwithin
  have hcalls := hwithin.calls_le
  have hpackets := hwithin.packets_le
  have hafter : Within maxCalls maxPackets calls packets
      (perform (processPacket addr protocol port size tag) daemon).2 := by
    rw [perform_processPacket]
    constructor
    · change daemon.network.calls + 1 + calls ≤ maxCalls
      omega
    · simp only [List.length_append, List.length_singleton]
      omega
  generalize perform (processPacket addr protocol port size tag) daemon = ended
    at hafter ⊢
  obtain ⟨_ | _, after⟩ := ended
  · exact hafter.failed
  · exact hafter

theorem costs_pollUdp (config : Config) (port : UInt16) :
    Triple (Within maxCalls maxPackets (calls + 2) (packets + 1))
      (pollUdp config port : DaemonM (Counted N) R Tag Unit)
      (fun _ => Within maxCalls maxPackets calls packets)
      (Within maxCalls maxPackets 0 0) := by
  apply Triple.bind (costs_onNetwork fun _ => rfl)
  intro result
  cases result with
  | ok datagram => exact costs_processPacket _ _ _ _ _
  | error error =>
      simp only
      split
      · exact Triple.pure fun _ hwithin =>
          hwithin.of_le (Nat.le_succ _) (Nat.le_succ _)
      · exact Triple.throw Within.failed

theorem costs_pollUdps (config : Config) (ports : List UInt16) :
    Triple
      (Within maxCalls maxPackets (calls + 2 * ports.length)
        (packets + ports.length))
      (ports.forM (pollUdp config) : DaemonM (Counted N) R Tag Unit)
      (fun _ => Within maxCalls maxPackets calls packets)
      (Within maxCalls maxPackets 0 0) := by
  induction ports with
  | nil => exact Triple.pure fun _ hwithin => hwithin
  | cons port ports ih =>
      exact Triple.bind (costs_pollUdp config port) fun _ => ih

theorem costs_pollIcmp (config : Config) :
    Triple (Within maxCalls maxPackets (calls + 2) (packets + 1))
      (pollIcmp config : DaemonM (Counted N) R Tag Unit)
      (fun _ => Within maxCalls maxPackets calls packets)
      (Within maxCalls maxPackets 0 0) := by
  apply Triple.bind (costs_onNetwork fun _ => rfl)
  intro result
  cases result with
  | ok datagram =>
      cases haddr : datagram.addr with
      | none =>
          simp only [haddr]
          exact Triple.throw Within.failed
      | some addr =>
          simp only [haddr]
          exact costs_processPacket _ _ _ _ _
  | error error =>
      simp only
      split
      · exact Triple.pure fun _ hwithin =>
          hwithin.of_le (Nat.le_succ _) (Nat.le_succ _)
      · exact Triple.throw Within.failed

/-- Each pending connection costs at most three calls and one packet. -/
theorem costs_pollPending (config : Config) (now : ℕ)
    (passed rest : List (PendingTcp Stream)) :
    Triple
      (Within maxCalls maxPackets (calls + 3 * rest.length)
        (packets + rest.length))
      (pollPending config now (passed ++ rest) passed.length :
        DaemonM (Counted N) R Tag (List (PendingTcp Stream)))
      (fun kept daemon =>
        Within maxCalls maxPackets calls packets daemon ∧
          kept.length ≤ (passed ++ rest).length)
      (Within maxCalls maxPackets 0 0) := by
  induction hlength : rest.length generalizing passed rest with
  | zero =>
      obtain rfl := List.length_eq_zero_iff.mp hlength
      rw [List.append_nil, pollPending_nil]
      exact Triple.pure fun _ hwithin => ⟨hwithin, le_refl _⟩
  | succ length ih =>
      obtain ⟨connection, rest, rfl⟩ := List.exists_cons_of_length_eq_add_one hlength
      have hrest : rest.length = length := Nat.succ_injective hlength
      have hpromote := length_promote rest
      have hremoved : Triple
          (Within maxCalls maxPackets (calls + 3 * length) (packets + length))
          (pollPending config now (passed ++ promote rest) passed.length :
            DaemonM (Counted N) R Tag (List (PendingTcp Stream)))
          (fun kept daemon => Within maxCalls maxPackets calls packets daemon ∧
            kept.length ≤ (passed ++ connection :: rest).length)
          (Within maxCalls maxPackets 0 0) := by
        refine (ih passed (promote rest) (hpromote.trans hrest)).imp_returned ?_
        rintro kept _ ⟨hwithin, hkept⟩
        simp only [List.length_append, List.length_cons] at hkept ⊢
        exact ⟨hwithin, by omega⟩
      have hkept := ih (passed ++ [connection]) rest hrest
      have hsame : (passed ++ [connection] ++ rest).length =
          (passed ++ connection :: rest).length := by simp
      rw [hsame] at hkept
      have hcredit : calls + 3 * (length + 1) =
          calls + 3 * length + 1 + 1 + 1 := by omega
      rw [pollPending_cons, hcredit, ← Nat.add_assoc]
      apply Triple.bind (costs_onNetwork fun _ => rfl)
      intro received
      cases received with
      | ok received =>
          exact Triple.bind (costs_close connection) fun _ =>
            Triple.bind (costs_processPacket _ _ _ _ _) fun _ => hremoved
      | error error =>
          cases hkind : error.kind with
          | wouldBlock | timedOut =>
              simp only [handleRead, readTcpKnock, hkind]
              split
              · refine Triple.bind (costs_close connection) fun _ =>
                  hremoved.of_imp fun _ hwithin => ?_
                exact hwithin.of_le (Nat.le_succ _) (Nat.le_succ _)
              · refine hkept.of_imp fun _ hwithin => ?_
                exact hwithin.of_le (by omega) (Nat.le_succ _)
          | other name =>
              simp only [handleRead, readTcpKnock, hkind]
              exact Triple.throw Within.failed

/-- The calls that a pass makes at most. -/
def passCalls (config : Config) (sockets : Sockets) : ℕ :=
  2 * sockets.udp.length + sockets.tcp.length + 5 * config.maxPartialStates + 3

/-- The packets that a pass processes at most. -/
def passPackets (config : Config) (sockets : Sockets) : ℕ :=
  sockets.udp.length + config.maxPartialStates + 1

theorem costs_pass (config : Config) (sockets : Sockets)
    {pending : List (PendingTcp Stream)}
    (hpending : pending.length ≤ config.maxPartialStates) :
    Triple
      (Within maxCalls maxPackets (calls + passCalls config sockets)
        (packets + passPackets config sockets))
      (pass config sockets pending :
        DaemonM (Counted N) R Tag (List (PendingTcp Stream)))
      (fun kept daemon =>
        Within maxCalls maxPackets calls packets daemon ∧
          kept.length ≤ config.maxPartialStates)
      (Within maxCalls maxPackets 0 0) := by
  have hcalls : calls + passCalls config sockets =
      calls + 2 + 3 * config.maxPartialStates +
        2 * config.maxPartialStates + sockets.tcp.length + 1 +
          2 * sockets.udp.length := by
    rw [passCalls]
    omega
  have hpackets : packets + passPackets config sockets =
      packets + 1 + config.maxPartialStates + sockets.udp.length := by
    rw [passPackets]
    omega
  rw [hcalls, hpackets]
  apply Triple.bind (costs_pollUdps config sockets.udp)
  intro _
  apply Triple.bind (costs_onNetwork fun _ => rfl)
  intro now
  have haccept : Triple
      (Within maxCalls maxPackets
        (calls + 2 + 3 * config.maxPartialStates +
          2 * (config.maxPartialStates - pending.length) + sockets.tcp.length)
        (packets + 1 + config.maxPartialStates))
      (sockets.tcp.foldlM
        (fun pending port => acceptAll config now port pending) pending :
        DaemonM (Counted N) R Tag (List (PendingTcp Stream))) _ _ :=
    costs_acceptEach config now sockets.tcp pending
  refine Triple.bind (haccept.of_imp fun _ hwithin =>
    hwithin.of_le (by omega) (le_refl _)) fun accepted => ?_
  apply Triple.assuming
  intro haccepted
  rw [max_eq_right hpending] at haccepted
  have hread : Triple
      (Within maxCalls maxPackets (calls + 2 + 3 * accepted.length)
        (packets + 1 + accepted.length))
      (pollPending config now accepted 0 :
        DaemonM (Counted N) R Tag (List (PendingTcp Stream))) _ _ :=
    costs_pollPending config now [] accepted
  refine Triple.bind (hread.of_imp fun _ hwithin =>
    hwithin.of_le (by omega) (by omega)) fun kept => ?_
  apply Triple.assuming
  intro hkept
  rw [List.nil_append] at hkept
  split
  · refine Triple.bind (costs_pollIcmp config) fun _ => ?_
    exact Triple.pure fun _ hwithin => ⟨hwithin, hkept.trans haccepted⟩
  · exact Triple.pure fun _ hwithin =>
      ⟨hwithin.of_le (by omega) (by omega), hkept.trans haccepted⟩

theorem costs_passes (config : Config) (sockets : Sockets) (count : ℕ)
    {pending : List (PendingTcp Stream)}
    (hpending : pending.length ≤ config.maxPartialStates) :
    Triple
      (Within maxCalls maxPackets (calls + count * passCalls config sockets)
        (packets + count * passPackets config sockets))
      (passes config sockets count pending :
        DaemonM (Counted N) R Tag (List (PendingTcp Stream)))
      (fun kept daemon =>
        Within maxCalls maxPackets calls packets daemon ∧
          kept.length ≤ config.maxPartialStates)
      (Within maxCalls maxPackets 0 0) := by
  induction count generalizing pending with
  | zero =>
      apply Triple.pure
      intro _ hwithin
      exact ⟨hwithin.of_le (Nat.le_add_right _ _) (Nat.le_add_right _ _),
        hpending⟩
  | succ count ih =>
      rw [Nat.succ_mul, Nat.succ_mul, ← Nat.add_assoc, ← Nat.add_assoc]
      apply Triple.bind (costs_pass config sockets hpending)
      intro kept
      apply Triple.assuming
      exact fun hkept => ih hkept

/-! ## A whole run -/

omit [CommandRunner R] [Network N Stream Tag] in
theorem free_logEvent (event message : String) :
    Triple (Within maxCalls maxPackets calls packets)
      (logEvent event message : DaemonM (Counted N) R Tag Unit)
      (fun _ => Within maxCalls maxPackets calls packets)
      (Within maxCalls maxPackets 0 0) :=
  Triple.imp_failed (Keeps.of_perform fun _ hwithin =>
    ⟨hwithin.calls_le, hwithin.packets_le⟩) Within.failed

omit [CommandRunner R] in
/-- A step costs a call and brings at most one socket. -/
theorem costs_bindStep (config : Config) (sockets : Sockets)
    (step : KnockStep) :
    Triple (Within maxCalls maxPackets (calls + 1) packets)
      (bindStep config sockets step : DaemonM (Counted N) R Tag Sockets)
      (fun bound daemon => Within maxCalls maxPackets calls packets daemon ∧
        bound.udp.length + bound.tcp.length ≤
          sockets.udp.length + sockets.tcp.length + 1)
      (Within maxCalls maxPackets 0 0) := by
  have hsame : Triple (Within maxCalls maxPackets (calls + 1) packets)
      (pure sockets : DaemonM (Counted N) R Tag Sockets)
      (fun bound daemon => Within maxCalls maxPackets calls packets daemon ∧
        bound.udp.length + bound.tcp.length ≤
          sockets.udp.length + sockets.tcp.length + 1)
      (Within maxCalls maxPackets 0 0) :=
    Triple.pure fun _ hwithin =>
      ⟨hwithin.of_le (Nat.le_succ _) (le_refl _), Nat.le_succ _⟩
  have hbound : ∀ listener event message (bound : Sockets),
      bound.udp.length + bound.tcp.length ≤
          sockets.udp.length + sockets.tcp.length + 1 →
      Triple (Within maxCalls maxPackets (calls + 1) packets)
        (do
          Daemon.bind listener
          logEvent event message
          pure bound : DaemonM (Counted N) R Tag Sockets)
        (fun bound daemon => Within maxCalls maxPackets calls packets daemon ∧
          bound.udp.length + bound.tcp.length ≤
            sockets.udp.length + sockets.tcp.length + 1)
        (Within maxCalls maxPackets 0 0) := by
    intro listener event message bound hbound
    have hbind : Triple (Within maxCalls maxPackets (calls + 1) packets)
        (Daemon.bind listener : DaemonM (Counted N) R Tag Unit)
        (fun _ => Within maxCalls maxPackets calls packets)
        (Within maxCalls maxPackets 0 0) := by
      apply Triple.bind (costs_onNetwork fun _ => rfl)
      intro result
      cases result with
      | ok value => exact Triple.pure fun _ hwithin => hwithin
      | error failure => exact Triple.throw Within.failed
    exact Triple.bind hbind fun _ => Triple.bind (free_logEvent event message)
      fun _ => Triple.pure fun _ hwithin => ⟨hwithin, hbound⟩
  rw [bindStep]
  split
  · exact Triple.throw Within.failed
  · split
    · exact hsame
    · exact hbound _ _ _ _ (by simp; omega)
  · exact Triple.throw Within.failed
  · split
    · exact hsame
    · exact hbound _ _ _ _ (by simp; omega)
  · split
    · exact hsame
    · exact hbound _ _ _ _ (by simp)

omit [CommandRunner R] in
theorem costs_bindSteps (config : Config) (sockets : Sockets)
    (steps : List KnockStep) :
    Triple (Within maxCalls maxPackets (calls + steps.length) packets)
      (steps.foldlM (bindStep config) sockets :
        DaemonM (Counted N) R Tag Sockets)
      (fun bound daemon => Within maxCalls maxPackets calls packets daemon ∧
        bound.udp.length + bound.tcp.length ≤
          sockets.udp.length + sockets.tcp.length + steps.length)
      (Within maxCalls maxPackets 0 0) := by
  induction steps generalizing sockets with
  | nil => exact Triple.pure fun _ hwithin => ⟨hwithin, le_refl _⟩
  | cons step steps ih =>
      rw [List.foldlM_cons, List.length_cons, ← Nat.add_assoc]
      apply Triple.bind (costs_bindStep config sockets step)
      intro bound
      apply Triple.assuming
      intro hbound
      refine (ih bound).imp_returned ?_
      rintro all _ ⟨hwithin, hall⟩
      exact ⟨hwithin, by omega⟩

theorem costs_startUp (config : Config) :
    Triple
      (Within maxCalls maxPackets (calls + config.knock.sequence.length)
        packets)
      (startUp config : DaemonM (Counted N) R Tag Sockets)
      (fun sockets daemon => Within maxCalls maxPackets calls packets daemon ∧
        sockets.udp.length + sockets.tcp.length ≤ config.knock.sequence.length)
      (Within maxCalls maxPackets 0 0) := by
  have hbind : Triple
      (Within maxCalls maxPackets (calls + config.knock.sequence.length)
        packets)
      (config.knock.sequence.foldlM (bindStep config)
        { udp := [], tcp := [], icmp := false } :
        DaemonM (Counted N) R Tag Sockets)
      (fun sockets daemon => Within maxCalls maxPackets calls packets daemon ∧
        sockets.udp.length + sockets.tcp.length ≤ config.knock.sequence.length)
      (Within maxCalls maxPackets 0 0) := by
    refine (costs_bindSteps config _ config.knock.sequence).imp_returned ?_
    rintro sockets _ ⟨hwithin, hsockets⟩
    exact ⟨hwithin, by simpa using hsockets⟩
  have hpreflight : Keeps
      (Within maxCalls maxPackets (calls + config.knock.sequence.length)
        packets)
      (preflight : DaemonM (Counted N) R Tag (Except Error Unit)) :=
    Keeps.of_perform fun _ hwithin =>
      ⟨hwithin.calls_le, hwithin.packets_le⟩
  rw [startUp]
  apply Triple.bind (free_logEvent _ _)
  intro _
  apply Triple.bind (Triple.imp_failed hpreflight Within.failed)
  intro result
  cases result with
  | error error =>
      exact Triple.bind (free_logEvent _ _) fun _ =>
        Triple.throw_bind Within.failed
  | ok value => exact Triple.bind (free_logEvent _ _) fun _ => hbind

/-- The calls and packets of a pass, by the length of the sequence. -/
theorem costs_run (config : Config) (count : ℕ) :
    let steps := config.knock.sequence.length
    Triple
      (Within maxCalls maxPackets
        (count * (2 * steps + 5 * config.maxPartialStates + 3) + steps)
        (count * (steps + config.maxPartialStates + 1)))
      (run config count :
        DaemonM (Counted N) R Tag (List (PendingTcp Stream)))
      (fun _ => Within maxCalls maxPackets 0 0)
      (Within maxCalls maxPackets 0 0) := by
  intro steps
  apply Triple.bind (costs_startUp config)
  intro sockets
  apply Triple.assuming
  intro hsockets
  have hcalls : passCalls config sockets ≤
      2 * steps + 5 * config.maxPartialStates + 3 := by
    rw [passCalls]
    omega
  have hpackets : passPackets config sockets ≤
      steps + config.maxPartialStates + 1 := by
    rw [passPackets]
    omega
  have hpasses : Triple
      (Within maxCalls maxPackets (0 + count * passCalls config sockets)
        (0 + count * passPackets config sockets))
      (passes config sockets count [] :
        DaemonM (Counted N) R Tag (List (PendingTcp Stream))) _ _ :=
    costs_passes config sockets count (Nat.zero_le _)
  refine (hpasses.of_imp fun _ hwithin => ?_).imp_returned
    fun _ _ hkept => hkept.1
  rw [Nat.zero_add, Nat.zero_add]
  exact hwithin.of_le (Nat.mul_le_mul_left count hcalls)
    (Nat.mul_le_mul_left count hpackets)

/-- However much arrives and in whatever order, a run of so many passes makes
no more calls to the network and processes no more packets than this. -/
theorem run_bounded (config : ValidConfig) (device : LogDevice) (network : N)
    (runner : R) (count : ℕ) :
    let steps := config.knock.sequence.length
    let ended := perform
      (run config.toConfig count :
        DaemonM (Counted N) R Tag (List (PendingTcp Stream)))
      { server := .started config device, network := ⟨network, 0⟩, runner
        handed := [] }
    ended.2.network.calls ≤
        count * (2 * steps + 5 * config.maxPartialStates + 3) + steps ∧
      ended.2.handed.length ≤ count * (steps + config.maxPartialStates + 1)
    := by
  intro steps ended
  have hwithin : Within
      (count * (2 * steps + 5 * config.maxPartialStates + 3) + steps)
      (count * (steps + config.maxPartialStates + 1)) 0 0 ended.2 :=
    (costs_run config.toConfig count).perform
      ⟨(Nat.zero_add _).le, (Nat.zero_add _).le⟩
  exact ⟨hwithin.calls_le, hwithin.packets_le⟩

end Daemon

end SshKnock
