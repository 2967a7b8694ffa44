import SshKnock.Core.Coupled
import SshKnock.Server.PendingPass

/-!
# Two daemons side by side

Two daemons with the same limits take the same steps as long as the network
gives both of them the same answers, up to what they receive, and processing
what is received alike keeps them related.
-/

namespace SshKnock

open Fallible SwapRemove

namespace Daemon

variable {N N' R R' Stream Tag Tag' : Type} [CommandRunner R]
  [CommandRunner R'] [Network N Stream Tag] [Network N' Stream Tag']

/-- The single steps of a pass keep two daemons related, where `alike` says
which received data they may have in each other's place. -/
structure Pairs (config config' : Config)
    (alike : ℕ × Tag → ℕ × Tag' → Prop)
    (related : Daemon N R Tag → Daemon N' R' Tag' → Prop)
    (failed : Ending → Ending → Daemon N R Tag → Daemon N' R' Tag' → Prop)
    (parted : Prop) : Prop where
  partialStateTimeout_eq :
    config'.partialStateTimeout = config.partialStateTimeout
  maxPartialStates_eq : config'.maxPartialStates = config.maxPartialStates
  failed_alike : ∀ ending left right, related left right →
    failed ending ending left right
  now : InStep related failed parted (onNetwork Streams.now)
    (onNetwork Streams.now)
  setNonblocking : ∀ stream, InStep related failed parted
    (onNetwork (Network.setNonblocking stream))
    (onNetwork (Network.setNonblocking stream))
  accept : ∀ port, InStep related failed parted
    (onNetwork (Network.accept port)) (onNetwork (Network.accept port))
  close : ∀ connection : PendingTcp Stream,
    InStep related failed parted (close connection) (close connection)
  read : ∀ stream, Coupled related
    (onNetwork (Streams.read stream (bufferLen config)))
    (onNetwork (Streams.read stream (bufferLen config')))
    (fun received other left right =>
      related left right ∧ Alike alike received other) failed parted
  recvUdp : ∀ port, Coupled related
    (onNetwork (Network.recvUdp port (bufferLen config)))
    (onNetwork (Network.recvUdp port (bufferLen config')))
    (fun received other left right => related left right ∧
      Alike (fun datagram datagram' => datagram.addr = datagram'.addr ∧
        alike (datagram.size, datagram.tag) (datagram'.size, datagram'.tag))
          received other) failed parted
  recvIcmp : Coupled related
    (onNetwork (Network.recvIcmp
      (config.maxPayloadSize + (icmpHeaderLen + 1))))
    (onNetwork (Network.recvIcmp
      (config'.maxPayloadSize + (icmpHeaderLen + 1))))
    (fun received other left right => related left right ∧
      Alike (fun datagram datagram' => datagram.addr = datagram'.addr ∧
        alike (datagram.size - icmpHeaderLen, datagram.tag)
          (datagram'.size - icmpHeaderLen, datagram'.tag))
            received other) failed parted
  processPacket : ∀ addr protocol port (received : ℕ × Tag)
    (other : ℕ × Tag'), alike received other →
      InStep related failed parted
        (processPacket addr protocol port received.1 received.2)
        (processPacket addr protocol port other.1 other.2)

namespace Pairs

variable {config config' : Config} {alike : ℕ × Tag → ℕ × Tag' → Prop}
  {related : Daemon N R Tag → Daemon N' R' Tag' → Prop}
  {failed : Ending → Ending → Daemon N R Tag → Daemon N' R' Tag' → Prop}
  {parted : Prop}

theorem pollUdp (hpairs : Pairs config config' alike related failed parted)
    (port : UInt16) :
    InStep related failed parted (Daemon.pollUdp config port)
      (Daemon.pollUdp config' port) := by
  apply InStep.of_coupled (hpairs.recvUdp port)
  intro received other halike
  cases halike with
  | ok hdatagram =>
      simp only [← hdatagram.1]
      exact hpairs.processPacket _ _ _ (_, _) (_, _) hdatagram.2
  | error reason =>
      simp only
      split
      · exact InStep.pure ()
      · exact InStep.throw (hpairs.failed_alike _)

theorem pollIcmp (hpairs : Pairs config config' alike related failed parted) :
    InStep related failed parted (Daemon.pollIcmp config)
      (Daemon.pollIcmp config') := by
  apply InStep.of_coupled hpairs.recvIcmp
  intro received other halike
  cases halike with
  | ok hdatagram =>
      simp only [← hdatagram.1]
      split
      · exact InStep.throw (hpairs.failed_alike _)
      · exact hpairs.processPacket _ _ _ (_, _) (_, _) hdatagram.2
  | error reason =>
      simp only
      split
      · exact InStep.pure ()
      · exact InStep.throw (hpairs.failed_alike _)

theorem acceptOne (hpairs : Pairs config config' alike related failed parted)
    (now : ℕ) (port : UInt16) :
    InStep related failed parted (Daemon.acceptOne config now port)
      (Daemon.acceptOne config' now port) := by
  apply InStep.bind (hpairs.accept port)
  intro result
  cases result with
  | error error =>
      simp only
      split
      · exact InStep.pure none
      · exact InStep.throw (hpairs.failed_alike _)
  | ok accepted =>
      obtain ⟨stream, addr⟩ := accepted
      apply InStep.bind (hpairs.setNonblocking stream)
      intro configured
      have hdeadline : InStep related failed parted
          (do
            let deadline ← tcpDeadline config now
            pure (some { port, stream, addr, deadline }) :
            DaemonM N R Tag (Option (PendingTcp Stream)))
          (do
            let deadline ← tcpDeadline config' now
            pure (some { port, stream, addr, deadline }) :
            DaemonM N' R' Tag' (Option (PendingTcp Stream))) := by
        rw [tcpDeadline, tcpDeadline, hpairs.partialStateTimeout_eq]
        exact InStep.bind (InStep.orThrow _ (hpairs.failed_alike _))
          fun _ => InStep.pure _
      cases configured with
      | false =>
          exact InStep.bind (InStep.throw (hpairs.failed_alike _)) fun _ => hdeadline
      | true => exact hdeadline

theorem acceptAll (hpairs : Pairs config config' alike related failed parted)
    (now : ℕ) (port : UInt16) (pending : List (PendingTcp Stream)) :
    InStep related failed parted (Daemon.acceptAll config now port pending)
      (Daemon.acceptAll config' now port pending) := by
  induction hroom : config.maxPartialStates - pending.length
    generalizing pending with
  | zero =>
      have hfull : config.maxPartialStates ≤ pending.length := by omega
      rw [Daemon.acceptAll, dif_pos hfull, Daemon.acceptAll,
        dif_pos (hpairs.maxPartialStates_eq.trans_le hfull)]
      exact InStep.pure pending
  | succ room ih =>
      have hspare : ¬config.maxPartialStates ≤ pending.length := by omega
      rw [Daemon.acceptAll, dif_neg hspare, Daemon.acceptAll,
        dif_neg (fun hfull => hspare (hpairs.maxPartialStates_eq.ge.trans hfull))]
      apply InStep.bind (hpairs.acceptOne now port)
      intro accepted
      cases accepted with
      | none => exact InStep.pure pending
      | some connection =>
          apply ih
          rw [List.length_append, List.length_singleton]
          omega

/-- One connection is read and dealt with in step. -/
theorem readOne (hpairs : Pairs config config' alike related failed parted)
    (now : ℕ) (connection : PendingTcp Stream)
    {removed kept : DaemonM N R Tag (List (PendingTcp Stream))}
    {removed' kept' : DaemonM N' R' Tag' (List (PendingTcp Stream))}
    (hremoved : InStep related failed parted removed removed')
    (hkept : InStep related failed parted kept kept') :
    InStep related failed parted
      (onNetwork (Streams.read connection.stream (bufferLen config)) >>=
        handleRead now connection removed kept)
      (onNetwork (Streams.read connection.stream (bufferLen config')) >>=
        handleRead now connection removed' kept') := by
  apply InStep.of_coupled (hpairs.read connection.stream)
  intro received other halike
  cases halike with
  | ok hreceived =>
      exact InStep.bind (hpairs.close connection) fun _ =>
        InStep.bind (hpairs.processPacket _ _ _ (_, _) (_, _) hreceived)
          fun _ => hremoved
  | error reason =>
      cases hkind : reason.kind with
      | wouldBlock | timedOut =>
          simp only [handleRead, readTcpKnock, hkind]
          split
          · exact InStep.bind (hpairs.close connection) fun _ => hremoved
          · exact hkept
      | other name =>
          simp only [handleRead, readTcpKnock, hkind]
          exact InStep.throw (hpairs.failed_alike _)

theorem pollPending (hpairs : Pairs config config' alike related failed parted)
    (now : ℕ) (passed rest : List (PendingTcp Stream)) :
    InStep related failed parted
      (Daemon.pollPending config now (passed ++ rest) passed.length)
      (Daemon.pollPending config' now (passed ++ rest) passed.length) := by
  induction hlength : rest.length generalizing passed rest with
  | zero =>
      obtain rfl := List.length_eq_zero_iff.mp hlength
      rw [List.append_nil, pollPending_nil, pollPending_nil]
      exact InStep.pure passed
  | succ length ih =>
      obtain ⟨connection, rest, rfl⟩ := List.exists_cons_of_length_eq_add_one hlength
      rw [pollPending_cons, pollPending_cons]
      have hrest : rest.length = length := Nat.succ_injective hlength
      exact hpairs.readOne now connection
        (ih passed (promote rest) ((length_promote rest).trans hrest))
        (ih (passed ++ [connection]) rest hrest)

theorem pass (hpairs : Pairs config config' alike related failed parted)
    (sockets : Sockets) (pending : List (PendingTcp Stream)) :
    InStep related failed parted (Daemon.pass config sockets pending)
      (Daemon.pass config' sockets pending) := by
  apply InStep.bind (InStep.forM hpairs.pollUdp)
  intro _
  apply InStep.bind hpairs.now
  intro now
  apply InStep.bind (InStep.foldlM pending fun pending port =>
    hpairs.acceptAll now port pending)
  intro pending
  apply InStep.bind (hpairs.pollPending now [] pending)
  intro pending
  split
  · exact InStep.bind hpairs.pollIcmp fun _ => InStep.pure pending
  · exact InStep.pure pending

/-- Two daemons stay related through any number of passes. -/
theorem passes (hpairs : Pairs config config' alike related failed parted)
    (sockets : Sockets) (count : ℕ) (pending : List (PendingTcp Stream)) :
    InStep related failed parted
      (Daemon.passes config sockets count pending)
      (Daemon.passes config' sockets count pending) := by
  induction count generalizing pending with
  | zero => exact InStep.pure pending
  | succ count ih =>
      exact InStep.bind (hpairs.pass sockets pending) fun pending => ih pending

end Pairs

/-- The single steps of the start-up keep two daemons related. -/
structure BootPairs (related : Daemon N R Tag → Daemon N' R' Tag' → Prop)
    (failed : Ending → Ending → Daemon N R Tag → Daemon N' R' Tag' → Prop)
    (parted : Prop) : Prop where
  failed_alike : ∀ ending left right, related left right →
    failed ending ending left right
  bind : ∀ listener, InStep related failed parted
    (onNetwork (Network.bind listener)) (onNetwork (Network.bind listener))
  logEvent : ∀ event message, InStep related failed parted
    (logEvent event message) (logEvent event message)
  preflight : InStep related failed parted preflight preflight

namespace BootPairs

variable {related : Daemon N R Tag → Daemon N' R' Tag' → Prop}
  {failed : Ending → Ending → Daemon N R Tag → Daemon N' R' Tag' → Prop}
  {parted : Prop}

theorem bindStep (hpairs : BootPairs related failed parted) (config : Config)
    (sockets : Sockets) (step : KnockStep) :
    InStep related failed parted (Daemon.bindStep config sockets step)
      (Daemon.bindStep config sockets step) := by
  have hbound : ∀ listener event message (bound : Sockets),
      InStep related failed parted
        (do
          Daemon.bind listener
          Daemon.logEvent event message
          pure bound)
        (do
          Daemon.bind listener
          Daemon.logEvent event message
          pure bound) := by
    intro listener event message bound
    apply InStep.bind
    · apply InStep.bind (hpairs.bind listener)
      intro result
      cases result with
      | ok value => exact InStep.pure ()
      | error failure => exact InStep.throw (hpairs.failed_alike _)
    · exact fun _ => InStep.bind (hpairs.logEvent event message)
        fun _ => InStep.pure bound
  rw [Daemon.bindStep, Daemon.bindStep]
  split
  · exact InStep.throw (hpairs.failed_alike _)
  · split
    · exact InStep.pure _
    · exact hbound _ _ _ _
  · exact InStep.throw (hpairs.failed_alike _)
  · split
    · exact InStep.pure _
    · exact hbound _ _ _ _
  · split
    · exact InStep.pure _
    · exact hbound _ _ _ _

theorem startUp (hpairs : BootPairs related failed parted) (config : Config) :
    InStep related failed parted (Daemon.startUp config)
      (Daemon.startUp config) := by
  have hloop : InStep related failed parted
      (config.knock.sequence.foldlM (Daemon.bindStep config)
        { udp := [], tcp := [], icmp := false })
      (config.knock.sequence.foldlM (Daemon.bindStep config)
        { udp := [], tcp := [], icmp := false }) :=
    InStep.foldlM _ (hpairs.bindStep config)
  rw [Daemon.startUp, Daemon.startUp]
  apply InStep.bind (hpairs.logEvent _ _)
  intro _
  apply InStep.bind hpairs.preflight
  intro result
  cases result with
  | error error =>
      apply InStep.bind (hpairs.logEvent _ _)
      intro _
      exact InStep.bind (InStep.throw (hpairs.failed_alike _)) fun _ => hloop
  | ok value => exact InStep.bind (hpairs.logEvent _ _) fun _ => hloop

end BootPairs

end Daemon

end SshKnock
