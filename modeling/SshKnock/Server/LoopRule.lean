import SshKnock.Server.PendingPass

/-!
# Invariants of the poll loop

What every single step of the daemon keeps, the whole daemon keeps from its
start through any number of passes.  Between taking a packet from the network
and processing it the invariant may be stretched to account for that packet.
-/

namespace SshKnock

open Fallible SwapRemove

/-- The daemon listens where such a packet arrives. -/
def Sockets.Listens (sockets : Sockets) : Protocol → Option UInt16 → Prop
  | .udp, some port => port ∈ sockets.udp
  | .tcp, some port => port ∈ sockets.tcp
  | .icmp, none => sockets.icmp = true
  | .udp, none | .tcp, none | .icmp, some _ => False

namespace Daemon

variable {N R Stream Tag : Type} [CommandRunner R] [Network N Stream Tag]

/-- What the start-up logs, and which errors the preflight may report. -/
inductive StartUpEvent (Reported : Error → Prop) : String → String → Prop where
  | starting : StartUpEvent Reported "daemon_start" "sshknockd starting"
  | refused {error : Error} (hreported : Reported error) :
      StartUpEvent Reported "firewall_preflight_failed" s!"error={error}"
  | completed : StartUpEvent Reported "firewall_preflight" "completed"
  | udp : StartUpEvent Reported "bind_udp" "status=bound"
  | tcp : StartUpEvent Reported "bind_tcp" "status=bound"
  | icmp : StartUpEvent Reported "bind_icmp" "enabled"

/-- The steps of the start-up keep `Invariant`. -/
structure StartsUp (Reported : Error → Prop)
    (Invariant : Daemon N R Tag → Prop) : Prop where
  bind : ∀ listener, Keeps Invariant (onNetwork (Network.bind listener))
  logEvent : ∀ event message, StartUpEvent Reported event message →
    Keeps Invariant (logEvent event message)
  preflight : Triple Invariant preflight
    (fun result daemon => Invariant daemon ∧
      ∀ error, result = .error error → Reported error) Invariant

namespace StartsUp

variable {Reported : Error → Prop} {Invariant : Daemon N R Tag → Prop}

/-- Steps that keep `Invariant` whatever is logged. -/
theorem of_keeps
    (hbind : ∀ listener, Keeps Invariant (onNetwork (Network.bind listener)))
    (hlogEvent : ∀ event message,
      Keeps Invariant (Daemon.logEvent event message))
    (hpreflight : Keeps Invariant Daemon.preflight) :
    StartsUp (fun _ => True) Invariant where
  bind := hbind
  logEvent event message _ := hlogEvent event message
  preflight := Triple.imp_returned hpreflight fun _ _ hinvariant =>
    ⟨hinvariant, fun _ _ => trivial⟩

theorem bindListener (hsteps : StartsUp Reported Invariant)
    (listener : Listener) :
    Keeps Invariant (Daemon.bind listener : DaemonM N R Tag Unit) := by
  apply Triple.bind (hsteps.bind listener)
  intro result
  cases result with
  | ok value => exact Keeps.pure ()
  | error failure => exact Keeps.throw _

theorem bindStep (hsteps : StartsUp Reported Invariant)
    (config : Config) (sockets : Sockets) (step : KnockStep) :
    Keeps Invariant
      (Daemon.bindStep config sockets step : DaemonM N R Tag Sockets) := by
  have hbound : ∀ listener event message (bound : Sockets),
      StartUpEvent Reported event message →
        Keeps Invariant (do
          Daemon.bind listener
          Daemon.logEvent event message
          Pure.pure bound : DaemonM N R Tag Sockets) :=
    fun listener event message bound hevent =>
      Keeps.bind (hsteps.bindListener listener) fun _ =>
        Keeps.bind (hsteps.logEvent event message hevent) fun _ =>
          Keeps.pure bound
  rw [Daemon.bindStep]
  split
  · exact Keeps.throw _
  · split
    · exact Keeps.pure _
    · exact hbound _ _ _ _ .udp
  · exact Keeps.throw _
  · split
    · exact Keeps.pure _
    · exact hbound _ _ _ _ .tcp
  · split
    · exact Keeps.pure _
    · exact hbound _ _ _ _ .icmp

theorem startUp (hsteps : StartsUp Reported Invariant)
    (config : Config) :
    Keeps Invariant (Daemon.startUp config : DaemonM N R Tag Sockets) := by
  rw [Daemon.startUp]
  apply Keeps.bind (hsteps.logEvent _ _ .starting)
  intro _
  apply Triple.bind hsteps.preflight
  intro result
  apply Triple.assuming
  intro hreported
  cases result with
  | error error =>
      apply Keeps.bind (hsteps.logEvent _ _ (.refused (hreported error rfl)))
      intro _
      exact Keeps.bind (Keeps.throw _) fun _ =>
        Keeps.foldlM _ (hsteps.bindStep config)
  | ok value =>
      exact Keeps.bind (hsteps.logEvent _ _ .completed) fun _ =>
        Keeps.foldlM _ (hsteps.bindStep config)

end StartsUp

section

variable {Invariant Failed : Daemon N R Tag → Prop}
  {InFlight : SocketAddr → ℕ → Tag → Daemon N R Tag → Prop}

theorem triple_pollUdp {config : Config} {port : UInt16}
    (hfailed : ∀ daemon, Invariant daemon → Failed daemon)
    (hrecv : Triple Invariant
      (onNetwork (Network.recvUdp port (bufferLen config)))
      (fun result daemon => match result with
        | .ok datagram =>
            InFlight datagram.addr datagram.size datagram.tag daemon
        | .error _ => Invariant daemon) Failed)
    (hprocess : ∀ addr size tag, Triple (InFlight addr size tag)
      (processPacket addr .udp (some port) size tag)
      (fun _ => Invariant) Failed) :
    Triple Invariant (Daemon.pollUdp config port : DaemonM N R Tag Unit)
      (fun _ => Invariant) Failed := by
  apply Triple.bind hrecv
  intro result
  cases result with
  | ok datagram => exact hprocess _ _ _
  | error error =>
      simp only
      split
      · exact Triple.pure fun _ hinvariant => hinvariant
      · exact Triple.throw hfailed

theorem triple_pollIcmp {config : Config}
    (hfailed : ∀ daemon, Invariant daemon → Failed daemon)
    (hrecv : ∀ length, Triple Invariant (onNetwork (Network.recvIcmp length))
      (fun result daemon => match result with
        | .ok datagram => (datagram.addr = none → Invariant daemon) ∧
            ∀ addr, datagram.addr = some addr →
              InFlight addr (datagram.size - icmpHeaderLen) datagram.tag daemon
        | .error _ => Invariant daemon) Failed)
    (hprocess : ∀ addr size tag, Triple (InFlight addr size tag)
      (processPacket addr .icmp none size tag) (fun _ => Invariant) Failed) :
    Triple Invariant (Daemon.pollIcmp config : DaemonM N R Tag Unit)
      (fun _ => Invariant) Failed := by
  apply Triple.bind (hrecv _)
  intro result
  cases result with
  | ok datagram =>
      cases haddr : datagram.addr with
      | none =>
          simp only [haddr]
          exact Triple.throw fun daemon hdatagram =>
            hfailed daemon (hdatagram.1 trivial)
      | some addr =>
          simp only [haddr]
          apply (hprocess addr _ _).of_imp
          intro _ hdatagram
          exact hdatagram.2 addr rfl
  | error error =>
      simp only
      split
      · exact Triple.pure fun _ hinvariant => hinvariant
      · exact Triple.throw hfailed

end

/-- The steps that deal with no connection keep `Invariant`; `InFlight` holds
while a packet of the given source has been taken and not yet processed. -/
structure Steps (Invariant : Daemon N R Tag → Prop)
    (InFlight : SocketAddr → Tag → Daemon N R Tag → Prop) : Prop where
  bind : ∀ listener, Keeps Invariant (onNetwork (Network.bind listener))
  logEvent : ∀ event message, Keeps Invariant (logEvent event message)
  preflight : Keeps Invariant preflight
  recvUdp : ∀ port length,
    Triple Invariant (onNetwork (Network.recvUdp port length))
      (fun result daemon => match result with
        | .ok datagram => InFlight datagram.addr datagram.tag daemon
        | .error _ => Invariant daemon) Invariant
  recvIcmp : ∀ length,
    Triple Invariant (onNetwork (Network.recvIcmp length))
      (fun result daemon => match result with
        | .ok datagram => (datagram.addr = none → Invariant daemon) ∧
            ∀ addr, datagram.addr = some addr →
              InFlight addr datagram.tag daemon
        | .error _ => Invariant daemon) Invariant
  processPacket : ∀ addr protocol port payloadSize tag,
    Triple (InFlight addr tag)
      (processPacket addr protocol port payloadSize tag)
      (fun _ => Invariant) Invariant

namespace Steps

variable {Invariant : Daemon N R Tag → Prop}
  {InFlight : SocketAddr → Tag → Daemon N R Tag → Prop}

theorem startsUp (hsteps : Steps Invariant InFlight) :
    StartsUp (fun _ => True) Invariant :=
  .of_keeps hsteps.bind hsteps.logEvent hsteps.preflight

theorem pollUdp (hsteps : Steps Invariant InFlight)
    (config : Config) (port : UInt16) :
    Keeps Invariant (Daemon.pollUdp config port : DaemonM N R Tag Unit) :=
  triple_pollUdp (fun _ hinvariant => hinvariant) (hsteps.recvUdp port _)
    fun addr _ tag => hsteps.processPacket addr _ _ _ tag

theorem pollIcmp (hsteps : Steps Invariant InFlight)
    (config : Config) :
    Keeps Invariant (Daemon.pollIcmp config : DaemonM N R Tag Unit) :=
  triple_pollIcmp (fun _ hinvariant => hinvariant) hsteps.recvIcmp
    fun addr _ tag => hsteps.processPacket addr _ _ _ tag

end Steps

/-- The steps of a pass keep `Invariant`, and `Failed` holds where one of them
fails.  `InFlight` holds while the packet has been taken and not yet processed,
and `Linked` holds of the pending connections. -/
structure Polls (sockets : Sockets) (Invariant Failed : Daemon N R Tag → Prop)
    (InFlight : SocketAddr → Protocol → Option UInt16 → ℕ → Tag →
      Daemon N R Tag → Prop)
    (Linked : PendingTcp Stream → Prop) : Prop where
  failed : ∀ daemon, Invariant daemon → Failed daemon
  now : Triple Invariant (onNetwork Streams.now) (fun _ => Invariant) Failed
  setNonblocking : ∀ stream, Triple Invariant
    (onNetwork (Network.setNonblocking stream)) (fun _ => Invariant) Failed
  accept : ∀ port ∈ sockets.tcp,
    Triple Invariant (onNetwork (Network.accept port))
      (fun result daemon => Invariant daemon ∧ ∀ stream addr,
        result = .ok (stream, addr) →
          ∀ deadline, Linked { port, stream, addr, deadline }) Failed
  recvUdp : ∀ port ∈ sockets.udp, ∀ length,
    Triple Invariant (onNetwork (Network.recvUdp port length))
      (fun result daemon => match result with
        | .ok datagram => InFlight datagram.addr .udp (some port) datagram.size
            datagram.tag daemon
        | .error _ => Invariant daemon) Failed
  recvIcmp : sockets.icmp = true → ∀ length,
    Triple Invariant (onNetwork (Network.recvIcmp length))
      (fun result daemon => match result with
        | .ok datagram => (datagram.addr = none → Invariant daemon) ∧
            ∀ addr, datagram.addr = some addr →
              InFlight addr .icmp none (datagram.size - icmpHeaderLen)
                datagram.tag daemon
        | .error _ => Invariant daemon) Failed
  read : ∀ connection length, Linked connection →
    Triple Invariant (onNetwork (Streams.read connection.stream length))
      (fun result daemon => match result with
        | .ok received => InFlight connection.addr .tcp (some connection.port)
            received.1 received.2 daemon
        | .error _ => Invariant daemon) Failed
  close_inFlight : ∀ connection addr protocol port size tag,
    Triple (InFlight addr protocol port size tag) (close connection)
      (fun _ => InFlight addr protocol port size tag) Failed
  close : ∀ connection,
    Triple Invariant (close connection) (fun _ => Invariant) Failed
  processPacket : ∀ addr protocol port size tag,
    Triple (InFlight addr protocol port size tag)
      (processPacket addr protocol port size tag) (fun _ => Invariant) Failed

/-- The invariant holds and the pending connections are linked. -/
def Pending (Invariant : Daemon N R Tag → Prop)
    (Linked : PendingTcp Stream → Prop) (pending : List (PendingTcp Stream))
    (daemon : Daemon N R Tag) : Prop :=
  Invariant daemon ∧ ∀ connection ∈ pending, Linked connection

namespace Polls

variable {sockets : Sockets} {Invariant Failed : Daemon N R Tag → Prop}
  {InFlight : SocketAddr → Protocol → Option UInt16 → ℕ → Tag →
    Daemon N R Tag → Prop}
  {Linked : PendingTcp Stream → Prop}

theorem acceptOne (hpolls : Polls sockets Invariant Failed InFlight Linked)
    (config : Config) (now : ℕ) {port : UInt16} (hport : port ∈ sockets.tcp) :
    Triple Invariant
      (Daemon.acceptOne config now port :
        DaemonM N R Tag (Option (PendingTcp Stream)))
      (fun accepted daemon => Invariant daemon ∧
        ∀ connection ∈ accepted, Linked connection) Failed := by
  apply Triple.bind (hpolls.accept port hport)
  intro result
  cases result with
  | error error =>
      simp only
      split
      · exact Triple.pure fun _ haccepted => ⟨haccepted.1, by simp⟩
      · exact Triple.throw fun daemon haccepted =>
          hpolls.failed daemon haccepted.1
  | ok accepted =>
      obtain ⟨stream, addr⟩ := accepted
      apply Triple.assuming
      intro hlinked
      apply Triple.bind (hpolls.setNonblocking stream)
      intro configured
      have hdeadline : Triple Invariant
          (do
            let deadline ← tcpDeadline config now
            Pure.pure (some { port, stream, addr, deadline }) :
            DaemonM N R Tag (Option (PendingTcp Stream)))
          (fun accepted daemon => Invariant daemon ∧
            ∀ connection ∈ accepted, Linked connection) Failed := by
        apply Triple.bind (Triple.orThrow hpolls.failed)
        intro deadline
        apply Triple.pure
        rintro _ ⟨hinvariant, -⟩
        refine ⟨hinvariant, fun connection hconnection => ?_⟩
        rw [← Option.mem_some_iff.mp hconnection]
        exact hlinked stream addr rfl deadline
      cases configured with
      | false =>
          exact Triple.bind (Triple.throw hpolls.failed) fun _ => hdeadline
      | true => exact hdeadline

/-- Accepting links every new connection. -/
theorem acceptAll (hpolls : Polls sockets Invariant Failed InFlight Linked)
    (config : Config) (now : ℕ) {port : UInt16} (hport : port ∈ sockets.tcp)
    {pending : List (PendingTcp Stream)}
    (hpending : ∀ connection ∈ pending, Linked connection) :
    Triple Invariant
      (Daemon.acceptAll config now port pending :
        DaemonM N R Tag (List (PendingTcp Stream)))
      (Pending Invariant Linked) Failed := by
  induction hroom : config.maxPartialStates - pending.length
    generalizing pending with
  | zero =>
      rw [Daemon.acceptAll, dif_pos (by omega)]
      exact Triple.pure fun _ hinvariant => ⟨hinvariant, hpending⟩
  | succ room ih =>
      rw [Daemon.acceptAll, dif_neg (by omega)]
      apply Triple.bind (hpolls.acceptOne config now hport)
      intro accepted
      cases accepted with
      | none => exact Triple.pure fun _ haccepted => ⟨haccepted.1, hpending⟩
      | some connection =>
          apply Triple.assuming
          intro hconnection
          apply ih
          · exact List.forall_mem_append.mpr ⟨hpending,
              List.forall_mem_singleton.mpr (hconnection connection rfl)⟩
          · rw [List.length_append, List.length_singleton]
            omega

/-- Reading keeps the connections it passes linked. -/
theorem pollPending (hpolls : Polls sockets Invariant Failed InFlight Linked)
    (config : Config) (now : ℕ) (passed : List (PendingTcp Stream))
    {rest : List (PendingTcp Stream)}
    (hpassed : ∀ connection ∈ passed, Linked connection)
    (hrest : ∀ connection ∈ rest, Linked connection) :
    Triple Invariant
      (Daemon.pollPending config now (passed ++ rest) passed.length :
        DaemonM N R Tag (List (PendingTcp Stream)))
      (Pending Invariant Linked) Failed := by
  induction hlength : rest.length generalizing passed rest with
  | zero =>
      obtain rfl := List.length_eq_zero_iff.mp hlength
      rw [List.append_nil, pollPending_nil]
      exact Triple.pure fun _ hinvariant => ⟨hinvariant, hpassed⟩
  | succ length ih =>
      obtain ⟨connection, rest, rfl⟩ := List.exists_cons_of_length_eq_add_one hlength
      obtain ⟨hconnection, hrest⟩ := List.forall_mem_cons.mp hrest
      rw [pollPending_cons]
      apply Triple.bind (hpolls.read connection _ hconnection)
      intro received
      have hpromoted : ∀ other ∈ promote rest, Linked other :=
        fun other hother => hrest other ((promote_perm rest).mem_iff.mp hother)
      have hremoved := ih passed hpassed hpromoted
        ((length_promote rest).trans (Nat.succ_injective hlength))
      have hkept := ih (passed ++ [connection])
        (List.forall_mem_append.mpr ⟨hpassed,
          List.forall_mem_singleton.mpr hconnection⟩) hrest
        (Nat.succ_injective hlength)
      cases received with
      | ok received =>
          exact Triple.bind (hpolls.close_inFlight connection _ _ _ _ _)
            fun _ => Triple.bind (hpolls.processPacket _ _ _ _ _)
              fun _ => hremoved
      | error error =>
          cases hkind : error.kind with
          | wouldBlock | timedOut =>
              simp only [handleRead, readTcpKnock, hkind]
              split
              · exact Triple.bind (hpolls.close connection)
                  fun _ => hremoved
              · exact hkept
          | other name =>
              simp only [handleRead, readTcpKnock, hkind]
              exact Triple.throw hpolls.failed

theorem pass (hpolls : Polls sockets Invariant Failed InFlight Linked)
    (config : Config) (pending : List (PendingTcp Stream)) :
    Triple (Pending Invariant Linked pending)
      (Daemon.pass config sockets pending :
        DaemonM N R Tag (List (PendingTcp Stream)))
      (Pending Invariant Linked) Failed := by
  apply Triple.assuming
  intro hpending
  have hudp : ∀ port ∈ sockets.udp, Triple Invariant
      (pollUdp config port : DaemonM N R Tag Unit) (fun _ => Invariant)
      Failed :=
    fun port hport => triple_pollUdp hpolls.failed
      (hpolls.recvUdp port hport _) fun _ _ _ => hpolls.processPacket _ _ _ _ _
  apply Triple.bind (Triple.forM_of_mem hudp)
  intro _
  apply Triple.bind hpolls.now
  intro now
  have hlinked : ∀ state, Invariant state →
      Pending Invariant Linked pending state :=
    fun _ hinvariant => ⟨hinvariant, hpending⟩
  refine Triple.bind ((Triple.foldlM_of_mem pending ?_).of_imp hlinked) ?_
  · exact fun pending port hport => Triple.assuming fun hpending =>
      hpolls.acceptAll config now hport hpending
  · intro pending
    apply Triple.assuming
    intro hpending
    apply Triple.bind (hpolls.pollPending config now [] (by simp) hpending)
    intro pending
    apply Triple.assuming
    intro hpending
    have hreturn : Triple Invariant
        (Pure.pure pending : DaemonM N R Tag (List (PendingTcp Stream)))
        (Pending Invariant Linked) Failed :=
      Triple.pure fun _ hinvariant => ⟨hinvariant, hpending⟩
    split
    · next hicmp =>
        have hpoll : Triple Invariant
            (pollIcmp config : DaemonM N R Tag Unit) (fun _ => Invariant)
            Failed :=
          triple_pollIcmp hpolls.failed (hpolls.recvIcmp hicmp)
            fun _ _ _ => hpolls.processPacket _ _ _ _ _
        exact Triple.bind hpoll fun _ => hreturn
    · exact hreturn

theorem passes (hpolls : Polls sockets Invariant Failed InFlight Linked)
    (config : Config) (count : ℕ) (pending : List (PendingTcp Stream)) :
    Triple (Pending Invariant Linked pending)
      (Daemon.passes config sockets count pending :
        DaemonM N R Tag (List (PendingTcp Stream)))
      (Pending Invariant Linked) Failed := by
  induction count generalizing pending with
  | zero => exact Triple.pure fun _ hpending => hpending
  | succ count ih =>
      exact Triple.bind (hpolls.pass config pending) fun _ => ih _

end Polls

/-- The single steps keep `Invariant`; `InFlight` holds while a packet of the
given source has been taken and not yet processed, and `Linked` holds of the
pending connections. -/
structure Sustains (Invariant : Daemon N R Tag → Prop)
    (InFlight : SocketAddr → Tag → Daemon N R Tag → Prop)
    (Linked : PendingTcp Stream → Prop) : Prop where
  now : Keeps Invariant (onNetwork Streams.now)
  bind : ∀ listener, Keeps Invariant (onNetwork (Network.bind listener))
  logEvent : ∀ event message, Keeps Invariant (logEvent event message)
  preflight : Keeps Invariant preflight
  setNonblocking : ∀ stream,
    Keeps Invariant (onNetwork (Network.setNonblocking stream))
  accept : ∀ port, Triple Invariant (onNetwork (Network.accept port))
    (fun result daemon => Invariant daemon ∧ ∀ stream addr,
      result = .ok (stream, addr) →
        ∀ deadline, Linked { port, stream, addr, deadline }) Invariant
  recvUdp : ∀ port length,
    Triple Invariant (onNetwork (Network.recvUdp port length))
      (fun result daemon => match result with
        | .ok datagram => InFlight datagram.addr datagram.tag daemon
        | .error _ => Invariant daemon) Invariant
  recvIcmp : ∀ length,
    Triple Invariant (onNetwork (Network.recvIcmp length))
      (fun result daemon => match result with
        | .ok datagram => (datagram.addr = none → Invariant daemon) ∧
            ∀ addr, datagram.addr = some addr →
              InFlight addr datagram.tag daemon
        | .error _ => Invariant daemon) Invariant
  read : ∀ connection length, Linked connection →
    Triple Invariant (onNetwork (Streams.read connection.stream length))
      (fun result daemon => match result with
        | .ok received => InFlight connection.addr received.2 daemon
        | .error _ => Invariant daemon) Invariant
  close_inFlight : ∀ connection addr tag, Triple (InFlight addr tag)
    (close connection) (fun _ => InFlight addr tag) Invariant
  close : ∀ connection, Keeps Invariant (close connection)
  processPacket : ∀ addr protocol port payloadSize tag,
    Triple (InFlight addr tag)
      (processPacket addr protocol port payloadSize tag)
      (fun _ => Invariant) Invariant

namespace Sustains

variable {Invariant : Daemon N R Tag → Prop}
  {InFlight : SocketAddr → Tag → Daemon N R Tag → Prop}
  {Linked : PendingTcp Stream → Prop}

theorem startsUp (hsustains : Sustains Invariant InFlight Linked) :
    StartsUp (fun _ => True) Invariant :=
  .of_keeps hsustains.bind hsustains.logEvent hsustains.preflight

theorem polls (hsustains : Sustains Invariant InFlight Linked)
    (sockets : Sockets) :
    Polls sockets Invariant Invariant (fun addr _ _ _ tag => InFlight addr tag)
      Linked where
  failed _ hinvariant := hinvariant
  now := hsustains.now
  setNonblocking := hsustains.setNonblocking
  accept port _ := hsustains.accept port
  recvUdp port _ := hsustains.recvUdp port
  recvIcmp _ := hsustains.recvIcmp
  read := hsustains.read
  close_inFlight connection addr _ _ _ tag :=
    hsustains.close_inFlight connection addr tag
  close := hsustains.close
  processPacket := hsustains.processPacket

/-- Whatever every step keeps holds wherever the daemon stops. -/
theorem run (hsustains : Sustains Invariant InFlight Linked) (config : Config)
    (count : ℕ) {daemon : Daemon N R Tag} (hdaemon : Invariant daemon) :
    Invariant (perform (Daemon.run config count :
      DaemonM N R Tag (List (PendingTcp Stream))) daemon).2 := by
  have hrun : Triple Invariant
      (Daemon.run config count : DaemonM N R Tag (List (PendingTcp Stream)))
      (Pending Invariant Linked) Invariant := by
    apply Triple.bind (hsustains.startsUp.startUp config)
    intro sockets
    apply ((hsustains.polls sockets).passes config count []).of_imp
    exact fun _ hinvariant => ⟨hinvariant, by simp⟩
  have hended := hrun daemon hdaemon
  generalize perform (Daemon.run config count) daemon = result at hended ⊢
  obtain ⟨_ | pending, after⟩ := result
  · exact hended
  · exact hended.1

end Sustains

end Daemon

end SshKnock
