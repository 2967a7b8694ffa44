import SshKnock.Server.LoopRule

/-!
# Every pending connection is handled once

The read phase walks the pending connections by index and removes some of them
on the way.  It does what a plain loop does that takes the connections in the
order of `visits`: each of them is read once, data is processed once, and what
stays pending is what has neither data nor reached its deadline.
-/

namespace SshKnock

open Fallible SwapRemove

/-- A network that keeps a record of the streams that were read. -/
structure Recorded (N Stream : Type) where
  network : N
  reads : List Stream

instance {N Stream Tag : Type} [Streams N Stream Tag] :
    Streams (Recorded N Stream) Stream Tag where
  now recorded :=
    let (now, network) := Streams.now recorded.network
    (now, { recorded with network })
  read stream length recorded :=
    let (received, network) := Streams.read stream length recorded.network
    (received, { network, reads := recorded.reads ++ [stream] })
  close stream recorded :=
    { recorded with network := Streams.close stream recorded.network }

namespace PendingTcp

variable {Stream Tag : Type}

/-- The packet of a connection that has data: its own address and port, and the
size that was read. -/
def content? (received : Stream → Option (ℕ × Tag))
    (connection : PendingTcp Stream) :
    Option (SocketAddr × Protocol × Option UInt16 × ℕ) :=
  (received connection.stream).map fun data =>
    (connection.addr, .tcp, some connection.port, data.1)

/-- The connection has no data and its deadline has not passed. -/
def remains (received : Stream → Option (ℕ × Tag)) (now : ℕ)
    (connection : PendingTcp Stream) : Bool :=
  (received connection.stream).isNone && now < connection.deadline

end PendingTcp

namespace Daemon

section
variable {N R Stream Tag : Type}

/-- A read of each of these connections gets the data assigned to its stream, or
would block where none is assigned. -/
def Reports (N : Type) [Streams N Stream Tag] (config : Config)
    (received : Stream → Option (ℕ × Tag))
    (pending : List (PendingTcp Stream)) : Prop :=
  ∀ connection ∈ pending, ∀ network : N,
    readTcpKnock
        (Streams.read connection.stream (bufferLen config) network).1 =
      .ok (received connection.stream)

theorem perform_onNetwork_bind {α β : Type} (poll : N → α × N)
    (next : α → DaemonM N R Tag β) (daemon : Daemon N R Tag) :
    perform (onNetwork poll >>= next) daemon =
      perform (next (poll daemon.network).1)
        { daemon with network := (poll daemon.network).2 } :=
  perform_bind_ok rfl

variable [CommandRunner R] [Streams N Stream Tag] {config : Config} {now : ℕ}
  {received : Stream → Option (ℕ × Tag)} {connection : PendingTcp Stream}
  {pending : List (PendingTcp Stream)}

/-- What is done with one connection. -/
def handleConnection (config : Config) (now : ℕ)
    (received : Stream → Option (ℕ × Tag)) (connection : PendingTcp Stream) :
    DaemonM N R Tag Unit := do
  let _ ← onNetwork (Streams.read connection.stream (bufferLen config))
  match received connection.stream with
  | some (size, tag) => do
      close connection
      processPacket connection.addr .tcp (some connection.port) size tag
  | none => if connection.deadline ≤ now then close connection else pure ()

/-- One round of the loop handles its connection and goes on. -/
theorem read_bind_handleRead
    (hreports : Reports N config received [connection])
    (removed kept : DaemonM N R Tag (List (PendingTcp Stream))) :
    onNetwork (Streams.read connection.stream (bufferLen config)) >>=
        handleRead now connection removed kept =
      handleConnection config now received connection >>= fun _ =>
        if connection.remains received now then kept else removed := by
  funext daemon
  change perform _ daemon = perform _ daemon
  have hreport := hreports connection List.mem_cons_self daemon.network
  rw [handleConnection, bind_assoc, perform_onNetwork_bind,
    perform_onNetwork_bind, handleRead, hreport]
  cases hreceived : received connection.stream with
  | some data =>
      have hremains : connection.remains received now = false := by
        rw [PendingTcp.remains, hreceived]
        rfl
      simp only [hremains, bind_assoc, Bool.false_eq_true, if_false]
  | none =>
      have hremains : connection.remains received now =
          decide (now < connection.deadline) := by
        rw [PendingTcp.remains, hreceived]
        rfl
      simp only [hremains, decide_eq_true_eq]
      by_cases hexpired : connection.deadline ≤ now
      · simp only [if_pos hexpired, if_neg (Nat.not_lt.mpr hexpired)]
      · simp only [if_neg hexpired, if_pos (Nat.not_le.mp hexpired), pure_bind]

/-- The index loop is a plain loop over the connections in the order of
`visits`. -/
theorem pollPending_eq (passed : List (PendingTcp Stream))
    {rest : List (PendingTcp Stream)}
    (hreports : Reports N config received rest) :
    (pollPending config now (passed ++ rest) passed.length :
        DaemonM N R Tag (List (PendingTcp Stream))) =
      (do
        (visits (PendingTcp.remains received now) rest).forM
          (handleConnection config now received)
        pure (passed ++ (visits (PendingTcp.remains received now) rest).filter
          (PendingTcp.remains received now))) := by
  induction rest using visits.induct (PendingTcp.remains received now)
    generalizing passed with
  | case1 =>
      rw [List.append_nil, pollPending_nil, visits, List.filter_nil,
        List.append_nil]
      rfl
  | case2 connection rest ih =>
      obtain ⟨hconnection, hrest⟩ := List.forall_mem_cons.mp hreports
      have hpromoted : Reports N config received (promote rest) :=
        fun other hother => hrest other ((promote_perm rest).mem_iff.mp hother)
      have hforM : ∀ connections,
          (connection :: connections).forM
              (handleConnection config now received :
                PendingTcp Stream → DaemonM N R Tag Unit) =
            handleConnection config now received connection >>= fun _ =>
              connections.forM (handleConnection config now received) :=
        fun _ => rfl
      rw [pollPending_cons,
        read_bind_handleRead (List.forall_mem_singleton.mpr hconnection),
        visits_cons, hforM, bind_assoc]
      apply bind_congr
      intro _
      cases hremains : connection.remains received now with
      | true =>
          simp only [hremains, if_true, ↓reduceDIte] at ih ⊢
          rw [ih (passed ++ [connection]) hrest,
            List.filter_cons_of_pos hremains, ← List.append_cons]
      | false =>
          simp only [hremains, Bool.false_eq_true, if_false,
            ↓reduceDIte] at ih ⊢
          rw [ih passed hpromoted,
            List.filter_cons_of_neg (Bool.eq_false_iff.mp hremains)]

theorem pollPending_zero (hreports : Reports N config received pending) :
    (pollPending config now pending 0 :
        DaemonM N R Tag (List (PendingTcp Stream))) =
      (do
        (visits (PendingTcp.remains received now) pending).forM
          (handleConnection config now received)
        pure ((visits (PendingTcp.remains received now) pending).filter
          (PendingTcp.remains received now))) :=
  pollPending_eq [] hreports

theorem handed_processPacket (addr : SocketAddr) (protocol : Protocol)
    (port : Option UInt16) (payloadSize : ℕ) (tag : Tag)
    (daemon : Daemon N R Tag) :
    ∃ handed, (perform (processPacket addr protocol port payloadSize tag)
        daemon).2.handed = daemon.handed ++ [handed] ∧
      handed.content = (addr, protocol, port, payloadSize) ∧
      handed.tag = tag :=
  ⟨_, rfl, rfl, rfl⟩

/-- Since `before`, the data of the connections `done` has been processed, in
this order and nothing else. -/
def Processed (received : Stream → Option (ℕ × Tag))
    (before : Daemon N R Tag) (done : List (PendingTcp Stream))
    (daemon : Daemon N R Tag) : Prop :=
  ∃ handed, daemon.handed = before.handed ++ handed ∧
    handed.map Handed.content = done.filterMap (PendingTcp.content? received)

theorem processed_handleConnection (before : Daemon N R Tag)
    (done : List (PendingTcp Stream)) (connection : PendingTcp Stream) :
    Triple (Processed received before done)
      (handleConnection config now received connection)
      (fun _ => Processed received before (done ++ [connection]))
      (fun _ => True) := by
  have hnetwork : ∀ {α : Type} (poll : N → α × N),
      Triple (Processed received before done)
        (onNetwork poll : DaemonM N R Tag α)
        (fun _ => Processed received before done) (fun _ => True) :=
    fun _ _ hprocessed => hprocessed
  have hdone : ∀ daemon : Daemon N R Tag,
      received connection.stream = none →
      Processed received before done daemon →
        Processed received before (done ++ [connection]) daemon := by
    rintro daemon hreceived ⟨handed, hhanded, hcontents⟩
    refine ⟨handed, hhanded, ?_⟩
    rw [hcontents, List.filterMap_append, List.filterMap_cons,
      PendingTcp.content?, hreceived]
    simp
  apply Triple.bind (hnetwork _)
  intro _
  cases hreceived : received connection.stream with
  | none =>
      simp only
      split
      · exact Triple.imp_returned (hnetwork _)
          fun _ daemon => hdone daemon hreceived
      · exact Triple.pure fun daemon => hdone daemon hreceived
  | some data =>
      have hcontent : PendingTcp.content? received connection =
          some (connection.addr, .tcp, some connection.port, data.1) := by
        rw [PendingTcp.content?, hreceived, Option.map_some]
      apply Triple.bind (hnetwork _)
      intro _
      have hprocessed : Triple (Processed received before done)
          (processPacket connection.addr .tcp (some connection.port) data.1
            data.2)
          (fun _ => Processed received before (done ++ [connection]))
          (Processed received before (done ++ [connection])) := by
        apply Triple.of_perform
        rintro daemon ⟨handed, hhanded, hcontents⟩
        obtain ⟨last, hlast, hlastContent, -⟩ := handed_processPacket
          connection.addr .tcp (some connection.port) data.1 data.2 daemon
        refine ⟨handed ++ [last], ?_, ?_⟩
        · rw [hlast, hhanded, List.append_assoc]
        · rw [List.map_append, hcontents, List.filterMap_append,
            List.filterMap_cons, hcontent, List.map_singleton, hlastContent]
          rfl
      exact Triple.imp_failed hprocessed fun _ _ => trivial

/-- A connection is not handled to the end only when its data is not processed
to the end. -/
theorem error_handleConnection {reached after : Daemon N R Tag}
    {ending : Ending}
    (hfailed : perform (handleConnection config now received connection)
      reached = (.error ending, after)) :
    ∃ size tag before, received connection.stream = some (size, tag) ∧
      perform (processPacket connection.addr .tcp (some connection.port) size
        tag) before = (.error ending, after) := by
  rw [handleConnection, perform_onNetwork_bind] at hfailed
  cases hreceived : received connection.stream with
  | none =>
      simp only [hreceived] at hfailed
      split at hfailed <;> cases hfailed
  | some data =>
      simp only [hreceived] at hfailed
      rw [close, perform_onNetwork_bind] at hfailed
      exact ⟨data.1, data.2, _, rfl, hfailed⟩

/-- The phase ended because the data of a connection was not processed to the
end. -/
def ProcessingFailed (received : Stream → Option (ℕ × Tag))
    (pending : List (PendingTcp Stream)) (ending : Ending)
    (after : Daemon N R Tag) : Prop :=
  ∃ connection ∈ pending, ∃ size tag before,
    received connection.stream = some (size, tag) ∧
      perform (processPacket connection.addr .tcp (some connection.port) size
        tag) before = (.error ending, after)

/-- A read phase that returns has established of all connections, in the order
of `visits`, what each of them adds. -/
theorem pollPending_establishes (config : Config) (now : ℕ)
    (hreports : Reports N config received pending)
    {Done : List (PendingTcp Stream) → Daemon N R Tag → Prop}
    (hround : ∀ done connection, Triple (Done done)
      (handleConnection config now received connection)
      (fun _ => Done (done ++ [connection])) (fun _ => True)) :
    Triple (Done []) (pollPending config now pending 0)
      (fun kept daemon =>
        kept = (visits (PendingTcp.remains received now) pending).filter
            (PendingTcp.remains received now) ∧
          Done (visits (PendingTcp.remains received now) pending) daemon)
      (fun _ => True) := by
  rw [pollPending_zero hreports]
  apply Triple.bind (Triple.forM [] _ fun done connection _ =>
    hround done connection)
  intro _
  exact Triple.pure fun _ hdone => ⟨rfl, hdone⟩

theorem processingFailed_of_error
    (hreports : Reports N config received pending)
    {daemon after : Daemon N R Tag} {ending : Ending}
    (hended : perform (pollPending config now pending 0) daemon =
      (.error ending, after)) :
    ProcessingFailed received pending ending after := by
  rw [pollPending_zero hreports, perform_bind] at hended
  generalize hforM : perform ((visits (PendingTcp.remains received now)
    pending).forM (handleConnection config now received)) daemon = result
    at hended
  obtain ⟨_ | value, reached⟩ := result
  · obtain ⟨connection, hmem, before, hfailed⟩ := exists_of_forM_error hforM
    obtain ⟨hending, rfl⟩ := Prod.mk.inj hended
    cases hending
    exact ⟨connection, (visits_perm _ pending).mem_iff.mp hmem,
      error_handleConnection hfailed⟩
  · cases hended

/-! ## What was read -/

theorem reads_handleConnection (before : List Stream)
    (done : List (PendingTcp Stream)) (connection : PendingTcp Stream) :
    Triple (fun daemon => daemon.network.reads =
        before ++ done.map PendingTcp.stream)
      (handleConnection config now received connection :
        DaemonM (Recorded N Stream) R Tag Unit)
      (fun _ daemon => daemon.network.reads =
        before ++ (done ++ [connection]).map PendingTcp.stream)
      (fun _ => True) := by
  have hkept : ∀ {α : Type} (reads : List Stream)
      {command : DaemonM (Recorded N Stream) R Tag α},
      (∀ daemon, (perform command daemon).2.network.reads =
        daemon.network.reads) →
      Triple (fun daemon => daemon.network.reads = reads) command
        (fun _ daemon => daemon.network.reads = reads) (fun _ => True) :=
    fun reads command hcommand => Triple.imp_failed
      (Triple.of_perform fun daemon hreads => (hcommand daemon).trans hreads)
      fun _ _ => trivial
  have hread : Triple
      (fun daemon => daemon.network.reads =
        before ++ done.map PendingTcp.stream)
      (onNetwork (Streams.read connection.stream (bufferLen config)) :
        DaemonM (Recorded N Stream) R Tag _)
      (fun _ daemon => daemon.network.reads =
        before ++ (done ++ [connection]).map PendingTcp.stream)
      (fun _ => True) := by
    intro daemon hreads
    rw [List.map_append, ← List.append_assoc, ← hreads]
    rfl
  apply Triple.bind hread
  intro _
  split
  · apply Triple.bind (hkept _ fun _ => rfl)
    exact fun _ => hkept _ fun _ => rfl
  · split
    · exact hkept _ fun _ => rfl
    · exact hkept _ fun _ => rfl

/-- What a read phase that returns has done with the pending connections. -/
structure HandlesEach (received : Stream → Option (ℕ × Tag)) (now : ℕ)
    (pending kept : List (PendingTcp Stream))
    (before after : Daemon (Recorded N Stream) R Tag) : Prop where
  reads_each_once : ∃ reads,
    after.network.reads = before.network.reads ++ reads ∧
      reads.Perm (pending.map PendingTcp.stream)
  processes_data_once : ∃ handed, after.handed = before.handed ++ handed ∧
    (handed.map Handed.content).Perm
      (pending.filterMap (PendingTcp.content? received))
  keeps_the_others :
    kept.Perm (pending.filter (PendingTcp.remains received now))

/-- The read phase has handled each pending connection or has met a failure to
process data. -/
def HandlesUnlessFailed (received : Stream → Option (ℕ × Tag)) (now : ℕ)
    (pending : List (PendingTcp Stream))
    (before : Daemon (Recorded N Stream) R Tag) :
    Except Ending (List (PendingTcp Stream)) ×
      Daemon (Recorded N Stream) R Tag → Prop
  | (.ok kept, after) => HandlesEach received now pending kept before after
  | (.error ending, after) => ProcessingFailed received pending ending after

theorem handles_pollPending (config : Config) (now : ℕ)
    (hreports : Reports N config received pending)
    (daemon : Daemon (Recorded N Stream) R Tag) :
    HandlesUnlessFailed received now pending daemon
      (perform (pollPending config now pending 0) daemon) := by
  have hrecorded : Reports (Recorded N Stream) config received pending :=
    fun connection hmem recorded => hreports connection hmem recorded.network
  have hordered := visits_perm (PendingTcp.remains received now) pending
  have hreads := pollPending_establishes config now hrecorded
    (reads_handleConnection (R := R) daemon.network.reads) daemon
    (List.append_nil _).symm
  have hprocessed := pollPending_establishes config now hrecorded
    (processed_handleConnection daemon) daemon ⟨[], (List.append_nil _).symm, rfl⟩
  generalize hended : perform (pollPending config now pending 0) daemon =
    result at hreads hprocessed ⊢
  obtain ⟨ending | kept, after⟩ := result
  · exact processingFailed_of_error hrecorded hended
  · obtain ⟨hkept, handed, hhanded, hcontents⟩ := hprocessed
    exact
      { reads_each_once := ⟨_, hreads.2, hordered.map _⟩
        processes_data_once :=
          ⟨handed, hhanded, hcontents ▸ hordered.filterMap _⟩
        keeps_the_others := hkept ▸ hordered.filter _ }

end

/-! ## How many connections are pending -/

section
variable {N R Stream Tag : Type} [CommandRunner R] [Network N Stream Tag]

/-- The phases of a pass that change the pending connections. -/
inductive TcpPhase where
  | accept (now : ℕ) (port : UInt16)
  | read (now : ℕ)

def tcpPhase (config : Config) (pending : List (PendingTcp Stream)) :
    TcpPhase → DaemonM N R Tag (List (PendingTcp Stream))
  | .accept now port => acceptAll config now port pending
  | .read now => pollPending config now pending 0

/-- No more connections are pending than partial states may exist. -/
def Bounded (config : Config) (pending : List (PendingTcp Stream))
    (_ : Daemon N R Tag) : Prop :=
  pending.length ≤ config.maxPartialStates

omit [CommandRunner R] [Network N Stream Tag] in
/-- Whatever a computation does, the list it started with has not grown. -/
theorem bounded_of_any {α : Type} {config : Config}
    {pending : List (PendingTcp Stream)} (command : DaemonM N R Tag α) :
    Triple (Bounded config pending) command (fun _ => Bounded config pending)
      (fun _ => True) :=
  Triple.imp_failed (Triple.of_perform fun _ hbounded => hbounded)
    fun _ _ => trivial

omit [CommandRunner R] in
theorem bounded_acceptAll (config : Config) (now : ℕ) (port : UInt16)
    (pending : List (PendingTcp Stream)) :
    Triple (Bounded config pending)
      (acceptAll config now port pending :
        DaemonM N R Tag (List (PendingTcp Stream)))
      (Bounded config) (fun _ => True) := by
  induction hroom : config.maxPartialStates - pending.length
    generalizing pending with
  | zero =>
      rw [acceptAll]
      split
      · exact Triple.pure fun _ hbounded => hbounded
      · next hfull =>
          intro daemon hbounded
          rw [Bounded] at hbounded
          omega
  | succ room ih =>
      rw [acceptAll, dif_neg (by omega)]
      apply Triple.bind (bounded_of_any _)
      intro accepted
      cases accepted with
      | none => exact Triple.pure fun _ hbounded => hbounded
      | some connection =>
          have hlonger : (pending ++ [connection]).length =
              pending.length + 1 := by
            rw [List.length_append, List.length_singleton]
          apply (ih (pending ++ [connection]) (by omega)).of_imp
          intro _ _
          rw [Bounded, hlonger]
          omega

theorem bounded_pollPending (config : Config) (now : ℕ)
    (passed rest : List (PendingTcp Stream)) :
    Triple (Bounded config (passed ++ rest))
      (pollPending config now (passed ++ rest) passed.length :
        DaemonM N R Tag (List (PendingTcp Stream)))
      (Bounded config) (fun _ => True) := by
  induction hlength : rest.length generalizing passed rest with
  | zero =>
      obtain rfl := List.length_eq_zero_iff.mp hlength
      rw [List.append_nil, pollPending_nil]
      exact Triple.pure fun _ hbounded => hbounded
  | succ length ih =>
      obtain ⟨connection, rest, rfl⟩ :=
        List.exists_cons_of_length_eq_add_one hlength
      rw [List.length_cons] at hlength
      have hremoved : Triple (Bounded config (passed ++ connection :: rest))
          (pollPending config now (passed ++ promote rest) passed.length :
            DaemonM N R Tag (List (PendingTcp Stream)))
          (Bounded config) (fun _ => True) := by
        apply (ih passed (promote rest)
          ((length_promote rest).trans (by omega))).of_imp
        intro _ hbounded
        rw [Bounded, List.length_append, List.length_cons] at hbounded
        rw [Bounded, List.length_append, length_promote]
        omega
      rw [pollPending_cons]
      apply Triple.bind (bounded_of_any _)
      intro received
      rw [handleRead]
      split
      · exact Triple.throw fun _ _ => trivial
      · apply Triple.bind (bounded_of_any _)
        intro _
        exact Triple.bind (bounded_of_any _) fun _ => hremoved
      · split
        · exact Triple.bind (bounded_of_any _) fun _ => hremoved
        · rw [List.append_cons passed connection rest]
          exact ih (passed ++ [connection]) rest (by omega)

theorem bounded_tcpPhase (config : Config)
    (pending : List (PendingTcp Stream)) (phase : TcpPhase) :
    Triple (Bounded config pending)
      (tcpPhase config pending phase :
        DaemonM N R Tag (List (PendingTcp Stream)))
      (Bounded config) (fun _ => True) := by
  cases phase with
  | accept now port => exact bounded_acceptAll config now port pending
  | read now => exact bounded_pollPending config now [] pending

theorem bounded_pass (config : Config) (sockets : Sockets)
    (pending : List (PendingTcp Stream)) :
    Triple (Bounded config pending)
      (pass config sockets pending :
        DaemonM N R Tag (List (PendingTcp Stream)))
      (Bounded config) (fun _ => True) := by
  apply Triple.bind (bounded_of_any _)
  intro _
  apply Triple.bind (bounded_of_any _)
  intro now
  apply Triple.bind (Triple.foldlM pending fun pending port =>
    bounded_acceptAll config now port pending)
  intro pending
  apply Triple.bind (bounded_pollPending config now [] pending)
  intro pending
  have hreturn : Triple (Bounded config pending)
      (Pure.pure pending : DaemonM N R Tag (List (PendingTcp Stream)))
      (Bounded config) (fun _ => True) :=
    Triple.pure fun _ hbounded => hbounded
  split
  · exact Triple.bind (bounded_of_any _) fun _ => hreturn
  · exact hreturn

theorem bounded_passes (config : Config) (sockets : Sockets) (count : ℕ)
    (pending : List (PendingTcp Stream)) :
    Triple (Bounded config pending)
      (passes config sockets count pending :
        DaemonM N R Tag (List (PendingTcp Stream)))
      (Bounded config) (fun _ => True) := by
  induction count generalizing pending with
  | zero => exact Triple.pure fun _ hbounded => hbounded
  | succ count ih =>
      exact Triple.bind (bounded_pass config sockets pending) fun _ => ih _

end

/-- A read phase whose reads have data or would block returns, unless processing
fails, and then has handled every pending connection exactly once; and no run of
accept and read phases, nor of the daemon, leaves more connections pending than
partial states may exist. -/
theorem each_connection_handled_once {R : Type} [CommandRunner R]
    (config : Config) :
    (∀ {N Stream Tag : Type} [Streams N Stream Tag]
      (received : Stream → Option (ℕ × Tag)) (now : ℕ)
      (pending : List (PendingTcp Stream))
      (daemon : Daemon (Recorded N Stream) R Tag),
      Reports N config received pending →
        HandlesUnlessFailed received now pending daemon
          (perform (pollPending config now pending 0) daemon)) ∧
      (∀ {N Stream Tag : Type} [Network N Stream Tag]
        (phases : List TcpPhase) (daemon : Daemon N R Tag)
        (pending : List (PendingTcp Stream)),
        (perform (phases.foldlM (tcpPhase config) []) daemon).1 =
            .ok pending →
          pending.length ≤ config.maxPartialStates) ∧
        ∀ {N Stream Tag : Type} [Network N Stream Tag] (count : ℕ)
          (daemon : Daemon N R Tag) (pending : List (PendingTcp Stream)),
          (perform (run config count) daemon).1 = .ok pending →
            pending.length ≤ config.maxPartialStates := by
  have hended : ∀ {N Stream Tag : Type}
      {command : DaemonM N R Tag (List (PendingTcp Stream))}
      (daemon : Daemon N R Tag) (pending : List (PendingTcp Stream)),
      Triple (Bounded config ([] : List (PendingTcp Stream))) command
        (Bounded config) (fun _ => True) →
      (perform command daemon).1 = .ok pending →
        pending.length ≤ config.maxPartialStates := by
    intro N Stream Tag command daemon pending hcommand hreturned
    have hbounded := hcommand daemon (Nat.zero_le _)
    generalize perform command daemon = result at hbounded hreturned
    obtain ⟨_ | kept, after⟩ := result
    · cases hreturned
    · obtain rfl := Except.ok.inj hreturned
      exact hbounded
  refine ⟨?_, ?_, ?_⟩
  · intro N Stream Tag _ received now pending daemon hreports
    exact handles_pollPending config now hreports daemon
  · intro N Stream Tag _ phases daemon pending
    exact hended daemon pending
      (Triple.foldlM [] fun pending phase => bounded_tcpPhase config pending phase)
  · intro N Stream Tag _ count daemon pending
    apply hended daemon pending
    exact Triple.bind (bounded_of_any _) fun sockets =>
      bounded_passes config sockets count []

/-- A connection without data between two that have some. -/
def oneIdle : List Connection :=
  [testConnection 10 (.ok 1), testConnection 20 (.error ⟨.wouldBlock, ""⟩),
    testConnection 30 (.ok 1)]

/-- An idle daemon whose reads are recorded. -/
def recordedDaemon :
    Daemon (Recorded Script (Except SocketError ℕ)) WillingRunner Unit :=
  { server := idleDaemon.server, network := ⟨idleDaemon.network, []⟩
    runner := idleDaemon.runner, handed := [] }

/-- The data that a scripted connection carries. -/
def carried (stream : Except SocketError ℕ) : Option (ℕ × Unit) :=
  stream.toOption.map fun size => (size, ())

theorem each_connection_handled_once_idle :
    HandlesUnlessFailed carried 0 oneIdle recordedDaemon
      (perform (pollPending testConfig.toConfig 0 oneIdle 0)
        recordedDaemon) := by
  apply (each_connection_handled_once testConfig.toConfig).1
  intro connection hconnection script
  simp only [oneIdle, List.mem_cons, List.not_mem_nil, or_false] at hconnection
  rcases hconnection with rfl | rfl | rfl <;> rfl

end Daemon

end SshKnock
