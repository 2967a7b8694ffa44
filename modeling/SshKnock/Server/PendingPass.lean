import SshKnock.Server.PollLoop

/-!
# Read failures in the pending pass

The pass over the pending connections meets each of them once.  An error kind
that the read does not absorb is passed on by the loop and ends the daemon; a
timed out read is taken for a connection without data.
-/

namespace SshKnock

open Fallible SwapRemove

namespace Daemon

section
variable {N R Stream Tag : Type} [CommandRunner R] [Streams N Stream Tag]
  {config : Config} {now : ℕ}

/-- What is done with a connection once it has been read; `removed` follows
when it leaves the list, `kept` when it stays. -/
def handleRead {α : Type} (now : ℕ) (connection : PendingTcp Stream)
    (removed kept : DaemonM N R Tag α)
    (received : Except SocketError (ℕ × Tag)) : DaemonM N R Tag α :=
  match readTcpKnock received with
  | .error error => throw (.error error.message)
  | .ok (some (size, tag)) => do
      close connection
      processPacket connection.addr .tcp (some connection.port) size tag
      removed
  | .ok none =>
      if connection.deadline ≤ now then do
        close connection
        removed
      else kept

theorem pollPending_nil (passed : List (PendingTcp Stream)) :
    (pollPending config now passed passed.length :
      DaemonM N R Tag (List (PendingTcp Stream))) = pure passed := by
  rw [pollPending, dif_neg (Nat.lt_irrefl _)]

/-- One round of the loop, with the connections already passed in front. -/
theorem pollPending_cons (passed rest : List (PendingTcp Stream))
    (connection : PendingTcp Stream) :
    (pollPending config now (passed ++ connection :: rest) passed.length :
        DaemonM N R Tag (List (PendingTcp Stream))) =
      onNetwork (Streams.read connection.stream (bufferLen config)) >>=
        handleRead now connection
          (pollPending config now (passed ++ promote rest) passed.length)
          (pollPending config now (passed ++ [connection] ++ rest)
            (passed ++ [connection]).length) := by
  have hindex : passed.length < (passed ++ connection :: rest).length := by
    rw [List.length_append, List.length_cons]
    omega
  have hget : (passed ++ connection :: rest).get ⟨passed.length, hindex⟩ =
      connection := by
    simp
  rw [pollPending, dif_pos hindex]
  simp only [hget, swapRemove_append]
  rw [List.append_cons, List.length_append, List.length_singleton]
  rfl

end

end Daemon

/-! ## Connections with a given read result -/

/-- What the clock shows at its first, second, … reading, and how often it was
read. -/
structure Script where
  clock : ℕ → ℕ
  readings : ℕ

/-- A connection carries the result of its read. -/
instance : Streams Script (Except SocketError ℕ) Unit where
  now script :=
    (script.clock script.readings,
      { script with readings := script.readings + 1 })
  read stream _ script := (stream.map fun size => (size, ()), script)
  close _ script := script

/-- What a processed packet contained. -/
def Handed.content {Tag : Type} (handed : Handed Tag) :
    SocketAddr × Protocol × Option UInt16 × ℕ :=
  (handed.arrival.addr, handed.arrival.protocol, handed.arrival.port,
    handed.arrival.payloadSize)

abbrev Connection := PendingTcp (Except SocketError ℕ)

namespace Connection

/-- The read of the connection failed. -/
def Failed (connection : Connection) : Prop :=
  ∃ error, connection.stream = .error error ∧ error.kind ≠ .wouldBlock

/-- The read of the connection does not end the loop. -/
def Absorbed (connection : Connection) : Prop :=
  ∀ error, connection.stream = .error error →
    error.kind = .wouldBlock ∨ error.kind = .timedOut

/-- The read of the connection has data, would block, or timed out with the
deadline passed. -/
def Harmless (now : ℕ) (connection : Connection) : Prop :=
  ∀ error, connection.stream = .error error →
    error.kind = .wouldBlock ∨
      error.kind = .timedOut ∧ connection.deadline ≤ now

/-- The connection has no data and its deadline has not passed. -/
def stays (now : ℕ) (connection : Connection) : Bool :=
  match connection.stream with
  | .ok _ => false
  | .error _ => now < connection.deadline

/-- What a connection that has data sends. -/
def content? (connection : Connection) :
    Option (SocketAddr × Protocol × Option UInt16 × ℕ) :=
  match connection.stream with
  | .ok size => some (connection.addr, .tcp, some connection.port, size)
  | .error _ => none

/-- The packet of a connection that has data, if the clock shows `now` when it
is processed. -/
def arrival? (now : ℕ) (connection : Connection) : Option Arrival :=
  match connection.stream with
  | .ok size =>
      some { now, addr := connection.addr, protocol := .tcp
             port := some connection.port, payloadSize := size }
  | .error _ => none

end Connection

namespace Script

/-- The packets of the connections that have data, each at its own reading of
the clock. -/
def arrivals (script : Script) : List Connection → List Arrival
  | [] => []
  | connection :: connections =>
      match connection.arrival? (script.clock script.readings) with
      | none => script.arrivals connections
      | some arrival =>
          arrival ::
            { script with readings := script.readings + 1 }.arrivals connections

theorem arrivals_data {script : Script} {connection : Connection}
    {arrival : Arrival} (connections : List Connection)
    (harrival : connection.arrival? (script.clock script.readings) =
      some arrival) :
    script.arrivals (connection :: connections) = arrival ::
      { script with readings := script.readings + 1 }.arrivals connections := by
  rw [arrivals, harrival]

theorem arrivals_error {script : Script} {connection : Connection}
    {error : SocketError} (connections : List Connection)
    (herror : connection.stream = .error error) :
    script.arrivals (connection :: connections) =
      script.arrivals connections := by
  rw [arrivals, Connection.arrival?, herror]

end Script

namespace Server

/-- No ban that these packets lead to ends at an unrepresentable time. -/
def Endures (server : Server) : List Arrival → Prop
  | [] => True
  | arrival :: arrivals =>
      (server.judge arrival).1 ≠ .abort ∧
        (server.judge arrival).2.Endures arrivals

theorem endures_reporting (server : Server) (logger : AuditLogger)
    (packetTelemetryLimiter : TokenBucketLimiter String)
    (arrivals : List Arrival) :
    (server.reporting logger packetTelemetryLimiter).Endures arrivals ↔
      server.Endures arrivals := by
  induction arrivals generalizing server with
  | nil => exact Iff.rfl
  | cons arrival arrivals ih =>
      rw [Endures, Endures, judge_reporting]
      exact and_congr Iff.rfl (ih _)

theorem SameMemory.endures {left right : Server}
    (hsame : SameMemory left right) (arrivals : List Arrival) :
    left.Endures arrivals ↔ right.Endures arrivals := by
  rw [hsame.eq_reporting, endures_reporting]

end Server

namespace Daemon

variable {R : Type} [CommandRunner R] {config : Config} {now : ℕ}

variable {removed kept : DaemonM Script R Unit (List Connection)}
  {connection : Connection} {error : SocketError}

omit [CommandRunner R] in
theorem perform_read (connection : Connection) (length : ℕ)
    (daemon : Daemon Script R Unit) :
    perform (onNetwork (Streams.read connection.stream length) :
        DaemonM Script R Unit _) daemon =
      (.ok (connection.stream.map fun size => (size, ())), daemon) := rfl

/-- A connection with data is processed and removed. -/
theorem perform_read_data {size : ℕ} (length : ℕ)
    (hdata : connection.stream = .ok size) (daemon : Daemon Script R Unit) :
    perform (onNetwork (Streams.read connection.stream length) >>=
        handleRead now connection removed kept) daemon =
      perform (processPacket connection.addr .tcp (some connection.port) size
        () >>= fun _ => removed) daemon := by
  rw [perform_bind_ok (perform_read connection length daemon), hdata]
  rfl

/-- An absorbed error is taken for a connection without data. -/
theorem perform_read_absorbed (length : ℕ)
    (herror : connection.stream = .error error)
    (habsorbed : connection.Absorbed) (daemon : Daemon Script R Unit) :
    perform (onNetwork (Streams.read connection.stream length) >>=
        handleRead now connection removed kept) daemon =
      perform (if connection.stays now then kept else removed) daemon := by
  have hread : (readTcpKnock (.error error) :
      Except SocketError (Option (ℕ × Unit))) = .ok none := by
    rcases habsorbed error herror with hkind | hkind <;>
      simp only [readTcpKnock, hkind]
  have hstays : connection.stays now = decide (now < connection.deadline) := by
    rw [Connection.stays, herror]
  rw [perform_bind_ok (perform_read connection length daemon), herror]
  simp only [Except.map, handleRead, hread, hstays, decide_eq_true_eq]
  by_cases hexpired : connection.deadline ≤ now
  · rw [if_pos hexpired, if_neg (Nat.not_lt.mpr hexpired)]
    rfl
  · rw [if_neg hexpired, if_pos (Nat.not_le.mp hexpired)]

/-- Any other error ends the daemon. -/
theorem perform_read_fatal (length : ℕ)
    (herror : connection.stream = .error error)
    (hfatal : ¬connection.Absorbed) (daemon : Daemon Script R Unit) :
    perform (onNetwork (Streams.read connection.stream length) >>=
        handleRead now connection removed kept) daemon =
      (.error (.error error.message), daemon) := by
  have hread : (readTcpKnock (.error error) :
      Except SocketError (Option (ℕ × Unit))) = .error error := by
    cases hkind : error.kind with
    | wouldBlock | timedOut =>
        exact absurd (fun other hother => by
          rw [herror] at hother
          cases hother
          simp [hkind]) hfatal
    | other name => simp only [readTcpKnock, hkind]
  rw [perform_bind_ok (perform_read connection length daemon), herror]
  simp only [Except.map, handleRead, hread]
  rfl

/-- The loop over the connections in the order in which it meets them;
`passed` are those that stay pending. -/
def walk (config : Config) (now : ℕ) (passed : List Connection) :
    List Connection → DaemonM Script R Unit (List Connection)
  | [] => pure passed
  | connection :: connections =>
      onNetwork (Streams.read connection.stream (bufferLen config)) >>=
        handleRead now connection (walk config now passed connections)
          (walk config now (passed ++ [connection]) connections)

/-- The index loop walks the connections in the order of `visits`. -/
theorem perform_pollPending (passed rest : List Connection)
    (daemon : Daemon Script R Unit) :
    perform (pollPending config now (passed ++ rest) passed.length) daemon =
      perform (walk config now passed
        (visits (Connection.stays now) rest)) daemon := by
  induction rest using visits.induct (Connection.stays now)
    generalizing passed daemon with
  | case1 => rw [List.append_nil, pollPending_nil, visits, walk]
  | case2 connection rest ih =>
      rw [pollPending_cons, visits_cons, walk]
      cases hstream : connection.stream with
      | ok size =>
          have hstays : connection.stays now = false := by
            rw [Connection.stays, hstream]
          simp only [hstays, Bool.false_eq_true, ↓reduceDIte, ↓reduceIte] at ih ⊢
          rw [← hstream, perform_read_data _ hstream,
            perform_read_data _ hstream, perform_bind, perform_bind]
          generalize perform (processPacket connection.addr _ _ size ())
            daemon = result
          obtain ⟨_ | value, after⟩ := result
          · rfl
          · exact ih passed after
      | error error =>
          rw [← hstream]
          by_cases habsorbed : connection.Absorbed
          · rw [perform_read_absorbed _ hstream habsorbed,
              perform_read_absorbed _ hstream habsorbed]
            cases hstays : connection.stays now with
            | true =>
                simp only [hstays, ↓reduceDIte, ↓reduceIte] at ih ⊢
                exact ih (passed ++ [connection]) daemon
            | false =>
                simp only [hstays, Bool.false_eq_true, ↓reduceDIte,
                  ↓reduceIte] at ih ⊢
                exact ih passed daemon
          · rw [perform_read_fatal _ hstream habsorbed,
              perform_read_fatal _ hstream habsorbed]

variable {daemon : Daemon Script R Unit}

/-- When nothing fails, the data of a connection is processed to the end unless
the end of a ban is not representable. -/
theorem perform_processPacket_data (hwritable : daemon.server.Writable)
    (hobliging : Server.Obliging R) {size : ℕ}
    (hdata : connection.stream = .ok size) :
    ∃ (arrival : Arrival) (after : Daemon Script R Unit),
      connection.arrival?
          (daemon.network.clock daemon.network.readings) = some arrival ∧
      perform (processPacket connection.addr .tcp (some connection.port) size
          ()) daemon =
        (if (daemon.server.judge arrival).1 = .abort then .error .aborted
          else .ok (), after) ∧
      Server.SameMemory after.server (daemon.server.judge arrival).2 ∧
      after.server.Writable ∧
      after.network =
        { daemon.network with readings := daemon.network.readings + 1 } ∧
      ∃ handed, after.handed = daemon.handed ++ [handed] ∧
        connection.content? = some handed.content := by
  let arrival : Arrival :=
    { now := daemon.network.clock daemon.network.readings
      addr := connection.addr, protocol := .tcp, port := some connection.port
      payloadSize := size }
  have hhandle := daemon.server.handle_eq daemon.runner arrival
  have hjudged : (daemon.server.judge arrival).2.Writable :=
    hwritable.judge arrival
  have hending := Server.ending_enact hjudged hobliging daemon.runner arrival
    (daemon.server.judge arrival).1
  have hsame := Server.sameMemory_enact (daemon.server.judge arrival).2
    daemon.runner arrival (daemon.server.judge arrival).1
  rw [← hhandle] at hending hsame
  refine ⟨arrival, _, ?_, Prod.ext ?_ rfl, hsame, hsame.writable hjudged, rfl,
    ⟨arrival, (), daemon.server⟩, rfl, ?_⟩
  · rw [Connection.arrival?, hdata]
  · have harrival : ({ now := (Streams.now daemon.network).1
                       addr := connection.addr, protocol := .tcp
                       port := some connection.port
                       payloadSize := size } : Arrival) = arrival := rfl
    rw [perform_processPacket]
    simp only [harrival, hending]
    by_cases habort : (daemon.server.judge arrival).1 = .abort
    · rw [if_pos habort, if_pos habort]
      rfl
    · rw [if_neg habort, if_neg habort]
      rfl
  · rw [Connection.content?, hdata]
    rfl

/-- A walk over absorbed reads processes all data, in order. -/
theorem perform_walk_of_absorbed (config : Config) (now : ℕ)
    (hwritable : daemon.server.Writable) (hobliging : Server.Obliging R)
    (passed : List Connection) {connections : List Connection}
    (habsorbed : ∀ connection ∈ connections, connection.Absorbed)
    (hendures : daemon.server.Endures (daemon.network.arrivals connections)) :
    ∃ (after : Daemon Script R Unit) (handed : List (Handed Unit)),
      perform (walk config now passed connections) daemon =
          (.ok (passed ++ connections.filter (Connection.stays now)), after) ∧
        after.handed = daemon.handed ++ handed ∧
        handed.map Handed.content =
          connections.filterMap Connection.content? := by
  induction connections generalizing passed daemon with
  | nil => exact ⟨daemon, [], by simp [walk]⟩
  | cons connection connections ih =>
      obtain ⟨hfirst, hrest⟩ := List.forall_mem_cons.mp habsorbed
      rw [walk]
      cases hstream : connection.stream with
      | ok size =>
          obtain ⟨arrival, next, harrival, hperform, hsame, hnext, hnetwork,
            first, hfirstHanded, hcontent⟩ :=
            perform_processPacket_data hwritable hobliging hstream
          have hstays : connection.stays now = false := by
            rw [Connection.stays, hstream]
          rw [Script.arrivals_data connections harrival] at hendures
          obtain ⟨hended, hendures⟩ := hendures
          rw [← hsame.endures, ← hnetwork] at hendures
          obtain ⟨after, handed, hwalk, hhanded, hcontents⟩ :=
            ih hnext passed hrest hendures
          rw [if_neg hended] at hperform
          refine ⟨after, first :: handed, ?_, ?_, ?_⟩
          · rw [← hstream, perform_read_data _ hstream,
              perform_bind_ok hperform, hwalk,
              List.filter_cons_of_neg (by simp [hstays])]
          · rw [hhanded, hfirstHanded, List.append_assoc]
            rfl
          · rw [List.map_cons, hcontents, List.filterMap_cons, hcontent]
      | error error =>
          have hcontent : connection.content? = none := by
            rw [Connection.content?, hstream]
          rw [Script.arrivals_error connections hstream] at hendures
          rw [← hstream, perform_read_absorbed _ hstream hfirst,
            List.filterMap_cons, hcontent]
          cases hstays : connection.stays now with
          | true =>
              rw [if_pos rfl, List.filter_cons_of_pos hstays]
              obtain ⟨after, handed, hwalk, hrecord⟩ :=
                ih hwritable (passed ++ [connection]) hrest hendures
              rw [List.append_assoc] at hwalk
              exact ⟨after, handed, hwalk, hrecord⟩
          | false =>
              rw [if_neg Bool.false_ne_true,
                List.filter_cons_of_neg (by simp [hstays])]
              exact ih hwritable passed hrest hendures

/-- A walk that returns has absorbed every read. -/
theorem absorbed_of_walk (hwritable : daemon.server.Writable)
    (hobliging : Server.Obliging R) {passed kept : List Connection}
    {connections : List Connection}
    (hreturned : (perform (walk config now passed connections) daemon).1 =
      .ok kept) :
    (∀ connection ∈ connections, connection.Absorbed) ∧
      daemon.server.Endures (daemon.network.arrivals connections) := by
  induction connections generalizing passed daemon with
  | nil => exact ⟨by simp, trivial⟩
  | cons connection connections ih =>
      rw [walk] at hreturned
      cases hstream : connection.stream with
      | ok size =>
          obtain ⟨arrival, next, harrival, hperform, hsame, hnext, hnetwork,
            -⟩ := perform_processPacket_data hwritable hobliging hstream
          rw [perform_read_data _ hstream] at hreturned
          rw [Script.arrivals_data connections harrival]
          by_cases hended : (daemon.server.judge arrival).1 = .abort
          · rw [if_pos hended] at hperform
            rw [perform_bind_error hperform] at hreturned
            cases hreturned
          · rw [if_neg hended] at hperform
            rw [perform_bind_ok hperform] at hreturned
            obtain ⟨habsorbed, hendures⟩ := ih hnext hreturned
            rw [hsame.endures, hnetwork] at hendures
            refine ⟨List.forall_mem_cons.mpr ⟨?_, habsorbed⟩, hended, hendures⟩
            intro error herror
            rw [hstream] at herror
            cases herror
      | error error =>
          rw [Script.arrivals_error connections hstream]
          by_cases habsorbed : connection.Absorbed
          · rw [perform_read_absorbed _ hstream habsorbed] at hreturned
            have hrest : (∀ connection ∈ connections, connection.Absorbed) ∧
                daemon.server.Endures
                  (daemon.network.arrivals connections) := by
              cases hstays : connection.stays now with
              | true =>
                  rw [hstays, if_pos rfl] at hreturned
                  exact ih hwritable hreturned
              | false =>
                  rw [hstays, if_neg Bool.false_ne_true] at hreturned
                  exact ih hwritable hreturned
            exact ⟨List.forall_mem_cons.mpr ⟨habsorbed, hrest.1⟩, hrest.2⟩
          · rw [perform_read_fatal _ hstream habsorbed] at hreturned
            cases hreturned

/-- The pass returns, drops every connection whose read failed and processes
the data of every other connection, once each. -/
def Completes (pending : List Connection) (daemon : Daemon Script R Unit)
    (result : Except Ending (List Connection) × Daemon Script R Unit) : Prop :=
  ∃ kept handed, result.1 = .ok kept ∧
    (∀ connection ∈ kept, connection ∈ pending ∧ ¬connection.Failed) ∧
    result.2.handed = daemon.handed ++ handed ∧
    (handed.map Handed.content).Perm (pending.filterMap Connection.content?)

/-- When nothing else fails, the pass completes exactly when every read has
data, would block, or timed out with the deadline passed, and no ban in it ends
at an unrepresentable time. -/
theorem completes_iff (config : Config) (now : ℕ) (pending : List Connection)
    (daemon : Daemon Script R Unit) (hwritable : daemon.server.Writable)
    (hobliging : Server.Obliging R) :
    Completes pending daemon
        (perform (pollPending config now pending 0) daemon) ↔
      (∀ connection ∈ pending, connection.Harmless now) ∧
        daemon.server.Endures (daemon.network.arrivals
          (visits (Connection.stays now) pending)) := by
  have hvisits := visits_perm (Connection.stays now) pending
  have hwalk : perform (pollPending config now pending 0) daemon =
      perform (walk config now [] (visits (Connection.stays now) pending))
        daemon := perform_pollPending [] pending daemon
  rw [hwalk]
  constructor
  · rintro ⟨kept, handed, hreturned, hkept, -⟩
    obtain ⟨habsorbed, hendures⟩ :=
      absorbed_of_walk hwritable hobliging hreturned
    obtain ⟨after, -, hperform, -⟩ := perform_walk_of_absorbed config now
      hwritable hobliging [] habsorbed hendures
    rw [hperform, List.nil_append, Except.ok.injEq] at hreturned
    refine ⟨fun connection hmem error herror => ?_, hendures⟩
    have hvisited := hvisits.mem_iff.mpr hmem
    refine (habsorbed connection hvisited error herror).imp_right ?_
    intro htimedOut
    refine ⟨htimedOut, Nat.not_lt.mp fun hwaiting => ?_⟩
    have hstays : connection.stays now = true := by
      rw [Connection.stays, herror]
      exact decide_eq_true hwaiting
    exact (hkept connection (hreturned ▸ List.mem_filter.mpr
      ⟨hvisited, hstays⟩)).2 ⟨error, herror, by simp [htimedOut]⟩
  · rintro ⟨hharmless, hendures⟩
    obtain ⟨after, handed, hperform, hhanded, hcontents⟩ :=
      perform_walk_of_absorbed config now hwritable hobliging []
        (fun connection hmem error herror =>
          (hharmless connection (hvisits.mem_iff.mp hmem) error herror).imp_right
            And.left) hendures
    refine ⟨_, handed, congrArg Prod.fst hperform, ?_, ?_, ?_⟩
    · intro connection hmem
      rw [List.nil_append, List.mem_filter] at hmem
      have hpending := hvisits.mem_iff.mp hmem.1
      refine ⟨hpending, ?_⟩
      rintro ⟨error, herror, hfailed⟩
      have hstays := hmem.2
      rw [Connection.stays, herror, decide_eq_true_eq] at hstays
      obtain ⟨-, hexpired⟩ :=
        (hharmless connection hpending error herror).resolve_left hfailed
      exact Nat.not_le.mpr hstays hexpired
    · rw [hperform, hhanded]
    · rw [hcontents]
      exact hvisits.filterMap _

/-! ## A connection reset -/

/-- A runner on which every command succeeds. -/
structure WillingRunner where
  commands : List CommandSpec

instance : CommandRunner WillingRunner where
  runStatus spec := ExceptT.mk fun runner =>
    (.ok { success := true, code := some 0, diagnostics := "" },
      { commands := runner.commands ++ [spec] })

/-- A daemon that has just started, and a clock that moves a nanosecond with
every reading. -/
def idleDaemon : Daemon Script WillingRunner Unit :=
  { server := Server.started testConfig .writable
    network := { clock := fun reading => reading, readings := 0 }
    runner := { commands := [] }, handed := [] }

/-- A connection to the first port of the test configuration. -/
def testConnection (host : UInt8) (read : Except SocketError ℕ) : Connection :=
  { port := 7001, stream := read
    addr := ⟨KnockTracker.testSource host, 12345⟩
    deadline := Duration.fromSecs 10 }

/-- One client resets its connection, another one knocks. -/
def resetAndKnock : List Connection :=
  [testConnection 10 (.error ⟨.other "connection reset",
      "Connection reset by peer (os error 104)"⟩),
    testConnection 20 (.ok 1)]

/-- The reset ends the daemon before the other client's knock is processed. -/
theorem reset_ends_daemon :
    (perform (pollPending testConfig.toConfig 0 resetAndKnock 0)
        idleDaemon).1 =
        .error (.error "Connection reset by peer (os error 104)") ∧
      (perform (pollPending testConfig.toConfig 0 resetAndKnock 0)
        idleDaemon).2.handed = [] ∧
      ¬Completes resetAndKnock idleDaemon
        (perform (pollPending testConfig.toConfig 0 resetAndKnock 0)
          idleDaemon) := by
  have hfatal : ¬(testConnection 10 (.error ⟨.other "connection reset",
      "Connection reset by peer (os error 104)"⟩)).Absorbed := by
    intro habsorbed
    simpa using habsorbed _ rfl
  have hended : perform (pollPending testConfig.toConfig 0 resetAndKnock 0)
      idleDaemon =
        (.error (.error "Connection reset by peer (os error 104)"),
          idleDaemon) := by
    exact (congrArg (perform · idleDaemon)
      (pollPending_cons [] [testConnection 20 (.ok 1)] _)).trans
      (perform_read_fatal _ rfl hfatal idleDaemon)
  refine ⟨congrArg Prod.fst hended, ?_, ?_⟩
  · rw [hended]
    rfl
  · rintro ⟨kept, handed, hreturned, -⟩
    rw [hended] at hreturned
    cases hreturned

/-- One client sends nothing, another one knocks. -/
def idleAndKnock : List Connection :=
  [testConnection 10 (.error ⟨.wouldBlock, ""⟩), testConnection 20 (.ok 1)]

theorem completes_with_idle_client :
    Completes idleAndKnock idleDaemon
      (perform (pollPending testConfig.toConfig 0 idleAndKnock 0)
        idleDaemon) := by
  have hvisits : visits (Connection.stays 0) idleAndKnock = idleAndKnock := by
    rw [idleAndKnock, visits_cons, if_pos (by decide), visits_cons,
      if_neg (by decide), promote_nil, visits]
  refine (completes_iff testConfig.toConfig 0 idleAndKnock idleDaemon
    (fun _ => rfl) (fun _ _ => rfl)).mpr ⟨?_, ?_⟩
  · intro connection hconnection error herror
    cases hconnection with
    | head =>
        cases herror
        exact Or.inl rfl
    | tail _ hconnection =>
        cases List.mem_singleton.mp hconnection
        cases herror
  · rw [hvisits]
    exact ⟨by decide +kernel, trivial⟩

end Daemon

end SshKnock
