import Mathlib.Algebra.GroupWithZero.Nat
import Mathlib.Algebra.Order.BigOperators.Group.List
import SshKnock.Server.PollLoop

/-!
# Connections as byte streams

A payload arrives in segments, and what arrives between two reads becomes one.
The network is known only by what happens at each call to it, so that nothing
is assumed about the clients, the datagrams or the clock.
-/

namespace SshKnock

/-- Bytes that arrive at the same time. -/
structure Segment where
  tick : ℕ
  size : ℕ
  deriving DecidableEq

/-- What a client sends on its connection, and when it closes the connection,
if it does. -/
structure Transmission where
  segments : List Segment
  closed : Option ℕ
  sent_before : ∀ tick ∈ closed, ∀ segment ∈ segments, segment.tick ≤ tick

namespace Transmission

def total (transmission : Transmission) : ℕ :=
  (transmission.segments.map Segment.size).sum

def arrivedBy (transmission : Transmission) (tick : ℕ) : ℕ :=
  ((transmission.segments.filter fun segment =>
    segment.tick ≤ tick).map Segment.size).sum

def endedBy (transmission : Transmission) (tick : ℕ) : Bool :=
  transmission.closed.any fun closed => closed ≤ tick

/-- One read of at most so many bytes, after so many bytes have been taken. -/
def read (transmission : Transmission) (taken length tick : ℕ) :
    Except SocketError ℕ :=
  if taken < transmission.arrivedBy tick then
    .ok (min (transmission.arrivedBy tick - taken) length)
  else if transmission.endedBy tick then .ok 0
  else .error ⟨.wouldBlock, "Resource temporarily unavailable"⟩

/-- There is nothing to read yet. -/
def Fruitless (transmission : Transmission) (tick : ℕ) : Prop :=
  transmission.arrivedBy tick = 0 ∧ transmission.endedBy tick = false

variable {transmission : Transmission} {tick : ℕ}

theorem arrivedBy_le_total (transmission : Transmission) (tick : ℕ) :
    transmission.arrivedBy tick ≤ transmission.total :=
  (List.filter_sublist.map Segment.size).sum_le_sum fun _ _ => Nat.zero_le _

theorem endedBy_iff : transmission.endedBy tick = true ↔
    ∃ closed, transmission.closed = some closed ∧ closed ≤ tick := by
  rw [endedBy, Option.any_eq_true]
  simp

theorem endedBy_mono {later : ℕ} (hle : tick ≤ later)
    (hended : transmission.endedBy tick = true) :
    transmission.endedBy later = true := by
  obtain ⟨closed, hclosed, hbefore⟩ := endedBy_iff.mp hended
  exact endedBy_iff.mpr ⟨closed, hclosed, hbefore.trans hle⟩

/-- Everything has arrived once the client has closed the connection. -/
theorem arrivedBy_of_endedBy (hended : transmission.endedBy tick = true) :
    transmission.arrivedBy tick = transmission.total := by
  obtain ⟨closed, hclosed, hbefore⟩ := endedBy_iff.mp hended
  rw [arrivedBy, total, List.filter_eq_self.mpr]
  intro segment hsegment
  exact decide_eq_true
    ((transmission.sent_before closed hclosed segment hsegment).trans hbefore)

theorem read_of_fruitless (hfruitless : transmission.Fruitless tick)
    (length : ℕ) : transmission.read 0 length tick =
      .error ⟨.wouldBlock, "Resource temporarily unavailable"⟩ := by
  rw [read, hfruitless.1, hfruitless.2]
  rfl

/-- The first read that finds anything gets what has arrived. -/
theorem read_of_not_fruitless (hfound : ¬transmission.Fruitless tick)
    (length : ℕ) : transmission.read 0 length tick =
      .ok (min (transmission.arrivedBy tick) length) := by
  rw [read]
  by_cases harrived : 0 < transmission.arrivedBy tick
  · rw [if_pos harrived, Nat.sub_zero]
  · have hnone : transmission.arrivedBy tick = 0 := by omega
    have hended : transmission.endedBy tick = true :=
      Bool.not_eq_false _ |>.mp fun hopen => hfound ⟨hnone, hopen⟩
    rw [if_neg harrived, if_pos hended, hnone, Nat.zero_min]

end Transmission

/-- A client sends a payload, or its connection is read with other results. -/
inductive Client where
  | sends (transmission : Transmission)
  | misbehaves (read : ℕ → Except SocketError ℕ)

def Client.read (client : Client) (taken length tick : ℕ) :
    Except SocketError ℕ :=
  match client with
  | .sends transmission => transmission.read taken length tick
  | .misbehaves read => read tick

/-- What happens at the first, second, … call to the network.  A connection is
known by the call that accepted it. -/
structure Traffic where
  time : ℕ → ℕ
  monotone_time : Monotone time
  bind : ℕ → Except BindFailure Unit
  datagram : ℕ → Except SocketError (ℕ × SocketAddr)
  accept : ℕ → Except SocketError SocketAddr
  configures : ℕ → Bool
  client : ℕ → Client
  echo : ℕ → Except SocketError (ℕ × Option SocketAddr)

/-- What the daemon has done with a connection: what the clock showed when it
was last read before the connection was accepted, how many bytes were taken,
and when the connection was polled. -/
structure Line where
  accepted : Option ℕ
  taken : ℕ
  polls : List ℕ

/-- A traffic after so many calls. -/
structure Wire (traffic : Traffic) where
  tick : ℕ
  reading : ℕ
  lines : ℕ → Line

variable {traffic : Traffic}

namespace Wire

def fresh (traffic : Traffic) : Wire traffic :=
  { tick := 0, reading := 0, lines := fun _ => ⟨none, 0, []⟩ }

def step (wire : Wire traffic) : Wire traffic :=
  { wire with tick := wire.tick + 1 }

/-- The line of a connection changes. -/
def set (wire : Wire traffic) (connection : ℕ) (line : Line) : Wire traffic :=
  { wire with lines := Function.update wire.lines connection line }

theorem lines_set (wire : Wire traffic) (connection : ℕ) (line : Line) :
    (wire.set connection line).lines connection = line :=
  Function.update_self _ _ _

/-- A connection has been accepted. -/
def enqueued (wire : Wire traffic) : Wire traffic :=
  wire.step.set wire.tick
    { wire.lines wire.tick with accepted := some wire.reading }

def accept (wire : Wire traffic) :
    Except SocketError (ℕ × SocketAddr) × Wire traffic :=
  match traffic.accept wire.tick with
  | .error error => (.error error, wire.step)
  | .ok addr => (.ok (wire.tick, addr), wire.enqueued)

/-- The line of a connection that is polled. -/
def poll (wire : Wire traffic) (connection : ℕ) : Line :=
  { wire.lines connection with
    polls := (wire.lines connection).polls ++ [wire.tick] }

/-- A read of the connection has found nothing. -/
def polled (wire : Wire traffic) (connection : ℕ) : Wire traffic :=
  wire.step.set connection (wire.poll connection)

/-- A read of the connection has taken so many bytes. -/
def drained (wire : Wire traffic) (connection size : ℕ) : Wire traffic :=
  wire.step.set connection { wire.poll connection with
    taken := (wire.lines connection).taken + size }

def read (wire : Wire traffic) (connection length : ℕ) :
    Except SocketError (ℕ × Option ℕ) × Wire traffic :=
  match (traffic.client connection).read (wire.lines connection).taken length
      wire.tick with
  | .error error => (.error error, wire.polled connection)
  | .ok size => (.ok (size, some connection), wire.drained connection size)

end Wire

instance : Network (Wire traffic) ℕ (Option ℕ) where
  now wire := (traffic.time wire.tick,
    { wire.step with reading := traffic.time wire.tick })
  read connection length wire := wire.read connection length
  close _ wire := wire.step
  bind _ wire := (traffic.bind wire.tick, wire.step)
  recvUdp _ _ wire :=
    ((traffic.datagram wire.tick).map fun received =>
      ⟨received.1, received.2, none⟩, wire.step)
  accept _ wire := wire.accept
  setNonblocking _ wire := (traffic.configures wire.tick, wire.step)
  recvIcmp _ wire :=
    ((traffic.echo wire.tick).map fun received =>
      ⟨received.1, received.2, none⟩, wire.step)

end SshKnock
