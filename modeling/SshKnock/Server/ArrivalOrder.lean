import SshKnock.Server.Chronicle

/-!
# The order of arrival

Every socket hands its packets over in the order of their arrival, but the
daemon polls one socket after another.  A knock that is accepted arrived in the
order of its steps as long as no packet is taken while an earlier packet of its
source still waits; otherwise the order of polling stands in for it.
-/

namespace SshKnock

open Fallible

/-- An established connection; two connections of one address differ in their
identity. -/
structure Peer where
  identity : ℕ
  addr : SocketAddr
  deriving DecidableEq

/-- Where a packet waits. -/
inductive Channel where
  | udp (port : UInt16)
  | tcp (peer : Peer)
  | icmp
  deriving DecidableEq

/-- A waiting packet, stamped with its place in the order of arrival. -/
structure Waiting where
  stamp : ℕ
  addr : SocketAddr
  size : ℕ
  deriving DecidableEq

/-- What reaches the host. -/
inductive Delivery where
  | datagram (port : UInt16) (addr : SocketAddr) (size : ℕ)
  | connect (port : UInt16) (peer : Peer)
  | payload (peer : Peer) (size : ℕ)
  | echo (addr : SocketAddr) (size : ℕ)

/-- The packets that wait in a channel, in the order of their arrival. -/
def queue (waiting : HashMap Channel (List Waiting)) (channel : Channel) :
    List Waiting :=
  (waiting.get channel).getD []

theorem queue_insert_self (waiting : HashMap Channel (List Waiting))
    (channel : Channel) (packets : List Waiting) :
    queue (waiting.insert channel packets) channel = packets := by
  rw [queue, HashMap.get_insert_self, Option.getD_some]

theorem queue_insert_of_ne (waiting : HashMap Channel (List Waiting))
    {channel other : Channel} (packets : List Waiting)
    (hother : other ≠ channel) :
    queue (waiting.insert channel packets) other = queue waiting other := by
  rw [queue, HashMap.get_insert_of_ne waiting packets hother, queue]

/-- The queues of the host; before every poll a batch of deliveries arrives.
What is sent to a port that is not bound, or on a connection that is closed, is
lost. -/
structure Queues where
  clock : ℕ → ℕ
  readings : ℕ
  batches : List (List Delivery)
  bound : List Listener
  arrived : ℕ
  peers : List Peer
  backlog : UInt16 → List Peer
  waiting : HashMap Channel (List Waiting)

/-- A packet that was taken, and what was left waiting. -/
structure Taken where
  packet : Waiting
  left : HashMap Channel (List Waiting)

namespace Listener

def isUdp (port : UInt16) : Listener → Bool
  | .udp _ bound => bound = port
  | _ => false

def isTcp (port : UInt16) : Listener → Bool
  | .tcp _ bound => bound = port
  | _ => false

def isIcmp : Listener → Bool
  | .icmp _ => true
  | _ => false

end Listener

namespace Taken

def sourceIp (taken : Taken) : IpAddr :=
  taken.packet.addr.ip

/-- No packet of the same source that arrived earlier was left waiting. -/
def InTurn (taken : Taken) : Prop :=
  ∀ channel, ∀ other ∈ queue taken.left channel,
    other.addr.ip = taken.sourceIp → taken.packet.stamp < other.stamp

theorem inTurn_iff (taken : Taken) :
    taken.InTurn ↔ ∀ line ∈ taken.left.entries, ∀ other ∈ line.2,
      other.addr.ip = taken.sourceIp → taken.packet.stamp < other.stamp := by
  constructor
  · intro hinTurn line hline
    have hget := (HashMap.get_eq_some_iff_mem _ line.1 line.2).mpr hline
    have hline := hinTurn line.1
    rwa [queue, hget] at hline
  · intro hlines channel other hother
    cases hget : taken.left.get channel with
    | none =>
        rw [queue, hget] at hother
        cases hother
    | some line =>
        rw [queue, hget] at hother
        exact hlines ⟨channel, line⟩
          ((HashMap.get_eq_some_iff_mem _ _ _).mp hget) other hother

instance (taken : Taken) : Decidable taken.InTurn :=
  decidable_of_iff _ (inTurn_iff taken).symm

end Taken

namespace Queues

def empty (clock : ℕ → ℕ) (batches : List (List Delivery)) : Queues :=
  { clock, readings := 0, batches, bound := [], arrived := 0, peers := []
    backlog := fun _ => [], waiting := HashMap.empty }

def enqueue (queues : Queues) (channel : Channel) (addr : SocketAddr)
    (size : ℕ) : Queues :=
  { queues with
    arrived := queues.arrived + 1
    waiting := queues.waiting.insert channel
      (queue queues.waiting channel ++ [⟨queues.arrived, addr, size⟩]) }

def deliver (queues : Queues) : Delivery → Queues
  | .datagram port addr size =>
      if queues.bound.any (·.isUdp port) then
        queues.enqueue (.udp port) addr size
      else queues
  | .connect port peer =>
      if queues.bound.any (·.isTcp port) && !queues.peers.elem peer then
        { queues with
          peers := peer :: queues.peers
          backlog := fun other =>
            queues.backlog other ++ if other = port then [peer] else [] }
      else queues
  | .payload peer size =>
      if queues.peers.elem peer then queues.enqueue (.tcp peer) peer.addr size
      else queues
  | .echo addr size =>
      if queues.bound.any Listener.isIcmp then queues.enqueue .icmp addr size
      else queues

/-- The next batch arrives. -/
def settle (queues : Queues) : Queues :=
  { queues.batches.headD [] |>.foldl deliver queues with
    batches := queues.batches.tail }

/-- Take the packet that waits longest in a channel. -/
def take (queues : Queues) (channel : Channel) :
    Except SocketError Taken × Queues :=
  let queues := queues.settle
  match queue queues.waiting channel with
  | [] => (.error ⟨.wouldBlock, "Resource temporarily unavailable"⟩, queues)
  | packet :: packets =>
      let queues := { queues with
        waiting := queues.waiting.insert channel packets }
      (.ok ⟨packet, queues.waiting⟩, queues)

/-- Closing a connection drops what waits on it. -/
def forget (queues : Queues) (peer : Peer) : Queues :=
  { queues with
    peers := queues.peers.filter fun other => other ≠ peer
    waiting := queues.waiting.insert (.tcp peer) [] }

end Queues

instance : Network Queues Peer Taken where
  now queues :=
    let queues := queues.settle
    (queues.clock queues.readings,
      { queues with readings := queues.readings + 1 })
  read peer length queues :=
    let (taken, queues) := queues.take (.tcp peer)
    (taken.map fun taken => (min taken.packet.size length, taken), queues)
  close peer queues := queues.forget peer
  bind listener queues :=
    let queues := queues.settle
    (.ok (), { queues with bound := queues.bound ++ [listener] })
  recvUdp port length queues :=
    let (taken, queues) := queues.take (.udp port)
    (taken.map fun taken =>
      ⟨min taken.packet.size length, taken.packet.addr, taken⟩, queues)
  accept port queues :=
    let queues := queues.settle
    match queues.backlog port with
    | [] => (.error ⟨.wouldBlock, "Resource temporarily unavailable"⟩, queues)
    | peer :: peers =>
        (.ok (peer, peer.addr), { queues with
          backlog := fun other =>
            if other = port then peers else queues.backlog other })
  setNonblocking _ queues := (true, queues.settle)
  recvIcmp length queues :=
    let (taken, queues) := queues.take .icmp
    (taken.map fun taken =>
      ⟨min taken.packet.size length, some taken.packet.addr, taken⟩, queues)

/-! ## First come, first served -/

/-- What is taken and what waits is stamped in the order of arrival, and, as
long as every packet of the source was taken in turn, its packets are taken in
that order. -/
structure Fifo (sourceIp : IpAddr) (queues : Queues) (taken : List Taken) :
    Prop where
  waiting_lt : ∀ channel, ∀ packet ∈ queue queues.waiting channel,
    packet.stamp < queues.arrived
  taken_lt : ∀ earlier ∈ taken, earlier.packet.stamp < queues.arrived
  tcp_addr : ∀ peer, ∀ packet ∈ queue queues.waiting (.tcp peer),
    packet.addr = peer.addr
  ahead : (∀ earlier ∈ taken, earlier.sourceIp = sourceIp → earlier.InTurn) →
    ∀ earlier ∈ taken, earlier.sourceIp = sourceIp →
      ∀ channel, ∀ packet ∈ queue queues.waiting channel,
        packet.addr.ip = sourceIp → earlier.packet.stamp < packet.stamp
  sorted : (∀ earlier ∈ taken, earlier.sourceIp = sourceIp → earlier.InTurn) →
    taken.Pairwise fun earlier later =>
      earlier.sourceIp = sourceIp → later.sourceIp = sourceIp →
        earlier.packet.stamp < later.packet.stamp

namespace Fifo

variable {sourceIp : IpAddr} {queues : Queues} {taken : List Taken}

theorem empty (sourceIp : IpAddr) (clock : ℕ → ℕ)
    (batches : List (List Delivery)) :
    Fifo sourceIp (.empty clock batches) [] where
  waiting_lt _ _ hpacket := by cases hpacket
  taken_lt _ hearlier := by cases hearlier
  tcp_addr _ _ hpacket := by cases hpacket
  ahead _ _ hearlier := by cases hearlier
  sorted _ := List.Pairwise.nil

/-- Waiting packets may be lost. -/
theorem of_subset (hfifo : Fifo sourceIp queues taken) {fewer : Queues}
    (harrived : fewer.arrived = queues.arrived)
    (hwaiting : ∀ channel, ∀ packet ∈ queue fewer.waiting channel,
      packet ∈ queue queues.waiting channel) : Fifo sourceIp fewer taken where
  waiting_lt channel packet hpacket :=
    harrived ▸ hfifo.waiting_lt channel packet (hwaiting channel packet hpacket)
  taken_lt := harrived ▸ hfifo.taken_lt
  tcp_addr peer packet hpacket :=
    hfifo.tcp_addr peer packet (hwaiting _ packet hpacket)
  ahead hinTurn earlier hearlier hsource channel packet hpacket :=
    hfifo.ahead hinTurn earlier hearlier hsource channel packet
      (hwaiting channel packet hpacket)
  sorted := hfifo.sorted

theorem mem_enqueue {channel other : Channel} {addr : SocketAddr} {size : ℕ}
    {packet : Waiting}
    (hpacket : packet ∈
      queue (queues.enqueue channel addr size).waiting other) :
    packet ∈ queue queues.waiting other ∨
      other = channel ∧ packet = ⟨queues.arrived, addr, size⟩ := by
  by_cases hother : other = channel
  · subst hother
    rw [Queues.enqueue, queue_insert_self] at hpacket
    simpa using hpacket
  · rw [Queues.enqueue, queue_insert_of_ne _ _ hother] at hpacket
    exact Or.inl hpacket

theorem enqueue (hfifo : Fifo sourceIp queues taken) (channel : Channel)
    {addr : SocketAddr} (size : ℕ)
    (haddr : ∀ peer, channel = .tcp peer → addr = peer.addr) :
    Fifo sourceIp (queues.enqueue channel addr size) taken where
  waiting_lt other packet hpacket := by
    rcases mem_enqueue hpacket with hold | ⟨-, rfl⟩
    · exact Nat.lt_succ_of_lt (hfifo.waiting_lt other packet hold)
    · exact Nat.lt_succ_self queues.arrived
  taken_lt earlier hearlier :=
    Nat.lt_succ_of_lt (hfifo.taken_lt earlier hearlier)
  tcp_addr peer packet hpacket := by
    rcases mem_enqueue hpacket with hold | ⟨hchannel, rfl⟩
    · exact hfifo.tcp_addr peer packet hold
    · exact haddr peer hchannel.symm
  ahead hinTurn earlier hearlier hsource other packet hpacket hown := by
    rcases mem_enqueue hpacket with hold | ⟨-, rfl⟩
    · exact hfifo.ahead hinTurn earlier hearlier hsource other packet hold hown
    · exact hfifo.taken_lt earlier hearlier
  sorted := hfifo.sorted

theorem deliver (hfifo : Fifo sourceIp queues taken) (delivery : Delivery) :
    Fifo sourceIp (queues.deliver delivery) taken := by
  cases delivery with
  | datagram port addr size =>
      simp only [Queues.deliver]
      split
      · exact hfifo.enqueue _ size (by simp)
      · exact hfifo
  | connect port peer =>
      simp only [Queues.deliver]
      split
      · exact hfifo.of_subset rfl fun _ _ hpacket => hpacket
      · exact hfifo
  | payload peer size =>
      simp only [Queues.deliver]
      split
      · exact hfifo.enqueue _ size (by simp +contextual)
      · exact hfifo
  | echo addr size =>
      simp only [Queues.deliver]
      split
      · exact hfifo.enqueue _ size (by simp)
      · exact hfifo

theorem settle (hfifo : Fifo sourceIp queues taken) :
    Fifo sourceIp queues.settle taken := by
  have hdelivered : ∀ (batch : List Delivery) (before : Queues),
      Fifo sourceIp before taken →
        Fifo sourceIp (batch.foldl Queues.deliver before) taken := by
    intro batch
    induction batch with
    | nil => exact fun _ hbefore => hbefore
    | cons delivery batch ih =>
        exact fun before hbefore => ih _ (hbefore.deliver delivery)
  exact (hdelivered (queues.batches.headD []) queues hfifo).of_subset rfl
    fun _ _ hpacket => hpacket

theorem forget (hfifo : Fifo sourceIp queues taken) (peer : Peer) :
    Fifo sourceIp (queues.forget peer) taken := by
  have hwaiting : ∀ channel,
      ∀ packet ∈ queue (queues.forget peer).waiting channel,
      packet ∈ queue queues.waiting channel := by
    intro channel packet hpacket
    by_cases hchannel : channel = .tcp peer
    · subst hchannel
      rw [Queues.forget, queue_insert_self] at hpacket
      cases hpacket
    · rwa [Queues.forget, queue_insert_of_ne _ _ hchannel] at hpacket
  exact hfifo.of_subset rfl hwaiting

/-- One more packet is taken. -/
theorem append (hfifo : Fifo sourceIp queues taken) (latest : Taken)
    {channel : Channel} (hlatest : latest.packet ∈ queue queues.waiting channel)
    (hleft : ∀ channel, ∀ packet ∈ queue latest.left channel,
      packet ∈ queue queues.waiting channel) :
    Fifo sourceIp { queues with waiting := latest.left }
      (taken ++ [latest]) where
  waiting_lt channel packet hpacket :=
    hfifo.waiting_lt channel packet (hleft channel packet hpacket)
  taken_lt earlier hearlier := by
    rcases List.mem_append.mp hearlier with hold | hnew
    · exact hfifo.taken_lt earlier hold
    · rw [List.mem_singleton.mp hnew]
      exact hfifo.waiting_lt channel latest.packet hlatest
  tcp_addr peer packet hpacket :=
    hfifo.tcp_addr peer packet (hleft _ packet hpacket)
  ahead hinTurn earlier hearlier hsource other packet hpacket hown := by
    obtain ⟨hbefore, hlast⟩ := List.forall_mem_append.mp hinTurn
    rcases List.mem_append.mp hearlier with hold | hnew
    · exact hfifo.ahead hbefore earlier hold hsource other packet
        (hleft other packet hpacket) hown
    · obtain rfl := List.mem_singleton.mp hnew
      exact hlast earlier List.mem_cons_self hsource other packet hpacket
        (hown.trans hsource.symm)
  sorted hinTurn := by
    obtain ⟨hbefore, -⟩ := List.forall_mem_append.mp hinTurn
    apply List.pairwise_append.mpr
    refine ⟨hfifo.sorted hbefore, List.pairwise_singleton _ _, ?_⟩
    intro earlier hearlier later hlater hsource hown
    obtain rfl := List.mem_singleton.mp hlater
    exact hfifo.ahead hbefore earlier hearlier hsource channel later.packet
      hlatest hown

/-- What taking from a channel leads to. -/
inductive TakenFrom (sourceIp : IpAddr) (taken : List Taken)
    (channel : Channel) : Except SocketError Taken × Queues → Prop where
  | nothing (error : SocketError) (after : Queues)
      (hafter : Fifo sourceIp after taken) :
      TakenFrom sourceIp taken channel (.error error, after)
  | packet (latest : Taken) (after : Queues)
      (hafter : Fifo sourceIp after (taken ++ [latest]))
      (haddr : ∀ peer, channel = .tcp peer →
        latest.packet.addr = peer.addr) :
      TakenFrom sourceIp taken channel (.ok latest, after)

/-- Taking the packet that waits longest in its channel. -/
theorem take (hfifo : Fifo sourceIp queues taken) (channel : Channel) :
    TakenFrom sourceIp taken channel (queues.take channel) := by
  have hsettled := hfifo.settle
  simp only [Queues.take]
  split
  · exact .nothing _ _ hsettled
  next packet packets hwaiting =>
  have hfirst : packet ∈ queue queues.settle.waiting channel := by
    rw [hwaiting]
    exact List.mem_cons_self
  have hleft : ∀ other, ∀ later ∈
      queue (queues.settle.waiting.insert channel packets) other,
      later ∈ queue queues.settle.waiting other := by
    intro other later hlater
    by_cases hother : other = channel
    · subst hother
      rw [queue_insert_self] at hlater
      rw [hwaiting]
      exact List.mem_cons_of_mem packet hlater
    · rwa [queue_insert_of_ne _ _ hother] at hlater
  apply TakenFrom.packet
  · exact hsettled.append ⟨packet, _⟩ hfirst hleft
  · rintro peer rfl
    exact hsettled.tcp_addr peer packet hfirst

end Fifo

/-! ## The daemon on its queues -/

/-- The packets of the source that were processed last are the steps of the
sequence, and they arrived in that order. -/
def ArrivedInOrder (sequence : List KnockStep) (own : List (Handed Taken)) :
    Prop :=
  let knock := own.drop (own.length - sequence.length)
  knock.map (fun handed => handed.arrival.packet.spelled) = sequence ∧
    knock.Pairwise fun earlier later =>
      earlier.tag.packet.stamp < later.tag.packet.stamp

/-- Every accepted packet of the source completes a knock that arrived in
order. -/
def AcceptsInOrder (config : Config) (sourceIp : IpAddr)
    (history : List (Handed Taken)) : Prop :=
  ∀ (index : ℕ) (hindex : index < history.length),
    (history.get ⟨index, hindex⟩).sourceIp = sourceIp →
      (history.get ⟨index, hindex⟩).Accepted →
        ArrivedInOrder config.knock.sequence
          (Handed.own sourceIp (history.take (index + 1)))

namespace Daemon

variable {R : Type} {sourceIp : IpAddr}

/-- What was processed was taken in this order, and the tags name the
sources. -/
structure InOrder (sourceIp : IpAddr) (daemon : Daemon Queues R Taken) :
    Prop where
  fifo : Fifo sourceIp daemon.network (daemon.handed.map Handed.tag)
  tagged : ∀ handed ∈ daemon.handed, handed.tag.sourceIp = handed.sourceIp

/-- A packet was taken and is processed next. -/
structure TakenLast (sourceIp : IpAddr) (addr : SocketAddr) (latest : Taken)
    (daemon : Daemon Queues R Taken) : Prop where
  fifo : Fifo sourceIp daemon.network
    (daemon.handed.map Handed.tag ++ [latest])
  tagged : ∀ handed ∈ daemon.handed, handed.tag.sourceIp = handed.sourceIp
  addr_eq : latest.packet.addr = addr

theorem keeps_inOrder_onNetwork {α : Type} {poll : Queues → α × Queues}
    (hpoll : ∀ queues taken, Fifo sourceIp queues taken →
      Fifo sourceIp (poll queues).2 taken) :
    Keeps (InOrder sourceIp) (onNetwork poll : DaemonM Queues R Taken α) :=
  fun _ hinOrder => ⟨hpoll _ _ hinOrder.fifo, hinOrder.tagged⟩

/-- Polling a channel takes a packet or nothing. -/
theorem triple_inOrder_take {α : Type} (channel : Channel)
    (received : Taken → α) :
    Triple (InOrder sourceIp)
      (onNetwork (fun queues =>
        ((queues.take channel).1.map received, (queues.take channel).2)) :
        DaemonM Queues R Taken (Except SocketError α))
      (fun result daemon => match result with
        | .ok value => ∃ latest addr, value = received latest ∧
            (∀ peer, channel = .tcp peer → addr = peer.addr) ∧
              TakenLast sourceIp addr latest daemon
        | .error _ => InOrder sourceIp daemon)
      (InOrder sourceIp) := by
  intro daemon hinOrder
  have htaken := hinOrder.fifo.take channel
  show match (daemon.network.take channel).1.map received with
    | .ok value => ∃ latest addr, value = received latest ∧
        (∀ peer, channel = .tcp peer → addr = peer.addr) ∧
          TakenLast sourceIp addr latest
            { daemon with network := (daemon.network.take channel).2 }
    | .error _ => InOrder sourceIp
        { daemon with network := (daemon.network.take channel).2 }
  generalize daemon.network.take channel = result at htaken ⊢
  cases htaken with
  | nothing error after hafter => exact ⟨hafter, hinOrder.tagged⟩
  | packet latest after hafter haddr =>
      exact ⟨latest, latest.packet.addr, rfl, haddr, hafter, hinOrder.tagged,
        rfl⟩

theorem triple_inOrder_recvUdp (port : UInt16) (length : ℕ) :
    Triple (InOrder sourceIp)
      (onNetwork (Network.recvUdp port length) :
        DaemonM Queues R Taken (Except SocketError (Datagram SocketAddr Taken)))
      (fun result daemon => match result with
        | .ok datagram => TakenLast sourceIp datagram.addr datagram.tag daemon
        | .error _ => InOrder sourceIp daemon)
      (InOrder sourceIp) := by
  apply (triple_inOrder_take (.udp port) fun taken =>
    Datagram.mk (min taken.packet.size length) taken.packet.addr
      taken).imp_returned
  intro result daemon htaken
  cases result with
  | error error => exact htaken
  | ok datagram =>
      obtain ⟨latest, addr, rfl, -, hlast⟩ := htaken
      exact hlast.addr_eq.symm ▸ hlast

theorem triple_inOrder_recvIcmp (length : ℕ) :
    Triple (InOrder sourceIp)
      (onNetwork (Network.recvIcmp length) : DaemonM Queues R Taken
        (Except SocketError (Datagram (Option SocketAddr) Taken)))
      (fun result daemon => match result with
        | .ok datagram => (datagram.addr = none → InOrder sourceIp daemon) ∧
            ∀ addr, datagram.addr = some addr →
              TakenLast sourceIp addr datagram.tag daemon
        | .error _ => InOrder sourceIp daemon)
      (InOrder sourceIp) := by
  apply (triple_inOrder_take .icmp fun taken =>
    Datagram.mk (min taken.packet.size length) (some taken.packet.addr)
      taken).imp_returned
  intro result daemon htaken
  cases result with
  | error error => exact htaken
  | ok datagram =>
      obtain ⟨latest, addr, rfl, -, hlast⟩ := htaken
      refine ⟨by simp, fun other hother => ?_⟩
      rw [← Option.some.inj hother, hlast.addr_eq]
      exact hlast

theorem triple_inOrder_read {connection : PendingTcp Peer}
    (hlinked : connection.addr = connection.stream.addr) (length : ℕ) :
    Triple (InOrder sourceIp)
      (onNetwork (Streams.read connection.stream length) :
        DaemonM Queues R Taken (Except SocketError (ℕ × Taken)))
      (fun result daemon => match result with
        | .ok received => TakenLast sourceIp connection.addr received.2 daemon
        | .error _ => InOrder sourceIp daemon)
      (InOrder sourceIp) := by
  apply (triple_inOrder_take (.tcp connection.stream) fun taken =>
    (min taken.packet.size length, taken)).imp_returned
  intro result daemon htaken
  cases result with
  | error error => exact htaken
  | ok received =>
      obtain ⟨latest, addr, rfl, hpeer, hlast⟩ := htaken
      rw [hlinked, ← hpeer _ rfl]
      exact hlast

/-- A connection is known under the address of its peer. -/
theorem triple_inOrder_accept (port : UInt16) :
    Triple (InOrder sourceIp)
      (onNetwork (Network.accept port) :
        DaemonM Queues R Taken (Except SocketError (Peer × SocketAddr)))
      (fun result daemon => InOrder sourceIp daemon ∧ ∀ stream addr,
        result = .ok (stream, addr) → addr = stream.addr)
      (InOrder sourceIp) := by
  intro daemon hinOrder
  have hsettled := hinOrder.fifo.settle
  have haccept : ∀ result : Except SocketError (Peer × SocketAddr) × Queues,
      result = Network.accept port daemon.network →
        (Fifo sourceIp result.2 (daemon.handed.map Handed.tag) ∧
          ∀ stream addr, result.1 = .ok (stream, addr) → addr = stream.addr) := by
    rintro result rfl
    simp only [Network.accept]
    split
    · exact ⟨hsettled, by simp⟩
    · refine ⟨hsettled.of_subset rfl fun _ _ hpacket => hpacket, ?_⟩
      intro stream addr haccepted
      obtain ⟨rfl, rfl⟩ := Prod.mk.inj (Except.ok.inj haccepted)
      rfl
  obtain ⟨hfifo, haddr⟩ := haccept _ rfl
  exact ⟨⟨hfifo, hinOrder.tagged⟩, haddr⟩

variable [CommandRunner R]

theorem TakenLast.processPacket {addr : SocketAddr} {latest : Taken}
    (protocol : Protocol) (port : Option UInt16) (payloadSize : ℕ) :
    Triple (TakenLast sourceIp addr latest)
      (Daemon.processPacket addr protocol port payloadSize latest :
        DaemonM Queues R Taken Unit)
      (fun _ => InOrder sourceIp) (InOrder sourceIp) := by
  apply Triple.of_perform
  intro daemon htaken
  rw [perform_processPacket]
  have hsettled := htaken.fifo.settle
  constructor
  · have hfifo : Fifo sourceIp (Streams.now daemon.network).2
        (daemon.handed.map Handed.tag ++ [latest]) :=
      hsettled.of_subset rfl fun _ _ hpacket => hpacket
    simpa using hfifo
  · have hlatest : latest.sourceIp = addr.ip :=
      congrArg SocketAddr.ip htaken.addr_eq
    exact List.forall_mem_append.mpr
      ⟨htaken.tagged, List.forall_mem_singleton.mpr hlatest⟩

/-- Every step of the daemon keeps what was processed in order. -/
theorem sustains_inOrder (sourceIp : IpAddr) :
    Sustains (InOrder sourceIp : Daemon Queues R Taken → Prop)
      (TakenLast sourceIp)
      (fun connection : PendingTcp Peer =>
        connection.addr = connection.stream.addr) where
  now := keeps_inOrder_onNetwork fun _ _ hfifo =>
    hfifo.settle.of_subset rfl fun _ _ hpacket => hpacket
  bind _ := keeps_inOrder_onNetwork fun _ _ hfifo =>
    hfifo.settle.of_subset rfl fun _ _ hpacket => hpacket
  logEvent _ _ := Keeps.of_perform fun _ hinOrder =>
    ⟨hinOrder.fifo, hinOrder.tagged⟩
  preflight := fun _ hinOrder => ⟨hinOrder.fifo, hinOrder.tagged⟩
  setNonblocking _ := keeps_inOrder_onNetwork fun _ _ hfifo => hfifo.settle
  accept port := (triple_inOrder_accept port).imp_returned
    fun _ _ haccepted => ⟨haccepted.1, fun stream addr hresult _ =>
      haccepted.2 stream addr hresult⟩
  recvUdp port length := (triple_inOrder_recvUdp port length).imp_returned
    fun result _ htaken => by cases result <;> exact htaken
  recvIcmp length := (triple_inOrder_recvIcmp length).imp_returned
    fun result _ htaken => by cases result <;> exact htaken
  read _ length hlinked := (triple_inOrder_read hlinked length).imp_returned
    fun result _ htaken => by cases result <;> exact htaken
  close connection := keeps_inOrder_onNetwork fun _ _ hfifo => hfifo.forget _
  close_inFlight connection addr tag := fun _ htaken =>
    ⟨htaken.fifo.forget _, htaken.tagged, htaken.addr_eq⟩
  processPacket _ protocol port payloadSize _ :=
    TakenLast.processPacket protocol port payloadSize

/-- The daemon as it starts, with no packet processed yet. -/
def waking (config : ValidConfig) (device : LogDevice) (clock : ℕ → ℕ)
    (batches : List (List Delivery)) (runner : R) : Daemon Queues R Taken :=
  { server := .started config device, network := .empty clock batches
    runner, handed := [] }

/-- What the daemon has processed after so many passes. -/
def history (config : ValidConfig) (daemon : Daemon Queues R Taken)
    (count : ℕ) : List (Handed Taken) :=
  (perform (run config.toConfig count :
    DaemonM Queues R Taken (List (PendingTcp Peer))) daemon).2.handed

omit [CommandRunner R] in
/-- A complete knock whose packets were taken in the order of their arrival. -/
theorem arrivedInOrder_of_endsInKnock {rules : KnockRules}
    {own : List (Handed Taken)}
    (hends : KnockRules.EndsInKnock rules (own.map Handed.call))
    (hsorted : own.Pairwise fun earlier later =>
      earlier.tag.packet.stamp < later.tag.packet.stamp) :
    ArrivedInOrder rules.sequence own := by
  obtain ⟨before, calls, hcalls, hknocked, -⟩ := hends
  obtain ⟨earlier, knock, rfl, -, rfl⟩ := List.map_eq_append_iff.mp hcalls
  have hspelled : knock.map (fun handed => handed.arrival.packet.spelled) =
      rules.sequence := by
    rw [← hknocked.spelled_eq, List.map_map]
    rfl
  have hlength : knock.length = rules.sequence.length := by
    rw [← hspelled, List.length_map]
  have hknock : (earlier ++ knock).drop
      ((earlier ++ knock).length - rules.sequence.length) = knock := by
    rw [← hlength, List.length_append, Nat.add_sub_cancel, List.drop_left]
  rw [ArrivedInOrder, hknock]
  exact ⟨hspelled, (List.pairwise_append.mp hsorted).2.1⟩

/-- As long as no packet of a source is taken while an earlier packet of it
still waits, the source is accepted only after a knock that arrived in order. -/
theorem accepts_in_order (config : ValidConfig) (device : LogDevice)
    (clock : ℕ → ℕ) (batches : List (List Delivery)) (runner : R) (count : ℕ)
    (sourceIp : IpAddr)
    (hinTurn : ∀ handed ∈
        history config (waking config device clock batches runner) count,
      handed.sourceIp = sourceIp → handed.tag.InTurn) :
    AcceptsInOrder config.toConfig sourceIp
      (history config (waking config device clock batches runner) count) := by
  have hstarted : Chronicled config.toConfig
      (waking config device clock batches runner) :=
    Server.chronicle_started config device
  have hwaking : InOrder sourceIp (waking config device clock batches runner) :=
    ⟨Fifo.empty sourceIp clock batches, fun _ hhanded => by cases hhanded⟩
  have hchronicled := (sustains_chronicled config.toConfig).run config.toConfig
    count hstarted
  have hinOrder := (sustains_inOrder sourceIp).run config.toConfig count
    hwaking
  generalize hfinal : (perform (run config.toConfig count :
    DaemonM Queues R Taken (List (PendingTcp Peer)))
      (waking config device clock batches runner)).2 = final
    at hchronicled hinOrder
  rw [history, hfinal] at hinTurn ⊢
  intro index hindex hsource haccepted
  have hfound : final.handed.take index ++
      final.handed[index] :: final.handed.drop (index + 1) = final.handed := by
    rw [List.getElem_cons_drop, List.take_append_drop]
  have hends := hchronicled.accepted _ _ _ hfound.symm haccepted
  rw [List.get_eq_getElem] at hsource
  rw [List.take_append_getElem, hsource] at hends
  apply arrivedInOrder_of_endsInKnock hends
  have hsorted : (final.handed.map Handed.tag).Pairwise fun earlier later =>
      earlier.sourceIp = sourceIp → later.sourceIp = sourceIp →
        earlier.packet.stamp < later.packet.stamp := by
    apply hinOrder.fifo.sorted
    intro tag htag hsourceTag
    obtain ⟨handed, hhanded, rfl⟩ := List.mem_map.mp htag
    exact hinTurn handed hhanded
      ((hinOrder.tagged handed hhanded).symm.trans hsourceTag)
  have hown : ∀ handed ∈ Handed.own sourceIp (final.handed.take (index + 1)),
      handed.tag.sourceIp = sourceIp := by
    intro handed hhanded
    obtain ⟨hmem, howned⟩ := List.mem_filter.mp hhanded
    exact (hinOrder.tagged handed (List.mem_of_mem_take hmem)).trans
      (of_decide_eq_true howned)
  apply (((List.pairwise_map.mp hsorted).sublist
    (List.take_sublist (index + 1) _)).sublist List.filter_sublist).imp_of_mem
  intro earlier later hearlier hlater hordered
  exact hordered (hown earlier hearlier) (hown later hlater)

/-! ## Polling reorders -/

instance (sequence : List KnockStep) (own : List (Handed Taken)) :
    Decidable (ArrivedInOrder sequence own) :=
  inferInstanceAs (Decidable (_ ∧ _))

instance (handed : Handed Taken) : Decidable handed.Accepted :=
  inferInstanceAs (Decidable (_ ∧ _))

instance (config : Config) (sourceIp : IpAddr)
    (history : List (Handed Taken)) :
    Decidable (AcceptsInOrder config sourceIp history) :=
  inferInstanceAs (Decidable (∀ (index : ℕ) (_ : index < history.length), _))

/-- Three UDP steps. -/
def datagramConfig : ValidConfig :=
  { testConfig with
    knock := ⟨[⟨.udp, some 7001, 1⟩, ⟨.udp, some 7002, 2⟩,
      ⟨.udp, some 7003, 3⟩]⟩
    validated := by decide }

def knockDatagram (port : UInt16) (size : ℕ) : Delivery :=
  .datagram port ⟨KnockTracker.testSource 10, 12345⟩ size

/-- A daemon whose sockets are bound when the datagrams start to arrive, one
batch before every poll. -/
def receiving (batches : List (List Delivery)) :
    Daemon Queues RecordingRunner Taken :=
  waking datagramConfig .writable (fun reading => reading)
    ([] :: [] :: [] :: batches) (.answering RecordingRunner.succeeding)

/-- All three steps arrive before one pass, the last step first. -/
def reversedKnock : List (List Delivery) :=
  [[knockDatagram 7003 3, knockDatagram 7002 2, knockDatagram 7001 1]]

/-- The sockets are polled in the order of the sequence, so the source is
accepted. -/
theorem reversed_knock_accepted :
    (history datagramConfig (receiving reversedKnock) 1).map
        (fun handed => (handed.tag.packet.stamp,
          handed.before.outcome handed.arrival)) =
        [(2, .progress 1), (1, .progress 2), (0, .accepted)] ∧
      ¬AcceptsInOrder datagramConfig.toConfig (KnockTracker.testSource 10)
        (history datagramConfig (receiving reversedKnock) 1) := by
  constructor <;> decide +kernel

/-- The steps arrive one by one, each just before its socket is polled. -/
def steadyKnock : List (List Delivery) :=
  [[knockDatagram 7001 1], [], [knockDatagram 7002 2], [],
    [knockDatagram 7003 3]]

theorem accepts_in_order_steady :
    (history datagramConfig (receiving steadyKnock) 1).map
        (fun handed => (handed.tag.packet.stamp,
          handed.before.outcome handed.arrival)) =
        [(0, .progress 1), (1, .progress 2), (2, .accepted)] ∧
      AcceptsInOrder datagramConfig.toConfig (KnockTracker.testSource 10)
        (history datagramConfig (receiving steadyKnock) 1) := by
  refine ⟨by decide +kernel, ?_⟩
  apply accepts_in_order datagramConfig .writable _ _
    (RecordingRunner.answering RecordingRunner.succeeding) 1
  decide +kernel

end Daemon

end SshKnock
