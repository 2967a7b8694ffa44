import SshKnock.Server.ArrivalOrder
import SshKnock.Server.LoopPair

/-!
# What the network can tell

The daemon answers nobody.  Which knock it waits for, how far a source has come,
who is banned and what the firewall says: none of it changes what the daemon
does on the network or which packets it takes, unless it ends.
-/

namespace SshKnock

open Fallible

namespace Daemon

variable {N R R' Stream Tag : Type}

/-- The packets taken so far. -/
def received (daemon : Daemon N R Tag) : List (Arrival × Tag) :=
  daemon.handed.map fun handed => (handed.arrival, handed.tag)

/-- Seen from the network the two daemons have done the same and received the
same. -/
structure SameOutside (daemon : Daemon N R Tag) (other : Daemon N R' Tag) :
    Prop where
  network_eq : daemon.network = other.network
  received_eq : daemon.received = other.received

/-- The settings that do not depend on what the daemon knows. -/
structure SameLimits (config config' : Config) : Prop where
  maxPayloadSize_eq : config'.maxPayloadSize = config.maxPayloadSize
  partialStateTimeout_eq :
    config'.partialStateTimeout = config.partialStateTimeout
  maxPartialStates_eq : config'.maxPartialStates = config.maxPartialStates

/-- One of the two daemons may end while the other goes on. -/
abbrev InStepOutside {α : Type} (left : DaemonM N R Tag α)
    (right : DaemonM N R' Tag α) : Prop :=
  InStep SameOutside (fun _ _ _ _ => True) True left right

theorem inStepOutside_onNetwork {α : Type} (poll : N → α × N) :
    InStepOutside (onNetwork poll : DaemonM N R Tag α)
      (onNetwork poll : DaemonM N R' Tag α) := by
  intro daemon other hsame
  have hperform : ∀ (R : Type) (daemon : Daemon N R Tag),
      perform (onNetwork poll) daemon = (.ok (poll daemon.network).1,
        { daemon with network := (poll daemon.network).2 }) := fun _ _ => rfl
  rw [hperform, hperform, ← hsame.network_eq]
  exact ⟨⟨rfl, hsame.received_eq⟩, rfl⟩

theorem alike_self {α Reason : Type} {alike : α → α → Prop}
    (hself : ∀ value, alike value value) (result : Except Reason α) :
    Alike alike result result := by
  cases result with
  | ok value => exact .ok (hself value)
  | error reason => exact .error reason

theorem inStepOutside_receive {α Reason : Type} {alike : α → α → Prop}
    (hself : ∀ value, alike value value) (poll : N → Except Reason α × N) :
    Coupled SameOutside
      (onNetwork poll : DaemonM N R Tag (Except Reason α))
      (onNetwork poll : DaemonM N R' Tag (Except Reason α))
      (fun received other left right =>
        SameOutside left right ∧ Alike alike received other)
      (fun _ _ _ _ => True) True :=
  (inStepOutside_onNetwork poll).imp_returned fun result _ _ _ hreturned =>
    ⟨hreturned.1, hreturned.2 ▸ alike_self hself result⟩

variable [CommandRunner R] [CommandRunner R'] [Network N Stream Tag]
  {config config' : Config}

/-- A packet is processed at the same moment, whatever becomes of it. -/
theorem inStepOutside_processPacket (addr : SocketAddr) (protocol : Protocol)
    (port : Option UInt16) (size : ℕ) (tag : Tag) :
    InStepOutside
      (processPacket addr protocol port size tag : DaemonM N R Tag Unit)
      (processPacket addr protocol port size tag : DaemonM N R' Tag Unit) := by
  intro daemon other hsame
  have hreceived : ∀ arrival : Arrival,
      (daemon.handed ++ [(⟨arrival, tag, daemon.server⟩ : Handed Tag)]).map
          (fun handed => (handed.arrival, handed.tag)) =
        (other.handed ++ [(⟨arrival, tag, other.server⟩ : Handed Tag)]).map
          fun handed => (handed.arrival, handed.tag) := by
    intro arrival
    rw [List.map_append, List.map_append]
    exact congrArg (· ++ [(arrival, tag)]) hsame.received_eq
  rw [perform_processPacket, perform_processPacket, ← hsame.network_eq]
  simp only
  split_ifs
  · exact ⟨⟨rfl, hreceived _⟩, trivial⟩
  · trivial
  · trivial
  · exact Or.inr trivial

theorem pairs_sameOutside (hlimits : SameLimits config config') :
    Pairs config config' (· = ·)
      (SameOutside : Daemon N R Tag → Daemon N R' Tag → Prop)
      (fun _ _ _ _ => True) True where
  partialStateTimeout_eq := hlimits.partialStateTimeout_eq
  maxPartialStates_eq := hlimits.maxPartialStates_eq
  failed_alike _ _ _ _ := trivial
  now := inStepOutside_onNetwork _
  setNonblocking _ := inStepOutside_onNetwork _
  accept _ := inStepOutside_onNetwork _
  close _ := inStepOutside_onNetwork _
  read stream := by
    rw [bufferLen, bufferLen, hlimits.maxPayloadSize_eq]
    exact inStepOutside_receive (fun _ => rfl) _
  recvUdp port := by
    rw [bufferLen, bufferLen, hlimits.maxPayloadSize_eq]
    exact inStepOutside_receive (fun _ => ⟨rfl, rfl⟩) _
  recvIcmp := by
    rw [hlimits.maxPayloadSize_eq]
    exact inStepOutside_receive (fun _ => ⟨rfl, rfl⟩) _
  processPacket addr protocol port received other hsame := by
    rw [hsame]
    exact inStepOutside_processPacket addr protocol port other.1 other.2

/-- On the same network two daemons with the same limits and listeners do the
same and take the same packets at the same moments, whatever knocks they wait
for and whatever they remember, as long as neither ends. -/
theorem passes_look_alike (hlimits : SameLimits config config')
    (sockets : Sockets) (count : ℕ) (pending : List (PendingTcp Stream))
    {daemon daemonAfter : Daemon N R Tag} {other otherAfter : Daemon N R' Tag}
    {kept kept' : List (PendingTcp Stream)} (hsame : SameOutside daemon other)
    (hdaemon : perform (passes config sockets count pending) daemon =
      (.ok kept, daemonAfter))
    (hother : perform (passes config' sockets count pending) other =
      (.ok kept', otherAfter)) :
    kept = kept' ∧ SameOutside daemonAfter otherAfter := by
  have hpasses : InStepOutside
      (passes config sockets count pending : DaemonM N R Tag _)
      (passes config' sockets count pending : DaemonM N R' Tag _) :=
    (pairs_sameOutside hlimits).passes sockets count pending
  have hended := hpasses.returned_of_ok hsame hdaemon hother
  exact ⟨hended.2, hended.1⟩

/-- The same ports in the same order, but another last step. -/
def otherKnockConfig : ValidConfig :=
  { datagramConfig with
    knock := ⟨[⟨.udp, some 7001, 1⟩, ⟨.udp, some 7002, 2⟩,
      ⟨.udp, some 7003, 2⟩]⟩
    validated := by decide }

def datagramSockets : Sockets :=
  { udp := [7001, 7002, 7003], tcp := [], icmp := false }

/-- A daemon that waits at its sockets for a knock that arrives at once. -/
def waiting (config : ValidConfig) : Daemon Queues RecordingRunner Taken :=
  { server := .started config .writable
    network :=
      { Queues.empty (fun reading => reading) reversedKnock with
        bound := datagramSockets.udp.map (Listener.udp config.listen) }
    runner := .answering RecordingRunner.succeeding, handed := [] }

/-- A pass over the arrived knock. -/
def knocked (config : ValidConfig) :
    Except Ending (List (PendingTcp Peer)) ×
      Daemon Queues RecordingRunner Taken :=
  perform (passes config.toConfig datagramSockets 1 []) (waiting config)

theorem exists_of_knocked {config : ValidConfig} {commands : ℕ}
    (hknocked : ((knocked config).1.toOption.isSome,
      (knocked config).2.runner.commands.length) = (true, commands)) :
    ∃ kept after,
      perform (passes config.toConfig datagramSockets 1 []) (waiting config) =
        (.ok kept, after) ∧
      after.runner.commands.length = commands := by
  change ∃ kept after, knocked config = (.ok kept, after) ∧ _
  generalize knocked config = result at hknocked ⊢
  obtain ⟨_ | kept, after⟩ := result
  · cases hknocked
  · exact ⟨kept, after, rfl, (Prod.mk.inj hknocked).2⟩

theorem sameLimits_otherKnock :
    SameLimits datagramConfig.toConfig otherKnockConfig.toConfig :=
  ⟨rfl, rfl, rfl⟩

theorem sameOutside_waiting :
    SameOutside (waiting datagramConfig) (waiting otherKnockConfig) :=
  ⟨rfl, rfl⟩

/-- The one daemon accepts the source, the other rejects its last packet. -/
theorem passes_look_alike_at_acceptance :
    ∃ kept kept' daemonAfter otherAfter,
      perform (passes datagramConfig.toConfig datagramSockets 1 [])
          (waiting datagramConfig) = (.ok kept, daemonAfter) ∧
      perform (passes otherKnockConfig.toConfig datagramSockets 1 [])
          (waiting otherKnockConfig) = (.ok kept', otherAfter) ∧
      daemonAfter.runner.commands.length = 1 ∧
      otherAfter.runner.commands.length = 0 ∧
      SameOutside daemonAfter otherAfter := by
  have haccepting : ((knocked datagramConfig).1.toOption.isSome,
      (knocked datagramConfig).2.runner.commands.length) = (true, 1) := by
    decide +kernel
  have hrejecting : ((knocked otherKnockConfig).1.toOption.isSome,
      (knocked otherKnockConfig).2.runner.commands.length) = (true, 0) := by
    decide +kernel
  obtain ⟨kept, daemonAfter, haccepting, hopened⟩ :=
    exists_of_knocked haccepting
  obtain ⟨kept', otherAfter, hrejecting, hclosed⟩ :=
    exists_of_knocked hrejecting
  exact ⟨kept, kept', daemonAfter, otherAfter, haccepting, hrejecting, hopened,
    hclosed, (passes_look_alike sameLimits_otherKnock datagramSockets 1 []
      sameOutside_waiting haccepting hrejecting).2⟩

end Daemon

end SshKnock
