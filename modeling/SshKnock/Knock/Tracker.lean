import SshKnock.Config
import SshKnock.Core.HashMap
import SshKnock.Net.Address
import SshKnock.Time

/-!
# The knock tracker

One partial state is kept for every source in the middle of the sequence.
Every packet first expires the partial states of all sources, then advances,
restarts or drops the state of its own source.
-/

namespace SshKnock

structure KnockPacket where
  sourceIp : IpAddr
  protocol : Protocol
  port : Option UInt16
  payloadSize : ℕ
  deriving DecidableEq

structure SourceState where
  nextStep : ℕ
  firstSeen : ℕ
  lastSeen : ℕ
  deriving DecidableEq

inductive KnockOutcome where
  | accepted
  | progress (nextStep : ℕ)
  | rejected
  | oversized
  deriving DecidableEq

structure KnockTracker where
  sequence : List KnockStep
  sequenceWindow : ℕ
  partialStateTimeout : ℕ
  maxPartialStates : ℕ
  maxPayloadSize : ℕ
  states : HashMap IpAddr SourceState

namespace KnockTracker

def new (sequence : List KnockStep)
    (sequenceWindow partialStateTimeout : ℕ)
    (maxPartialStates maxPayloadSize : ℕ) : KnockTracker :=
  { sequence, sequenceWindow, partialStateTimeout, maxPartialStates,
    maxPayloadSize, states := HashMap.empty }

/-- The number of partial states. -/
def len (tracker : KnockTracker) : ℕ :=
  tracker.states.len

/-- Neither the last nor the first packet of the partial state is too old. -/
def unexpired (tracker : KnockTracker) (now : ℕ)
    (state : SourceState) : Bool :=
  Instant.durationSince now state.lastSeen ≤ tracker.partialStateTimeout &&
    Instant.durationSince now state.firstSeen ≤ tracker.sequenceWindow

def expire (tracker : KnockTracker) (now : ℕ) : KnockTracker :=
  { tracker with
    states := tracker.states.retain fun _ state => tracker.unexpired now state }

/-- Drop the partial state of `sourceIp`. -/
def forget (tracker : KnockTracker) (sourceIp : IpAddr) : KnockTracker :=
  { tracker with states := tracker.states.remove sourceIp }

def record (tracker : KnockTracker) (sourceIp : IpAddr)
    (state : SourceState) : KnockTracker :=
  { tracker with states := tracker.states.insert sourceIp state }

def matchesStep (tracker : KnockTracker) (stepIndex : ℕ)
    (packet : KnockPacket) : Bool :=
  match tracker.sequence[stepIndex]? with
  | none => false
  | some step =>
      step.protocol = packet.protocol && step.port = packet.port &&
        step.size = packet.payloadSize

/-- The capacity test: a source without a partial state meets a full table. -/
def atCapacity (tracker : KnockTracker) (sourceIp : IpAddr) : Bool :=
  !tracker.states.containsKey sourceIp &&
    tracker.maxPartialStates ≤ tracker.states.len

def startPartialState (tracker : KnockTracker) (sourceIp : IpAddr)
    (now : ℕ) : KnockOutcome × KnockTracker :=
  if tracker.atCapacity sourceIp then (.rejected, tracker)
  else
    (.progress 1, tracker.record sourceIp
      { nextStep := 1, firstSeen := now, lastSeen := now })

def startOrReject (tracker : KnockTracker) (packet : KnockPacket)
    (now : ℕ) : KnockOutcome × KnockTracker :=
  if tracker.matchesStep 0 packet then
    tracker.startPartialState packet.sourceIp now
  else (.rejected, tracker)

/-- The step the source is expected to send next. -/
def expected (tracker : KnockTracker) (sourceIp : IpAddr) : ℕ :=
  (tracker.states.get sourceIp).elim 0 (·.nextStep)

def process (tracker : KnockTracker) (packet : KnockPacket) (now : ℕ) :
    KnockOutcome × KnockTracker :=
  let tracker := tracker.expire now
  let sourceIp := packet.sourceIp
  if tracker.maxPayloadSize < packet.payloadSize then
    (.oversized, tracker.forget sourceIp)
  else
    let expected := tracker.expected sourceIp
    if 0 < expected && (tracker.states.get sourceIp).any fun state =>
        tracker.sequenceWindow < Instant.durationSince now state.firstSeen then
      (tracker.forget sourceIp).startOrReject packet now
    else if !tracker.matchesStep expected packet then
      (tracker.forget sourceIp).startOrReject packet now
    else
      let nextStep := expected + 1
      if nextStep = tracker.sequence.length then
        (.accepted, tracker.forget sourceIp)
      else if expected = 0 then
        tracker.startPartialState sourceIp now
      else
        let firstSeen :=
          (tracker.states.get sourceIp).elim now (·.firstSeen)
        (.progress nextStep,
          tracker.record sourceIp { nextStep, firstSeen, lastSeen := now })

/-! ## Field and lookup rules -/

@[simp]
theorem sequenceWindow_expire (tracker : KnockTracker) (now : ℕ) :
    (tracker.expire now).sequenceWindow = tracker.sequenceWindow := rfl

theorem get_expire (tracker : KnockTracker) (now : ℕ)
    (sourceIp : IpAddr) :
    (tracker.expire now).states.get sourceIp =
      (tracker.states.get sourceIp).filter (tracker.unexpired now) :=
  HashMap.get_retain _ _ _

theorem len_expire_le (tracker : KnockTracker) (now : ℕ) :
    (tracker.expire now).states.len ≤ tracker.states.len :=
  HashMap.len_retain_le _ _

theorem unexpired_iff (tracker : KnockTracker) (now : ℕ)
    (state : SourceState) :
    tracker.unexpired now state = true ↔
      now - state.lastSeen ≤ tracker.partialStateTimeout ∧
        now - state.firstSeen ≤ tracker.sequenceWindow := by
  simp only [unexpired, Bool.and_eq_true, decide_eq_true_eq]
  rfl

/-- A state that is still alive at a later time was alive at every earlier
one. -/
theorem unexpired_of_le (tracker : KnockTracker) {early late : ℕ}
    {state : SourceState} (hle : early ≤ late)
    (hlate : tracker.unexpired late state = true) :
    tracker.unexpired early state = true := by
  rw [unexpired_iff] at hlate ⊢
  omega

/-- Expiring early changes nothing about a later expiry. -/
theorem expire_expire (tracker : KnockTracker) {early late : ℕ}
    (hle : early ≤ late) :
    (tracker.expire early).expire late = tracker.expire late := by
  have hstates := HashMap.retain_retain_of_imp tracker.states
    (fun _ state => tracker.unexpired early state)
    (fun _ state => tracker.unexpired late state)
    (fun _ _ => tracker.unexpired_of_le hle)
  rw [expire]
  congr 1

end KnockTracker

end SshKnock
