import SshKnock.Core.Sharded
import SshKnock.Knock.Tracker

/-!
# One source at a time

What the tracker is for can be said without a table: each source owns a slot
that is empty or holds how far its knock has come, and only its own packets
advance it.  The shared table enters in a single bit, whether there is room to
start.  The tracker refines this automaton: every answer and every partial
state is the one the source's own slot gives.
-/

namespace SshKnock

open SshKnock.Sharded

/-- The knock that opens the door, apart from the size of the table. -/
structure KnockRules where
  sequence : List KnockStep
  sequenceWindow : ℕ
  partialStateTimeout : ℕ
  maxPayloadSize : ℕ

abbrev Slot := Option SourceState

namespace KnockRules

def matchesStep (rules : KnockRules) (stepIndex : ℕ) (packet : KnockPacket) :
    Bool :=
  match rules.sequence[stepIndex]? with
  | none => false
  | some step =>
      step.protocol = packet.protocol && step.port = packet.port &&
        step.size = packet.payloadSize

def unexpired (rules : KnockRules) (now : ℕ) (state : SourceState) : Bool :=
  now - state.lastSeen ≤ rules.partialStateTimeout &&
    now - state.firstSeen ≤ rules.sequenceWindow

/-- A slot forgets a knock that has become too old. -/
def age (rules : KnockRules) (now : ℕ) (slot : Slot) : Slot :=
  slot.filter (rules.unexpired now)

def expected (slot : Slot) : ℕ :=
  slot.elim 0 (·.nextStep)

def start (room : Bool) (now : ℕ) : KnockOutcome × Slot :=
  if room then (.progress 1, some ⟨1, now, now⟩) else (.rejected, none)

/-- The answer to a packet of the slot's source, and the slot after it. -/
def advance (rules : KnockRules) (room : Bool) (packet : KnockPacket)
    (now : ℕ) (slot : Slot) : KnockOutcome × Slot :=
  let slot := rules.age now slot
  if rules.maxPayloadSize < packet.payloadSize then (.oversized, none)
  else if rules.matchesStep (expected slot) packet then
    if expected slot + 1 = rules.sequence.length then (.accepted, none)
    else
      match slot with
      | none => start room now
      | some state =>
          (.progress (state.nextStep + 1),
            some ⟨state.nextStep + 1, state.firstSeen, now⟩)
  else if rules.matchesStep 0 packet then start room now
  else (.rejected, none)

theorem unexpired_iff (rules : KnockRules) (now : ℕ) (state : SourceState) :
    rules.unexpired now state = true ↔
      now - state.lastSeen ≤ rules.partialStateTimeout ∧
        now - state.firstSeen ≤ rules.sequenceWindow := by
  simp only [unexpired, Bool.and_eq_true, decide_eq_true_eq]

theorem age_age (rules : KnockRules) {early late : ℕ} (slot : Slot)
    (hle : early ≤ late) :
    rules.age late (rules.age early slot) = rules.age late slot := by
  cases slot with
  | none => rfl
  | some state =>
      have himp : rules.unexpired late state = true →
          rules.unexpired early state = true := by
        rw [unexpired_iff, unexpired_iff]
        omega
      cases hlate : rules.unexpired late state with
      | false =>
          cases hearly : rules.unexpired early state <;>
            simp [age, Option.filter, hearly, hlate]
      | true => simp [age, Option.filter, himp hlate, hlate]

theorem advance_age (rules : KnockRules) (room : Bool) (packet : KnockPacket)
    (now : ℕ) (slot : Slot) :
    rules.advance room packet now (rules.age now slot) =
      rules.advance room packet now slot := by
  simp only [advance]
  rw [age_age rules slot (Nat.le_refl now)]

theorem lt_length_of_matchesStep {rules : KnockRules} {stepIndex : ℕ}
    {packet : KnockPacket}
    (hmatches : rules.matchesStep stepIndex packet = true) :
    stepIndex < rules.sequence.length := by
  rw [matchesStep] at hmatches
  split at hmatches
  · cases hmatches
  · next step hstep => exact (List.getElem?_eq_some_iff.mp hstep).1

end KnockRules

/-- The knock a configuration asks for. -/
def Config.knockRules (config : Config) : KnockRules :=
  { sequence := config.knock.sequence
    sequenceWindow := Duration.fromSecs config.sequenceWindow
    partialStateTimeout := Duration.fromSecs config.partialStateTimeout
    maxPayloadSize := config.maxPayloadSize }

namespace KnockTracker

def rules (tracker : KnockTracker) : KnockRules :=
  { sequence := tracker.sequence
    sequenceWindow := tracker.sequenceWindow
    partialStateTimeout := tracker.partialStateTimeout
    maxPayloadSize := tracker.maxPayloadSize }

def slot (tracker : KnockTracker) (sourceIp : IpAddr) : Slot :=
  tracker.states.get sourceIp

theorem slot_expire (tracker : KnockTracker) (now : ℕ) (sourceIp : IpAddr) :
    (tracker.expire now).slot sourceIp =
      tracker.rules.age now (tracker.slot sourceIp) :=
  tracker.get_expire now sourceIp

@[simp]
theorem slot_forget_self (tracker : KnockTracker) (sourceIp : IpAddr) :
    (tracker.forget sourceIp).slot sourceIp = none :=
  HashMap.get_remove_self _ _

theorem slot_forget_of_ne (tracker : KnockTracker) {sourceIp other : IpAddr}
    (hne : other ≠ sourceIp) :
    (tracker.forget sourceIp).slot other = tracker.slot other :=
  HashMap.get_remove_of_ne _ hne

@[simp]
theorem slot_record_self (tracker : KnockTracker) (sourceIp : IpAddr)
    (state : SourceState) :
    (tracker.record sourceIp state).slot sourceIp = some state :=
  HashMap.get_insert_self _ _ _

theorem slot_record_of_ne (tracker : KnockTracker) {sourceIp other : IpAddr}
    (state : SourceState) (hne : other ≠ sourceIp) :
    (tracker.record sourceIp state).slot other = tracker.slot other :=
  HashMap.get_insert_of_ne _ _ hne

/-- A tracker that has seen no packet. -/
def fresh (rules : KnockRules) (maxPartialStates : ℕ) : KnockTracker :=
  new rules.sequence rules.sequenceWindow rules.partialStateTimeout
    maxPartialStates rules.maxPayloadSize

theorem slot_fresh (rules : KnockRules) (maxPartialStates : ℕ)
    (sourceIp : IpAddr) : (fresh rules maxPartialStates).slot sourceIp = none :=
  HashMap.get_empty _

/-- Expiry has already dropped every state older than the window. -/
theorem any_late_expire (tracker : KnockTracker) (sourceIp : IpAddr)
    (now : ℕ) :
    ((tracker.expire now).states.get sourceIp).any
      (fun state => (tracker.expire now).sequenceWindow <
        Instant.durationSince now state.firstSeen) = false := by
  rw [get_expire]
  cases hslot : tracker.states.get sourceIp with
  | none => rfl
  | some state =>
      cases hunexpired : tracker.unexpired now state with
      | false => simp [Option.filter, hunexpired]
      | true =>
          have hwindow := ((tracker.unexpired_iff now state).mp hunexpired).2
          simp only [Option.filter, hunexpired, if_true, Option.any_some,
            Instant.durationSince, sequenceWindow_expire]
          exact decide_eq_false (Nat.not_lt.mpr hwindow)

/-- The branch of `process` that tests the window again is never taken. -/
theorem process_eq (tracker : KnockTracker) (packet : KnockPacket) (now : ℕ) :
    tracker.process packet now =
      let expired := tracker.expire now
      let sourceIp := packet.sourceIp
      let expected := expired.expected sourceIp
      if expired.maxPayloadSize < packet.payloadSize then
        (.oversized, expired.forget sourceIp)
      else if expired.matchesStep expected packet then
        if expected + 1 = expired.sequence.length then
          (.accepted, expired.forget sourceIp)
        else if expected = 0 then expired.startPartialState sourceIp now
        else
          (.progress (expected + 1), expired.record sourceIp
            { nextStep := expected + 1
              firstSeen := (expired.states.get sourceIp).elim now (·.firstSeen)
              lastSeen := now })
      else (expired.forget sourceIp).startOrReject packet now := by
  rw [process]
  simp only [any_late_expire, Bool.and_false, Bool.false_eq_true, if_false]
  split
  · rfl
  · cases (tracker.expire now).matchesStep
        ((tracker.expire now).expected packet.sourceIp) packet <;> rfl

end KnockTracker

end SshKnock
