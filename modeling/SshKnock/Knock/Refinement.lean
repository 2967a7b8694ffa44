import Mathlib.Order.Basic
import SshKnock.Knock.Slot

/-!
# The tracker refines independent slots

A tracker that respects its capacity and holds only started, unfinished knocks
answers every packet as the source's own slot does.  The table is then an
instance of a sharded machine, whose runs can be replayed source by source.
-/

namespace SshKnock

open SshKnock.Sharded

namespace KnockTracker

/-- The table respects its capacity and every partial state is a proper,
nonempty part of the sequence. -/
structure Consistent (rules : KnockRules) (capacity : ℕ)
    (tracker : KnockTracker) : Prop where
  rules_eq : tracker.rules = rules
  capacity_eq : tracker.maxPartialStates = capacity
  len_le : tracker.states.len ≤ capacity
  nextStep_pos : ∀ {sourceIp : IpAddr} {state : SourceState},
    tracker.slot sourceIp = some state → 0 < state.nextStep
  nextStep_lt : ∀ {sourceIp : IpAddr} {state : SourceState},
    tracker.slot sourceIp = some state →
      state.nextStep < rules.sequence.length

/-- After expiry the source holds a partial state or the table has room for
one more. -/
def room (tracker : KnockTracker) (packet : KnockPacket) (now : ℕ) : Bool :=
  !(tracker.expire now).atCapacity packet.sourceIp

theorem atCapacity_iff {tracker : KnockTracker} {sourceIp : IpAddr} :
    tracker.atCapacity sourceIp = true ↔
      tracker.slot sourceIp = none ∧
        tracker.maxPartialStates ≤ tracker.states.len := by
  rw [atCapacity, Bool.and_eq_true, decide_eq_true_eq, Bool.not_eq_true',
    HashMap.containsKey_eq_false_iff, slot]

theorem atCapacity_eq_false_of_slot {tracker : KnockTracker}
    {sourceIp : IpAddr} {state : SourceState}
    (hslot : tracker.slot sourceIp = some state) :
    tracker.atCapacity sourceIp = false := by
  rw [← Bool.not_eq_true, atCapacity_iff, hslot]
  simp

theorem matchesStep_eq (tracker : KnockTracker) (stepIndex : ℕ)
    (packet : KnockPacket) :
    tracker.matchesStep stepIndex packet =
      tracker.rules.matchesStep stepIndex packet := rfl

namespace Consistent

variable {rules : KnockRules} {capacity : ℕ} {tracker : KnockTracker}

theorem fresh (rules : KnockRules) (capacity : ℕ) :
    Consistent rules capacity (KnockTracker.fresh rules capacity) where
  rules_eq := rfl
  capacity_eq := rfl
  len_le := Nat.zero_le _
  nextStep_pos hslot := by rw [slot_fresh] at hslot; cases hslot
  nextStep_lt hslot := by rw [slot_fresh] at hslot; cases hslot

theorem expire (htracker : Consistent rules capacity tracker) (now : ℕ) :
    Consistent rules capacity (tracker.expire now) where
  rules_eq := htracker.rules_eq
  capacity_eq := htracker.capacity_eq
  len_le := (tracker.len_expire_le now).trans htracker.len_le
  nextStep_pos hslot := by
    rw [slot_expire, KnockRules.age, Option.filter_eq_some_iff] at hslot
    exact htracker.nextStep_pos hslot.1
  nextStep_lt hslot := by
    rw [slot_expire, KnockRules.age, Option.filter_eq_some_iff] at hslot
    exact htracker.nextStep_lt hslot.1

theorem forget (htracker : Consistent rules capacity tracker)
    (sourceIp : IpAddr) : Consistent rules capacity (tracker.forget sourceIp) where
  rules_eq := htracker.rules_eq
  capacity_eq := htracker.capacity_eq
  len_le := (HashMap.len_remove_le _ _).trans htracker.len_le
  nextStep_pos {other state} hslot := by
    by_cases hother : other = sourceIp
    · rw [hother, slot_forget_self] at hslot
      cases hslot
    · exact htracker.nextStep_pos (slot_forget_of_ne tracker hother ▸ hslot)
  nextStep_lt {other state} hslot := by
    by_cases hother : other = sourceIp
    · rw [hother, slot_forget_self] at hslot
      cases hslot
    · exact htracker.nextStep_lt (slot_forget_of_ne tracker hother ▸ hslot)

/-- Recording a proper part of the sequence keeps the table consistent when
the source is already counted or there is room to count it. -/
theorem record (htracker : Consistent rules capacity tracker)
    {sourceIp : IpAddr} {state : SourceState} (hpos : 0 < state.nextStep)
    (hlt : state.nextStep < rules.sequence.length)
    (hroom : tracker.atCapacity sourceIp = false) :
    Consistent rules capacity (tracker.record sourceIp state) where
  rules_eq := htracker.rules_eq
  capacity_eq := htracker.capacity_eq
  len_le := by
    cases hslot : tracker.states.get sourceIp with
    | some old =>
        exact (HashMap.len_insert_of_get_some _ state hslot).le.trans
          htracker.len_le
    | none =>
        have hlen : ¬tracker.maxPartialStates ≤ tracker.states.len :=
          fun hfull => Bool.eq_false_iff.mp hroom
            (atCapacity_iff.mpr ⟨hslot, hfull⟩)
        rw [htracker.capacity_eq] at hlen
        exact (HashMap.len_insert_le _ _ _).trans (Nat.not_le.mp hlen)
  nextStep_pos {other found} hslot := by
    by_cases hother : other = sourceIp
    · rw [hother, slot_record_self, Option.some.injEq] at hslot
      exact hslot ▸ hpos
    · exact htracker.nextStep_pos (slot_record_of_ne tracker state hother ▸ hslot)
  nextStep_lt {other found} hslot := by
    by_cases hother : other = sourceIp
    · rw [hother, slot_record_self, Option.some.injEq] at hslot
      exact hslot ▸ hlt
    · exact htracker.nextStep_lt (slot_record_of_ne tracker state hother ▸ hslot)

theorem sequence_eq (htracker : Consistent rules capacity tracker) :
    tracker.sequence = rules.sequence :=
  congrArg KnockRules.sequence htracker.rules_eq

theorem maxPayloadSize_eq (htracker : Consistent rules capacity tracker) :
    tracker.maxPayloadSize = rules.maxPayloadSize :=
  congrArg KnockRules.maxPayloadSize htracker.rules_eq

theorem matchesStep_rules (htracker : Consistent rules capacity tracker)
    (stepIndex : ℕ) (packet : KnockPacket) :
    tracker.matchesStep stepIndex packet =
      rules.matchesStep stepIndex packet := by
  rw [matchesStep_eq, htracker.rules_eq]

theorem slot_expired (htracker : Consistent rules capacity tracker) (now : ℕ)
    (sourceIp : IpAddr) :
    (tracker.expire now).slot sourceIp =
      rules.age now (tracker.slot sourceIp) := by
  rw [slot_expire, htracker.rules_eq]

/-- Dropping the source's own state first never changes the capacity test: a
counted source frees the place it takes. -/
theorem atCapacity_forget (htracker : Consistent rules capacity tracker)
    (sourceIp : IpAddr) :
    (tracker.forget sourceIp).atCapacity sourceIp =
      tracker.atCapacity sourceIp := by
  cases hslot : tracker.slot sourceIp with
  | none =>
      rw [KnockTracker.forget, HashMap.remove_of_get_none _ hslot]
  | some state =>
      have hlen : (tracker.forget sourceIp).states.len + 1 =
          tracker.states.len :=
        HashMap.len_remove_of_get_some tracker.states hslot
      have hbound := htracker.len_le
      have hcapacity : (tracker.forget sourceIp).maxPartialStates = capacity :=
        htracker.capacity_eq
      rw [atCapacity_eq_false_of_slot hslot, ← Bool.not_eq_true,
        atCapacity_iff]
      omega

end Consistent

/-- `result` leaves the table consistent, gives `answer` to `sourceIp` and
touches no other source. -/
structure Answers (rules : KnockRules) (capacity : ℕ) (tracker : KnockTracker)
    (sourceIp : IpAddr) (answer : KnockOutcome × Slot)
    (result : KnockOutcome × KnockTracker) : Prop where
  consistent : Consistent rules capacity result.2
  outcome_eq : result.1 = answer.1
  slot_eq : result.2.slot sourceIp = answer.2
  slot_other : ∀ other, other ≠ sourceIp →
    result.2.slot other = tracker.slot other

variable {rules : KnockRules} {capacity : ℕ} {tracker : KnockTracker}

theorem answers_forget (htracker : Consistent rules capacity tracker)
    (sourceIp : IpAddr) (outcome : KnockOutcome) :
    Answers rules capacity tracker sourceIp (outcome, none)
      (outcome, tracker.forget sourceIp) where
  consistent := htracker.forget sourceIp
  outcome_eq := rfl
  slot_eq := slot_forget_self _ _
  slot_other _ hne := slot_forget_of_ne _ hne

theorem answers_record (htracker : Consistent rules capacity tracker)
    {sourceIp : IpAddr} {state : SourceState} (outcome : KnockOutcome)
    (hpos : 0 < state.nextStep)
    (hlt : state.nextStep < rules.sequence.length)
    (hroom : tracker.atCapacity sourceIp = false) :
    Answers rules capacity tracker sourceIp (outcome, some state)
      (outcome, tracker.record sourceIp state) where
  consistent := htracker.record hpos hlt hroom
  outcome_eq := rfl
  slot_eq := slot_record_self _ _ _
  slot_other _ hne := slot_record_of_ne _ _ hne

theorem answers_startPartialState
    (htracker : Consistent rules capacity tracker) (sourceIp : IpAddr)
    (now : ℕ) (hlength : 1 < rules.sequence.length) :
    Answers rules capacity tracker sourceIp
      (KnockRules.start (!tracker.atCapacity sourceIp) now)
      (tracker.startPartialState sourceIp now) := by
  rw [startPartialState, KnockRules.start]
  cases hfull : tracker.atCapacity sourceIp with
  | true =>
      exact ⟨htracker, rfl, (atCapacity_iff.mp hfull).1, fun _ _ => rfl⟩
  | false => exact answers_record htracker _ Nat.one_pos hlength hfull

theorem answers_restart (htracker : Consistent rules capacity tracker)
    (packet : KnockPacket) (now : ℕ)
    (hlength : rules.matchesStep 0 packet = true → 1 < rules.sequence.length) :
    Answers rules capacity tracker packet.sourceIp
      (if rules.matchesStep 0 packet then
        KnockRules.start (!tracker.atCapacity packet.sourceIp) now
      else (.rejected, none))
      ((tracker.forget packet.sourceIp).startOrReject packet now) := by
  have hforget := htracker.forget packet.sourceIp
  rw [startOrReject, matchesStep_eq, hforget.rules_eq]
  split
  · next hmatches =>
      have hstart := answers_startPartialState hforget packet.sourceIp now
        (hlength hmatches)
      rw [htracker.atCapacity_forget] at hstart
      exact { hstart with
        slot_other := fun other hne =>
          (hstart.slot_other other hne).trans (slot_forget_of_ne _ hne) }
  · exact answers_forget htracker packet.sourceIp .rejected

/-- One packet: the source's slot decides, all other slots only age. -/
theorem answers_process (htracker : Consistent rules capacity tracker)
    (packet : KnockPacket) (now : ℕ) :
    Answers rules capacity (tracker.expire now) packet.sourceIp
      (rules.advance (tracker.room packet now) packet now
        (tracker.slot packet.sourceIp))
      (tracker.process packet now) := by
  have hexpired := htracker.expire now
  have hexpected : (tracker.expire now).expected packet.sourceIp =
      KnockRules.expected ((tracker.expire now).slot packet.sourceIp) := rfl
  rw [process_eq, KnockRules.advance, ← htracker.slot_expired]
  simp only [hexpired.maxPayloadSize_eq, hexpired.matchesStep_rules,
    hexpired.sequence_eq, hexpected]
  split
  · exact answers_forget hexpired packet.sourceIp .oversized
  cases hstate : (tracker.expire now).slot packet.sourceIp with
  | none =>
      have hrestart := answers_restart hexpired packet now
      have hnext : KnockRules.expected none = 0 := rfl
      simp only [hnext, Nat.zero_add, if_true]
      by_cases hfirst : rules.matchesStep 0 packet = true
      · have hlt := KnockRules.lt_length_of_matchesStep hfirst
        simp only [if_pos hfirst]
        split
        · exact answers_forget hexpired packet.sourceIp .accepted
        · exact answers_startPartialState hexpired packet.sourceIp now
            (by omega)
      · simp only [if_neg hfirst] at hrestart ⊢
        exact hrestart fun hmatch => absurd hmatch hfirst
  | some state =>
      have hpos := hexpired.nextStep_pos hstate
      have hlt := hexpired.nextStep_lt hstate
      have hget : (tracker.expire now).states.get packet.sourceIp =
        some state := hstate
      have hnext : KnockRules.expected (some state) = state.nextStep := rfl
      simp only [hnext, hget, Option.elim_some, Nat.ne_of_gt hpos, if_false]
      by_cases hstep : rules.matchesStep state.nextStep packet = true
      · simp only [if_pos hstep]
        split
        · exact answers_forget hexpired packet.sourceIp .accepted
        · exact answers_record hexpired _ (Nat.succ_pos _)
            (by simp only; omega) (atCapacity_eq_false_of_slot hstate)
      · simp only [if_neg hstep]
        exact answers_restart hexpired packet now fun _ => by omega

/-- The tracker as a table of slots. -/
def machine (rules : KnockRules) (capacity : ℕ) :
    Machine KnockTracker IpAddr KnockPacket Bool KnockOutcome Slot where
  owner := KnockPacket.sourceIp
  step := process
  cell := slot
  hint := room
  advance := rules.advance
  age := rules.age
  Good := Consistent rules capacity
  age_age := rules.age_age
  advance_age := rules.advance_age
  good_step packet now htracker := (answers_process htracker packet now).consistent
  output_step packet now htracker := (answers_process htracker packet now).outcome_eq
  cell_step_owner packet now htracker := (answers_process htracker packet now).slot_eq
  cell_step_other packet now other htracker hne := by
    rw [(answers_process htracker packet now).slot_other other hne,
      htracker.slot_expired]

/-- A packet handed to the tracker, with its time and its outcome. -/
abbrev KnockCall := Entry KnockPacket Bool KnockOutcome

/-- The answers of `tracker` to a run of packets. -/
def trace (tracker : KnockTracker) (calls : List (KnockPacket × ℕ)) :
    List KnockCall :=
  (machine tracker.rules tracker.maxPartialStates).trace tracker calls

theorem trace_eq {rules : KnockRules} {capacity : ℕ} {tracker : KnockTracker}
    (htracker : Consistent rules capacity tracker)
    (calls : List (KnockPacket × ℕ)) :
    tracker.trace calls = (machine rules capacity).trace tracker calls := by
  rw [trace, htracker.rules_eq, htracker.capacity_eq]

/-- The tracker after a run of packets. -/
def after (tracker : KnockTracker) (calls : List (KnockPacket × ℕ)) :
    KnockTracker :=
  (machine tracker.rules tracker.maxPartialStates).final tracker calls

/-- The packets of a run that one source sent. -/
def packetsOf (sourceIp : IpAddr) (calls : List (KnockPacket × ℕ)) :
    List (KnockPacket × ℕ) :=
  calls.filter fun call => call.1.sourceIp = sourceIp

/-- The calls of a trace made for one source. -/
def callsOf (sourceIp : IpAddr) (calls : List KnockCall) : List KnockCall :=
  calls.filter fun call => call.input.sourceIp = sourceIp

theorem map_call_callsOf (tracker : KnockTracker) (sourceIp : IpAddr)
    (calls : List (KnockPacket × ℕ)) :
    (callsOf sourceIp (tracker.trace calls)).map
        (fun call => (call.input, call.time)) = packetsOf sourceIp calls := by
  have hcalls := (machine tracker.rules tracker.maxPartialStates).map_call_trace
    tracker calls
  conv_rhs => rw [packetsOf, ← hcalls, List.filter_map]
  rfl

theorem consistent_after {rules : KnockRules} {capacity : ℕ}
    {tracker : KnockTracker} (htracker : Consistent rules capacity tracker)
    (calls : List (KnockPacket × ℕ)) :
    Consistent rules capacity (tracker.after calls) := by
  have hfinal := (machine rules capacity).good_final calls htracker
  rw [after, htracker.rules_eq, htracker.capacity_eq]
  exact hfinal

/-- The calls for one source in a run of a fresh tracker are a history of one
slot. -/
theorem replays_callsOf (rules : KnockRules) (capacity : ℕ)
    {calls : List (KnockPacket × ℕ)} (hcalls : Chronological calls)
    (sourceIp : IpAddr) :
    (machine rules capacity).Replays none
      (callsOf sourceIp ((fresh rules capacity).trace calls)) :=
  (machine rules capacity).replays_own 0 sourceIp
    (Consistent.fresh rules capacity) (fun _ _ => Nat.zero_le _) hcalls
    (congrArg _ (slot_fresh rules capacity sourceIp))

/-! ## The knock of the tracker tests -/

def testRules : KnockRules :=
  { sequence := [⟨.udp, some 40101, 64⟩, ⟨.udp, some 40102, 128⟩,
      ⟨.udp, some 40103, 96⟩]
    sequenceWindow := Duration.fromSecs 5
    partialStateTimeout := Duration.fromSecs 10
    maxPayloadSize := 512 }

def testSource (host : UInt8) : IpAddr :=
  .v4 ⟨192, 0, 2, host⟩

def testPacket (host : UInt8) (port : UInt16) (size : ℕ) : KnockPacket :=
  { sourceIp := testSource host, protocol := .udp, port := some port
    payloadSize := size }

end KnockTracker

end SshKnock
