import SshKnock.Knock.Isolation
import SshKnock.Knock.Soundness

/-!
# What the table of partial states always looks like

After every packet each entry is a proper part of the sequence that is still
within both deadlines, and the outcome says whether the source of the packet
has an entry.  Other sources lose theirs only to a deadline.
-/

namespace SshKnock

open SshKnock.Sharded

/-- An entry of the table at a time. -/
structure SourceState.Live (state : SourceState) (rules : KnockRules)
    (now : ℕ) : Prop where
  nextStep_pos : 1 ≤ state.nextStep
  nextStep_lt : state.nextStep < rules.sequence.length
  firstSeen_le : state.firstSeen ≤ state.lastSeen
  lastSeen_le : state.lastSeen ≤ now
  within_window : now - state.firstSeen ≤ rules.sequenceWindow
  within_timeout : now - state.lastSeen ≤ rules.partialStateTimeout

/-- One of the two deadlines of the entry has passed. -/
def SourceState.Expired (state : SourceState) (rules : KnockRules)
    (now : ℕ) : Prop :=
  rules.partialStateTimeout < now - state.lastSeen ∨
    rules.sequenceWindow < now - state.firstSeen

namespace KnockRules

theorem unexpired_eq_false_iff (rules : KnockRules) (now : ℕ)
    (state : SourceState) :
    rules.unexpired now state = false ↔ state.Expired rules now := by
  rw [← Bool.not_eq_true, unexpired_iff, SourceState.Expired]
  omega

/-- The times of an entry are in order, and it was last touched by a call. -/
def Stamped (past : List (KnockPacket × ℕ)) (slot : Slot) : Prop :=
  ∀ state ∈ slot, state.firstSeen ≤ state.lastSeen ∧
    ∃ call ∈ past, call.2 = state.lastSeen

theorem Stamped.mono {past later : List (KnockPacket × ℕ)} {slot : Slot}
    (hstamped : Stamped past slot) : Stamped (past ++ later) slot := by
  intro state hstate
  obtain ⟨hle, call, hcall, htime⟩ := hstamped state hstate
  exact ⟨hle, call, List.mem_append_left later hcall, htime⟩

theorem Stamped.lastSeen_le {past : List (KnockPacket × ℕ)} {slot : Slot}
    (hstamped : Stamped past slot) {now : ℕ}
    (hpast : ∀ call ∈ past, call.2 ≤ now) {state : SourceState}
    (hstate : state ∈ slot) : state.lastSeen ≤ now := by
  obtain ⟨-, call, hcall, htime⟩ := hstamped state hstate
  exact htime ▸ hpast call hcall

theorem Stamped.age {past : List (KnockPacket × ℕ)} {slot : Slot}
    (hstamped : Stamped past slot) (rules : KnockRules) (now : ℕ) :
    Stamped past (rules.age now slot) := by
  intro state hstate
  exact hstamped state (Option.filter_eq_some_iff.mp hstate).1

/-- A call stamps the entry it starts or carries further. -/
theorem Stamped.advance {past : List (KnockPacket × ℕ)} {slot : Slot}
    (hstamped : Stamped past slot) (rules : KnockRules) (room : Bool)
    {packet : KnockPacket} {now : ℕ} (hpast : ∀ call ∈ past, call.2 ≤ now) :
    Stamped (past ++ [(packet, now)])
      (rules.advance room packet now slot).2 := by
  have hnow : ∃ call ∈ past ++ [(packet, now)], call.2 = now :=
    ⟨(packet, now), List.mem_append_right past List.mem_cons_self, rfl⟩
  have hadvanced := rules.advanced room packet now slot
  generalize rules.advance room packet now slot = answer at hadvanced ⊢
  cases hadvanced with
  | oversized | rejected | acceptedAtOnce | accepted =>
      rintro _ ⟨⟩
  | started =>
      rintro _ ⟨⟩
      exact ⟨le_rfl, hnow⟩
  | progressed state _ hslot =>
      rintro _ ⟨⟩
      have hle := (hstamped state hslot).1
      exact ⟨hle.trans (hstamped.lastSeen_le hpast hslot), hnow⟩

/-- The entry a call leaves to its own source is within both deadlines. -/
theorem unexpired_of_advance (rules : KnockRules) (room : Bool)
    (packet : KnockPacket) (now : ℕ) (slot : Slot) :
    ∀ state ∈ (rules.advance room packet now slot).2,
      rules.unexpired now state = true := by
  have hfresh : ∀ limit, now - now ≤ limit := by omega
  have hadvanced := rules.advanced room packet now slot
  generalize rules.advance room packet now slot = answer at hadvanced ⊢
  cases hadvanced with
  | oversized | rejected | acceptedAtOnce | accepted =>
      rintro _ ⟨⟩
  | started =>
      rintro _ ⟨⟩
      exact (rules.unexpired_iff _ _).mpr ⟨hfresh _, hfresh _⟩
  | progressed state _ _ hunexpired =>
      rintro _ ⟨⟩
      have hwindow := ((rules.unexpired_iff now state).mp hunexpired).2
      exact (rules.unexpired_iff _ _).mpr ⟨hfresh _, hwindow⟩

/-- Progress is answered exactly when an entry is left, and names its next
step. -/
theorem advance_progress_iff (rules : KnockRules) (room : Bool)
    (packet : KnockPacket) (now : ℕ) (slot : Slot) (nextStep : ℕ) :
    (rules.advance room packet now slot).1 = .progress nextStep ↔
      ∃ state, (rules.advance room packet now slot).2 = some state ∧
        state.nextStep = nextStep := by
  have hadvanced := rules.advanced room packet now slot
  generalize rules.advance room packet now slot = answer at hadvanced ⊢
  cases hadvanced <;> simp

end KnockRules

namespace KnockTracker

variable {rules : KnockRules} {capacity : ℕ}

/-- The packet reaches the branch of `process` that restarts a sequence older
than the window. -/
def lateSequence (tracker : KnockTracker) (packet : KnockPacket)
    (now : ℕ) : Bool :=
  let tracker := tracker.expire now
  let sourceIp := packet.sourceIp
  if tracker.maxPayloadSize < packet.payloadSize then false
  else
    0 < tracker.expected sourceIp &&
      (tracker.states.get sourceIp).any fun state =>
        tracker.sequenceWindow < Instant.durationSince now state.firstSeen

theorem lateSequence_eq_false (tracker : KnockTracker) (packet : KnockPacket)
    (now : ℕ) : tracker.lateSequence packet now = false := by
  simp only [lateSequence]
  rw [any_late_expire, Bool.and_false, ite_self]

/-- Every entry was stamped by a call of the run. -/
theorem keeps_stamped (rules : KnockRules) (capacity : ℕ) :
    (machine rules capacity).Keeps fun past _ => KnockRules.Stamped past where
  own room hpast hstamped := hstamped.advance rules room hpast
  other {_ _ time _ _} _ _ hstamped := (hstamped.age rules time).mono

theorem stamped_after (rules : KnockRules) (capacity : ℕ)
    {calls : List (KnockPacket × ℕ)} (hcalls : Chronological calls)
    (sourceIp : IpAddr) :
    KnockRules.Stamped calls
      (((fresh rules capacity).after calls).slot sourceIp) :=
  (keeps_stamped rules capacity).final (Consistent.fresh rules capacity)
    (fun other state hstate => by
      have hnone : (fresh rules capacity).slot other = some state := hstate
      rw [slot_fresh] at hnone
      cases hnone)
    hcalls sourceIp

/-- The table after a call at a time. -/
structure Represents (rules : KnockRules) (capacity now : ℕ)
    (tracker : KnockTracker) : Prop where
  len_le : tracker.len ≤ capacity
  live : ∀ (sourceIp : IpAddr) (state : SourceState),
    tracker.slot sourceIp = some state → state.Live rules now

/-- How the outcome of a call and the table it leaves answer to the table it
found. -/
structure Corresponds (rules : KnockRules) (tracker : KnockTracker)
    (packet : KnockPacket) (now : ℕ)
    (result : KnockOutcome × KnockTracker) : Prop where
  progress_iff : ∀ nextStep, result.1 = .progress nextStep ↔
    ∃ state, result.2.slot packet.sourceIp = some state ∧
      state.nextStep = nextStep
  settled : result.1 = .rejected ∨ result.1 = .oversized ∨
    result.1 = .accepted → result.2.slot packet.sourceIp = none
  others : ∀ other, other ≠ packet.sourceIp →
    result.2.slot other = tracker.slot other ∨
      result.2.slot other = none ∧
        ∃ state ∈ tracker.slot other, state.Expired rules now
  holder : ∀ state ∈ tracker.slot packet.sourceIp,
    ¬state.Expired rules now → tracker.refusedForCapacity packet now = false
  never_late : tracker.lateSequence packet now = false

variable {tracker : KnockTracker}

/-- A call finds a table whose stamps are in order and leaves live entries. -/
theorem represents_process (htracker : Consistent rules capacity tracker)
    {past : List (KnockPacket × ℕ)} {packet : KnockPacket} {now : ℕ}
    (hpast : ∀ call ∈ past, call.2 ≤ now)
    (hstamped : ∀ sourceIp, KnockRules.Stamped past (tracker.slot sourceIp)) :
    Represents rules capacity now (tracker.process packet now).2 := by
  have hanswers := answers_process htracker packet now
  have hprocessed := hanswers.consistent
  refine ⟨hprocessed.len_le, fun sourceIp state hslot => ?_⟩
  have hunexpired : rules.unexpired now state = true := by
    by_cases hown : sourceIp = packet.sourceIp
    · rw [hown, hanswers.slot_eq] at hslot
      exact rules.unexpired_of_advance _ packet now _ state hslot
    · rw [hanswers.slot_other sourceIp hown, slot_expire,
        htracker.rules_eq] at hslot
      exact (Option.filter_eq_some_iff.mp hslot).2
  have hstamps : KnockRules.Stamped (past ++ [(packet, now)])
      ((tracker.process packet now).2.slot sourceIp) := by
    by_cases hown : sourceIp = packet.sourceIp
    · rw [hown, hanswers.slot_eq]
      exact (hstamped packet.sourceIp).advance rules _ hpast
    · rw [hanswers.slot_other sourceIp hown, htracker.slot_expired]
      exact ((hstamped sourceIp).age rules now).mono
  have hcalls : ∀ call ∈ past ++ [(packet, now)], call.2 ≤ now := by
    intro call hcall
    rcases List.mem_append.mp hcall with hold | hnew
    · exact hpast call hold
    · rw [List.mem_singleton.mp hnew]
  obtain ⟨htimeout, hwindow⟩ := (rules.unexpired_iff now state).mp hunexpired
  exact ⟨hprocessed.nextStep_pos hslot, hprocessed.nextStep_lt hslot,
    (hstamps state hslot).1, hstamps.lastSeen_le hcalls hslot, hwindow,
    htimeout⟩

theorem corresponds_process (htracker : Consistent rules capacity tracker)
    (packet : KnockPacket) (now : ℕ) :
    Corresponds rules tracker packet now (tracker.process packet now) := by
  have hanswers := answers_process htracker packet now
  have hprogress : ∀ nextStep,
      (tracker.process packet now).1 = .progress nextStep ↔
        ∃ state, (tracker.process packet now).2.slot packet.sourceIp =
          some state ∧ state.nextStep = nextStep := by
    rw [hanswers.outcome_eq, hanswers.slot_eq]
    exact rules.advance_progress_iff _ packet now _
  refine ⟨hprogress, ?_, ?_, ?_, tracker.lateSequence_eq_false packet now⟩
  · intro houtcome
    by_contra hsome
    obtain ⟨state, hstate⟩ := Option.ne_none_iff_exists'.mp hsome
    have hnext := (hprogress state.nextStep).mpr ⟨state, hstate, rfl⟩
    rw [hnext] at houtcome
    simp at houtcome
  · intro other hother
    rw [hanswers.slot_other other hother, htracker.slot_expired]
    cases hslot : tracker.slot other with
    | none => exact Or.inl rfl
    | some state =>
        cases hunexpired : rules.unexpired now state with
        | true =>
            exact Or.inl (Option.filter_eq_some_iff.mpr ⟨rfl, hunexpired⟩)
        | false =>
            have hexpired := (rules.unexpired_eq_false_iff now state).mp
              hunexpired
            refine Or.inr ⟨?_, state, rfl, hexpired⟩
            rw [KnockRules.age, Option.filter_some_neg]
            simp [hunexpired]
  · intro state hslot hlive
    have hunexpired : rules.unexpired now state = true := by
      rw [← Bool.not_eq_false, rules.unexpired_eq_false_iff]
      exact hlive
    have hheld : (tracker.expire now).slot packet.sourceIp = some state := by
      rw [htracker.slot_expired]
      exact Option.filter_eq_some_iff.mpr ⟨hslot, hunexpired⟩
    rw [refusedForCapacity_eq htracker, room,
      atCapacity_eq_false_of_slot hheld, Bool.not_false, Bool.not_true,
      Bool.and_false]

/-- After every packet of every run the table is in shape and the outcome
tells what it holds for the packet's source. -/
theorem table_represented (rules : KnockRules) (capacity : ℕ)
    (calls : List (KnockPacket × ℕ)) (packet : KnockPacket) (now : ℕ)
    (hcalls : Chronological (calls ++ [(packet, now)])) :
    let reached := (fresh rules capacity).after calls
    Represents rules capacity now (reached.process packet now).2 ∧
      Corresponds rules reached packet now (reached.process packet now) := by
  obtain ⟨hpast, -, hordered⟩ := List.pairwise_append.mp hcalls
  have hreached := consistent_after (Consistent.fresh rules capacity) calls
  have hnow : ∀ call ∈ calls, call.2 ≤ now := fun call hcall =>
    hordered call hcall (packet, now) (List.mem_singleton_self _)
  exact ⟨represents_process hreached hnow (stamped_after rules capacity hpast),
    corresponds_process hreached packet now⟩

theorem table_represented_abandoned :
    let reached := (fresh testRules 1).after
      [(testPacket 1 40101 64, 0), (testPacket 2 40101 64, 1)]
    Represents testRules 1 2
        (reached.process (testPacket 1 40102 128) 2).2 ∧
      Corresponds testRules reached (testPacket 1 40102 128) 2
        (reached.process (testPacket 1 40102 128) 2) :=
  table_represented testRules 1 _ (testPacket 1 40102 128) 2 (by decide)

end KnockTracker

end SshKnock
