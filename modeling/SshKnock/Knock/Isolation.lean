import SshKnock.Knock.Soundness

/-!
# Sources do not disturb each other

A source that never meets a full table gets the answers it would get from a
tracker of its own.  Expiry, which every packet triggers for all sources, can
be inserted anywhere without changing an answer.
-/

namespace SshKnock

open SshKnock.Sharded

namespace KnockRules

/-- The packet would start a new partial state, so the answer depends on
whether there is room. -/
def asksRoom (rules : KnockRules) (packet : KnockPacket) (now : ℕ)
    (slot : Slot) : Bool :=
  let slot := rules.age now slot
  packet.payloadSize ≤ rules.maxPayloadSize &&
    if rules.matchesStep (expected slot) packet then
      slot.isNone && rules.sequence.length ≠ 1
    else rules.matchesStep 0 packet

theorem asksRoom_age (rules : KnockRules) (packet : KnockPacket) (now : ℕ)
    (slot : Slot) :
    rules.asksRoom packet now (rules.age now slot) =
      rules.asksRoom packet now slot := by
  simp only [asksRoom]
  rw [rules.age_age slot (Nat.le_refl now)]

/-- Room is only consulted to start a partial state. -/
theorem advance_eq_of_not_asksRoom {rules : KnockRules} {packet : KnockPacket}
    {now : ℕ} {slot : Slot} (left right : Bool)
    (hasks : rules.asksRoom packet now slot = false) :
    rules.advance left packet now slot =
      rules.advance right packet now slot := by
  rw [asksRoom] at hasks
  simp only [advance]
  split
  · rfl
  next hsize =>
  rw [decide_eq_true (Nat.not_lt.mp hsize), Bool.true_and] at hasks
  split at hasks
  · next hmatches =>
      simp only [if_pos hmatches]
      cases haged : rules.age now slot with
      | none =>
          simp only [haged, Option.isNone_none, Bool.true_and,
            decide_eq_false_iff_not, ne_eq, not_not] at hasks
          have hfinished : expected none + 1 = rules.sequence.length :=
            hasks.symm
          simp only [if_pos hfinished]
      | some state => rfl
  · next hmismatch => simp only [if_neg hmismatch, hasks, Bool.false_eq_true, if_false]

/-- A packet that asks for room is answered as one that starts the sequence. -/
theorem answer_of_asksRoom {rules : KnockRules} {packet : KnockPacket}
    {now : ℕ} {slot : Slot} (room : Bool)
    (hasks : rules.asksRoom packet now slot = true) :
    (rules.advance room packet now slot).1 = (start room now).1 := by
  rw [asksRoom] at hasks
  rw [advance]
  simp only [Bool.and_eq_true, decide_eq_true_eq] at hasks ⊢
  obtain ⟨hsize, hasks⟩ := hasks
  rw [if_neg (Nat.not_lt.mpr hsize)]
  cases haged : rules.age now slot with
  | none =>
      rw [haged] at hasks
      by_cases hmatches : rules.matchesStep (expected none) packet = true
      · rw [if_pos hmatches, Option.isNone_none, Bool.true_and,
          decide_eq_true_eq] at hasks
        have hunfinished : ¬expected none + 1 = rules.sequence.length :=
          fun hfinished => hasks hfinished.symm
        simp only [if_pos hmatches, if_neg hunfinished]
      · rw [if_neg hmatches] at hasks
        simp only [if_neg hmatches, if_pos hasks]
  | some state =>
      rw [haged] at hasks
      by_cases hmatches :
          rules.matchesStep (expected (some state)) packet = true
      · simp [hmatches] at hasks
      · rw [if_neg hmatches] at hasks
        simp only [if_neg hmatches, if_pos hasks]

end KnockRules

namespace KnockTracker

/-- The packet reaches `startPartialState`, whose capacity test refuses it. -/
def refusedForCapacity (tracker : KnockTracker) (packet : KnockPacket)
    (now : ℕ) : Bool :=
  let tracker := tracker.expire now
  let sourceIp := packet.sourceIp
  if tracker.maxPayloadSize < packet.payloadSize then false
  else
    let expected := tracker.expected sourceIp
    if tracker.matchesStep expected packet then
      expected + 1 ≠ tracker.sequence.length && expected = 0 &&
        tracker.atCapacity sourceIp
    else
      tracker.matchesStep 0 packet &&
        (tracker.forget sourceIp).atCapacity sourceIp

/-- No packet of `sourceIp` in the run is refused for lack of capacity. -/
def NeverRefused (sourceIp : IpAddr) (tracker : KnockTracker) :
    List (KnockPacket × ℕ) → Prop
  | [] => True
  | (packet, now) :: calls =>
      (packet.sourceIp = sourceIp →
          tracker.refusedForCapacity packet now = false) ∧
        NeverRefused sourceIp (tracker.process packet now).2 calls

variable {rules : KnockRules} {capacity : ℕ} {tracker : KnockTracker}

theorem refusedForCapacity_eq (htracker : Consistent rules capacity tracker)
    (packet : KnockPacket) (now : ℕ) :
    tracker.refusedForCapacity packet now =
      (rules.asksRoom packet now (tracker.slot packet.sourceIp) &&
        !tracker.room packet now) := by
  have hexpired := htracker.expire now
  have hexpected : (tracker.expire now).expected packet.sourceIp =
      KnockRules.expected ((tracker.expire now).slot packet.sourceIp) := rfl
  rw [refusedForCapacity, KnockRules.asksRoom, room, ← htracker.slot_expired]
  simp only [hexpired.maxPayloadSize_eq, hexpired.matchesStep_rules,
    hexpired.sequence_eq, hexpected, hexpired.atCapacity_forget, Bool.not_not]
  split
  · next hsize => simp [Nat.not_le.mpr hsize]
  next hsize =>
  rw [decide_eq_true (Nat.not_lt.mp hsize), Bool.true_and]
  cases hstate : (tracker.expire now).slot packet.sourceIp with
  | none =>
      have hnext : KnockRules.expected none = 0 := rfl
      simp only [hnext]
      split <;> simp [eq_comm]
  | some state =>
      have hpos := hexpired.nextStep_pos hstate
      have hnext : KnockRules.expected (some state) = state.nextStep := rfl
      simp only [hnext]
      split
      · simp [Nat.ne_of_gt hpos]
      · rfl

/-- A refused packet is answered as such. -/
theorem process_of_refusedForCapacity
    (htracker : Consistent rules capacity tracker) {packet : KnockPacket}
    {now : ℕ} (hrefused : tracker.refusedForCapacity packet now = true) :
    (tracker.process packet now).1 = .rejected := by
  rw [refusedForCapacity_eq htracker, Bool.and_eq_true,
    Bool.not_eq_true'] at hrefused
  obtain ⟨hasks, hroom⟩ := hrefused
  rw [(answers_process htracker packet now).outcome_eq, hroom]
  exact KnockRules.answer_of_asksRoom false hasks

/-- A tracker that holds no other source has room whenever a fuller one has. -/
theorem room_alone {joint solo : KnockTracker} {packet : KnockPacket}
    {now : ℕ} (hjoint : Consistent rules capacity joint)
    (hsolo : Consistent rules capacity solo)
    (hslot : rules.age now (joint.slot packet.sourceIp) =
      rules.age now (solo.slot packet.sourceIp))
    (hothers : ∀ other, other ≠ packet.sourceIp → solo.slot other = none)
    (hroom : joint.room packet now = true) : solo.room packet now = true := by
  rw [room, Bool.not_eq_true', ← Bool.not_eq_true, atCapacity_iff] at hroom ⊢
  rintro ⟨hnone, hfull⟩
  have hempty : (solo.expire now).states.len = 0 := by
    apply HashMap.len_eq_zero_of_get_none
    intro other
    by_cases hother : other = packet.sourceIp
    · rw [hother]
      exact hnone
    · have haged := slot_expire solo now other
      rw [hothers other hother] at haged
      exact haged
  rw [(hsolo.expire now).capacity_eq, hempty] at hfull
  rw [slot_expire, hsolo.rules_eq, ← hslot] at hnone
  refine hroom ⟨?_, ?_⟩
  · rw [slot_expire, hjoint.rules_eq, hnone]
  · rw [(hjoint.expire now).capacity_eq]
    exact hfull.trans (Nat.zero_le _)

/-- The solo tracker `solo` shadows the source's part of `joint`. -/
structure Shadows (rules : KnockRules) (capacity : ℕ) (sourceIp : IpAddr)
    (now : ℕ) (joint solo : KnockTracker) : Prop where
  joint_consistent : Consistent rules capacity joint
  solo_consistent : Consistent rules capacity solo
  slot_eq : rules.age now (joint.slot sourceIp) =
    rules.age now (solo.slot sourceIp)
  others_none : ∀ other, other ≠ sourceIp → solo.slot other = none

theorem Shadows.fresh (rules : KnockRules) (capacity : ℕ)
    (sourceIp : IpAddr) :
    Shadows rules capacity sourceIp 0 (fresh rules capacity)
      (fresh rules capacity) where
  joint_consistent := Consistent.fresh rules capacity
  solo_consistent := Consistent.fresh rules capacity
  slot_eq := rfl
  others_none other _ := slot_fresh rules capacity other

/-- A packet of another source is invisible to the shadow. -/
theorem Shadows.process_other {sourceIp : IpAddr} {early late : ℕ}
    {joint solo : KnockTracker}
    (hshadows : Shadows rules capacity sourceIp early joint solo)
    (hle : early ≤ late) {packet : KnockPacket}
    (hother : packet.sourceIp ≠ sourceIp) :
    Shadows rules capacity sourceIp late (joint.process packet late).2 solo where
  joint_consistent :=
    (answers_process hshadows.joint_consistent packet late).consistent
  solo_consistent := hshadows.solo_consistent
  slot_eq := (machine rules capacity).age_cell_step_other
    packet hshadows.joint_consistent hle (Ne.symm hother) hshadows.slot_eq
  others_none := hshadows.others_none

/-- A packet of the source itself, unless refused for capacity, is answered
alike and advances both alike. -/
theorem Shadows.process_own {early late : ℕ} {joint solo : KnockTracker}
    {packet : KnockPacket}
    (hshadows : Shadows rules capacity packet.sourceIp early joint solo)
    (hle : early ≤ late)
    (hrefused : joint.refusedForCapacity packet late = false) :
    (joint.process packet late).1 = (solo.process packet late).1 ∧
      Shadows rules capacity packet.sourceIp late (joint.process packet late).2
        (solo.process packet late).2 := by
  obtain ⟨hjoint, hsolo, hslot, hothers⟩ := hshadows
  have hslotLate : rules.age late (joint.slot packet.sourceIp) =
      rules.age late (solo.slot packet.sourceIp) := by
    rw [← rules.age_age _ hle, hslot, rules.age_age _ hle]
  have hjointAnswers := answers_process hjoint packet late
  have hsoloAnswers := answers_process hsolo packet late
  have hadvance : rules.advance (joint.room packet late) packet late
        (joint.slot packet.sourceIp) =
      rules.advance (solo.room packet late) packet late
        (solo.slot packet.sourceIp) := by
    rw [← rules.advance_age _ packet late (joint.slot packet.sourceIp),
      hslotLate, rules.advance_age]
    cases hasks : rules.asksRoom packet late (solo.slot packet.sourceIp) with
    | false => exact KnockRules.advance_eq_of_not_asksRoom _ _ hasks
    | true =>
        rw [refusedForCapacity_eq hjoint, ← rules.asksRoom_age, hslotLate,
          rules.asksRoom_age, hasks, Bool.true_and,
          Bool.not_eq_false'] at hrefused
        rw [hrefused, room_alone hjoint hsolo hslotLate hothers hrefused]
  refine ⟨?_, hjointAnswers.consistent, hsoloAnswers.consistent, ?_, ?_⟩
  · rw [hjointAnswers.outcome_eq, hsoloAnswers.outcome_eq, hadvance]
  · rw [hjointAnswers.slot_eq, hsoloAnswers.slot_eq, hadvance]
  · intro other hother
    rw [hsoloAnswers.slot_other other hother, slot_expire,
      hothers other hother]
    rfl

/-- The outcomes of a run, in order. -/
def outcomesOf (calls : List KnockCall) : List KnockOutcome :=
  calls.map Entry.output

theorem outcomesOf_own {sourceIp : IpAddr} {start : ℕ}
    {joint solo : KnockTracker} {calls : List (KnockPacket × ℕ)}
    (hshadows : Shadows rules capacity sourceIp start joint solo)
    (hstart : ∀ call ∈ calls, start ≤ call.2) (hcalls : Chronological calls)
    (hrefused : NeverRefused sourceIp joint calls) :
    outcomesOf (callsOf sourceIp ((machine rules capacity).trace joint calls)) =
      outcomesOf ((machine rules capacity).trace solo
        (packetsOf sourceIp calls)) := by
  induction calls generalizing joint solo start with
  | nil => rfl
  | cons call calls ih =>
      obtain ⟨packet, now⟩ := call
      obtain ⟨hlater, hrest⟩ := chronological_cons.mp hcalls
      obtain ⟨hpacket, hrefused⟩ := hrefused
      have hle : start ≤ now := hstart (packet, now) List.mem_cons_self
      by_cases hown : packet.sourceIp = sourceIp
      · subst hown
        obtain ⟨houtcome, hnext⟩ := hshadows.process_own hle (hpacket rfl)
        have htail := ih hnext hlater hrest hrefused
        rw [packetsOf, List.filter_cons_of_pos (by simp), Machine.trace,
          Machine.trace, callsOf, List.filter_cons_of_pos (by simp)]
        exact congrArg₂ List.cons houtcome htail
      · rw [packetsOf, List.filter_cons_of_neg (by simpa using hown),
          Machine.trace, callsOf, List.filter_cons_of_neg (by simpa using hown)]
        exact ih (hshadows.process_other hle hown) hlater hrest hrefused

/-! ## Expiry on its own -/

/-- The two calls that change the tracker. -/
inductive Call where
  | process (packet : KnockPacket) (now : ℕ)
  | expire (now : ℕ)

def Call.time : Call → ℕ
  | .process _ now => now
  | .expire now => now

def Call.packet? : Call → Option (KnockPacket × ℕ)
  | .process packet now => some (packet, now)
  | .expire _ => none

/-- The packets among the calls. -/
def packets (calls : List Call) : List (KnockPacket × ℕ) :=
  calls.filterMap Call.packet?

/-- What the packets of a run are answered. -/
def outcomes (tracker : KnockTracker) : List Call → List KnockOutcome
  | [] => []
  | .process packet now :: calls =>
      (tracker.process packet now).1 ::
        (tracker.process packet now).2.outcomes calls
  | .expire now :: calls => (tracker.expire now).outcomes calls

/-- A packet only sees what expiry at its own time leaves. -/
theorem process_congr {left right : KnockTracker} {early late : ℕ}
    (packet : KnockPacket) (hle : early ≤ late)
    (heq : left.expire early = right.expire early) :
    left.process packet late = right.process packet late := by
  have hlate : left.expire late = right.expire late := by
    rw [← left.expire_expire hle, heq, right.expire_expire hle]
  simp only [process]
  rw [hlate]

theorem outcomes_eq_of_expire_eq {left right : KnockTracker} (start : ℕ)
    {calls : List Call} (hstart : ∀ call ∈ calls, start ≤ call.time)
    (hcalls : calls.Pairwise fun earlier later => earlier.time ≤ later.time)
    (heq : left.expire start = right.expire start) :
    left.outcomes calls =
      outcomesOf ((machine rules capacity).trace right (packets calls)) := by
  induction calls generalizing left right start with
  | nil => rfl
  | cons call calls ih =>
      obtain ⟨hlater, hrest⟩ := List.pairwise_cons.mp hcalls
      have hle := hstart call List.mem_cons_self
      cases call with
      | process packet now =>
          have hprocess : left.process packet now = right.process packet now :=
            process_congr packet hle heq
          have hexpired : (left.process packet now).2.expire now =
              (right.process packet now).2.expire now := by rw [hprocess]
          exact congrArg₂ List.cons (congrArg Prod.fst hprocess)
            (ih now hlater hrest hexpired)
      | expire now =>
          have hexpired : left.expire now = right.expire now := by
            have hstep : start ≤ now := hle
            rw [← left.expire_expire hstep, heq, right.expire_expire hstep]
          exact ih now hlater hrest
            ((left.expire_expire (Nat.le_refl now)).trans hexpired)

/-- Packets that expiry calls are scattered among are answered as without
them, and the packets of a source that is never refused for capacity are
answered as by a tracker that sees no other source. -/
theorem sources_isolated (rules : KnockRules) (capacity : ℕ)
    (calls : List Call)
    (hcalls : calls.Pairwise fun earlier later => earlier.time ≤ later.time) :
    (fresh rules capacity).outcomes calls =
        outcomesOf ((fresh rules capacity).trace (packets calls)) ∧
      ∀ sourceIp, NeverRefused sourceIp (fresh rules capacity) (packets calls) →
        outcomesOf (callsOf sourceIp
            ((fresh rules capacity).trace (packets calls))) =
          outcomesOf ((fresh rules capacity).trace
            (packetsOf sourceIp (packets calls))) := by
  refine ⟨outcomes_eq_of_expire_eq 0 (fun _ _ => Nat.zero_le _)
    hcalls rfl, fun sourceIp hrefused => ?_⟩
  have hpackets : Chronological (packets calls) := by
    refine List.Pairwise.filterMap Call.packet? ?_ hcalls
    intro earlier later hle first hfirst second hsecond
    cases earlier <;> cases later <;> simp_all [Call.packet?, Call.time]
    obtain ⟨rfl, rfl⟩ := hfirst, hsecond
    exact hle
  exact outcomesOf_own (Shadows.fresh rules capacity sourceIp)
    (fun _ _ => Nat.zero_le _) hpackets hrefused

/-- Two interleaved sources with expiry in between. -/
def scatteredCalls : List Call :=
  [.process (testPacket 1 40101 64) 0, .expire 1,
    .process (testPacket 2 40101 64) 1, .process (testPacket 1 40102 128) 2,
    .expire 2, .process (testPacket 1 40103 96) 3]

theorem sources_isolated_scattered :
    (fresh testRules 2).outcomes scatteredCalls =
        outcomesOf ((fresh testRules 2).trace (packets scatteredCalls)) ∧
      outcomesOf (callsOf (testSource 1)
          ((fresh testRules 2).trace (packets scatteredCalls))) =
        outcomesOf ((fresh testRules 2).trace
          (packetsOf (testSource 1) (packets scatteredCalls))) := by
  obtain ⟨hexpiry, hisolated⟩ :=
    sources_isolated testRules 2 scatteredCalls (by decide)
  exact ⟨hexpiry, hisolated (testSource 1) ⟨fun _ => by decide,
    fun _ => by decide, fun _ => by decide, fun _ => by decide, trivial⟩⟩

end KnockTracker

end SshKnock
