import Mathlib.Data.List.Chain
import Mathlib.Order.CompletePartialOrder
import Mathlib.Order.Interval.Set.Disjoint
import SshKnock.Knock.Refinement

/-!
# Nobody is accepted without a complete knock

An accepted source has just spelled the whole sequence, packet after packet,
within the window.  The invariant ties the partial state of a source to the
last calls of that source: they spell the first steps of the sequence, the
state remembers the times of the first and the last of them, and none of them
completed an earlier knock.
-/

namespace SshKnock

open SshKnock.Sharded
open SshKnock.KnockTracker (KnockCall)

/-- The step a packet spells. -/
def KnockPacket.spelled (packet : KnockPacket) : KnockStep :=
  { protocol := packet.protocol, port := packet.port, size := packet.payloadSize }

namespace KnockRules

theorem matchesStep_iff {rules : KnockRules} {stepIndex : ℕ}
    {packet : KnockPacket} :
    rules.matchesStep stepIndex packet = true ↔
      rules.sequence[stepIndex]? = some packet.spelled := by
  rw [matchesStep]
  cases hstep : rules.sequence[stepIndex]? with
  | none => simp
  | some step =>
      cases step
      simp [KnockPacket.spelled, and_assoc]

/-- Everything a packet can do to the slot of its source. -/
inductive Advanced (rules : KnockRules) (room : Bool) (packet : KnockPacket)
    (now : ℕ) (slot : Slot) : KnockOutcome × Slot → Prop where
  | oversized (hsize : rules.maxPayloadSize < packet.payloadSize) :
      Advanced rules room packet now slot (.oversized, none)
  | rejected (hsize : packet.payloadSize ≤ rules.maxPayloadSize)
      (hrefused : rules.matchesStep 0 packet = true → room = false) :
      Advanced rules room packet now slot (.rejected, none)
  | started (hsize : packet.payloadSize ≤ rules.maxPayloadSize)
      (hmatches : rules.matchesStep 0 packet = true) (hroom : room = true) :
      Advanced rules room packet now slot (.progress 1, some ⟨1, now, now⟩)
  | progressed (state : SourceState)
      (hsize : packet.payloadSize ≤ rules.maxPayloadSize)
      (hslot : slot = some state)
      (hunexpired : rules.unexpired now state = true)
      (hmatches : rules.matchesStep state.nextStep packet = true)
      (hunfinished : state.nextStep + 1 ≠ rules.sequence.length) :
      Advanced rules room packet now slot
        (.progress (state.nextStep + 1),
          some ⟨state.nextStep + 1, state.firstSeen, now⟩)
  | acceptedAtOnce (hsize : packet.payloadSize ≤ rules.maxPayloadSize)
      (hmatches : rules.matchesStep 0 packet = true)
      (hfinished : 1 = rules.sequence.length) :
      Advanced rules room packet now slot (.accepted, none)
  | accepted (state : SourceState)
      (hsize : packet.payloadSize ≤ rules.maxPayloadSize)
      (hslot : slot = some state)
      (hunexpired : rules.unexpired now state = true)
      (hmatches : rules.matchesStep state.nextStep packet = true)
      (hfinished : state.nextStep + 1 = rules.sequence.length) :
      Advanced rules room packet now slot (.accepted, none)

theorem advanced_start {rules : KnockRules} {room : Bool}
    {packet : KnockPacket} {now : ℕ} {slot : Slot}
    (hsize : packet.payloadSize ≤ rules.maxPayloadSize)
    (hmatches : rules.matchesStep 0 packet = true) :
    Advanced rules room packet now slot (start room now) := by
  cases room with
  | false => exact .rejected hsize fun _ => rfl
  | true => exact .started hsize hmatches rfl

theorem advanced (rules : KnockRules) (room : Bool) (packet : KnockPacket)
    (now : ℕ) (slot : Slot) :
    Advanced rules room packet now slot
      (rules.advance room packet now slot) := by
  simp only [advance]
  split
  · next hsize => exact .oversized hsize
  next hfits =>
  have hsize := Nat.not_lt.mp hfits
  cases haged : rules.age now slot with
  | none =>
      split
      · next hmatches =>
          split
          · next hfinished => exact .acceptedAtOnce hsize hmatches hfinished
          · exact advanced_start hsize hmatches
      · next hmismatch =>
          split
          · next hfirst => exact advanced_start hsize hfirst
          · next hfirst => exact .rejected hsize fun hmatches => absurd hmatches hfirst
  | some state =>
      obtain ⟨hslot, hunexpired⟩ := Option.filter_eq_some_iff.mp haged
      split
      · next hmatches =>
          split
          · next hfinished => exact .accepted state hsize hslot hunexpired hmatches hfinished
          · next hunfinished =>
              exact .progressed state hsize hslot hunexpired hmatches hunfinished
      · split
        · next hfirst => exact advanced_start hsize hfirst
        · next hfirst => exact .rejected hsize fun hmatches => absurd hmatches hfirst

/-- The calls spell the whole sequence, one step each, fast enough. -/
structure Knocked (rules : KnockRules) (calls : List KnockCall) : Prop where
  spelled_eq : calls.map (fun call => call.input.spelled) = rules.sequence
  size_le : ∀ call ∈ calls, call.input.payloadSize ≤ rules.maxPayloadSize
  window : ∀ first ∈ calls.head?, ∀ last ∈ calls.getLast?,
    last.time - first.time ≤ rules.sequenceWindow
  gaps : calls.IsChain fun earlier later =>
    later.time - earlier.time ≤ rules.partialStateTimeout

/-- The calls behind a partial state. -/
structure Begun (rules : KnockRules) (state : SourceState)
    (calls : List KnockCall) : Prop where
  spelled_eq : calls.map (fun call => call.input.spelled) =
    rules.sequence.take state.nextStep
  size_le : ∀ call ∈ calls, call.input.payloadSize ≤ rules.maxPayloadSize
  first_eq : calls.head?.map Entry.time = some state.firstSeen
  last_eq : calls.getLast?.map Entry.time = some state.lastSeen
  gaps : calls.IsChain fun earlier later =>
    later.time - earlier.time ≤ rules.partialStateTimeout
  unaccepted : ∀ call ∈ calls, call.output ≠ .accepted

/-- The slot's state, if any, stems from the last calls of `past`. -/
def Explained (rules : KnockRules) (past : List KnockCall) (slot : Slot) :
    Prop :=
  ∀ state ∈ slot, ∃ before calls, past = before ++ calls ∧
    Begun rules state calls

theorem explained_nil (rules : KnockRules) : Explained rules [] none := by
  simp [Explained]

/-- The last calls of `past` are a complete knock, and no call but the last of
them was accepted. -/
def EndsInKnock (rules : KnockRules) (past : List KnockCall) : Prop :=
  ∃ before calls, past = before ++ calls ∧ Knocked rules calls ∧
    ∀ call ∈ calls.dropLast, call.output ≠ .accepted

theorem Begun.gap_to {rules : KnockRules} {state : SourceState}
    {calls : List KnockCall} {call : KnockCall}
    (hbegun : Begun rules state calls)
    (hunexpired : rules.unexpired call.time state = true) :
    (calls ++ [call]).IsChain fun earlier later =>
      later.time - earlier.time ≤ rules.partialStateTimeout := by
  refine hbegun.gaps.append (List.isChain_singleton call) ?_
  intro last hlast next hnext
  have htime : last.time = state.lastSeen := by
    have hmap := hbegun.last_eq
    rw [hlast, Option.map_some, Option.some.injEq] at hmap
    exact hmap
  rw [List.head?_cons, Option.mem_some_iff] at hnext
  rw [← hnext, htime]
  exact ((rules.unexpired_iff call.time state).mp hunexpired).1

theorem Begun.spelled_append {rules : KnockRules} {state : SourceState}
    {calls : List KnockCall} {call : KnockCall}
    (hbegun : Begun rules state calls)
    (hmatches : rules.matchesStep state.nextStep call.input = true) :
    (calls ++ [call]).map (fun entry => entry.input.spelled) =
      rules.sequence.take (state.nextStep + 1) := by
  rw [List.map_append, hbegun.spelled_eq, List.take_add_one,
    matchesStep_iff.mp hmatches]
  rfl

theorem Begun.size_append {rules : KnockRules} {state : SourceState}
    {calls : List KnockCall} {call : KnockCall}
    (hbegun : Begun rules state calls)
    (hsize : call.input.payloadSize ≤ rules.maxPayloadSize) :
    ∀ entry ∈ calls ++ [call],
      entry.input.payloadSize ≤ rules.maxPayloadSize := by
  intro entry hentry
  rcases List.mem_append.mp hentry with hold | hnew
  · exact hbegun.size_le entry hold
  · exact List.mem_singleton.mp hnew ▸ hsize

theorem Begun.head?_append {rules : KnockRules} {state : SourceState}
    {calls : List KnockCall} (hbegun : Begun rules state calls)
    (call : KnockCall) :
    (calls ++ [call]).head?.map Entry.time = some state.firstSeen := by
  have hfirst := hbegun.first_eq
  cases calls with
  | nil => cases hfirst
  | cons first calls => exact hfirst

/-- One more matching call carries a partial state further. -/
theorem Begun.progressed {rules : KnockRules} {state : SourceState}
    {calls : List KnockCall} {call : KnockCall}
    (hbegun : Begun rules state calls)
    (hsize : call.input.payloadSize ≤ rules.maxPayloadSize)
    (hunexpired : rules.unexpired call.time state = true)
    (hmatches : rules.matchesStep state.nextStep call.input = true)
    (houtput : call.output ≠ .accepted) :
    Begun rules ⟨state.nextStep + 1, state.firstSeen, call.time⟩
      (calls ++ [call]) where
  spelled_eq := hbegun.spelled_append hmatches
  size_le := hbegun.size_append hsize
  first_eq := hbegun.head?_append call
  last_eq := by rw [List.getLast?_concat]; rfl
  gaps := hbegun.gap_to hunexpired
  unaccepted entry hentry := by
    rcases List.mem_append.mp hentry with hold | hnew
    · exact hbegun.unaccepted entry hold
    · exact List.mem_singleton.mp hnew ▸ houtput

/-- The last matching call completes the knock. -/
theorem Begun.knocked {rules : KnockRules} {state : SourceState}
    {calls : List KnockCall} {call : KnockCall}
    (hbegun : Begun rules state calls)
    (hsize : call.input.payloadSize ≤ rules.maxPayloadSize)
    (hunexpired : rules.unexpired call.time state = true)
    (hmatches : rules.matchesStep state.nextStep call.input = true)
    (hfinished : state.nextStep + 1 = rules.sequence.length) :
    Knocked rules (calls ++ [call]) where
  spelled_eq := by
    rw [hbegun.spelled_append hmatches, hfinished, List.take_length]
  size_le := hbegun.size_append hsize
  window first hfirst last hlast := by
    have htime := hbegun.head?_append call
    rw [hfirst, Option.map_some, Option.some.injEq] at htime
    rw [List.getLast?_concat, Option.mem_some_iff] at hlast
    rw [← hlast, htime]
    exact ((rules.unexpired_iff call.time state).mp hunexpired).2
  gaps := hbegun.gap_to hunexpired

theorem begun_singleton {rules : KnockRules} {call : KnockCall}
    (hsize : call.input.payloadSize ≤ rules.maxPayloadSize)
    (hmatches : rules.matchesStep 0 call.input = true)
    (houtput : call.output ≠ .accepted) :
    Begun rules ⟨1, call.time, call.time⟩ [call] where
  spelled_eq := by
    rw [List.take_add_one, matchesStep_iff.mp hmatches]
    rfl
  size_le entry hentry := List.mem_singleton.mp hentry ▸ hsize
  first_eq := rfl
  last_eq := rfl
  gaps := List.isChain_singleton call
  unaccepted entry hentry := List.mem_singleton.mp hentry ▸ houtput

/-- One call keeps the slot explained, and an accepted call ends a knock. -/
theorem explained_step {rules : KnockRules} {past : List KnockCall}
    {slot : Slot} {call : KnockCall} (hpast : Explained rules past slot)
    (houtput : call.output =
      (rules.advance call.hint call.input call.time slot).1) :
    Explained rules (past ++ [call])
        (rules.advance call.hint call.input call.time slot).2 ∧
      (call.output = .accepted → EndsInKnock rules (past ++ [call])) := by
  have hadvanced := rules.advanced call.hint call.input call.time slot
  generalize rules.advance call.hint call.input call.time slot = result at *
  cases hadvanced with
  | oversized | rejected =>
      exact ⟨by simp [Explained], by simp [houtput]⟩
  | started hsize hmatches =>
      refine ⟨?_, by simp [houtput]⟩
      rintro state ⟨⟩
      exact ⟨past, [call], rfl,
        begun_singleton hsize hmatches (by simp [houtput])⟩
  | progressed state hsize hslot hunexpired hmatches =>
      obtain ⟨before, calls, rfl, hbegun⟩ := hpast state hslot
      refine ⟨?_, by simp [houtput]⟩
      rintro next ⟨⟩
      exact ⟨before, calls ++ [call], List.append_assoc _ _ _,
        hbegun.progressed hsize hunexpired hmatches (by simp [houtput])⟩
  | acceptedAtOnce hsize hmatches hfinished =>
      refine ⟨by simp [Explained], fun _ => ⟨past, [call], rfl, ?_, by simp⟩⟩
      have hspelled := matchesStep_iff.mp hmatches
      exact {
        spelled_eq := by
          rw [← rules.sequence.take_length, ← hfinished, List.take_add_one,
            hspelled]
          rfl
        size_le := fun entry hentry => List.mem_singleton.mp hentry ▸ hsize
        window := by
          rintro first ⟨⟩ last ⟨⟩
          simp
        gaps := List.isChain_singleton call }
  | accepted state hsize hslot hunexpired hmatches hfinished =>
      obtain ⟨before, calls, rfl, hbegun⟩ := hpast state hslot
      refine ⟨by simp [Explained], fun _ => ⟨before, calls ++ [call],
        List.append_assoc _ _ _,
        hbegun.knocked hsize hunexpired hmatches hfinished, ?_⟩⟩
      rw [List.dropLast_concat]
      exact hbegun.unaccepted

/-- In a history of one slot, every accepted call ends a knock. -/
theorem endsInKnock_of_replays {rules : KnockRules} {capacity : ℕ}
    {past calls : List KnockCall} {slot : Slot}
    (hpast : Explained rules past slot)
    (hcalls : (KnockTracker.machine rules capacity).Replays slot calls)
    {earlier later : List KnockCall} {call : KnockCall}
    (hsplit : calls = earlier ++ call :: later)
    (haccepted : call.output = .accepted) :
    EndsInKnock rules (past ++ earlier ++ [call]) := by
  induction calls generalizing past slot earlier with
  | nil => simp at hsplit
  | cons first calls ih =>
      obtain ⟨houtput, hrest⟩ := hcalls
      obtain ⟨hnext, hends⟩ := explained_step hpast houtput
      cases earlier with
      | nil =>
          rw [List.nil_append, List.cons.injEq] at hsplit
          obtain ⟨rfl, -⟩ := hsplit
          simpa using hends haccepted
      | cons entry earlier =>
          rw [List.cons_append, List.cons.injEq] at hsplit
          obtain ⟨rfl, hsplit⟩ := hsplit
          simpa using ih hnext hrest hsplit

end KnockRules

namespace KnockTracker

/-- The last `count` calls. -/
def lastCalls (count : ℕ) (calls : List KnockCall) : List KnockCall :=
  calls.drop (calls.length - count)

/-- An accepted call of a source is the last of as many consecutive calls of
that source as the sequence has steps; they spell the sequence within the
window, and no call serves two knocks. -/
theorem accepted_only_after_knock (rules : KnockRules) (capacity : ℕ)
    (calls : List (KnockPacket × ℕ)) (hcalls : Chronological calls)
    (sourceIp : IpAddr) (index : ℕ) (own : List KnockCall)
    (hown : own = callsOf sourceIp ((fresh rules capacity).trace calls))
    (haccepted : own[index]?.map Entry.output = some .accepted) :
    rules.Knocked (lastCalls rules.sequence.length (own.take (index + 1))) ∧
      ∀ earlier < index, own[earlier]?.map Entry.output = some .accepted →
        Disjoint (Set.Icc (earlier + 1 - rules.sequence.length) earlier)
          (Set.Icc (index + 1 - rules.sequence.length) index) := by
  have hreplays := replays_callsOf rules capacity hcalls sourceIp
  rw [← hown] at hreplays
  obtain ⟨call, hcall, houtput⟩ := Option.map_eq_some_iff.mp haccepted
  obtain ⟨hindex, hget⟩ := List.getElem?_eq_some_iff.mp hcall
  have hsplit : own = own.take index ++ call :: own.drop (index + 1) := by
    rw [← hget, List.getElem_cons_drop, List.take_append_drop]
  obtain ⟨before, knock, hpast, hknocked, hunaccepted⟩ :=
    KnockRules.endsInKnock_of_replays rules.explained_nil hreplays hsplit
      houtput
  rw [List.nil_append, ← hget, List.take_append_getElem] at hpast
  have hlength : knock.length = rules.sequence.length := by
    rw [← hknocked.spelled_eq, List.length_map]
  have htotal : index + 1 = before.length + knock.length := by
    rw [← List.length_append, ← hpast, List.length_take]
    omega
  have hlast : lastCalls rules.sequence.length (own.take (index + 1)) =
      knock := by
    rw [lastCalls, hpast, List.length_append, hlength, Nat.add_sub_cancel,
      List.drop_left]
  refine ⟨hlast ▸ hknocked, fun earlier hearlier hprevious => ?_⟩
  -- An earlier accepted call lies before this knock, since none inside is.
  have hbefore : earlier < before.length := by
    by_contra hinside
    have hposition : knock.dropLast[earlier - before.length]? =
        own[earlier]? := by
      rw [List.getElem?_dropLast, if_pos (by omega),
        ← List.getElem?_append_right (Nat.not_lt.mp hinside), ← hpast,
        List.getElem?_take, if_pos (by omega)]
    obtain ⟨entry, hentry, haccept⟩ := Option.map_eq_some_iff.mp hprevious
    exact hunaccepted entry
      (List.mem_of_getElem? (hposition.trans hentry)) haccept
  rw [Set.disjoint_left]
  rintro position ⟨_, hhigh⟩ ⟨hlow, _⟩
  omega

/-- A knock with another source's packets in between. -/
def interleavedKnock : List (KnockPacket × ℕ) :=
  [(testPacket 1 40101 64, 0), (testPacket 2 40101 64, 1),
    (testPacket 1 40102 128, 2), (testPacket 2 40103 96, 2),
    (testPacket 1 40103 96, 3)]

theorem accepted_only_after_knock_interleaved :
    testRules.Knocked (lastCalls 3 ((callsOf (testSource 1)
        ((fresh testRules 2).trace interleavedKnock)).take 3)) ∧
      ∀ earlier < 2, (callsOf (testSource 1)
          ((fresh testRules 2).trace interleavedKnock))[earlier]?.map
            Entry.output = some .accepted →
        Disjoint (Set.Icc (earlier + 1 - 3) earlier) (Set.Icc (2 + 1 - 3) 2) :=
  accepted_only_after_knock testRules 2 interleavedKnock
    (by unfold Chronological; decide) (testSource 1) 2 _ rfl (by decide)

end KnockTracker

end SshKnock
