import SshKnock.Knock.Isolation

/-!
# A complete knock is always accepted

Whatever a source sent before and whatever others send in between, a source
that spells the sequence in time is walked through it to acceptance, provided
it finds room when it starts and no later step looks like the first one.
-/

namespace SshKnock

open SshKnock.Sharded
open SshKnock.KnockTracker (KnockCall)

/-- No later step equals the first, so a packet that spells the first step
always starts the sequence anew. -/
def FirstStepUnique (sequence : List KnockStep) : Prop :=
  ∀ first ∈ sequence.head?, first ∉ sequence.tail

/-- Ports are unique in an accepted configuration, so only an ICMP step can
repeat the first one. -/
theorem Config.Valid.firstStepUnique {config : Config} (hvalid : config.Valid)
    (hprotocol : ∀ first ∈ config.knock.sequence.head?,
      first.protocol ≠ .icmp) : FirstStepUnique config.knock.sequence := by
  intro first hfirst hlater
  have hports := hvalid.ports_nodup
  have hstep := hvalid.step_valid
  have hicmp := hprotocol first hfirst
  cases hsequence : config.knock.sequence with
  | nil => simp [hsequence] at hfirst
  | cons head later =>
      simp only [hsequence, List.head?_cons, Option.mem_some_iff,
        List.tail_cons] at hfirst hlater
      subst hfirst
      have hfirstStep := hstep head (hsequence ▸ List.mem_cons_self)
      cases hport : head.port with
      | none => exact hicmp (hfirstStep.port_none_iff.mp hport)
      | some port =>
          rw [hsequence, List.filterMap_cons_some hport,
            List.nodup_cons] at hports
          exact hports.1 (List.mem_filterMap.mpr ⟨head, hlater, hport⟩)

/-- The packets spell the whole sequence, one step each, in time. -/
structure TimelyKnock (rules : KnockRules) (calls : List (KnockPacket × ℕ)) :
    Prop where
  spelled_eq : calls.map (fun call => call.1.spelled) = rules.sequence
  window : ∀ first ∈ calls.head?, ∀ last ∈ calls.getLast?,
    last.2 - first.2 ≤ rules.sequenceWindow
  gaps : calls.IsChain fun earlier later =>
    later.2 - earlier.2 ≤ rules.partialStateTimeout

/-- No packet of a timely knock comes after the window. -/
theorem TimelyKnock.within {rules : KnockRules}
    {calls : List (KnockPacket × ℕ)} (hknock : TimelyKnock rules calls)
    (hcalls : Chronological calls) {first call : KnockPacket × ℕ}
    (hfirst : calls.head? = some first) (hcall : call ∈ calls) :
    call.2 - first.2 ≤ rules.sequenceWindow := by
  have hne : calls ≠ [] := List.ne_nil_of_mem hcall
  have hwindow := hknock.window first hfirst (calls.getLast hne)
    (List.getLast?_eq_some_getLast hne)
  have hle : call.2 ≤ (calls.getLast hne).2 := by
    rw [← List.dropLast_append_getLast hne, List.mem_append,
      List.mem_singleton] at hcall
    rw [Chronological, ← List.dropLast_append_getLast hne,
      List.pairwise_append] at hcalls
    rcases hcall with hbefore | rfl
    · exact hcalls.2.2 call hbefore _ (List.mem_singleton_self _)
    · exact Nat.le_refl _
  exact (Nat.sub_le_sub_right hle first.2).trans hwindow

/-- The answers from step `nextStep` on: progress up to the last step, then
acceptance. -/
def knockAnswers (nextStep length : ℕ) : List KnockOutcome :=
  (List.range' (nextStep + 1) (length - (nextStep + 1))).map .progress ++
    [.accepted]

namespace KnockRules

theorem knockAnswers_of_lt {nextStep length : ℕ}
    (hlt : nextStep + 1 < length) :
    knockAnswers nextStep length =
      .progress (nextStep + 1) :: knockAnswers (nextStep + 1) length := by
  have hremaining : length - (nextStep + 1) =
      length - (nextStep + 1 + 1) + 1 := by omega
  rw [knockAnswers, hremaining, List.range'_succ]
  rfl

theorem knockAnswers_of_eq {nextStep length : ℕ}
    (heq : nextStep + 1 = length) :
    knockAnswers nextStep length = [.accepted] := by
  rw [knockAnswers, heq, Nat.sub_self]
  rfl

/-- The next step, sent in time, advances the slot. -/
theorem advance_of_matches {rules : KnockRules} (room : Bool)
    {packet : KnockPacket} {now : ℕ} {state : SourceState}
    (hsize : packet.payloadSize ≤ rules.maxPayloadSize)
    (hunexpired : rules.unexpired now state = true)
    (hmatches : rules.matchesStep state.nextStep packet = true) :
    rules.advance room packet now (some state) =
      if state.nextStep + 1 = rules.sequence.length then (.accepted, none)
      else (.progress (state.nextStep + 1),
        some ⟨state.nextStep + 1, state.firstSeen, now⟩) := by
  have haged : rules.age now (some state) = some state := by
    simp [age, Option.filter, hunexpired]
  have hexpected : expected (some state) = state.nextStep := rfl
  rw [advance]
  simp only [haged, hexpected, if_neg (Nat.not_lt.mpr hsize), if_pos hmatches]

/-- The first step starts the sequence anew, whatever the slot held. -/
theorem advance_first {rules : KnockRules} {packet : KnockPacket} (now : ℕ)
    {slot : Slot} (hsize : packet.payloadSize ≤ rules.maxPayloadSize)
    (hmatches : rules.matchesStep 0 packet = true)
    (hlength : 1 < rules.sequence.length)
    (hfirst : FirstStepUnique rules.sequence)
    (hslot : ∀ state ∈ slot, 0 < state.nextStep) :
    rules.advance true packet now slot = (.progress 1, some ⟨1, now, now⟩) := by
  rw [advance]
  simp only [if_neg (Nat.not_lt.mpr hsize)]
  cases haged : rules.age now slot with
  | none =>
      have hunfinished : ¬expected none + 1 = rules.sequence.length :=
        Nat.ne_of_lt hlength
      have hexpected : rules.matchesStep (expected none) packet = true :=
        hmatches
      simp only [if_pos hexpected, if_neg hunfinished]
      rfl
  | some state =>
      have hpos := hslot state (Option.filter_eq_some_iff.mp haged).1
      -- A step after the first cannot match a packet that spells the first.
      have hmismatch :
          ¬rules.matchesStep (expected (some state)) packet = true := by
        intro hstep
        rw [matchesStep_iff] at hstep hmatches
        rw [← List.head?_eq_getElem?] at hmatches
        refine hfirst _ hmatches (List.mem_of_getElem?
          (i := state.nextStep - 1) ?_)
        rw [List.getElem?_tail, Nat.sub_add_cancel hpos]
        exact hstep
      simp only [if_neg hmismatch, if_pos hmatches]
      rfl

variable {rules : KnockRules} {capacity : ℕ}

/-- From a partial state on, packets that spell the remaining steps in time
are answered with progress up to acceptance. -/
theorem replays_remaining {nextStep firstSeen lastSeen : ℕ}
    {calls : List KnockCall}
    (hreplays : (KnockTracker.machine rules capacity).Replays
      (some ⟨nextStep, firstSeen, lastSeen⟩) calls)
    (hlt : nextStep < rules.sequence.length)
    (hspelled : calls.map (fun call => call.input.spelled) =
      rules.sequence.drop nextStep)
    (hsize : ∀ call ∈ calls, call.input.payloadSize ≤ rules.maxPayloadSize)
    (hwindow : ∀ call ∈ calls, call.time - firstSeen ≤ rules.sequenceWindow)
    (hgaps : (lastSeen :: calls.map Entry.time).IsChain fun earlier later =>
      later - earlier ≤ rules.partialStateTimeout) :
    KnockTracker.outcomesOf calls =
      knockAnswers nextStep rules.sequence.length := by
  induction calls generalizing nextStep lastSeen with
  | nil =>
      have hlength := congrArg List.length hspelled
      simp only [List.map_nil, List.length_nil, List.length_drop] at hlength
      omega
  | cons call calls ih =>
      obtain ⟨houtput, hrest⟩ := hreplays
      rw [List.drop_eq_getElem_cons hlt, List.map_cons, List.cons.injEq]
        at hspelled
      obtain ⟨hstep, hspelled⟩ := hspelled
      rw [List.map_cons, List.isChain_cons_cons] at hgaps
      obtain ⟨hgap, hgaps⟩ := hgaps
      have hmatches : rules.matchesStep nextStep call.input = true := by
        rw [matchesStep_iff, hstep, List.getElem?_eq_getElem hlt]
      have hunexpired : rules.unexpired call.time
          ⟨nextStep, firstSeen, lastSeen⟩ = true :=
        (rules.unexpired_iff _ _).mpr
          ⟨hgap, hwindow call List.mem_cons_self⟩
      have hadvance := advance_of_matches call.hint
        (hsize call List.mem_cons_self) hunexpired hmatches
      have houtcome : call.output = (rules.advance call.hint call.input
          call.time (some ⟨nextStep, firstSeen, lastSeen⟩)).1 := houtput
      have hremaining : (KnockTracker.machine rules capacity).Replays
          (rules.advance call.hint call.input call.time
            (some ⟨nextStep, firstSeen, lastSeen⟩)).2 calls := hrest
      rw [hadvance] at houtcome hremaining
      by_cases hfinished : nextStep + 1 = rules.sequence.length
      · have hnil : calls = [] := by
          rw [List.drop_eq_nil_of_le hfinished.ge] at hspelled
          exact List.map_eq_nil_iff.mp hspelled
        rw [knockAnswers_of_eq hfinished, hnil]
        rw [if_pos hfinished] at houtcome
        exact congrArg (fun outcome => [outcome]) houtcome
      · have hnext : nextStep + 1 < rules.sequence.length := by omega
        rw [if_neg hfinished] at houtcome hremaining
        rw [knockAnswers_of_lt hnext]
        exact congrArg₂ List.cons houtcome (ih hremaining hnext hspelled
          (fun later hlater => hsize later (List.mem_cons_of_mem _ hlater))
          (fun later hlater => hwindow later (List.mem_cons_of_mem _ hlater))
          hgaps)

/-- A history that spells the sequence in time, from any slot, with room for
the first packet. -/
theorem replays_knock {slot : Slot} {call : KnockCall} {calls : List KnockCall}
    (hreplays : (KnockTracker.machine rules capacity).Replays slot
      (call :: calls))
    (hroom : call.hint = true) (hslot : ∀ state ∈ slot, 0 < state.nextStep)
    (hlength : 1 < rules.sequence.length)
    (hsteps : ∀ step ∈ rules.sequence, step.size ≤ rules.maxPayloadSize)
    (hfirst : FirstStepUnique rules.sequence)
    (hcalls : Chronological
      ((call :: calls).map fun call => (call.input, call.time)))
    (hknock : TimelyKnock rules
      ((call :: calls).map fun call => (call.input, call.time))) :
    KnockTracker.outcomesOf (call :: calls) =
      knockAnswers 0 rules.sequence.length := by
  have hspelled : (call :: calls).map (fun call => call.input.spelled) =
      rules.sequence := by
    rw [← hknock.spelled_eq, List.map_map]
    rfl
  have hsize : ∀ entry ∈ call :: calls,
      entry.input.payloadSize ≤ rules.maxPayloadSize := by
    intro entry hentry
    refine hsteps entry.input.spelled ?_
    rw [← hspelled]
    exact List.mem_map_of_mem hentry
  have hmatches : rules.matchesStep 0 call.input = true := by
    rw [matchesStep_iff, ← hspelled]
    rfl
  have hadvance := advance_first call.time
    (hsize call List.mem_cons_self) hmatches hlength hfirst hslot
  obtain ⟨houtput, hrest⟩ := hreplays
  have houtcome : call.output =
      (rules.advance call.hint call.input call.time slot).1 := houtput
  have hremaining : (KnockTracker.machine rules capacity).Replays
      (rules.advance call.hint call.input call.time slot).2 calls := hrest
  rw [hroom, hadvance] at houtcome hremaining
  rw [knockAnswers_of_lt hlength]
  refine congrArg₂ List.cons houtcome (replays_remaining hremaining hlength ?_
    (fun later hlater => hsize later (List.mem_cons_of_mem _ hlater)) ?_ ?_)
  · rw [← List.tail_drop, List.drop_zero, ← hspelled]
    rfl
  · exact fun later hlater => hknock.within hcalls rfl
      (List.mem_map_of_mem (List.mem_cons_of_mem _ hlater))
  · rw [← List.map_cons, List.isChain_map]
    exact (List.isChain_map _).mp hknock.gaps

end KnockRules

namespace KnockTracker

theorem room_eq_true {rules : KnockRules} {capacity : ℕ}
    {tracker : KnockTracker} (htracker : Consistent rules capacity tracker)
    {packet : KnockPacket} {now : ℕ}
    (hroom : (tracker.expire now).states.containsKey packet.sourceIp = true ∨
      (tracker.expire now).len < capacity) : tracker.room packet now = true := by
  rw [room, atCapacity, (htracker.expire now).capacity_eq, Bool.not_eq_true',
    Bool.and_eq_false_iff, Bool.not_eq_false', decide_eq_false_iff_not,
    Nat.not_le]
  exact hroom

/-- A source that finds room and spells the sequence in time is walked through
to acceptance, whatever state its first packet meets. -/
theorem outcomesOf_timelyKnock {rules : KnockRules} {capacity : ℕ}
    {tracker : KnockTracker} (htracker : Consistent rules capacity tracker)
    (hlength : 1 < rules.sequence.length)
    (hsteps : ∀ step ∈ rules.sequence, step.size ≤ rules.maxPayloadSize)
    (hfirst : FirstStepUnique rules.sequence)
    {packet : KnockPacket} {now : ℕ} {others : List (KnockPacket × ℕ)}
    (hcalls : Chronological ((packet, now) :: others))
    (hknock : TimelyKnock rules
      (packetsOf packet.sourceIp ((packet, now) :: others)))
    (hroom : tracker.room packet now = true) :
    outcomesOf (callsOf packet.sourceIp
        (tracker.trace ((packet, now) :: others))) =
      knockAnswers 0 rules.sequence.length := by
  have hown : Chronological (packetsOf packet.sourceIp ((packet, now) :: others)) :=
    hcalls.sublist List.filter_sublist
  rw [← map_call_callsOf tracker] at hknock hown
  rw [trace_eq htracker] at hknock hown ⊢
  have hcons : callsOf packet.sourceIp
        ((machine rules capacity).trace tracker ((packet, now) :: others)) =
      ⟨packet, now, tracker.room packet now, (tracker.process packet now).1⟩ ::
        callsOf packet.sourceIp ((machine rules capacity).trace
          (tracker.process packet now).2 others) :=
    List.filter_cons_of_pos (decide_eq_true rfl)
  have hstart : (machine rules capacity).Replays (tracker.slot packet.sourceIp)
      (callsOf packet.sourceIp
        ((machine rules capacity).trace tracker ((packet, now) :: others))) :=
    (machine rules capacity).replays_own now packet.sourceIp htracker
      (List.forall_mem_cons.mpr
        ⟨Nat.le_refl now, (chronological_cons.mp hcalls).1⟩) hcalls rfl
  rw [hcons] at hknock hown hstart ⊢
  exact KnockRules.replays_knock hstart hroom
    (fun _ hstate => htracker.nextStep_pos hstate) hlength hsteps hfirst hown
    hknock

/-- For every configuration in which no later step equals the first, and this
can only fail through ICMP steps: whatever happened before and whatever other
sources send meanwhile, a complete and timely knock of a source that finds
room is answered with progress up to acceptance. -/
theorem complete_knock_accepted (config : ValidConfig) :
    ((∀ first ∈ config.knock.sequence.head?, first.protocol ≠ .icmp) →
        FirstStepUnique config.knock.sequence) ∧
      (FirstStepUnique config.knock.sequence →
        ∀ (earlier : List (KnockPacket × ℕ)) (packet : KnockPacket) (now : ℕ)
          (others : List (KnockPacket × ℕ)) (reached : KnockTracker),
        Chronological (earlier ++ (packet, now) :: others) →
        reached =
          (fresh config.knockRules config.maxPartialStates).after earlier →
        TimelyKnock config.knockRules
          (packetsOf packet.sourceIp ((packet, now) :: others)) →
        ((reached.expire now).states.containsKey packet.sourceIp = true ∨
          (reached.expire now).len < config.maxPartialStates) →
        outcomesOf (callsOf packet.sourceIp
            (reached.trace ((packet, now) :: others))) =
          knockAnswers 0 config.knock.sequence.length) := by
  refine ⟨config.valid.firstStepUnique, ?_⟩
  intro hfirst earlier packet now others reached hcalls hreached hknock hroom
  have hconsistent : Consistent config.knockRules config.maxPartialStates
      reached := by
    rw [hreached]
    exact consistent_after (Consistent.fresh _ _) earlier
  have hlength := config.valid.three_le_length
  exact outcomesOf_timelyKnock hconsistent (Nat.lt_of_lt_of_le (by decide) hlength)
    (fun step hstep => (config.valid.step_valid step hstep).size_le) hfirst
    (List.pairwise_append.mp hcalls).2.1 hknock (room_eq_true hconsistent hroom)

/-- Two steps of a knock that is then given up. -/
def abandonedKnock : List (KnockPacket × ℕ) :=
  [(⟨testSource 1, .tcp, some 7001, 1⟩, 0),
    (⟨testSource 1, .udp, some 7002, 2⟩, 1)]

/-- What follows the first packet of the next attempt. -/
def resumedKnock : List (KnockPacket × ℕ) :=
  [(⟨testSource 2, .tcp, some 7001, 1⟩, 2),
    (⟨testSource 1, .udp, some 7002, 2⟩, 3),
    (⟨testSource 1, .tcp, some 7003, 3⟩, 4)]

theorem complete_knock_accepted_after_abandoned :
    outcomesOf (callsOf (testSource 1)
        (((fresh testConfig.knockRules 4096).after abandonedKnock).trace
          ((⟨testSource 1, .tcp, some 7001, 1⟩, 2) :: resumedKnock))) =
      [.progress 1, .progress 2, .accepted] := by
  obtain ⟨hunique, haccepted⟩ := complete_knock_accepted testConfig
  refine haccepted (hunique ?_) abandonedKnock
    ⟨testSource 1, .tcp, some 7001, 1⟩ 2 resumedKnock _ ?_ rfl ⟨?_, ?_, ?_⟩
    (Or.inr ?_)
  · rintro first ⟨⟩
    decide
  · rw [Chronological]
    decide
  · decide
  · rintro first ⟨⟩ last ⟨⟩
    decide
  · decide
  · decide

end KnockTracker

end SshKnock
