import SshKnock.Knock.Completeness
import SshKnock.Server.BanWindow
import SshKnock.Server.Chronicle
import SshKnock.Server.HandledOnce

/-!
# A knock that is ready in one pass

All connections of a source may have their payload ready in the same pass.  The
source is recognised when they are handed over in the order in which they were
accepted, and removing connections while walking the list can break that order.
-/

namespace SshKnock

open Fallible SwapRemove

namespace KnockRules

/-- Later steps do not ask for room. -/
theorem asksRoom_eq_false {rules : KnockRules} {packet : KnockPacket}
    {now : ℕ} {slot : Slot} {room : Bool}
    (hvalid : (rules.advance room packet now slot).1.isInvalid = false)
    (hlater : (rules.advance room packet now slot).1 ≠ .progress 1) :
    rules.asksRoom packet now slot = false := by
  by_contra hasks
  rw [answer_of_asksRoom room (Bool.not_eq_false _ ▸ hasks)] at hvalid hlater
  cases room with
  | false => cases hvalid
  | true => exact hlater rfl

end KnockRules

namespace KnockTracker

variable {rules : KnockRules} {capacity : ℕ} {tracker : KnockTracker}

/-- The part of a tracker that belongs to one source can stand on its own. -/
theorem exists_shadows (htracker : Consistent rules capacity tracker)
    (hcapacity : 0 < capacity) (sourceIp : IpAddr) (now : ℕ) :
    ∃ solo, Shadows rules capacity sourceIp now tracker solo := by
  cases hslot : tracker.slot sourceIp with
  | none =>
      refine ⟨fresh rules capacity, htracker, .fresh rules capacity, ?_,
        fun other _ => slot_fresh rules capacity other⟩
      rw [hslot, slot_fresh]
  | some state =>
      have hroom : (fresh rules capacity).atCapacity sourceIp = false := by
        rw [← Bool.not_eq_true, atCapacity_iff]
        rintro ⟨-, hfull⟩
        exact Nat.not_le.mpr hcapacity hfull
      refine ⟨(fresh rules capacity).record sourceIp state, htracker,
        (Consistent.fresh rules capacity).record (htracker.nextStep_pos hslot)
          (htracker.nextStep_lt hslot) hroom, ?_, fun other hother => ?_⟩
      · rw [hslot, slot_record_self]
      · rw [slot_record_of_ne _ _ hother, slot_fresh]

/-- A packet that the tracker of its source answers with more than a start is
not refused for lack of room. -/
theorem Shadows.refusedForCapacity_eq_false {early late : ℕ}
    {joint solo : KnockTracker} {packet : KnockPacket}
    (hshadows : Shadows rules capacity packet.sourceIp early joint solo)
    (hle : early ≤ late)
    (hvalid : (solo.process packet late).1.isInvalid = false)
    (hlater : (solo.process packet late).1 ≠ .progress 1) :
    joint.refusedForCapacity packet late = false := by
  have hslot := (hshadows.later hle).slot_eq
  rw [(answers_process hshadows.solo_consistent packet late).outcome_eq]
    at hvalid hlater
  rw [refusedForCapacity_eq hshadows.joint_consistent, ← rules.asksRoom_age,
    hslot, rules.asksRoom_age, KnockRules.asksRoom_eq_false hvalid hlater,
    Bool.false_and]

/-- A run that only one source takes part in is that source's part of it. -/
theorem callsOf_trace_of_own {sourceIp : IpAddr}
    (htracker : Consistent rules capacity tracker)
    {calls : List (KnockPacket × ℕ)}
    (hown : ∀ call ∈ calls, call.1.sourceIp = sourceIp) :
    callsOf sourceIp (tracker.trace calls) =
      (machine rules capacity).trace tracker calls := by
  rw [trace_eq htracker]
  apply List.filter_eq_self.mpr
  intro entry hentry
  apply decide_eq_true
  apply hown (entry.input, entry.time)
  rw [← (machine rules capacity).map_call_trace tracker calls]
  exact List.mem_map_of_mem hentry

/-- A timely knock on a tracker that sees nothing else. -/
theorem outcomesOf_lone_knock (config : ValidConfig) {solo : KnockTracker}
    (hsolo : Consistent config.knockRules config.maxPartialStates solo)
    (hfirstStep : ∀ first ∈ config.knock.sequence.head?,
      first.protocol ≠ .icmp)
    {packet : KnockPacket} {now : ℕ} {others : List (KnockPacket × ℕ)}
    (hown : ∀ call ∈ others, call.1.sourceIp = packet.sourceIp)
    (hcalls : Sharded.Chronological ((packet, now) :: others))
    (hknock : TimelyKnock config.knockRules ((packet, now) :: others))
    (hroom : solo.room packet now = true) :
    outcomesOf ((machine config.knockRules config.maxPartialStates).trace solo
        ((packet, now) :: others)) =
      knockAnswers 0 config.knock.sequence.length := by
  have hall : ∀ call ∈ (packet, now) :: others,
      call.1.sourceIp = packet.sourceIp :=
    List.forall_mem_cons.mpr ⟨rfl, hown⟩
  have hpackets : packetsOf packet.sourceIp ((packet, now) :: others) =
      (packet, now) :: others :=
    List.filter_eq_self.mpr fun call hcall => decide_eq_true (hall call hcall)
  rw [← callsOf_trace_of_own hsolo hall]
  exact outcomesOf_timelyKnock hsolo
    (Nat.lt_of_lt_of_le (by decide) config.valid.three_le_length)
    (fun step hstep => (config.valid.step_valid step hstep).size_le)
    (config.valid.firstStepUnique hfirstStep) hcalls (hpackets.symm ▸ hknock)
    hroom

end KnockTracker

namespace Server

/-- Servers with the same memory have the same memory after a judgement. -/
theorem SameMemory.judged {left right : Server} (hsame : SameMemory left right)
    (arrival : Arrival) :
    SameMemory (left.judge arrival).2 (right.judge arrival).2 := by
  have hjudge : (left.judge arrival).2 = (right.judge arrival).2.reporting
      left.logger left.packetTelemetryLimiter := by
    rw [hsame.eq_reporting, judge_reporting]
    rfl
  have hlogger := (right.unjudged_judge arrival).logger_eq
  rw [hjudge]
  refine ⟨rfl, rfl, rfl, rfl, rfl, ?_⟩
  rw [hlogger]
  exact hsame.device_eq

/-- Each of these packets was judged by the memory that the one before it left,
and `after` has the memory that the last one left. -/
def Consecutive {Tag : Type} (server : Server) :
    List (Handed Tag) → Server → Prop
  | [], after => SameMemory after server
  | handed :: later, after =>
      SameMemory handed.before server ∧
        (server.judge handed.arrival).2.Consecutive later after

variable {Tag : Type} {config : Config} {sourceIp : IpAddr} {early : ℕ}
  {server : Server} {solo : KnockTracker} {handed : List (Handed Tag)}

theorem Consecutive.concat {middle after : Server} {last : Handed Tag}
    (hhanded : server.Consecutive handed middle)
    (hlast : SameMemory last.before middle)
    (hafter : SameMemory after (middle.judge last.arrival).2) :
    server.Consecutive (handed ++ [last]) after := by
  induction handed generalizing server with
  | nil =>
      have hmiddle : SameMemory middle server := hhanded
      exact ⟨hlast.trans hmiddle, hafter.trans (hmiddle.judged last.arrival)⟩
  | cons first handed ih => exact ⟨hhanded.1, ih hhanded.2⟩

/-- The packets before one of them lead to the memory that judges it. -/
theorem Consecutive.resume {after : Server} {earlier later : List (Handed Tag)}
    {found : Handed Tag} (hserver : Configured config server)
    (hhanded : server.Consecutive (earlier ++ found :: later) after) :
    ∃ reached, Configured config reached ∧ SameMemory found.before reached ∧
      (reached.judge found.arrival).2.Consecutive later after := by
  induction earlier generalizing server with
  | nil => exact ⟨server, hserver, hhanded.1, hhanded.2⟩
  | cons first earlier ih => exact ih (hserver.judge first.arrival) hhanded.2

theorem SameMemory.bannedAt_eq {left right : Server}
    (hsame : SameMemory left right) (sourceIp : IpAddr) (now : ℕ) :
    left.bannedAt sourceIp now = right.bannedAt sourceIp now := by
  rw [bannedAt, bannedAt, expireBannedSources, expireBannedSources,
    hsame.bannedSources_eq]

theorem SameMemory.outcome_eq {left right : Server}
    (hsame : SameMemory left right) (arrival : Arrival) :
    left.outcome arrival = right.outcome arrival := by
  rw [outcome, outcome, hsame.tracker_eq]

theorem Spared.bannedAt_eq_false
    (hspared : Spared config sourceIp early server solo) (now : ℕ) :
    server.bannedAt sourceIp now = false := by
  rw [bannedAt, HashMap.containsKey,
    get_expireBannedSources_eq_none hspared.unbanned]
  rfl

/-- While its own tracker answers a source with later steps only, the source
gets these answers, whatever the others send. -/
theorem Spared.answers
    (hspared : Spared config sourceIp early server solo) {after : Server}
    (hhanded : server.Consecutive handed after)
    (hstart : ∀ found ∈ handed, early ≤ found.arrival.now)
    (hchronological : handed.Pairwise fun earlier later =>
      earlier.arrival.now ≤ later.arrival.now)
    (hanswers : ∀ outcome ∈ KnockTracker.outcomesOf
        ((KnockTracker.machine config.knockRules config.maxPartialStates).trace
          solo (KnockTracker.packetsOf sourceIp
            (handed.map fun found => found.arrival.call))),
      outcome.isInvalid = false ∧ outcome ≠ .progress 1) :
    (Handed.own sourceIp handed).map
        (fun found => (found.before.bannedAt sourceIp found.arrival.now,
          found.before.outcome found.arrival)) =
      (KnockTracker.outcomesOf
        ((KnockTracker.machine config.knockRules config.maxPartialStates).trace
          solo (KnockTracker.packetsOf sourceIp
            (handed.map fun found => found.arrival.call)))).map
        fun outcome => (false, outcome) := by
  induction handed generalizing server solo early with
  | nil => rfl
  | cons first handed ih =>
      obtain ⟨hsame, hrest⟩ := hhanded
      obtain ⟨hlater, hordered⟩ := List.pairwise_cons.mp hchronological
      have hle := hstart first List.mem_cons_self
      rw [List.map_cons, KnockTracker.packetsOf] at hanswers ⊢
      by_cases hown : first.arrival.sourceIp = sourceIp
      · subst hown
        have hcall : first.arrival.call.1.sourceIp =
            first.arrival.sourceIp := rfl
        rw [List.filter_cons_of_pos (by simp [hcall])] at hanswers ⊢
        obtain ⟨hfirst, hanswers⟩ := List.forall_mem_cons.mp hanswers
        have hshadows : KnockTracker.Shadows config.knockRules
          config.maxPartialStates first.arrival.packet.sourceIp early
          server.tracker solo := hspared.shadows
        have hroom := hshadows.refusedForCapacity_eq_false hle hfirst.1
          hfirst.2
        have houtcome : server.outcome first.arrival =
            (solo.process first.arrival.packet first.arrival.now).1 :=
          (hshadows.process_own hle hroom).1
        obtain ⟨-, hnext⟩ := hspared.judge_own hle rfl hroom hfirst.1
        rw [Handed.own, List.filter_cons_of_pos (by simp [Handed.sourceIp]),
          List.map_cons, hsame.bannedAt_eq, hsame.outcome_eq,
          hspared.bannedAt_eq_false, houtcome]
        exact congrArg _ (ih hnext hrest hlater hordered hanswers)
      · have hcall : first.arrival.call.1.sourceIp ≠ sourceIp := hown
        rw [List.filter_cons_of_neg (by simp [hcall])] at hanswers ⊢
        rw [Handed.own, List.filter_cons_of_neg (by simp [Handed.sourceIp, hown])]
        exact ih (hspared.judge_other hle hown) hrest hlater hordered hanswers

theorem judge_expireBannedSources (server : Server) (arrival : Arrival) :
    (server.expireBannedSources arrival.now).judge arrival =
      server.judge arrival := by
  have hexpired : (server.expireBannedSources
      arrival.now).expireBannedSources arrival.now =
        server.expireBannedSources arrival.now := by
    have hsources := HashMap.retain_retain_of_imp server.bannedSources
      (fun _ expiresAt => arrival.now < expiresAt) _ fun _ _ hlive => hlive
    rw [expireBannedSources]
    congr 1
  have htracked : (server.expireBannedSources arrival.now).tracked arrival =
      server.tracked arrival := by
    rw [tracked, hexpired]
    rfl
  have hlimited : (server.expireBannedSources arrival.now).limited arrival =
      server.limited arrival := by
    rw [limited, htracked]
    rfl
  rw [judge, judge, htracked, hlimited, bannedAt, bannedAt, hexpired]
  rfl

end Server

/-- So spaced packets neither miss the window nor let the partial state time
out in between. -/
structure KnockRules.InTime (rules : KnockRules) (times : List ℕ) : Prop where
  window : ∀ first ∈ times.head?, ∀ last ∈ times.getLast?,
    last - first ≤ rules.sequenceWindow
  gaps : times.IsChain fun earlier later =>
    later - earlier ≤ rules.partialStateTimeout

theorem KnockRules.inTime_iff {rules : KnockRules} {times : List ℕ} :
    rules.InTime times ↔
      (∀ first ∈ times.head?, ∀ last ∈ times.getLast?,
          last - first ≤ rules.sequenceWindow) ∧
        times.IsChain fun earlier later =>
          later - earlier ≤ rules.partialStateTimeout :=
  ⟨fun hinTime => ⟨hinTime.window, hinTime.gaps⟩,
    fun hinTime => ⟨hinTime.1, hinTime.2⟩⟩

instance (rules : KnockRules) (times : List ℕ) :
    Decidable (rules.InTime times) :=
  decidable_of_iff _ KnockRules.inTime_iff.symm

theorem KnockRules.isInvalid_of_mem_knockAnswers {nextStep length : ℕ}
    {outcome : KnockOutcome} (hpos : 0 < nextStep)
    (hmem : outcome ∈ knockAnswers nextStep length) :
    outcome.isInvalid = false ∧ outcome ≠ .progress 1 := by
  rw [knockAnswers, List.mem_append, List.mem_map, List.mem_singleton] at hmem
  rcases hmem with ⟨step, hstep, rfl⟩ | rfl
  · rw [List.mem_range'_1] at hstep
    refine ⟨rfl, fun hfirst => ?_⟩
    have hone := KnockOutcome.progress.inj hfirst
    omega
  · exact ⟨rfl, by simp⟩

namespace Handed

variable {Tag : Type} {sourceIp : IpAddr}

/-- The source is not banned and has room when its first packet is
processed. -/
def Welcome (handed : Handed Tag) : Prop :=
  handed.before.bannedAt handed.sourceIp handed.arrival.now = false ∧
    handed.before.tracker.room handed.arrival.packet handed.arrival.now = true

instance (handed : Handed Tag) : Decidable handed.Welcome :=
  inferInstanceAs (Decidable (_ ∧ _))

theorem timelyKnock_map_call {rules : KnockRules} {handed : List (Handed Tag)}
    (hspelled : handed.map (fun found => found.arrival.packet.spelled) =
      rules.sequence)
    (hinTime : rules.InTime (handed.map fun found => found.arrival.now)) :
    TimelyKnock rules (handed.map fun found => found.arrival.call) where
  spelled_eq := by
    rw [← hspelled, List.map_map]
    rfl
  window first hfirst last hlast := by
    apply hinTime.window first.2 _ last.2
    · rw [List.getLast?_map] at hlast ⊢
      obtain ⟨found, hfound, rfl⟩ := Option.map_eq_some_iff.mp hlast
      rw [hfound]
      rfl
    · rw [List.head?_map] at hfirst ⊢
      obtain ⟨found, hfound, rfl⟩ := Option.map_eq_some_iff.mp hfirst
      rw [hfound]
      rfl
  gaps := (List.isChain_map _).mpr ((List.isChain_map _).mp hinTime.gaps)

theorem packetsOf_map_call (sourceIp : IpAddr) (handed : List (Handed Tag)) :
    KnockTracker.packetsOf sourceIp
        (handed.map fun found => found.arrival.call) =
      (own sourceIp handed).map fun found => found.arrival.call := by
  rw [KnockTracker.packetsOf, List.filter_map]
  rfl

end Handed

namespace Server

variable {Tag : Type} {sourceIp : IpAddr} {server after : Server}
  {handed : List (Handed Tag)}

/-- The part of the memory that belongs to a welcome source answers its first
packet as if the source were alone. -/
theorem welcome_spared {found : Handed Tag} {reached : Server}
    (hwelcome : found.Welcome) {config : ValidConfig}
    (hreached : Configured config.toConfig reached)
    (hsame : SameMemory found.before reached) :
    ∃ solo, Spared config.toConfig found.arrival.sourceIp found.arrival.now
        (reached.expireBannedSources found.arrival.now) solo ∧
      solo.room found.arrival.packet found.arrival.now = true ∧
      reached.tracker.refusedForCapacity found.arrival.packet
        found.arrival.now = false := by
  obtain ⟨hunbanned, hroom⟩ := hwelcome
  rw [hsame.bannedAt_eq, bannedAt_eq_false_iff] at hunbanned
  rw [hsame.tracker_eq] at hroom
  have hconsistent := hreached.tracker_consistent
  obtain ⟨solo, hshadows⟩ := KnockTracker.exists_shadows hconsistent
    config.valid.maxPartialStates_pos found.sourceIp found.arrival.now
  refine ⟨solo, ⟨hreached.expire _, hshadows, hunbanned⟩, ?_, ?_⟩
  · exact KnockTracker.room_alone hconsistent hshadows.solo_consistent
      hshadows.slot_eq hshadows.others_none hroom
  · rw [KnockTracker.refusedForCapacity_eq hconsistent, hroom, Bool.not_true,
      Bool.and_false]

/-- A source that is welcome and spells the sequence in time is walked through
it to acceptance. -/
theorem answers_of_spelled (config : ValidConfig)
    (hserver : Configured config.toConfig server)
    (hhanded : server.Consecutive handed after)
    (hchronological : handed.Pairwise fun earlier later =>
      earlier.arrival.now ≤ later.arrival.now)
    (hfirstStep : ∀ first ∈ config.knock.sequence.head?,
      first.protocol ≠ .icmp)
    (hwelcome : ∀ first ∈ (Handed.own sourceIp handed).head?, first.Welcome)
    (hinTime : config.knockRules.InTime
      ((Handed.own sourceIp handed).map fun found => found.arrival.now))
    (hspelled : (Handed.own sourceIp handed).map
      (fun found => found.arrival.packet.spelled) = config.knock.sequence) :
    (Handed.own sourceIp handed).map
        (fun found => (found.before.bannedAt sourceIp found.arrival.now,
          found.before.outcome found.arrival)) =
      (knockAnswers 0 config.knock.sequence.length).map
        fun outcome => (false, outcome) := by
  have hlength := config.valid.three_le_length
  cases hown : Handed.own sourceIp handed with
  | nil =>
      rw [hown] at hspelled
      rw [← hspelled] at hlength
      exact absurd hlength (by simp)
  | cons first others =>
      obtain ⟨earlier, later, rfl, hearlier, hsource, hothers⟩ :=
        List.filter_eq_cons_iff.mp hown
      have hsource : first.arrival.sourceIp = sourceIp :=
        of_decide_eq_true hsource
      subst hsource
      have hothers : Handed.own first.arrival.sourceIp later = others := hothers
      obtain ⟨reached, hreached, hsame, hlater⟩ :=
        Consecutive.resume hserver hhanded
      have hfirstWelcome := hwelcome first (by rw [hown]; rfl)
      obtain ⟨solo, hspared, hroom, hrefused⟩ :=
        welcome_spared hfirstWelcome hreached hsame
      have hownAll : ∀ call ∈ others.map fun found => found.arrival.call,
          call.1.sourceIp = first.arrival.packet.sourceIp := by
        rw [← hothers]
        intro call hcall
        obtain ⟨found, hfound, rfl⟩ := List.mem_map.mp hcall
        exact of_decide_eq_true (List.mem_filter.mp hfound).2
      have hcalls : Sharded.Chronological
          ((first :: others).map fun found => found.arrival.call) := by
        rw [← hown]
        exact List.pairwise_map.mpr
          (hchronological.sublist List.filter_sublist)
      have hknock : TimelyKnock config.knockRules
          ((first :: others).map fun found => found.arrival.call) := by
        rw [hown] at hspelled hinTime
        exact Handed.timelyKnock_map_call hspelled hinTime
      have hsolo := KnockTracker.outcomesOf_lone_knock config
        hspared.shadows.solo_consistent hfirstStep hownAll hcalls hknock hroom
      rw [KnockRules.knockAnswers_of_lt (Nat.lt_of_lt_of_le (by decide) hlength)]
        at hsolo ⊢
      obtain ⟨hfirst, hremaining⟩ := List.cons.inj hsolo
      have hfirst : (solo.process first.arrival.packet first.arrival.now).1 =
        .progress 1 := hfirst
      have hshadowed : KnockTracker.Shadows config.knockRules
        config.maxPartialStates first.arrival.packet.sourceIp first.arrival.now
        reached.tracker solo := hspared.shadows
      have houtcome : first.before.outcome first.arrival = .progress 1 := by
        rw [hsame.outcome_eq, outcome,
          (hshadowed.process_own (Nat.le_refl _) hrefused).1, hfirst]
      obtain ⟨-, hnext⟩ := hspared.judge_own (Nat.le_refl _) rfl hrefused
        (by rw [hfirst]; rfl)
      rw [judge_expireBannedSources] at hnext
      have hordered := (List.pairwise_append.mp hchronological).2.1
      obtain ⟨hstart, hordered⟩ := List.pairwise_cons.mp hordered
      have hpackets : KnockTracker.packetsOf first.arrival.sourceIp
          (later.map fun found => found.arrival.call) =
            others.map fun found => found.arrival.call := by
        rw [Handed.packetsOf_map_call, hothers]
      have hanswers := hnext.answers hlater hstart hordered
      have hremaining : KnockTracker.outcomesOf
          ((KnockTracker.machine config.knockRules config.maxPartialStates).trace
            (solo.process first.arrival.packet first.arrival.now).2
            (others.map fun found => found.arrival.call)) =
              knockAnswers 1 config.knock.sequence.length := hremaining
      rw [hpackets, hothers, hremaining] at hanswers
      rw [List.map_cons, List.map_cons, houtcome]
      exact congrArg₂ List.cons
        (congrArg (·, KnockOutcome.progress 1) hfirstWelcome.1)
        (hanswers fun _ => KnockRules.isInvalid_of_mem_knockAnswers Nat.one_pos)

end Server

namespace PendingTcp

variable {Stream Tag : Type}

/-- The step that the payload of a connection spells. -/
def spelled? (received : Stream → Option (ℕ × Tag))
    (connection : PendingTcp Stream) : Option KnockStep :=
  (received connection.stream).map fun data =>
    ⟨.tcp, some connection.port, data.1⟩

def isFrom (sourceIp : IpAddr) (connection : PendingTcp Stream) : Bool :=
  connection.addr.ip = sourceIp

/-- The connections of the source were accepted in the order of the steps, and
each of them has exactly the payload of its step ready. -/
def KnockReady (config : Config) (received : Stream → Option (ℕ × Tag))
    (sourceIp : IpAddr) (pending : List (PendingTcp Stream)) : Prop :=
  (pending.filter (isFrom sourceIp)).map (spelled? received) =
    config.knock.sequence.map some

/-- Behind the last connection of the source at least as many connections stay
pending as are taken out in front of its last but one. -/
def EnoughStay (received : Stream → Option (ℕ × Tag)) (now : ℕ)
    (sourceIp : IpAddr) (pending : List (PendingTcp Stream)) : Prop :=
  ∀ front first middle last back,
    pending = front ++ first :: (middle ++ last :: back) →
    isFrom sourceIp first = true → isFrom sourceIp last = true →
    (∀ connection ∈ middle ++ back, isFrom sourceIp connection = false) →
      front.countP (fun connection => !connection.remains received now) ≤
        back.countP (remains received now)

variable {config : Config} {received : Stream → Option (ℕ × Tag)} {now : ℕ}
  {sourceIp : IpAddr} {pending : List (PendingTcp Stream)}

/-- The packets of the source spell what its connections have ready. -/
theorem map_spelled_own {handed : List (Handed Tag)}
    {connections : List (PendingTcp Stream)}
    (hcontents : handed.map Handed.content =
      connections.filterMap (content? received)) :
    (Handed.own sourceIp handed).map
        (fun found => found.arrival.packet.spelled) =
      (connections.filter (isFrom sourceIp)).filterMap (spelled? received) := by
  have hown : (Handed.own sourceIp handed).map
      (fun found => found.arrival.packet.spelled) =
        ((handed.map Handed.content).filter fun content =>
          content.1.ip = sourceIp).map fun content =>
            ⟨content.2.1, content.2.2.1, content.2.2.2⟩ := by
    rw [List.filter_map, List.map_map]
    rfl
  rw [hown, hcontents]
  clear hcontents hown
  induction connections with
  | nil => rfl
  | cons connection connections ih =>
      rw [List.filterMap_cons, content?]
      cases hreceived : received connection.stream with
      | none =>
          rw [Option.map_none, ih, List.filter_cons]
          split
          · rw [List.filterMap_cons, spelled?, hreceived, Option.map_none]
          · rfl
      | some data =>
          rw [Option.map_some, List.filter_cons, List.filter_cons]
          by_cases hsource : connection.addr.ip = sourceIp
          · rw [if_pos (by simpa using hsource),
              if_pos (by simpa [isFrom] using hsource), List.map_cons, ih,
              List.filterMap_cons, spelled?, hreceived, Option.map_some]
          · rw [if_neg (by simpa using hsource),
              if_neg (by simpa [isFrom] using hsource), ih]

/-- Steps that all have a port are pairwise different. -/
theorem KnockReady.nodup (hvalid : config.Valid)
    (hready : KnockReady config received sourceIp pending) :
    ((pending.filter (isFrom sourceIp)).map (spelled? received)).Nodup := by
  have hport : ∀ step ∈ config.knock.sequence, step.port ≠ none := by
    intro step hstep
    have hmem := List.mem_map_of_mem (f := some) hstep
    rw [← hready, List.mem_map] at hmem
    obtain ⟨connection, -, hspelled⟩ := hmem
    obtain ⟨data, -, rfl⟩ := Option.map_eq_some_iff.mp hspelled
    exact Option.some_ne_none _
  rw [hready]
  apply List.pairwise_map.mpr
  apply hvalid.ports_ne.imp_of_mem
  intro earlier later hearlier _ hports hsame
  obtain rfl := Option.some.inj hsame
  exact hport earlier hearlier (hports rfl)

/-- Connections with different payloads are in order when their payloads are. -/
theorem KnockReady.filter_eq_iff (hvalid : config.Valid)
    (hready : KnockReady config received sourceIp pending)
    {met : List (PendingTcp Stream)} (hmet : met.Perm pending) :
    (met.filter (isFrom sourceIp)).filterMap (spelled? received) =
        config.knock.sequence ↔
      met.filter (isFrom sourceIp) = pending.filter (isFrom sourceIp) := by
  have hperm := hmet.filter (isFrom sourceIp)
  have hsome : ((met.filter (isFrom sourceIp)).filterMap
      (spelled? received)).map some =
        (met.filter (isFrom sourceIp)).map (spelled? received) := by
    rw [List.map_filterMap_some_eq_filter_map_isSome]
    apply List.filter_eq_self.mpr
    intro step hstep
    rw [(hperm.map (spelled? received)).mem_iff, hready, List.mem_map] at hstep
    obtain ⟨step, -, rfl⟩ := hstep
    rfl
  rw [← (List.map_injective_iff.mpr (Option.some_injective _)).eq_iff, hsome,
    ← hready]
  constructor
  · intro hequal
    have hinjective := List.inj_on_of_nodup_map (hready.nodup hvalid)
    apply List.ext_getElem hperm.length_eq
    intro index hmetIndex hindex
    apply hinjective (hperm.mem_iff.mp (List.getElem_mem hmetIndex))
      (List.getElem_mem hindex)
    have hindexed := congrArg (fun steps => steps[index]?) hequal
    simp only [List.getElem?_map, List.getElem?_eq_getElem hmetIndex,
      List.getElem?_eq_getElem hindex, Option.map_some] at hindexed
    exact Option.some.inj hindexed
  · intro hequal
    rw [hequal]

/-- The connections of the source are met in the order in which they were
accepted exactly when enough others stay pending. -/
theorem KnockReady.order_kept_iff (hvalid : config.Valid)
    (hready : KnockReady config received sourceIp pending) :
    (visits (remains received now) pending).filter (isFrom sourceIp) =
        pending.filter (isFrom sourceIp) ↔
      EnoughStay received now sourceIp pending := by
  have hnodup := (hready.nodup hvalid).of_map
  have hremoved : ∀ connection ∈ pending, isFrom sourceIp connection = true →
      connection.remains received now = false := by
    intro connection hmem hsource
    have hspelled := List.mem_map_of_mem (f := spelled? received)
      (List.mem_filter.mpr ⟨hmem, hsource⟩)
    rw [hready, List.mem_map] at hspelled
    obtain ⟨step, -, hstep⟩ := hspelled
    obtain ⟨data, hdata, -⟩ := Option.map_eq_some_iff.mp hstep.symm
    rw [remains, hdata]
    rfl
  have hsplit : ∀ front first middle last back,
      pending = front ++ first :: (middle ++ last :: back) →
      isFrom sourceIp first = true → isFrom sourceIp last = true →
      (∀ connection ∈ middle ++ back, isFrom sourceIp connection = false) →
      ((visits (remains received now) pending).filter (isFrom sourceIp) =
          pending.filter (isFrom sourceIp) ↔
        front.countP (fun connection => !connection.remains received now) ≤
          back.countP (remains received now)) := by
    rintro front first middle last back rfl hfirst hlast hothers
    obtain ⟨hmiddle, hback⟩ := List.forall_mem_append.mp hothers
    exact filter_visits_eq_iff hnodup (hremoved first (by simp) hfirst) hfirst
      hlast hmiddle hback
  constructor
  · intro hequal front first middle last back hpending hfirst hlast hothers
    exact (hsplit front first middle last back hpending hfirst hlast
      hothers).mp hequal
  · intro henough
    have hlength := congrArg List.length hready
    rw [List.length_map, List.length_map] at hlength
    have htwo : 2 ≤ (pending.filter (isFrom sourceIp)).length :=
      hlength ▸ Nat.le_of_succ_le hvalid.three_le_length
    obtain ⟨front, first, middle, last, back, hpending, hfirst, hlast,
      hothers⟩ := exists_last_two htwo
    exact (hsplit front first middle last back hpending hfirst hlast
      hothers).mpr (henough front first middle last back hpending hfirst hlast
        hothers)

end PendingTcp

namespace Daemon

variable {N R Stream Tag : Type}

/-- Since `before`, packets were processed one after another. -/
def Continued (before daemon : Daemon N R Tag) : Prop :=
  ∃ handed, daemon.handed = before.handed ++ handed ∧
    before.server.Consecutive handed daemon.server

theorem Continued.refl (daemon : Daemon N R Tag) : Continued daemon daemon :=
  ⟨[], (List.append_nil _).symm, .refl _⟩

variable [CommandRunner R] [Streams N Stream Tag] {config : Config} {now : ℕ}
  {received : Stream → Option (ℕ × Tag)} {pending : List (PendingTcp Stream)}

theorem keeps_continued_processPacket (before : Daemon N R Tag)
    (addr : SocketAddr) (protocol : Protocol) (port : Option UInt16)
    (payloadSize : ℕ) (tag : Tag) :
    Keeps (Continued before)
      (processPacket addr protocol port payloadSize tag :
        DaemonM N R Tag Unit) := by
  apply Keeps.of_perform
  rintro daemon ⟨handed, hhanded, hconsecutive⟩
  let arrival : Arrival :=
    { now := (Streams.now daemon.network).1, addr, protocol, port, payloadSize }
  have hsame := Server.sameMemory_enact (daemon.server.judge arrival).2
    daemon.runner arrival (daemon.server.judge arrival).1
  rw [← Server.handle_eq] at hsame
  have hconcat : before.server.Consecutive
      (handed ++ [⟨arrival, tag, daemon.server⟩])
      (daemon.server.handle daemon.runner arrival).2.1 :=
    hconsecutive.concat (.refl _) hsame
  refine ⟨_, ?_, hconcat⟩
  rw [← List.append_assoc, ← hhanded]
  rfl

theorem keeps_continued_handleConnection (before : Daemon N R Tag)
    (connection : PendingTcp Stream) :
    Keeps (Continued before)
      (handleConnection config now received connection) := by
  have hnetwork : ∀ {α : Type} (poll : N → α × N),
      Keeps (Continued before) (onNetwork poll : DaemonM N R Tag α) :=
    fun _ _ hcontinued => hcontinued
  apply Keeps.bind (hnetwork _)
  intro _
  split
  · exact Keeps.bind (hnetwork _) fun _ =>
      keeps_continued_processPacket before _ _ _ _ _
  · split
    · exact hnetwork _
    · exact Keeps.pure ()

/-- The packets of a read phase were processed one after another, in the order
of `visits`. -/
theorem exists_consecutive (hreports : Reports N config received pending)
    {daemon after : Daemon N R Tag} {kept : List (PendingTcp Stream)}
    (hended : perform (pollPending config now pending 0) daemon =
      (.ok kept, after)) :
    ∃ handed, after.handed = daemon.handed ++ handed ∧
      daemon.server.Consecutive handed after.server ∧
      handed.map Handed.content =
        (visits (PendingTcp.remains received now) pending).filterMap
          (PendingTcp.content? received) := by
  let Done : List (PendingTcp Stream) → Daemon N R Tag → Prop :=
    fun _ => Continued daemon
  have hround : ∀ done connection, Triple (Done done)
      (handleConnection config now received connection)
      (fun _ => Done (done ++ [connection])) (fun _ => True) :=
    fun _ connection => Triple.imp_failed
      (keeps_continued_handleConnection daemon connection) fun _ _ => trivial
  have hcontinued := pollPending_establishes config now hreports hround daemon
    (.refl daemon)
  have hprocessed := pollPending_establishes config now hreports
    (processed_handleConnection daemon) daemon
    ⟨[], (List.append_nil _).symm, rfl⟩
  rw [hended] at hcontinued hprocessed
  obtain ⟨-, handed, hhanded, hconsecutive⟩ := hcontinued
  obtain ⟨-, others, hothers, hcontents⟩ := hprocessed
  obtain rfl := List.append_cancel_left (hhanded.symm.trans hothers)
  exact ⟨handed, hhanded, hconsecutive, hcontents⟩

/-- The packets of the source spell the sequence, and the last of them is
accepted. -/
def Recognised (config : Config) (sourceIp : IpAddr)
    (handed : List (Handed Tag)) : Prop :=
  (Handed.own sourceIp handed).map
      (fun found => found.arrival.packet.spelled) = config.knock.sequence ∧
    ∃ last ∈ (Handed.own sourceIp handed).getLast?, last.Accepted

theorem recognised_of_answers {config : Config} {sourceIp : IpAddr}
    {handed : List (Handed Tag)}
    (hspelled : (Handed.own sourceIp handed).map
      (fun found => found.arrival.packet.spelled) = config.knock.sequence)
    (hanswers : (Handed.own sourceIp handed).map
        (fun found => (found.before.bannedAt sourceIp found.arrival.now,
          found.before.outcome found.arrival)) =
      (knockAnswers 0 config.knock.sequence.length).map
        fun outcome => (false, outcome)) :
    Recognised config sourceIp handed := by
  have hlast := congrArg List.getLast? hanswers
  rw [List.getLast?_map, knockAnswers, List.map_append, List.map_singleton,
    List.getLast?_concat] at hlast
  obtain ⟨last, hmem, hanswer⟩ := Option.map_eq_some_iff.mp hlast
  obtain ⟨hunbanned, houtcome⟩ := Prod.mk.inj hanswer
  have hsource : last.sourceIp = sourceIp :=
    of_decide_eq_true (List.mem_filter.mp (List.mem_of_getLast? hmem)).2
  refine ⟨hspelled, last, hmem, ?_, houtcome⟩
  rw [hsource]
  exact hunbanned

/-- A source whose whole knock is ready in one pass, and which is not banned,
finds room and is processed in time, is handed over in the order of acceptance
and accepted exactly when behind its last connection at least as many
connections stay pending as are taken out in front of its last but one. -/
theorem fast_knock_recognised_iff (config : ValidConfig) (now : ℕ)
    (received : Stream → Option (ℕ × Tag)) (pending : List (PendingTcp Stream))
    (sourceIp : IpAddr) (daemon after : Daemon N R Tag)
    (kept : List (PendingTcp Stream)) (handed : List (Handed Tag))
    (hserver : Server.Configured config.toConfig daemon.server)
    (hreports : Reports N config.toConfig received pending)
    (hready :
      PendingTcp.KnockReady config.toConfig received sourceIp pending)
    (hended : perform (pollPending config.toConfig now pending 0) daemon =
      (.ok kept, after))
    (hhanded : after.handed = daemon.handed ++ handed)
    (hchronological : handed.Pairwise fun earlier later =>
      earlier.arrival.now ≤ later.arrival.now)
    (hwelcome : ∀ first ∈ (Handed.own sourceIp handed).head?, first.Welcome)
    (hinTime : config.knockRules.InTime
      ((Handed.own sourceIp handed).map fun found => found.arrival.now)) :
    Recognised config.toConfig sourceIp handed ↔
      PendingTcp.EnoughStay received now sourceIp pending := by
  obtain ⟨others, hothers, hconsecutive, hcontents⟩ :=
    exists_consecutive hreports hended
  obtain rfl := List.append_cancel_left (hhanded.symm.trans hothers)
  have hspelled : (Handed.own sourceIp _).map _ = _ :=
    PendingTcp.map_spelled_own hcontents
  have horder := hready.filter_eq_iff config.valid
    (visits_perm (PendingTcp.remains received now) pending)
  rw [← hspelled] at horder
  rw [← hready.order_kept_iff config.valid, ← horder]
  constructor
  · exact fun hrecognised => hrecognised.1
  · intro hsteps
    have hfirstStep : ∀ first ∈ config.knock.sequence.head?,
        first.protocol ≠ .icmp := by
      intro first hfirst
      have hmem := List.mem_map_of_mem (f := some) (List.mem_of_head? hfirst)
      rw [← hready, List.mem_map] at hmem
      obtain ⟨connection, -, hstep⟩ := hmem
      obtain ⟨data, -, rfl⟩ := Option.map_eq_some_iff.mp hstep
      simp
    exact recognised_of_answers hsteps
      (Server.answers_of_spelled config hserver hconsecutive hchronological
        hfirstStep hwelcome hinTime hsteps)

/-! ## Three ready connections -/

/-- Three TCP steps. -/
def tcpConfig : ValidConfig :=
  { testConfig with
    knock := ⟨[⟨.tcp, some 7001, 1⟩, ⟨.tcp, some 7002, 2⟩,
      ⟨.tcp, some 7003, 3⟩]⟩
    validated := by decide }

def tcpDaemon : Daemon Script WillingRunner Unit :=
  { server := Server.started tcpConfig .writable
    network := { clock := fun reading => reading, readings := 0 }
    runner := { commands := [] }, handed := [] }

/-- A connection of the knocking source, with its payload ready. -/
def readyConnection (port : UInt16) (size : ℕ) : Connection :=
  { port, stream := .ok size, addr := ⟨KnockTracker.testSource 10, 12345⟩
    deadline := Duration.fromSecs 10 }

/-- The whole knock, in order, and nothing else. -/
def readyKnock : List Connection :=
  [readyConnection 7001 1, readyConnection 7002 2, readyConnection 7003 3]

/-- A connection of another source behind the knock, still without data. -/
def shieldedKnock : List Connection :=
  readyKnock ++ [testConnection 20 (.error ⟨.wouldBlock, ""⟩)]

/-- What a pass over these connections processes. -/
def handedIn (pending : List Connection) : List (Handed Unit) :=
  (perform (pollPending tcpConfig.toConfig 0 pending 0) tcpDaemon).2.handed

theorem reports_carried {config : Config} {pending : List Connection}
    (hpending : ∀ connection ∈ pending, ∀ error,
      connection.stream = .error error → error.kind = .wouldBlock) :
    Reports Script config carried pending := by
  intro connection hmem script
  cases hstream : connection.stream with
  | ok size => rfl
  | error error =>
      have hkind := hpending connection hmem error hstream
      change readTcpKnock (.error error) = .ok none
      rw [readTcpKnock]
      simp only [hkind]

/-- A pass over these connections, with the index loop unrolled. -/
theorem perform_unrolled {pending ordered : List Connection}
    (hpending : ∀ connection ∈ pending, ∀ error,
      connection.stream = .error error → error.kind = .wouldBlock)
    (hordered : visits (PendingTcp.remains carried 0) pending = ordered)
    (hprocessed : (perform (ordered.forM
      (handleConnection tcpConfig.toConfig 0 carried)) tcpDaemon).1 = .ok ()) :
    perform (pollPending tcpConfig.toConfig 0 pending 0) tcpDaemon =
      (.ok (ordered.filter (PendingTcp.remains carried 0)),
        (perform (ordered.forM
          (handleConnection tcpConfig.toConfig 0 carried)) tcpDaemon).2) := by
  rw [pollPending_zero (reports_carried hpending), hordered]
  exact perform_bind_ok (Prod.ext hprocessed rfl)

/-- Removal brings the last connection of the knock forward, so the second step
comes last and the source is not recognised. -/
theorem ready_knock_unrecognised :
    PendingTcp.KnockReady tcpConfig.toConfig carried
        (KnockTracker.testSource 10) readyKnock ∧
      (∀ first ∈ (Handed.own (KnockTracker.testSource 10)
        (handedIn readyKnock)).head?, first.Welcome) ∧
      tcpConfig.knockRules.InTime ((Handed.own (KnockTracker.testSource 10)
        (handedIn readyKnock)).map fun found => found.arrival.now) ∧
      (handedIn readyKnock).map (fun found =>
          (found.arrival.port, found.before.outcome found.arrival)) =
        [(some 7001, .progress 1), (some 7003, .rejected),
          (some 7002, .rejected)] ∧
      ¬Recognised tcpConfig.toConfig (KnockTracker.testSource 10)
        (handedIn readyKnock) := by
  have hordered : visits (PendingTcp.remains carried 0) readyKnock =
      [readyConnection 7001 1, readyConnection 7003 3,
        readyConnection 7002 2] := by
    have hpromoted : promote [readyConnection 7002 2, readyConnection 7003 3] =
        [readyConnection 7003 3, readyConnection 7002 2] := rfl
    have hsingle : promote [readyConnection 7002 2] =
        [readyConnection 7002 2] := rfl
    rw [readyKnock, visits_cons, if_neg (by decide), hpromoted, visits_cons,
      if_neg (by decide), hsingle, visits_cons, if_neg (by decide),
      promote_nil, visits]
  have hready : ∀ connection ∈ readyKnock, ∀ error,
      connection.stream = .error error → error.kind = .wouldBlock := by
    simp [readyKnock, readyConnection]
  have hunrolled := perform_unrolled hready hordered (by decide +kernel)
  rw [handedIn, hunrolled]
  refine ⟨?_, by decide +kernel, by decide +kernel, by decide +kernel, ?_⟩
  · rw [PendingTcp.KnockReady]
    decide
  · rintro ⟨hspelled, -⟩
    revert hspelled
    decide +kernel

theorem fast_knock_recognised_iff_shielded :
    Recognised tcpConfig.toConfig (KnockTracker.testSource 10)
        (handedIn shieldedKnock) ↔
      PendingTcp.EnoughStay carried 0 (KnockTracker.testSource 10)
        shieldedKnock := by
  have hordered : visits (PendingTcp.remains carried 0) shieldedKnock =
      [readyConnection 7001 1, testConnection 20 (.error ⟨.wouldBlock, ""⟩),
        readyConnection 7002 2, readyConnection 7003 3] := by
    have hpromoted : promote [readyConnection 7002 2, readyConnection 7003 3,
        testConnection 20 (.error ⟨.wouldBlock, ""⟩)] =
          [testConnection 20 (.error ⟨.wouldBlock, ""⟩),
            readyConnection 7002 2, readyConnection 7003 3] := rfl
    have hsingle : promote [readyConnection 7003 3] =
        [readyConnection 7003 3] := rfl
    rw [shieldedKnock, readyKnock, List.cons_append, List.cons_append,
      List.cons_append, List.nil_append, visits_cons, if_neg (by decide),
      hpromoted, visits_cons, if_pos (by decide), visits_cons,
      if_neg (by decide), hsingle, visits_cons, if_neg (by decide),
      promote_nil, visits]
  have hready : ∀ connection ∈ shieldedKnock, ∀ error,
      connection.stream = .error error → error.kind = .wouldBlock := by
    simp +contextual [shieldedKnock, readyKnock, readyConnection,
      testConnection]
  have hunrolled := perform_unrolled hready hordered (by decide +kernel)
  have hempty : tcpDaemon.handed = [] := rfl
  apply fast_knock_recognised_iff tcpConfig 0 carried shieldedKnock
    (KnockTracker.testSource 10) tcpDaemon _ _ (handedIn shieldedKnock)
    (Server.configured_started tcpConfig .writable) (reports_carried hready) _
    hunrolled
  · rw [hempty, List.nil_append, handedIn, hunrolled]
  · rw [handedIn, hunrolled]
    decide +kernel
  · rw [handedIn, hunrolled]
    decide +kernel
  · rw [handedIn, hunrolled]
    decide +kernel
  · rw [PendingTcp.KnockReady]
    decide

end Daemon

end SshKnock
