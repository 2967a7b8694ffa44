import SshKnock.Knock.Completeness

/-!
# Which configurations are unambiguous

A packet should count as one step of the sequence at most.  Validation keeps
the ports apart, and TCP and UDP steps have ports.  ICMP steps have none, and
nothing keeps two of them from asking for the same size.
-/

namespace SshKnock

open SshKnock.Sharded
open SshKnock.KnockTracker (Consistent)

namespace KnockRules

/-- A packet matches a step exactly when it spells it, so the positions a
packet can match are told apart by a sequence without repetition. -/
theorem matchesStep_unique_iff (rules : KnockRules) :
    (∀ (packet : KnockPacket) (first second : ℕ),
        rules.matchesStep first packet = true →
        rules.matchesStep second packet = true → first = second) ↔
      rules.sequence.Nodup := by
  rw [List.nodup_iff_getElem?_ne_getElem?]
  constructor
  · intro hunique first second hlt hsecond hsame
    let step := rules.sequence[second]
    have hspelled : rules.sequence[second]? =
        some (KnockPacket.spelled
          ⟨KnockTracker.testSource 1, step.protocol, step.port, step.size⟩) :=
      List.getElem?_eq_getElem hsecond
    exact absurd (hunique _ first second
      (matchesStep_iff.mpr (hsame.trans hspelled))
      (matchesStep_iff.mpr hspelled)) (Nat.ne_of_lt hlt)
  · intro hdistinct packet first second hfirst hsecond
    have hfirstLt := lt_length_of_matchesStep hfirst
    have hsecondLt := lt_length_of_matchesStep hsecond
    have hsame : rules.sequence[first]? = rules.sequence[second]? :=
      (matchesStep_iff.mp hfirst).trans (matchesStep_iff.mp hsecond).symm
    by_contra hne
    rcases Nat.lt_or_gt_of_ne hne with hlt | hgt
    · exact hdistinct first second hlt hsecondLt hsame
    · exact hdistinct second first hgt hfirstLt hsame.symm

end KnockRules

namespace Config

/-- The sizes the ICMP steps ask for. -/
def icmpSizes (config : Config) : List ℕ :=
  (config.knock.sequence.filter (·.protocol = .icmp)).map (·.size)

theorem icmpSizes_nodup_iff (config : Config) :
    config.icmpSizes.Nodup ↔
      config.knock.sequence.Pairwise fun earlier later =>
        earlier.protocol = .icmp → later.protocol = .icmp →
          earlier.size ≠ later.size := by
  simp only [icmpSizes, List.Nodup, List.pairwise_map, List.pairwise_filter,
    decide_eq_true_eq]

/-- In an accepted configuration two equal steps are ICMP steps of one
size. -/
theorem Valid.sequence_nodup_iff {config : Config} (hvalid : config.Valid) :
    config.knock.sequence.Nodup ↔ config.icmpSizes.Nodup := by
  have hicmp : ∀ step ∈ config.knock.sequence,
      step.port = none ↔ step.protocol = .icmp :=
    fun step hstep => (hvalid.step_valid step hstep).port_none_iff
  rw [icmpSizes_nodup_iff]
  constructor
  · apply List.Pairwise.imp_of_mem
    intro earlier later hearlier hlater hne hfirst hsecond hsize
    apply hne
    have hports : earlier.port = later.port :=
      ((hicmp earlier hearlier).mpr hfirst).trans
        ((hicmp later hlater).mpr hsecond).symm
    have hprotocols : earlier.protocol = later.protocol :=
      hfirst.trans hsecond.symm
    cases earlier
    cases later
    exact (KnockStep.mk.injEq ..).mpr ⟨hprotocols, hports, hsize⟩
  · intro hsizes
    apply (hsizes.and hvalid.ports_ne).imp_of_mem
    rintro earlier later hearlier - ⟨hsize, hports⟩ rfl
    have hprotocol := (hicmp earlier hearlier).mp (hports rfl)
    exact hsize hprotocol hprotocol rfl

/-- No packet counts as two steps of the sequence. -/
def Unambiguous (config : Config) : Prop :=
  ∀ (packet : KnockPacket) (first second : ℕ),
    (KnockTracker.fresh config.knockRules config.maxPartialStates).matchesStep
      first packet = true →
    (KnockTracker.fresh config.knockRules config.maxPartialStates).matchesStep
      second packet = true →
    first = second

/-- However a source was left by what it sent before, a complete and timely
knock that finds room to start is accepted at its last packet. -/
def LosesNoKnock (config : Config) : Prop :=
  ∀ (earlier : List (KnockPacket × ℕ)) (packet : KnockPacket) (now : ℕ)
    (others : List (KnockPacket × ℕ)),
    let reached := (KnockTracker.fresh config.knockRules
      config.maxPartialStates).after earlier
    Chronological (earlier ++ (packet, now) :: others) →
    TimelyKnock config.knockRules
      (KnockTracker.packetsOf packet.sourceIp ((packet, now) :: others)) →
    reached.room packet now = true →
    KnockTracker.outcomesOf (KnockTracker.callsOf packet.sourceIp
        (reached.trace ((packet, now) :: others))) =
      knockAnswers 0 config.knock.sequence.length

theorem firstStepUnique_of_nodup {sequence : List KnockStep}
    (hnodup : sequence.Nodup) : FirstStepUnique sequence := by
  intro first hfirst
  cases sequence with
  | nil => cases hfirst
  | cons head later =>
      rw [List.head?_cons, Option.mem_some_iff] at hfirst
      exact hfirst ▸ (List.nodup_cons.mp hnodup).1

/-- A sequence without repetition survives every restart of the tracker. -/
theorem Valid.losesNoKnock {config : Config} (hvalid : config.Valid)
    (hnodup : config.knock.sequence.Nodup) : config.LosesNoKnock := by
  intro earlier packet now others reached hcalls hknock hroom
  have hconsistent : Consistent config.knockRules config.maxPartialStates
      reached :=
    KnockTracker.consistent_after (Consistent.fresh _ _) earlier
  exact KnockTracker.outcomesOf_timelyKnock hconsistent
    (Nat.lt_of_lt_of_le (by decide) hvalid.three_le_length)
    (fun step hstep => (hvalid.step_valid step hstep).size_le)
    (firstStepUnique_of_nodup hnodup)
    (List.pairwise_append.mp hcalls).2.1 hknock hroom

/-- An accepted configuration is unambiguous, and its restarts lose no knock,
exactly when its ICMP steps ask for different sizes. -/
theorem unambiguous_iff (config : ValidConfig) :
    (config.Unambiguous ∧ config.LosesNoKnock) ↔ config.icmpSizes.Nodup := by
  rw [← config.valid.sequence_nodup_iff]
  have hunambiguous : config.Unambiguous ↔ config.knock.sequence.Nodup :=
    config.knockRules.matchesStep_unique_iff
  constructor
  · intro hproperty
    exact hunambiguous.mp hproperty.1
  · intro hnodup
    exact ⟨hunambiguous.mpr hnodup, config.valid.losesNoKnock hnodup⟩

/-- Two pings of one size around a TCP step. -/
def pingPongConfig : ValidConfig where
  listen := "127.0.0.1"
  sshPort := 22
  ipsetName := "ssh_allow"
  knock := ⟨[⟨.icmp, none, 64⟩, ⟨.tcp, some 7001, 1⟩, ⟨.icmp, none, 64⟩]⟩
  validated := by decide

/-- The sequence passes validation although one ping matches its first and its
last step. -/
theorem accepted_config_ambiguous :
    pingPongConfig.toConfig.validate = .ok () ∧
      ¬pingPongConfig.Unambiguous := by
  constructor
  · exact pingPongConfig.validated
  · intro hunique
    have hsame : 0 = 2 := hunique ⟨KnockTracker.testSource 1, .icmp, none, 64⟩ 0 2
      (by decide) (by decide)
    cases hsame

end Config

end SshKnock
