import SshKnock.System.Availability

/-!
# What the rest of the host notices

Whatever is set up, started and knocked, and whatever fails, the daemon changes
no rule and no set but its own.  A packet that is not for the SSH port meets
the other rules as they were before, unless its source is banned.
-/

namespace SshKnock

open Fallible

/-! ## The host -/

namespace Firewall

/-- The hosts differ in nothing but the daemon's own rules and sets. -/
structure Spares (firewall : Firewall) (sshPort : UInt16)
    (before after : Host) : Prop where
  chain_eq : after.chain.filter (fun rule => rule ∉ firewall.ownRules sshPort) =
    before.chain.filter (fun rule => rule ∉ firewall.ownRules sshPort)
  sets_eq : ∀ name, name ≠ firewall.ipsetName →
    name ≠ firewall.banIpsetName →
      after.sets.get name = before.sets.get name

variable {firewall : Firewall} {sshPort : UInt16}

theorem Spares.refl (host : Host) : Spares firewall sshPort host host :=
  ⟨rfl, fun _ _ _ => rfl⟩

theorem Spares.trans {first second third : Host}
    (hfirst : Spares firewall sshPort first second)
    (hsecond : Spares firewall sshPort second third) :
    Spares firewall sshPort first third where
  chain_eq := hsecond.chain_eq.trans hfirst.chain_eq
  sets_eq name hallow hban :=
    (hsecond.sets_eq name hallow hban).trans (hfirst.sets_eq name hallow hban)

theorem spares_createSet {own : String}
    (hown : own = firewall.ipsetName ∨ own = firewall.banIpsetName)
    (options : List String) (host : Host) :
    Spares firewall sshPort host (host.createSet own options) where
  chain_eq := by
    rw [Host.createSet]
    split <;> rfl
  sets_eq name hallow hban := by
    apply host.get_createSet_of_ne
    rcases hown with rfl | rfl
    · exact hallow
    · exact hban

theorem spares_ensureRule (position : RuleChain.Position) {rule : Rule}
    (hown : rule ∈ firewall.ownRules sshPort) (host : Host) :
    Spares firewall sshPort host (host.ensureRule position rule) where
  chain_eq := RuleChain.filter_ensure_of_neg position (by simp [hown]) _
  sets_eq _ _ _ := rfl

/-- No step of the setup touches what is not the daemon's. -/
theorem spares_setupSteps (firewall : Firewall) (sshPort : UInt16) :
    ∀ step ∈ firewall.setupSteps sshPort, ∀ host,
      Spares firewall sshPort host (step host) := by
  simp only [setupSteps, List.forall_mem_cons, List.not_mem_nil,
    false_implies, implies_true, and_true]
  exact ⟨spares_createSet (Or.inl rfl) _, spares_createSet (Or.inr rfl) _,
    spares_ensureRule _ (by simp [ownRules]),
    spares_ensureRule _ (by simp [ownRules]),
    spares_ensureRule _ (by simp [ownRules])⟩

end Firewall

/-! ## The kernel -/

namespace System

variable {N Stream Tag : Type} [Network N Stream Tag] {config : ValidConfig}

/-- The kernels differ in nothing but the daemon's own rules, sets and
entries. -/
structure SparesRest (config : ValidConfig) (before after : Kernel) : Prop where
  host : config.firewall.Spares config.sshPort before.host after.host
  entries_eq : ∀ set, set ≠ config.ipsetName → set ≠ config.banIpsetName →
    ∀ entry, after.entries.get (set, entry) = before.entries.get (set, entry)

theorem Consistent.spares_step {system : System}
    (hsystem : Consistent config system) (event : Event N) :
    SparesRest config system.kernel (system.step config event).1.kernel where
  host := hsystem.host_step_relates .refl .trans
    (config.firewall.spares_setupSteps config.sshPort) event
  entries_eq set hallow hban entry := by
    have hstepped := hsystem.stepped event
    generalize system.step config event = result at hstepped ⊢
    cases hstepped with
    | other _ _ _ _ _ hkernel => rw [hkernel.entries_eq]
    | setup _ _ _ hkernel => rw [hkernel.entries_eq]
    | added addr _ _ _ _ _ _ after listing duration hjudged hkernel =>
        rw [hkernel]
        apply HashMap.get_insert_of_ne
        intro hsame
        have hset : set = listing.set := congrArg Prod.fst hsame
        rcases hjudged with ⟨rfl, -⟩ | ⟨rfl, -⟩
        · exact hallow hset
        · exact hban hset

theorem Consistent.spares_run {system : System}
    (hsystem : Consistent config system) (events : List (Event N)) :
    SparesRest config system.kernel (system.run config events).kernel := by
  induction events generalizing system with
  | nil => exact ⟨.refl _, fun _ _ _ _ => rfl⟩
  | cons event events ih =>
      have hfirst := hsystem.spares_step event
      have hrest := ih (hsystem.step event)
      exact ⟨hfirst.host.trans hrest.host, fun set hallow hban entry =>
        (hrest.entries_eq set hallow hban entry).trans
          (hfirst.entries_eq set hallow hban entry)⟩

/-! ## Other traffic -/

/-- What the arguments of a rule mean for a packet. -/
abbrev Reading := Members → InputPacket → Rule → Option Verdict

/-- The first rule that matches decides, as the rules are read. -/
def verdictBy (reads : Reading) (members : Members) (packet : InputPacket)
    (otherwise : Verdict) (chain : List Rule) : Verdict :=
  (chain.findSome? (reads members packet)).getD otherwise

/-- The packet is not one to the SSH port. -/
def Unrelated (config : ValidConfig) (packet : InputPacket) : Prop :=
  packet.protocol = .tcp → packet.port ≠ config.sshPort

/-- The daemon's rules say nothing about such a packet, but to drop what a
banned source sends. -/
theorem Unrelated.ruleVerdict_own {packet : InputPacket}
    (hunrelated : Unrelated config packet) (members : Members) {rule : Rule}
    (hown : rule ∈ config.firewall.ownRules config.sshPort) :
    ruleVerdict members packet rule = none ∨
      members config.banIpsetName packet.sourceIp = true ∧
        ruleVerdict members packet rule = some .drop := by
  obtain ⟨protocol, sourceIp, port⟩ := packet
  have hport : protocol = .tcp → toString config.sshPort ≠ toString port :=
    fun htcp hsame => hunrelated htcp (toString_port_inj.mp hsame).symm
  simp only [Firewall.ownRules, List.mem_cons, List.not_mem_nil,
    or_false] at hown
  rcases hown with rfl | rfl | rfl
  · left
    by_cases htcp : protocol = .tcp
    · simp [Firewall.iptablesAllowRuleArgs, ruleVerdict, htcp, hport htcp]
    · simp [Firewall.iptablesAllowRuleArgs, ruleVerdict, htcp]
  · left
    by_cases htcp : protocol = .tcp
    · simp [Firewall.iptablesDropRuleArgs, ruleVerdict, htcp, hport htcp]
    · simp [Firewall.iptablesDropRuleArgs, ruleVerdict, htcp]
  · rw [Firewall.ruleVerdict_ban]
    split
    · next hbanned => exact Or.inr ⟨hbanned, rfl⟩
    · exact Or.inl rfl

/-- If only the daemon's own rules differ, such a packet meets the same
verdict, unless its source is banned. -/
theorem verdictBy_of_spares {reads : Reading}
    (hreads : ∀ members packet,
      ∀ rule ∈ config.firewall.ownRules config.sshPort,
        reads members packet rule = ruleVerdict members packet rule)
    {before after : Host}
    (hspares : config.firewall.Spares config.sshPort before after)
    (members : Members) {packet : InputPacket} (otherwise : Verdict)
    (hunrelated : Unrelated config packet) :
    verdictBy reads members packet otherwise after.chain =
        verdictBy reads members packet otherwise
          (before.chain.filter fun rule =>
            rule ∉ config.firewall.ownRules config.sshPort) ∨
      members config.banIpsetName packet.sourceIp = true ∧
        verdictBy reads members packet otherwise after.chain = .drop := by
  have hown : ∀ rule ∈ after.chain,
      decide (rule ∉ config.firewall.ownRules config.sshPort) = false →
        reads members packet rule = none ∨
          members config.banIpsetName packet.sourceIp = true ∧
            reads members packet rule = some .drop := by
    intro rule _ hkeep
    have hmem := not_not.mp (of_decide_eq_false hkeep)
    rw [hreads members packet rule hmem]
    exact hunrelated.ruleVerdict_own members hmem
  rw [verdictBy, verdictBy, ← hspares.chain_eq]
  by_cases hbanned : members config.banIpsetName packet.sourceIp = true
  · rcases RuleChain.findSome?_filter_or fun rule hmem hkeep =>
      (hown rule hmem hkeep).imp_right And.right with hothers | hdropped
    · exact Or.inl (by rw [hothers])
    · exact Or.inr ⟨hbanned, by rw [hdropped]; rfl⟩
  · left
    rw [RuleChain.findSome?_filter fun rule hmem hkeep =>
      (hown rule hmem hkeep).resolve_right fun hban => hbanned hban.1]

/-- Whatever happens, the daemon leaves the sets of others, their entries and
what other rules decide about other traffic as they are, but for dropping what
banned sources send.  The other rules may mean anything. -/
theorem leaves_others_alone (config : ValidConfig) (system : System)
    (events : List (Event N)) (hdaemon : system.daemon = none)
    (reads : Reading)
    (hreads : ∀ members packet,
      ∀ rule ∈ config.firewall.ownRules config.sshPort,
        reads members packet rule = ruleVerdict members packet rule) :
    (∀ set, set ≠ config.ipsetName → set ≠ config.banIpsetName →
      (system.run config events).kernel.host.sets.get set =
          system.kernel.host.sets.get set ∧
        ∀ entry, (system.run config events).kernel.entries.get (set, entry) =
          system.kernel.entries.get (set, entry)) ∧
    ∀ members packet otherwise, Unrelated config packet →
      verdictBy reads members packet otherwise
          (system.run config events).kernel.host.chain =
        verdictBy reads members packet otherwise
          (system.kernel.host.chain.filter fun rule =>
            rule ∉ config.firewall.ownRules config.sshPort) ∨
      members config.banIpsetName packet.sourceIp = true ∧
        verdictBy reads members packet otherwise
          (system.run config events).kernel.host.chain = .drop := by
  have hconsistent : Consistent config system := by
    intro process hprocess
    rw [hdaemon] at hprocess
    cases hprocess
  have hspares := hconsistent.spares_run events
  refine ⟨fun set hallow hban => ⟨hspares.host.sets_eq set hallow hban,
    hspares.entries_eq set hallow hban⟩, ?_⟩
  intro members packet otherwise hunrelated
  exact verdictBy_of_spares hreads hspares.host members otherwise hunrelated

/-- A rule of the administrator: queries to a name server are let in. -/
def queriesRule : Rule :=
  ["-p", "udp", "--dport", "53", "-j", "ACCEPT"]

/-- The rule is read as the administrator means it. -/
def readsQueries : Reading := fun members packet rule =>
  if rule = queriesRule then
    if packet.protocol = .udp ∧ packet.port = 53 then some .accept else none
  else ruleVerdict members packet rule

/-- The host is set up before the daemon is started and stopped again. -/
def setUpAndStopped : List (Event Queues) :=
  [.setup [], .start .writable (.empty (fun _ => 0) []) [], .stop]

/-- After setup, start and stop the queries are still let in. -/
theorem leaves_others_alone_after_setup :
    verdictBy readsQueries (fun _ _ => false)
        ⟨.udp, KnockTracker.testSource 10, 53⟩ .drop
        ((quiet ⟨[queriesRule], HashMap.empty⟩ 0).run testConfig
          setUpAndStopped).kernel.host.chain = .accept := by
  have hreads : ∀ members packet,
      ∀ rule ∈ testConfig.firewall.ownRules testConfig.sshPort,
        readsQueries members packet rule = ruleVerdict members packet rule := by
    intro members packet rule hrule
    exact if_neg (ne_of_mem_of_not_mem hrule (by decide))
  have hothers := (leaves_others_alone testConfig
    (quiet ⟨[queriesRule], HashMap.empty⟩ 0) setUpAndStopped rfl readsQueries
    hreads).2 (fun _ _ => false) ⟨.udp, KnockTracker.testSource 10, 53⟩ .drop
    (by rintro ⟨⟩)
  rcases hothers with hothers | ⟨⟨⟩, -⟩
  exact hothers.trans (by decide)

end System

end SshKnock
