import SshKnock.Firewall.Convergence

/-!
# What the chain lets through

The first rule that matches a packet decides it.  The setup is meant to drop
banned sources, accept allowed ones and drop the rest on the SSH port.  It only
looks at which rules are present, so a ban rule kept from an earlier setup can
end up behind the allow rule.
-/

namespace SshKnock

open SshKnock.RuleChain (Position)

inductive Verdict where
  | accept
  | drop
  deriving DecidableEq

theorem toString_port_inj {left right : UInt16} :
    toString left = toString right ↔ left = right :=
  ⟨fun heq => UInt16.toNat_inj.mp (TextFields.repr_injective heq),
    fun heq => heq ▸ rfl⟩

/-- A packet that reaches the `INPUT` chain. -/
structure InputPacket where
  protocol : Protocol
  sourceIp : IpAddr
  port : UInt16

/-- What each set holds. -/
abbrev Members := String → IpAddr → Bool

/-- The target of a rule, given by its arguments, when the packet matches. -/
def ruleVerdict (members : Members) (packet : InputPacket) :
    Rule → Option Verdict
  | "-p" :: "tcp" :: rest =>
      if packet.protocol = .tcp then ruleVerdict members packet rest else none
  | "--dport" :: port :: rest =>
      if port = toString packet.port then ruleVerdict members packet rest
      else none
  | "-m" :: "set" :: rest => ruleVerdict members packet rest
  | "--match-set" :: name :: "src" :: rest =>
      if members name packet.sourceIp then ruleVerdict members packet rest
      else none
  | ["-j", "ACCEPT"] => some .accept
  | ["-j", "DROP"] => some .drop
  | _ => none

/-- The first rule that matches decides; otherwise the chain's own policy. -/
def chainVerdict (members : Members) (packet : InputPacket)
    (otherwise : Verdict) (chain : List Rule) : Verdict :=
  (chain.findSome? (ruleVerdict members packet)).getD otherwise

namespace Firewall

/-- A TCP packet to `sshPort` is dropped when its source is banned, else
accepted when it is allowed, else dropped. -/
def intendedVerdict (firewall : Firewall) (members : Members)
    (sourceIp : IpAddr) : Verdict :=
  if members firewall.banIpsetName sourceIp then .drop
  else if members firewall.ipsetName sourceIp then .accept
  else .drop

/-- The chain treats the SSH port as intended, whatever the sets hold. -/
def Enforces (firewall : Firewall) (sshPort : UInt16) (chain : List Rule) :
    Prop :=
  ∀ (members : Members) (otherwise : Verdict) (sourceIp : IpAddr),
    chainVerdict members ⟨.tcp, sourceIp, sshPort⟩ otherwise chain =
      firewall.intendedVerdict members sourceIp

/-- A chain of the daemon's own rules: what earlier setups, for any ports,
have left and the administrator has not deleted since. -/
inductive LeftBySetups (firewall : Firewall) : List Rule → Prop where
  | empty : LeftBySetups firewall []
  | setup (sshPort : UInt16) (host : Host)
      (hleft : LeftBySetups firewall host.chain) :
      LeftBySetups firewall (firewall.setupOnce sshPort host).chain
  | deleted {chain rest : List Rule} (hleft : LeftBySetups firewall chain)
      (hrest : rest.Sublist chain) : LeftBySetups firewall rest

theorem ruleVerdict_allow (firewall : Firewall) (members : Members)
    (sourceIp : IpAddr) (sshPort port : UInt16) :
    ruleVerdict members ⟨.tcp, sourceIp, port⟩
        (firewall.iptablesAllowRuleArgs sshPort) =
      if sshPort = port ∧ members firewall.ipsetName sourceIp = true then
        some .accept
      else none := by
  simp only [iptablesAllowRuleArgs, ruleVerdict, if_true, toString_port_inj,
    ite_and]

theorem ruleVerdict_drop (firewall : Firewall) (members : Members)
    (sourceIp : IpAddr) (sshPort port : UInt16) :
    ruleVerdict members ⟨.tcp, sourceIp, port⟩
        (firewall.iptablesDropRuleArgs sshPort) =
      if sshPort = port then some .drop else none := by
  simp only [iptablesDropRuleArgs, ruleVerdict, if_true, toString_port_inj]

theorem ruleVerdict_ban (firewall : Firewall) (members : Members)
    (packet : InputPacket) :
    ruleVerdict members packet firewall.iptablesBanDropRuleArgs =
      if members firewall.banIpsetName packet.sourceIp then some .drop
      else none := by
  simp only [iptablesBanDropRuleArgs, ruleVerdict]

/-- What every chain left by setups looks like. -/
structure Tidy (firewall : Firewall) (chain : List Rule) : Prop where
  nodup : chain.Nodup
  own : ∀ rule ∈ chain, ∃ port, rule ∈ firewall.ownRules port
  allow_first : ∀ port, ¬RuleChain.Precedes
    (firewall.iptablesDropRuleArgs port) (firewall.iptablesAllowRuleArgs port)
    chain

theorem Tidy.setupOnce {firewall : Firewall} {host : Host}
    (htidy : Tidy firewall host.chain) (sshPort : UInt16) :
    Tidy firewall (firewall.setupOnce sshPort host).chain where
  nodup := by
    rw [chain_setupOnce]
    exact RuleChain.nodup_ensure
      (RuleChain.nodup_ensure (RuleChain.nodup_ensure htidy.nodup))
  own rule hmem := by
    rw [chain_setupOnce] at hmem
    simp only [RuleChain.mem_ensure] at hmem
    rcases hmem with rfl | rfl | rfl | hmem
    · exact ⟨sshPort, by simp [ownRules]⟩
    · exact ⟨sshPort, by simp [ownRules]⟩
    · exact ⟨sshPort, by simp [ownRules]⟩
    · exact htidy.own rule hmem
  allow_first port := by
    have hallowDrop := firewall.allow_ne_drop
    have hallowBan := firewall.allow_ne_ban
    have hdropBan := firewall.drop_ne_ban
    rw [chain_setupOnce, RuleChain.precedes_ensure_of_ne (hdropBan port)
      (hallowBan port)]
    -- The drop rule goes behind and the allow rule goes in front.
    have hchain := htidy.allow_first port
    simp only [RuleChain.ensure]
    split <;> split <;>
      simp [RuleChain.precedes_add_first, RuleChain.precedes_add_last,
        hallowDrop port, (hallowDrop _ port).symm, hchain]

theorem LeftBySetups.tidy {firewall : Firewall} {chain : List Rule}
    (hleft : LeftBySetups firewall chain) : Tidy firewall chain := by
  induction hleft with
  | empty => exact ⟨List.nodup_nil, by simp, by simp [RuleChain.Precedes]⟩
  | setup sshPort host hleft ih => exact ih.setupOnce sshPort
  | deleted hleft hrest ih =>
      exact ⟨ih.nodup.sublist hrest,
        fun rule hmem => ih.own rule (hrest.mem hmem),
        fun port hprecedes => ih.allow_first port (hprecedes.trans hrest)⟩

/-- Rules for other ports do not decide a packet to the SSH port. -/
theorem Tidy.ruleVerdict_other {firewall : Firewall} {chain : List Rule}
    (htidy : Tidy firewall chain) (members : Members) (sourceIp : IpAddr)
    (sshPort : UInt16) {rule : Rule} (hmem : rule ∈ chain)
    (hother : rule ∉ firewall.ownRules sshPort) :
    ruleVerdict members ⟨.tcp, sourceIp, sshPort⟩ rule = none := by
  obtain ⟨port, hport⟩ := htidy.own rule hmem
  simp only [ownRules, List.mem_cons, List.not_mem_nil, or_false,
    not_or] at hport hother
  rcases hport with rfl | rfl | rfl
  · rw [ruleVerdict_allow, if_neg]
    rintro ⟨rfl, -⟩
    exact hother.1 rfl
  · rw [ruleVerdict_drop, if_neg]
    rintro rfl
    exact hother.2.1 rfl
  · exact absurd rfl hother.2.2

/-- The orders in which a chain can have all of the daemon's rules. -/
theorem Tidy.orders {firewall : Firewall} {chain own : List Rule}
    (htidy : Tidy firewall chain) (sshPort : UInt16)
    (hcomplete : ∀ rule ∈ firewall.ownRules sshPort, rule ∈ chain)
    (hown : own =
      chain.filter fun rule => rule ∈ firewall.ownRules sshPort) :
    own = [firewall.iptablesBanDropRuleArgs,
          firewall.iptablesAllowRuleArgs sshPort,
          firewall.iptablesDropRuleArgs sshPort] ∨
      own = [firewall.iptablesAllowRuleArgs sshPort,
          firewall.iptablesBanDropRuleArgs,
          firewall.iptablesDropRuleArgs sshPort] ∨
      own = [firewall.iptablesAllowRuleArgs sshPort,
          firewall.iptablesDropRuleArgs sshPort,
          firewall.iptablesBanDropRuleArgs] := by
  have hsublist : own.Sublist chain := hown ▸ List.filter_sublist
  apply RuleChain.three_orders (htidy.nodup.sublist hsublist) _
    (firewall.allow_ne_ban sshPort).symm (firewall.drop_ne_ban sshPort).symm
    (firewall.allow_ne_drop sshPort sshPort)
    (fun hprecedes => htidy.allow_first sshPort (hprecedes.trans hsublist))
  intro rule
  have hmem := hcomplete rule
  rw [hown, List.mem_filter, decide_eq_true_eq]
  simp only [ownRules, List.mem_cons, List.not_mem_nil, or_false] at hmem ⊢
  constructor
  · rintro ⟨-, rfl | rfl | rfl⟩ <;> simp
  · intro hrule
    have hrules : rule = firewall.iptablesAllowRuleArgs sshPort ∨
        rule = firewall.iptablesDropRuleArgs sshPort ∨
        rule = firewall.iptablesBanDropRuleArgs := by
      rcases hrule with rfl | rfl | rfl <;> simp
    exact ⟨hmem hrules, hrules⟩

/-- With all three rules in place, the chain does what is intended exactly when
the ban rule stands before the allow rule. -/
theorem Tidy.enforces_iff {firewall : Firewall} {chain : List Rule}
    (htidy : Tidy firewall chain) (sshPort : UInt16)
    (hcomplete : ∀ rule ∈ firewall.ownRules sshPort, rule ∈ chain) :
    Enforces firewall sshPort chain ↔
      RuleChain.Precedes firewall.iptablesBanDropRuleArgs
        (firewall.iptablesAllowRuleArgs sshPort) chain := by
  have hverdict : ∀ members sourceIp,
      chain.findSome? (ruleVerdict members ⟨.tcp, sourceIp, sshPort⟩) =
        (chain.filter fun rule => rule ∈ firewall.ownRules sshPort).findSome?
          (ruleVerdict members ⟨.tcp, sourceIp, sshPort⟩) :=
    fun members sourceIp => (RuleChain.findSome?_filter
      fun rule hmem hother => htidy.ruleVerdict_other members sourceIp sshPort
        hmem (of_decide_eq_false hother)).symm
  have hban := (firewall.allow_ne_ban sshPort).symm
  have hdrop := firewall.allow_ne_drop sshPort sshPort
  have hbanDrop := (firewall.drop_ne_ban sshPort).symm
  have hprecedes : RuleChain.Precedes firewall.iptablesBanDropRuleArgs
        (firewall.iptablesAllowRuleArgs sshPort)
        (chain.filter fun rule => rule ∈ firewall.ownRules sshPort) ↔
      RuleChain.Precedes firewall.iptablesBanDropRuleArgs
        (firewall.iptablesAllowRuleArgs sshPort) chain :=
    RuleChain.precedes_filter (by simp [ownRules]) (by simp [ownRules])
  rw [← hprecedes]
  simp only [Enforces, chainVerdict]
  simp only [hverdict]
  generalize hown : chain.filter _ = own
  rcases htidy.orders sshPort hcomplete hown.symm with rfl | rfl | rfl
  · refine iff_of_true (fun members otherwise sourceIp => ?_)
      (((List.nil_sublist _).cons_cons _).cons_cons _)
    simp only [List.findSome?_cons, ruleVerdict_ban, ruleVerdict_allow,
      ruleVerdict_drop, intendedVerdict]
    cases members firewall.banIpsetName sourceIp <;>
      cases members firewall.ipsetName sourceIp <;> simp
  -- Otherwise a source in both sets is let in.
  · refine iff_of_false (fun henforces => ?_) ?_
    · have haccepted := henforces (fun _ _ => true) .drop (.v4 ⟨0, 0, 0, 0⟩)
      simp [ruleVerdict_allow, intendedVerdict] at haccepted
    · simp [RuleChain.Precedes, List.sublist_cons_iff, hban, hdrop]
  · refine iff_of_false (fun henforces => ?_) ?_
    · have haccepted := henforces (fun _ _ => true) .drop (.v4 ⟨0, 0, 0, 0⟩)
      simp [ruleVerdict_allow, intendedVerdict] at haccepted
    · simp [RuleChain.Precedes, List.sublist_cons_iff, hban, hbanDrop]

/-- Where the setup leaves the ban rule. -/
theorem precedes_setupOnce_iff (firewall : Firewall) (sshPort : UInt16)
    (host : Host) :
    RuleChain.Precedes firewall.iptablesBanDropRuleArgs
        (firewall.iptablesAllowRuleArgs sshPort)
        (firewall.setupOnce sshPort host).chain ↔
      (firewall.iptablesBanDropRuleArgs ∈ host.chain →
        RuleChain.Precedes firewall.iptablesBanDropRuleArgs
          (firewall.iptablesAllowRuleArgs sshPort) host.chain) := by
  have hban := firewall.allow_ne_ban sshPort
  have hdrop := firewall.allow_ne_drop sshPort sshPort
  have hbanDrop := firewall.drop_ne_ban sshPort
  rw [chain_setupOnce]
  by_cases hkept : firewall.iptablesBanDropRuleArgs ∈ host.chain
  · rw [RuleChain.ensure_of_mem (RuleChain.mem_ensure_of_mem
        (RuleChain.mem_ensure_of_mem hkept)),
      RuleChain.precedes_ensure_of_ne hbanDrop.symm hdrop]
    rw [RuleChain.ensure]
    split
    · simp [hkept]
    · simp [RuleChain.precedes_add_first, hban.symm, hkept]
  · rw [RuleChain.ensure_of_notMem (by
      simp [RuleChain.mem_ensure, hban.symm, hbanDrop.symm, hkept])]
    exact iff_of_true (RuleChain.precedes_add_first.mpr (Or.inr ⟨rfl,
      RuleChain.mem_ensure_of_mem (RuleChain.mem_ensure_self _ _ _)⟩))
      (fun hmem => absurd hmem hkept)

/-- On a chain left by earlier setups, a setup that succeeds drops banned
sources, accepts allowed ones and drops the rest on the SSH port, if and only
if a ban rule that is already there stands before this port's allow rule. -/
theorem enforces_setup_iff (firewall : Firewall) (sshPort : UInt16)
    (host : Host) (hleft : LeftBySetups firewall host.chain) :
    (firewall.setupWith sshPort [] host).1 = .ok () ∧
      (Enforces firewall sshPort
          (firewall.setupWith sshPort [] host).2.host.chain ↔
        (firewall.iptablesBanDropRuleArgs ∈ host.chain →
          RuleChain.Precedes firewall.iptablesBanDropRuleArgs
            (firewall.iptablesAllowRuleArgs sshPort) host.chain)) := by
  refine ⟨firewall.setupWith_nil_ok sshPort host, ?_⟩
  have hcomplete : ∀ rule ∈ firewall.ownRules sshPort,
      rule ∈ (firewall.setupOnce sshPort host).chain := by
    intro rule hrule
    rw [← List.count_pos_iff, count_ownRules firewall sshPort host rule hrule]
    exact Nat.lt_of_lt_of_le Nat.zero_lt_one (Nat.le_max_left _ _)
  exact ((hleft.tidy.setupOnce sshPort).enforces_iff sshPort hcomplete).trans
    (firewall.precedes_setupOnce_iff sshPort host)

/-- The firewall of the daemon's tests. -/
def testFirewall : Firewall :=
  { ipsetName := "ssh_allow", banIpsetName := "ssh_ban", ipTimeout := 10
    banTimeout := 86400, backend := .iptables, addressFamily := .ipv4 }

/-- A host that nothing was set up on. -/
def bareHost : Host :=
  { chain := [], sets := HashMap.empty }

/-- The host after a setup and the deletion of the allow rule. -/
def hostWithoutAllowRule : Host :=
  { testFirewall.setupOnce 22 bareHost with
    chain := [testFirewall.iptablesBanDropRuleArgs,
      testFirewall.iptablesDropRuleArgs 22] }

theorem leftBySetups_hostWithoutAllowRule :
    LeftBySetups testFirewall hostWithoutAllowRule.chain := by
  have hempty : LeftBySetups testFirewall bareHost.chain := .empty
  have hsetup := LeftBySetups.setup 22 bareHost hempty
  exact .deleted hsetup (by decide)

theorem enforces_setup_iff_after_setup :
    (testFirewall.setupWith 22 [] bareHost).1 = .ok () ∧
      (Enforces testFirewall 22
          (testFirewall.setupWith 22 [] bareHost).2.host.chain ↔
        (testFirewall.iptablesBanDropRuleArgs ∈ bareHost.chain →
          RuleChain.Precedes testFirewall.iptablesBanDropRuleArgs
            (testFirewall.iptablesAllowRuleArgs 22) bareHost.chain)) :=
  enforces_setup_iff testFirewall 22 bareHost .empty

/-- The next setup puts the deleted rule before the ban rule, and a banned
source that is also allowed is let in. -/
theorem setup_accepts_banned_source :
    LeftBySetups testFirewall hostWithoutAllowRule.chain ∧
      (testFirewall.setupWith 22 [] hostWithoutAllowRule).1 = .ok () ∧
      chainVerdict (fun _ _ => true) ⟨.tcp, .v4 ⟨192, 0, 2, 1⟩, 22⟩ .drop
        (testFirewall.setupWith 22 [] hostWithoutAllowRule).2.host.chain =
          .accept ∧
      ¬Enforces testFirewall 22
        (testFirewall.setupWith 22 [] hostWithoutAllowRule).2.host.chain := by
  have haccepted : chainVerdict (fun _ _ => true)
      ⟨.tcp, .v4 ⟨192, 0, 2, 1⟩, 22⟩ .drop
      (testFirewall.setupWith 22 [] hostWithoutAllowRule).2.host.chain =
        .accept := by decide
  refine ⟨leftBySetups_hostWithoutAllowRule, setupWith_nil_ok _ _ _, haccepted,
    fun henforces => ?_⟩
  rw [henforces] at haccepted
  simp [intendedVerdict] at haccepted

end Firewall

end SshKnock
