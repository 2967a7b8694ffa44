import Mathlib.Data.List.Count
import Mathlib.Data.List.Nodup
import Mathlib.Data.List.Permutation

/-!
# Chains of rules

A chain is a list of rules that the first matching rule decides.  Making sure
of a rule adds it at one end of the chain unless it is already there.
-/

namespace SshKnock.RuleChain

variable {Rule Verdict : Type*}

inductive Position where
  | first
  | last

def add (position : Position) (rule : Rule) (chain : List Rule) : List Rule :=
  match position with
  | .first => rule :: chain
  | .last => chain ++ [rule]

/-- Add the rule unless the chain has it. -/
def ensure [DecidableEq Rule] (position : Position) (rule : Rule)
    (chain : List Rule) : List Rule :=
  if rule ∈ chain then chain else add position rule chain

theorem mem_add {position : Position} {rule other : Rule} {chain : List Rule} :
    other ∈ add position rule chain ↔ other = rule ∨ other ∈ chain := by
  cases position <;> simp [add, or_comm]

theorem filter_add_of_neg {keep : Rule → Bool} (position : Position)
    {rule : Rule} (hkeep : keep rule = false) (chain : List Rule) :
    (add position rule chain).filter keep = chain.filter keep := by
  cases position <;> simp [add, hkeep]

section Count

variable [BEq Rule] [LawfulBEq Rule]

theorem count_add_self (position : Position) (rule : Rule) (chain : List Rule) :
    (add position rule chain).count rule = chain.count rule + 1 := by
  cases position <;> simp [add]

theorem count_add_of_ne (position : Position) {rule other : Rule}
    (hne : other ≠ rule) (chain : List Rule) :
    (add position rule chain).count other = chain.count other := by
  cases position <;> simp [add, hne.symm]

end Count

variable [DecidableEq Rule]

theorem ensure_of_mem {position : Position} {rule : Rule} {chain : List Rule}
    (hmem : rule ∈ chain) : ensure position rule chain = chain :=
  if_pos hmem

theorem ensure_of_notMem {position : Position} {rule : Rule}
    {chain : List Rule} (hmem : rule ∉ chain) :
    ensure position rule chain = add position rule chain :=
  if_neg hmem

theorem mem_ensure {position : Position} {rule other : Rule}
    {chain : List Rule} :
    other ∈ ensure position rule chain ↔ other = rule ∨ other ∈ chain := by
  by_cases hmem : rule ∈ chain
  · rw [ensure_of_mem hmem]
    exact ⟨Or.inr, fun hother => hother.elim (· ▸ hmem) id⟩
  · rw [ensure_of_notMem hmem, mem_add]

theorem mem_ensure_self (position : Position) (rule : Rule)
    (chain : List Rule) : rule ∈ ensure position rule chain :=
  mem_ensure.mpr (Or.inl rfl)

theorem mem_ensure_of_mem {position : Position} {rule other : Rule}
    {chain : List Rule} (hmem : other ∈ chain) :
    other ∈ ensure position rule chain :=
  mem_ensure.mpr (Or.inr hmem)

/-- The rule is added once where it was missing and never again. -/
theorem count_ensure_self [BEq Rule] [LawfulBEq Rule]
    (position : Position) (rule : Rule) (chain : List Rule) :
    (ensure position rule chain).count rule = max 1 (chain.count rule) := by
  by_cases hmem : rule ∈ chain
  · have hpos := List.count_pos_iff.mpr hmem
    rw [ensure_of_mem hmem, max_eq_right hpos]
  · rw [ensure_of_notMem hmem, count_add_self, List.count_eq_zero_of_not_mem hmem]
    rfl

theorem count_ensure_of_ne [BEq Rule] [LawfulBEq Rule]
    (position : Position) {rule other : Rule} (hne : other ≠ rule) (chain : List Rule) :
    (ensure position rule chain).count other = chain.count other := by
  rw [ensure]
  split
  · rfl
  · exact count_add_of_ne position hne chain

/-- Rules that are filtered out do not matter to the kept ones. -/
theorem filter_ensure_of_neg {keep : Rule → Bool} (position : Position)
    {rule : Rule} (hkeep : keep rule = false) (chain : List Rule) :
    (ensure position rule chain).filter keep = chain.filter keep := by
  rw [ensure]
  split
  · rfl
  · exact filter_add_of_neg position hkeep chain

theorem nodup_ensure {position : Position} {rule : Rule} {chain : List Rule}
    (hnodup : chain.Nodup) : (ensure position rule chain).Nodup := by
  by_cases hmem : rule ∈ chain
  · rwa [ensure_of_mem hmem]
  · rw [ensure_of_notMem hmem]
    cases position with
    | first => exact List.nodup_cons.mpr ⟨hmem, hnodup⟩
    | last =>
        exact List.nodup_append.mpr ⟨hnodup, List.nodup_singleton rule,
          fun other hother last hlast hsame => hmem
            (List.mem_singleton.mp hlast ▸ hsame ▸ hother)⟩

/-! ## The order of two rules -/

omit [DecidableEq Rule] in
/-- Some occurrence of `first` comes before some occurrence of `second`. -/
def Precedes (first second : Rule) (chain : List Rule) : Prop :=
  [first, second].Sublist chain

omit [DecidableEq Rule] in
theorem precedes_add_first {first second rule : Rule} {chain : List Rule} :
    Precedes first second (add .first rule chain) ↔
      Precedes first second chain ∨ first = rule ∧ second ∈ chain := by
  simp only [Precedes, add]
  rw [List.sublist_cons_iff]
  simp [eq_comm]

omit [DecidableEq Rule] in
theorem precedes_add_last {first second rule : Rule} {chain : List Rule} :
    Precedes first second (add .last rule chain) ↔
      Precedes first second chain ∨ second = rule ∧ first ∈ chain := by
  have hreversed : [second, first].Sublist chain.reverse ↔
      [first, second].Sublist chain := by
    rw [← List.reverse_sublist, List.reverse_reverse]
    rfl
  simp only [Precedes, add]
  rw [← hreversed, ← List.reverse_sublist, List.reverse_append]
  simp only [List.reverse_cons, List.reverse_nil, List.nil_append,
    List.singleton_append, List.sublist_cons_iff]
  simp [eq_comm]

omit [DecidableEq Rule] in
/-- Leaving other rules out keeps the order of two rules. -/
theorem precedes_filter {first second : Rule} {keep : Rule → Bool}
    {chain : List Rule} (hfirst : keep first = true)
    (hsecond : keep second = true) :
    Precedes first second (chain.filter keep) ↔
      Precedes first second chain := by
  constructor
  · exact fun hprecedes => hprecedes.trans List.filter_sublist
  · intro hprecedes
    have hpair : [first, second].filter keep = [first, second] := by
      simp [hfirst, hsecond]
    have hfiltered := List.Sublist.filter keep hprecedes
    rwa [hpair] at hfiltered

/-- Making sure of another rule changes no order. -/
theorem precedes_ensure_of_ne {position : Position} {first second rule : Rule}
    {chain : List Rule} (hfirst : first ≠ rule) (hsecond : second ≠ rule) :
    Precedes first second (ensure position rule chain) ↔
      Precedes first second chain := by
  rw [ensure]
  split
  · rfl
  · cases position with
    | first => simp [precedes_add_first, hfirst]
    | last => simp [precedes_add_last, hsecond]

omit [DecidableEq Rule] in
/-- Rules that answer nothing do not decide anything. -/
theorem findSome?_filter {answer : Rule → Option Verdict} {keep : Rule → Bool}
    {chain : List Rule}
    (hsilent : ∀ rule ∈ chain, keep rule = false → answer rule = none) :
    (chain.filter keep).findSome? answer = chain.findSome? answer := by
  induction chain with
  | nil => rfl
  | cons rule chain ih =>
      obtain ⟨hrule, hrest⟩ := List.forall_mem_cons.mp hsilent
      cases hkeep : keep rule with
      | true =>
          rw [List.filter_cons_of_pos hkeep, List.findSome?_cons,
            List.findSome?_cons, ih hrest]
      | false =>
          rw [List.filter_cons_of_neg (by simp [hkeep]), List.findSome?_cons,
            hrule hkeep, ih hrest]

omit [DecidableEq Rule] in
/-- Rules that can only answer one thing change nothing, or that is the
answer. -/
theorem findSome?_filter_or {answer : Rule → Option Verdict}
    {keep : Rule → Bool} {verdict : Verdict} {chain : List Rule}
    (hother : ∀ rule ∈ chain, keep rule = false →
      answer rule = none ∨ answer rule = some verdict) :
    chain.findSome? answer = (chain.filter keep).findSome? answer ∨
      chain.findSome? answer = some verdict := by
  induction chain with
  | nil => exact Or.inl rfl
  | cons rule chain ih =>
      obtain ⟨hrule, hrest⟩ := List.forall_mem_cons.mp hother
      rw [List.findSome?_cons]
      cases hkeep : keep rule with
      | true =>
          rw [List.filter_cons_of_pos hkeep, List.findSome?_cons]
          cases answer rule with
          | none => exact ih hrest
          | some found => exact Or.inl rfl
      | false =>
          rw [List.filter_cons_of_neg (by simp [hkeep])]
          rcases hrule hkeep with hnone | hsome
          · rw [hnone]
            exact ih hrest
          · rw [hsome]
            exact Or.inr rfl

omit [DecidableEq Rule] in
/-- Three rules, two of them in a known order, stand in one of three orders. -/
theorem three_orders {before after other : Rule} {chain : List Rule}
    (hnodup : chain.Nodup)
    (hmem : ∀ rule, rule ∈ chain ↔ rule = other ∨ rule = before ∨ rule = after)
    (hbefore : other ≠ before) (hafter : other ≠ after) (hne : before ≠ after)
    (horder : ¬Precedes after before chain) :
    chain = [other, before, after] ∨ chain = [before, other, after] ∨
      chain = [before, after, other] := by
  have hperm : chain.Perm [other, before, after] := by
    rw [List.perm_ext_iff_of_nodup hnodup (by simp [hbefore, hafter, hne])]
    simpa using hmem
  have hlength : chain.length = 3 := hperm.length_eq
  obtain ⟨first, second, third, rfl⟩ := List.length_eq_three.mp hlength
  have hfirst := (hmem first).mp (by simp)
  have hsecond := (hmem second).mp (by simp)
  have hthird := (hmem third).mp (by simp)
  simp only [List.nodup_cons, List.mem_cons, List.not_mem_nil, or_false,
    not_or] at hnodup
  obtain ⟨⟨hfirstSecond, hfirstThird⟩, hsecondThird, -⟩ := hnodup
  rcases hfirst with rfl | rfl | rfl <;> rcases hsecond with rfl | rfl | rfl <;>
    rcases hthird with rfl | rfl | rfl <;>
    simp_all [Precedes, List.sublist_cons_iff]

end SshKnock.RuleChain
