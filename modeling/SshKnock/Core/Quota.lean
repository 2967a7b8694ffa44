import Mathlib.Algebra.Order.Group.Nat
import Mathlib.Data.List.Basic

/-!
# Allowances that are refilled by whole intervals

A meter holds tokens.  A call credits the whole intervals since the last credit,
never beyond the capacity, and takes one token; now and then a meter may be
renewed, which fills it up.  Two questions are answered about every history of
calls: how many of them can be granted, and whether a caller that stays within
its allowance can be denied.
-/

namespace SshKnock

structure Quota where
  capacity : ℕ
  refill : ℕ
  interval : ℕ
  interval_pos : 0 < interval

structure Meter where
  tokens : ℕ
  anchor : ℕ

namespace Quota

variable (quota : Quota)

/-- What so much time restores. -/
def earned (elapsed : ℕ) : ℕ :=
  quota.refill * (elapsed / quota.interval)

/-- What may be used within so much time. -/
def allowance (elapsed : ℕ) : ℕ :=
  quota.capacity + quota.earned elapsed

def fresh (now : ℕ) : Meter :=
  { tokens := quota.capacity, anchor := now }

/-- Credit the whole intervals since the anchor; what is left of an interval
is dropped. -/
def credit (now : ℕ) (meter : Meter) : Meter :=
  if quota.interval ≤ now - meter.anchor then
    { tokens := min quota.capacity
        (meter.tokens + quota.earned (now - meter.anchor))
      anchor := now }
  else meter

def spend (meter : Meter) : Bool × Meter :=
  if meter.tokens = 0 then (false, meter)
  else (true, { meter with tokens := meter.tokens - 1 })

/-- The meter that a call at `now` finds, if meters may be renewed where
`Renewable` holds. -/
inductive Found (Renewable : Meter → ℕ → Prop) (now : ℕ) :
    Option Meter → Meter → Prop where
  | opened : Found Renewable now none (quota.fresh now)
  | renewed (meter : Meter) (hrenewable : Renewable meter now) :
      Found Renewable now (some meter) (quota.fresh now)
  | kept (meter : Meter) : Found Renewable now (some meter)
      (quota.credit now meter)

/-- The calls with their times and answers, as one meter gives them. -/
inductive History (Renewable : Meter → ℕ → Prop) :
    Option Meter → List (ℕ × Bool) → Prop where
  | nil (slot : Option Meter) : History Renewable slot []
  | cons {slot : Option Meter} {now : ℕ} {found : Meter}
      {calls : List (ℕ × Bool)} (hfound : quota.Found Renewable now slot found)
      (hcalls : History Renewable (some (spend found).2) calls) :
      History Renewable slot ((now, (spend found).1) :: calls)

variable {quota}

theorem earned_add_le (first second : ℕ) :
    quota.earned first + quota.earned second ≤ quota.earned (first + second) := by
  rw [earned, earned, ← Nat.mul_add]
  exact Nat.mul_le_mul_left _ Nat.div_add_div_le_add_div

theorem earned_mono {shorter longer : ℕ} (hle : shorter ≤ longer) :
    quota.earned shorter ≤ quota.earned longer :=
  Nat.mul_le_mul_left _ (Nat.div_le_div_right hle)

@[simp]
theorem earned_zero : quota.earned 0 = 0 := by
  rw [earned, Nat.zero_div, Nat.mul_zero]

theorem earned_of_lt {elapsed : ℕ} (hlt : elapsed < quota.interval) :
    quota.earned elapsed = 0 := by
  rw [earned, Nat.div_eq_of_lt hlt, Nat.mul_zero]

theorem refill_le_earned {elapsed : ℕ} (hle : quota.interval ≤ elapsed) :
    quota.refill ≤ quota.earned elapsed :=
  Nat.le_mul_of_pos_right _ (Nat.div_pos hle quota.interval_pos)

theorem earned_two_intervals :
    quota.earned (2 * quota.interval) = 2 * quota.refill := by
  rw [earned, Nat.mul_div_cancel _ quota.interval_pos, Nat.mul_comm]

/-- Splitting a period that is shorter than two intervals at its start, or
where a whole interval is over, drops nothing. -/
theorem earned_le_of_split {start anchor now : ℕ} (hanchor : start ≤ anchor)
    (hnow : anchor ≤ now)
    (hsplit : start = anchor ∨
      start + quota.interval ≤ anchor ∧ now < 2 * quota.interval) :
    quota.earned (now - start) ≤
      quota.earned (anchor - start) + quota.earned (now - anchor) := by
  rcases hsplit with rfl | ⟨hwhole, hshort⟩
  · rw [Nat.sub_self, earned_zero, Nat.zero_add]
  · have hone : (now - start) / quota.interval ≤ 1 :=
      Nat.lt_succ_iff.mp ((Nat.div_lt_iff_lt_mul quota.interval_pos).mpr
        (lt_of_le_of_lt (Nat.sub_le now start) hshort))
    calc quota.earned (now - start)
        ≤ quota.refill * 1 := Nat.mul_le_mul_left _ hone
      _ = quota.refill := Nat.mul_one _
      _ ≤ quota.earned (anchor - start) := refill_le_earned (by omega)
      _ ≤ _ := Nat.le_add_right _ _

/-! ## How much is granted -/

/-- What a meter can still grant until some time. -/
def potential (quota : Quota) (finish : ℕ) (meter : Meter) : ℕ :=
  meter.tokens + quota.earned (finish - meter.anchor)

/-- The quota with another refill. -/
def refilling (quota : Quota) (refill : ℕ) : Quota :=
  { quota with refill }

theorem earned_le_refilling {refill : ℕ} (hrefill : quota.refill ≤ refill)
    (elapsed : ℕ) : quota.earned elapsed ≤
      (quota.refilling refill).earned elapsed :=
  Nat.mul_le_mul_right _ hrefill

theorem potential_credit {refill finish now : ℕ} {meter : Meter}
    (hrefill : quota.refill ≤ refill) (hanchor : meter.anchor ≤ now)
    (hnow : now ≤ finish) :
    (quota.refilling refill).potential finish (quota.credit now meter) ≤
      (quota.refilling refill).potential finish meter := by
  rw [credit]
  split
  · have hsum : now - meter.anchor + (finish - now) = finish - meter.anchor := by
      omega
    calc (quota.refilling refill).potential finish _
        ≤ meter.tokens + quota.earned (now - meter.anchor) +
            (quota.refilling refill).earned (finish - now) :=
          Nat.add_le_add_right (Nat.min_le_right _ _) _
      _ ≤ meter.tokens + ((quota.refilling refill).earned
            (now - meter.anchor) +
              (quota.refilling refill).earned (finish - now)) := by
          rw [Nat.add_assoc]
          exact Nat.add_le_add_left (Nat.add_le_add_right
            (earned_le_refilling hrefill _) _) _
      _ ≤ (quota.refilling refill).potential finish meter := by
          rw [potential, ← hsum]
          exact Nat.add_le_add_left (earned_add_le _ _) _
  · exact le_rfl

/-- Renewing a meter gives nothing away when its capacity has been earned. -/
theorem potential_fresh {finish now : ℕ} {meter : Meter}
    (hanchor : meter.anchor ≤ now) (hnow : now ≤ finish)
    (hearned : quota.capacity ≤ quota.earned (now - meter.anchor)) :
    quota.potential finish (quota.fresh now) ≤ quota.potential finish meter := by
  have hsum : now - meter.anchor + (finish - now) = finish - meter.anchor := by
    omega
  calc quota.potential finish (quota.fresh now)
      ≤ quota.earned (now - meter.anchor) + quota.earned (finish - now) :=
        Nat.add_le_add_right hearned _
    _ ≤ quota.earned (finish - meter.anchor) := hsum ▸ earned_add_le _ _
    _ ≤ quota.potential finish meter := Nat.le_add_left _ _

theorem potential_spend (finish : ℕ) (meter : Meter) :
    (spend meter).1.toNat + quota.potential finish (spend meter).2 =
      quota.potential finish meter := by
  simp only [spend, potential]
  split
  · exact Nat.zero_add _
  · next hpos =>
      rw [Bool.toNat_true, ← Nat.add_assoc, Nat.add_sub_cancel' (by omega)]

theorem anchor_spend (meter : Meter) : (spend meter).2.anchor = meter.anchor := by
  rw [spend]
  split <;> rfl

variable {Renewable : Meter → ℕ → Prop}

theorem Found.anchor_le {now : ℕ} {slot : Option Meter} {found : Meter}
    (hfound : quota.Found Renewable now slot found)
    (hanchor : ∀ meter ∈ slot, meter.anchor ≤ now) : found.anchor ≤ now := by
  cases hfound with
  | opened => exact le_rfl
  | renewed => exact le_rfl
  | kept meter =>
      rw [credit]
      split
      · exact le_rfl
      · exact hanchor meter rfl

/-- The calls granted until some time. -/
def granted (finish : ℕ) (calls : List (ℕ × Bool)) : ℕ :=
  calls.countP fun call => call.2 && call.1 ≤ finish

theorem granted_cons (finish now : ℕ) (answer : Bool)
    (calls : List (ℕ × Bool)) (hnow : now ≤ finish) :
    granted finish ((now, answer) :: calls) =
      answer.toNat + granted finish calls := by
  rw [granted, List.countP_cons, granted, Nat.add_comm]
  cases answer <;> simp [hnow]

theorem granted_eq_zero {finish : ℕ} {calls : List (ℕ × Bool)}
    (hlate : ∀ call ∈ calls, finish < call.1) : granted finish calls = 0 := by
  rw [granted, List.countP_eq_zero]
  intro call hcall
  simp [hlate call hcall]

/-- When renewing gives nothing away that a refill of this size would not have
earned, a meter grants no more than its potential with this refill. -/
theorem granted_le_potential {refill : ℕ} (hrefill : quota.refill ≤ refill)
    (hrenewable : ∀ meter now, Renewable meter now →
      quota.capacity ≤ (quota.refilling refill).earned (now - meter.anchor))
    {meter : Meter} {calls : List (ℕ × Bool)}
    (hhistory : quota.History Renewable (some meter) calls)
    (hanchor : ∀ call ∈ calls, meter.anchor ≤ call.1)
    (hcalls : calls.Pairwise fun earlier later => earlier.1 ≤ later.1)
    (finish : ℕ) : granted finish calls ≤
      (quota.refilling refill).potential finish meter := by
  induction calls generalizing meter with
  | nil => exact Nat.zero_le _
  | cons call calls ih =>
      obtain ⟨hlater, hrest⟩ := List.pairwise_cons.mp hcalls
      cases hhistory with
      | @cons _ now found _ hfound hhistory =>
      have hnow : meter.anchor ≤ now := hanchor _ List.mem_cons_self
      by_cases hfinish : now ≤ finish
      · have hpotential : (quota.refilling refill).potential finish found ≤
            (quota.refilling refill).potential finish meter := by
          cases hfound with
          | renewed _ hrenewed =>
              exact potential_fresh hnow hfinish (hrenewable meter now hrenewed)
          | kept => exact potential_credit hrefill hnow hfinish
        have hfoundAnchor : found.anchor ≤ now :=
          hfound.anchor_le (by rintro _ ⟨⟩; exact hnow)
        rw [granted_cons _ _ _ _ hfinish]
        calc _ ≤ (spend found).1.toNat +
                (quota.refilling refill).potential finish (spend found).2 := by
              apply Nat.add_le_add_left
              apply ih hhistory _ hrest
              intro later hmem
              rw [anchor_spend]
              exact hfoundAnchor.trans (hlater later hmem)
          _ = (quota.refilling refill).potential finish found :=
              potential_spend finish found
          _ ≤ (quota.refilling refill).potential finish meter := hpotential
      · have hlate : ∀ call ∈ (now, (spend found).1) :: calls,
            finish < call.1 := by
          intro later hmem
          rcases List.mem_cons.mp hmem with rfl | hmem
          · exact Nat.not_le.mp hfinish
          · exact lt_of_lt_of_le (Nat.not_le.mp hfinish) (hlater later hmem)
        rw [granted_eq_zero hlate]
        exact Nat.zero_le _

/-- Then no more is granted from the first call on than the allowance with
this refill. -/
theorem granted_le_refilling {refill : ℕ} (hrefill : quota.refill ≤ refill)
    (hrenewable : ∀ meter now, Renewable meter now →
      quota.capacity ≤ (quota.refilling refill).earned (now - meter.anchor))
    {first : ℕ × Bool} {calls : List (ℕ × Bool)}
    (hhistory : quota.History Renewable none (first :: calls))
    (hcalls : (first :: calls).Pairwise fun earlier later =>
      earlier.1 ≤ later.1) {finish : ℕ} (hfinish : first.1 ≤ finish) :
    granted finish (first :: calls) ≤
      (quota.refilling refill).allowance (finish - first.1) := by
  obtain ⟨hlater, hrest⟩ := List.pairwise_cons.mp hcalls
  cases hhistory with
  | @cons _ now found _ hfound hhistory =>
  cases hfound
  rw [granted_cons _ _ _ _ hfinish]
  calc _ ≤ (spend (quota.fresh now)).1.toNat +
          (quota.refilling refill).potential finish
            (spend (quota.fresh now)).2 := by
        apply Nat.add_le_add_left
        apply granted_le_potential hrefill hrenewable hhistory _ hrest
        intro later hmem
        rw [anchor_spend]
        exact hlater later hmem
    _ = (quota.refilling refill).potential finish (quota.fresh now) :=
        potential_spend _ _

/-- When renewing never gives anything away, no more is granted from the first
call on than the allowance. -/
theorem granted_le_allowance
    (hrenewable : ∀ meter now, Renewable meter now →
      quota.capacity ≤ quota.earned (now - meter.anchor))
    {first : ℕ × Bool} {calls : List (ℕ × Bool)}
    (hhistory : quota.History Renewable none (first :: calls))
    (hcalls : (first :: calls).Pairwise fun earlier later =>
      earlier.1 ≤ later.1) {finish : ℕ} (hfinish : first.1 ≤ finish) :
    granted finish (first :: calls) ≤ quota.allowance (finish - first.1) :=
  granted_le_refilling le_rfl hrenewable hhistory hcalls hfinish

/-- What is renewed only after two intervals is always worth a refill of half
the capacity, rounded up. -/
theorem capacity_le_earned_half {elapsed : ℕ}
    (helapsed : 2 * quota.interval ≤ elapsed) :
    quota.capacity ≤ (quota.refilling
      (max quota.refill ((quota.capacity + 1) / 2))).earned elapsed := by
  let generous := quota.refilling (max quota.refill ((quota.capacity + 1) / 2))
  have htwo : generous.earned (2 * generous.interval) = 2 * generous.refill :=
    earned_two_intervals
  have hhalf : quota.capacity ≤ 2 * generous.refill := by
    show _ ≤ 2 * max _ _
    omega
  exact hhalf.trans (htwo.ge.trans (earned_mono helapsed))

/-! ## Events that keep their distance -/

/-- So many events that keep a distance fit into a period. -/
theorem length_le_of_spaced {gap : ℕ} (hgap : 0 < gap) {times : List ℕ}
    (hspaced : times.Pairwise fun earlier later => earlier + gap ≤ later)
    {start finish : ℕ} (hstart : ∀ time ∈ times, start ≤ time)
    (hfinish : ∀ time ∈ times, time ≤ finish) :
    times.length ≤ 1 + (finish - start) / gap := by
  induction times generalizing start with
  | nil => exact Nat.zero_le _
  | cons time times ih =>
      obtain ⟨hlater, hrest⟩ := List.pairwise_cons.mp hspaced
      obtain ⟨hnow, -⟩ := List.forall_mem_cons.mp hstart
      obtain ⟨hlast, hfinish⟩ := List.forall_mem_cons.mp hfinish
      rw [List.length_cons]
      cases times with
      | nil => exact Nat.le_add_right 1 _
      | cons next times =>
          have hnext : time + gap ≤ finish :=
            (hlater next List.mem_cons_self).trans
              (hfinish next List.mem_cons_self)
          have hfits : gap + (finish - (time + gap)) ≤ finish - start := by
            omega
          calc (next :: times).length + 1
              ≤ 1 + (finish - (time + gap)) / gap + 1 :=
                Nat.add_le_add_right (ih hrest hlater hfinish) 1
            _ = 1 + (gap + (finish - (time + gap))) / gap := by
                rw [Nat.add_div_left _ hgap, Nat.add_assoc]
            _ ≤ 1 + (finish - start) / gap :=
                Nat.add_le_add_left (Nat.div_le_div_right hfits) 1

/-! ## Who is denied -/

/-- The calls from one time to another. -/
def within (start finish : ℕ) (times : List ℕ) : ℕ :=
  times.countP fun time => start ≤ time && time ≤ finish

/-- Between any two of its calls the caller stays within the allowance. -/
def Conforming (quota : Quota) (times : List ℕ) : Prop :=
  ∀ start ∈ times, ∀ finish ∈ times, start ≤ finish →
    within start finish times ≤ quota.allowance (finish - start)

/-- Nothing is lost when an interval that has begun is dropped: every credit
fills the meter, or the calls end before two intervals are over. -/
def Lossless (quota : Quota) (times : List ℕ) : Prop :=
  quota.capacity ≤ quota.refill ∨ ∀ time ∈ times, time < 2 * quota.interval

/-- Since some call, tokens and calls add up to the whole allowance of the time
up to the anchor. -/
structure Accounted (quota : Quota) (past : List ℕ) (meter : Meter) : Prop where
  tokens_le : meter.tokens ≤ quota.capacity
  exists_start : ∃ start ∈ past, start ≤ meter.anchor ∧
    (start = meter.anchor ∨ quota.refill < quota.capacity ∧
      start + quota.interval ≤ meter.anchor) ∧
    quota.allowance (meter.anchor - start) ≤
      meter.tokens + past.countP (start ≤ ·)

theorem countP_snoc {past : List ℕ} {start now : ℕ} (hle : start ≤ now) :
    (past ++ [now]).countP (start ≤ ·) = past.countP (start ≤ ·) + 1 := by
  rw [List.countP_append, List.countP_singleton, if_pos (decide_eq_true hle)]

/-- The calls since `start`, the one that comes now included, lie in the window
up to now. -/
theorem countP_lt_within {past rest : List ℕ} {start now : ℕ}
    (hle : start ≤ now) (hpast : ∀ time ∈ past, time ≤ now) :
    past.countP (start ≤ ·) < within start now (past ++ now :: rest) := by
  have hsame : past.countP (start ≤ ·) =
      past.countP fun time => start ≤ time && time ≤ now := by
    apply List.countP_congr
    intro time htime
    simp [hpast time htime]
  rw [within, List.countP_append, ← hsame, List.countP_cons_of_pos (by simpa)]
  omega

/-- A full meter that has just been used once. -/
theorem accounted_fresh (hcapacity : 0 < quota.capacity) (past : List ℕ)
    (now : ℕ) : (spend (quota.fresh now)).1 = true ∧
      quota.Accounted (past ++ [now]) (spend (quota.fresh now)).2 := by
  have hspend : spend (quota.fresh now) =
      (true, ⟨quota.capacity - 1, now⟩) := if_neg (Nat.ne_of_gt hcapacity)
  rw [hspend]
  refine ⟨rfl, Nat.sub_le _ _, now, by simp, le_rfl, Or.inl rfl, ?_⟩
  rw [countP_snoc le_rfl, allowance, Nat.sub_self, earned_zero]
  simp only
  omega

/-- Taking a token that is there is a call like any other. -/
theorem Accounted.spent {past : List ℕ} {found : Meter} {now : ℕ}
    (haccounted : quota.Accounted past found) (htoken : 0 < found.tokens)
    (hanchor : found.anchor ≤ now) :
    (spend found).1 = true ∧
      quota.Accounted (past ++ [now]) (spend found).2 := by
  obtain ⟨htokens, start, hstart, hle, hsplit, hsum⟩ := haccounted
  have hspend : spend found = (true, ⟨found.tokens - 1, found.anchor⟩) :=
    if_neg (Nat.ne_of_gt htoken)
  rw [hspend]
  refine ⟨rfl, (Nat.sub_le _ _).trans htokens, start,
    List.mem_append_left _ hstart, hle, hsplit, ?_⟩
  rw [countP_snoc (hle.trans hanchor)]
  simp only
  omega

/-- A conforming caller finds a token, and its meter stays accounted for. -/
theorem Accounted.kept {past rest : List ℕ} {meter : Meter} {now : ℕ}
    (haccounted : quota.Accounted past meter)
    (hcapacity : 0 < quota.capacity)
    (hconforming : quota.Conforming (past ++ now :: rest))
    (hlossless : quota.Lossless (past ++ now :: rest))
    (hanchor : meter.anchor ≤ now) (hpast : ∀ time ∈ past, time ≤ now) :
    (spend (quota.credit now meter)).1 = true ∧
      quota.Accounted (past ++ [now]) (spend (quota.credit now meter)).2 := by
  obtain ⟨htokens, start, hstart, hle, hsplit, hsum⟩ := haccounted
  have hstartNow : start ≤ now := hle.trans hanchor
  have hshort : start = meter.anchor ∨
      start + quota.interval ≤ meter.anchor ∧ now < 2 * quota.interval := by
    rcases hsplit with hsame | ⟨hsmall, hwhole⟩
    · exact Or.inl hsame
    · exact Or.inr ⟨hwhole, (hlossless.resolve_left (Nat.not_le.mpr hsmall))
        now (by simp)⟩
  have hearned : quota.allowance (now - start) ≤
      meter.tokens + quota.earned (now - meter.anchor) +
        past.countP (start ≤ ·) := by
    have hwhole := earned_le_of_split hle hanchor hshort
    rw [allowance] at hsum ⊢
    omega
  have htoken : 0 < meter.tokens + quota.earned (now - meter.anchor) := by
    have hwindow := hconforming start (List.mem_append_left _ hstart) now
      (by simp) hstartNow
    have hcount : past.countP (start ≤ ·) <
        within start now (past ++ now :: rest) :=
      countP_lt_within hstartNow hpast
    omega
  rw [credit]
  split
  · next hwhole =>
      by_cases hfull : quota.capacity ≤
          meter.tokens + quota.earned (now - meter.anchor)
      · rw [Nat.min_eq_left hfull]
        exact accounted_fresh hcapacity past now
      · have hsmall : quota.refill < quota.capacity :=
          lt_of_le_of_lt ((refill_le_earned hwhole).trans
            (Nat.le_add_left _ _)) (Nat.not_le.mp hfull)
        rw [Nat.min_eq_right (Nat.le_of_not_le hfull)]
        have hcredited : quota.Accounted past
            ⟨meter.tokens + quota.earned (now - meter.anchor), now⟩ :=
          ⟨Nat.le_of_not_le hfull, start, hstart, hstartNow,
            Or.inr ⟨hsmall, by simp only; omega⟩, hearned⟩
        exact hcredited.spent htoken le_rfl
  · next hpart =>
      have hnone := earned_of_lt (Nat.not_le.mp hpart)
      rw [hnone, Nat.add_zero] at htoken
      exact Accounted.spent ⟨htokens, start, hstart, hle, hsplit, hsum⟩ htoken
        hanchor

/-- No call of a caller that conforms is denied, as long as nothing is lost
when an interval that has begun is dropped. -/
theorem forall_granted (hcapacity : 0 < quota.capacity) {past : List ℕ}
    {meter : Meter} {calls : List (ℕ × Bool)}
    (hhistory : quota.History Renewable (some meter) calls)
    (haccounted : quota.Accounted past meter)
    (hanchor : ∀ call ∈ calls, meter.anchor ≤ call.1)
    (hpast : ∀ call ∈ calls, ∀ time ∈ past, time ≤ call.1)
    (hcalls : calls.Pairwise fun earlier later => earlier.1 ≤ later.1)
    (hconforming : quota.Conforming (past ++ calls.map Prod.fst))
    (hlossless : quota.Lossless (past ++ calls.map Prod.fst)) :
    ∀ call ∈ calls, call.2 = true := by
  induction calls generalizing meter past with
  | nil => exact fun _ hcall => by cases hcall
  | cons call calls ih =>
      obtain ⟨hlater, hrest⟩ := List.pairwise_cons.mp hcalls
      cases hhistory with
      | @cons _ now found _ hfound hhistory =>
      have hnow : meter.anchor ≤ now := hanchor _ List.mem_cons_self
      have hstep : (spend found).1 = true ∧
          quota.Accounted (past ++ [now]) (spend found).2 := by
        cases hfound with
        | renewed => exact accounted_fresh hcapacity past now
        | kept =>
            have hearlier := hpast _ List.mem_cons_self
            exact haccounted.kept hcapacity hconforming hlossless hnow hearlier
      have hfoundAnchor : found.anchor ≤ now :=
        hfound.anchor_le (by rintro _ ⟨⟩; exact hnow)
      rw [List.map_cons, List.append_cons] at hconforming hlossless
      refine List.forall_mem_cons.mpr ⟨hstep.1,
        ih hhistory hstep.2 ?_ ?_ hrest hconforming hlossless⟩
      · intro later hmem
        rw [anchor_spend]
        exact hfoundAnchor.trans (hlater later hmem)
      · intro later hmem time htime
        rcases List.mem_append.mp htime with hold | hnew
        · exact hpast later (List.mem_cons_of_mem _ hmem) time hold
        · exact List.mem_singleton.mp hnew ▸ hlater later hmem

theorem forall_granted_of_conforming (hcapacity : 0 < quota.capacity)
    {calls : List (ℕ × Bool)} (hhistory : quota.History Renewable none calls)
    (hcalls : calls.Pairwise fun earlier later => earlier.1 ≤ later.1)
    (hconforming : quota.Conforming (calls.map Prod.fst))
    (hlossless : quota.Lossless (calls.map Prod.fst)) :
    ∀ call ∈ calls, call.2 = true := by
  cases calls with
  | nil => exact fun _ hcall => by cases hcall
  | cons call calls =>
      obtain ⟨hlater, hrest⟩ := List.pairwise_cons.mp hcalls
      cases hhistory with
      | @cons _ now found _ hfound hhistory =>
      cases hfound
      obtain ⟨hgranted, haccounted⟩ := accounted_fresh hcapacity [] now
      refine List.forall_mem_cons.mpr ⟨hgranted, forall_granted hcapacity
        hhistory haccounted ?_ ?_ hrest hconforming hlossless⟩
      · intro later hmem
        rw [anchor_spend]
        exact hlater later hmem
      · intro later hmem time htime
        exact List.mem_singleton.mp htime ▸ hlater later hmem

end Quota

end SshKnock
