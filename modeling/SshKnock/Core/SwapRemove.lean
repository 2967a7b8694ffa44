import Mathlib.Data.List.Basic

/-!
# Removal by the last item

A list whose items are removed by moving the last item into their place is
walked through in an unusual order.  The walk still meets every item exactly
once; it keeps the order of chosen items when enough items stay behind them.
-/

namespace SshKnock.SwapRemove

variable {α : Type*}

/-- Remove the item at `index` and put the last item there. -/
def swapRemove (items : List α) (index : ℕ) : List α :=
  match items.getLast? with
  | none => []
  | some last => (items.set index last).dropLast

/-- Move the last item to the front. -/
def promote (items : List α) : List α :=
  match items.getLast? with
  | none => []
  | some last => last :: items.dropLast

@[simp]
theorem promote_nil : promote ([] : List α) = [] := rfl

@[simp]
theorem promote_concat (items : List α) (last : α) :
    promote (items ++ [last]) = last :: items := by
  rw [promote, List.getLast?_concat, List.dropLast_concat]

/-- Behind the items already passed, removal brings the last item forward. -/
theorem swapRemove_append (passed : List α) (item : α) (rest : List α) :
    swapRemove (passed ++ item :: rest) passed.length =
      passed ++ promote rest := by
  have hset : ∀ last, (passed ++ item :: rest).set passed.length last =
      passed ++ last :: rest := by
    intro last
    rw [List.set_append_right _ _ (Nat.le_refl _), Nat.sub_self,
      List.set_cons_zero]
  rcases List.eq_nil_or_concat' rest with rfl | ⟨middle, last, rfl⟩
  · rw [swapRemove, List.getLast?_concat]
    simp only [hset]
    rw [List.dropLast_concat, promote_nil, List.append_nil]
  · rw [promote_concat, swapRemove, ← List.cons_append, ← List.append_assoc,
      List.getLast?_concat]
    simp only [List.append_assoc, List.cons_append, hset]
    rw [← List.cons_append, ← List.append_assoc, List.dropLast_concat]

theorem promote_perm (items : List α) : (promote items).Perm items := by
  rcases List.eq_nil_or_concat' items with rfl | ⟨middle, last, rfl⟩
  · rfl
  · rw [promote_concat]
    exact (List.perm_append_singleton last middle).symm

theorem length_promote (items : List α) :
    (promote items).length = items.length :=
  (promote_perm items).length_eq

theorem length_swapRemove {items : List α} {index : ℕ}
    (hindex : index < items.length) :
    (swapRemove items index).length + 1 = items.length := by
  cases hlast : items.getLast? with
  | none =>
      rw [List.getLast?_eq_none_iff] at hlast
      rw [hlast] at hindex
      cases hindex
  | some last =>
      rw [swapRemove, hlast]
      simp only [List.length_dropLast, List.length_set]
      omega

/-- The order in which a walk meets the items when it passes those that `keep`
accepts and removes the others. -/
def visits (keep : α → Bool) : List α → List α
  | [] => []
  | item :: rest =>
      item :: visits keep (if keep item then rest else promote rest)
termination_by items => items.length
decreasing_by split <;> simp [length_promote]

theorem visits_cons (keep : α → Bool) (item : α) (rest : List α) :
    visits keep (item :: rest) =
      item :: visits keep (if keep item then rest else promote rest) := by
  rw [visits]

/-- The walk meets every item exactly once. -/
theorem visits_perm (keep : α → Bool) (items : List α) :
    (visits keep items).Perm items := by
  induction items using visits.induct keep with
  | case1 => simp [visits]
  | case2 item rest ih =>
      rw [visits_cons]
      apply List.Perm.cons
      apply ih.trans
      split
      · rfl
      · exact promote_perm rest

/-! ## The order of chosen items -/

theorem filter_cons_eq_filter_cons_iff (chosen : α → Bool) (item : α)
    (left right : List α) :
    (item :: left).filter chosen = (item :: right).filter chosen ↔
      left.filter chosen = right.filter chosen := by
  rw [List.filter_cons, List.filter_cons]
  split
  · rw [List.cons.injEq, and_iff_right rfl]
  · rfl

variable {keep chosen : α → Bool} {front middle back : List α} {first last : α}

/-- A single chosen item is met wherever it is moved. -/
theorem filter_visits_promote_singleton {items : List α}
    (hsingle : items.filter chosen = [last]) :
    (visits keep (promote items)).filter chosen = [last] := by
  apply List.perm_singleton.mp
  rw [← hsingle]
  exact ((visits_perm keep _).trans (promote_perm items)).filter chosen

/-- An item that is met first was not the last of several chosen ones. -/
theorem cons_ne_filter_concat {earlier met : List α}
    (hnodup : ((earlier ++ [last]).filter chosen).Nodup)
    (hlast : chosen last = true) (hfirst : chosen first = true)
    (hmem : first ∈ earlier) :
    last :: met ≠ (earlier ++ [last]).filter chosen := by
  intro hequal
  rw [List.filter_append, List.filter_cons_of_pos hlast, List.filter_nil]
    at hnodup hequal
  have hdisjoint := (List.nodup_append.mp hnodup).2.2
  cases hearlier : earlier.filter chosen with
  | nil =>
      exact absurd hfirst (List.filter_eq_nil_iff.mp hearlier first hmem)
  | cons other others =>
      rw [hearlier, List.cons_append, List.cons.injEq] at hequal
      rw [hearlier] at hdisjoint
      exact hdisjoint other List.mem_cons_self last List.mem_cons_self
        hequal.1.symm

/-- An item brought forward that is not chosen changes nothing of the others. -/
theorem filter_brought_forward {items : List α} {item : α}
    (hdropped : chosen item = false) :
    (item :: items).filter chosen = (items ++ [item]).filter chosen := by
  rw [List.filter_append, List.filter_cons_of_neg (by simp [hdropped]),
    List.filter_cons_of_neg (by simp [hdropped]), List.filter_nil,
    List.append_nil]

/-- It is one to remove in front or one to keep less behind. -/
theorem countP_brought_forward (front back : List α) (item : α) :
    front.countP (fun item => !keep item) + 1 ≤ (back ++ [item]).countP keep ↔
      (item :: front).countP (fun item => !keep item) ≤ back.countP keep := by
  rw [List.countP_append, List.countP_singleton, List.countP_cons]
  cases keep item <;> simp

/-- Whether chosen items are met in their order is decided by the last two of
them, if the last but one is removed: every removal in front of it brings items
forward from the back, up to one that is kept. -/
theorem filter_visits_eq_iff
    (hnodup : ((front ++ first :: (middle ++ last :: back)).filter
      chosen).Nodup)
    (hremoved : keep first = false)
    (hfirst : chosen first = true) (hlast : chosen last = true)
    (hmiddle : ∀ item ∈ middle, chosen item = false)
    (hback : ∀ item ∈ back, chosen item = false) :
    (visits keep (front ++ first :: (middle ++ last :: back))).filter chosen =
        (front ++ first :: (middle ++ last :: back)).filter chosen ↔
      front.countP (fun item => !keep item) ≤ back.countP keep := by
  generalize hitems : front ++ first :: (middle ++ last :: back) = items
    at hnodup ⊢
  induction items using visits.induct keep generalizing front back with
  | case1 => simp at hitems
  | case2 item rest ih =>
      rw [visits_cons, filter_cons_eq_filter_cons_iff]
      cases front with
      | nil =>
          obtain ⟨rfl, rfl⟩ := List.cons.inj hitems
          have hsingle : (middle ++ last :: back).filter chosen = [last] := by
            rw [List.filter_append, List.filter_cons_of_pos hlast,
              List.filter_eq_nil_iff.mpr (by simpa using hmiddle),
              List.filter_eq_nil_iff.mpr (by simpa using hback)]
            rfl
          rw [if_neg (by simp [hremoved]), hsingle,
            filter_visits_promote_singleton hsingle]
          simp
      | cons head front =>
          rw [List.cons_append] at hitems
          obtain ⟨rfl, rfl⟩ := List.cons.inj hitems
          have hrest : ((front ++ first :: (middle ++ last :: back)).filter
              chosen).Nodup :=
            hnodup.sublist ((List.sublist_cons_self _ _).filter chosen)
          cases hkeep : keep head with
          | true =>
              simp only [hkeep, ↓reduceDIte, ↓reduceIte] at ih ⊢
              rw [List.countP_cons_of_neg (by simp [hkeep])]
              exact ih hback rfl hrest
          | false =>
              simp only [hkeep, Bool.false_eq_true, ↓reduceDIte,
                ↓reduceIte] at ih ⊢
              rw [List.countP_cons_of_pos (by simp [hkeep])]
              rcases List.eq_nil_or_concat' back with rfl | ⟨back, item, rfl⟩
              · have hlist : front ++ first :: (middle ++ [last]) =
                    (front ++ first :: middle) ++ [last] := by simp
                rw [hlist] at hrest ⊢
                rw [promote_concat, visits_cons,
                  List.filter_cons_of_pos hlast, List.countP_nil]
                apply iff_of_false
                · exact cons_ne_filter_concat hrest hlast hfirst (by simp)
                · exact Nat.not_succ_le_zero _
              · obtain ⟨hback, hitem⟩ := List.forall_mem_append.mp hback
                have hdropped : chosen item = false :=
                  hitem item (List.mem_singleton_self item)
                have hlist : front ++ first :: (middle ++ last ::
                    (back ++ [item])) =
                    (front ++ first :: (middle ++ last :: back)) ++ [item] := by
                  simp
                rw [countP_brought_forward]
                rw [hlist, ← filter_brought_forward hdropped] at hrest ⊢
                rw [hlist, promote_concat] at ih
                rw [promote_concat]
                exact ih hback rfl hrest

/-- Among two or more chosen items there are a last and a last but one. -/
theorem exists_last_two {items : List α}
    (htwo : 2 ≤ (items.filter chosen).length) :
    ∃ front first middle last back,
      items = front ++ first :: (middle ++ last :: back) ∧
        chosen first = true ∧ chosen last = true ∧
        ∀ item ∈ middle ++ back, chosen item = false := by
  rcases List.eq_nil_or_concat' (items.filter chosen) with hnil |
    ⟨earlier, last, hlast⟩
  · rw [hnil] at htwo
    cases htwo
  rcases List.eq_nil_or_concat' earlier with rfl | ⟨earliest, first, rfl⟩
  · rw [hlast] at htwo
    cases htwo with
    | step hone => cases hone
  rw [List.append_assoc] at hlast
  obtain ⟨front, rest, rfl, -, hrest⟩ := List.filter_eq_append_iff.mp hlast
  obtain ⟨others, later, rfl, hothers, hfirst, hlater⟩ :=
    List.filter_eq_cons_iff.mp hrest
  obtain ⟨middle, back, rfl, hmiddle, hlast, hback⟩ :=
    List.filter_eq_cons_iff.mp hlater
  refine ⟨front ++ others, first, middle, last, back, by simp, hfirst, hlast,
    List.forall_mem_append.mpr ⟨?_, ?_⟩⟩
  · simpa using hmiddle
  · simpa using List.filter_eq_nil_iff.mp hback

end SshKnock.SwapRemove
