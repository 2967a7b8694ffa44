import Mathlib.Data.List.Basic

/-!
# Numbers and separated fields as text

Positional numerals determine their number, and a text made of fields joined
by a separator determines the fields when none of them contains it.  Formats
made of numbers and fields are read back with these two facts.
-/

namespace SshKnock.TextFields

/-! ## Numerals -/

/-- Every character of a numeral is a digit below the base. -/
theorem exists_digit_of_mem_toDigits {base number : ℕ} (hbase : 1 < base)
    {char : Char} (hmem : char ∈ Nat.toDigits base number) :
    ∃ digit < base, char = Nat.digitChar digit := by
  induction number using Nat.base_induction base hbase with
  | single digit hdigit =>
      rw [Nat.toDigits_of_lt_base hdigit, List.mem_singleton] at hmem
      exact ⟨digit, hdigit, hmem⟩
  | digit front digit hdigit hfront ih =>
      rw [← Nat.toDigits_append_toDigits hbase hfront hdigit,
        List.mem_append, Nat.toDigits_of_lt_base hdigit,
        List.mem_singleton] at hmem
      rcases hmem with hmem | rfl
      · exact ih hmem
      · exact ⟨digit, hdigit, rfl⟩

private theorem digitChar_injective {left right : ℕ} (hleft : left < 16)
    (hright : right < 16) (heq : Nat.digitChar left = Nat.digitChar right) :
    left = right := by
  have hall : ∀ first second : Fin 16,
      Nat.digitChar first = Nat.digitChar second → first = second := by decide
  exact congrArg Fin.val (hall ⟨left, hleft⟩ ⟨right, hright⟩ heq)

private theorem digitChar_ne_separator {digit : ℕ} (hdigit : digit < 16) :
    Nat.digitChar digit ≠ '.' ∧ Nat.digitChar digit ≠ ':' := by
  have hall : ∀ value : Fin 16,
      Nat.digitChar value ≠ '.' ∧ Nat.digitChar value ≠ ':' := by decide
  exact hall ⟨digit, hdigit⟩

theorem separator_notMem_toDigits {base number : ℕ} (hbase : 1 < base)
    (hsmall : base ≤ 16) :
    '.' ∉ Nat.toDigits base number ∧ ':' ∉ Nat.toDigits base number := by
  constructor <;> intro hmem
  · obtain ⟨digit, hdigit, heq⟩ := exists_digit_of_mem_toDigits hbase hmem
    exact (digitChar_ne_separator (Nat.lt_of_lt_of_le hdigit hsmall)).1 heq.symm
  · obtain ⟨digit, hdigit, heq⟩ := exists_digit_of_mem_toDigits hbase hmem
    exact (digitChar_ne_separator (Nat.lt_of_lt_of_le hdigit hsmall)).2 heq.symm

/-- A numeral to a base of at most sixteen determines its number. -/
theorem toDigits_injective {base : ℕ} (hbase : 1 < base) (hsmall : base ≤ 16) :
    Function.Injective (Nat.toDigits base) := by
  intro left
  induction left using Nat.strongRecOn with
  | ind left ih =>
      intro right heq
      by_cases hleft : left < base <;> by_cases hright : right < base
      · rw [Nat.toDigits_of_lt_base hleft, Nat.toDigits_of_lt_base hright,
          List.singleton_inj] at heq
        exact digitChar_injective (by omega) (by omega) heq
      · rw [Nat.toDigits_of_lt_base hleft,
          Nat.toDigits_of_base_le hbase (Nat.le_of_not_lt hright)] at heq
        have hlength := congrArg List.length heq
        have hpos : 0 < (Nat.toDigits base (right / base)).length :=
          Nat.length_toDigits_pos
        simp only [List.length_append, List.length_singleton] at hlength
        omega
      · rw [Nat.toDigits_of_lt_base hright,
          Nat.toDigits_of_base_le hbase (Nat.le_of_not_lt hleft)] at heq
        have hlength := congrArg List.length heq
        have hpos : 0 < (Nat.toDigits base (left / base)).length :=
          Nat.length_toDigits_pos
        simp only [List.length_append, List.length_singleton] at hlength
        omega
      · rw [Nat.toDigits_of_base_le hbase (Nat.le_of_not_lt hleft),
          Nat.toDigits_of_base_le hbase (Nat.le_of_not_lt hright)] at heq
        obtain ⟨hfront, hlast⟩ := List.append_inj' heq rfl
        have hdiv : left / base = right / base :=
          ih (left / base) (Nat.div_lt_self (by omega) hbase) hfront
        have hmod : left % base = right % base :=
          digitChar_injective
            (Nat.lt_of_lt_of_le (Nat.mod_lt _ (by omega)) hsmall)
            (Nat.lt_of_lt_of_le (Nat.mod_lt _ (by omega)) hsmall)
            (List.singleton_inj.mp hlast)
        rw [← Nat.div_add_mod left base, ← Nat.div_add_mod right base, hdiv,
          hmod]

theorem repr_injective : Function.Injective Nat.repr := by
  intro left right heq
  rw [Nat.repr_eq_ofList_toDigits, Nat.repr_eq_ofList_toDigits] at heq
  exact toDigits_injective (by omega) (by omega) (String.ofList_injective heq)

/-! ## Joined fields -/

variable {Symbol : Type*} [DecidableEq Symbol]

omit [DecidableEq Symbol] in
theorem intercalate_append (separator : Symbol)
    {first second : List (List Symbol)} (hfirst : first ≠ [])
    (hsecond : second ≠ []) :
    [separator].intercalate (first ++ second) =
      [separator].intercalate first ++
        separator :: [separator].intercalate second := by
  induction first with
  | nil => exact absurd rfl hfirst
  | cons field first ih =>
      cases first with
      | nil =>
          rw [List.singleton_append, List.intercalate_cons_of_ne_nil hsecond,
            List.intercalate_singleton, List.append_assoc]
          rfl
      | cons next first =>
          have hnext : next :: first ≠ [] := List.cons_ne_nil next first
          rw [List.cons_append,
            List.intercalate_cons_of_ne_nil (List.append_ne_nil_of_left_ne_nil
              hnext second),
            ih hnext, List.intercalate_cons_of_ne_nil hnext]
          simp only [List.append_assoc]

/-- Joined fields can be read back when no field contains the separator. -/
theorem intercalate_injective (separator : Symbol)
    {first second : List (List Symbol)} (hfirst : first ≠ [])
    (hsecond : second ≠ []) (hcleanFirst : ∀ field ∈ first, separator ∉ field)
    (hcleanSecond : ∀ field ∈ second, separator ∉ field)
    (heq : [separator].intercalate first = [separator].intercalate second) :
    first = second := by
  rw [← List.splitOn_intercalate separator hcleanFirst hfirst, heq,
    List.splitOn_intercalate separator hcleanSecond hsecond]

omit [DecidableEq Symbol] in
theorem mem_intercalate {separator symbol : Symbol}
    {fields : List (List Symbol)}
    (hmem : symbol ∈ [separator].intercalate fields) :
    symbol = separator ∨ ∃ field ∈ fields, symbol ∈ field := by
  induction fields with
  | nil => simp at hmem
  | cons field fields ih =>
      cases fields with
      | nil =>
          rw [List.intercalate_singleton] at hmem
          exact Or.inr ⟨field, List.mem_singleton_self field, hmem⟩
      | cons next fields =>
          rw [List.intercalate_cons_of_ne_nil (by simp), List.mem_append,
            List.mem_append, List.mem_singleton] at hmem
          rcases hmem with (hmem | hmem) | hmem
          · exact Or.inr ⟨field, List.mem_cons_self, hmem⟩
          · exact Or.inl hmem
          · rcases ih hmem with heq | ⟨found, hfound, hin⟩
            · exact Or.inl heq
            · exact Or.inr ⟨found, List.mem_cons_of_mem _ hfound, hin⟩

end SshKnock.TextFields
