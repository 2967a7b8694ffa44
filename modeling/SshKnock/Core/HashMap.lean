import Mathlib.Data.Finset.Card
import Mathlib.Data.List.AList

/-!
# Finite maps with retention

The association lists of Mathlib carry their own proof that no key occurs
twice.  This module names their operations as the standard hash map does and
adds the two operations Mathlib leaves out: dropping every entry that fails a
predicate, and counting the entries.
-/

namespace SshKnock

abbrev HashMap (K V : Type*) := AList fun _ : K => V

namespace HashMap

variable {K V : Type*} [DecidableEq K]

def empty : HashMap K V := ∅

def get (map : HashMap K V) (key : K) : Option V :=
  AList.lookup key map

def containsKey (map : HashMap K V) (key : K) : Bool :=
  (map.get key).isSome

def insert (map : HashMap K V) (key : K) (value : V) : HashMap K V :=
  AList.insert key value map

def remove (map : HashMap K V) (key : K) : HashMap K V :=
  AList.erase key map

omit [DecidableEq K] in
/-- Keep exactly the entries that satisfy `keep`. -/
def retain (map : HashMap K V) (keep : K → V → Bool) : HashMap K V :=
  ⟨map.entries.filter fun entry => keep entry.1 entry.2,
    map.nodupKeys.sublist List.filter_sublist⟩

omit [DecidableEq K] in
def len (map : HashMap K V) : ℕ :=
  map.entries.length

theorem containsKey_eq_false_iff {map : HashMap K V} {key : K} :
    map.containsKey key = false ↔ map.get key = none := by
  rw [containsKey, Option.isSome_eq_false_iff, Option.isNone_iff_eq_none]

@[simp]
theorem get_empty (key : K) : (empty : HashMap K V).get key = none :=
  AList.lookup_empty key

omit [DecidableEq K] in
@[simp]
theorem len_empty : (empty : HashMap K V).len = 0 := rfl

omit [DecidableEq K] in
@[simp]
theorem retain_empty (keep : K → V → Bool) :
    (empty : HashMap K V).retain keep = empty := rfl

@[simp]
theorem get_insert_self (map : HashMap K V) (key : K) (value : V) :
    (map.insert key value).get key = some value :=
  AList.lookup_insert map

theorem get_insert_of_ne (map : HashMap K V) {key other : K} (value : V)
    (hne : other ≠ key) : (map.insert key value).get other = map.get other :=
  AList.lookup_insert_ne hne

@[simp]
theorem get_remove_self (map : HashMap K V) (key : K) :
    (map.remove key).get key = none :=
  AList.lookup_erase key map

theorem get_remove_of_ne (map : HashMap K V) {key other : K}
    (hne : other ≠ key) : (map.remove key).get other = map.get other :=
  AList.lookup_erase_ne hne

theorem get_eq_some_iff_mem (map : HashMap K V) (key : K) (value : V) :
    map.get key = some value ↔ ⟨key, value⟩ ∈ map.entries :=
  AList.mem_lookup_iff

/-- A retained map answers a lookup with the old answer when the predicate
holds of it, and with nothing otherwise. -/
theorem get_retain (map : HashMap K V) (keep : K → V → Bool) (key : K) :
    (map.retain keep).get key = (map.get key).filter (keep key) := by
  apply Option.ext
  intro value
  rw [get_eq_some_iff_mem, Option.filter_eq_some_iff, get_eq_some_iff_mem]
  simp [retain]

omit [DecidableEq K] in
/-- A predicate that implies an earlier one makes the earlier retention
redundant. -/
theorem retain_retain_of_imp (map : HashMap K V) (first second : K → V → Bool)
    (himp : ∀ key value, second key value = true → first key value = true) :
    (map.retain first).retain second = map.retain second := by
  apply AList.ext
  simp only [retain, List.filter_filter]
  apply List.filter_congr
  intro entry _
  cases hsecond : second entry.1 entry.2 with
  | false => rfl
  | true => simp [himp _ _ hsecond]

/-- Removing an entry first changes nothing when it is not retained. -/
theorem retain_remove (map : HashMap K V) (keep : K → V → Bool) (key : K)
    (hdropped : ∀ value, map.get key = some value → keep key value = false) :
    (map.remove key).retain keep = map.retain keep := by
  have hentries : ∀ entries : List (Sigma fun _ : K => V),
      (∀ value, ⟨key, value⟩ ∈ entries → keep key value = false) →
        (List.kerase key entries).filter (fun entry => keep entry.1 entry.2) =
          entries.filter fun entry => keep entry.1 entry.2 := by
    intro entries hentries
    induction entries with
    | nil => rfl
    | cons entry entries ih =>
        obtain ⟨other, value⟩ := entry
        by_cases hsame : key = other
        · subst hsame
          have hkerase : List.kerase key (⟨key, value⟩ :: entries) = entries :=
            List.kerase_cons_eq rfl
          have hfails : keep key value = false :=
            hentries value List.mem_cons_self
          rw [hkerase, List.filter_cons_of_neg (by simp [hfails])]
        · have hkerase : List.kerase key (⟨other, value⟩ :: entries) =
              ⟨other, value⟩ :: List.kerase key entries :=
            List.kerase_cons_ne hsame
          have hrest := ih fun found hfound =>
            hentries found (List.mem_cons_of_mem _ hfound)
          rw [hkerase, List.filter_cons, List.filter_cons, hrest]
  apply AList.ext
  apply hentries
  intro value hvalue
  exact hdropped value ((get_eq_some_iff_mem map key value).mpr hvalue)

omit [DecidableEq K] in
theorem len_retain_le (map : HashMap K V) (keep : K → V → Bool) :
    (map.retain keep).len ≤ map.len :=
  List.length_filter_le _ _

theorem len_remove_le (map : HashMap K V) (key : K) :
    (map.remove key).len ≤ map.len :=
  (List.kerase_sublist key map.entries).length_le

omit [DecidableEq K] in
theorem len_eq_length_keys (map : HashMap K V) :
    map.len = (AList.keys map).length :=
  List.length_map _ |>.symm

theorem mem_keys_iff (map : HashMap K V) (key : K) :
    key ∈ AList.keys map ↔ map.containsKey key = true :=
  AList.lookup_isSome.symm

/-- The entries of a map are as many as its keys. -/
theorem len_eq_card (map : HashMap K V) :
    map.len = (AList.keys map).toFinset.card := by
  rw [List.toFinset_card_of_nodup map.keys_nodup, len_eq_length_keys]

theorem len_remove_of_get_some (map : HashMap K V) {key : K} {value : V}
    (hget : map.get key = some value) : (map.remove key).len + 1 = map.len := by
  have hmem : key ∈ AList.keys map :=
    List.mem_keys_of_mem ((get_eq_some_iff_mem map key value).mp hget)
  calc
    (map.remove key).len + 1 = ((AList.keys map).erase key).length + 1 := by
      rw [len_eq_length_keys, remove, AList.keys_erase]
    _ = (AList.keys map).length := by
      rw [List.length_erase_of_mem hmem]
      exact Nat.succ_pred_eq_of_pos (List.length_pos_of_mem hmem)
    _ = map.len := (len_eq_length_keys map).symm

theorem remove_of_get_none (map : HashMap K V) {key : K}
    (hget : map.get key = none) : map.remove key = map := by
  apply AList.ext
  exact List.kerase_of_notMem_keys (AList.lookup_eq_none.mp hget)

theorem len_insert (map : HashMap K V) (key : K) (value : V) :
    (map.insert key value).len = (map.remove key).len + 1 := rfl

theorem len_insert_le (map : HashMap K V) (key : K) (value : V) :
    (map.insert key value).len ≤ map.len + 1 :=
  Nat.succ_le_succ (len_remove_le map key)

theorem len_insert_of_get_some (map : HashMap K V) {key : K} {old : V}
    (value : V) (hget : map.get key = some old) :
    (map.insert key value).len = map.len := by
  rw [len_insert, len_remove_of_get_some map hget]

theorem len_insert_of_get_none (map : HashMap K V) {key : K} (value : V)
    (hget : map.get key = none) : (map.insert key value).len = map.len + 1 := by
  rw [len_insert, remove_of_get_none map hget]

/-- An insertion stays within a bound that its key already counts towards or
that leaves room for one more key. -/
theorem len_insert_le_iff (map : HashMap K V) (key : K) (value : V)
    {bound : ℕ} (hbound : map.len ≤ bound) :
    (map.insert key value).len ≤ bound ↔
      map.containsKey key = true ∨ map.len < bound := by
  rw [containsKey]
  cases hget : map.get key with
  | none =>
      rw [len_insert_of_get_none map value hget]
      exact ⟨Or.inr, fun hroom => hroom.resolve_left (by simp)⟩
  | some old =>
      rw [len_insert_of_get_some map value hget]
      simp [hbound]

/-- A map that answers nothing to every key has no entry. -/
theorem len_eq_zero_of_get_none (map : HashMap K V)
    (hget : ∀ key, map.get key = none) : map.len = 0 := by
  rw [len, List.length_eq_zero_iff, List.eq_nil_iff_forall_not_mem]
  rintro ⟨key, value⟩ hmem
  have hsome := (get_eq_some_iff_mem map key value).mpr hmem
  rw [hget key] at hsome
  cases hsome

end HashMap

end SshKnock
