import Mathlib.Data.List.Basic
import Mathlib.Data.List.Induction
import Mathlib.Order.Defs.PartialOrder

/-!
# Machines that keep one cell for every key

A table of cells serves many clients at once.  An input belongs to one key and
advances that key's cell; every other cell merely ages.  When aging is
monotone and a cell's own step looks only at the aged cell, what the table
answers to one key can be replayed on that key's cell alone.  A step may still
consult the rest of the table through a hint, such as whether there is room
for another cell; the hint is then part of the replayed history.
-/

namespace SshKnock.Sharded

/-- One call as the table saw it: the input, its time, the hint the table gave
and the output it returned. -/
structure Entry (Input Hint Output : Type*) where
  input : Input
  time : ℕ
  hint : Hint
  output : Output
  deriving DecidableEq

/-- A table `State` of `Cell`s together with the behaviour of a single cell.
`Good` is an invariant of the table under which the two agree. -/
structure Machine (State Key Input Hint Output Cell : Type*) where
  owner : Input → Key
  step : State → Input → ℕ → Output × State
  cell : State → Key → Cell
  hint : State → Input → ℕ → Hint
  advance : Hint → Input → ℕ → Cell → Output × Cell
  age : ℕ → Cell → Cell
  Good : State → Prop
  age_age : ∀ {early late : ℕ} (content : Cell), early ≤ late →
    age late (age early content) = age late content
  advance_age : ∀ (room : Hint) (input : Input) (time : ℕ) (content : Cell),
    advance room input time (age time content) = advance room input time content
  good_step : ∀ {state : State} (input : Input) (time : ℕ),
    Good state → Good (step state input time).2
  output_step : ∀ {state : State} (input : Input) (time : ℕ), Good state →
    (step state input time).1 =
      (advance (hint state input time) input time (cell state (owner input))).1
  cell_step_owner : ∀ {state : State} (input : Input) (time : ℕ), Good state →
    cell (step state input time).2 (owner input) =
      (advance (hint state input time) input time (cell state (owner input))).2
  cell_step_other : ∀ {state : State} (input : Input) (time : ℕ) (key : Key),
    Good state → key ≠ owner input →
    cell (step state input time).2 key = age time (cell state key)

variable {State Key Input Hint Output Cell : Type*}
variable (machine : Machine State Key Input Hint Output Cell)

/-- The times of a run never go back. -/
def Chronological (calls : List (Input × ℕ)) : Prop :=
  calls.Pairwise fun earlier later => earlier.2 ≤ later.2

instance (calls : List (Input × ℕ)) : Decidable (Chronological calls) :=
  inferInstanceAs (Decidable (List.Pairwise _ _))

theorem chronological_cons {call : Input × ℕ} {calls : List (Input × ℕ)} :
    Chronological (call :: calls) ↔
      (∀ later ∈ calls, call.2 ≤ later.2) ∧ Chronological calls :=
  List.pairwise_cons

/-- The last call of a run is the latest. -/
theorem Chronological.forall_le_last {calls : List (Input × ℕ)} {input : Input}
    {time : ℕ} (hcalls : Chronological (calls ++ [(input, time)])) :
    ∀ call ∈ calls ++ [(input, time)], call.2 ≤ time := by
  intro call hcall
  rcases List.mem_append.mp hcall with hold | hnew
  · exact (List.pairwise_append.mp hcalls).2.2 call hold (input, time)
      List.mem_cons_self
  · exact Nat.le_of_eq (congrArg Prod.snd (List.mem_singleton.mp hnew))

namespace Machine

/-- The state a run ends in. -/
def final (state : State) : List (Input × ℕ) → State
  | [] => state
  | call :: calls => final (machine.step state call.1 call.2).2 calls

/-- Every call of a run with the hint and the output it got. -/
def trace (state : State) :
    List (Input × ℕ) → List (Entry Input Hint Output)
  | [] => []
  | call :: calls =>
      { input := call.1
        time := call.2
        hint := machine.hint state call.1 call.2
        output := (machine.step state call.1 call.2).1 } ::
        trace (machine.step state call.1 call.2).2 calls

/-- A list of calls is a history of one cell when every output is the one the
cell alone gives, starting from `content`. -/
def Replays : Cell → List (Entry Input Hint Output) → Prop
  | _, [] => True
  | content, entry :: entries =>
      entry.output =
          (machine.advance entry.hint entry.input entry.time content).1 ∧
        Replays (machine.advance entry.hint entry.input entry.time content).2
          entries

/-- The cell a history leaves behind. -/
def replay : Cell → List (Entry Input Hint Output) → Cell
  | content, [] => content
  | content, entry :: entries =>
      replay (machine.advance entry.hint entry.input entry.time content).2
        entries

/-- The calls of a trace that belong to `key`. -/
def own [DecidableEq Key] (key : Key)
    (entries : List (Entry Input Hint Output)) :
    List (Entry Input Hint Output) :=
  entries.filter fun entry => machine.owner entry.input = key

theorem good_final {state : State} (calls : List (Input × ℕ))
    (hgood : machine.Good state) : machine.Good (machine.final state calls) := by
  induction calls generalizing state with
  | nil => exact hgood
  | cons call calls ih => exact ih (machine.good_step call.1 call.2 hgood)

/-- The trace keeps inputs and times as they were given. -/
theorem map_call_trace (state : State) (calls : List (Input × ℕ)) :
    (machine.trace state calls).map (fun entry => (entry.input, entry.time)) =
      calls := by
  induction calls generalizing state with
  | nil => rfl
  | cons call calls ih => simp only [trace, List.map_cons, ih]

theorem replay_append (content : Cell)
    (first second : List (Entry Input Hint Output)) :
    machine.replay content (first ++ second) =
      machine.replay (machine.replay content first) second := by
  induction first generalizing content with
  | nil => rfl
  | cons entry first ih => exact ih _

theorem replays_append (content : Cell)
    (first second : List (Entry Input Hint Output)) :
    machine.Replays content (first ++ second) ↔
      machine.Replays content first ∧
        machine.Replays (machine.replay content first) second := by
  induction first generalizing content with
  | nil => simp [Replays, replay]
  | cons entry first ih =>
      simp only [List.cons_append, Replays, replay, ih, and_assoc]

theorem final_concat (state : State) (calls : List (Input × ℕ))
    (call : Input × ℕ) :
    machine.final state (calls ++ [call]) =
      (machine.step (machine.final state calls) call.1 call.2).2 := by
  induction calls generalizing state with
  | nil => rfl
  | cons first calls ih => exact ih _

/-- What a run leaves in a cell may be said in terms of the calls so far: it
is kept by the cell's own calls and by aging. -/
structure Keeps (Held : List (Input × ℕ) → Key → Cell → Prop) : Prop where
  own : ∀ {past : List (Input × ℕ)} {input : Input} {time : ℕ}
    {content : Cell} (hint : Hint), (∀ call ∈ past, call.2 ≤ time) →
    Held past (machine.owner input) content →
    Held (past ++ [(input, time)]) (machine.owner input)
      (machine.advance hint input time content).2
  other : ∀ {past : List (Input × ℕ)} {input : Input} {time : ℕ} {key : Key}
    {content : Cell}, (∀ call ∈ past, call.2 ≤ time) →
    key ≠ machine.owner input → Held past key content →
    Held (past ++ [(input, time)]) key (machine.age time content)

/-- What every call keeps holds at the end of a run. -/
theorem Keeps.final {machine : Machine State Key Input Hint Output Cell}
    {Held : List (Input × ℕ) → Key → Cell → Prop}
    (hkeeps : machine.Keeps Held) {state : State} (hgood : machine.Good state)
    (hinitial : ∀ key, Held [] key (machine.cell state key))
    {calls : List (Input × ℕ)} (hcalls : Chronological calls) (key : Key) :
    Held calls key (machine.cell (machine.final state calls) key) := by
  induction calls using List.reverseRecOn generalizing key with
  | nil => exact hinitial key
  | append_singleton past call ih =>
      obtain ⟨hpast, -, hordered⟩ := List.pairwise_append.mp hcalls
      have hlast : ∀ earlier ∈ past, earlier.2 ≤ call.2 := fun earlier hearlier =>
        hordered earlier hearlier call (List.mem_singleton_self call)
      have hreached := machine.good_final past hgood
      rw [machine.final_concat]
      by_cases hkey : key = machine.owner call.1
      · rw [hkey, machine.cell_step_owner call.1 call.2 hreached]
        exact hkeeps.own _ hlast (ih hpast _)
      · rw [machine.cell_step_other call.1 call.2 key hreached hkey]
        exact hkeeps.other hlast hkey (ih hpast key)

/-- Two contents that have aged to the same cell advance alike. -/
theorem advance_congr {left right : Cell} {early late : ℕ} (room : Hint)
    (input : Input) (hle : early ≤ late)
    (heq : machine.age early left = machine.age early right) :
    machine.advance room input late left =
      machine.advance room input late right := by
  have hlate : machine.age late left = machine.age late right := by
    rw [← machine.age_age left hle, heq, machine.age_age right hle]
  rw [← machine.advance_age room input late left, hlate,
    machine.advance_age room input late right]

/-- A call for another key leaves a cell as it would have aged anyway. -/
theorem age_cell_step_other {state : State} {content : Cell} {key : Key}
    {early late : ℕ} (input : Input) (hgood : machine.Good state)
    (hle : early ≤ late) (hkey : key ≠ machine.owner input)
    (hcell : machine.age early (machine.cell state key) =
      machine.age early content) :
    machine.age late (machine.cell (machine.step state input late).2 key) =
      machine.age late content := by
  rw [machine.cell_step_other input late key hgood hkey,
    machine.age_age _ (Nat.le_refl late), ← machine.age_age _ hle, hcell,
    machine.age_age content hle]

/-- A call for the cell's own key is answered, and its cell advanced, as if
the cell had been alone all along. -/
theorem step_own {state : State} {content : Cell} {early late : ℕ}
    (input : Input) (hgood : machine.Good state) (hle : early ≤ late)
    (hcell : machine.age early (machine.cell state (machine.owner input)) =
      machine.age early content) :
    (machine.step state input late).1 =
        (machine.advance (machine.hint state input late) input late content).1 ∧
      machine.cell (machine.step state input late).2 (machine.owner input) =
        (machine.advance (machine.hint state input late) input late content).2 := by
  rw [machine.output_step input late hgood,
    machine.cell_step_owner input late hgood,
    machine.advance_congr (machine.hint state input late) input hle hcell]
  exact ⟨rfl, rfl⟩

variable [DecidableEq Key]

/-- Whatever the other keys do in between, the answers to one key's calls are
those of its cell alone. -/
theorem replays_own {state : State} {content : Cell} (start : ℕ)
    {calls : List (Input × ℕ)} (key : Key) (hgood : machine.Good state)
    (hstart : ∀ call ∈ calls, start ≤ call.2) (hcalls : Chronological calls)
    (hcell : machine.age start (machine.cell state key) =
      machine.age start content) :
    machine.Replays content (machine.own key (machine.trace state calls)) := by
  induction calls generalizing state content start with
  | nil => trivial
  | cons call calls ih =>
      obtain ⟨hlater, hrest⟩ := chronological_cons.mp hcalls
      have hle : start ≤ call.2 := hstart call List.mem_cons_self
      have hnext := machine.good_step call.1 call.2 hgood
      by_cases hown : machine.owner call.1 = key
      · subst hown
        obtain ⟨houtput, hcontent⟩ :=
          machine.step_own call.1 hgood hle hcell
        rw [trace, own, List.filter_cons_of_pos (by simp)]
        exact ⟨houtput, ih call.2 hnext hlater hrest (by rw [hcontent])⟩
      · rw [trace, own, List.filter_cons_of_neg (by simpa using hown)]
        exact ih call.2 hnext hlater hrest
          (machine.age_cell_step_other call.1 hgood hle (Ne.symm hown) hcell)

/-- The calls of a trace that belong to a key are the calls that were made for
it. -/
theorem map_call_own (state : State) (key : Key)
    (calls : List (Input × ℕ)) :
    (machine.own key (machine.trace state calls)).map
        (fun entry => (entry.input, entry.time)) =
      calls.filter fun call => machine.owner call.1 = key := by
  conv_rhs => rw [← machine.map_call_trace state calls, List.filter_map]
  rfl

omit [DecidableEq Key] in
/-- Without hints, the calls of a history determine what they were
answered. -/
theorem eq_of_replays [Subsingleton Hint] {content : Cell}
    {left right : List (Entry Input Hint Output)}
    (hleft : machine.Replays content left)
    (hright : machine.Replays content right)
    (hcalls : left.map (fun entry => (entry.input, entry.time)) =
      right.map fun entry => (entry.input, entry.time)) : left = right := by
  induction left generalizing content right with
  | nil => exact (List.map_eq_nil_iff.mp hcalls.symm).symm
  | cons first left ih =>
      obtain ⟨second, right, rfl, hcall, hrest⟩ :=
        List.map_eq_cons_iff.mp hcalls.symm
      obtain ⟨hfirst, hleft⟩ := hleft
      obtain ⟨hsecond, hright⟩ := hright
      have hentry : first = second := by
        obtain ⟨input, time, hint, output⟩ := first
        obtain ⟨_, _, other, _⟩ := second
        simp only [Prod.mk.injEq] at hcall
        obtain ⟨rfl, rfl⟩ := hcall
        obtain rfl := Subsingleton.elim hint other
        simp only at hfirst hsecond
        rw [hfirst, hsecond]
      subst hentry
      rw [ih hleft hright hrest.symm]

/-- A table without hints answers every key as if it served that key alone. -/
theorem own_trace [Subsingleton Hint] {joint solo : State} {content : Cell}
    (start : ℕ) {calls : List (Input × ℕ)} (key : Key)
    (hjoint : machine.Good joint) (hsolo : machine.Good solo)
    (hstart : ∀ call ∈ calls, start ≤ call.2) (hcalls : Chronological calls)
    (hjointCell : machine.age start (machine.cell joint key) =
      machine.age start content)
    (hsoloCell : machine.age start (machine.cell solo key) =
      machine.age start content) :
    machine.own key (machine.trace joint calls) =
      machine.trace solo
        (calls.filter fun call => machine.owner call.1 = key) := by
  let kept := calls.filter fun call => machine.owner call.1 = key
  have hkept : machine.own key (machine.trace solo kept) =
      machine.trace solo kept := by
    apply List.filter_eq_self.mpr
    intro entry hentry
    have hcall : (entry.input, entry.time) ∈ kept := by
      rw [← machine.map_call_trace solo kept]
      exact List.mem_map_of_mem hentry
    exact (List.mem_filter.mp hcall).2
  have hreplays := machine.replays_own start key hjoint hstart hcalls hjointCell
  have hkeptCalls : Chronological kept := hcalls.filter _
  have halone := machine.replays_own start key hsolo
    (fun call hcall => hstart call (List.mem_of_mem_filter hcall))
    hkeptCalls hsoloCell
  rw [hkept] at halone
  apply machine.eq_of_replays hreplays halone
  rw [machine.map_call_own, machine.map_call_trace]

end Machine

end SshKnock.Sharded
