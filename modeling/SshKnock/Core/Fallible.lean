import Mathlib.Data.List.Basic

/-!
# Computations that change a state and may fail

A computation runs on a state and leaves a state behind also when it fails.
Triples state what holds before it, after it and where it fails; their rules
follow the way computations are composed.
-/

namespace SshKnock

/-- Computations on a state that may fail. -/
abbrev Fallible (State Failure : Type) := ExceptT Failure (StateM State)

namespace Fallible

variable {State Failure α β : Type}

/-- The result of a computation and the state after it. -/
def perform (command : Fallible State Failure α) (state : State) :
    Except Failure α × State :=
  StateT.run (ExceptT.run command) state

/-- Fail when there is no value. -/
def orThrow (failure : Failure) (value? : Option α) :
    Fallible State Failure α :=
  value?.elim (throw failure) pure

/-- Run a computation and hand its failure over as a value. -/
def attempt (command : Fallible State Failure α) :
    Fallible State Failure (Except Failure α) :=
  ExceptT.mk fun state =>
    let (result, after) := perform command state
    (.ok result, after)

@[simp]
theorem perform_pure (value : α) (state : State) :
    perform (pure value : Fallible State Failure α) state =
      (.ok value, state) := rfl

@[simp]
theorem perform_throw (failure : Failure) (state : State) :
    perform (throw failure : Fallible State Failure α) state =
      (.error failure, state) := rfl

theorem perform_bind (command : Fallible State Failure α)
    (next : α → Fallible State Failure β) (state : State) :
    perform (command >>= next) state =
      match perform command state with
      | (.ok value, after) => perform (next value) after
      | (.error failure, after) => (.error failure, after) := by
  simp only [perform, ExceptT.run_bind, StateT.run_bind]
  cases StateT.run (ExceptT.run command) state with
  | mk result after => cases result <;> rfl

theorem perform_bind_ok {command : Fallible State Failure α}
    {next : α → Fallible State Failure β} {state after : State} {value : α}
    (hcommand : perform command state = (.ok value, after)) :
    perform (command >>= next) state = perform (next value) after := by
  rw [perform_bind, hcommand]

theorem perform_bind_error {command : Fallible State Failure α}
    {next : α → Fallible State Failure β} {state after : State}
    {failure : Failure}
    (hcommand : perform command state = (.error failure, after)) :
    perform (command >>= next) state = (.error failure, after) := by
  rw [perform_bind, hcommand]

/-! ## Triples -/

/-- Started where `before` holds, the computation returns where `returned`
holds of its value or fails where `failed` holds. -/
def Triple (before : State → Prop) (command : Fallible State Failure α)
    (returned : α → State → Prop) (failed : State → Prop) : Prop :=
  ∀ state, before state →
    match perform command state with
    | (.ok value, after) => returned value after
    | (.error _, after) => failed after

/-- The computation never leaves `Invariant`. -/
def Keeps (Invariant : State → Prop) (command : Fallible State Failure α) :
    Prop :=
  Triple Invariant command (fun _ => Invariant) Invariant

variable {before : State → Prop} {failed Invariant : State → Prop}
  {returned : α → State → Prop} {finished : β → State → Prop}

theorem Triple.pure {value : α}
    (hvalue : ∀ state, before state → returned value state) :
    Triple before (Pure.pure value : Fallible State Failure α) returned failed :=
  hvalue

theorem Triple.throw {failure : Failure}
    (hfailed : ∀ state, before state → failed state) :
    Triple before (MonadExcept.throw failure : Fallible State Failure α)
      returned failed :=
  hfailed

theorem Triple.bind {command : Fallible State Failure α}
    {next : α → Fallible State Failure β}
    (hcommand : Triple before command returned failed)
    (hnext : ∀ value, Triple (returned value) (next value) finished failed) :
    Triple before (command >>= next) finished failed := by
  intro state hbefore
  have hfirst := hcommand state hbefore
  rw [perform_bind]
  generalize perform command state = result at hfirst ⊢
  obtain ⟨_ | value, after⟩ := result
  · exact hfirst
  · exact hnext value after hfirst

theorem Triple.trivial (command : Fallible State Failure α) :
    Triple before command (fun _ _ => True) fun _ => True := by
  intro state _
  generalize perform command state = result
  obtain ⟨_ | _, _⟩ := result <;> exact True.intro

/-- Nothing follows a failure. -/
theorem Triple.throw_bind {failure : Failure}
    {next : α → Fallible State Failure β}
    (hfailed : ∀ state, before state → failed state) :
    Triple before (MonadExcept.throw failure >>= next) finished failed := by
  intro state hbefore
  rw [perform_bind, perform_throw]
  exact hfailed state hbefore

/-- An attempt does not fail. -/
theorem Triple.attempt {failed' : State → Prop}
    {command : Fallible State Failure α}
    (hcommand : Triple before command returned failed) :
    Triple before (Fallible.attempt command)
      (fun result state => match result with
        | .ok value => returned value state
        | .error _ => failed state) failed' := by
  intro state hbefore
  have hended := hcommand state hbefore
  have hperform : Fallible.perform (Fallible.attempt command) state =
      (.ok (Fallible.perform command state).1,
        (Fallible.perform command state).2) := rfl
  rw [hperform]
  generalize Fallible.perform command state = result at hended ⊢
  obtain ⟨_ | value, after⟩ := result <;> exact hended

theorem Triple.of_imp {stronger : State → Prop}
    {command : Fallible State Failure α}
    (hcommand : Triple before command returned failed)
    (hbefore : ∀ state, stronger state → before state) :
    Triple stronger command returned failed :=
  fun state hstate => hcommand state (hbefore state hstate)

theorem Triple.imp_returned {weaker : α → State → Prop}
    {command : Fallible State Failure α}
    (hcommand : Triple before command returned failed)
    (hreturned : ∀ value state, returned value state → weaker value state) :
    Triple before command weaker failed := by
  intro state hstate
  have hended := hcommand state hstate
  generalize Fallible.perform command state = result at hended ⊢
  obtain ⟨_ | value, after⟩ := result
  · exact hended
  · exact hreturned value after hended

theorem Triple.imp_failed {weaker : State → Prop}
    {command : Fallible State Failure α}
    (hcommand : Triple before command returned failed)
    (hfailed : ∀ state, failed state → weaker state) :
    Triple before command returned weaker := by
  intro state hstate
  have hended := hcommand state hstate
  generalize Fallible.perform command state = result at hended ⊢
  obtain ⟨_ | value, after⟩ := result
  · exact hfailed after hended
  · exact hended

/-- What holds whatever the state is may be assumed. -/
theorem Triple.assuming {fact : Prop} {command : Fallible State Failure α}
    (hcommand : fact → Triple before command returned failed) :
    Triple (fun state => before state ∧ fact) command returned failed :=
  fun state hstate => hcommand hstate.2 state hstate.1

/-- What holds for every choice holds for the one that was made. -/
theorem Triple.of_exists {Choice : Type*} {chosen : Choice → State → Prop}
    {command : Fallible State Failure α}
    (hcommand : ∀ choice, Triple (chosen choice) command returned failed) :
    Triple (fun state => ∃ choice, chosen choice state) command returned
      failed :=
  fun state ⟨choice, hstate⟩ => hcommand choice state hstate

theorem Triple.orThrow {failure : Failure} {value? : Option α}
    (hfailed : ∀ state, before state → failed state) :
    Triple before (Fallible.orThrow failure value?)
      (fun value state => before state ∧ value? = some value) failed := by
  cases value? with
  | none => exact Triple.throw hfailed
  | some value => exact Triple.pure fun _ hstate => ⟨hstate, rfl⟩

theorem Triple.ofExcept {result : Except Failure α}
    (hfailed : ∀ state, before state → failed state) :
    Triple before (MonadExcept.ofExcept result : Fallible State Failure α)
      (fun value state => before state ∧ result = .ok value) failed := by
  cases result with
  | error failure => exact Triple.throw hfailed
  | ok value => exact Triple.pure fun _ hstate => ⟨hstate, rfl⟩

/-- What follows may use that there was a value. -/
theorem Triple.orThrow_bind {failure : Failure} {value? : Option α}
    {next : α → Fallible State Failure β}
    (hfailed : ∀ state, before state → failed state)
    (hnext : ∀ value, value? = some value →
      Triple before (next value) finished failed) :
    Triple before (Fallible.orThrow failure value? >>= next) finished failed :=
  Triple.bind (Triple.orThrow hfailed) fun value =>
    Triple.assuming (hnext value)

/-- What follows may use that there was no failure. -/
theorem Triple.ofExcept_bind {result : Except Failure α}
    {next : α → Fallible State Failure β}
    (hfailed : ∀ state, before state → failed state)
    (hnext : ∀ value, result = .ok value →
      Triple before (next value) finished failed) :
    Triple before (MonadExcept.ofExcept result >>= next) finished failed :=
  Triple.bind (Triple.ofExcept hfailed) fun value =>
    Triple.assuming (hnext value)

/-- What holds however a computation ends holds where it ends. -/
theorem Triple.perform {after : State → Prop}
    {command : Fallible State Failure α}
    (hcommand : Triple before command (fun _ => after) after) {state : State}
    (hstate : before state) : after (perform command state).2 := by
  have hended := hcommand state hstate
  generalize Fallible.perform command state = result at hended ⊢
  obtain ⟨_ | value, ended⟩ := result <;> exact hended

/-- Where a computation that keeps an invariant ends, the invariant holds. -/
theorem Keeps.perform {command : Fallible State Failure α}
    (hkeeps : Keeps Invariant command) {state : State}
    (hstate : Invariant state) : Invariant (perform command state).2 :=
  Triple.perform hkeeps hstate

/-- It is enough to look at the state a computation ends in. -/
theorem Triple.of_perform {after : State → Prop}
    {command : Fallible State Failure α}
    (hcommand : ∀ state, before state →
      after (Fallible.perform command state).2) :
    Triple before command (fun _ => after) after := by
  intro state hstate
  have hended := hcommand state hstate
  generalize Fallible.perform command state = result at hended ⊢
  obtain ⟨_ | value, ended⟩ := result <;> exact hended

theorem Keeps.of_perform {command : Fallible State Failure α}
    (hcommand : ∀ state, Invariant state →
      Invariant (Fallible.perform command state).2) :
    Keeps Invariant command :=
  Triple.of_perform hcommand

theorem Keeps.pure (value : α) :
    Keeps Invariant (Pure.pure value : Fallible State Failure α) :=
  Triple.pure fun _ hstate => hstate

theorem Keeps.throw (failure : Failure) :
    Keeps Invariant (MonadExcept.throw failure : Fallible State Failure α) :=
  Triple.throw fun _ hstate => hstate

theorem Keeps.orThrow (failure : Failure) (value? : Option α) :
    Keeps Invariant (orThrow failure value? : Fallible State Failure α) := by
  cases value? with
  | none => exact Keeps.throw failure
  | some value => exact Keeps.pure value

theorem Keeps.bind {command : Fallible State Failure α}
    {next : α → Fallible State Failure β} (hcommand : Keeps Invariant command)
    (hnext : ∀ value, Keeps Invariant (next value)) :
    Keeps Invariant (command >>= next) :=
  Triple.bind hcommand hnext

theorem Triple.forM_of_mem {Item : Type} {items : List Item}
    {body : Item → Fallible State Failure PUnit}
    (hbody : ∀ item ∈ items,
      Triple before (body item) (fun _ => before) failed) :
    Triple before (items.forM body) (fun _ => before) failed := by
  induction items with
  | nil => exact Triple.pure fun _ hbefore => hbefore
  | cons item items ih =>
      obtain ⟨hitem, hitems⟩ := List.forall_mem_cons.mp hbody
      exact Triple.bind hitem fun _ => ih hitems

theorem Keeps.forM {Item : Type} {items : List Item}
    {body : Item → Fallible State Failure PUnit}
    (hbody : ∀ item, Keeps Invariant (body item)) :
    Keeps Invariant (items.forM body) :=
  Triple.forM_of_mem fun item _ => hbody item

/-- A loop establishes of all its items what each round adds for one. -/
theorem Triple.forM {Item : Type} {Done : List Item → State → Prop}
    {body : Item → Fallible State Failure PUnit} (done items : List Item)
    (hbody : ∀ done, ∀ item ∈ items,
      Triple (Done done) (body item) (fun _ => Done (done ++ [item])) failed) :
    Triple (Done done) (items.forM body) (fun _ => Done (done ++ items))
      failed := by
  induction items generalizing done with
  | nil =>
      apply Triple.pure
      intro state hdone
      rw [List.append_nil]
      exact hdone
  | cons item items ih =>
      obtain ⟨hitem, hitems⟩ := forall_and.mp fun done =>
        List.forall_mem_cons.mp (hbody done)
      apply Triple.bind (hitem done)
      intro _
      have hrest := ih (done ++ [item]) hitems
      rw [List.append_assoc] at hrest
      exact hrest

/-- A loop that fails has failed at one of its items. -/
theorem exists_of_forM_error {Item : Type} {items : List Item}
    {body : Item → Fallible State Failure PUnit} {state after : State}
    {failure : Failure}
    (hfailed : perform (items.forM body) state = (.error failure, after)) :
    ∃ item ∈ items, ∃ reached,
      perform (body item) reached = (.error failure, after) := by
  induction items generalizing state with
  | nil => cases hfailed
  | cons item items ih =>
      have hsplit : perform ((item :: items).forM body) state =
        perform (body item >>= fun _ => items.forM body) state := rfl
      rw [hsplit, perform_bind] at hfailed
      generalize hitem : perform (body item) state = result at hfailed
      obtain ⟨_ | value, reached⟩ := result
      · exact ⟨item, List.mem_cons_self, state, hitem.trans hfailed⟩
      · obtain ⟨failing, hmem, hfailing⟩ := ih hfailed
        exact ⟨failing, List.mem_cons_of_mem item hmem, hfailing⟩

/-- A loop that carries a value keeps what each round keeps. -/
theorem Triple.foldlM_of_mem {Item : Type} {Loop : α → State → Prop}
    {items : List Item} {body : α → Item → Fallible State Failure α}
    (initial : α)
    (hbody : ∀ value, ∀ item ∈ items,
      Triple (Loop value) (body value item) Loop failed) :
    Triple (Loop initial) (items.foldlM body initial) Loop failed := by
  induction items generalizing initial with
  | nil => exact Triple.pure fun _ hstate => hstate
  | cons item items ih =>
      rw [List.foldlM_cons]
      exact Triple.bind (hbody initial item List.mem_cons_self) fun value =>
        ih value fun value other hother =>
          hbody value other (List.mem_cons_of_mem item hother)

theorem Triple.foldlM {Item : Type} {Loop : α → State → Prop}
    {items : List Item} {body : α → Item → Fallible State Failure α}
    (initial : α)
    (hbody : ∀ value item, Triple (Loop value) (body value item) Loop failed) :
    Triple (Loop initial) (items.foldlM body initial) Loop failed :=
  Triple.foldlM_of_mem initial fun value item _ => hbody value item

theorem Keeps.foldlM {Item : Type} {items : List Item}
    {body : α → Item → Fallible State Failure α} (initial : α)
    (hbody : ∀ value item, Keeps Invariant (body value item)) :
    Keeps Invariant (items.foldlM body initial) :=
  Triple.foldlM initial hbody

end Fallible

end SshKnock
