import Mathlib.Data.List.Basic

/-!
# Recovery by running again

A job is a list of steps over a state, and an interrupted run performs only
some first steps of the list.  When running a step once settles it and no
other step of the job unsettles it, a whole run after any number of
interrupted ones leaves the state that one whole run would have left.
-/

namespace SshKnock.Recovery

variable {State : Type*}

/-- Perform the steps in order. -/
def run (steps : List (State → State)) (state : State) : State :=
  steps.foldl (fun state step => step state) state

/-- A step has nothing left to do. -/
def Settled (step : State → State) (state : State) : Prop :=
  step state = state

/-- Running a step settles it, and no step of the job unsettles another. -/
structure Recoverable (steps : List (State → State)) : Prop where
  settles : ∀ step ∈ steps, ∀ state, Settled step (step state)
  stays : ∀ step ∈ steps, ∀ other ∈ steps, ∀ state,
    Settled step state → Settled step (other state)

@[simp]
theorem run_nil (state : State) : run [] state = state := rfl

@[simp]
theorem run_cons (step : State → State) (steps : List (State → State))
    (state : State) : run (step :: steps) state = run steps (step state) := rfl

theorem run_append (first second : List (State → State)) (state : State) :
    run (first ++ second) state = run second (run first state) :=
  List.foldl_append

theorem run_of_settled {steps : List (State → State)} {state : State}
    (hsettled : ∀ step ∈ steps, Settled step state) :
    run steps state = state := by
  induction steps with
  | nil => rfl
  | cons step steps ih =>
      obtain ⟨hstep, hrest⟩ := List.forall_mem_cons.mp hsettled
      rw [run_cons, show step state = state from hstep, ih hrest]

/-- What each step does to a state, the whole run does, if it composes. -/
theorem run_relates {Relates : State → State → Prop}
    (hrefl : ∀ state, Relates state state)
    (htrans : ∀ {first second third}, Relates first second →
      Relates second third → Relates first third)
    {steps : List (State → State)}
    (hsteps : ∀ step ∈ steps, ∀ state, Relates state (step state))
    (state : State) : Relates state (run steps state) := by
  induction steps generalizing state with
  | nil => exact hrefl state
  | cons step steps ih =>
      obtain ⟨hstep, hrest⟩ := List.forall_mem_cons.mp hsteps
      rw [run_cons]
      exact htrans (hstep state) (ih hrest (step state))

namespace Recoverable

variable {steps : List (State → State)}

/-- A settled step stays settled while other steps of the job run. -/
theorem settled_run (hjob : Recoverable steps) {step : State → State}
    (hstep : step ∈ steps) {taken : List (State → State)}
    (htaken : ∀ other ∈ taken, other ∈ steps) {state : State}
    (hsettled : Settled step state) : Settled step (run taken state) := by
  induction taken generalizing state with
  | nil => exact hsettled
  | cons other taken ih =>
      obtain ⟨hother, hrest⟩ := List.forall_mem_cons.mp htaken
      exact ih hrest (hjob.stays step hstep other hother state hsettled)

/-- After a partial run every performed step is settled. -/
theorem settled_of_mem (hjob : Recoverable steps)
    {taken : List (State → State)} (htaken : ∀ other ∈ taken, other ∈ steps)
    (state : State) : ∀ step ∈ taken, Settled step (run taken state) := by
  induction taken generalizing state with
  | nil => simp
  | cons first taken ih =>
      obtain ⟨hfirst, hrest⟩ := List.forall_mem_cons.mp htaken
      refine List.forall_mem_cons.mpr ⟨?_, ih hrest (first state)⟩
      exact hjob.settled_run hfirst hrest (hjob.settles first hfirst state)

/-- A whole run picks up where an interrupted one stopped. -/
theorem run_run_take (hjob : Recoverable steps) (count : ℕ) (state : State) :
    run steps (run (steps.take count) state) = run steps state := by
  have hsettled : ∀ step ∈ steps.take count,
      Settled step (run (steps.take count) state) :=
    hjob.settled_of_mem (fun _ hmem => List.mem_of_mem_take hmem) state
  have hsplit : ∀ start, run steps start =
      run (steps.drop count) (run (steps.take count) start) := fun start => by
    rw [← run_append, List.take_append_drop]
  calc
    run steps (run (steps.take count) state) =
        run (steps.drop count)
          (run (steps.take count) (run (steps.take count) state)) := hsplit _
    _ = run (steps.drop count) (run (steps.take count) state) := by
      rw [run_of_settled hsettled]
    _ = run steps state := (hsplit state).symm

/-- After a whole run an interrupted one changes nothing. -/
theorem run_take_run (hjob : Recoverable steps) (count : ℕ) (state : State) :
    run (steps.take count) (run steps state) = run steps state :=
  run_of_settled fun step hmem => hjob.settled_of_mem (fun _ hmem => hmem)
    state step (List.mem_of_mem_take hmem)

/-- A second whole run changes nothing. -/
theorem run_run (hjob : Recoverable steps) (state : State) :
    run steps (run steps state) = run steps state :=
  run_of_settled (hjob.settled_of_mem (fun _ hmem => hmem) state)

end Recoverable

end SshKnock.Recovery
