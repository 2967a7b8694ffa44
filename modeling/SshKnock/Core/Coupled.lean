import SshKnock.Core.Fallible

/-!
# Two computations side by side

A coupling relates two computations, also on different kinds of state: started
in related states they return together or fail together, related again.  Where
they may part, one failing and the other not, nothing is said from there on.
-/

namespace SshKnock.Fallible

variable {Left Right Failure Failure' α β γ δ : Type}

/-- Started where `before` holds, both computations return where `returned`
holds or fail where `failed` holds, unless `parted` allows them to part. -/
def Coupled (before : Left → Right → Prop) (left : Fallible Left Failure α)
    (right : Fallible Right Failure' β)
    (returned : α → β → Left → Right → Prop)
    (failed : Failure → Failure' → Left → Right → Prop) (parted : Prop) :
    Prop :=
  ∀ leftState rightState, before leftState rightState →
    match perform left leftState, perform right rightState with
    | (.ok value, leftAfter), (.ok other, rightAfter) =>
        returned value other leftAfter rightAfter
    | (.error failure, leftAfter), (.error other, rightAfter) =>
        failed failure other leftAfter rightAfter ∨ parted
    | (.ok _, _), (.error _, _) => parted
    | (.error _, _), (.ok _, _) => parted

variable {before stronger : Left → Right → Prop}
  {left : Fallible Left Failure α} {right : Fallible Right Failure' β}
  {returned : α → β → Left → Right → Prop}
  {failed : Failure → Failure' → Left → Right → Prop} {parted : Prop}
  {finished : γ → δ → Left → Right → Prop}

namespace Coupled

/-! ## Composition -/

theorem pure {value : α} {other : β}
    (hvalues : ∀ leftState rightState, before leftState rightState →
      returned value other leftState rightState) :
    Coupled before (Pure.pure value : Fallible Left Failure α)
      (Pure.pure other : Fallible Right Failure' β) returned failed parted :=
  hvalues

theorem throw {failure : Failure} {other : Failure'}
    (hfailed : ∀ leftState rightState, before leftState rightState →
      failed failure other leftState rightState) :
    Coupled before (MonadExcept.throw failure : Fallible Left Failure α)
      (MonadExcept.throw other : Fallible Right Failure' β) returned failed
      parted :=
  fun leftState rightState hbefore =>
    Or.inl (hfailed leftState rightState hbefore)

theorem bind {next : α → Fallible Left Failure γ}
    {next' : β → Fallible Right Failure' δ}
    (hfirst : Coupled before left right returned failed parted)
    (hnext : ∀ value other, Coupled (returned value other) (next value)
      (next' other) finished failed parted) :
    Coupled before (left >>= next) (right >>= next') finished failed
      parted := by
  intro leftState rightState hbefore
  have hended := hfirst leftState rightState hbefore
  rw [perform_bind, perform_bind]
  generalize perform left leftState = result at hended ⊢
  generalize perform right rightState = result' at hended ⊢
  obtain ⟨failure | value, leftAfter⟩ := result <;>
    obtain ⟨failure' | other, rightAfter⟩ := result'
  · exact hended
  -- Only the right computation goes on.
  · simp only
    generalize perform (next' other) rightAfter = later
    obtain ⟨_ | _, _⟩ := later
    · exact Or.inr hended
    · exact hended
  · simp only
    generalize perform (next value) leftAfter = later
    obtain ⟨_ | _, _⟩ := later
    · exact Or.inr hended
    · exact hended
  · exact hnext value other leftAfter rightAfter hended

theorem imp_returned {weaker : α → β → Left → Right → Prop}
    (hcoupled : Coupled before left right returned failed parted)
    (hreturned : ∀ value other leftState rightState,
      returned value other leftState rightState →
        weaker value other leftState rightState) :
    Coupled before left right weaker failed parted := by
  intro leftState rightState hbefore
  have hended := hcoupled leftState rightState hbefore
  generalize perform left leftState = result at hended ⊢
  generalize perform right rightState = result' at hended ⊢
  obtain ⟨failure | value, leftAfter⟩ := result <;>
    obtain ⟨failure' | other, rightAfter⟩ := result'
  · exact hended
  · exact hended
  · exact hended
  · exact hreturned value other leftAfter rightAfter hended

/-- What holds whatever the states are may be assumed. -/
theorem assuming {fact : Prop}
    (hcoupled : fact → Coupled before left right returned failed parted) :
    Coupled (fun leftState rightState => before leftState rightState ∧ fact)
      left right returned failed parted :=
  fun leftState rightState hbefore =>
    hcoupled hbefore.2 leftState rightState hbefore.1

/-! ## What a coupling says of two runs -/

/-- Two runs that both return are related where they end. -/
theorem returned_of_ok
    (hcoupled : Coupled before left right returned failed parted)
    {leftState leftAfter : Left} {rightState rightAfter : Right}
    {value : α} {other : β} (hbefore : before leftState rightState)
    (hleft : perform left leftState = (.ok value, leftAfter))
    (hright : perform right rightState = (.ok other, rightAfter)) :
    returned value other leftAfter rightAfter := by
  have hended := hcoupled leftState rightState hbefore
  rw [hleft, hright] at hended
  exact hended

end Coupled

/-! ## Computations in step -/

/-- Started in related states, both computations return the same value in
related states, or fail as `failed` says. -/
def InStep (related : Left → Right → Prop)
    (failed : Failure → Failure' → Left → Right → Prop) (parted : Prop)
    (left : Fallible Left Failure α) (right : Fallible Right Failure' α) :
    Prop :=
  Coupled related left right
    (fun value other leftState rightState =>
      related leftState rightState ∧ value = other) failed parted

namespace InStep

variable {related : Left → Right → Prop} {right : Fallible Right Failure' α}

theorem bind {next : α → Fallible Left Failure γ}
    {next' : α → Fallible Right Failure' γ}
    (hfirst : InStep related failed parted left right)
    (hnext : ∀ value,
      InStep related failed parted (next value) (next' value)) :
    InStep related failed parted (left >>= next) (right >>= next') :=
  Coupled.bind hfirst fun value other => Coupled.assuming fun hsame => by
    rw [← hsame]
    exact hnext value

theorem pure (value : α) :
    InStep related failed parted
      (Pure.pure value : Fallible Left Failure α)
      (Pure.pure value : Fallible Right Failure' α) :=
  Coupled.pure fun _ _ hrelated => ⟨hrelated, rfl⟩

theorem throw {failure : Failure} {other : Failure'}
    (hfailed : ∀ leftState rightState, related leftState rightState →
      failed failure other leftState rightState) :
    InStep related failed parted
      (MonadExcept.throw failure : Fallible Left Failure α)
      (MonadExcept.throw other : Fallible Right Failure' α) :=
  Coupled.throw hfailed

theorem orThrow {failure : Failure} {other : Failure'} (value? : Option α)
    (hfailed : ∀ leftState rightState, related leftState rightState →
      failed failure other leftState rightState) :
    InStep related failed parted (Fallible.orThrow failure value?)
      (Fallible.orThrow other value?) := by
  cases value? with
  | none => exact throw hfailed
  | some value => exact pure value

/-- Both computations first do something whose results may differ. -/
theorem of_coupled {before : α → β → Prop} {right : Fallible Right Failure' β}
    {next : α → Fallible Left Failure γ}
    {next' : β → Fallible Right Failure' γ}
    (hfirst : Coupled related left right
      (fun value other leftState rightState =>
        related leftState rightState ∧ before value other) failed parted)
    (hnext : ∀ value other, before value other →
      InStep related failed parted (next value) (next' other)) :
    InStep related failed parted (left >>= next) (right >>= next') :=
  Coupled.bind hfirst fun value other => Coupled.assuming (hnext value other)

theorem forM {Item : Type} {items : List Item}
    {body : Item → Fallible Left Failure PUnit}
    {body' : Item → Fallible Right Failure' PUnit}
    (hbody : ∀ item, InStep related failed parted (body item) (body' item)) :
    InStep related failed parted (items.forM body) (items.forM body') := by
  induction items with
  | nil => exact pure _
  | cons item items ih => exact bind (hbody item) fun _ => ih

theorem foldlM {Item : Type} {items : List Item}
    {body : α → Item → Fallible Left Failure α}
    {body' : α → Item → Fallible Right Failure' α} (initial : α)
    (hbody : ∀ value item,
      InStep related failed parted (body value item) (body' value item)) :
    InStep related failed parted (items.foldlM body initial)
      (items.foldlM body' initial) := by
  induction items generalizing initial with
  | nil => exact pure _
  | cons item items ih =>
      rw [List.foldlM_cons, List.foldlM_cons]
      exact bind (hbody initial item) fun value => ih value

end InStep

/-- Both results are values that are alike, or the same error. -/
inductive Alike {Reason : Type} (alike : α → β → Prop) :
    Except Reason α → Except Reason β → Prop where
  | ok {value : α} {other : β} (halike : alike value other) :
      Alike alike (.ok value) (.ok other)
  | error (reason : Reason) : Alike alike (.error reason) (.error reason)

/-! ## Lockstep -/

/-- Started in related states, both computations end with the same result in
related states. -/
def Lockstep (related : Left → Right → Prop) (left : Fallible Left Failure α)
    (right : Fallible Right Failure α) : Prop :=
  InStep related
    (fun failure other leftState rightState =>
      related leftState rightState ∧ failure = other) False left right

namespace Lockstep

variable {related : Left → Right → Prop} {right : Fallible Right Failure α}

theorem bind {next : α → Fallible Left Failure γ}
    {next' : α → Fallible Right Failure γ}
    (hfirst : Lockstep related left right)
    (hnext : ∀ value, Lockstep related (next value) (next' value)) :
    Lockstep related (left >>= next) (right >>= next') :=
  InStep.bind hfirst hnext

theorem pure (value : α) :
    Lockstep related (Pure.pure value : Fallible Left Failure α)
      (Pure.pure value) :=
  InStep.pure value

theorem throw (failure : Failure) :
    Lockstep related (MonadExcept.throw failure : Fallible Left Failure α)
      (MonadExcept.throw failure) :=
  InStep.throw fun _ _ hrelated => ⟨hrelated, rfl⟩

theorem perform_eq (hlockstep : Lockstep related left right)
    {leftState : Left} {rightState : Right}
    (hrelated : related leftState rightState) :
    (perform left leftState).1 = (perform right rightState).1 ∧
      related (perform left leftState).2 (perform right rightState).2 := by
  have hended := hlockstep leftState rightState hrelated
  generalize perform left leftState = result at hended ⊢
  generalize perform right rightState = result' at hended ⊢
  obtain ⟨failure | value, leftAfter⟩ := result <;>
    obtain ⟨failure' | other, rightAfter⟩ := result'
  · obtain ⟨hafter, hsame⟩ := hended.resolve_right id
    exact ⟨congrArg Except.error hsame, hafter⟩
  · exact hended.elim
  · exact hended.elim
  · exact ⟨congrArg Except.ok hended.2, hended.1⟩

/-- It is enough to look at where the computations end. -/
theorem of_perform
    (hended : ∀ leftState rightState, related leftState rightState →
      (perform left leftState).1 = (perform right rightState).1 ∧
        related (perform left leftState).2 (perform right rightState).2) :
    Lockstep related left right := by
  intro leftState rightState hrelated
  have hended := hended leftState rightState hrelated
  generalize perform left leftState = result at hended ⊢
  generalize perform right rightState = result' at hended ⊢
  obtain ⟨failure | value, leftAfter⟩ := result <;>
    obtain ⟨failure' | other, rightAfter⟩ := result'
  · exact Or.inl ⟨hended.2, Except.error.inj hended.1⟩
  · cases hended.1
  · cases hended.1
  · exact ⟨hended.2, Except.ok.inj hended.1⟩

end Lockstep

end SshKnock.Fallible
