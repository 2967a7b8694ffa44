import Mathlib.Data.List.Basic

/-!
# Journals

A journal lists what has been done, in order, and only grows at its end.  Some
events are allowed only after certain others, and some call for another event
later on.
-/

namespace SshKnock.Journal

variable {Event : Type*}

/-- Every event is allowed after those before it. -/
def Justified (Allowed : List Event → Event → Prop) (journal : List Event) :
    Prop :=
  ∀ before event after, journal = before ++ event :: after →
    Allowed before event

/-- What every event calls for follows it, or is still owed. -/
def Settled (answer? : Event → Option Event) (owed journal : List Event) :
    Prop :=
  ∀ before event after, journal = before ++ event :: after →
    ∀ answer, answer? event = some answer → answer ∈ after ∨ answer ∈ owed

/-- An event of a grown journal is the new one, or the new one comes later. -/
theorem event_of_grown {journal before after : List Event}
    {event latest : Event}
    (hsplit : journal ++ [latest] = before ++ event :: after) :
    journal = before ∧ latest = event ∧ after = [] ∨
      ∃ between, journal = before ++ event :: between ∧
        after = between ++ [latest] := by
  rcases List.eq_nil_or_concat after with rfl | ⟨between, last, rfl⟩
  · obtain ⟨hjournal, hlatest⟩ := List.append_inj' hsplit rfl
    exact Or.inl ⟨hjournal, List.singleton_inj.mp hlatest, rfl⟩
  · rw [List.concat_eq_append, ← List.cons_append,
      ← List.append_assoc] at hsplit
    obtain ⟨hjournal, hlatest⟩ := List.append_inj' hsplit rfl
    obtain rfl := List.singleton_inj.mp hlatest
    exact Or.inr ⟨between, hjournal, List.concat_eq_append⟩

variable {Allowed : List Event → Event → Prop}
  {answer? : Event → Option Event} {journal owed : List Event}

theorem justified_nil : Justified Allowed [] := by
  intro before event after hsplit
  cases before <;> cases hsplit

theorem Justified.append (hjournal : Justified Allowed journal)
    {event : Event} (hevent : Allowed journal event) :
    Justified Allowed (journal ++ [event]) := by
  intro before other after hsplit
  rcases event_of_grown hsplit with
    ⟨rfl, rfl, -⟩ | ⟨between, hjournalSplit, -⟩
  · exact hevent
  · exact hjournal before other between hjournalSplit

theorem settled_nil : Settled answer? owed [] := by
  intro before event after hsplit
  cases before <;> cases hsplit

/-- The new event may settle something owed and may call for something new. -/
theorem Settled.append (hjournal : Settled answer? owed journal) {event : Event}
    {still : List Event}
    (howed : ∀ answer ∈ owed, answer = event ∨ answer ∈ still)
    (hnew : ∀ answer, answer? event = some answer → answer ∈ still) :
    Settled answer? still (journal ++ [event]) := by
  intro before other after hsplit answer hanswer
  rcases event_of_grown hsplit with
    ⟨-, rfl, -⟩ | ⟨between, hjournalSplit, rfl⟩
  · exact Or.inr (hnew answer hanswer)
  · rcases hjournal before other between hjournalSplit answer hanswer with
      hbetween | hstill
    · exact Or.inl (List.mem_append_left _ hbetween)
    · rcases howed answer hstill with rfl | hstill
      · exact Or.inl (List.mem_append_right _ (List.mem_singleton_self _))
      · exact Or.inr hstill

/-- With nothing owed, everything called for has happened. -/
theorem Settled.answered (hjournal : Settled answer? [] journal)
    {before after : List Event} {event answer : Event}
    (hsplit : journal = before ++ event :: after)
    (hanswer : answer? event = some answer) : answer ∈ after :=
  (hjournal before event after hsplit answer hanswer).resolve_right
    List.not_mem_nil

end SshKnock.Journal
