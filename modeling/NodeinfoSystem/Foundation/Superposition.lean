import NodeinfoSystem.Foundation.Transition

/-!
# Data on top of a transition system

Superposition adds data to a system without changing what the system may do: a step
of the whole is a step of the base together with an update of the data. The update
reads the state the base leaves and an input of its own, and it may refuse a step.
So what holds in every reachable state of the base holds of the whole as well.

A history is data that is only recorded: it sees both states of a step, and refuses
none.
-/

namespace NodeinfoSystem.Foundation.TransitionSystem

universe u v w x

variable {State : Type u} {Action : Type v} {Data : Type w} {Input : Type x}
  {base : TransitionSystem State Action} {start : Data}
  {update : State → Action → Input → Data → Option Data}

/-- The base system with data that every step may read and update. -/
def superpose (base : TransitionSystem State Action) (start : Data)
    (update : State → Action → Input → Data → Option Data) :
    TransitionSystem (State × Data) (Action × Input) where
  initial := (base.initial, start)
  step before action :=
    match base.step before.1 action.1, update before.1 action.1 action.2 before.2 with
    | some next, some data => some (next, data)
    | _, _ => none

theorem superpose_step_eq_some {before after : State × Data} {action : Action × Input} :
    (base.superpose start update).step before action = some after ↔
      base.step before.1 action.1 = some after.1 ∧
        update before.1 action.1 action.2 before.2 = some after.2 := by
  simp only [superpose]
  constructor
  · intro stepped
    split at stepped
    · next next data base_eq data_eq =>
        simp only [Option.some.injEq] at stepped
        subst after
        exact ⟨base_eq, data_eq⟩
    · contradiction
  · rintro ⟨base_eq, data_eq⟩
    simp [base_eq, data_eq]

/-- An invariant of the base is one of the whole. -/
theorem Inductive.superpose {allowed : State → Action → Prop} {invariant : State → Prop}
    {permitted : State × Data → Action × Input → Prop} (holds : base.Inductive allowed invariant)
    (weaker : ∀ state action, permitted state action → allowed state.1 action.1) :
    (base.superpose start update).Inductive permitted fun state => invariant state.1 where
  initial := holds.initial
  preserved stepped permits invariant :=
    holds.preserved (superpose_step_eq_some.mp stepped).1 (weaker _ _ permits) invariant

/-! ## Histories -/

section History

variable {record : State → Action → State → Data → Data}

/-- The base system with a record of its run. -/
def observe (base : TransitionSystem State Action) (start : Data)
    (record : State → Action → State → Data → Data) : TransitionSystem (State × Data) Action where
  initial := (base.initial, start)
  step before action :=
    (base.step before.1 action).map fun next => (next, record before.1 action next before.2)

theorem observe_step_eq_some {before after : State × Data} {action : Action} :
    (base.observe start record).step before action = some after ↔
      base.step before.1 action = some after.1 ∧
        record before.1 action after.1 before.2 = after.2 := by
  rcases after with ⟨next, data⟩
  simp only [observe, Option.map_eq_some_iff, Prod.mk.injEq]
  constructor
  · rintro ⟨_, stepped, rfl, data_eq⟩
    exact ⟨stepped, data_eq⟩
  · rintro ⟨stepped, data_eq⟩
    exact ⟨next, stepped, rfl, data_eq⟩

theorem Inductive.observe {allowed : State → Action → Prop} {invariant : State → Prop}
    (holds : base.Inductive allowed invariant) :
    (base.observe start record).Inductive (fun state action => allowed state.1 action)
      fun state => invariant state.1 where
  initial := holds.initial
  preserved stepped permitted invariant :=
    holds.preserved (observe_step_eq_some.mp stepped).1 permitted invariant

end History

end NodeinfoSystem.Foundation.TransitionSystem
