import Mathlib.Logic.Basic
import Mathlib.Data.List.Induction
import Mathlib.Tactic.Common

/-!
# Transition systems with computed steps

A system has one initial state and a partial step function: `step state action`
is the state after `action`, or `none` when the action is not enabled in
`state`. Runs are folds of the step function, so a concrete run can be
evaluated. Reachability is relative to a condition on the steps taken, which is
how an environment assumption about a whole run is expressed: every step of the
run has to meet the condition in the state it is taken from.
-/

namespace NodeinfoSystem.Foundation

universe u v

/-- A labelled transition system whose steps are computed. -/
structure TransitionSystem (State : Type u) (Action : Type v) where
  initial : State
  /-- The state after an action, or `none` when the action is not enabled. -/
  step : State → Action → Option State

namespace TransitionSystem

variable {State : Type u} {Action : Type v} (system : TransitionSystem State Action)

def runFrom : State → List Action → Option State
  | state, [] => some state
  | state, action :: actions =>
      match system.step state action with
      | none => none
      | some next => runFrom next actions

def run (actions : List Action) : Option State :=
  system.runFrom system.initial actions

@[simp]
theorem runFrom_nil (state : State) : system.runFrom state [] = some state := rfl

theorem runFrom_cons_eq_some {state final : State} {action : Action} {actions : List Action} :
    system.runFrom state (action :: actions) = some final ↔
      ∃ next, system.step state action = some next ∧
        system.runFrom next actions = some final := by
  simp only [runFrom]
  cases system.step state action <;> simp

theorem runFrom_append_eq_some {state final : State} {first second : List Action} :
    system.runFrom state (first ++ second) = some final ↔
      ∃ middle, system.runFrom state first = some middle ∧
        system.runFrom middle second = some final := by
  induction first generalizing state with
  | nil => simp
  | cons action actions ih =>
      simp only [List.cons_append, runFrom_cons_eq_some, ih]
      constructor
      · rintro ⟨next, stepped, middle, ran, rest⟩
        exact ⟨middle, ⟨next, stepped, ran⟩, rest⟩
      · rintro ⟨middle, ⟨next, stepped, ran⟩, rest⟩
        exact ⟨next, stepped, middle, ran, rest⟩

/-- A property kept by every step holds at the end of a run that starts in it. -/
theorem runFrom_preserves {invariant : State → Prop}
    (preserved : ∀ {before action after}, system.step before action = some after →
      invariant before → invariant after)
    {state final : State} {actions : List Action}
    (ran : system.runFrom state actions = some final) (holds : invariant state) :
    invariant final := by
  induction actions generalizing state with
  | nil =>
      simp only [runFrom_nil, Option.some.injEq] at ran
      exact ran ▸ holds
  | cons action actions ih =>
      rcases (system.runFrom_cons_eq_some).mp ran with ⟨next, stepped, rest⟩
      exact ih rest (preserved stepped holds)

/--
Like `runFrom_preserves`, for steps whose actions satisfy a condition of their
own.
-/
theorem runFrom_preserves_of_forall {invariant : State → Prop} {condition : Action → Prop}
    (preserved : ∀ {before action after}, system.step before action = some after →
      condition action → invariant before → invariant after)
    {state final : State} {actions : List Action}
    (ran : system.runFrom state actions = some final)
    (conditions : ∀ action ∈ actions, condition action) (holds : invariant state) :
    invariant final := by
  induction actions generalizing state with
  | nil =>
      simp only [runFrom_nil, Option.some.injEq] at ran
      exact ran ▸ holds
  | cons action actions ih =>
      rcases (system.runFrom_cons_eq_some).mp ran with ⟨next, stepped, rest⟩
      exact ih rest (fun other other_mem => conditions other (by simp [other_mem]))
        (preserved stepped (conditions action (by simp)) holds)

/-- A step of a run: the state it is taken from, its action, and the state it leads to. -/
def Takes (actions : List Action) (before : State) (action : Action) (after : State) : Prop :=
  ∃ earlier later, actions = earlier ++ action :: later ∧ system.run earlier = some before ∧
    system.step before action = some after

variable {system} in
theorem Takes.append {actions more : List Action} {before after : State} {action : Action}
    (takes : system.Takes actions before action after) :
    system.Takes (actions ++ more) before action after := by
  rcases takes with ⟨earlier, later, rfl, ran, stepped⟩
  exact ⟨earlier, later ++ more, by simp, ran, stepped⟩

/--
Refinement by a model whose every step has a result: what relates the states before a step
of the run to the model relates those after it to the next state of the model.
-/
theorem run_refines {Model : Type*} {represents : State → Model → Prop}
    {apply : Model → Action → Model} {actions : List Action}
    (simulates : ∀ before action after model, system.Takes actions before action after →
      represents before model → represents after (apply model action))
    {final : State} (ran : system.run actions = some final) (model : Model)
    (initial : represents system.initial model) :
    represents final (actions.foldl apply model) := by
  induction actions using List.reverseRecOn generalizing final with
  | nil =>
      simp only [run, runFrom_nil, Option.some.injEq] at ran
      exact ran ▸ initial
  | append_singleton actions action ih =>
      rcases (system.runFrom_append_eq_some).mp ran with ⟨middle, toMiddle, lastStep⟩
      rcases (system.runFrom_cons_eq_some).mp lastStep with ⟨next, stepped, ended⟩
      obtain rfl : next = final := Option.some.inj ended
      rw [List.foldl_append, List.foldl_cons, List.foldl_nil]
      apply simulates middle action next _ ⟨actions, [], rfl, toMiddle, stepped⟩
      apply ih _ toMiddle
      intro before other after model takes
      exact simulates before other after model takes.append

/-- Like `runFrom_preserves`, where the invariant is only kept by the steps of this run. -/
theorem run_preserves_of_takes {invariant : State → Prop} {actions : List Action}
    (preserved : ∀ before action after, system.Takes actions before action after →
      invariant before → invariant after)
    {final : State} (ran : system.run actions = some final) (initial : invariant system.initial) :
    invariant final := by
  -- An invariant relates the states to a model with one state only.
  have refines := @run_refines _ _ system Unit (fun state _ => invariant state) (fun _ _ => ())
    actions
  exact refines (fun before action after _ => preserved before action after) ran () initial

/-- A run has a result when no step of it can get stuck. -/
theorem exists_runFrom {invariant : State → Prop} {condition : Action → Prop}
    (progress : ∀ {before action}, condition action → invariant before →
      ∃ after, system.step before action = some after ∧ invariant after)
    {state : State} {actions : List Action}
    (conditions : ∀ action ∈ actions, condition action) (holds : invariant state) :
    ∃ final, system.runFrom state actions = some final ∧ invariant final := by
  induction actions generalizing state with
  | nil => exact ⟨state, rfl, holds⟩
  | cons action actions ih =>
      rcases progress (conditions action (by simp)) holds with ⟨next, stepped, next_holds⟩
      rcases ih (fun other other_mem => conditions other (by simp [other_mem])) next_holds with
        ⟨final, ran, final_holds⟩
      exact ⟨final, (system.runFrom_cons_eq_some).mpr ⟨next, stepped, ran⟩, final_holds⟩

/--
The states of the runs whose every step meets `allowed` in the state it is taken
from.
-/
inductive ReachableWith (allowed : State → Action → Prop) : State → Prop
  | initial : ReachableWith allowed system.initial
  | step {before after : State} {action : Action}
      (reached : ReachableWith allowed before) (permitted : allowed before action)
      (stepped : system.step before action = some after) : ReachableWith allowed after

/-- The state after a sequence of actions that each meet a condition where they are taken. -/
def runWithin (allowed : State → Action → Prop) [∀ state action, Decidable (allowed state action)] :
    State → List Action → Option State
  | state, [] => some state
  | state, action :: actions =>
      if allowed state action then
        match system.step state action with
        | none => none
        | some next => runWithin allowed next actions
      else none

abbrev Reachable : State → Prop :=
  system.ReachableWith fun _ _ => True

/-- An invariant of the runs whose steps meet a condition. -/
structure Inductive (allowed : State → Action → Prop) (invariant : State → Prop) : Prop where
  initial : invariant system.initial
  preserved : ∀ {before action after}, system.step before action = some after →
    allowed before action → invariant before → invariant after

variable {system}

theorem Inductive.holds {allowed : State → Action → Prop} {invariant : State → Prop}
    (inductive_ : system.Inductive allowed invariant) {state : State}
    (reached : system.ReachableWith allowed state) : invariant state := by
  induction reached with
  | initial => exact inductive_.initial
  | step _ permitted stepped ih => exact inductive_.preserved stepped permitted ih

/--
Two invariants can be proved one after the other: the second may use the first
in the state a step is taken from.
-/
theorem Inductive.and {allowed : State → Action → Prop} {first second : State → Prop}
    (base : system.Inductive allowed first)
    (initial : second system.initial)
    (preserved : ∀ {before action after}, system.step before action = some after →
      allowed before action → first before → second before → second after) :
    system.Inductive allowed fun state => first state ∧ second state where
  initial := ⟨base.initial, initial⟩
  preserved stepped permitted holds :=
    ⟨base.preserved stepped permitted holds.1, preserved stepped permitted holds.1 holds.2⟩

theorem ReachableWith.runFrom {allowed : State → Action → Prop} {state final : State}
    (reached : system.ReachableWith allowed state) {actions : List Action}
    (permitted : ∀ before action, action ∈ actions → allowed before action)
    (ran : system.runFrom state actions = some final) : system.ReachableWith allowed final := by
  induction actions generalizing state with
  | nil =>
      simp only [runFrom_nil, Option.some.injEq] at ran
      exact ran ▸ reached
  | cons action actions ih =>
      rcases (system.runFrom_cons_eq_some).mp ran with ⟨next, stepped, rest⟩
      exact ih (.step reached (permitted _ _ (by simp)) stepped)
        (fun before other other_mem => permitted before other (by simp [other_mem])) rest

theorem ReachableWith.runWithin {allowed : State → Action → Prop}
    [∀ state action, Decidable (allowed state action)] {state final : State}
    (reached : system.ReachableWith allowed state) {actions : List Action}
    (ran : system.runWithin allowed state actions = some final) :
    system.ReachableWith allowed final := by
  induction actions generalizing state with
  | nil =>
      simp only [TransitionSystem.runWithin, Option.some.injEq] at ran
      exact ran ▸ reached
  | cons action actions ih =>
      simp only [TransitionSystem.runWithin] at ran
      split at ran
      · next permitted =>
          split at ran
          · contradiction
          · next next stepped => exact ih (.step reached permitted stepped) ran
      · contradiction

theorem reachable_of_run {actions : List Action} {final : State}
    (ran : system.run actions = some final) : system.Reachable final :=
  ReachableWith.runFrom .initial (fun _ _ _ => trivial) ran

end TransitionSystem

end NodeinfoSystem.Foundation
