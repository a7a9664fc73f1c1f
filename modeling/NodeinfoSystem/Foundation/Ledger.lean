import NodeinfoSystem.Foundation.Holdings
import NodeinfoSystem.Foundation.Procedure
import Mathlib.Data.Finset.Card

/-!
# What a run holds and what it has lost

A process whose steps are programs is related to a transition system that knows
nothing of resources. Some of what a process holds belongs to its state. The rest is
lost: nothing in the state leads to it, and no step will give it back.

If every step does what the system does, and loses as much as an account of the system
says, then a run of the process does what the run of the system does, and has lost the
sum of the accounts.
-/

namespace NodeinfoSystem.Foundation

universe u v

/-- What belongs to a state, and next to it so many lost resources. -/
def Leaves {Kind Process : Type u} [DecidableEq Kind]
    (Owns : Process → Finset (Resource Kind) → Prop) (kind : Kind) (lost : ℕ) (state : Process)
    (left : Finset (Resource Kind)) : Prop :=
  ∃ own gone, left = own ∪ gone ∧ Disjoint own gone ∧ Owns state own ∧ gone.card = lost ∧
    ∀ resource ∈ gone, resource.kind = kind

/-- The sum of an account over the steps of a run. -/
def TransitionSystem.total {State : Type u} {Action : Type v}
    (system : TransitionSystem State Action) (account : State → Action → ℕ) :
    State → List Action → ℕ
  | _, [] => 0
  | state, action :: actions =>
      match system.step state action with
      | none => 0
      | some next => account state action + system.total account next actions

/-- The state of a procedure, in its loop or after it. -/
def Status.state {Exit : Type u} {State : Type v} : Status Exit State → State
  | .waiting state => state
  | .returned _ state => state

@[simp]
theorem Status.state_check {Exit : Type u} {State : Type v} (exit : Exit) (code : ℤ)
    (state : State) : (check exit code state).state = state := by
  unfold check
  split <;> rfl

def Status.map {Exit : Type u} {State : Type v} {Other : Type*} (f : State → Other) :
    Status Exit State → Status Exit Other
  | .waiting state => .waiting (f state)
  | .returned exit state => .returned exit (f state)

@[simp]
theorem Status.state_map {Exit : Type u} {State : Type v} {Other : Type*} (f : State → Other)
    (status : Status Exit State) : (status.map f).state = f status.state := by
  cases status <;> rfl

/-- The next part of a round, unless the procedure has returned. -/
def Status.proceed {Kind Exit State : Type u} (rest : State → Using Kind (Status Exit State))
    (status : Status Exit State) : Using Kind (Status Exit State) :=
  match status with
  | .waiting state => rest state
  | .returned exit state => return .returned exit state

/-- A step of the loop of a procedure, where a round is a program. -/
def Status.advance {Kind Exit State : Type u} {Input : Type v}
    (round : Input → State → Using Kind (Status Exit State)) (status : Status Exit State)
    (input : Input) : Using Kind (Status Exit State) :=
  match status with
  | .waiting state => round input state
  | .returned _ _ => stuck

section Runs

variable {Kind Process : Type u} {Action Input : Type*} {Model : Type v} [DecidableEq Kind]
  {system : TransitionSystem Model Input} {account : Model → Input → ℕ}
  {step : Process → Action → Using Kind Process} {model : Process → Model} {view : Action → Input}
  {Owns : Process → Finset (Resource Kind) → Prop} {kind : Kind}

/--
The actions of the process may say more than those of the system. By induction on the
actions; what a step has lost is not given to the rest of the run.
-/
theorem meets_foldlM
    (meets : ∀ state action next mine, Owns state mine →
      system.step (model state) (view action) = some next →
        Meets mine (step state action) fun after left =>
          model after = next ∧ Leaves Owns kind (account (model state) (view action)) after left)
    {actions : List Action} {start : Process} {final : Model} {mine : Finset (Resource Kind)}
    (owns : Owns start mine)
    (ran : system.runFrom (model start) (actions.map view) = some final) :
    Meets mine (actions.foldlM step start) fun last left =>
      model last = final ∧
        Leaves Owns kind (system.total account (model start) (actions.map view)) last left := by
  induction actions generalizing start mine with
  | nil =>
      apply meets_pure
      exact ⟨Option.some.inj ran, mine, ∅, by simp, by simp, owns, rfl, by simp⟩
  | cons action actions ih =>
      rcases (system.runFrom_cons_eq_some).mp ran with ⟨next, stepped, rest⟩
      rw [List.foldlM_cons]
      apply (meets start action next mine owns stepped).bind
      rintro after left ⟨rfl, own, gone, rfl, disjoint, afterOwns, gone_card, gone_kind⟩
      apply ((ih afterOwns rest).frame disjoint).imp
      rintro last _ ⟨_, rfl, apart, last_eq, kept, lost, rfl, kept_lost, lastOwns, lost_card,
        lost_kind⟩
      rw [Finset.disjoint_union_left] at apart
      refine ⟨last_eq, kept, lost ∪ gone, Finset.union_assoc kept lost gone, ?_, lastOwns, ?_, ?_⟩
      · exact Finset.disjoint_union_right.mpr ⟨kept_lost, apart.1⟩
      · rw [Finset.card_union_of_disjoint apart.2, lost_card, gone_card]
        simp only [List.map_cons, TransitionSystem.total, stepped]
        exact Nat.add_comm _ _
      · intro resource resource_mem
        rcases Finset.mem_union.mp resource_mem with later | earlier
        · exact lost_kind resource later
        · exact gone_kind resource earlier

end Runs

/-- An account that looks at the actions only. -/
theorem TransitionSystem.total_eq_countP {State : Type u} {Action : Type v}
    {system : TransitionSystem State Action} {counted : Action → Bool} {state final : State}
    {actions : List Action} (ran : system.runFrom state actions = some final) :
    system.total (fun _ action => if counted action then 1 else 0) state actions =
      actions.countP counted := by
  induction actions generalizing state with
  | nil => rfl
  | cons action actions ih =>
      rcases (system.runFrom_cons_eq_some).mp ran with ⟨next, stepped, rest⟩
      simp only [TransitionSystem.total, stepped]
      rw [ih rest, List.countP_cons, Nat.add_comm]

end NodeinfoSystem.Foundation
