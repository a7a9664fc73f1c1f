import NodeinfoSystem.Foundation.Transition
import Mathlib.Data.Int.Notation

/-!
# Procedures that may return from their loop

A procedure waits for an input, works on it, and waits again, unless it returns on
the way. `andThen` puts pieces of a round together, and `Satisfies` is a
postcondition with one part for a procedure that goes on and one for a procedure
that has returned. `loop_satisfies` is the rule for the loop: its invariant may
speak of the inputs that are still to come.
-/

namespace NodeinfoSystem.Foundation

universe u v w

/-- Where a procedure is: in its loop, or returned. -/
inductive Status (Exit : Type u) (State : Type v) where
  | waiting (state : State)
  | returned (exit : Exit) (state : State)

namespace Status

variable {Exit : Type u} {State : Type v} {Input : Type w}

/-- Go on with the rest of the round, unless the procedure has returned. -/
def andThen (status : Status Exit State) (rest : State → Status Exit State) :
    Status Exit State :=
  match status with
  | .waiting state => rest state
  | .returned exit state => .returned exit state

/-- Return if the code of a call is negative. -/
def check (exit : Exit) (code : ℤ) (state : State) : Status Exit State :=
  if code < 0 then .returned exit state else .waiting state

/-- What holds if the procedure goes on, and what holds if it has returned. -/
def Satisfies (waits : State → Prop) (returns : Exit → State → Prop) : Status Exit State → Prop
  | .waiting state => waits state
  | .returned exit state => returns exit state

variable {waits middle : State → Prop} {returns : Exit → State → Prop}

theorem Satisfies.andThen {status : Status Exit State} {rest : State → Status Exit State}
    (first : status.Satisfies middle returns)
    (second : ∀ state, middle state → (rest state).Satisfies waits returns) :
    (status.andThen rest).Satisfies waits returns := by
  cases status with
  | waiting state => exact second state first
  | returned exit state => exact first

theorem Satisfies.imp {status : Status Exit State} {returnsOther : Exit → State → Prop}
    (satisfies : status.Satisfies middle returnsOther)
    (goesOn : ∀ state, middle state → waits state)
    (ended : ∀ exit state, returnsOther exit state → returns exit state) :
    status.Satisfies waits returns := by
  cases status with
  | waiting state => exact goesOn state satisfies
  | returned exit state => exact ended exit state satisfies

theorem Satisfies.of_never_returns {status : Status Exit State}
    (satisfies : status.Satisfies waits fun _ _ => False) : status.Satisfies waits returns := by
  apply satisfies.imp
  · intro _ holds
    exact holds
  · intro _ _ impossible
    contradiction

theorem satisfies_check {exit : Exit} {code : ℤ} {state : State}
    (goesOn : ¬code < 0 → waits state) (fails : code < 0 → returns exit state) :
    (check exit code state).Satisfies waits returns := by
  unfold check
  split
  · next negative => exact fails negative
  · next success => exact goesOn success

/-- The loop of a procedure; a procedure that has returned takes no step. -/
def loop (round : Input → State → Status Exit State) (start : State) :
    TransitionSystem (Status Exit State) Input where
  initial := .waiting start
  step status input :=
    match status with
    | .waiting state => some (round input state)
    | .returned _ _ => none

variable {round : Input → State → Status Exit State} {start : State}

theorem runFrom_returned {exit : Exit} {state : State} {inputs : List Input}
    {final : Status Exit State}
    (ran : (loop round start).runFrom (.returned exit state) inputs = some final) :
    final = .returned exit state := by
  cases inputs with
  | nil => exact (Option.some.inj ran).symm
  | cons input inputs =>
      rcases (TransitionSystem.runFrom_cons_eq_some _).mp ran with ⟨next, stepped, -⟩
      contradiction

/-- The status after some inputs; a procedure that has returned does not look at the rest. -/
def feed (round : Input → State → Status Exit State) : List Input → State → Status Exit State
  | [], state => .waiting state
  | input :: inputs, state => (round input state).andThen (feed round inputs)

theorem feed_of_runFrom {inputs : List Input} {state : State} {final : Status Exit State}
    (ran : (loop round start).runFrom (.waiting state) inputs = some final) :
    feed round inputs state = final := by
  induction inputs generalizing state with
  | nil => exact Option.some.inj ran
  | cons input inputs ih =>
      rcases (TransitionSystem.runFrom_cons_eq_some _).mp ran with ⟨next, stepped, rest⟩
      have next_eq : round input state = next := Option.some.inj stepped
      rw [feed, next_eq]
      cases next with
      | waiting middle => exact ih rest
      | returned exit last => exact (runFrom_returned rest).symm

/-- By induction on the inputs, of which the invariant knows those that remain. -/
theorem feed_satisfies {invariant : List Input → State → Prop}
    (kept : ∀ input rest state, invariant (input :: rest) state →
      (round input state).Satisfies (invariant rest) returns)
    {inputs : List Input} {state : State} (holds : invariant inputs state) :
    (feed round inputs state).Satisfies (invariant []) returns := by
  induction inputs generalizing state with
  | nil => exact holds
  | cons input inputs ih =>
      apply (kept input inputs state holds).andThen
      intro next next_holds
      exact ih next_holds

theorem loop_satisfies (invariant : List Input → State → Prop)
    (kept : ∀ input rest state, invariant (input :: rest) state →
      (round input state).Satisfies (invariant rest) returns)
    {inputs : List Input} {final : Status Exit State}
    (ran : (loop round start).run inputs = some final) (holds : invariant inputs start) :
    final.Satisfies (invariant []) returns := by
  rw [← feed_of_runFrom ran]
  exact feed_satisfies kept holds

/-- The rule for an invariant that does not look at the inputs to come. -/
theorem loop_invariant {invariant : State → Prop}
    (kept : ∀ input state, invariant state → (round input state).Satisfies invariant returns)
    {inputs : List Input} {final : Status Exit State}
    (ran : (loop round start).run inputs = some final) (holds : invariant start) :
    final.Satisfies invariant returns :=
  loop_satisfies (fun _ => invariant) (fun input _ => kept input) ran holds

/-- A loop none of whose rounds returns goes through all its inputs. -/
theorem exists_waiting (invariant : List Input → State → Prop)
    (kept : ∀ input rest state, invariant (input :: rest) state →
      (round input state).Satisfies (invariant rest) fun _ _ => False)
    {inputs : List Input} {state : State} (holds : invariant inputs state) :
    ∃ last, (loop round start).runFrom (.waiting state) inputs = some (.waiting last) := by
  induction inputs generalizing state with
  | nil => exact ⟨state, rfl⟩
  | cons input inputs ih =>
      have next_holds := kept input inputs state holds
      cases stepped : round input state with
      | waiting middle =>
          rw [stepped] at next_holds
          rcases ih next_holds with ⟨last, ran⟩
          refine ⟨last, (TransitionSystem.runFrom_cons_eq_some _).mpr ⟨.waiting middle, ?_, ran⟩⟩
          exact congrArg some stepped
      | returned exit middle =>
          rw [stepped] at next_holds
          contradiction

end Status

end NodeinfoSystem.Foundation
