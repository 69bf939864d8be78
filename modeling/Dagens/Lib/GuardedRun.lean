import Mathlib

/-!
# Guarded runs of a labelled transition function

A system is a partial step function on states and actions. A guard is a
condition on the state before a step together with the action taken there.
`Reaches` collects the states of all runs whose steps meet the guard, so one
induction principle serves every invariant of every system of this shape.
-/

namespace Dagens.Lib.GuardedRun

variable {State Action : Type}

/-- Take the actions in order, stopping as soon as one of them is not enabled. -/
def run (step : State → Action → Option State) : State → List Action → Option State
  | state, [] => some state
  | state, action :: rest =>
    match step state action with
    | some next => run step next rest
    | none => none

variable {step : State → Action → Option State} {state : State}

theorem run_cons {final : State} {action : Action}
    {rest : List Action} (ran : run step state (action :: rest) = some final) :
    ∃ next, step state action = some next ∧ run step next rest = some final := by
  simp only [run] at ran
  split at ran
  · rename_i next taken
    exact ⟨next, taken, ran⟩
  · cases ran

/-- States reached from `init` by steps that all meet `guard`. -/
inductive Reaches (step : State → Action → Option State)
    (guard : State → Action → Prop) (init : State → Prop) : State → Prop where
  | start {state : State} (initial : init state) : Reaches step guard init state
  | next {state after : State} {action : Action}
      (prior : Reaches step guard init state) (allowed : guard state action)
      (taken : step state action = some after) : Reaches step guard init after

variable {guard : State → Action → Prop} {init : State → Prop}

theorem reaches_invariant {Inv : State → Prop} (initially : ∀ state, init state → Inv state)
    (preserved : ∀ state action after, Inv state → guard state action →
      step state action = some after → Inv after)
    {state : State} (reached : Reaches step guard init state) : Inv state := by
  induction reached with
  | start initial => exact initially _ initial
  | next _ allowed taken ih => exact preserved _ _ _ ih allowed taken

def Allowed (step : State → Action → Option State) (guard : State → Action → Prop) :
    State → List Action → Prop
  | _, [] => True
  | state, action :: rest =>
    guard state action ∧
      match step state action with
      | some next => Allowed step guard next rest
      | none => True

theorem allowed_of_always (always : ∀ state action, guard state action)
    (state : State) (actions : List Action) : Allowed step guard state actions := by
  induction actions generalizing state with
  | nil => trivial
  | cons action _ ih =>
    refine ⟨always state action, ?_⟩
    cases step state action with
    | none => trivial
    | some next => exact ih next

instance decidableAllowed (step : State → Action → Option State)
    (guard : State → Action → Prop) [decideGuard : ∀ state action, Decidable (guard state action)] :
    ∀ state actions, Decidable (Allowed step guard state actions)
  | _, [] => isTrue trivial
  | state, action :: rest =>
    match decideGuard state action, taken : step state action with
    | isFalse refused, _ => isFalse fun allowed => refused allowed.1
    | isTrue met, none => isTrue ⟨met, by rw [taken]; trivial⟩
    | isTrue met, some next =>
      match decidableAllowed step guard next rest with
      | isTrue rest => isTrue ⟨met, by rw [taken]; exact rest⟩
      | isFalse refused => isFalse fun allowed => refused (by
          have later := allowed.2
          rw [taken] at later
          exact later)

theorem reaches_of_run {origin : State} (reached : Reaches step guard init origin)
    (actions : List Action) (allowed : Allowed step guard origin actions)
    (ran : run step origin actions = some state) :
    Reaches step guard init state := by
  induction actions generalizing origin with
  | nil =>
    simp only [run, Option.some.injEq] at ran
    exact ran ▸ reached
  | cons _ _ ih =>
    obtain ⟨_, taken, ranRest⟩ := run_cons ran
    obtain ⟨met, later⟩ := allowed
    rw [taken] at later
    exact ih (.next reached met taken) later ranRest

end Dagens.Lib.GuardedRun
