import Dagens.Lib.GuardedRun

/-!
# Runs that remember the states they came through

A statement about some earlier moment of a run needs the earlier states. A history
is a state together with the ones before it, newest first.
-/

namespace Dagens.Lib.Histories

open GuardedRun

variable {State Action : Type}

structure History (State : Type) where
  past : List State
  now : State

def History.states (history : History State) : List State := history.now :: history.past

def recordStep (step : State → Action → Option State) (history : History State)
    (action : Action) : Option (History State) :=
  (step history.now action).map fun next => ⟨history.states, next⟩

def Begins (init : State → Prop) (history : History State) : Prop :=
  history.past = [] ∧ init history.now

variable {history : History State}

theorem record_step {step : State → Action → Option State} {after : History State} {action : Action}
    (taken : recordStep step history action = some after) :
    after.past = history.states ∧ step history.now action = some after.now := by
  obtain ⟨_, stepped, rfl⟩ := Option.map_eq_some_iff.mp taken
  exact ⟨rfl, stepped⟩

theorem history_invariant {step : State → Action → Option State}
    {guard : History State → Action → Prop} {init : State → Prop} {Inv : List State → State → Prop}
    (initially : ∀ state, init state → Inv [] state)
    (preserved : ∀ past state action after, Inv past state → guard ⟨past, state⟩ action → step state
      action = some after → Inv (state :: past) after)
    (reached : Reaches (recordStep step) guard (Begins init) history) :
    Inv history.past history.now := by
  induction reached with
  | start begins =>
    rename_i start
    obtain ⟨past, now⟩ := start
    obtain ⟨rfl, begun⟩ := begins
    exact initially now begun
  | next _ met taken held =>
    obtain ⟨past, stepped⟩ := record_step taken
    rw [past]
    exact preserved _ _ _ _ held met stepped

end Dagens.Lib.Histories
