import Dagens.Lib.GuardedRun

/-!
# Runs that come to an end

A measure that every guarded step lowers bounds the length of all runs, and a
run that cannot be continued has then finished what it had to do. `EndsIn` says
both, so it speaks about what a system does and not only about what it avoids.
-/

namespace Dagens.Lib.BoundedRun

open GuardedRun

variable {State Action : Type} (step : State → Action → Option State)
  (guard : State → Action → Prop)

/-- No step that meets the guard is possible. -/
def Stuck (state : State) : Prop := ∀ action, guard state action → step state action = none

/-- All guarded runs are bounded, and those that cannot go on end well. -/
structure EndsIn (start : State) (good : State → Prop) : Prop where
  bounded : ∃ bound, ∀ actions final, Allowed step guard start actions →
    run step start actions = some final → actions.length ≤ bound
  complete : ∀ actions final, Allowed step guard start actions →
    run step start actions = some final → Stuck step guard final → good final

variable {step guard} {start : State}

section Measure

variable {Inv : State → Prop} {measure : State → Nat}
  (lowers : ∀ state action after, Inv state → guard state action →
    step state action = some after → Inv after ∧ measure after < measure state)

include lowers

theorem run_bounded (actions : List Action) {final : State} (initial : Inv start)
    (allowed : Allowed step guard start actions) (ran : run step start actions = some final) :
    Inv final ∧ measure final + actions.length ≤ measure start := by
  induction actions generalizing start with
  | nil =>
    cases ran
    exact ⟨initial, le_rfl⟩
  | cons action _ ih =>
    obtain ⟨next, taken, later⟩ := run_cons ran
    obtain ⟨met, allowedLater⟩ := allowed
    rw [taken] at allowedLater
    obtain ⟨kept, _⟩ := lowers start action next initial met taken
    obtain ⟨reached, _⟩ := ih kept allowedLater later
    exact ⟨reached, by simp only [List.length_cons]; omega⟩

theorem ends_in {good : State → Prop}
    (stops : ∀ state, Inv state → Stuck step guard state → good state) (initial : Inv start) :
    EndsIn step guard start good where
  bounded := ⟨measure start, fun actions final allowed ran => by
    have bound := (run_bounded lowers actions initial allowed ran).2
    omega⟩
  complete := fun actions final allowed ran stuck =>
    stops final (run_bounded lowers actions initial allowed ran).1 stuck

theorem stuck_run_exists (initial : Inv start) :
    ∃ actions final, Allowed step guard start actions ∧ run step start actions = some final ∧
      Stuck step guard final := by
  induction size : measure start using Nat.strong_induction_on generalizing start with
  | _ _ ih =>
    by_cases stuck : Stuck step guard start
    · exact ⟨[], start, trivial, rfl, stuck⟩
    · simp only [Stuck, not_forall] at stuck
      obtain ⟨action, met, enabled⟩ := stuck
      obtain ⟨next, taken⟩ := Option.ne_none_iff_exists'.mp enabled
      obtain ⟨kept, less⟩ := lowers start action next initial met taken
      obtain ⟨actions, final, allowed, ran, done⟩ := ih _ (size ▸ less) kept rfl
      refine ⟨action :: actions, final, ⟨met, ?_⟩, ?_, done⟩
      · rw [taken]
        exact allowed
      · rw [run, taken]
        exact ran

end Measure

theorem allowed_mono {wider : State → Action → Prop}
    (implies : ∀ state action, guard state action → wider state action) (actions : List Action)
    (allowed : Allowed step guard start actions) :
    Allowed step wider start actions := by
  induction actions generalizing start with
  | nil => trivial
  | cons action _ ih =>
    obtain ⟨met, later⟩ := allowed
    refine ⟨implies start action met, ?_⟩
    cases taken : step start action with
    | none => trivial
    | some =>
      rw [taken] at later
      exact ih later

end Dagens.Lib.BoundedRun
