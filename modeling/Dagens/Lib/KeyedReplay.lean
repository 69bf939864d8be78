import Mathlib

/-!
# Replaying events that are routed by key

Every event concerns one key and moves that key's value by a partial step.
Replaying a whole history then succeeds exactly when, for every key, the
history restricted to that key replays on its own. Interleavings of events of
different keys are therefore irrelevant to whether a history is accepted.
-/

namespace Dagens.Lib.KeyedReplay

open List Option

variable {Key Value Event : Type} [DecidableEq Key]
variable (key : Event → Key) (step : Value → Event → Option Value)

def replayOne : Value → List Event → Option Value
  | value, [] => some value
  | value, event :: rest =>
    match step value event with
    | some next => replayOne next rest
    | none => none

def replay : (Key → Value) → List Event → Option (Key → Value)
  | values, [] => some values
  | values, event :: rest =>
    match step (values (key event)) event with
    | some next => replay (Function.update values (key event) next) rest
    | none => none

def concerns (target : Key) (event : Event) : Bool := decide (key event = target)

theorem replay_one_append (value : Value) (events : List Event) (event : Event) :
    replayOne step value (events ++ [event]) =
      (replayOne step value events).bind fun after => step after event := by
  induction events generalizing value with
  | nil =>
    simp only [nil_append, replayOne, bind_some]
    cases step value event <;> rfl
  | cons first _ ih =>
    simp only [cons_append, replayOne]
    cases step value first with
    | none => rfl
    | some next => exact ih next

theorem replay_some_iff (values after : Key → Value) (events : List Event) :
    replay key step values events = some after ↔
      ∀ target, replayOne step (values target) (events.filter (concerns key target)) =
        some (after target) := by
  induction events generalizing values with
  | nil =>
    simp only [replay, Option.some.injEq, filter_nil, replayOne]
    exact ⟨fun same target => congrFun same target, funext⟩
  | cons event rest ih =>
    have other (target : Key) (different : key event ≠ target) :
        (event :: rest).filter (concerns key target) = rest.filter (concerns key target) := by
      simp [concerns, different]
    have own : (event :: rest).filter (concerns key (key event)) =
        event :: rest.filter (concerns key (key event)) := by
      simp [concerns]
    simp only [replay]
    cases moved : step (values (key event)) event with
    | none =>
      constructor
      · intro impossible
        cases impossible
      · intro all
        have failed := all (key event)
        rw [own] at failed
        simp [replayOne, moved] at failed
    | some =>
      simp only [ih]
      refine forall_congr' fun target => ?_
      by_cases same : key event = target
      · subst same
        rw [own]
        simp [replayOne, moved]
      · rw [other target same, Function.update_of_ne (Ne.symm same)]

theorem replay_is_some_iff (values : Key → Value) (events : List Event) :
    (replay key step values events).isSome ↔
      ∀ target, (replayOne step (values target) (events.filter (concerns key target))).isSome := by
  constructor
  · intro accepted target
    obtain ⟨after, same⟩ := isSome_iff_exists.mp accepted
    rw [(replay_some_iff key step values after events).mp same target]
    rfl
  · intro accepted
    have each (target : Key) := isSome_iff_exists.mp (accepted target)
    choose after same using each
    rw [(replay_some_iff key step values after events).mpr same]
    rfl

theorem replay_congr (values : Key → Value) {first second : List Event}
    (same : ∀ target, first.filter (concerns key target) = second.filter (concerns key target)) :
    replay key step values first = replay key step values second := by
  refine Option.ext fun after => ?_
  rw [replay_some_iff, replay_some_iff]
  exact forall_congr' fun target => by rw [same target]

end Dagens.Lib.KeyedReplay
