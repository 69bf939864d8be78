import Mathlib

/-!
# Exclusive windows in an event history

Events are tagged with the owner they belong to. An opening event starts the
owner's window, a closing event ends it. When windows only ever open while none
is open, every window is closed before the next one, by whomever, opens.
-/

namespace Dagens.Lib.ExclusiveWindows

open List

variable {Owner Event : Type} [DecidableEq Owner] (opens closes : Event → Bool)

def windowAfter (owner : Owner) (current : Bool) (entry : Owner × Event) : Bool :=
  if entry.1 = owner then opens entry.2 || (current && !closes entry.2) else current

def windowOpen (history : List (Owner × Event)) (owner : Owner) : Bool :=
  history.foldl (windowAfter opens closes owner) false

theorem window_open_snoc (history : List (Owner × Event)) (entry : Owner × Event) (owner : Owner) :
    windowOpen opens closes (history ++ [entry]) owner =
      windowAfter opens closes owner (windowOpen opens closes history owner) entry := by
  simp [windowOpen]

theorem closed_by_event (before middle : List (Owner × Event)) (owner : Owner) (event : Event)
    (opening : opens event = true)
    (closed : windowOpen opens closes (before ++ (owner, event) :: middle) owner = false) :
    ∃ closing, (owner, closing) ∈ middle ∧ closes closing = true := by
  induction middle using List.reverseRecOn with
  | nil => simp [window_open_snoc, windowAfter, opening] at closed
  | append_singleton middle last ih =>
    rw [show before ++ (owner, event) :: (middle ++ [last]) =
      (before ++ (owner, event) :: middle) ++ [last] by simp, window_open_snoc] at closed
    by_cases own : last.1 = owner
    · simp only [windowAfter, if_pos own, Bool.or_eq_false_iff, Bool.and_eq_false_iff] at closed
      rcases closed.2 with earlier | closing
      · obtain ⟨closing, member, closes⟩ := ih earlier
        exact ⟨closing, mem_append_left _ member, closes⟩
      · exact ⟨last.2, by simp [← own], by simpa using closing⟩
    · rw [windowAfter, if_neg own] at closed
      obtain ⟨closing, member, closes⟩ := ih closed
      exact ⟨closing, mem_append_left _ member, closes⟩

/-- A window opens only while no window is open. -/
def OpensWhenFree (history : List (Owner × Event)) : Prop :=
  ∀ before owner event later, history = before ++ (owner, event) :: later →
    opens event = true → ∀ other, windowOpen opens closes before other = false

theorem opens_when_free_nil : OpensWhenFree opens closes ([] : List (Owner × Event)) := by
  intro _ _ _ _ split
  simp at split

variable {history : List (Owner × Event)}

theorem opens_when_free_snoc (entry : Owner × Event) (free : OpensWhenFree opens closes history)
    (opening : opens entry.2 = true → ∀ other, windowOpen opens closes history other = false) :
    OpensWhenFree opens closes (history ++ [entry]) := by
  intro before owner event later split isOpening
  rcases eq_nil_or_concat later with rfl | ⟨earlier, last, rfl⟩
  · obtain ⟨rfl, same⟩ := append_inj' split rfl
    rw [List.cons.injEq] at same
    exact opening (by rw [same.1]; exact isOpening)
  · have shifted : history ++ [entry] = (before ++ (owner, event) :: earlier) ++ [last] := by
      simpa using split
    obtain ⟨rfl, _⟩ := append_inj' shifted rfl
    exact free before owner event earlier rfl isOpening

theorem closed_before_next {before middle later : List (Owner × Event)} {first second : Owner}
    {opened reopened : Event} (free : OpensWhenFree opens closes history)
    (split : history = before ++ (first, opened) :: (middle ++ (second, reopened) :: later))
    (opening : opens opened = true) (reopening : opens reopened = true) :
    ∃ closing, (first, closing) ∈ middle ∧ closes closing = true := by
  have shifted : history = (before ++ (first, opened) :: middle) ++ (second, reopened) :: later := by
    simpa using split
  exact closed_by_event opens closes before middle first opened opening
    (free _ second reopened later shifted reopening first)

end Dagens.Lib.ExclusiveWindows
