import Mathlib

/-!
# Restarts of a supervisor

`handleFailureMessage` counts the failures of a window that starts with the
supervisor, and later with the first failure after the window before. The
guarantee one expects is about every interval of that length, whenever it starts.
It can fail only where a window opens: the old window and the new one are counted
apart.
-/

namespace Dagens.Actor.RestartWindow

open List

structure Supervisor where
  restartLimit : Nat
  restartWindow : Nat
  restartCount : Nat
  lastRestart : Nat

/-- A failure message, and whether `restartChild` can replace its child: the
payload is an address with a configuration, and the system spawns the actor. -/
structure Failure where
  time : Nat
  restartable : Bool
  deriving DecidableEq

def newSupervisor (maxRestarts window now : Nat) : Supervisor :=
  ⟨maxRestarts, window, 0, now⟩

/-- The next state, and whether the child is restarted. -/
def handleFailureMessage (s : Supervisor) (failure : Failure) : Supervisor × Bool :=
  if failure.time - s.lastRestart ≤ s.restartWindow then
    let s := { s with restartCount := s.restartCount + 1 }
    if s.restartLimit < s.restartCount then (s, false) else (s, failure.restartable)
  else ({ s with restartCount := 1, lastRestart := failure.time }, failure.restartable)

/-- The failures whose children are restarted. -/
def restarted (s : Supervisor) : List Failure → List Failure
  | [] => []
  | failure :: rest =>
    let (after, restarts) := handleFailureMessage s failure
    if restarts then failure :: restarted after rest else restarted after rest

/-- Those from `start` on, for a time of the given length. -/
def within (failures : List Failure) (start length : Nat) : Nat :=
  failures.countP fun failure => start ≤ failure.time && failure.time ≤ start + length

def restartsWithin (s : Supervisor) (failures : List Failure) (start length : Nat) : Nat :=
  within (restarted s failures) start length

/-- The failures divided by their times alone: those of the window that opened at
`opened`, and those of each later one, which opens with its first failure. -/
def windows (window : Nat) : Nat → List Failure → List Failure × List (List Failure)
  | _, [] => ([], [])
  | opened, failure :: rest =>
    if failure.time - opened ≤ window then
      (failure :: (windows window opened rest).1, (windows window opened rest).2)
    else
      ([], (failure :: (windows window failure.time rest).1) ::
        (windows window failure.time rest).2)

/-- The restartable failures among the first `count` ones. -/
def kept (count : Nat) (failures : List Failure) : List Failure :=
  (failures.take count).filter (·.restartable)

/-- Of a later window the first failure is restarted whatever the limit. -/
def keptWindows (limit : Nat) (divided : List Failure × List (List Failure)) :
    List (List Failure) :=
  kept limit divided.1 :: divided.2.map (kept (max limit 1))

section Windows

variable {window opened : Nat} {failures : List Failure}

theorem restarted_eq (s : Supervisor) (failures : List Failure) :
    restarted s failures =
      kept (s.restartLimit - s.restartCount)
          (windows s.restartWindow s.lastRestart failures).1 ++
        ((windows s.restartWindow s.lastRestart failures).2.map
          (kept (max s.restartLimit 1))).flatten := by
  induction failures generalizing s with
  | nil => simp [restarted, windows, kept]
  | cons failure rest ih =>
    by_cases inside : failure.time - s.lastRestart ≤ s.restartWindow
    · have later := ih { s with restartCount := s.restartCount + 1 }
      by_cases full : s.restartLimit < s.restartCount + 1
      · have none : s.restartLimit - s.restartCount = 0 := by omega
        have still : s.restartLimit - (s.restartCount + 1) = 0 := by omega
        simp only [still] at later
        simp [restarted, handleFailureMessage, inside, full, windows, later, none, kept]
      · obtain ⟨left, counts⟩ : ∃ left, s.restartLimit - s.restartCount = left + 1 :=
          ⟨s.restartLimit - s.restartCount - 1, by omega⟩
        have next : s.restartLimit - (s.restartCount + 1) = left := by omega
        simp only [next] at later
        cases restarts : failure.restartable <;>
          simp [restarted, handleFailureMessage, inside, full, windows, later, counts, kept,
            restarts]
    · have later := ih { s with restartCount := 1, lastRestart := failure.time }
      have first : max s.restartLimit 1 = s.restartLimit - 1 + 1 := by omega
      cases restarts : failure.restartable <;>
        simp [restarted, handleFailureMessage, inside, windows, later, first, kept, restarts]

theorem windows_flatten (window opened : Nat) (failures : List Failure) :
    (windows window opened failures).1 ++ (windows window opened failures).2.flatten =
      failures := by
  induction failures generalizing opened with
  | nil => rfl
  | cons failure rest ih =>
    simp only [windows]
    split_ifs
    · simpa using ih opened
    · simpa using ih failure.time

/-- What is in windows that are not adjacent is more than a window apart. -/
def Apart (window : Nat) : List (List Failure) → Prop
  | first :: second :: later => (∀ failure ∈ first, ∀ group ∈ later, ∀ other ∈ group,
      failure.time + window < other.time) ∧ Apart window (second :: later)
  | _ => True

theorem later_beyond (sorted : failures.Pairwise (·.time ≤ ·.time)) :
    ∀ group ∈ (windows window opened failures).2, ∀ other ∈ group,
      opened + window < other.time := by
  induction failures generalizing opened with
  | nil => simp [windows]
  | cons failure rest ih =>
    obtain ⟨first, sorted⟩ := pairwise_cons.mp sorted
    simp only [windows]
    split_ifs with inside
    · exact ih sorted
    · intro group member other inGroup
      have all : other ∈ failure :: rest := by
        rw [← windows_flatten window failure.time rest, ← cons_append, mem_append]
        rcases mem_cons.mp member with rfl | later
        · exact .inl inGroup
        · exact .inr (mem_flatten.mpr ⟨group, later, inGroup⟩)
      rcases mem_cons.mp all with rfl | inRest
      · omega
      · have := first other inRest
        omega

theorem windows_apart (opened : Nat) (sorted : failures.Pairwise (·.time ≤ ·.time)) :
    (∀ time, (∀ failure ∈ failures, time ≤ failure.time) →
      ∀ group ∈ (windows window opened failures).2.tail, ∀ other ∈ group,
        time + window < other.time) ∧
    Apart window ((windows window opened failures).1 :: (windows window opened failures).2) := by
  induction failures generalizing opened with
  | nil => simp [windows, Apart]
  | cons failure rest ih =>
    obtain ⟨first, sorted⟩ := pairwise_cons.mp sorted
    have leads : ∀ {later : List (List Failure)} {current : List Failure},
        (∀ group ∈ later.tail, ∀ other ∈ group, failure.time + window < other.time) →
        Apart window (current :: later) → Apart window ((failure :: current) :: later) := by
      intro later current beyond apart
      cases later with
      | nil => trivial
      | cons next later =>
        refine ⟨?_, apart.2⟩
        rw [forall_mem_cons]
        exact ⟨beyond, apart.1⟩
    simp only [windows]
    split_ifs
    · obtain ⟨beyond, apart⟩ := ih opened sorted
      exact ⟨fun time early => beyond time fun other member =>
        early other (mem_cons_of_mem _ member), leads (beyond failure.time first) apart⟩
    · obtain ⟨beyond, apart⟩ := ih failure.time sorted
      refine ⟨fun time early group member other inGroup => ?_, ?_⟩
      · exact (Nat.add_le_add_right (early failure mem_cons_self) window).trans_lt
          (later_beyond sorted group member other inGroup)
      · exact ⟨by simp, leads (beyond failure.time first) apart⟩

theorem kept_sublist (count : Nat) (failures : List Failure) :
    List.Sublist (kept count failures) failures :=
  filter_sublist.trans (take_sublist _ _)

theorem kept_apart (limit : Nat) {current : List Failure} {later : List (List Failure)}
    (apart : Apart window (current :: later)) (count : Nat) :
    Apart window (kept count current :: later.map (kept limit)) := by
  induction later generalizing current count with
  | nil => trivial
  | cons next later ih =>
    refine ⟨?_, ih apart.2 limit⟩
    simp only [forall_mem_map]
    intro failure member group inLater other inGroup
    exact apart.1 failure ((kept_sublist _ _).subset member) group inLater other
      ((kept_sublist _ _).subset inGroup)

/-- An interval does not reach beyond two adjacent windows, so it is enough to bound
those. -/
theorem flatten_bounded {limit start : Nat} {current : List Failure}
    {later : List (List Failure)} (apart : Apart window (current :: later))
    (chain : IsChain (fun old new => within old start window + within new start window ≤ limit)
      (current :: later)) (alone : within current start window ≤ limit) :
    within (current :: later).flatten start window ≤ limit := by
  induction later generalizing current with
  | nil => simpa using alone
  | cons next later ih =>
    obtain ⟨pair, rest⟩ := isChain_cons_cons.mp chain
    have split : within (current :: next :: later).flatten start window =
        within current start window + within (next :: later).flatten start window := by
      simp [within]
    rw [split]
    by_cases none : within current start window = 0
    · rw [none, Nat.zero_add]
      exact ih apart.2 rest (by omega)
    · -- the interval has begun in the current window and ends before those after the next
      obtain ⟨failure, member, inside⟩ := countP_pos_iff.mp (Nat.pos_of_ne_zero none)
      rw [Bool.and_eq_true, decide_eq_true_eq, decide_eq_true_eq] at inside
      have beyond : within later.flatten start window = 0 := by
        refine countP_eq_zero.mpr fun other inLater => ?_
        obtain ⟨group, isGroup, inGroup⟩ := mem_flatten.mp inLater
        have far := apart.1 failure member group isGroup other inGroup
        simp only [Bool.and_eq_true, decide_eq_true_eq, not_and]
        omega
      have rest : within (next :: later).flatten start window =
          within next start window + within later.flatten start window := by
        simp [within]
      omega

theorem adjacent_bounded {limit : Nat} (groups : List (List Failure))
    (bounded : ∀ start, within groups.flatten start window ≤ limit) :
    IsChain (fun old new => ∀ start, within old start window + within new start window ≤ limit)
      groups := by
  induction groups with
  | nil => exact .nil
  | cons current later ih =>
    have parts : ∀ start, within (current :: later).flatten start window =
        within current start window + within later.flatten start window := by
      simp [within]
    have rest := ih fun start => by
      have := bounded start
      rw [parts] at this
      omega
    cases later with
    | nil => exact .singleton _
    | cons next later =>
      refine isChain_cons_cons.mpr ⟨fun start => ?_, rest⟩
      have := bounded start
      simp only [within, flatten_cons, countP_append] at this ⊢
      omega

end Windows

/-- Every interval has at most as many restarts as the limit says exactly if no interval
has more in two successive windows together. -/
theorem restarts_bounded_iff (limit window created : Nat) (failures : List Failure)
    (sorted : failures.Pairwise (·.time ≤ ·.time)) :
    (∀ start, restartsWithin (newSupervisor limit window created) failures start window ≤ limit) ↔
      IsChain (fun old new => ∀ start,
        within old start window + within new start window ≤ limit)
        (keptWindows limit (windows window created failures)) := by
  have all : restarted (newSupervisor limit window created) failures =
      (keptWindows limit (windows window created failures)).flatten := by
    simpa [newSupervisor, keptWindows] using restarted_eq (newSupervisor limit window created)
      failures
  unfold restartsWithin
  rw [all]
  refine ⟨adjacent_bounded _, fun chain start => ?_⟩
  have alone : within (kept limit (windows window created failures).1) start window ≤ limit :=
    countP_le_length.trans ((length_filter_le _ _).trans (length_take_le _ _))
  exact flatten_bounded (kept_apart _ (windows_apart _ sorted).2 limit)
    (chain.imp fun _ _ pair => pair start) alone

/-- Two windows with a restart each, more than a window apart; and a limit of 0 in the
first window. -/
theorem spaced_failures_bounded :
    (∀ start, restartsWithin (newSupervisor 1 10 0) [⟨3, true⟩, ⟨14, true⟩] start 10 ≤ 1) ∧
      ∀ start, restartsWithin (newSupervisor 0 10 0) [⟨3, true⟩, ⟨7, true⟩] start 10 ≤ 0 := by
  constructor
  · refine (restarts_bounded_iff 1 10 0 [⟨3, true⟩, ⟨14, true⟩] (by decide)).mpr ?_
    have divided : keptWindows 1 (windows 10 0 [⟨3, true⟩, ⟨14, true⟩]) =
        [[⟨3, true⟩], [⟨14, true⟩]] := by decide
    rw [divided]
    refine isChain_cons_cons.mpr ⟨fun start => ?_, .singleton _⟩
    simp only [within, countP_cons, countP_nil, Bool.and_eq_true, decide_eq_true_eq]
    split_ifs <;> omega
  · exact (restarts_bounded_iff 0 10 0 [⟨3, true⟩, ⟨7, true⟩] (by decide)).mpr (.singleton _)

/-- A restart at the end of a window and one that opens the next are one tick apart. -/
theorem restarts_not_bounded :
    ¬ ∀ (limit window created : Nat) (failures : List Failure), 0 < window →
      failures.Pairwise (·.time ≤ ·.time) → ∀ start,
        restartsWithin (newSupervisor limit window created) failures start window ≤ limit := by
  intro bounded
  have two := bounded 1 10 0 [⟨10, true⟩, ⟨11, true⟩] (by decide) (by decide) 10
  exact absurd two (by decide)

end Dagens.Actor.RestartWindow
