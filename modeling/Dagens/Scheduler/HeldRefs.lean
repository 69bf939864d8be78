import Dagens.Scheduler.TableRefs

/-!
# The objects that threads hold on to

Calls of `executeJob`, resumes that are about to make one, and reconcile passes
hold references to job objects. From any process with nothing in progress,
whatever its store holds, those references point to objects, and an object
keeps its id for as long as the process runs.
-/

namespace Dagens.Scheduler.HeldRefs

open Lifecycle GoSupport Replay Transitions Reconcile Operations Machine MachineMoves Wiring
  TableRefs Option List

variable {Input : Type} [GoRuntime Input]

def jobIDAt (sched : Scheduler Input) (ref : Nat) : Option String :=
  (sched.objects ref).map (·.id)

/-- The objects whose id decides which job a thread executes or condemns. -/
def heldRefs : Thread Input → List Nat
  | .resume _ _ (.authorizing ref) => [ref]
  | .resume _ _ (.resetting ref) => [ref]
  | .entering ref => [ref]
  | .exec exec => [exec.ref]
  | .pass pass => passRefs pass.pc
  | _ => []

/-- The heap is in order, reads belong to the job they were made for, and the
references that threads hold point to objects. -/
structure Rooted (machine : Machine Input) : Prop where
  wired : Wired machine.sched
  own : ∀ jobID replayed, Carries machine (.reading jobID replayed) →
    replayed.job.jobID = jobID
  held : ∀ pid thread ref, threadOf machine pid = some thread → ref ∈ heldRefs thread →
    (jobIDAt machine.sched ref).isSome

/-- Objects stay, with their ids. -/
def IDsKept (before after : Scheduler Input) : Prop :=
  ∀ ref jobID, jobIDAt before ref = some jobID → jobIDAt after ref = some jobID

variable {sched after : Scheduler Input} {ref : Nat} {jobID : String} {later : Thread Input}
  {machine : Machine Input}

theorem move_ids_kept {access : Access} (wired : Wired sched) (move : SchedMove sched access after)
    : IDsKept sched after := by
  intro _ _ before
  obtain ⟨_, found, rfl⟩ := map_eq_some_iff.mp before
  obtain ⟨_, foundLater, kept⟩ := move_keeps_objects wired move found
  simp [jobIDAt, foundLater, kept.id]

section

omit [GoRuntime Input]

variable {before : Scheduler Input}

theorem IDsKept.back (kept : IDsKept before after) (known : (jobIDAt before ref).isSome)
    (later : jobIDAt after ref = some jobID) :
    jobIDAt before ref = some jobID := by
  obtain ⟨earlier, isEarlier⟩ := isSome_iff_exists.mp known
  have same := kept ref earlier isEarlier
  rw [later, Option.some.injEq] at same
  rw [isEarlier, same]

theorem IDsKept.known (kept : IDsKept before after) (known : (jobIDAt before ref).isSome) :
    (jobIDAt after ref).isSome := by
  obtain ⟨jobID, isID⟩ := isSome_iff_exists.mp known
  rw [kept ref jobID isID]
  rfl

theorem entry_id (wired : Wired sched) (entry : sched.jobs jobID = some ref) :
    jobIDAt sched ref = some jobID := by
  obtain ⟨_, found, id⟩ := wired.entries jobID ref entry
  simp [jobIDAt, found, id]

theorem known_of_lifecycle {state : JobLifecycleState} (here : lifecycleOf sched ref = some state) :
    (jobIDAt sched ref).isSome := by
  obtain ⟨_, found, _⟩ := bind_eq_some_iff.mp here
  simp [jobIDAt, found]

theorem known_of_executable (executable : isExecutableDequeuedJob sched ref = true) :
    (jobIDAt sched ref).isSome := by
  unfold isExecutableDequeuedJob at executable
  split at executable
  · cases executable
  · rename_i job found
    simp [jobIDAt, found]

theorem enter_id (wired : Wired sched) (ref : Nat) :
    jobIDAt (enterJob sched ref).1 (enterJob sched ref).2 = jobIDAt sched ref := by
  unfold enterJob
  cases found : sched.objects ref with
  | none => rfl
  | some job =>
    dsimp only
    cases entry : sched.jobs job.id with
    | some =>
      rw [entry_id wired entry]
      simp [jobIDAt, found]
    | none => rfl

end

theorem resume_roots (jobID : String) (context : List (String × GoRuntime.Value Input))
    (pc : ResumePC) (oracle : Oracle)
    (isLater : (resumeStep sched jobID context pc oracle).2 = some later)
    (member : ref ∈ heldRefs later) :
    ref ∈ heldRefs (.resume jobID context pc) ∨ (jobIDAt sched ref).isSome := by
  cases pc with
    simp only [resumeStep] at isLater
  | lookup =>
    split at isLater
    · cases isLater
      cases member
    · obtain ⟨replayed, _, rfl⟩ := map_eq_some_iff.mp isLater
      cases member
  | hydrating | installing =>
    cases isLater
    cases member
  | checking =>
    split at isLater
    · rename_i waiting
      cases isLater
      obtain rfl := mem_singleton.mp member
      exact .inr (known_of_lifecycle waiting)
    · split_ifs at isLater
      cases isLater
      cases member
  | reading =>
    obtain ⟨replayed, _, rfl⟩ := map_eq_some_iff.mp isLater
    cases member
  | deciding =>
    split_ifs at isLater with waiting
    cases isLater
    obtain rfl := mem_singleton.mp member
    exact .inr (known_of_lifecycle waiting)
  | authorizing =>
    split_ifs at isLater <;> cases isLater <;> exact .inl member
  | resetting =>
    cases isLater
    exact .inl member

theorem thread_roots (wired : Wired sched) {thread : Thread Input} {event : Event} {now : Time}
    {result : Outcome Input} (kept : IDsKept sched result.sched) (rewired : Wired result.sched)
    (stepped : threadStep sched thread event now = some result)
    (isLater : result.thread = some later) (member : ref ∈ heldRefs later)
    (held : ∀ ref ∈ heldRefs thread, (jobIDAt sched ref).isSome) :
    (jobIDAt result.sched ref).isSome := by
  cases thread with
  | submit =>
    cases event <;> cases stepped
    obtain ⟨_, _, rfl⟩ := map_eq_some_iff.mp isLater
    cases member
  | loop pc =>
    cases event <;> cases stepped
    cases pc with
    | rechecking =>
      simp only [outcome, loopStep] at isLater kept ⊢
      split_ifs at isLater with executable
      cases isLater
      obtain rfl := mem_singleton.mp member
      exact known_of_executable executable
    | checking | authorizing =>
      simp only [outcome, loopStep] at isLater
      split_ifs at isLater
      cases isLater
      cases member
    | reading =>
      simp only [outcome, loopStep] at isLater
      cases isLater
      split at member <;> cases member
    | _ =>
      cases isLater
      cases member
  | resume jobID context pc =>
    cases event <;> cases stepped
    rcases resume_roots jobID context pc _ isLater member with old | known
    · exact kept.known (held ref old)
    · exact kept.known known
  | entering entered =>
    cases event <;> cases stepped
    cases isLater
    obtain rfl := mem_singleton.mp member
    show (jobIDAt (enterJob sched entered).1 (enterJob sched entered).2).isSome
    rw [enter_id wired entered]
    exact held entered (mem_singleton_self _)
  | exec =>
    obtain ⟨_, pc, rfl⟩ := exec_stays stepped isLater
    exact kept.known (held ref member)
  | pass pass =>
    cases event <;> cases stepped
    · obtain ⟨_, isPC, rfl⟩ := map_eq_some_iff.mp isLater
      rcases pass_entries sched pass _ now isPC member with old | ⟨_, entry⟩
      · exact kept.known (held ref old)
      · rw [entry_id rewired entry]
        rfl
    · cases isLater
      exact held ref member

theorem rooted_step {after : Machine Input} {action : Action Input} (rooted : Rooted machine)
    (taken : machineStep machine action = some after) :
    Rooted after := by
  obtain ⟨move, items⟩ := machine_move rooted.own taken
  have rewired := move_wired rooted.wired move
  have kept := move_ids_kept rooted.wired move
  refine ⟨rewired, fun jobID replayed carried => ?_, fun other found ref lives member => ?_⟩
  · rcases items _ carried with old | acquired
    · exact rooted.own jobID replayed old
    · cases acquired with
      | read _ _ _ replays => exact (replay_job_state_ok replays).2.1
  · cases action with
    | tick =>
      cases taken
      exact rooted.held other found ref lives member
    | submit | dequeue =>
      obtain ⟨_, _, rfl⟩ := map_eq_some_iff.mp taken
      rcases thread_of_spawn rfl lives with old | rfl
      · exact kept.known (rooted.held other found ref old member)
      · cases member
    | resume | reconcile =>
      cases taken
      rcases thread_of_spawn rfl lives with old | rfl
      · exact rooted.held other found ref old member
      · cases member
    | thread pid =>
      obtain ⟨thread, wasLive, stepped⟩ := bind_eq_some_iff.mp taken
      obtain ⟨_, moved, same⟩ := bind_eq_some_iff.mp stepped
      cases same
      rcases thread_of_resumed lives with ⟨_, isLater⟩ | ⟨_, old⟩
      · exact thread_roots rooted.wired kept rewired moved isLater member
          (fun ref => rooted.held pid thread ref wasLive)
      · exact kept.known (rooted.held other found ref old member)

/-- A process with nothing in progress, over any store: just started, or
recovered from one. -/
structure Idle (machine : Machine Input) : Prop where
  wired : Wired machine.sched
  idle : machine.threads = []

theorem nobody_lives (idle : Idle machine) (pid : Nat) (thread : Thread Input) :
    threadOf machine pid ≠ some thread := by
  intro lives
  simp [threadOf, idle.idle] at lives

theorem idle_rooted (idle : Idle machine) : Rooted machine := by
  refine ⟨idle.wired, ?_, ?_⟩
  · rintro _ _ ⟨pid, thread, lives, _⟩
    exact absurd lives (nobody_lives idle pid thread)
  · intro pid thread _ lives _
    exact absurd lives (nobody_lives idle pid thread)

theorem any_thread {check : Thread Input → Bool} :
    (machine.threads.any fun thread => thread.any check) = true ↔
      ∃ pid thread, threadOf machine pid = some thread ∧ check thread = true := by
  simp only [List.any_eq_true, Option.any_eq_true, threadOf]
  constructor
  · rintro ⟨_, member, thread, rfl, holds⟩
    obtain ⟨pid, atPid⟩ := mem_iff_getElem?.mp member
    exact ⟨pid, thread, by rw [atPid]; rfl, holds⟩
  · rintro ⟨_, thread, lives, holds⟩
    have atPid := join_eq_some_iff.mp lives
    exact ⟨some thread, mem_of_getElem? atPid, thread, rfl, holds⟩

variable {oracle : Oracle}

theorem loop_goes_on {pc : LoopPC} (isLater : (loopStep sched pc oracle).2 = some later) :
    (∃ next, later = .loop next) ∨ ∃ ref, pc = .rechecking ref ∧ later = .entering ref := by
  cases pc with
  | rechecking ref =>
    simp only [loopStep] at isLater
    split_ifs at isLater
    cases isLater
    exact .inr ⟨ref, rfl, rfl⟩
  | checking | authorizing =>
    simp only [loopStep] at isLater
    split_ifs at isLater
    cases isLater
    exact .inl ⟨_, rfl⟩
  | _ =>
    cases isLater
    exact .inl ⟨_, rfl⟩

theorem resume_goes_on {context : List (String × GoRuntime.Value Input)} {pc : ResumePC}
    (isLater : (resumeStep sched jobID context pc oracle).2 = some later) :
    (∃ next, later = .resume jobID context next) ∨
      ∃ ref, (pc = .authorizing ref ∨ pc = .resetting ref) ∧ later = .entering ref := by
  cases pc with
    simp only [resumeStep] at isLater
  | lookup =>
    split at isLater
    · cases isLater
      exact .inl ⟨_, rfl⟩
    · obtain ⟨_, _, rfl⟩ := map_eq_some_iff.mp isLater
      exact .inl ⟨_, rfl⟩
  | checking =>
    split at isLater
    · cases isLater
      exact .inl ⟨_, rfl⟩
    · split_ifs at isLater
      cases isLater
      exact .inl ⟨_, rfl⟩
  | reading =>
    obtain ⟨_, _, rfl⟩ := map_eq_some_iff.mp isLater
    exact .inl ⟨_, rfl⟩
  | deciding =>
    split_ifs at isLater
    cases isLater
    exact .inl ⟨_, rfl⟩
  | authorizing ref =>
    split_ifs at isLater <;> cases isLater
    · exact .inr ⟨ref, .inl rfl, rfl⟩
    · exact .inl ⟨_, rfl⟩
  | resetting ref =>
    cases isLater
    exact .inr ⟨ref, .inr rfl, rfl⟩
  | _ =>
    cases isLater
    exact .inl ⟨_, rfl⟩

end Dagens.Scheduler.HeldRefs
