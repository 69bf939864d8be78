import Dagens.Scheduler.JobHistory

/-!
# The objects that executions and passes write to

`executeJob`, the goroutines of its tasks and the reconcile passes take the job
they record transitions for from the job table. As long as no refresh replaces
an entry, the object that such a thread points to stays the table's object.
-/

namespace Dagens.Scheduler.TableRefs

open Lifecycle GoSupport Replay Transitions StoreEffects Goroutine StageRun Reconcile Operations
  Machine MachineMoves Wiring JobHistory Function List Option

variable {Input : Type} [GoRuntime Input]

/-- A call of `executeJob` or a reconcile pass. -/
def isCall : Thread Input → Bool
  | .entering _ => true
  | .exec _ => true
  | .pass _ => true
  | _ => false

def passRefs : PassPC → List Nat
  | .examining ref _ _ _ => [ref]
  | .synthesizing ref _ _ => [ref]
  | .recordTerminal ref _ _ => [ref]
  | .queueing ref _ _ => [ref]
  | .admitting ref _ _ => [ref]
  | .condemning ref _ _ _ => [ref]
  | .deciding ref _ _ _ => [ref]
  | .forcing ref _ _ => [ref]
  | _ => []

/-- The thread may write to the job object at a reference. -/
inductive Points : Thread Input → Nat → Prop where
  | executing (exec : Exec) : Points (.exec exec) exec.ref
  | noting (exec : Exec) (stage : Nat) (run : StageRun Goroutine) (index : Nat)
      (routine : Goroutine) (ref : Nat) (todo : List (TransitionType × JobLifecycleState))
      (inStage : exec.pc = .inStage stage run)
      (running : run.workers[index]? = some (.running routine))
      (recording : routine.pc = .recordingJob ref todo) : Points (.exec exec) ref
  | reconciling (pass : Pass) (ref : Nat) (member : ref ∈ passRefs pass.pc) :
      Points (.pass pass) ref

variable {sched after : Scheduler Input} {ref : Nat} {now : Time} {thread : Thread Input}
  {event : Event}

section

omit [GoRuntime Input]

theorem table_holds_entry {jobID : String} (wired : Wired sched)
    (entry : sched.jobs jobID = some ref) : tableHolds sched ref = true := by
  obtain ⟨_, found, id⟩ := wired.entries jobID ref entry
  simp [tableHolds, found, id, entry]

theorem table_holds_in_place (place : InPlace sched after) (holds : tableHolds sched ref = true) :
    tableHolds after ref = true := by
  simp only [tableHolds, Option.all_eq_true, decide_eq_true_eq] at holds ⊢
  intro _ found
  obtain ⟨earlier, before, kept⟩ := Memory.rel_origin (place.objects _) found
  rw [place.jobs, kept.id]
  exact holds earlier before

theorem table_holds_registered {job : Job Input} (registers : Registers sched job after)
    (holds : tableHolds sched ref = true) :
    tableHolds after ref = true := by
  simp only [tableHolds, Option.all_eq_true, decide_eq_true_eq] at holds ⊢
  intro other found
  rw [registers.objects] at found
  rw [registers.jobs]
  by_cases new : ref = sched.nextRef
  · subst new
    rw [update_self, Option.some.injEq] at found
    rw [← found, update_self]
  · rw [update_of_ne new] at found
    have entry := holds other found
    have known : other.id ≠ job.id := by
      intro same
      rw [same, registers.unknown] at entry
      cases entry
    rw [update_of_ne known, entry]

end

theorem table_holds_move {access : Access} (wired : Wired sched)
    (uninstalled : ∀ jobID replayed, access ≠ .install jobID replayed)
    (move : SchedMove sched access after) (holds : tableHolds sched ref = true) :
    tableHolds after ref = true := by
  rcases move_objects wired move with
    place | ⟨_, registers⟩ | ⟨jobID, replayed, _, installs, _⟩
  · exact table_holds_in_place place holds
  · exact table_holds_registered registers holds
  · exact absurd installs (uninstalled jobID replayed)

omit [GoRuntime Input] in
theorem enter_holds (wired : Wired sched) (ref : Nat) :
    tableHolds (enterJob sched ref).1 (enterJob sched ref).2 = true := by
  unfold enterJob
  split
  · rename_i missing
    simp [tableHolds, missing]
  · rename_i job found
    split
    · rename_i existing entry
      exact table_holds_entry wired entry
    · simp [tableHolds, found]

variable {pc : PassPC} {exec : Exec} {stage : Nat} {routine : Goroutine} {answers : Answers}
  {result : Outcome Input} {later : Thread Input}

omit [GoRuntime Input] in
theorem fetch_entry (sched : Scheduler Input) (durableJob : DurableJobRecord) (reason : String)
    (todo : List DurableJobRecord) (fetched : (fetchStep sched durableJob reason todo).2 = some pc)
    (member : ref ∈ passRefs pc) :
    (fetchStep sched durableJob reason todo).1.jobs durableJob.jobID = some ref := by
  unfold fetchStep at fetched ⊢
  cases entry : sched.jobs durableJob.jobID with
  | some | none =>
    simp only [entry] at fetched ⊢
    split_ifs at fetched ⊢ <;> cases fetched
    · cases member
    · obtain rfl := mem_singleton.mp member
      first | exact entry | exact update_self ..

theorem pass_entries (sched : Scheduler Input) (pass : Pass) (oracle : Oracle) (now : Time)
    (stepped : (passStep sched pass oracle now).2 = some pc) (member : ref ∈ passRefs pc) :
    ref ∈ passRefs pass.pc ∨ ∃ jobID, (passStep sched pass oracle now).1.jobs jobID = some ref := by
  obtain ⟨_, _, current⟩ := pass
  cases current with
  | listing | recordTerminal | forcing =>
    cases stepped
    cases member
  | next todo =>
    cases todo with
    | nil => simp [passStep] at stepped
    | cons =>
      simp only [passStep, nextStep] at stepped
      split_ifs at stepped
      · split at stepped
        · cases stepped
          cases member
        · cases stepped
          split_ifs at member <;> cases member
      · split at stepped <;> cases stepped <;> cases member
  | replaying =>
    simp only [passStep, replayStep] at stepped
    split at stepped <;> split_ifs at stepped <;> cases stepped <;> cases member
  | locking _ replayed =>
    simp only [passStep, lockStep, Option.some.injEq] at stepped ⊢
    subst stepped
    split_ifs at member
    · obtain rfl := mem_singleton.mp member
      right
      unfold warmJob
      split
      · exact ⟨_, update_self ..⟩
      · rename_i ref entry
        split
        · exact ⟨_, entry⟩
        · split_ifs <;> exact ⟨_, entry⟩
    · cases member
  | examining =>
    simp only [passStep, examineStep] at stepped
    cases stepped
    left
    split_ifs at member
    · split at member <;> exact member
    · exact member
  | synthesizing | queueing | condemning =>
    cases stepped
    exact .inl member
  | admitting =>
    simp only [passStep, admitStep] at stepped
    split at stepped
    · cases stepped
      cases member
    · split_ifs at stepped <;> cases stepped <;> cases member
  | authorizing =>
    cases stepped
    split_ifs at member <;> cases member
  | fetching durableJob reason todo =>
    simp only [passStep] at stepped ⊢
    exact .inr ⟨_, fetch_entry sched durableJob reason todo stepped member⟩
  | deciding =>
    simp only [passStep] at stepped
    split_ifs at stepped <;> cases stepped
    · cases member
    · exact .inl member

theorem exec_step_opens {oracle : Oracle} {pc : Option ExecPC} {next : ExecPC}
    {run : StageRun Goroutine} (stepped : execStep sched exec oracle now = some (after, pc))
    (isNext : pc = some next) (inStage : next = .inStage stage run) : run.workers = [] := by
  subst inStage isNext
  cases atPC : exec.pc with
    simp only [execStep, atPC, Option.some.injEq, Prod.mk.injEq] at stepped
  | queueing =>
    obtain ⟨_, opened⟩ := stepped
    split_ifs at opened
  | openStage =>
    obtain ⟨_, opened⟩ := stepped
    split at opened
    · cases opened
    · split_ifs at opened
      cases opened
      rfl
  | inStage =>
    split at stepped
    · cases stepped
    · split_ifs at stepped
      simp only [Option.some.injEq, Prod.mk.injEq] at stepped
      obtain ⟨_, opened⟩ := stepped
      split at opened <;> cases opened
  | _ =>
    obtain ⟨_, opened⟩ := stepped
    cases opened

theorem goroutine_notes {task : Task Input} {progress : Progress Input}
    {todo : List (TransitionType × JobLifecycleState)}
    (move : GoroutineMove sched routine task answers now progress)
    (recording : progress.routine.pc = .recordingJob ref todo) :
    (∃ before, routine.pc = .recordingJob ref before) ∨ ∃ jobID, sched.jobs jobID = some ref := by
  cases move with
  | quiet _ _ _ control =>
    generalize routine.pc = before at control
    cases control <;> cases recording
  | retried | legacyClaim | illegalClaim | claimPrepared | claimCommitted => cases recording
  | noted _ _ entry =>
    cases recording
    exact .inr ⟨_, entry⟩
  | jobRecorded _ _ _ _ before =>
    cases recording
    exact .inl ⟨_, before⟩
  | reportPrepared _ _ _ _ _ _ _ _ phase | reportCommitted _ _ _ _ _ _ phase =>
    cases phase <;> cases recording

theorem stage_points {run worked : StageRun Goroutine} {cancelled : Bool}
    (inStage : exec.pc = .inStage stage run)
    (workers : ∀ (index : Nat) (routine : Goroutine) (ref : Nat) (todo : List (TransitionType ×
      JobLifecycleState)), worked.workers[index]? = some (.running routine) → routine.pc =
      .recordingJob ref todo → (∃ (old : Goroutine) (before : List (TransitionType ×
      JobLifecycleState)), run.workers[index]? = some (.running old) ∧ old.pc = .recordingJob ref
      before) ∨ tableHolds sched ref = true)
    (points : Points (.exec ⟨exec.ref, cancelled, .inStage stage worked⟩ : Thread Input) ref) :
    Points (.exec exec : Thread Input) ref ∨ tableHolds sched ref = true := by
  cases points with
  | executing => exact .inl (.executing exec)
  | noting _ _ _ index routine _ todo here running recording =>
    cases here
    rcases workers index routine ref todo running recording with ⟨old, before, was, noted⟩ | holds
    · exact .inl (.noting exec stage run index old ref before inStage was noted)
    · exact .inr holds

theorem work_points (wired : Wired sched) (run worked : StageRun Goroutine) (index : Nat)
    {events : List TaskEvent} (inStage : exec.pc = .inStage stage run)
    (stepped : workStep sched exec.ref stage run index answers now = some (after, worked, events))
    (points : Points (.exec { exec with pc := .inStage stage worked } : Thread Input) ref) :
    Points (.exec exec : Thread Input) ref ∨ tableHolds sched ref = true := by
  refine stage_points inStage ?_ points
  intro other routine ref todo running recording
  unfold workStep at stepped
  split at stepped
  · rename_i old task wasRunning found
    split at stepped
    · rename_i err finished
      obtain ⟨_, finishes, same⟩ := map_eq_some_iff.mp stepped
      cases same
      rw [finish_cases finishes] at running
      rcases set_workers_kept running with ⟨_, impossible⟩ | kept
      · cases err <;> cases impossible
      · exact .inl ⟨routine, todo, kept, recording⟩
    · obtain ⟨_, moved, same⟩ := map_eq_some_iff.mp stepped
      cases same
      rcases set_workers_kept running with ⟨rfl, same⟩ | kept
      · cases same
        rcases goroutine_notes (goroutine_move moved) recording with
          ⟨before, noted⟩ | ⟨_, entry⟩
        · exact .inl ⟨old, before, wasRunning, noted⟩
        · exact .inr (table_holds_entry wired entry)
      · exact .inl ⟨routine, todo, kept, recording⟩
  · cases stepped

theorem exec_points (wired : Wired sched) (stepped : execEvent sched exec event now = some result)
    (isLater : result.thread = some later) (points : Points later ref) :
    Points (.exec exec : Thread Input) ref ∨ tableHolds sched ref = true := by
  cases exec_move stepped with
  | stepped _ _ _ moved =>
    obtain ⟨_, isNext, rfl⟩ := map_eq_some_iff.mp isLater
    cases points with
    | executing => exact .inl (.executing exec)
    | noting _ _ _ _ _ _ _ here running =>
      have empty := exec_step_opens moved isNext here
      simp [empty] at running
  | cancelled =>
    cases isLater
    cases points with
    | executing => exact .inl (.executing exec)
    | noting _ stage run index routine _ todo here running recording =>
      exact .inl (.noting exec stage run index routine ref todo here running recording)
  | launched _ _ _ _ _ atStage _ launches =>
    cases isLater
    refine stage_points atStage ?_ points
    intro index routine ref todo running recording
    rcases launch_cases launches with ⟨_, ⟨_, rfl⟩ | ⟨_, rfl⟩⟩
    · exact .inl ⟨routine, todo, running, recording⟩
    · rcases append_workers_kept running with ⟨_, new⟩ | old
      · cases new
        cases recording
      · exact .inl ⟨routine, todo, old, recording⟩
  | worked stage run worked index answers _ _ atStage moved =>
    cases isLater
    exact work_points wired run worked index atStage moved points
  | reported _ _ _ _ _ atStage reports =>
    cases isLater
    refine stage_points atStage ?_ points
    intro _ routine ref todo running recording
    obtain ⟨_, _, rfl⟩ := report_cases reports
    rcases set_workers_kept running with ⟨_, impossible⟩ | old
    · cases impossible
    · exact .inl ⟨routine, todo, old, recording⟩

theorem thread_points (wired : Wired sched) (call : isCall thread = true)
    (stepped : threadStep sched thread event now = some result)
    (isLater : result.thread = some later) :
    isCall later = true ∧ ∀ ref, Points later ref →
      Points thread ref ∨ tableHolds sched ref = true ∨ tableHolds result.sched ref = true := by
  cases thread with
  | submit => cases call
  | loop => cases call
  | resume => cases call
  | entering entered =>
    cases event <;> cases stepped
    cases isLater
    refine ⟨rfl, fun ref points => ?_⟩
    cases points with
    | executing => exact .inr (.inr (enter_holds wired entered))
    | noting _ _ _ _ _ _ _ here => cases here
  | exec exec =>
    refine ⟨?_, fun ref points => ?_⟩
    · obtain ⟨_, pc, rfl⟩ := exec_stays stepped isLater
      rfl
    · rcases exec_points wired stepped isLater points with old | holds
      · exact .inl old
      · exact .inr (.inl holds)
  | pass pass =>
    cases event <;> cases stepped
    · rename_i oracle
      obtain ⟨_, isPC, rfl⟩ := map_eq_some_iff.mp isLater
      refine ⟨rfl, fun ref points => ?_⟩
      cases points with
      | reconciling _ _ member =>
        rcases pass_entries sched pass oracle now isPC member with old | ⟨_, entry⟩
        · exact .inl (.reconciling pass ref old)
        · have rewired := move_wired wired (pass_spec sched pass oracle now).move
          exact .inr (.inr (table_holds_entry rewired entry))
    · cases isLater
      refine ⟨rfl, fun ref points => ?_⟩
      cases points with
      | reconciling _ _ member => exact .inl (.reconciling pass ref member)

theorem access_points (call : isCall thread = true)
    (records : access sched thread event = .jobTransition ref) : Points thread ref := by
  cases thread with
  | submit => cases call
  | loop => cases call
  | resume => cases call
  | entering => cases event <;> cases records
  | exec exec =>
    cases event with
    | step =>
      have own : ref = exec.ref := by
        simp only [access, execAccess] at records
        split at records
        · cases records
          rfl
        · split_ifs at records
          cases records
          rfl
        · cases records
          rfl
        · cases records
          rfl
        · cases records
      rw [own]
      exact .executing exec
    | work index =>
      simp only [access, workAccess] at records
      split at records
      · rename_i stage run inStage
        split at records
        · rename_i routine running
          unfold routineAccess at records
          split at records
          · rename_i recording
            cases records
            exact .noting exec stage run index routine ref _ inStage running recording
          · split at records <;> cases records
        · cases records
      · cases records
    | launch | report | cancel | expire => cases records
  | pass pass =>
    cases event with
    | step =>
      refine .reconciling pass ref ?_
      simp only [access] at records
      cases atPC : pass.pc <;> simp only [atPC, passAccess] at records
      case recordTerminal =>
        cases records
        exact mem_singleton_self _
      case queueing =>
        split_ifs at records
        cases records
        exact mem_singleton_self _
      case deciding =>
        split_ifs at records
        cases records
        exact mem_singleton_self _
      all_goals cases records
    | work | launch | report | cancel | expire =>
      cases records

theorem call_uninstalled (call : isCall thread = true) (jobID : String)
    (replayed : ReplayedJobState) :
    access sched thread event ≠ .install jobID replayed := by
  intro installs
  have uses : accessItem (access sched thread event) = some (.reading jobID replayed) := by
    rw [installs]
    rfl
  have holds := access_holds sched thread event uses
  cases holds <;> cases call

/-- Actions that start or continue passes and continue executions. -/
def callAction : Action Input → Bool
  | .tick _ => true
  | .reconcile _ => true
  | .thread _ _ => true
  | _ => false

/-- Only executions and passes run, and they write to objects of the table. -/
structure Calls (machine : Machine Input) : Prop where
  calls : ∀ pid thread, threadOf machine pid = some thread → isCall thread = true
  table : ∀ pid thread ref, threadOf machine pid = some thread → Points thread ref →
    tableHolds machine.sched ref = true

theorem calls_step {machine after : Machine Input} {action : Action Input}
    (wired : Wired machine.sched) (calls : Calls machine) (scope : callAction action = true)
    (taken : machineStep machine action = some after)
    (kept : ∀ ref, tableHolds machine.sched ref = true → tableHolds after.sched ref = true) :
    Calls after := by
  cases action with
  | submit => cases scope
  | dequeue => cases scope
  | resume => cases scope
  | tick =>
    cases taken
    exact ⟨calls.calls, calls.table⟩
  | reconcile =>
    cases taken
    refine ⟨fun pid thread lives => ?_, fun pid thread ref lives points => ?_⟩
    · rcases thread_of_spawn rfl lives with old | rfl
      · exact calls.calls pid thread old
      · rfl
    · rcases thread_of_spawn rfl lives with old | rfl
      · exact calls.table pid thread ref old points
      · cases points with
        | reconciling _ _ member => cases member
  | thread pid =>
    obtain ⟨thread, lives, stepped⟩ := bind_eq_some_iff.mp taken
    obtain ⟨_, moved, same⟩ := bind_eq_some_iff.mp stepped
    cases same
    have call := calls.calls pid thread lives
    refine ⟨fun other found livesAfter => ?_, fun other found ref livesAfter points => ?_⟩
    · rcases thread_of_resumed livesAfter with ⟨_, isLater⟩ | ⟨_, old⟩
      · exact (thread_points wired call moved isLater).1
      · exact calls.calls other found old
    · rcases thread_of_resumed livesAfter with ⟨_, isLater⟩ | ⟨_, old⟩
      · rcases (thread_points wired call moved isLater).2 ref points with old | holds | holds
        · exact kept ref (calls.table pid thread ref lives old)
        · exact kept ref holds
        · exact holds
      · exact kept ref (calls.table other found ref old points)

end Dagens.Scheduler.TableRefs
