import Dagens.Scheduler.HeldRefs

/-!
# What an execution has executed

An execution works through the stages of one job object. As long as no
goroutine drops its error on the way to the collector, an execution that gets
past a stage has had an executor call without error for every task of it, and
one that gets to the end, for every task of the object.
-/

namespace Dagens.Scheduler.ExecutedTasks

open Lifecycle GoSupport Transitions StoreEffects Goroutine StageRun Reconcile
  Operations Machine MachineMoves Wiring HeldRefs Option List

variable {Input : Type} [GoRuntime Input]

def keyAt (sched : Scheduler Input) (ref : Nat) (position : Position) : Option TaskKey :=
  (sched.objects ref).bind fun job =>
    (taskAt job position).map fun task => ⟨job.id, task.id⟩

/-- The task at the position, if there is one, was executed without error. -/
def Executed (sched : Scheduler Input) (executed : List TaskKey) (ref : Nat)
    (position : Position) : Prop :=
  ∀ key, keyAt sched ref position = some key → key ∈ executed

variable {ref : Nat} {sched after : Scheduler Input} {executed : List TaskKey} {now : Time}
  {exec : Exec} {events : List TaskEvent} {answers : Answers} {event : Event}
  {result : Outcome Input} {position : Position}

theorem move_keys_kept {access : Access} (wired : Wired sched) (move : SchedMove sched access after)
    (known : (jobIDAt sched ref).isSome) (position : Position) :
    keyAt after ref position = keyAt sched ref position := by
  obtain ⟨job, found⟩ := isSome_iff_exists.mp (by simpa [jobIDAt] using known)
  obtain ⟨later, foundLater, kept⟩ := move_keeps_objects wired move found
  simp only [keyAt, found, foundLater, bind_some, kept.id]
  cases atTask : taskAt job position with
  | some =>
    obtain ⟨_, atLater, keptTask⟩ := Memory.rel_find (kept.tasks _) atTask
    simp [atLater, keptTask.id]
  | none =>
    cases atLater : taskAt later position with
    | none => rfl
    | some =>
      obtain ⟨_, atOld, _⟩ := Memory.rel_origin (kept.tasks _) atLater
      rw [atTask] at atOld
      cases atOld

def pastSuccess : TaskPC → Bool
  | .succeeding => true
  | .succeedPending _ => true
  | .finished none => true
  | _ => false

/-- The collector will see an error of the stage. -/
def flagged (run : StageRun Goroutine) : Bool :=
  run.selectionErr.isSome || !run.errChan.isEmpty

def WorkerDone (done : Prop) (run : StageRun Goroutine) : Worker Goroutine → Prop
  | .running routine => pastSuccess routine.pc = true → done
  | .reporting _ => True
  | .returned none => done
  | .returned (some _) => flagged run = true

structure StageDone (sched : Scheduler Input) (executed : List TaskKey) (ref stage : Nat)
    (run : StageRun Goroutine) : Prop where
  earlier : ∀ position, position.stage < stage → Executed sched executed ref position
  workers : ∀ index worker, run.workers[index]? = some worker →
    WorkerDone (Executed sched executed ref ⟨stage, index⟩) run worker

/-- What has been executed when the execution is at a position. -/
def Done (sched : Scheduler Input) (executed : List TaskKey) (ref : Nat) : ExecPC → Prop
  | .openStage stage =>
    ∀ position, position.stage < stage → Executed sched executed ref position
  | .inStage stage run => StageDone sched executed ref stage run
  | .completing => ∀ position, Executed sched executed ref position
  | .recordSuccess => ∀ position, Executed sched executed ref position
  | _ => True

variable {worker : Worker Goroutine} {pc : ExecPC} {done : Prop} {run : StageRun Goroutine}

section Growth

variable {more : List TaskKey}

section

omit [GoRuntime Input]

theorem executed_mono (keys : ∀ position, keyAt after ref position = keyAt sched ref position)
    (grown : executed ⊆ more)
    (isExecuted : Executed sched executed ref position) : Executed after more ref position := by
  intro key isKey
  rw [keys] at isKey
  exact grown (isExecuted key isKey)

theorem worker_done_mono {later : Prop}
    (implies : done → later) (isDone : WorkerDone done run worker) :
    WorkerDone later run worker := by
  cases worker with
  | running => exact fun past => implies (isDone past)
  | reporting => trivial
  | returned err =>
    cases err with
    | none => exact implies isDone
    | some => exact isDone

theorem done_mono (keys : ∀ position, keyAt after ref position = keyAt sched ref position)
    (grown : executed ⊆ more) (done : Done sched executed ref pc) :
    Done after more ref pc := by
  cases pc with
  | openStage => exact fun position below => executed_mono keys grown (done position below)
  | inStage =>
    refine ⟨fun position below => executed_mono keys grown (done.earlier position below), ?_⟩
    intro index worker here
    exact worker_done_mono (executed_mono keys grown) (done.workers index worker here)
  | completing | recordSuccess => exact fun position => executed_mono keys grown (done position)
  | _ => trivial

end

end Growth

variable {stage index : Nat}

section Stage

section

omit [GoRuntime Input]

theorem worker_done_flagged {other : StageRun Goroutine}
    (flags : flagged run = true → flagged other = true) (isDone : WorkerDone done run worker) :
    WorkerDone done other worker := by
  cases worker with
  | running => exact isDone
  | reporting => trivial
  | returned err =>
    cases err with
    | none => exact isDone
    | some => exact flags isDone

theorem stage_done_set {errChan : List GoError} (done : StageDone sched executed ref stage run)
    (flags : flagged run = true → flagged { run with errChan := errChan } = true)
    (moved : WorkerDone (Executed sched executed ref ⟨stage, index⟩) { run with errChan := errChan }
      worker) :
    StageDone sched executed ref stage
      { run with workers := run.workers.set index worker, errChan := errChan } := by
  refine ⟨done.earlier, fun other found here => ?_⟩
  rcases set_workers_kept here with ⟨rfl, rfl⟩ | old
  · exact worker_done_flagged id moved
  · exact worker_done_flagged flags (done.workers other found old)

theorem stage_done_passed {object : Stage Input} {stageID : String}
    (done : StageDone sched executed ref stage run) (here : stageOf sched ref stage = some object)
    (isJoined : joined object.tasks.length run = true) (clean : stageResult stageID run = none)
    (within : position.stage < stage + 1) : Executed sched executed ref position := by
  rcases Nat.lt_succ_iff_lt_or_eq.mp within with before | same
  · exact done.earlier position before
  · intro key isKey
    have quiet : run.selectionErr = none ∧ run.errChan = [] := by
      unfold stageResult at clean
      split at clean
      · cases clean
      · rename_i noErr
        exact ⟨noErr, by simpa using clean⟩
    simp only [joined, quiet.1, isSome_none, Bool.false_or, Bool.and_eq_true,
      decide_eq_true_eq, List.all_eq_true] at isJoined
    obtain ⟨number, index⟩ := position
    obtain rfl : number = stage := same
    obtain ⟨_, found, atKey⟩ := bind_eq_some_iff.mp isKey
    obtain ⟨_, atTask, _⟩ := map_eq_some_iff.mp atKey
    simp only [stageOf, found, bind_some] at here
    simp only [taskAt, here, bind_some] at atTask
    have inside : index < run.workers.length := by
      rw [isJoined.1]
      exact (List.getElem?_eq_some_iff.mp atTask).1
    have atIndex := List.getElem?_eq_getElem inside
    have isDone := done.workers index _ atIndex
    have returned := isJoined.2 _ (getElem_mem inside)
    revert isDone returned
    generalize run.workers[index] = worker
    intro isDone returned
    cases worker with
    | running | reporting => cases returned
    | returned err =>
      cases err with
      | none => exact isDone key isKey
      | some => simp [WorkerDone, flagged, quiet.1, quiet.2] at isDone

end

end Stage

theorem past_success_step {routine : Goroutine} {task : Task Input} {progress : Progress Input}
    (move : GoroutineMove sched routine task answers now progress)
    (past : pastSuccess progress.routine.pc = true) :
    pastSuccess routine.pc = true ∨ .returned none ∈ progress.events := by
  cases move with
  | quiet _ _ _ control =>
    generalize routine.pc = before at control ⊢
    cases control with
    | answered => exact .inr (mem_singleton_self _)
    | successSkipped | successLost => exact .inl rfl
    | _ => cases past
  | retried => cases past
  | noted => cases past
  | jobRecorded => cases past
  | legacyClaim => cases past
  | illegalClaim => cases past
  | claimPrepared => cases past
  | claimCommitted => cases past
  | reportPrepared _ _ _ _ _ _ _ _ phase atStart | reportCommitted _ _ _ _ _ _ phase atStart =>
    rw [atStart]
    cases phase <;> first | exact .inl rfl | cases past

theorem work_done {worked : StageRun Goroutine} (done : StageDone sched executed ref stage run)
    (stepped : workStep sched ref stage run index answers now = some (after, worked, events)) :
    StageDone sched (executed ++ executedKeys sched ref ⟨stage, index⟩ events) ref stage
      worked := by
  have grown : StageDone sched (executed ++ executedKeys sched ref ⟨stage, index⟩ events) ref
      stage run :=
    done_mono (fun _ => rfl) (subset_append_left _ _)
      (show Done sched executed ref (.inStage stage run) from done)
  unfold workStep at stepped
  split at stepped
  · rename_i routine task running found
    split at stepped
    · rename_i err finished
      obtain ⟨_, finishes, same⟩ := map_eq_some_iff.mp stepped
      cases same
      rw [finish_cases finishes]
      refine stage_done_set grown id ?_
      cases err with
      | none =>
        have isDone := grown.workers index _ running
        exact isDone (by rw [finished]; rfl)
      | some => trivial
    · obtain ⟨_, moved, same⟩ := map_eq_some_iff.mp stepped
      cases same
      refine stage_done_set grown id ?_
      intro past
      rcases past_success_step (goroutine_move moved) past with old | returned
      · exact grown.workers index _ running old
      · intro key isKey
        obtain ⟨_, found, atTask⟩ := bind_eq_some_iff.mp isKey
        exact mem_append_right _ (by simp [executedKeys, returned, found, atTask])
  · cases stepped

theorem exec_step_done {oracle : Oracle} (done : Done sched executed exec.ref exec.pc)
    (stepped : execStep sched exec oracle now = some (after, some pc)) :
    Done sched executed exec.ref pc := by
  obtain ⟨_, _, current⟩ := exec
  cases current with
  | begin | recordQueued | failing =>
    cases stepped
    trivial
  | queueing =>
    cases stepped
    split_ifs <;> trivial
  | starting =>
    cases stepped
    intro position below
    cases below
  | openStage stage =>
    cases stepped
    split
    · -- There is no such stage: every task lies in an earlier one.
      rename_i missing
      intro position key isKey
      refine done position ?_ key isKey
      obtain ⟨job, found, atKey⟩ := bind_eq_some_iff.mp isKey
      obtain ⟨task, atTask, _⟩ := map_eq_some_iff.mp atKey
      obtain ⟨object, atStage, _⟩ := bind_eq_some_iff.mp atTask
      simp only [stageOf, found, bind_some, List.getElem?_eq_none_iff] at missing
      have inside := (List.getElem?_eq_some_iff.mp atStage).1
      omega
    · split_ifs
      · exact ⟨done, by rintro index worker ⟨⟩⟩
      · trivial
  | inStage =>
    simp only [execStep] at stepped
    split at stepped
    · cases stepped
    · rename_i object here
      split_ifs at stepped with isJoined
      simp only [Option.some.injEq, Prod.mk.injEq] at stepped
      rw [← stepped.2]
      split
      · rename_i clean
        exact fun position within => stage_done_passed done here isJoined clean within
      · trivial
  | recordFailure | recordSuccess => simp [execStep] at stepped
  | completing =>
    cases stepped
    exact done

/-- A goroutine with an error takes the `Done` branch of its `select` only when
the collector sees an error anyway. -/
def reportsErrors (exec : Exec) : Event → Bool
  | .report _ viaDone =>
    match exec.pc with
    | .inStage _ run => !(exec.cancelled && viaDone) || flagged run
    | _ => true
  | _ => true

theorem exec_done
    (keys : ∀ position, keyAt result.sched exec.ref position = keyAt sched exec.ref position)
    (done : Done sched executed exec.ref exec.pc) (reports : reportsErrors exec event = true)
    (stepped : execEvent sched exec event now = some result) {later : Exec}
    (isLater : result.thread = some (.exec later)) :
    Done result.sched (executed ++ result.executed) later.ref later.pc := by
  have same : later.ref = exec.ref := by
    obtain ⟨cancelled, pc, isExec⟩ := exec_stays stepped isLater
    cases isExec
    rfl
  rw [same]
  refine done_mono keys (List.Subset.refl _) ?_
  cases exec_move stepped with
  | stepped _ _ _ moved =>
    obtain ⟨_, rfl, isNext⟩ := map_eq_some_iff.mp isLater
    cases isNext
    simpa using exec_step_done done moved
  | cancelled =>
    cases isLater
    simpa [outcome] using done
  | launched _ _ _ _ _ atStage _ launches =>
    cases isLater
    rw [atStage] at done
    simp only [outcome, append_nil]
    rcases launch_cases launches with ⟨_, ⟨err, rfl⟩ | ⟨_, rfl⟩⟩
    · refine ⟨done.earlier, fun index worker here => ?_⟩
      exact worker_done_flagged (fun _ => rfl) (done.workers index worker here)
    · refine ⟨done.earlier, fun index worker here => ?_⟩
      rcases append_workers_kept here with ⟨_, rfl⟩ | old
      · intro past
        cases past
      · exact worker_done_flagged id (done.workers index worker old)
  | worked _ _ _ _ _ _ _ atStage moved =>
    cases isLater
    rw [atStage] at done
    exact work_done done moved
  | reported _ run _ _ viaDone atStage reported =>
    cases isLater
    rw [atStage] at done
    simp only [reportsErrors, atStage] at reports
    simp only [outcome, append_nil]
    obtain ⟨err, _, rfl⟩ := report_cases reported
    have flags : flagged { run with errChan :=
        if exec.cancelled && viaDone then run.errChan else run.errChan ++ [err] } = true := by
      cases dropped : exec.cancelled && viaDone with
      | true => simpa [dropped, flagged] using reports
      | false => simp [flagged]
    exact stage_done_set done (fun _ => flags) flags

end Dagens.Scheduler.ExecutedTasks
