import Dagens.Scheduler.Process

/-!
# The dispatch retry loop of one task

`executeTaskWithRetry` run by itself on one scheduler: dispatch claim, RUNNING
record, executor call, terminal record, and again with the next attempt number
after a capacity conflict or a rejected claim. A failed attempt leaves the task
FAILED in memory, from where no claim is legal, so there is no second executor
call.
-/

namespace Dagens.Scheduler.TaskRetry

open Lifecycle GoSupport Transitions StoreEffects Process

/-- What a function returns: its error, the task object and the process. -/
structure Outcome (Input : Type) where
  err : Option GoError
  task : Task Input
  process : Process Input

variable {Input : Type} [GoRuntime Input]

def recordJobRunningOnFirstDispatch (world : World) (jobID : String)
    (process : Process Input) : Process Input :=
  match process.sched.jobs jobID with
  | none => process
  | some ref =>
    (firstDispatchTransitions ((process.sched.objects ref).bind (·.lifecycleState))).foldl
      (fun current step => recordJob world ref step.1 step.2 "" current) process

def claimTaskDispatchTransition (world : World) (task : Task Input) (nodeID : String)
    (attempt : Int) (process : Process Input) : Outcome Input :=
  if task.jobID = "" then
    ⟨none, { task with lifecycleState := some .dispatched }, process⟩
  else
    let now := world.clock process.records
    let sequenceID := nextSequence process.sched task.jobID
    let taken := takeSequence process.sched task.jobID
    let snapshot := durableJobSnapshot taken task.jobID sequenceID now
    match prepareDispatchClaim task nodeID attempt sequenceID snapshot now with
    | none => ⟨some errDispatchClaimRejected, task, process⟩
    | some write =>
      match commitDispatchClaim task write (world.fault process.records) taken.store with
      | .error err =>
        ⟨some err, task, { process with sched := taken, records := process.records + 1 }⟩
      | .ok (claimed, store) =>
        ⟨none, claimed, recordJobRunningOnFirstDispatch world task.jobID
          { process with
            sched := { taken with store := store }
            records := process.records + 1 }⟩

def executeTask (world : World) (started : Task Input) (nodeID : String)
    (process : Process Input) : Outcome Input :=
  let running := recordTaskTransition world { started with status := .running } .running nodeID
    started.attempts "" process
  let task := running.1
  let checked := { running.2 with checks := running.2.checks + 1 }
  match world.authority running.2.checks with
  | .error err =>
    ⟨some (err.wrap "resolve dispatch authority before remote execution: "), task, checked⟩
  | .ok authority =>
    if !authority.isLeader then ⟨some (staleDispatchAuthority authority), task, checked⟩
    else
      let called := { checked with calls := checked.calls + 1 }
      match world.executor checked.calls with
      | some err =>
        if err.isPolicyViolation then ⟨some err, { task with status := .blocked }, called⟩
        else
          let failed := recordTaskTransition world { task with status := .failed } .failed
            nodeID task.attempts err.message called
          ⟨some (err.wrap ("task " ++ task.id ++ " failed on node " ++ nodeID ++ ": ")),
            failed.1, failed.2⟩
      | none =>
        let succeeded := recordTaskTransition world { task with status := .completed }
          .succeeded nodeID task.attempts "" called
        ⟨none, succeeded.1, succeeded.2⟩

/-- The loop from `attempt` on, with `remaining` attempts after it. -/
def retryFrom (world : World) :
    (remaining : Nat) → (attempt : Int) → (nodeID : String) → Task Input → Process Input →
      Outcome Input
  | remaining, attempt, nodeID, task, process =>
    let claim := claimTaskDispatchTransition world { task with attempts := attempt } nodeID
      attempt process
    let outcome :=
      match claim.err with
      | some _ => claim
      | none => executeTask world claim.task nodeID claim.process
    let retryable :=
      match claim.err, outcome.err with
      | some err, _ => err.isDispatchClaimRejected
      | none, some err => isDispatchCapacityConflict err
      | none, none => false
    if !retryable then outcome
    else
      match remaining with
      | 0 => outcome
      | later + 1 =>
        let selected := { outcome.process with selections := outcome.process.selections + 1 }
        match world.selectNode outcome.process.selections with
        | none => ⟨some errNoWorkerCapacity, outcome.task, selected⟩
        | some nextNode => retryFrom world later (attempt + 1) nextNode outcome.task selected

def executeTaskWithRetry (world : World) (initialNode : String) (task : Task Input)
    (process : Process Input) : Outcome Input :=
  retryFrom world (process.sched.config.maxDispatchAttempts - 1) 1 initialNode task process

/-- The state recorded last for a task, as text. -/
def lastTaskState (store : TransitionStore) (jobID taskID : String) : Option String :=
  (((store.transitions jobID).filter fun record =>
    decide (record.entityType = .task) && decide (record.taskID = taskID)).getLast?).map
      (·.newState)

/-- A task as `SubmitJob` leaves it. -/
structure SubmittedNormally (task : Task Input) (process : Process Input) : Prop where
  hasJob : task.jobID ≠ ""
  hasID : task.id ≠ ""
  pending : task.lifecycleState = some .pending
  row : ∃ row, process.sched.store.tasks.lookup task.id = some row ∧
    row.currentState = some .pending ∧ row.lastAttempt = 0

/-- `executeTaskWithRetry` returned nil after exactly `conflicts + 1` executor
calls, and the task's log ends in SUCCEEDED. -/
def RetriedToSuccess (conflicts : Nat) (task : Task Input) (process : Process Input)
    (outcome : Outcome Input) : Prop :=
  outcome.err = none ∧ outcome.process.calls = process.calls + conflicts + 1 ∧
    lastTaskState outcome.process.sched.store task.jobID task.id =
      some TaskLifecycleState.succeeded.text

section

variable (world : World)

section

variable (attempt : Int) (nodeID : String) (task : Task Input) (process : Process Input)
  (hasJob : task.jobID ≠ "")
  (illegal : canTransitionTaskState (claimPreviousState task) .dispatched = false)

include hasJob illegal

theorem claim_rejected_in_memory :
    claimTaskDispatchTransition world task nodeID attempt process =
      ⟨some errDispatchClaimRejected, task, process⟩ := by
  simp [claimTaskDispatchTransition, prepareDispatchClaim, hasJob, illegal]

theorem retry_without_legal_claim (nodes : ∀ index, (world.selectNode index).isSome = true)
    (remaining : Nat) :
    (retryFrom world remaining attempt nodeID task process).err = some errDispatchClaimRejected ∧
      (retryFrom world remaining attempt nodeID task process).process.calls = process.calls := by
  induction remaining generalizing attempt nodeID task process with
  | zero =>
    have claim := claim_rejected_in_memory world attempt nodeID
      { task with attempts := attempt } process hasJob illegal
    unfold retryFrom
    simp only [claim]
    simp [errDispatchClaimRejected]
  | succ _ ih =>
    have claim := claim_rejected_in_memory world attempt nodeID
      { task with attempts := attempt } process hasJob illegal
    obtain ⟨nextNode, selected⟩ := Option.isSome_iff_exists.mp (nodes process.selections)
    have rest := ih (attempt + 1) nextNode { task with attempts := attempt }
      { process with selections := process.selections + 1 } hasJob illegal
    unfold retryFrom
    simp only [claim, selected]
    simpa [errDispatchClaimRejected] using rest

end

theorem first_dispatch_calls (jobID : String) (process : Process Input) :
    (recordJobRunningOnFirstDispatch world jobID process).calls = process.calls := by
  unfold recordJobRunningOnFirstDispatch
  cases process.sched.jobs jobID with
  | none => rfl
  | some ref =>
    show (List.foldl _ process _).calls = process.calls
    generalize firstDispatchTransitions _ = steps
    induction steps generalizing process with
    | nil => rfl
    | cons step _ ih => exact ih (recordJob world ref step.1 step.2 "" process)

theorem claim_accepted (task : Task Input) (nodeID : String) (attempt : Int)
    (process : Process Input) (writes : WritesSucceed world) (hasJob : task.jobID ≠ "")
    (hasID : task.id ≠ "")
    (legal : canTransitionTaskState (claimPreviousState task) .dispatched = true)
    (rows : ∀ row, process.sched.store.tasks.lookup task.id = some row → claimAccepted row attempt =
      true) :
    ∃ after, claimTaskDispatchTransition world task nodeID attempt process =
        ⟨none, { task with lifecycleState := some .dispatched }, after⟩ ∧
      after.calls = process.calls := by
  unfold claimTaskDispatchTransition
  simp only [hasJob, prepareDispatchClaim, legal, if_true, if_false]
  have valid : Valid (taskRecord (nextSequence process.sched task.jobID) task .taskDispatched
      (some (claimPreviousState task)) .dispatched nodeID attempt ""
      (world.clock process.records)) :=
    (task_record_valid _ task .taskDispatched (some (claimPreviousState task)) .dispatched nodeID
      attempt "" _ (by decide) legal).mpr ⟨Nat.succ_ne_zero _, hasJob, hasID, writes.dated _⟩
  rw [(commit_dispatch_claim_ok ..).mpr ⟨⟨writes.accepted _, valid, hasID, rows⟩, rfl⟩]
  exact ⟨_, rfl, first_dispatch_calls _ _ _⟩

end

section

variable (world : World) (task : Task Input) (report : TaskReport) (nodeID : String) (attempt : Int)
  (errorSummary : String) (process : Process Input)

include world task report nodeID attempt errorSummary process

theorem record_task_accepted (writes : WritesSucceed world) (hasJob : task.jobID ≠ "")
    (hasID : task.id ≠ "")
    (legal : taskTransitionAllowed task.lifecycleState report.newState = true) :
    (recordTaskTransition world task report nodeID attempt errorSummary process).1 =
      { task with lifecycleState := some report.newState } := by
  obtain ⟨_, _, _, _, recorded⟩ := record_task_ok world task report nodeID attempt
    errorSummary process writes hasJob hasID legal
  rw [recorded]

theorem record_task_calls :
    (recordTaskTransition world task report nodeID attempt errorSummary process).2.calls =
      process.calls := by
  unfold recordTaskTransition
  dsimp only
  split
  · rfl
  · split <;> rfl

end

omit [GoRuntime Input] in
theorem failed_task_unclaimable (task : Task Input) (failed : task.lifecycleState = some .failed) :
    canTransitionTaskState (claimPreviousState task) .dispatched = false := by
  rw [claimPreviousState, failed]
  rfl

theorem failed_execution_unclaimable (world : World) (task : Task Input) (nodeID : String)
    (process : Process Input) (err : GoError) (writes : WritesSucceed world)
    (leader : ∀ index, ∃ authority, world.authority index = .ok authority ∧
      authority.isLeader = true)
    (hasJob : task.jobID ≠ "") (hasID : task.id ≠ "")
    (dispatched : task.lifecycleState = some .dispatched)
    (answer : world.executor process.calls = some err)
    (conflict : isDispatchCapacityConflict err = true) :
    let outcome := executeTask world task nodeID process
    (∃ raised, outcome.err = some raised ∧ isDispatchCapacityConflict raised = true) ∧
      outcome.process.calls = process.calls + 1 ∧ outcome.task.jobID ≠ "" ∧
      canTransitionTaskState (claimPreviousState outcome.task) .dispatched = false := by
  have running := record_task_accepted world { task with status := .running } .running nodeID
    task.attempts "" process writes hasJob hasID (by rw [dispatched]; decide)
  have runningCalls := record_task_calls world { task with status := .running } .running nodeID
    task.attempts "" process
  unfold executeTask
  generalize recordTaskTransition world { task with status := .running } .running nodeID
    task.attempts "" process = recorded at running runningCalls
  obtain ⟨_, checked, isLeader⟩ := leader recorded.2.checks
  simp only [checked, isLeader, runningCalls, answer, running, Bool.not_true, Bool.false_eq_true,
    if_false]
  cases policy : err.isPolicyViolation with
  | true =>
    rw [if_pos rfl]
    exact ⟨⟨err, rfl, conflict⟩, rfl, hasJob, rfl⟩
  | false =>
    rw [if_neg Bool.false_ne_true]
    refine ⟨⟨_, rfl, capacity_conflict_wrap _ _ conflict⟩, ?_, ?_⟩
    · rw [record_task_calls]
    · have failed := record_task_accepted world
        { task with status := .failed, lifecycleState := some .running } .failed nodeID
        task.attempts err.message
        { recorded.2 with checks := recorded.2.checks + 1, calls := process.calls + 1 } writes
        hasJob hasID rfl
      exact ⟨fun blank => hasJob ((congrArg Task.jobID failed).symm.trans blank),
        failed_task_unclaimable _ (congrArg Task.lifecycleState failed)⟩

/-- A capacity conflict is never followed by another executor call: every later
attempt is rejected by the task's own in-memory state, and the loop returns
`ErrDispatchClaimRejected` after one call. -/
theorem capacity_conflict_never_redispatched (world : World) (initialNode : String)
    (task : Task Input) (process : Process Input) (conflicts : Nat)
    (submitted : SubmittedNormally task process) (writes : WritesSucceed world)
    (leader : ∀ index, ∃ authority, world.authority index = .ok authority ∧
      authority.isLeader = true)
    (nodes : ∀ index, (world.selectNode index).isSome = true)
    (someConflict : 1 ≤ conflicts)
    (attempts : conflicts < process.sched.config.maxDispatchAttempts)
    (conflicting : ∀ index < conflicts, ∃ err,
      world.executor (process.calls + index) = some err ∧ isDispatchCapacityConflict err = true) :
    let outcome := executeTaskWithRetry world initialNode task process
    ¬ RetriedToSuccess conflicts task process outcome ∧
      outcome.err = some errDispatchClaimRejected ∧
      outcome.process.calls = process.calls + 1 := by
  obtain ⟨err, answer, conflict⟩ := conflicting 0 someConflict
  obtain ⟨row, found, rowPending, rowAttempt⟩ := submitted.row
  obtain ⟨claimed, claim, claimedCalls⟩ := claim_accepted world { task with attempts := 1 }
    initialNode 1 process writes submitted.hasJob submitted.hasID
    (by simp only [claimPreviousState, submitted.pending]; rfl) (by
      intro other lookup
      have same : row = other := Option.some.inj (found.symm.trans lookup)
      subst same
      simp [claimAccepted, rowPending, rowAttempt])
  obtain ⟨later, remaining⟩ :
      ∃ later, process.sched.config.maxDispatchAttempts - 1 = later + 1 :=
    ⟨process.sched.config.maxDispatchAttempts - 2, by omega⟩
  obtain ⟨⟨_, failed, retryable⟩, calls, hasJob, illegal⟩ := failed_execution_unclaimable
    world { task with attempts := 1, lifecycleState := some .dispatched } initialNode claimed err
    writes leader submitted.hasJob submitted.hasID rfl (by simpa [claimedCalls] using answer)
    conflict
  generalize executed : executeTask world
    { task with attempts := 1, lifecycleState := some .dispatched } initialNode claimed =
      outcome at failed calls hasJob illegal
  obtain ⟨nextNode, selected⟩ := Option.isSome_iff_exists.mp (nodes outcome.process.selections)
  have unrolled : executeTaskWithRetry world initialNode task process =
      retryFrom world later 2 nextNode outcome.task
        { outcome.process with selections := outcome.process.selections + 1 } := by
    unfold executeTaskWithRetry
    rw [remaining]
    conv_lhs => unfold retryFrom
    simp only [claim, executed, failed, retryable, selected, Bool.not_true, Bool.false_eq_true,
      if_false, Int.reduceAdd]
  obtain ⟨rejected, noMoreCalls⟩ := retry_without_legal_claim world 2 nextNode
    outcome.task { outcome.process with selections := outcome.process.selections + 1 } hasJob
    illegal nodes later
  dsimp only
  rw [unrolled]
  refine ⟨fun retried => ?_, rejected, by rw [noMoreCalls, calls, claimedCalls]⟩
  exact absurd (rejected.symm.trans retried.1) (by simp)

def conflictingJob : Job SampleInput :=
  { newJob SampleInput "job-1" "job" 1 with
    stages := [⟨"stage-1", "job-1", [pendingTask], [], .pending⟩] }

/-- The executor is at capacity once and would succeed after that. -/
def conflictWorld : World where
  clock := fun index => index + 1
  fault := fun _ => none
  selectNode := fun _ => some "node-2"
  authority := fun _ => .ok ⟨true, "leader", "1"⟩
  executor := fun call => if call = 0 then some (.plain "worker at capacity") else none

def submittedProcess : Process SampleInput :=
  (submitJob conflictWorld conflictingJob (newProcess SampleInput ⟨true, 1000, 2⟩)).toOption.getD
    (newProcess SampleInput ⟨true, 1000, 2⟩)

theorem submitted_process_normal : SubmittedNormally pendingTask submittedProcess where
  hasJob := by decide
  hasID := by decide
  pending := rfl
  row := ⟨_, rfl, by decide, by decide⟩

theorem single_conflict_not_retried :
    let outcome := executeTaskWithRetry conflictWorld "node-1" pendingTask submittedProcess
    submittedProcess.calls = 0 ∧ outcome.err = some errDispatchClaimRejected ∧
      outcome.process.calls = 1 ∧
      lastTaskState outcome.process.sched.store "job-1" "task-1" = some "FAILED" ∧
      ¬ RetriedToSuccess 1 pendingTask submittedProcess outcome := by
  refine ⟨by decide, by decide, by decide, by decide, ?_⟩
  intro retried
  exact absurd retried.1 (by decide)

theorem single_conflict_never_redispatched :
    let outcome := executeTaskWithRetry conflictWorld "node-1" pendingTask submittedProcess
    ¬ RetriedToSuccess 1 pendingTask submittedProcess outcome ∧
      outcome.err = some errDispatchClaimRejected ∧
      outcome.process.calls = submittedProcess.calls + 1 :=
  capacity_conflict_never_redispatched conflictWorld "node-1" pendingTask submittedProcess 1
    submitted_process_normal ⟨fun _ => rfl, Nat.succ_ne_zero⟩ (fun _ => ⟨_, rfl, rfl⟩)
    (fun _ => rfl) (by decide) (by decide) (by
      intro index _
      have zero : index = 0 := by omega
      subst zero
      exact ⟨.plain "worker at capacity", rfl, by decide⟩)

end Dagens.Scheduler.TaskRetry
