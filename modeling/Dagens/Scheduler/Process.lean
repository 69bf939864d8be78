import Dagens.Scheduler.StoreEffects

/-!
# One scheduler, one operation at a time

Submission, the durable refresh and the writers of transition records as whole
functions of a single process. The environment is a `World`: the wall clock,
the faults of the store, and the answers of node selection, of the leadership
provider and of the executor.
-/

namespace Dagens.Scheduler.Process

open Lifecycle GoSupport Transitions StoreEffects

set_option linter.dupNamespace false

/-- What a run does not decide itself. Node selections, authority checks and
executor calls are answered in order; clock and store fault go with the
transition record being attempted. -/
structure World where
  clock : Nat → Time
  fault : Nat → Option GoError
  selectNode : Nat → Option String
  authority : Nat → Except GoError LeadershipAuthority
  executor : Nat → Option GoError

/-- A store that accepts every write, under a clock that is past the zero time. -/
structure WritesSucceed (world : World) : Prop where
  accepted : ∀ index, world.fault index = none
  dated : ∀ index, world.clock index ≠ 0

structure Process (Input : Type) where
  sched : Scheduler Input
  records : Nat
  selections : Nat
  checks : Nat
  calls : Nat

def newProcess (Input : Type) (config : SchedulerConfig) : Process Input where
  sched := newScheduler Input config
  records := 0
  selections := 0
  checks := 0
  calls := 0

variable {Input : Type} [GoRuntime Input]

def recordJob (world : World) (ref : Nat) (transition : TransitionType)
    (newState : JobLifecycleState) (errorSummary : String) (process : Process Input) :
    Process Input :=
  { process with
    sched := recordJobTransition process.sched ref transition newState errorSummary
      (world.clock process.records) (world.fault process.records)
    records := process.records + 1 }

def recordTaskTransition (world : World) (task : Task Input) (report : TaskReport)
    (nodeID : String) (attempt : Int) (errorSummary : String) (process : Process Input) :
    Task Input × Process Input :=
  let now := world.clock process.records
  let sequenceID := nextSequence process.sched task.jobID
  let taken := takeSequence process.sched task.jobID
  let snapshot := durableJobSnapshot taken task.jobID sequenceID now
  match prepareTaskTransition task report nodeID attempt errorSummary sequenceID snapshot now with
  | none => (task, process)
  | some write =>
    match commitTaskTransition task write (world.fault process.records) taken.store with
    | .error _ => (task, { process with sched := taken, records := process.records + 1 })
    | .ok (recorded, store) =>
      (recorded,
        { process with
          sched := { taken with store := store }
          records := process.records + 1 })

/-- Missing owner ids are filled in before the first record of a task. -/
def ownedTask (jobID stageID : String) (task : Task Input) : Task Input :=
  { task with
    jobID := if task.jobID = "" then jobID else task.jobID
    stageID := if task.stageID = "" then stageID else task.stageID }

def recordTasksCreated (world : World) (jobID stageID : String) :
    List (Task Input) → Process Input → List (Task Input) × Process Input
  | [], process => ([], process)
  | task :: rest, process =>
    let created := recordTaskTransition world (ownedTask jobID stageID task) .created "" 0 ""
      process
    let others := recordTasksCreated world jobID stageID rest created.2
    (created.1 :: others.1, others.2)

def recordStagesCreated (world : World) (jobID : String) :
    List (Stage Input) → Process Input → List (Stage Input) × Process Input
  | [], process => ([], process)
  | stage :: rest, process =>
    let created := recordTasksCreated world jobID stage.id stage.tasks process
    let others := recordStagesCreated world jobID rest created.2
    ({ stage with tasks := created.1 } :: others.1, others.2)

def recordInitialTransitions (world : World) (ref : Nat) (job : Job Input)
    (process : Process Input) : Process Input :=
  let submitted := recordJob world ref .jobSubmitted .submitted "" process
  let created := recordStagesCreated world job.id job.stages submitted
  let current := (created.2.sched.objects ref).getD job
  recordJob world ref .jobQueued .queued ""
    { created.2 with
      sched := setObject created.2.sched ref { current with stages := created.1 } }

def errJobQueueFull : GoError := .plain "job queue is full"

/-- `SubmitJobWithContext`. The queue slot is reserved while the initial
transitions are persisted. -/
def submitJob (world : World) (job : Job Input) (process : Process Input) :
    Except GoError (Process Input) :=
  let sched := process.sched
  if (sched.jobs job.id).isSome then
    .error (.plain ("job " ++ job.id ++ " already exists"))
  else if sched.jobQueue.length + sched.pendingEnqueue < sched.config.jobQueueSize then
    let ref := sched.nextRef
    let admitted := registerJob { sched with pendingEnqueue := sched.pendingEnqueue + 1 }
      { job with status := .pending }
    let recorded := recordInitialTransitions world ref { job with status := .pending }
      { process with sched := admitted }
    let released :=
      { recorded.sched with pendingEnqueue := recorded.sched.pendingEnqueue - 1 }
    .ok { recorded with sched := (enqueueJob released ref).1 }
  else .error errJobQueueFull

/-- `refreshJobFromDurableState`, with the order in which Go's map iteration
yields the replayed rows. -/
def refreshJobFromDurableState (ctxErr : Option GoError)
    (mapOrder : List DurableTaskRecord → List DurableTaskRecord) (jobID : String)
    (sched : Scheduler Input) : Option (Scheduler Input) :=
  (readDurableState ctxErr sched.store jobID).map fun replayed =>
    installRefreshedJob sched jobID replayed (mapOrder (replayed.tasks.entries.map (·.2)))

/-- One turn of the run loop on a leader, from the receipt of `ref` from the
queue up to the call of `executeJob`: the scheduler's memory then, and the job
that is executed. -/
def takeDequeuedJob (ctxErr : Option GoError)
    (mapOrder : List DurableTaskRecord → List DurableTaskRecord) (ref : Nat)
    (sched : Scheduler Input) : Option (Scheduler Input × Job Input) :=
  let dequeued := markJobDequeued sched ref
  match dequeued.objects ref with
  | none => none
  | some job =>
    if isExecutableDequeuedJob dequeued ref then
      let refreshed :=
        (refreshJobFromDurableState ctxErr mapOrder job.id dequeued).getD dequeued
      let current := (refreshed.jobs job.id).getD ref
      if isExecutableDequeuedJob refreshed current then
        (refreshed.objects current).map fun executed => (refreshed, executed)
      else none
    else none

theorem record_task_ok (world : World) (task : Task Input) (report : TaskReport)
    (nodeID : String) (attempt : Int) (errorSummary : String) (process : Process Input)
    (writes : WritesSucceed world) (hasJob : task.jobID ≠ "") (hasID : task.id ≠ "")
    (legal : taskTransitionAllowed task.lifecycleState report.newState = true) :
    ∃ write, Valid write.record ∧
      write.record = taskRecord (nextSequence process.sched task.jobID) task report.transition
        task.lifecycleState report.newState nodeID attempt
        (normalizeTransitionErrorSummary Input errorSummary) (world.clock process.records) ∧
      write.newState = report.newState ∧
      recordTaskTransition world task report nodeID attempt errorSummary process =
        ({ task with lifecycleState := some report.newState },
          { process with
            sched := { takeSequence process.sched task.jobID with
              store := taskCommitted task write process.sched.store }
            records := process.records + 1 }) := by
  have named : report.transition.text ≠ "" := by cases report <;> decide
  have valid := (task_record_valid (nextSequence process.sched task.jobID) task
    report.transition task.lifecycleState report.newState nodeID attempt
    (normalizeTransitionErrorSummary Input errorSummary) (world.clock process.records) named
    legal).mpr ⟨Nat.succ_ne_zero _, hasJob, hasID, writes.dated _⟩
  unfold recordTaskTransition
  simp only [prepareTaskTransition, legal, if_true]
  rw [(commit_task_transition_ok ..).mpr ⟨⟨writes.accepted _, valid⟩, rfl⟩]
  exact ⟨_, valid, rfl, rfl, rfl⟩

theorem record_job_ok (world : World) (ref : Nat) (transition : TransitionType)
    (newState : JobLifecycleState) (errorSummary : String) (process : Process Input)
    (job : Job Input) (writes : WritesSucceed world) (found : process.sched.objects ref = some job)
    (named : transition.text ≠ "") (hasID : job.id ≠ "")
    (allowed : jobTransitionAllowed job.lifecycleState newState = true) :
    ∃ record row, Valid record ∧
      record = jobRecord (nextSequence process.sched job.id) job transition newState
        (normalizeTransitionErrorSummary Input errorSummary) (world.clock process.records) ∧
      row = jobRow (nextSequence process.sched job.id) job (some newState)
        (world.clock process.records) ∧
      recordJob world ref transition newState errorSummary process =
        { process with
          sched := setObject { takeSequence process.sched job.id with
            store := upsertJob (appended process.sched.store record) row } ref
              { job with lifecycleState := some newState }
          records := process.records + 1 } := by
  have valid := (job_record_valid (nextSequence process.sched job.id) job transition newState
    (normalizeTransitionErrorSummary Input errorSummary) (world.clock process.records) named
    allowed).mpr ⟨Nat.succ_ne_zero _, hasID, writes.dated _⟩
  refine ⟨_, _, valid, rfl, rfl, ?_⟩
  have tx := (job_transition_tx_ok (takeSequence process.sched job.id).store _ _
    (jobRow (nextSequence process.sched job.id) job (some newState)
      (world.clock process.records))).mpr ⟨valid, rfl⟩
  unfold recordJob recordJobTransition
  simp only [found, allowed, if_true]
  rw [(persist_ok ..).mpr ⟨writes.accepted process.records, tx⟩]
  rfl

end Dagens.Scheduler.Process
