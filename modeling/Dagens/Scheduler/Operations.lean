import Dagens.Scheduler.Goroutine
import Dagens.Scheduler.Process
import Dagens.Scheduler.Reconcile
import Dagens.Scheduler.StageRun

/-!
# Submission, run loop, resume and execution, step by step

The same functions as in `Process`, cut at their accesses to shared state so
that several of them can run against one scheduler. A task is addressed by the
reference of its job object and its position in it, as the code addresses it by
a pointer.
-/

namespace Dagens.Scheduler.Operations

open Lifecycle GoSupport Replay Recovery Transitions Process Goroutine Reconcile StageRun

variable {Input : Type}

structure Position where
  stage : Nat
  index : Nat
  deriving DecidableEq, Repr

def taskAt (job : Job Input) (position : Position) : Option (Task Input) :=
  job.stages[position.stage]?.bind fun stage => stage.tasks[position.index]?

def setTaskAt (job : Job Input) (position : Position) (task : Task Input) : Job Input :=
  { job with
    stages := job.stages.modify position.stage fun stage =>
      { stage with tasks := stage.tasks.set position.index task } }

def objectTask (sched : Scheduler Input) (ref : Nat) (position : Position) :
    Option (Task Input) :=
  (sched.objects ref).bind fun job => taskAt job position

def updateTask (sched : Scheduler Input) (ref : Nat) (position : Position) (task : Task Input) :
    Scheduler Input :=
  match sched.objects ref with
  | none => sched
  | some job => setObject sched ref (setTaskAt job position task)

/-- All positions of a job, stage by stage. -/
def positions (job : Job Input) : List Position :=
  job.stages.zipIdx.flatMap fun (stage, number) =>
    (List.range stage.tasks.length).map fun index => ⟨number, index⟩

inductive SubmitPC where
  | recordSubmitted
  | creating (todo : List Position)
  | createPending (position : Position) (todo : List Position) (write : PendingWrite)
  | recordQueued
  | enqueueing

/-- The checks and the reservation that `SubmitJobWithContext` makes under the
lock; `none` when the job is refused. -/
def admitJob (sched : Scheduler Input) (job : Job Input) : Option (Scheduler Input) :=
  if (sched.jobs job.id).isSome then none
  else if sched.jobQueue.length + sched.pendingEnqueue < sched.config.jobQueueSize then
    some (registerJob { sched with pendingEnqueue := sched.pendingEnqueue + 1 }
      { job with status := .pending })
  else none

/-- The task that is about to be recorded as created, with its owner ids. -/
def ownedTaskAt (sched : Scheduler Input) (ref : Nat) (position : Position) :
    Option (Task Input) := do
  let job ← sched.objects ref
  let stage ← job.stages[position.stage]?
  let task ← stage.tasks[position.index]?
  return ownedTask job.id stage.id task

variable [GoRuntime Input]

def createStep (sched : Scheduler Input) (ref : Nat) (position : Position)
    (todo : List Position) (now : Time) : Scheduler Input × Option SubmitPC :=
  match ownedTaskAt sched ref position with
  | none => (sched, some (.creating todo))
  | some task =>
    let owned := updateTask sched ref position task
    let sequenceID := nextSequence owned task.jobID
    let taken := takeSequence owned task.jobID
    let snapshot := durableJobSnapshot taken task.jobID sequenceID now
    match prepareTaskTransition task .created "" 0 "" sequenceID snapshot now with
    | none => (owned, some (.creating todo))
    | some write => (taken, some (.createPending position todo write))

def commitCreated (sched : Scheduler Input) (ref : Nat) (position : Position)
    (write : PendingWrite) (fault : Option GoError) : Scheduler Input :=
  match objectTask sched ref position with
  | none => sched
  | some task =>
    match commitTaskTransition task write fault sched.store with
    | .error _ => sched
    | .ok (recorded, store) => updateTask { sched with store := store } ref position recorded

def submitStep (sched : Scheduler Input) (ref : Nat) (pc : SubmitPC) (oracle : Oracle)
    (now : Time) : Scheduler Input × Option SubmitPC :=
  match pc with
  | .recordSubmitted =>
    (recordJobTransition sched ref .jobSubmitted .submitted "" now oracle.fault,
      some (.creating (((sched.objects ref).map positions).getD [])))
  | .creating [] => (sched, some .recordQueued)
  | .creating (position :: todo) => createStep sched ref position todo now
  | .createPending position todo write =>
    (commitCreated sched ref position write oracle.fault, some (.creating todo))
  | .recordQueued =>
    (recordJobTransition sched ref .jobQueued .queued "" now oracle.fault, some .enqueueing)
  | .enqueueing =>
    ((enqueueJob { sched with pendingEnqueue := sched.pendingEnqueue - 1 } ref).1, none)

inductive ExecPC where
  | begin
  | queueing
  | recordQueued
  | starting
  | openStage (stage : Nat)
  | inStage (stage : Nat) (run : StageRun Goroutine)
  | failing (err : GoError)
  | recordFailure (err : GoError)
  | completing
  | recordSuccess

structure Exec where
  ref : Nat
  cancelled : Bool
  pc : ExecPC

/-- `executeJob` works on the table's object when there is one. -/
def enterJob (sched : Scheduler Input) (ref : Nat) : Scheduler Input × Nat :=
  match sched.objects ref with
  | none => (sched, ref)
  | some job =>
    match sched.jobs job.id with
    | some existing => (sched, existing)
    | none => ({ sched with jobs := Function.update sched.jobs job.id (some ref) }, ref)

def hasTasks (sched : Scheduler Input) (ref : Nat) : Bool :=
  ((sched.objects ref).map fun job => job.stages.any fun stage => !stage.tasks.isEmpty).getD false

def startTransition (state : Option JobLifecycleState) : TransitionType :=
  if state = some .awaitingHuman then .jobResumed else .jobRunning

def failureStatus (err : GoError) : JobStatus :=
  if err.isPolicyViolation then .blocked
  else if isHumanPauseError err then .awaitingHuman else .failed

def failureTransition (err : GoError) : TransitionType × JobLifecycleState :=
  if err.isPolicyViolation then (.jobFailed, .failed)
  else if isHumanPauseError err then (.jobAwaitingHuman, .awaitingHuman)
  else (.jobFailed, .failed)

def stageOf (sched : Scheduler Input) (ref stage : Nat) : Option (Stage Input) :=
  (sched.objects ref).bind fun job => job.stages[stage]?

/-- The steps of the goroutine that runs `executeJob`; the outer `none` means
that it has to wait. -/
def execStep (sched : Scheduler Input) (exec : Exec) (oracle : Oracle) (now : Time) :
    Option (Scheduler Input × Option ExecPC) :=
  match exec.pc with
  | .begin => some (updateJobStatus sched exec.ref .running now, some .queueing)
  | .queueing =>
    some (sched, some (if lifecycleOf sched exec.ref = some .submitted then .recordQueued
      else .starting))
  | .recordQueued =>
    some (recordJobTransition sched exec.ref .jobQueued .queued "" now oracle.fault,
      some .starting)
  | .starting =>
    some (if hasTasks sched exec.ref then sched
      else recordJobTransition sched exec.ref (startTransition (lifecycleOf sched exec.ref))
        .running "" now oracle.fault, some (.openStage 0))
  | .openStage stage =>
    some (sched, some (match stageOf sched exec.ref stage with
      | none => .completing
      | some _ =>
        if oracle.nodesAvailable then .inStage stage (newStageRun Goroutine)
        else .failing errNoHealthyNodes))
  | .inStage stage run =>
    match stageOf sched exec.ref stage with
    | none => none
    | some object =>
      if joined object.tasks.length run then
        some (sched, some (match stageResult object.id run with
          | none => .openStage (stage + 1)
          | some err => .failing err))
      else none
  | .failing err =>
    some (updateJobStatus sched exec.ref (failureStatus err) now, some (.recordFailure err))
  | .recordFailure err =>
    some (recordJobTransition sched exec.ref (failureTransition err).1 (failureTransition err).2
      err.message now oracle.fault, none)
  | .completing =>
    some (updateJobStatus sched exec.ref .completed now, some .recordSuccess)
  | .recordSuccess =>
    some (recordJobTransition sched exec.ref .jobSucceeded .succeeded "" now oracle.fault, none)

/-- One step of the task goroutine at `index` of the running stage: the memory,
the stage and the events of the task. -/
def workStep (sched : Scheduler Input) (ref stage : Nat) (run : StageRun Goroutine)
    (index : Nat) (answers : Answers) (now : Time) :
    Option (Scheduler Input × StageRun Goroutine × List TaskEvent) :=
  match run.workers[index]?, objectTask sched ref ⟨stage, index⟩ with
  | some (.running routine), some task =>
    match routine.pc with
    | .finished err => (finish index err run).map fun after => (sched, after, [])
    | _ =>
      (goroutineStep sched routine task answers now).map fun progress =>
        (updateTask progress.sched ref ⟨stage, index⟩ progress.task,
          { run with workers := run.workers.set index (.running progress.routine) },
          progress.events)
  | _, _ => none

inductive LoopPC where
  | taken (ref : Nat)
  | checking (ref : Nat)
  | authorizing (ref : Nat)
  | reading (ref : Nat)
  | installing (jobID : String) (replayed : ReplayedJobState)
  | rechecking (ref : Nat)

inductive ResumePC where
  | lookup
  | hydrating (replayed : ReplayedJobState)
  | checking (ref : Nat)
  | reading
  | installing (replayed : ReplayedJobState)
  | deciding (ref : Nat)
  | authorizing (ref : Nat)
  | resetting (ref : Nat)

/-- `entering` is the call of `executeJob`, from the run loop or from a resume. -/
inductive Thread (Input : Type) [GoRuntime Input] where
  | submit (ref : Nat) (pc : SubmitPC)
  | loop (pc : LoopPC)
  | resume (jobID : String) (context : List (String × GoRuntime.Value Input)) (pc : ResumePC)
  | entering (ref : Nat)
  | exec (exec : Exec)
  | pass (pass : Pass)

/-- The reading half of a refresh by the job that `ref` points to. -/
def readJob (sched : Scheduler Input) (ref : Nat) (ctxErr : Option GoError) :
    Option (String × ReplayedJobState) :=
  (sched.objects ref).bind fun job =>
    (readDurableState ctxErr sched.store job.id).map fun replayed => (job.id, replayed)

def installJob (sched : Scheduler Input) (jobID : String) (replayed : ReplayedJobState)
    (oracle : Oracle) : Scheduler Input :=
  installRefreshedJob sched jobID replayed (oracle.mapOrder (replayedRows replayed))

def loopStep (sched : Scheduler Input) (pc : LoopPC) (oracle : Oracle) :
    Scheduler Input × Option (Thread Input) :=
  match pc with
  | .taken ref => (markJobDequeued sched ref, some (.loop (.checking ref)))
  | .checking ref =>
    (sched, if isExecutableDequeuedJob sched ref then some (.loop (.authorizing ref)) else none)
  | .authorizing ref =>
    if oracle.isLeader then (sched, some (.loop (.reading ref)))
    else ((enqueueJob sched ref).1, none)
  | .reading ref =>
    (sched, some (.loop (match readJob sched ref oracle.ctxErr with
      | none => .rechecking ref
      | some (jobID, replayed) => .installing jobID replayed)))
  | .installing jobID replayed =>
    (installJob sched jobID replayed oracle, some (.loop (.rechecking sched.nextRef)))
  | .rechecking ref =>
    (sched, if isExecutableDequeuedJob sched ref then some (.entering ref) else none)

/-- The replay of `getJobPointer` for a job that the table does not hold. -/
def readUnknownJob (sched : Scheduler Input) (jobID : String) (ctxErr : Option GoError) :
    Option ReplayedJobState :=
  match replayJobState ctxErr sched.store jobID with
  | .error _ => none
  | .ok replayed => if nothingReplayed replayed then none else some replayed

def hydrateJob (sched : Scheduler Input) (jobID : String) (replayed : ReplayedJobState)
    (oracle : Oracle) : Scheduler Input × Nat :=
  match sched.jobs jobID with
  | some ref => (sched, ref)
  | none =>
    (seedJobSequence (registerJob sched (buildRecoveredRuntimeJob replayed
        (oracle.mapOrder (replayedRows replayed)))) jobID replayed.job.lastSequenceID
      replayed.transitions, sched.nextRef)

def resumedTask (context : List (String × GoRuntime.Value Input)) (task : Task Input) :
    Task Input :=
  { task with
    input := some (context.foldl (fun input entry => GoRuntime.setContext input entry.1 entry.2)
      (task.input.getD GoRuntime.zeroInput))
    status := .pending
    lifecycleState := some .pending }

def resumedJob (context : List (String × GoRuntime.Value Input)) (job : Job Input) : Job Input :=
  { job with
    stages := job.stages.map fun stage =>
      { stage with status := .pending, tasks := stage.tasks.map (resumedTask context) } }

def resetTasks (sched : Scheduler Input) (ref : Nat)
    (context : List (String × GoRuntime.Value Input)) : Scheduler Input :=
  match sched.objects ref with
  | none => sched
  | some job => setObject sched ref (resumedJob context job)

def resumeStep (sched : Scheduler Input) (jobID : String)
    (context : List (String × GoRuntime.Value Input)) (pc : ResumePC) (oracle : Oracle) :
    Scheduler Input × Option (Thread Input) :=
  match pc with
  | .lookup =>
    (sched, match sched.jobs jobID with
      | some ref => some (.resume jobID context (.checking ref))
      | none => (readUnknownJob sched jobID oracle.ctxErr).map fun replayed =>
        .resume jobID context (.hydrating replayed))
  | .hydrating replayed =>
    let hydrated := hydrateJob sched jobID replayed oracle
    (hydrated.1, some (.resume jobID context (.checking hydrated.2)))
  | .checking ref =>
    (sched, match lifecycleOf sched ref with
      | some .awaitingHuman => some (.resume jobID context (.authorizing ref))
      | state => if state.any isTerminalJobState then none
          else some (.resume jobID context .reading))
  | .reading =>
    (sched, (readDurableState oracle.ctxErr sched.store jobID).map fun replayed =>
      .resume jobID context (.installing replayed))
  | .installing replayed =>
    (installJob sched jobID replayed oracle,
      some (.resume jobID context (.deciding sched.nextRef)))
  | .deciding ref =>
    (sched, if lifecycleOf sched ref = some .awaitingHuman then
        some (.resume jobID context (.authorizing ref))
      else none)
  | .authorizing ref =>
    (sched, if oracle.isLeader then
        some (if context.isEmpty then .entering ref else .resume jobID context (.resetting ref))
      else none)
  | .resetting ref => (resetTasks sched ref context, some (.entering ref))

end Dagens.Scheduler.Operations
