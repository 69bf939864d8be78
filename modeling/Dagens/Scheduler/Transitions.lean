import Dagens.Scheduler.Recovery

/-!
# The scheduler's memory and its transition writers

`Scheduler` is the memory of one scheduler process together with the store it
writes to. Jobs are objects reached through references, because the code keeps
pointers to a job while the entry of the job table is replaced. A task
transition has two parts, as in the source: the record and the job snapshot
are prepared outside the transaction, and the transaction runs later.
-/

namespace Dagens.Scheduler.Transitions

open Lifecycle GoSupport Replay Recovery Function

set_option linter.dupNamespace false

structure SchedulerConfig where
  enableStickiness : Bool
  jobQueueSize : Nat
  maxDispatchAttempts : Nat
  deriving DecidableEq, Repr

structure Scheduler (Input : Type) where
  config : SchedulerConfig
  objects : Nat → Option (Job Input)
  nextRef : Nat
  jobs : String → Option Nat
  jobQueue : List Nat
  queuedJobs : String → Bool
  pendingEnqueue : Nat
  jobSequences : String → Nat
  replayQuarantine : String → Option Time
  store : TransitionStore

variable {Input : Type}

def newScheduler (Input : Type) (config : SchedulerConfig) : Scheduler Input where
  config := config
  objects := fun _ => none
  nextRef := 0
  jobs := fun _ => none
  jobQueue := []
  queuedJobs := fun _ => false
  pendingEnqueue := 0
  jobSequences := fun _ => 0
  replayQuarantine := fun _ => none
  store := newTransitionStore

/-- The job object the table currently holds for an id. -/
def registeredJob (sched : Scheduler Input) (jobID : String) : Option (Job Input) :=
  (sched.jobs jobID).bind sched.objects

def setObject (sched : Scheduler Input) (ref : Nat) (job : Job Input) : Scheduler Input :=
  { sched with objects := update sched.objects ref (some job) }

/-- A new object becomes the table's entry for its id. -/
def registerJob (sched : Scheduler Input) (job : Job Input) : Scheduler Input :=
  { sched with
    objects := update sched.objects sched.nextRef (some job)
    nextRef := sched.nextRef + 1
    jobs := update sched.jobs job.id (some sched.nextRef) }

def nextSequence (sched : Scheduler Input) (jobID : String) : Nat :=
  sched.jobSequences jobID + 1

def takeSequence (sched : Scheduler Input) (jobID : String) : Scheduler Input :=
  { sched with
    jobSequences := update sched.jobSequences jobID (nextSequence sched jobID) }

/-- `seedJobSequenceLocked`: the counter never falls behind what was replayed. -/
def seedJobSequence (sched : Scheduler Input) (jobID : String) (durableLast : Nat)
    (transitions : List TransitionRecord) : Scheduler Input :=
  let replayedMax := transitions.foldl (fun best record => max best record.sequenceID) durableLast
  { sched with
    jobSequences := update sched.jobSequences jobID
      (max (sched.jobSequences jobID) replayedMax) }

def updateJobStatus (sched : Scheduler Input) (ref : Nat) (status : JobStatus) (now : Time) :
    Scheduler Input :=
  match sched.objects ref with
  | none => sched
  | some job => setObject sched ref { job with status := status, updatedAt := now }

def jobTransitionAllowed (previous : Option JobLifecycleState) (newState : JobLifecycleState) :
    Bool :=
  match previous with
  | none => decide (newState = .submitted)
  | some state => canTransitionJobState state newState

def jobRecord (sequenceID : Nat) (job : Job Input) (transition : TransitionType)
    (newState : JobLifecycleState) (errorSummary : String) (now : Time) : TransitionRecord where
  sequenceID := sequenceID
  entityType := .job
  transition := transition
  jobID := job.id
  taskID := ""
  previousState := jobStateText job.lifecycleState
  newState := newState.text
  nodeID := ""
  attempt := 0
  errorSummary := errorSummary
  occurredAt := now

def jobRow (sequenceID : Nat) (job : Job Input) (newState : Option JobLifecycleState)
    (now : Time) : DurableJobRecord where
  jobID := job.id
  name := job.name
  currentState := newState
  lastSequenceID := sequenceID
  createdAt := job.createdAt
  updatedAt := now

/-- `recordJobTransition` runs under the mutex of its object. Check, sequence number,
transaction and the new in-memory state are taken as one step: what other objects of
the job, or writers that do not lock it, do between number and transaction is assumed
to come before or after. -/
def recordJobTransition [GoRuntime Input] (sched : Scheduler Input) (ref : Nat)
    (transition : TransitionType) (newState : JobLifecycleState) (errorSummary : String)
    (now : Time) (fault : Option GoError) : Scheduler Input :=
  match sched.objects ref with
  | none => sched
  | some job =>
    if jobTransitionAllowed job.lifecycleState newState then
      let sequenceID := nextSequence sched job.id
      let record := jobRecord sequenceID job transition newState
        (normalizeTransitionErrorSummary Input errorSummary) now
      let row := jobRow sequenceID job (some newState) now
      let taken := takeSequence sched job.id
      match persistTransitionWrite fault (jobTransitionTx record row) taken.store with
      | .error _ => taken
      | .ok store =>
        setObject { taken with store := store } ref
          { job with lifecycleState := some newState }
    else sched

/-- `durableJobSnapshot`: read from the job table, outside the transaction. -/
def durableJobSnapshot (sched : Scheduler Input) (jobID : String) (sequenceID : Nat)
    (now : Time) : Option DurableJobRecord :=
  (registeredJob sched jobID).map fun job => jobRow sequenceID job job.lifecycleState now

/-- A prepared record waiting for its transaction. -/
structure PendingWrite where
  record : TransitionRecord
  newState : TaskLifecycleState
  snapshot : Option DurableJobRecord
  deriving DecidableEq, Repr

def taskTransitionAllowed (previous : Option TaskLifecycleState) (newState : TaskLifecycleState) :
    Bool :=
  match previous with
  | none => decide (newState = .pending)
  | some state => canTransitionTaskState state newState

def taskRecord (sequenceID : Nat) (task : Task Input) (transition : TransitionType)
    (previous : Option TaskLifecycleState) (newState : TaskLifecycleState) (nodeID : String)
    (attempt : Int) (errorSummary : String) (now : Time) : TransitionRecord where
  sequenceID := sequenceID
  entityType := .task
  transition := transition
  jobID := task.jobID
  taskID := task.id
  previousState := taskStateText previous
  newState := newState.text
  nodeID := nodeID
  attempt := attempt
  errorSummary := errorSummary
  occurredAt := now

def taskRow [GoRuntime Input] (task : Task Input) (nodeID : String)
    (newState : TaskLifecycleState) (attempt : Int) (now : Time) : DurableTaskRecord where
  taskID := task.id
  jobID := task.jobID
  stageID := task.stageID
  nodeID := nodeID
  agentID := task.agentID
  agentName := task.agentName
  inputJSON := marshalAgentInput task.input
  partitionKey := task.partitionKey
  currentState := some newState
  lastAttempt := attempt
  updatedAt := now

/-- The kinds of task transition written by `recordTaskTransition`. A dispatch
is not among them: it is written by the claim. -/
inductive TaskReport where
  | created
  | running
  | succeeded
  | failed
  deriving DecidableEq, Repr

def TaskReport.transition : TaskReport → TransitionType
  | .created => .taskCreated
  | .running => .taskRunning
  | .succeeded => .taskSucceeded
  | .failed => .taskFailed

def TaskReport.newState : TaskReport → TaskLifecycleState
  | .created => .pending
  | .running => .running
  | .succeeded => .succeeded
  | .failed => .failed

/-- The first half of `recordTaskTransition`; `none` when the transition is
skipped as invalid for the task's in-memory state. -/
def prepareTaskTransition [GoRuntime Input] (task : Task Input) (report : TaskReport)
    (nodeID : String) (attempt : Int) (errorSummary : String) (sequenceID : Nat)
    (snapshot : Option DurableJobRecord) (now : Time) : Option PendingWrite :=
  if taskTransitionAllowed task.lifecycleState report.newState then
    some
      { record := taskRecord sequenceID task report.transition task.lifecycleState
          report.newState nodeID attempt (normalizeTransitionErrorSummary Input errorSummary) now
        newState := report.newState
        snapshot := snapshot }
  else none

/-- The second half: one transaction, then the in-memory state. An error is
only logged; task and store stay as they were. -/
def commitTaskTransition [GoRuntime Input] (task : Task Input) (write : PendingWrite)
    (fault : Option GoError) (store : TransitionStore) :
    Except GoError (Task Input × TransitionStore) :=
  let row := taskRow task write.record.nodeID write.newState write.record.attempt
    write.record.occurredAt
  match persistTransitionWrite fault (taskTransitionTx write.record row write.snapshot) store with
  | .error err => .error err
  | .ok after => .ok ({ task with lifecycleState := some write.newState }, after)

/-- A task without a state is claimed as if it were pending. -/
def claimPreviousState (task : Task Input) : TaskLifecycleState :=
  task.lifecycleState.getD .pending

def prepareDispatchClaim (task : Task Input) (nodeID : String) (attempt : Int) (sequenceID : Nat)
    (snapshot : Option DurableJobRecord) (now : Time) : Option PendingWrite :=
  if canTransitionTaskState (claimPreviousState task) .dispatched then
    some
      { record := taskRecord sequenceID task .taskDispatched (some (claimPreviousState task))
          .dispatched nodeID attempt "" now
        newState := .dispatched
        snapshot := snapshot }
  else none

def claimOf (task : Task Input) (write : PendingWrite) : TaskDispatchClaim where
  taskID := task.id
  jobID := task.jobID
  stageID := task.stageID
  nodeID := write.record.nodeID
  attempt := write.record.attempt
  updatedAt := write.record.occurredAt

/-- The claim transaction. An error is either the rejection itself or a wrapped
store error, which ends the retry loop. -/
def commitDispatchClaim (task : Task Input) (write : PendingWrite) (fault : Option GoError)
    (store : TransitionStore) : Except GoError (Task Input × TransitionStore) :=
  match persistTransitionWrite fault
      (dispatchClaimTx write.record (claimOf task write) write.snapshot) store with
  | .error err =>
    if err.isDispatchClaimRejected then .error errDispatchClaimRejected
    else .error (err.wrap "persist dispatch claim transition: ")
  | .ok after => .ok ({ task with lifecycleState := some .dispatched }, after)

/-- The job transitions that the first durable dispatch of a task brings about. -/
def firstDispatchTransitions : Option JobLifecycleState →
    List (TransitionType × JobLifecycleState)
  | some .submitted => [(.jobQueued, .queued), (.jobRunning, .running)]
  | some .queued => [(.jobRunning, .running)]
  | some .awaitingHuman => [(.jobResumed, .running)]
  | _ => []

structure LeadershipAuthority where
  isLeader : Bool
  leaderID : String
  epoch : String
  deriving DecidableEq, Repr

def staleDispatchAuthority (authority : LeadershipAuthority) : GoError :=
  .plain ("stale dispatch authority: leader_id=" ++ authority.leaderID ++
    " epoch=" ++ authority.epoch)

def enqueueJob (sched : Scheduler Input) (ref : Nat) : Scheduler Input × Bool :=
  match sched.objects ref with
  | none => (sched, false)
  | some job =>
    if sched.queuedJobs job.id then (sched, false)
    else if sched.jobQueue.length < sched.config.jobQueueSize then
      ({ sched with
        jobQueue := sched.jobQueue ++ [ref]
        queuedJobs := update sched.queuedJobs job.id true }, true)
    else (sched, false)

def markJobDequeued (sched : Scheduler Input) (ref : Nat) : Scheduler Input :=
  match sched.objects ref with
  | none => sched
  | some job => { sched with queuedJobs := update sched.queuedJobs job.id false }

/-- `isExecutableDequeuedJob` looks at the table's object when there is one. -/
def isExecutableDequeuedJob (sched : Scheduler Input) (ref : Nat) : Bool :=
  match sched.objects ref with
  | none => false
  | some job =>
    match ((registeredJob sched job.id).getD job).lifecycleState with
    | some .submitted | some .queued => true
    | _ => false

def nothingReplayed (replayed : ReplayedJobState) : Bool :=
  replayed.job.currentState.isNone && replayed.tasks.entries.isEmpty &&
    replayed.transitions.isEmpty

/-- The reading half of `refreshJobFromDurableState`, before the lock. -/
def readDurableState (ctxErr : Option GoError) (store : TransitionStore) (jobID : String) :
    Option ReplayedJobState :=
  if isBlank jobID then none
  else
    match replayJobState ctxErr store jobID with
    | .error _ => none
    | .ok replayed => if nothingReplayed replayed then none else some replayed

/-- What the rebuilt job takes over from the entry it replaces. -/
def adoptExisting (hydrated : Job Input) (existing : Option (Job Input)) : Job Input :=
  match existing with
  | none => hydrated
  | some job =>
    { hydrated with
      name := if hydrated.name = "" then job.name else hydrated.name
      createdAt := if hydrated.createdAt = 0 then job.createdAt else hydrated.createdAt }

@[simp] theorem adopt_existing_id (hydrated : Job Input) (existing : Option (Job Input)) :
    (adoptExisting hydrated existing).id = hydrated.id := by
  cases existing <;> rfl

@[simp] theorem adopt_existing_state (hydrated : Job Input) (existing : Option (Job Input)) :
    (adoptExisting hydrated existing).lifecycleState = hydrated.lifecycleState := by
  cases existing <;> rfl

@[simp] theorem adopt_existing_stages (hydrated : Job Input) (existing : Option (Job Input)) :
    (adoptExisting hydrated existing).stages = hydrated.stages := by
  cases existing <;> rfl

/-- The installing half, under the scheduler's lock. `rows` are the replayed
task rows in the order in which the map yields them. -/
def installRefreshedJob [GoRuntime Input] (sched : Scheduler Input) (jobID : String)
    (replayed : ReplayedJobState) (rows : List DurableTaskRecord) : Scheduler Input :=
  let hydrated := buildRecoveredRuntimeJob replayed rows
  seedJobSequence (registerJob sched (adoptExisting hydrated (registeredJob sched jobID))) jobID
    replayed.job.lastSequenceID replayed.transitions

end Dagens.Scheduler.Transitions
