import Dagens.Scheduler.StoreEffects

/-!
# The reconcile pass

`reconcileDurableQueuedJobsOnce` cut at its accesses to shared state. A pass
lists the unfinished durable jobs and takes them one by one; the decision to
fail a job and the write that fails it are several steps apart, and the locked
part of the loop body is left open to threads that do not take the scheduler's
lock.
-/

namespace Dagens.Scheduler.Reconcile

open Lifecycle GoSupport Replay Recovery Transitions Function

inductive ReconcileMode where
  | leader
  | follower
  deriving DecidableEq, Repr

def second : Time := 1000000000

def malformedReplayQuarantineTTL : Time := 30 * second

def staleInFlightReconcileTimeout : Time := 60 * second

def replayedRows (replayed : ReplayedJobState) : List DurableTaskRecord :=
  replayed.tasks.entries.map (·.2)

def allReplayedTasksPending (rows : List DurableTaskRecord) : Bool :=
  rows.all fun row => row.currentState.all fun state => decide (state = .pending)

def staleInFlight (now timeout : Time) (row : DurableTaskRecord) : Bool :=
  (decide (row.currentState = some .dispatched) || decide (row.currentState = some .running)) &&
    (decide (row.updatedAt = 0) || decide (row.updatedAt + timeout < now))

def hasStaleInFlightReplayedTask (rows : List DurableTaskRecord) (now timeout : Time) : Bool :=
  decide (0 < timeout) && rows.any (staleInFlight now timeout)

def replayedTerminalJobState (rows : List DurableTaskRecord) : Option JobLifecycleState :=
  if rows.isEmpty then none
  else if rows.all fun row => row.currentState.any isTerminalTaskState then
    if rows.any fun row => decide (row.currentState = some .failed) then some .failed
    else some .succeeded
  else none

variable {Input : Type}

/-- The answer says whether the pass is done with the job. -/
def tryEnqueueExistingQueuedJob (sched : Scheduler Input) (jobID : String) :
    Scheduler Input × Bool :=
  match sched.jobs jobID with
  | none => (sched, false)
  | some ref =>
    match sched.objects ref with
    | none => (sched, false)
    | some job =>
      if job.lifecycleState ≠ some .queued then (sched, false)
      else if !isSafeForQueuedResume job then (sched, false)
      else if 0 < recoveredQueuedMissingExecutionFieldCount job
          sched.config.enableStickiness then (sched, false)
      else if sched.queuedJobs job.id then (sched, true)
      else enqueueJob sched ref

/-- A pass sorts the unfinished jobs by age and, among equals, by id. -/
def reconcileOrder (first other : DurableJobRecord) : Prop :=
  first.createdAt < other.createdAt ∨
    first.createdAt = other.createdAt ∧ first.jobID ≤ other.jobID

instance (first other : DurableJobRecord) : Decidable (reconcileOrder first other) :=
  inferInstanceAs (Decidable (_ ∨ _))

/-- What a replay takes over from the listed row. -/
def completeReplay (durableJob : DurableJobRecord) (replayed : ReplayedJobState) :
    ReplayedJobState :=
  let last := (replayed.transitions.getLast?.map (·.sequenceID)).getD 0
  { replayed with
    job := { replayed.job with
      name := durableJob.name
      lastSequenceID := max durableJob.lastSequenceID last
      createdAt := if replayed.job.createdAt = 0 then durableJob.createdAt
        else replayed.job.createdAt
      updatedAt := if replayed.job.updatedAt = 0 then durableJob.updatedAt
        else replayed.job.updatedAt } }

def orphanReason : String :=
  "reconcile detected orphan running state without dispatched/running tasks after leadership loss"

def staleReason : String := "reconcile detected stale in-flight task after leadership loss"

def missingFieldsReason (count : Nat) : String :=
  "reconcile skipped auto-resume: recovered queued job missing execution fields (" ++
    toString count ++ ")"

def replayFailedReason (err : GoError) : String := "reconcile replay failed: " ++ err.message

/-- Where a pass is. `todo` are the listed jobs still to be looked at. -/
inductive PassPC where
  | listing
  | next (todo : List DurableJobRecord)
  | replaying (durableJob : DurableJobRecord) (todo : List DurableJobRecord)
  | locking (durableJob : DurableJobRecord) (replayed : ReplayedJobState)
      (todo : List DurableJobRecord)
  | examining (ref : Nat) (durableJob : DurableJobRecord) (rows : List DurableTaskRecord)
      (todo : List DurableJobRecord)
  | synthesizing (ref : Nat) (terminal : JobLifecycleState) (todo : List DurableJobRecord)
  | recordTerminal (ref : Nat) (terminal : JobLifecycleState) (todo : List DurableJobRecord)
  | queueing (ref : Nat) (durableJob : DurableJobRecord) (todo : List DurableJobRecord)
  | admitting (ref : Nat) (durableJob : DurableJobRecord) (todo : List DurableJobRecord)
  | authorizing (durableJob : DurableJobRecord) (reason : String) (todo : List DurableJobRecord)
  | fetching (durableJob : DurableJobRecord) (reason : String) (todo : List DurableJobRecord)
  | condemning (ref : Nat) (durableJob : DurableJobRecord) (reason : String)
      (todo : List DurableJobRecord)
  | deciding (ref : Nat) (durableJob : DurableJobRecord) (reason : String)
      (todo : List DurableJobRecord)
  | forcing (ref : Nat) (durableJob : DurableJobRecord) (todo : List DurableJobRecord)

structure Pass where
  mode : ReconcileMode
  expired : Bool
  pc : PassPC

def errDeadlineExceeded : GoError := .plain "context deadline exceeded"

def Pass.ctxErr (pass : Pass) : Option GoError :=
  if pass.expired then some errDeadlineExceeded else none

/-- What the environment contributes to a step of a thread. -/
structure Oracle where
  fault : Option GoError
  ctxErr : Option GoError
  authority : Except GoError LeadershipAuthority
  nodesAvailable : Bool
  mapOrder : List DurableTaskRecord → List DurableTaskRecord
  permutes : ∀ rows, (mapOrder rows).Perm rows

def Oracle.isLeader (oracle : Oracle) : Bool :=
  match oracle.authority with
  | .ok authority => authority.isLeader
  | .error _ => false

def lifecycleOf (sched : Scheduler Input) (ref : Nat) : Option JobLifecycleState :=
  (sched.objects ref).bind (·.lifecycleState)

/-- A quarantine that has run out is cleared; `none` when the job is skipped. -/
def pastQuarantine (sched : Scheduler Input) (jobID : String) (now : Time) :
    Option (Scheduler Input) :=
  match sched.replayQuarantine jobID with
  | none => some sched
  | some deadline =>
    if now < deadline then none
    else some { sched with
      replayQuarantine := update sched.replayQuarantine jobID none }

def nextStep (sched : Scheduler Input) (pass : Pass) (durableJob : DurableJobRecord)
    (todo : List DurableJobRecord) (now : Time) : Scheduler Input × Option PassPC :=
  if pass.expired then (sched, none)
  else
    match pastQuarantine sched durableJob.jobID now with
    | none => (sched, some (.next todo))
    | some cleared =>
      if pass.mode = .leader then
        let tried := tryEnqueueExistingQueuedJob cleared durableJob.jobID
        (tried.1, some (if tried.2 then .next todo else .replaying durableJob todo))
      else (cleared, some (.replaying durableJob todo))

def replayStep (sched : Scheduler Input) (pass : Pass) (durableJob : DurableJobRecord)
    (todo : List DurableJobRecord) (now : Time) : Scheduler Input × Option PassPC :=
  match replayJobState pass.ctxErr sched.store durableJob.jobID with
  | .error err =>
    if pass.mode = .leader then
      ({ sched with
        replayQuarantine := update sched.replayQuarantine durableJob.jobID
          (some (now + malformedReplayQuarantineTTL)) },
        some (.authorizing durableJob (replayFailedReason err) todo))
    else (sched, some (.next todo))
  | .ok raw =>
    let cleared := { sched with
      replayQuarantine := update sched.replayQuarantine durableJob.jobID none }
    let replayed := completeReplay durableJob raw
    let rows := replayedRows replayed
    if pass.mode = .leader ∧ replayed.job.currentState = some .running ∧
        allReplayedTasksPending rows then
      (cleared, some (.authorizing durableJob orphanReason todo))
    else if pass.mode = .leader ∧ replayed.job.currentState = some .running ∧
        hasStaleInFlightReplayedTask rows now staleInFlightReconcileTimeout then
      (cleared, some (.authorizing durableJob staleReason todo))
    else (cleared, some (.locking durableJob replayed todo))

/-- The job object of the table: built when there is none, and moved to the
replayed state when the replay has seen more than the process has counted. -/
def warmJob [GoRuntime Input] (sched : Scheduler Input) (replayed : ReplayedJobState)
    (rows : List DurableTaskRecord) : Scheduler Input × Nat :=
  match sched.jobs replayed.job.jobID with
  | none =>
    (seedJobSequence (registerJob sched (buildRecoveredRuntimeJob replayed rows))
      replayed.job.jobID replayed.job.lastSequenceID replayed.transitions, sched.nextRef)
  | some ref =>
    match sched.objects ref with
    | none => (sched, ref)
    | some job =>
      if sched.jobSequences replayed.job.jobID < replayed.job.lastSequenceID then
        (seedJobSequence (setObject sched ref
            { job with
              lifecycleState := replayed.job.currentState
              updatedAt := replayed.job.updatedAt })
          job.id replayed.job.lastSequenceID replayed.transitions, ref)
      else (sched, ref)

def lockStep [GoRuntime Input] (sched : Scheduler Input) (pass : Pass)
    (durableJob : DurableJobRecord) (replayed : ReplayedJobState)
    (todo : List DurableJobRecord) (oracle : Oracle) : Scheduler Input × Option PassPC :=
  let warmed := warmJob sched replayed (oracle.mapOrder (replayedRows replayed))
  (warmed.1, some (if pass.mode = .leader then
      .examining warmed.2 durableJob (replayedRows replayed) todo
    else .next todo))

def examineStep (sched : Scheduler Input) (ref : Nat) (durableJob : DurableJobRecord)
    (rows : List DurableTaskRecord) (todo : List DurableJobRecord) : PassPC :=
  if lifecycleOf sched ref = some .running then
    match replayedTerminalJobState rows with
    | some terminal => .synthesizing ref terminal todo
    | none => .queueing ref durableJob todo
  else .queueing ref durableJob todo

def admitStep (sched : Scheduler Input) (ref : Nat) (durableJob : DurableJobRecord)
    (todo : List DurableJobRecord) : Scheduler Input × Option PassPC :=
  match sched.objects ref with
  | none => (sched, some (.next todo))
  | some job =>
    if job.lifecycleState ≠ some .queued then (sched, some (.next todo))
    else if !isSafeForQueuedResume job then (sched, some (.next todo))
    else
      let missing := recoveredQueuedMissingExecutionFieldCount job sched.config.enableStickiness
      if 0 < missing then
        (sched, some (.authorizing durableJob (missingFieldsReason missing) todo))
      else ((enqueueJob sched ref).1, some (.next todo))

def terminalTransition : JobLifecycleState → TransitionType
  | .succeeded => .jobSucceeded
  | _ => .jobFailed

def terminalStatus : JobLifecycleState → JobStatus
  | .succeeded => .completed
  | _ => .failed

def terminalReason : JobLifecycleState → String
  | .succeeded => "reconcile synthesized terminal success after leader failover"
  | _ => "reconcile synthesized terminal failure after leader failover"

/-- The object that is made up for a durable job unknown to the table. -/
def quarantinedJob (Input : Type) (durableJob : DurableJobRecord) : Job Input where
  id := durableJob.jobID
  name := durableJob.name
  stages := []
  edges := []
  status := runtimeJobStatusFromLifecycle durableJob.currentState
  lifecycleState := durableJob.currentState
  createdAt := durableJob.createdAt
  updatedAt := durableJob.updatedAt

def fetchStep (sched : Scheduler Input) (durableJob : DurableJobRecord) (reason : String)
    (todo : List DurableJobRecord) : Scheduler Input × Option PassPC :=
  let fetched :=
    match sched.jobs durableJob.jobID with
    | some ref => (sched, ref)
    | none => (registerJob sched (quarantinedJob Input durableJob), sched.nextRef)
  if (lifecycleOf fetched.1 fetched.2).any isTerminalJobState then
    (fetched.1, some (.next todo))
  else (fetched.1, some (.condemning fetched.2 durableJob reason todo))

/-- The forced quarantine writes memory and row without a transition record. -/
def forceStep (sched : Scheduler Input) (ref : Nat) (durableJob : DurableJobRecord)
    (now : Time) (fault : Option GoError) : Scheduler Input :=
  match sched.objects ref with
  | none => sched
  | some job =>
    let marked := setObject sched ref
      { job with lifecycleState := some .failed, updatedAt := now }
    match fault with
    | some _ => marked
    | none =>
      { marked with
        store := upsertJob sched.store
          { durableJob with currentState := some .failed, updatedAt := now } }

/-- `none` as the next position means that the pass has returned. -/
def passStep [GoRuntime Input] (sched : Scheduler Input) (pass : Pass) (oracle : Oracle)
    (now : Time) : Scheduler Input × Option PassPC :=
  match pass.pc with
  | .listing =>
    (sched, some (.next ((listUnfinishedJobs sched.store).insertionSort reconcileOrder)))
  | .next [] => (sched, none)
  | .next (durableJob :: todo) => nextStep sched pass durableJob todo now
  | .replaying durableJob todo => replayStep sched pass durableJob todo now
  | .locking durableJob replayed todo => lockStep sched pass durableJob replayed todo oracle
  | .examining ref durableJob rows todo =>
    (sched, some (examineStep sched ref durableJob rows todo))
  | .synthesizing ref terminal todo =>
    (updateJobStatus sched ref (terminalStatus terminal) now,
      some (.recordTerminal ref terminal todo))
  | .recordTerminal ref terminal todo =>
    (recordJobTransition sched ref (terminalTransition terminal) terminal
      (terminalReason terminal) now oracle.fault, some (.next todo))
  | .queueing ref durableJob todo =>
    (if lifecycleOf sched ref = some .submitted then
        recordJobTransition sched ref .jobQueued .queued "" now oracle.fault
      else sched, some (.admitting ref durableJob todo))
  | .admitting ref durableJob todo => admitStep sched ref durableJob todo
  | .authorizing durableJob reason todo =>
    (sched, some (if durableJob.jobID ≠ "" ∧ oracle.isLeader then
        .fetching durableJob reason todo
      else .next todo))
  | .fetching durableJob reason todo => fetchStep sched durableJob reason todo
  | .condemning ref durableJob reason todo =>
    (updateJobStatus sched ref .failed now, some (.deciding ref durableJob reason todo))
  | .deciding ref durableJob reason todo =>
    if (lifecycleOf sched ref).any (canTransitionJobState · .failed) then
      (recordJobTransition sched ref .jobFailed .failed reason now oracle.fault,
        some (.next todo))
    else (sched, some (.forcing ref durableJob todo))
  | .forcing ref durableJob todo =>
    (forceStep sched ref durableJob now oracle.fault, some (.next todo))

end Dagens.Scheduler.Reconcile
