import Dagens.Lib.SequencedLog
import Dagens.Scheduler.Lifecycle
import Dagens.Scheduler.GoSupport

/-!
# Jobs, durable rows and the transition store

The runtime objects of `types.go`, the durable rows of `state_machine.go` and
`InMemoryTransitionStore`. A store transaction is a function to `Except`: an
error leaves the store that the caller still holds, which is what `WithTx`
does by working on a copy.
-/

namespace Dagens.Scheduler

open Lib Lifecycle GoSupport

inductive JobStatus where
  | pending
  | running
  | completed
  | failed
  | blocked
  | awaitingHuman
  | suspended
  deriving DecidableEq, Repr

structure Task (Input : Type) where
  id : String
  stageID : String
  jobID : String
  agentID : String
  agentName : String
  input : Option Input
  partitionKey : String
  status : JobStatus
  lifecycleState : Option TaskLifecycleState
  attempts : Int

structure Stage (Input : Type) where
  id : String
  jobID : String
  tasks : List (Task Input)
  dependencies : List String
  status : JobStatus

structure LogicalEdge where
  source : String
  target : String
  deriving DecidableEq, Repr

structure Job (Input : Type) where
  id : String
  name : String
  stages : List (Stage Input)
  edges : List LogicalEdge
  status : JobStatus
  lifecycleState : Option JobLifecycleState
  createdAt : Time
  updatedAt : Time

def newJob (Input : Type) (id name : String) (now : Time) : Job Input where
  id := id
  name := name
  stages := []
  edges := []
  status := .pending
  lifecycleState := some .submitted
  createdAt := now
  updatedAt := now

def jobTasks {Input : Type} (job : Job Input) : List (Task Input) :=
  job.stages.flatMap (·.tasks)

structure DurableJobRecord where
  jobID : String
  name : String
  currentState : Option JobLifecycleState
  lastSequenceID : Nat
  createdAt : Time
  updatedAt : Time
  deriving DecidableEq, Repr

structure DurableTaskRecord where
  taskID : String
  jobID : String
  stageID : String
  nodeID : String
  agentID : String
  agentName : String
  inputJSON : String
  partitionKey : String
  currentState : Option TaskLifecycleState
  lastAttempt : Int
  updatedAt : Time
  deriving DecidableEq, Repr

structure TaskDispatchClaim where
  taskID : String
  jobID : String
  stageID : String
  nodeID : String
  attempt : Int
  updatedAt : Time
  deriving DecidableEq, Repr

structure TransitionStore where
  transitions : String → List TransitionRecord
  jobs : AList (fun _ : String => DurableJobRecord)
  tasks : AList (fun _ : String => DurableTaskRecord)

def newTransitionStore : TransitionStore where
  transitions := fun _ => []
  jobs := ∅
  tasks := ∅

/-- The row's sequence number follows the log, when there is a row. -/
def bumpLastSequence (jobs : AList (fun _ : String => DurableJobRecord))
    (record : TransitionRecord) : AList (fun _ : String => DurableJobRecord) :=
  match jobs.lookup record.jobID with
  | some job =>
    if job.lastSequenceID < record.sequenceID then
      jobs.insert record.jobID { job with lastSequenceID := record.sequenceID }
    else jobs
  | none => jobs

def appended (store : TransitionStore) (record : TransitionRecord) : TransitionStore :=
  { store with
    transitions := Function.update store.transitions record.jobID
      (SequencedLog.append TransitionRecord.sequenceID
        (store.transitions record.jobID) record)
    jobs := bumpLastSequence store.jobs record }

def appendTransition (store : TransitionStore) (record : TransitionRecord) :
    Except GoError TransitionStore :=
  match validate record with
  | .error message => .error (.plain message)
  | .ok () => .ok (appended store record)

/-- `UpsertJob` keeps the larger sequence number and overwrites the rest. -/
def upsertJob (store : TransitionStore) (job : DurableJobRecord) : TransitionStore :=
  let lastSequenceID :=
    match store.jobs.lookup job.jobID with
    | some existing => max existing.lastSequenceID job.lastSequenceID
    | none => job.lastSequenceID
  { store with
    jobs := store.jobs.insert job.jobID { job with lastSequenceID := lastSequenceID } }

def upsertTask (store : TransitionStore) (task : DurableTaskRecord) : TransitionStore :=
  { store with tasks := store.tasks.insert task.taskID task }

/-- The compare-and-set of `ClaimTaskDispatch`, on the row found. -/
def claimAccepted (existing : DurableTaskRecord) (attempt : Int) : Bool :=
  decide (existing.lastAttempt < attempt) &&
    decide (existing.currentState ≠ some .running) &&
    decide (existing.currentState ≠ some .succeeded)

def claimedRow (claim : TaskDispatchClaim) : Option DurableTaskRecord → DurableTaskRecord
  | none =>
    { taskID := claim.taskID
      jobID := claim.jobID
      stageID := claim.stageID
      nodeID := claim.nodeID
      agentID := ""
      agentName := ""
      inputJSON := ""
      partitionKey := ""
      currentState := some .dispatched
      lastAttempt := claim.attempt
      updatedAt := claim.updatedAt }
  | some existing =>
    { existing with
      jobID := claim.jobID
      stageID := claim.stageID
      nodeID := claim.nodeID
      currentState := some .dispatched
      lastAttempt := claim.attempt
      updatedAt := claim.updatedAt }

/-- The store after the claim, or `none` when ownership was not claimed. -/
def claimTaskDispatch (store : TransitionStore) (claim : TaskDispatchClaim) :
    Option TransitionStore :=
  if claim.taskID = "" then none
  else
    let existing := store.tasks.lookup claim.taskID
    if existing.all (claimAccepted · claim.attempt) then
      some { store with tasks := store.tasks.insert claim.taskID (claimedRow claim existing) }
    else none

def listUnfinishedJobs (store : TransitionStore) : List DurableJobRecord :=
  ((store.jobs.entries.map (·.2)).filter fun job =>
    !job.currentState.any isTerminalJobState).insertionSort
      fun first second => first.createdAt ≤ second.createdAt

def listTransitionsByJob (store : TransitionStore) (jobID : String) : List TransitionRecord :=
  store.transitions jobID

def listTasksByJob (store : TransitionStore) (jobID : String) : List DurableTaskRecord :=
  ((store.tasks.entries.map (·.2)).filter fun task =>
    decide (task.jobID = jobID)).insertionSort fun first second => first.taskID ≤ second.taskID

/-- The three transactions the scheduler runs. A snapshot is present when the
job was registered at the time it was captured. -/
def upsertSnapshot (store : TransitionStore) : Option DurableJobRecord → TransitionStore
  | some snapshot => upsertJob store snapshot
  | none => store

def jobTransitionTx (record : TransitionRecord) (row : DurableJobRecord)
    (store : TransitionStore) : Except GoError TransitionStore := do
  let logged ← appendTransition store record
  return upsertJob logged row

def taskTransitionTx (record : TransitionRecord) (row : DurableTaskRecord)
    (snapshot : Option DurableJobRecord) (store : TransitionStore) :
    Except GoError TransitionStore := do
  let logged ← appendTransition store record
  return upsertSnapshot (upsertTask logged row) snapshot

def dispatchClaimTx (record : TransitionRecord) (claim : TaskDispatchClaim)
    (snapshot : Option DurableJobRecord) (store : TransitionStore) :
    Except GoError TransitionStore :=
  match claimTaskDispatch store claim with
  | none => .error errDispatchClaimRejected
  | some claimed => do
      let logged ← appendTransition claimed record
      return upsertSnapshot logged snapshot

/-- `persistTransitionWrite`: the environment may make any write fail. -/
def persistTransitionWrite (fault : Option GoError)
    (tx : TransitionStore → Except GoError TransitionStore) (store : TransitionStore) :
    Except GoError TransitionStore :=
  match fault with
  | some err => .error err
  | none => tx store

def sampleTask (id : String) : Task SampleInput where
  id := id
  stageID := "stage-1"
  jobID := "job-1"
  agentID := "agent"
  agentName := "agent"
  input := some .blank
  partitionKey := ""
  status := .pending
  lifecycleState := none
  attempts := 0

def pendingTask : Task SampleInput := { sampleTask "task-1" with lifecycleState := some .pending }

end Dagens.Scheduler
