import Dagens.Lib.KeyedTable
import Dagens.Scheduler.DataModel

/-!
# The PostgreSQL transition store

`PostgresTransitionStore`: three tables with primary keys and the statements
that the store runs on them. A column keeps what its type can hold: `BIGINT`
reads a Go `uint64` as two's complement, `INTEGER` refuses what does not fit,
`TIMESTAMPTZ` counts microseconds and `TEXT` refuses the zero character.

Texts are ordered by the collation of the database.
-/

namespace Dagens.Scheduler.PostgresStore

open Lib Lifecycle GoSupport

/-- `int64(x)` for a `uint64`. -/
def bigint (value : Nat) : Int := Int.bmod value (2 ^ 64)

/-- `uint64(x)` for an `int64`. -/
def uint64 (column : Int) : Nat := (column % 2 ^ 64).toNat

def fitsInteger (value : Int) : Bool := decide (-2 ^ 31 ≤ value ∧ value < 2 ^ 31)

def timestamptz (time : Time) : Time := time / 1000 * 1000

def fitsText (text : String) : Bool := text.toList.all fun rune => decide (rune.toNat ≠ 0)

structure TransitionRow where
  jobID : String
  sequenceID : Int
  entityType : TransitionEntityType
  transition : TransitionType
  taskID : String
  previousState : String
  newState : String
  nodeID : String
  attempt : Int
  errorSummary : String
  occurredAt : Time
  deriving DecidableEq, Repr

structure JobRow where
  jobID : String
  name : String
  currentState : Option JobLifecycleState
  lastSequenceID : Int
  createdAt : Time
  updatedAt : Time
  deriving DecidableEq, Repr

structure Tables where
  transitions : AList fun _ : String × Int => TransitionRow
  jobs : AList fun _ : String => JobRow
  tasks : AList fun _ : String => DurableTaskRecord

def newTables : Tables := ⟨∅, ∅, ∅⟩

def transitionTexts (record : TransitionRecord) : List String :=
  [record.jobID, record.entityType.text, record.transition.text, record.taskID,
    record.previousState, record.newState, record.nodeID, record.errorSummary]

def transitionRow (record : TransitionRecord) : TransitionRow where
  jobID := record.jobID
  sequenceID := bigint record.sequenceID
  entityType := record.entityType
  transition := record.transition
  taskID := record.taskID
  previousState := record.previousState
  newState := record.newState
  nodeID := record.nodeID
  attempt := record.attempt
  errorSummary := record.errorSummary
  occurredAt := timestamptz record.occurredAt

def appendTransition (tables : Tables) (record : TransitionRecord) : Except GoError Tables :=
  match validate record with
  | .error message => .error (.plain message)
  | .ok () =>
    if !(fitsInteger record.attempt && (transitionTexts record).all fitsText) then
      .error (.plain "append transition: value does not fit its column")
    else
      match KeyedTable.insertRow tables.transitions (record.jobID, bigint record.sequenceID)
          (transitionRow record) with
      | none => .error (.plain "append transition: duplicate key value")
      | some transitions =>
        .ok
          { tables with
            transitions := transitions
            jobs := KeyedTable.updateRow tables.jobs record.jobID fun row =>
              { row with
                lastSequenceID := max row.lastSequenceID (bigint record.sequenceID) } }

def jobTexts (job : DurableJobRecord) : List String :=
  [job.jobID, job.name, jobStateText job.currentState]

def jobRow (job : DurableJobRecord) : JobRow where
  jobID := job.jobID
  name := job.name
  currentState := job.currentState
  lastSequenceID := bigint job.lastSequenceID
  createdAt := timestamptz job.createdAt
  updatedAt := timestamptz job.updatedAt

/-- On a conflict every column but `created_at` is set. -/
def upsertJob (tables : Tables) (job : DurableJobRecord) : Except GoError Tables :=
  if !(jobTexts job).all fitsText then
    .error (.plain "upsert job: value does not fit its column")
  else
    .ok
      { tables with
        jobs := (KeyedTable.insertOrUpdate tables.jobs job.jobID (jobRow job) fun existing =>
          some { existing with
            name := job.name
            currentState := job.currentState
            lastSequenceID := max existing.lastSequenceID (bigint job.lastSequenceID)
            updatedAt := timestamptz job.updatedAt }).1 }

def taskTexts (task : DurableTaskRecord) : List String :=
  [task.taskID, task.jobID, task.stageID, task.nodeID, task.agentID, task.agentName,
    task.inputJSON, task.partitionKey, taskStateText task.currentState]

def taskRow (task : DurableTaskRecord) : DurableTaskRecord :=
  { task with updatedAt := timestamptz task.updatedAt }

def upsertTask (tables : Tables) (task : DurableTaskRecord) : Except GoError Tables :=
  if !(fitsInteger task.lastAttempt && (taskTexts task).all fitsText) then
    .error (.plain "upsert task: value does not fit its column")
  else
    .ok
      { tables with
        tasks := (KeyedTable.insertOrUpdate tables.tasks task.taskID (taskRow task) fun existing =>
          some { existing with
            jobID := task.jobID
            stageID := task.stageID
            nodeID := task.nodeID
            agentID := task.agentID
            agentName := task.agentName
            inputJSON := task.inputJSON
            partitionKey := task.partitionKey
            currentState := task.currentState
            lastAttempt := task.lastAttempt
            updatedAt := timestamptz task.updatedAt }).1 }

def claimTexts (claim : TaskDispatchClaim) : List String :=
  [claim.taskID, claim.jobID, claim.stageID, claim.nodeID]

/-- The columns that the statement does not name have their default. -/
def dispatchRow (claim : TaskDispatchClaim) : DurableTaskRecord where
  taskID := claim.taskID
  jobID := claim.jobID
  stageID := claim.stageID
  nodeID := claim.nodeID
  agentID := ""
  agentName := ""
  inputJSON := ""
  partitionKey := ""
  currentState := some .dispatched
  lastAttempt := claim.attempt
  updatedAt := timestamptz claim.updatedAt

def claimTaskDispatch (tables : Tables) (claim : TaskDispatchClaim) :
    Except GoError (Tables × Bool) :=
  if !(fitsInteger claim.attempt && (claimTexts claim).all fitsText) then
    .error (.plain "claim task dispatch: value does not fit its column")
  else
    let claimed := KeyedTable.insertOrUpdate tables.tasks claim.taskID (dispatchRow claim)
      fun existing =>
        if existing.lastAttempt < claim.attempt ∧
            existing.currentState ∉ [some .running, some .succeeded] then
          some { existing with
            jobID := claim.jobID
            stageID := claim.stageID
            nodeID := claim.nodeID
            currentState := some .dispatched
            lastAttempt := claim.attempt
            updatedAt := timestamptz claim.updatedAt }
        else none
    .ok ({ tables with tasks := claimed.1 }, decide (0 < claimed.2))

def JobRow.record (row : JobRow) : DurableJobRecord where
  jobID := row.jobID
  name := row.name
  currentState := row.currentState
  lastSequenceID := uint64 row.lastSequenceID
  createdAt := row.createdAt
  updatedAt := row.updatedAt

def TransitionRow.record (row : TransitionRow) : TransitionRecord where
  sequenceID := uint64 row.sequenceID
  entityType := row.entityType
  transition := row.transition
  jobID := row.jobID
  taskID := row.taskID
  previousState := row.previousState
  newState := row.newState
  nodeID := row.nodeID
  attempt := row.attempt
  errorSummary := row.errorSummary
  occurredAt := row.occurredAt

def listUnfinishedJobs (collation : String → String → Bool) (tables : Tables) :
    List DurableJobRecord :=
  (((KeyedTable.rows tables.jobs).filter fun row =>
    decide (row.currentState ∉ [some .succeeded, some .failed, some .canceled])).insertionSort
      fun first second => first.createdAt < second.createdAt ∨
        first.createdAt = second.createdAt ∧ collation first.jobID second.jobID = true).map
          JobRow.record

def listTransitionsByJob (tables : Tables) (jobID : String) : List TransitionRecord :=
  (((KeyedTable.rows tables.transitions).filter fun row =>
    decide (row.jobID = jobID)).insertionSort
      fun first second => first.sequenceID ≤ second.sequenceID).map TransitionRow.record

def listTasksByJob (collation : String → String → Bool) (tables : Tables) (jobID : String) :
    List DurableTaskRecord :=
  ((KeyedTable.rows tables.tasks).filter fun row => decide (row.jobID = jobID)).insertionSort
    fun first second => collation first.taskID second.taskID = true

end Dagens.Scheduler.PostgresStore
