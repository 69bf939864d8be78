import Dagens.Lib.KeyedTable
import Dagens.Scheduler.GoSupport

/-!
# Checkpoint stores

`PostgresCheckpointStore` with its two tables, read with the semantics of the
SQL statements it sends, and the in-memory store of `implementation.go`. A
statement may fail; `faults` gives the error of each statement of a call, in the
order in which the call sends them. A transaction that does not commit changes
nothing.
-/

namespace Dagens.Hitl.CheckpointStores

open Lib.KeyedTable Scheduler.GoSupport

/-- Times are in nanoseconds, with 0 for the zero time; a nil `StateData` is `none`. -/
structure ExecutionCheckpoint where
  graphID : String
  graphVersion : String
  nodeID : String
  stateData : Option String
  requestID : String
  jobID : String
  createdAt : Nat
  expiresAt : Nat
  traceID : String
  failureCount : Nat
  lastError : String
  lastAttempt : Nat
  deriving DecidableEq, Repr

/-- An error of a store, as `errors.Is(err, ErrCheckpointNotFound)` sees it. -/
inductive StoreError where
  | checkpointNotFound
  | failed (err : GoError)
  deriving DecidableEq, Repr

def StoreError.wrap (front : String) (err : GoError) : StoreError := .failed (err.wrap front)

abbrev Faults := Nat → Option GoError

structure CheckpointRow where
  graphID : String
  graphVersion : String
  nodeID : String
  stateData : String
  createdAt : Nat
  expiresAt : Nat
  traceID : String
  failureCount : Nat
  lastError : String
  lastAttempt : Option Nat
  deriving DecidableEq, Repr

structure DLQRow where
  originalRequestID : String
  graphID : String
  graphVersion : String
  nodeID : String
  stateData : String
  failureCount : Nat
  lastError : String
  lastAttempt : Option Nat
  deriving DecidableEq, Repr

structure Tables where
  checkpoints : AList fun _ : String => CheckpointRow
  dlq : AList fun _ : String => DLQRow

def nullableTime (time : Nat) : Option Nat := if time = 0 then none else some time

/-- A `TIMESTAMPTZ` column keeps whole microseconds. -/
def timestamptz (time : Nat) : Nat := time / 1000 * 1000

/-- The values of the `INSERT`; there is no column for the job id. -/
def rowOf (cp : ExecutionCheckpoint) (stateData : String) : CheckpointRow where
  graphID := cp.graphID
  graphVersion := cp.graphVersion
  nodeID := cp.nodeID
  stateData := stateData
  createdAt := timestamptz cp.createdAt
  expiresAt := timestamptz cp.expiresAt
  traceID := cp.traceID
  failureCount := cp.failureCount
  lastError := cp.lastError
  lastAttempt := (nullableTime cp.lastAttempt).map timestamptz

/-- The `Scan` of `GetByRequestID`. -/
def CheckpointRow.scan (requestID : String) (row : CheckpointRow) : ExecutionCheckpoint where
  graphID := row.graphID
  graphVersion := row.graphVersion
  nodeID := row.nodeID
  stateData := some row.stateData
  requestID := requestID
  jobID := ""
  createdAt := row.createdAt
  expiresAt := row.expiresAt
  traceID := row.traceID
  failureCount := row.failureCount
  lastError := row.lastError
  lastAttempt := row.lastAttempt.getD 0

def notNullViolation : GoError :=
  .plain ("ERROR: null value in column \"state_data\" of relation " ++
    "\"hitl_execution_checkpoints\" violates not-null constraint (SQLSTATE 23502)")

namespace Postgres

def getByRequestID (faults : Faults) (requestID : String) (tables : Tables) :
    Except StoreError ExecutionCheckpoint :=
  match faults 0 with
  | some err => .error (.wrap "get checkpoint: " err)
  | none =>
    match tables.checkpoints.lookup requestID with
    | none => .error .checkpointNotFound
    | some row => .ok (row.scan requestID)

/-- One `INSERT` with the error `fault`, if it has one. -/
def insertCheckpoint (fault : Option GoError) (cp : ExecutionCheckpoint)
    (table : AList fun _ : String => CheckpointRow) :
    Except GoError (AList fun _ : String => CheckpointRow) :=
  match fault, cp.stateData with
  | some err, _ => .error (err.wrap "insert checkpoint: ")
  | none, none => .error (notNullViolation.wrap "insert checkpoint: ")
  | none, some data => .ok (insertOrNothing table cp.requestID (rowOf cp data)).1

def create (faults : Faults) (cp : ExecutionCheckpoint) (tables : Tables) :
    Option StoreError × Tables :=
  match insertCheckpoint (faults 0) cp tables.checkpoints with
  | .error err => (some (.failed err), tables)
  | .ok checkpoints => (none, { tables with checkpoints := checkpoints })

def delete (faults : Faults) (requestID : String) (tables : Tables) :
    Option StoreError × Tables :=
  match faults 0 with
  | some err => (some (.wrap "delete checkpoint: " err), tables)
  | none => (none, { tables with checkpoints := deleteRow tables.checkpoints requestID })

/-- Begin, lock the old row, insert, delete, commit. -/
def replace (faults : Faults) (oldRequestID : String) (next : Option ExecutionCheckpoint)
    (tables : Tables) : Option StoreError × Tables :=
  match next with
  | none => (some (.failed (.plain "next checkpoint is nil")), tables)
  | some next =>
    match faults 0, faults 1 with
    | some err, _ => (some (.wrap "begin checkpoint replace transaction: " err), tables)
    | none, some err => (some (.wrap "lock old checkpoint: " err), tables)
    | none, none =>
      if oldRequestID ∉ tables.checkpoints then (some .checkpointNotFound, tables)
      else
        match insertCheckpoint (faults 2) next tables.checkpoints with
        | .error err => (some (.wrap "insert replacement checkpoint: " err), tables)
        | .ok inserted =>
          match faults 3, faults 4 with
          | some err, _ =>
            (some (.wrap "delete old checkpoint after replacement: " err), tables)
          | none, some err =>
            (some (.wrap "commit checkpoint replace transaction: " err), tables)
          | none, none =>
            (none, { tables with checkpoints := deleteRow inserted oldRequestID })

def recordFailure (faults : Faults) (requestID : String) (err : Option GoError) (now : Nat)
    (tables : Tables) : Except StoreError ExecutionCheckpoint × Tables :=
  match faults 0 with
  | some fault => (.error (.wrap "record failure: " fault), tables)
  | none =>
    match tables.checkpoints.lookup requestID with
    | none => (.error .checkpointNotFound, tables)
    | some row =>
      let failed := { row with
        failureCount := row.failureCount + 1
        lastError := (err.map (·.message)).getD ""
        lastAttempt := some (timestamptz now) }
      (.ok (failed.scan requestID),
        { tables with checkpoints := updateRow tables.checkpoints requestID fun _ => failed })

def dlqRowOf (requestID finalError : String) (row : CheckpointRow) : DLQRow where
  originalRequestID := requestID
  graphID := row.graphID
  graphVersion := row.graphVersion
  nodeID := row.nodeID
  stateData := row.stateData
  failureCount := row.failureCount
  lastError := finalError
  lastAttempt := row.lastAttempt

/-- Begin, `INSERT … SELECT … ON CONFLICT DO NOTHING`, delete, commit. The call
reads "not found" off the number of rows inserted. -/
def moveToCheckpointDLQ (faults : Faults) (requestID finalError : String) (tables : Tables) :
    Option StoreError × Tables :=
  match faults 0, faults 1 with
  | some err, _ => (some (.wrap "begin dlq transaction: " err), tables)
  | none, some err => (some (.wrap "insert into dlq: " err), tables)
  | none, none =>
    let (dlq, rowsAffected) :=
      match tables.checkpoints.lookup requestID with
      | none => (tables.dlq, 0)
      | some row => insertOrNothing tables.dlq requestID (dlqRowOf requestID finalError row)
    if rowsAffected = 0 then (some .checkpointNotFound, tables)
    else
      match faults 2, faults 3 with
      | some err, _ => (some (.wrap "delete after dlq insert: " err), tables)
      | none, some err => (some (.wrap "commit dlq transaction: " err), tables)
      | none, none => (none, ⟨deleteRow tables.checkpoints requestID, dlq⟩)

end Postgres

/-- The map of `RedisCheckpointStore`. -/
abbrev MemoryTable := AList fun _ : String => ExecutionCheckpoint

namespace Memory

def getByRequestID (requestID : String) (store : MemoryTable) :
    Except StoreError ExecutionCheckpoint :=
  match store.lookup requestID with
  | none => .error .checkpointNotFound
  | some cp => .ok cp

def create (cp : ExecutionCheckpoint) (store : MemoryTable) : Option StoreError × MemoryTable :=
  (none, store.insert cp.requestID cp)

def delete (requestID : String) (store : MemoryTable) : Option StoreError × MemoryTable :=
  (none, store.erase requestID)

def replace (oldRequestID : String) (next : Option ExecutionCheckpoint) (store : MemoryTable) :
    Option StoreError × MemoryTable :=
  match next with
  | none => (some (.failed (.plain "next checkpoint is nil")), store)
  | some next =>
    if oldRequestID = "" then (some (.failed (.plain "old request id is empty")), store)
    else if oldRequestID ∉ store then (some .checkpointNotFound, store)
    else (none, (store.insert next.requestID next).erase oldRequestID)

def recordFailure (requestID : String) (err : GoError) (now : Nat) (store : MemoryTable) :
    Except StoreError ExecutionCheckpoint × MemoryTable :=
  match store.lookup requestID with
  | none => (.error .checkpointNotFound, store)
  | some cp =>
    let failed := { cp with
      failureCount := cp.failureCount + 1
      lastError := err.message
      lastAttempt := now }
    (.ok failed, store.insert requestID failed)

/-- There is no second map: the checkpoint is deleted. -/
def moveToCheckpointDLQ (requestID : String) (store : MemoryTable) :
    Option StoreError × MemoryTable :=
  if requestID ∉ store then (some .checkpointNotFound, store)
  else (none, store.erase requestID)

end Memory

inductive Call where
  | create (cp : ExecutionCheckpoint)
  | replace (oldRequestID : String) (next : Option ExecutionCheckpoint)
  | recordFailure (requestID : String) (err : GoError) (now : Nat)
  | delete (requestID : String)
  | moveToDLQ (requestID finalError : String)
  deriving DecidableEq, Repr

/-- What the callers see of a store: `find` is `GetByRequestID` when its query
succeeds, `deadLetter` the state data in the DLQ under a request id. -/
structure CheckpointStore (Store : Type) where
  find : Store → String → Option ExecutionCheckpoint
  deadLetter : Store → String → Option String
  perform : Faults → Call → Store → Option StoreError × Store

/-- The error of a call that also returns a checkpoint. -/
def errorOf (result : Except StoreError ExecutionCheckpoint) : Option StoreError :=
  match result with
  | .error err => some err
  | .ok _ => none

def postgresStore : CheckpointStore Tables where
  find := fun tables requestID =>
    (Postgres.getByRequestID (fun _ => none) requestID tables).toOption
  deadLetter := fun tables requestID => (tables.dlq.lookup requestID).map (·.stateData)
  perform := fun faults call tables =>
    match call with
    | .create cp => Postgres.create faults cp tables
    | .replace old next => Postgres.replace faults old next tables
    | .recordFailure requestID err now =>
      let (result, after) := Postgres.recordFailure faults requestID (some err) now tables
      (errorOf result, after)
    | .delete requestID => Postgres.delete faults requestID tables
    | .moveToDLQ requestID finalError =>
      Postgres.moveToCheckpointDLQ faults requestID finalError tables

def memoryStore : CheckpointStore MemoryTable where
  find := fun store requestID => (Memory.getByRequestID requestID store).toOption
  deadLetter := fun _ _ => none
  perform := fun _ call store =>
    match call with
    | .create cp => Memory.create cp store
    | .replace old next => Memory.replace old next store
    | .recordFailure requestID err now =>
      let (result, after) := Memory.recordFailure requestID err now store
      (errorOf result, after)
    | .delete requestID => Memory.delete requestID store
    | .moveToDLQ requestID _ => Memory.moveToCheckpointDLQ requestID store

end Dagens.Hitl.CheckpointStores
