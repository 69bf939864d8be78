import Dagens.Scheduler.PostgresStore

/-!
# The database that is archived

The tables of the transition store with the sequence counters beside them, and the
transactions of the scheduler. A statement that meets a row which an open transaction
has deleted waits for its end.
-/

namespace Dagens.Archive.Database

open Lib KeyedTable Scheduler Scheduler.Lifecycle Scheduler.PostgresStore List

set_option linter.dupNamespace false

structure SequenceRow where
  jobID : String
  lastSequenceID : Int
  updatedAt : Time
  deriving DecidableEq, Repr

structure Database where
  tables : Tables
  sequences : AList fun _ : String => SequenceRow

def emptyDatabase : Database := ⟨newTables, ∅⟩

def tasksOf (db : Database) (jobID : String) : List DurableTaskRecord :=
  (rows db.tables.tasks).filter fun row => decide (row.jobID = jobID)

def transitionsOf (db : Database) (jobID : String) : List TransitionRow :=
  (rows db.tables.transitions).filter fun row => decide (row.jobID = jobID)

def jobOf (db : Database) (jobID : String) : Option JobRow := db.tables.jobs.lookup jobID

def sequencesOf (db : Database) (jobID : String) : List SequenceRow :=
  (db.sequences.lookup jobID).toList

/-- `now` is the database's clock. -/
inductive Write where
  | appendTransition (record : TransitionRecord)
  | upsertJob (job : DurableJobRecord)
  | upsertTask (task : DurableTaskRecord)
  | claimTaskDispatch (claim : TaskDispatchClaim)
  | nextSequenceID (jobID : String) (now : Time)

/-- A missing counter starts above every sequence id that is known of the job. -/
def nextSequenceID (db : Database) (jobID : String) (now : Time) : Database :=
  let ofJob := (jobOf db jobID).elim 0 (·.lastSequenceID)
  let ofTransitions := ((transitionsOf db jobID).map (·.sequenceID)).foldl max 0
  { db with
    sequences := (insertOrUpdate db.sequences jobID
      ⟨jobID, max ofJob ofTransitions + 1, timestamptz now⟩ fun row =>
        some { row with
          lastSequenceID := row.lastSequenceID + 1
          updatedAt := timestamptz now }).1 }

def Write.apply (db : Database) : Write → Option Database
  | .appendTransition record =>
    (PostgresStore.appendTransition db.tables record).toOption.map fun tables =>
      { db with tables := tables }
  | .upsertJob job =>
    (PostgresStore.upsertJob db.tables job).toOption.map fun tables =>
      { db with tables := tables }
  | .upsertTask task =>
    (PostgresStore.upsertTask db.tables task).toOption.map fun tables =>
      { db with tables := tables }
  | .claimTaskDispatch claim =>
    (PostgresStore.claimTaskDispatch db.tables claim).toOption.map fun claimed =>
      { db with tables := claimed.1 }
  | .nextSequenceID jobID now =>
    if jobID = "" then none else some (Database.nextSequenceID db jobID now)

/-- A transaction takes effect as a whole or not at all. -/
def applyWrites (db : Database) (writes : List Write) : Option Database :=
  writes.foldlM Write.apply db

structure Rows where
  job : Option JobRow
  tasks : List DurableTaskRecord
  transitions : List TransitionRow
  sequences : List SequenceRow
  deriving DecidableEq, Repr

def Rows.empty : Rows := ⟨none, [], [], []⟩

/-- The database once a transaction has committed that deleted the rows. -/
def Database.without (db : Database) (jobID : String) (rows : Rows) : Database where
  tables := {
    transitions := deleteWhere db.tables.transitions fun row =>
      decide (row ∈ rows.transitions)
    jobs := if rows.job.isSome then deleteRow db.tables.jobs jobID else db.tables.jobs
    tasks := deleteWhere db.tables.tasks fun row => decide (row ∈ rows.tasks) }
  sequences :=
    if rows.sequences = [] then db.sequences else deleteRow db.sequences jobID

/-- The statement waits for a row that an open transaction has deleted. -/
def Write.waitsFor (rows : Rows) : Write → Bool
  | .appendTransition record =>
    rows.transitions.any (fun held => decide (held.jobID = record.jobID ∧
      held.sequenceID = bigint record.sequenceID)) ||
      rows.job.any fun held => decide (held.jobID = record.jobID)
  | .upsertJob job => rows.job.any fun held => decide (held.jobID = job.jobID)
  | .upsertTask task => rows.tasks.any fun held => decide (held.taskID = task.taskID)
  | .claimTaskDispatch claim => rows.tasks.any fun held => decide (held.taskID = claim.taskID)
  | .nextSequenceID jobID _ => rows.sequences.any fun held => decide (held.jobID = jobID)

variable {db : Database} {jobID of : String} {rows : Rows}

theorem without_tasks {row : DurableTaskRecord}
    (member : row ∈ tasksOf (db.without jobID rows) of) :
    row ∈ tasksOf db of := by
  obtain ⟨kept, same⟩ := mem_filter.mp member
  exact mem_filter.mpr ⟨mem_delete_where kept, same⟩

theorem without_transitions {row : TransitionRow}
    (member : row ∈ transitionsOf (db.without jobID rows) of) :
    row ∈ transitionsOf db of := by
  obtain ⟨kept, same⟩ := mem_filter.mp member
  exact mem_filter.mpr ⟨mem_delete_where kept, same⟩

theorem without_job {row : JobRow} (found : jobOf (db.without jobID rows) of = some row) :
    jobOf db of = some row := by
  simp only [jobOf, Database.without] at found ⊢
  split_ifs at found with marked
  · rw [lookup_delete_row] at found
    split_ifs at found with own
    exact found
  · exact found

theorem without_sequences {row : SequenceRow}
    (member : row ∈ sequencesOf (db.without jobID rows) of) :
    row ∈ sequencesOf db of := by
  simp only [sequencesOf, Database.without, Option.mem_toList] at member ⊢
  split_ifs at member with marked
  · exact member
  · rw [lookup_delete_row] at member
    split_ifs at member with own
    exact member

end Dagens.Archive.Database
