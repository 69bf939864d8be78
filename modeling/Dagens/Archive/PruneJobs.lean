import Dagens.Archive.ExportBundles
import Dagens.Lib.GuardedRun
import Dagens.Lib.Parties

/-!
# Pruning archived jobs

`transition_archive_prune` goes through the manifest: four queries compare what the
database has of a job with the manifest, and a transaction of four statements deletes
the job's rows. It does not look at the bundles. Each statement sees what is committed
when it starts.
-/

namespace Dagens.Archive.PruneJobs

open Scheduler.Lifecycle Scheduler.PostgresStore Database ExportBundles

structure PruneConfig where
  batchLimit : Nat
  dryRun : Bool
  referenceTime : Option Time
  deriving DecidableEq, Repr

structure Snapshot where
  currentState : Option JobLifecycleState
  lastSequenceID : Int
  updatedAt : Time
  transitionRows : Nat
  taskRows : Nat
  sequenceRows : Nat
  deriving DecidableEq, Repr

/-- The next query or statement. -/
inductive PruneStage where
  | jobRow
  | transitionRows (snapshot : Snapshot)
  | taskRows (snapshot : Snapshot)
  | sequenceRows (snapshot : Snapshot)
  | deleteTransitions
  | deleteTasks
  | deleteSequences
  | deleteJob
  | committing
  | aborted
  deriving DecidableEq, Repr

/-- `marked` are the rows that the open transaction has deleted, `deleted` those of the
transactions that have committed. -/
structure Prune where
  config : PruneConfig
  stage : PruneStage
  remaining : List ManifestEntry
  marked : Rows
  deleted : List (ManifestEntry × Rows)

structure World where
  db : Database
  exporting : Export
  prunes : List Prune

inductive Answer where
  | ok
  | fault (applied : Bool)
  deriving DecidableEq, Repr

inductive Action where
  | write (writes : List Write)
  | exports (now : Time)
  | exportFails
  | newPrune (config : PruneConfig)
  | prune (index : Nat) (now : Time) (answer : Answer)
  | pruneFails (index : Nat)

/-- The version and the length of the manifest are the export's own. -/
def validateManifest (exported : Nat) (verification : Verification) : Bool :=
  verification.enabled && verification.verified && verification.manifestChecksPassed &&
    decide (exported ≤ verification.verifiedBundles)

/-- The checks of `evaluateCandidate` after the snapshot. -/
def eligible (entry : ManifestEntry) (snapshot : Snapshot) (hotRetentionDays : Nat)
    (base : Time) : Bool :=
  isTerminalState snapshot.currentState &&
    decide (snapshot.currentState = entry.currentState) &&
    decide (snapshot.lastSequenceID = entry.lastSequenceID) &&
    decide (snapshot.transitionRows = entry.transitionRows) &&
    decide (snapshot.taskRows = entry.taskRows) &&
    decide (snapshot.sequenceRows = entry.sequenceRows) &&
    decide (snapshot.updatedAt + hotRetentionDays * day < base)

section Steps

variable (world : World) (prune : Prune)

def skip (rest : List ManifestEntry) : Prune :=
  { prune with stage := .jobRow, remaining := rest, marked := .empty }

/-- Another open transaction has deleted one of the rows. -/
def heldElsewhere (index : Nat) (holds : Rows → Bool) : Bool :=
  (world.prunes.zipIdx.any fun other => decide (other.2 ≠ index) && holds other.1.marked)

def loadJobRow (entry : ManifestEntry) (rest : List ManifestEntry) : Prune :=
  match jobOf world.db entry.jobID with
  | none => skip prune rest
  | some row => { prune with
      stage := .transitionRows ⟨row.currentState, row.lastSequenceID, row.updatedAt, 0, 0, 0⟩ }

/-- The last query of the snapshot and the decision. -/
def decidePrune (entry : ManifestEntry) (rest : List ManifestEntry) (snapshot : Snapshot)
    (now : Time) : Prune :=
  let snapshot := { snapshot with sequenceRows := (sequencesOf world.db entry.jobID).length }
  let base := prune.config.referenceTime.getD now
  if eligible entry snapshot world.exporting.config.hotRetentionDays base = true ∧
      prune.config.dryRun = false then
    { prune with stage := .deleteTransitions }
  else skip prune rest

/-- A failed commit may have taken effect. -/
def commit (entry : ManifestEntry) (rest : List ManifestEntry) : Answer → Database × Prune
  | .ok => (world.db.without entry.jobID prune.marked,
      skip { prune with deleted := (entry, prune.marked) :: prune.deleted } rest)
  | .fault true => (world.db.without entry.jobID prune.marked,
      { prune with
        stage := .aborted
        marked := .empty
        deleted := (entry, prune.marked) :: prune.deleted })
  | .fault false => (world.db, { prune with stage := .aborted, marked := .empty })

def pruneStep (index : Nat) (now : Time) (answer : Answer) : Option (Database × Prune) :=
  match prune.stage, prune.remaining with
  | .jobRow, entry :: rest => some (world.db, loadJobRow world prune entry rest)
  | .transitionRows snapshot, entry :: _ =>
    let count := (transitionsOf world.db entry.jobID).length
    some (world.db,
      { prune with stage := .taskRows { snapshot with transitionRows := count } })
  | .taskRows snapshot, entry :: _ =>
    let count := (tasksOf world.db entry.jobID).length
    some (world.db, { prune with stage := .sequenceRows { snapshot with taskRows := count } })
  | .sequenceRows snapshot, entry :: rest =>
    some (world.db, decidePrune world prune entry rest snapshot now)
  | .deleteTransitions, entry :: _ =>
    let rows := transitionsOf world.db entry.jobID
    if heldElsewhere world index fun marked => marked.transitions.any (· ∈ rows) then none
    else some (world.db, { prune with
      stage := .deleteTasks, marked := { prune.marked with transitions := rows } })
  | .deleteTasks, entry :: _ =>
    let rows := tasksOf world.db entry.jobID
    if heldElsewhere world index fun marked => marked.tasks.any (· ∈ rows) then none
    else some (world.db, { prune with
      stage := .deleteSequences, marked := { prune.marked with tasks := rows } })
  | .deleteSequences, entry :: _ =>
    let rows := sequencesOf world.db entry.jobID
    if heldElsewhere world index fun marked => marked.sequences.any (· ∈ rows) then none
    else some (world.db, { prune with
      stage := .deleteJob, marked := { prune.marked with sequences := rows } })
  | .deleteJob, entry :: _ =>
    let row := jobOf world.db entry.jobID
    if heldElsewhere world index fun marked => row.isSome && decide (marked.job = row) then none
    else some (world.db, { prune with
      stage := .committing, marked := { prune.marked with job := row } })
  | .committing, entry :: rest => some (commit world prune entry rest answer)
  | _, _ => none

end Steps

def worldStep (world : World) : Action → Option World
  | .write writes =>
    if world.prunes.any fun prune => writes.any (·.waitsFor prune.marked) then none
    else some { world with db := (applyWrites world.db writes).getD world.db }
  | .exports now => do
      let exporting ← exportStep world.db world.exporting now
      some { world with exporting := exporting }
  | .exportFails =>
    match world.exporting.stage with
    | .finished _ => none
    | _ => some { world with exporting := { world.exporting with stage := .aborted } }
  | .newPrune config =>
    match world.exporting.stage with
    | .finished verification =>
      if validateManifest world.exporting.entries.length verification then
        let entries := world.exporting.entries.take config.batchLimit
        some { world with
          prunes := world.prunes ++ [⟨config, .jobRow, entries, .empty, []⟩] }
      else none
    | _ => none
  | .prune index now answer => do
      let prune ← world.prunes[index]?
      let (db, next) ← pruneStep world prune index now answer
      some { world with db := db, prunes := world.prunes.set index next }
  | .pruneFails index => do
      let prune ← world.prunes[index]?
      let next := { prune with stage := .aborted, marked := .empty }
      some { world with prunes := world.prunes.set index next }

/-- The export has not begun; the database is any. -/
structure Fresh (world : World) : Prop where
  begins : world.exporting.stage = .listing
  unread : world.exporting.archive = []
  unwritten : world.exporting.entries = []
  alone : world.prunes = []

end Dagens.Archive.PruneJobs
