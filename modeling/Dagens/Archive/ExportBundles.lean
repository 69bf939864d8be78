import Dagens.Archive.Database
import Dagens.Scheduler.GoText

/-!
# The archive export

`transition_archive_export` lists the terminal jobs that are old enough, reads the
rows of each with four queries, writes them to a file of their own with times cut to
seconds, and verifies the files against its manifest.
-/

namespace Dagens.Archive.ExportBundles

open Lib Scheduler Scheduler.GoText Scheduler.Lifecycle Scheduler.PostgresStore Database

def archiveSchemaVersion : String := "transition-archive-v1"

local instance : LawfulBEq (Option JobLifecycleState) := inferInstance

def isTerminalState (state : Option JobLifecycleState) : Bool :=
  decide (state ∈ [some .succeeded, some .failed, some .canceled])

def day : Time := 24 * 60 * 60 * 1000000000

/-- What RFC 3339 without a fraction keeps of a time. -/
def toSecond (time : Time) : Time := time / 1000000000 * 1000000000

def exportJob (row : JobRow) : JobRow :=
  { row with createdAt := toSecond row.createdAt, updatedAt := toSecond row.updatedAt }

def exportTask (row : DurableTaskRecord) : DurableTaskRecord :=
  { row with updatedAt := toSecond row.updatedAt }

def exportTransition (row : TransitionRow) : TransitionRow :=
  { row with occurredAt := toSecond row.occurredAt }

def exportSequence (row : SequenceRow) : SequenceRow :=
  { row with updatedAt := toSecond row.updatedAt }

structure Bundle where
  schemaVersion : String
  job : JobRow
  tasks : List DurableTaskRecord
  transitions : List TransitionRow
  sequences : List SequenceRow
  deriving DecidableEq, Repr

structure EligibleJob where
  jobID : String
  currentState : Option JobLifecycleState
  lastSequenceID : Int
  updatedAt : Time
  deriving DecidableEq, Repr

/-- An `exportedBundle`. A digest stands for the content it was computed from. -/
structure ManifestEntry where
  jobID : String
  currentState : Option JobLifecycleState
  updatedAt : Time
  relativePath : String
  sha256 : Bundle
  transitionRows : Nat
  taskRows : Nat
  sequenceRows : Nat
  lastSequenceID : Int
  deriving DecidableEq, Repr

structure Verification where
  enabled : Bool
  verified : Bool
  verifiedBundles : Nat
  manifestChecksPassed : Bool
  deriving DecidableEq, Repr

/-- What the queries of `loadBundle` have read of one job. -/
structure Loaded where
  jobID : String
  job : JobRow
  tasks : Option (List DurableTaskRecord)
  transitions : Option (List TransitionRow)
  sequences : Option (List SequenceRow)
  deriving DecidableEq, Repr

def Loaded.bundle (loaded : Loaded) : Option Bundle := do
  let tasks ← loaded.tasks
  let transitions ← loaded.transitions
  let sequences ← loaded.sequences
  some ⟨archiveSchemaVersion, exportJob loaded.job, tasks.map exportTask,
    transitions.map exportTransition, sequences.map exportSequence⟩

/-- `[A-Za-z0-9._-]`. -/
def isFileChar (char : Char) : Bool :=
  char.isAlphanum || char = '.' || char = '_' || char = '-'

/-- Every run of other characters becomes one underscore. -/
def replaceRuns : Bool → List Char → List Char
  | _, [] => []
  | inRun, char :: rest =>
    if isFileChar char then char :: replaceRuns false rest
    else if inRun then replaceRuns true rest
    else '_' :: replaceRuns true rest

def sanitizeBundleFileName (jobID : String) : String :=
  let safe := String.ofList (replaceRuns false (trimSpace jobID).toList)
  if safe = "" then "job" else safe

/-- `likePrefix` is the optional condition on the job's id, `collation` the order of the
texts in the database. -/
structure ExportConfig where
  collation : String → String → Bool
  hotRetentionDays : Nat
  batchLimit : Nat
  likePrefix : String → Bool
  dryRun : Bool
  verifyBundles : Bool
  referenceTime : Option Time

inductive ExportStage where
  | listing
  | jobRow
  | tasks
  | transitions
  | sequences
  | verifying
  | finished (verification : Verification)
  | aborted
  deriving DecidableEq, Repr

/-- `archive` holds what has been read, the job at hand first; `files` are the bundles
on disk. -/
structure Export where
  config : ExportConfig
  stage : ExportStage
  remaining : List EligibleJob
  archive : List Loaded
  files : String → Option Bundle
  entries : List ManifestEntry

def shouldVerifyBundles (config : ExportConfig) : Bool := config.verifyBundles && !config.dryRun

/-- Equal times are ordered by the database's collation of the ids. -/
def listEligibleJobs (db : Database) (config : ExportConfig) (now : Time) : List EligibleJob :=
  let base := config.referenceTime.getD now
  let eligible := (KeyedTable.rows db.tables.jobs).filter fun row =>
    isTerminalState row.currentState &&
      decide (row.updatedAt + config.hotRetentionDays * day < base) &&
      config.likePrefix row.jobID
  let ordered := eligible.insertionSort fun first second =>
    first.updatedAt < second.updatedAt ∨
      first.updatedAt = second.updatedAt ∧ config.collation first.jobID second.jobID = true
  (ordered.take config.batchLimit).map fun row =>
    ⟨row.jobID, row.currentState, row.lastSequenceID, row.updatedAt⟩

def manifestEntry (job : EligibleJob) (bundle : Bundle) : ManifestEntry where
  jobID := job.jobID
  currentState := job.currentState
  updatedAt := toSecond job.updatedAt
  relativePath := "bundles/" ++ sanitizeBundleFileName job.jobID ++ ".json"
  sha256 := bundle
  transitionRows := bundle.transitions.length
  taskRows := bundle.tasks.length
  sequenceRows := bundle.sequences.length
  lastSequenceID := bundle.job.lastSequenceID

/-- The checks of one bundle that has been read from its file. -/
def verifyBundle (entry : ManifestEntry) (bundle : Bundle) : Bool :=
  decide (bundle = entry.sha256) && decide (bundle.schemaVersion = archiveSchemaVersion) &&
    decide (bundle.job.jobID = entry.jobID) &&
    decide (bundle.job.currentState = entry.currentState) &&
    decide (bundle.tasks.length = entry.taskRows) &&
    decide (bundle.transitions.length = entry.transitionRows) &&
    decide (bundle.sequences.length = entry.sequenceRows) &&
    decide (bundle.job.lastSequenceID = entry.lastSequenceID)

def verifyManifest (files : String → Option Bundle) (entries : List ManifestEntry) :
    Option Verification :=
  if entries.all fun entry => (files entry.relativePath).any (verifyBundle entry) then
    some ⟨true, true, entries.length, true⟩
  else none

/-- The last query of a job is followed by the file and the manifest entry. -/
def finishBundle (exporting : Export) (job : EligibleJob) (rest : List EligibleJob)
    (bundle : Bundle) : Export :=
  let entry := manifestEntry job bundle
  { exporting with
    files := Function.update exporting.files entry.relativePath (some bundle)
    entries := exporting.entries ++ [entry]
    remaining := rest
    stage := if rest = [] then .verifying else .jobRow }

def exportStep (db : Database) (exporting : Export) (now : Time) : Option Export :=
  match exporting.stage, exporting.remaining, exporting.archive with
  | .listing, _, _ =>
    let eligible := listEligibleJobs db exporting.config now
    if exporting.config.dryRun = true ∨ eligible = [] then
      some { exporting with stage := .verifying }
    else some { exporting with remaining := eligible, stage := .jobRow }
  | .jobRow, job :: _, archive =>
    match jobOf db job.jobID with
    | none => some { exporting with stage := .aborted }
    | some row => some { exporting with
        archive := ⟨job.jobID, row, none, none, none⟩ :: archive, stage := .tasks }
  | .tasks, _, loaded :: archive =>
    let tasks := tasksOf db loaded.jobID
    some { exporting with
      archive := { loaded with tasks := some tasks } :: archive, stage := .transitions }
  | .transitions, _, loaded :: archive =>
    let transitions := transitionsOf db loaded.jobID
    some { exporting with
      archive := { loaded with transitions := some transitions } :: archive
      stage := .sequences }
  | .sequences, job :: rest, loaded :: archive => do
      let sequences := sequencesOf db loaded.jobID
      let loaded := { loaded with sequences := some sequences }
      let bundle ← loaded.bundle
      some (finishBundle { exporting with archive := loaded :: archive } job rest bundle)
  | .verifying, _, _ =>
    if shouldVerifyBundles exporting.config then
      match verifyManifest exporting.files exporting.entries with
      | some verification => some { exporting with stage := .finished verification }
      | none => some { exporting with stage := .aborted }
    else some { exporting with stage := .finished ⟨false, false, 0, false⟩ }
  | _, _, _ => none

end Dagens.Archive.ExportBundles
