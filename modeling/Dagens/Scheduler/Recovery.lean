import Dagens.Scheduler.Replay

/-!
# Rebuilding a runtime job from replayed state

`buildRecoveredRuntimeJob` groups the replayed tasks by stage id and puts the
stages in the order of their ids. The task map is iterated in an order of the
runtime's choosing, given here as the list of rows in visiting order.
-/

namespace Dagens.Scheduler.Recovery

open Lifecycle GoSupport Replay List

variable {Input : Type} [GoRuntime Input]

def runtimeJobStatusFromLifecycle : Option JobLifecycleState → JobStatus
  | some .running => .running
  | some .awaitingHuman => .awaitingHuman
  | some .succeeded => .completed
  | some .failed | some .canceled => .failed
  | _ => .pending

def runtimeTaskStatusFromLifecycle : Option TaskLifecycleState → JobStatus
  | some .running => .running
  | some .succeeded => .completed
  | some .failed => .failed
  | _ => .pending

def deriveStageStatus {Input : Type} (tasks : List (Task Input)) : JobStatus :=
  if tasks.isEmpty then .pending
  else if tasks.any fun task => task.status = .failed || task.status = .blocked then .failed
  else if tasks.any fun task => task.status = .running then .running
  else if tasks.all fun task => task.status = .completed then .completed
  else .pending

def recoveredStageID (row : DurableTaskRecord) : String :=
  if row.stageID = "" then "recovered" else row.stageID

def recoveredTask (row : DurableTaskRecord) : Task Input where
  id := row.taskID
  stageID := recoveredStageID row
  jobID := row.jobID
  agentID := row.agentID
  agentName := row.agentName
  input := unmarshalRecoveredAgentInput row.inputJSON
  partitionKey := row.partitionKey
  status := runtimeTaskStatusFromLifecycle row.currentState
  lifecycleState := row.currentState
  attempts := row.lastAttempt

def emptyRecoveredStage (jobID stageID : String) : Stage Input where
  id := stageID
  jobID := jobID
  tasks := []
  dependencies := []
  status := .pending

def addRecoveredTask (jobID : String) (stageByID : AList (fun _ : String => Stage Input))
    (row : DurableTaskRecord) : AList (fun _ : String => Stage Input) :=
  let stage := (stageByID.lookup (recoveredStageID row)).getD
    (emptyRecoveredStage jobID (recoveredStageID row))
  stageByID.insert (recoveredStageID row)
    { stage with tasks := stage.tasks ++ [recoveredTask row] }

def recoveredStages (jobID : String) (rows : List DurableTaskRecord) :
    AList (fun _ : String => Stage Input) :=
  rows.foldl (addRecoveredTask jobID) ∅

def finishRecoveredStage (stage : Stage Input) : Stage Input :=
  { stage with status := deriveStageStatus stage.tasks }

/-- `rows` are the values of `replayed.tasks` in the order the map yields them. -/
def buildRecoveredRuntimeJob (replayed : ReplayedJobState) (rows : List DurableTaskRecord) :
    Job Input where
  id := replayed.job.jobID
  name := replayed.job.name
  stages :=
    let stageByID := recoveredStages replayed.job.jobID rows
    (stageByID.keys.insertionSort (· ≤ ·)).filterMap fun stageID =>
      (stageByID.lookup stageID).map finishRecoveredStage
  edges := []
  status := runtimeJobStatusFromLifecycle replayed.job.currentState
  lifecycleState := replayed.job.currentState
  createdAt := replayed.job.createdAt
  updatedAt := replayed.job.updatedAt

/-- An empty task state counts as pending; any progressed state blocks. -/
def isSafeForQueuedResume (job : Job Input) : Bool :=
  (jobTasks job).all fun task =>
    task.lifecycleState = none || task.lifecycleState = some .pending

def missingExecutionFields (stickinessRequired : Bool) (task : Task Input) : Bool :=
  (task.agentID = "" || task.agentName = "" || task.input.isNone) ||
    (stickinessRequired && task.partitionKey = "")

def recoveredQueuedMissingExecutionFieldCount (job : Job Input) (stickinessRequired : Bool) :
    Nat :=
  (jobTasks job).countP (missingExecutionFields stickinessRequired)

def rowsOfStage (stageID : String) (rows : List DurableTaskRecord) : List DurableTaskRecord :=
  rows.filter fun row => decide (recoveredStageID row = stageID)

def recoveredStage (jobID stageID : String) (rows : List DurableTaskRecord) : Stage Input where
  id := stageID
  jobID := jobID
  tasks := (rowsOfStage stageID rows).map recoveredTask
  dependencies := []
  status := .pending

section

variable (jobID stageID : String) (rows : List DurableTaskRecord)

theorem recovered_stages_lookup :
    (recoveredStages jobID rows).lookup stageID =
      if rowsOfStage stageID rows = [] then none
      else some (recoveredStage jobID stageID rows : Stage Input) := by
  induction rows using List.reverseRecOn with
  | nil => rfl
  | append_singleton rows row ih =>
    have extended : (recoveredStages jobID (rows ++ [row]) :
        AList (fun _ : String => Stage Input)) =
        addRecoveredTask jobID (recoveredStages jobID rows) row := by
      simp [recoveredStages]
    rw [extended, addRecoveredTask]
    by_cases same : stageID = recoveredStageID row
    · subst same
      have grown : rowsOfStage (recoveredStageID row) (rows ++ [row]) =
          rowsOfStage (recoveredStageID row) rows ++ [row] := by
        simp [rowsOfStage]
      have nonempty : rowsOfStage (recoveredStageID row) rows ++ [row] ≠ [] := by simp
      rw [AList.lookup_insert, ih, grown, if_neg nonempty]
      split_ifs with empty
      · simp [recoveredStage, grown, empty, emptyRecoveredStage]
      · simp [recoveredStage, grown]
    · have kept : rowsOfStage stageID (rows ++ [row]) = rowsOfStage stageID rows := by
        simp [rowsOfStage, Ne.symm same]
      rw [AList.lookup_insert_ne same, ih, kept]
      simp [recoveredStage, kept]

theorem mem_recovered_stages_keys :
    stageID ∈ (recoveredStages jobID rows : AList (fun _ : String => Stage Input)).keys ↔
      ∃ row ∈ rows, recoveredStageID row = stageID := by
  rw [← AList.mem_keys, ← AList.lookup_isSome, recovered_stages_lookup]
  split_ifs with empty <;> simpa [rowsOfStage, filter_eq_nil_iff] using empty

end

/-- The stage ids of a rebuilt job: the distinct stage ids of the rows, sorted. -/
def recoveredStageIDs (rows : List DurableTaskRecord) : List String :=
  ((rows.map recoveredStageID).dedup).insertionSort (· ≤ ·)

theorem recovered_keys_sorted (jobID : String) (rows : List DurableTaskRecord) :
    (recoveredStages jobID rows : AList (fun _ : String => Stage Input)).keys.insertionSort
      (· ≤ ·) = recoveredStageIDs rows := by
  let stages : AList (fun _ : String => Stage Input) := recoveredStages jobID rows
  have same : stages.keys.Perm (rows.map recoveredStageID).dedup := by
    rw [perm_ext_iff_of_nodup stages.keys_nodup (nodup_dedup _)]
    intro _
    rw [mem_recovered_stages_keys]
    simp
  refine List.Perm.eq_of_pairwise (fun first second _ _ => le_antisymm)
    (pairwise_insertionSort (· ≤ ·) _) (pairwise_insertionSort (· ≤ ·) _) ?_
  exact (perm_insertionSort _ _).trans (same.trans (perm_insertionSort _ _).symm)

theorem recovered_job_stages (replayed : ReplayedJobState) (rows : List DurableTaskRecord) :
    (buildRecoveredRuntimeJob replayed rows : Job Input).stages =
      (recoveredStageIDs rows).map fun stageID =>
        finishRecoveredStage (recoveredStage replayed.job.jobID stageID rows) := by
  simp only [buildRecoveredRuntimeJob, recovered_keys_sorted]
  rw [← filterMap_eq_map]
  apply filterMap_congr
  intro stageID member
  have present : rowsOfStage stageID rows ≠ [] := by
    have found : ∃ row ∈ rows, recoveredStageID row = stageID := by
      simpa [recoveredStageIDs, mem_insertionSort] using member
    obtain ⟨row, rowMember, same⟩ := found
    exact ne_nil_of_mem (a := row) (by simp [rowsOfStage, rowMember, same])
  rw [recovered_stages_lookup, if_neg present]
  rfl

end Dagens.Scheduler.Recovery
