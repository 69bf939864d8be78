import Dagens.Scheduler.Replay

/-!
# Replay and the order of a history

Sequence numbers are taken before the transactions that log them, so parallel
tasks interleave their records in any way. Replay routes every record to the
row of its own entity; what it returns therefore depends on the order of the
records of each entity and on nothing else.
-/

namespace Dagens.Scheduler.ReplayOrder

open Lib Lifecycle GoSupport Replay Function List KeyedReplay

/-- The part of a replayed view that the records of one entity build up. -/
inductive EntityRow where
  | job (row : DurableJobRecord)
  | task (row : Option DurableTaskRecord)

def entityRow (replayed : ReplayedJobState) : Option String → EntityRow
  | none => .job replayed.job
  | some taskID => .task (replayed.tasks.lookup taskID)

def jobRowStep (row : DurableJobRecord) (record : TransitionRecord) : Option EntityRow :=
  match JobLifecycleState.parse record.newState with
  | none => none
  | some state =>
    if row.currentState.all (canTransitionJobState · state) then
      some (.job (jobAfterRecord row record state))
    else none

def taskRowStep (row : Option DurableTaskRecord) (record : TransitionRecord) : Option EntityRow :=
  match TaskLifecycleState.parse record.newState with
  | none => none
  | some state =>
    if (row.getD absentTask).currentState.all (canTransitionTaskState · state) then
      some (.task (some (taskAfterRecord (row.getD absentTask) record state)))
    else none

/-- What a record does to the row of its entity; `none` stops the replay. -/
def rowStep (jobID : String) (row : EntityRow) (record : TransitionRecord) : Option EntityRow :=
  if validate record = .ok () ∧ record.jobID = jobID then
    match record.entityType, row with
    | .job, .job row => jobRowStep row record
    | .task, .task row => taskRowStep row record
    | _, _ => none
  else none

attribute [local simp] entityRow Except.toOption entityKey concerns

theorem entity_row_job (replayed : ReplayedJobState) (row : DurableJobRecord) :
    entityRow { replayed with job := row } = update (entityRow replayed) none (.job row) := by
  funext entity
  cases entity <;> simp

theorem entity_row_task (replayed : ReplayedJobState) (taskID : String) (row : DurableTaskRecord) :
    entityRow { replayed with tasks := replayed.tasks.insert taskID row } =
      update (entityRow replayed) (some taskID) (.task (some row)) := by
  funext entity
  cases entity with
  | none => simp
  | some other =>
    by_cases same : other = taskID
    · subst same
      simp
    · simp [AList.lookup_insert_ne same, same]

theorem apply_job_record_rows (jobID : String) (replayed : ReplayedJobState)
    (record : TransitionRecord) :
    (applyJobRecord jobID replayed record).toOption.map entityRow =
      (jobRowStep replayed.job record).map (update (entityRow replayed) none) := by
  unfold applyJobRecord jobRowStep
  cases JobLifecycleState.parse record.newState with
  | none => rfl
  | some =>
    dsimp only
    split_ifs
    · simp [entity_row_job]
    · rfl

theorem apply_task_record_rows (replayed : ReplayedJobState) (record : TransitionRecord) :
    (applyTaskRecord replayed record).toOption.map entityRow =
      (taskRowStep (replayed.tasks.lookup record.taskID) record).map
        (update (entityRow replayed) (some record.taskID)) := by
  unfold applyTaskRecord taskRowStep
  cases TaskLifecycleState.parse record.newState with
  | none => rfl
  | some =>
    dsimp only
    split_ifs
    · simp [entity_row_task]
    · rfl

section

variable (jobID : String) (replayed : ReplayedJobState)

theorem apply_record_row_step (record : TransitionRecord) :
    (applyRecord jobID replayed record).toOption.map entityRow =
      (rowStep jobID (entityRow replayed (entityKey record)) record).map
        (update (entityRow replayed) (entityKey record)) := by
  unfold applyRecord rowStep
  cases checked : validate record with
  | error => simp
  | ok =>
    by_cases owner : record.jobID = jobID
    · cases entity : record.entityType with
      | job => simpa [owner, entity] using
          apply_job_record_rows jobID replayed record
      | task => simpa [owner, entity] using
          apply_task_record_rows replayed record
      | unknown => simp [owner]
    · simp [owner]

theorem replay_records_row_steps (records : List TransitionRecord) :
    (replayRecords none jobID replayed records).toOption.map entityRow =
      replay entityKey (rowStep jobID) (entityRow replayed) records := by
  induction records generalizing replayed with
  | nil => rfl
  | cons record _ ih =>
    have stepped := apply_record_row_step jobID replayed record
    simp only [replayRecords, replay]
    cases applied : applyRecord jobID replayed record with
    | error =>
      rw [applied] at stepped
      have stuck : rowStep jobID (entityRow replayed (entityKey record)) record = none :=
        Option.map_eq_none_iff.mp stepped.symm
      rw [stuck]
      rfl
    | ok next =>
      rw [applied] at stepped
      obtain ⟨_, moved, updated⟩ := Option.map_eq_some_iff.mp stepped.symm
      rw [moved]
      dsimp only
      rw [updated]
      exact ih next

structure SameEntityOrder (first second : List TransitionRecord) : Prop where
  permuted : first.Perm second
  job : first.filter (fun record => decide (record.entityType = .job)) =
    second.filter (fun record => decide (record.entityType = .job))
  task : ∀ taskID,
    first.filter (fun record => decide (record.entityType = .task ∧ record.taskID = taskID)) =
      second.filter (fun record => decide (record.entityType = .task ∧ record.taskID = taskID))

/-- Both fail, or both succeed with the same job record and the same map of tasks. -/
def SameOutcome : Except GoError ReplayedJobState → Except GoError ReplayedJobState → Prop
  | .ok first, .ok second => first.job = second.job ∧
      ∀ taskID, first.tasks.lookup taskID = second.tasks.lookup taskID
  | .error _, .error _ => True
  | _, _ => False

theorem same_outcome_of_rows {first second : Except GoError ReplayedJobState}
    (same : first.toOption.map entityRow = second.toOption.map entityRow) :
    SameOutcome first second := by
  cases first with
  | error =>
    cases second with
    | error => trivial
    | ok => cases same
  | ok view =>
    cases second with
    | error => cases same
    | ok other =>
      have rows : entityRow view = entityRow other := Option.some.inj same
      refine ⟨EntityRow.job.inj (congrFun rows none), fun taskID => ?_⟩
      exact EntityRow.task.inj (congrFun rows (some taskID))

theorem concerns_entity {records : List TransitionRecord}
    (known : ∀ record ∈ records, record.entityType = .job ∨ record.entityType = .task)
    (entity : Option String) :
    records.filter (concerns entityKey entity) =
      match entity with
      | none => records.filter (fun record => decide (record.entityType = .job))
      | some taskID => records.filter
          (fun record => decide (record.entityType = .task ∧ record.taskID = taskID)) := by
  cases entity with
  | none | some =>
    refine filter_congr fun record member => ?_
    rcases known record member with isJob | isTask
    · simp [isJob]
    · simp [isTask]

theorem replay_unknown_fails {records : List TransitionRecord} {record : TransitionRecord}
    (member : record ∈ records) (notJob : record.entityType ≠ .job)
    (notTask : record.entityType ≠ .task) :
    (replayRecords none jobID replayed records).toOption = none := by
  cases outcome : replayRecords none jobID replayed records with
  | error => rfl
  | ok =>
    have valid := ((replay_records_control outcome).1 record member).1
    rcases valid_entity valid with isJob | isTask
    · exact absurd isJob notJob
    · exact absurd isTask notTask

end

theorem replay_rows_congr (jobID : String) {start other : ReplayedJobState}
    {first second : List TransitionRecord} (started : entityRow start = entityRow other)
    (same : SameEntityOrder first second) :
    (replayRecords none jobID start first).toOption.map entityRow =
      (replayRecords none jobID other second).toOption.map entityRow := by
  by_cases known : ∀ record ∈ first, record.entityType = .job ∨ record.entityType = .task
  · have knownOther : ∀ record ∈ second, record.entityType = .job ∨ record.entityType = .task :=
      fun record member => known record (same.permuted.mem_iff.mpr member)
    rw [replay_records_row_steps, replay_records_row_steps, started]
    refine replay_congr entityKey (rowStep jobID) (entityRow other) fun entity => ?_
    rw [concerns_entity known, concerns_entity knownOther]
    cases entity with
    | none => exact same.job
    | some taskID => exact same.task taskID
  · push Not at known
    obtain ⟨_, member, notJob, notTask⟩ := known
    rw [replay_unknown_fails jobID start member notJob notTask,
      replay_unknown_fails jobID other (same.permuted.mem_iff.mp member) notJob notTask]

/-- Two histories with the same records in the same order for the job and for
each task replay to the same job record and the same tasks, or both fail. -/
theorem replay_depends_on_entity_order (ctxErr : Option GoError) (jobID : String)
    (first second : List TransitionRecord) (durableTasks : List DurableTaskRecord)
    (same : SameEntityOrder first second) :
    SameOutcome (replayJobStateFromData ctxErr jobID first durableTasks)
      (replayJobStateFromData ctxErr jobID second durableTasks) := by
  unfold replayJobStateFromData
  have started : entityRow (replayStart jobID first durableTasks) =
      entityRow (replayStart jobID second durableTasks) := by
    funext entity
    cases entity <;> rfl
  cases ctxErr with
  | none => exact same_outcome_of_rows (replay_rows_congr jobID started same)
  | some =>
    -- a context that is done stops every history but the empty one
    cases first with
    | nil =>
      obtain rfl := nil_perm.mp same.permuted
      exact ⟨rfl, fun _ => rfl⟩
    | cons =>
      cases second with
      | nil => exact absurd same.permuted.symm (by simp)
      | cons => trivial

def submittedRecord : TransitionRecord :=
  ⟨1, .job, .jobSubmitted, "job-1", "", "", "SUBMITTED", "", 0, "", 1⟩

def createdRecord (sequenceID : Nat) (taskID : String) : TransitionRecord :=
  ⟨sequenceID, .task, .taskCreated, "job-1", taskID, "", "PENDING", "", 0, "", 2⟩

/-- Two tasks created in either order. -/
theorem created_tasks_commute :
    SameOutcome
      (replayJobStateFromData none "job-1"
        [submittedRecord, createdRecord 2 "task-1", createdRecord 3 "task-2"] [])
      (replayJobStateFromData none "job-1"
        [submittedRecord, createdRecord 3 "task-2", createdRecord 2 "task-1"] []) := by
  refine replay_depends_on_entity_order none "job-1" _ _ [] ⟨?_, rfl, fun taskID => ?_⟩
  · exact (List.Perm.swap _ _ []).cons _
  · by_cases first : taskID = "task-1"
    · subst first
      rfl
    · have other : ¬ "task-1" = taskID := fun same => first same.symm
      simp [createdRecord, submittedRecord, filter_cons, other]

end Dagens.Scheduler.ReplayOrder
