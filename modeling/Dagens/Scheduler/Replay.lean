import Dagens.Lib.KeyedReplay
import Dagens.Scheduler.DataModel

/-!
# Replay of a job's transition history

`replayJobStateFromData` rebuilds the control-plane view of one job. Seeded
rows carry only static payload; states come from the log alone. A history is
accepted exactly when every record is well formed and, for the job and for
each task separately, the recorded states follow the legal transitions.
-/

namespace Dagens.Scheduler.Replay

open Lib KeyedReplay Lifecycle GoSupport List Function AList Option

structure ReplayedJobState where
  job : DurableJobRecord
  tasks : AList (fun _ : String => DurableTaskRecord)
  transitions : List TransitionRecord

def seededTask (row : DurableTaskRecord) : DurableTaskRecord :=
  { row with currentState := none, lastAttempt := 0, updatedAt := 0 }

def seedTasks (rows : List DurableTaskRecord) : AList (fun _ : String => DurableTaskRecord) :=
  rows.foldl (fun tasks row => tasks.insert row.taskID (seededTask row)) ∅

/-- The zero value of a Go map lookup that finds nothing. -/
def absentTask : DurableTaskRecord :=
  ⟨"", "", "", "", "", "", "", "", none, 0, 0⟩

def taskAfterRecord (current : DurableTaskRecord) (record : TransitionRecord)
    (state : TaskLifecycleState) : DurableTaskRecord :=
  { current with
    taskID := record.taskID
    jobID := record.jobID
    nodeID := record.nodeID
    currentState := some state
    lastAttempt := max current.lastAttempt record.attempt
    updatedAt := record.occurredAt }

def jobAfterRecord (current : DurableJobRecord) (record : TransitionRecord)
    (state : JobLifecycleState) : DurableJobRecord :=
  { current with
    currentState := some state
    createdAt := if current.createdAt = 0 then record.occurredAt else current.createdAt
    updatedAt := record.occurredAt }

def applyJobRecord (jobID : String) (replayed : ReplayedJobState) (record : TransitionRecord) :
    Except GoError ReplayedJobState :=
  match JobLifecycleState.parse record.newState with
  | none => .error (.plain "invalid job new_state")
  | some state =>
    if replayed.job.currentState.all (canTransitionJobState · state) then
      .ok { replayed with job := jobAfterRecord replayed.job record state }
    else .error (.plain ("illegal job transition during replay for job " ++ jobID ++ ": " ++
      jobStateText replayed.job.currentState ++ " -> " ++ state.text))

def applyTaskRecord (replayed : ReplayedJobState) (record : TransitionRecord) :
    Except GoError ReplayedJobState :=
  match TaskLifecycleState.parse record.newState with
  | none => .error (.plain "invalid task new_state")
  | some state =>
    let current := (replayed.tasks.lookup record.taskID).getD absentTask
    if current.currentState.all (canTransitionTaskState · state) then
      .ok { replayed with
        tasks := replayed.tasks.insert record.taskID (taskAfterRecord current record state) }
    else .error (.plain ("illegal task transition during replay for task " ++ record.taskID ++
      ": " ++ taskStateText current.currentState ++ " -> " ++ state.text))

def applyRecord (jobID : String) (replayed : ReplayedJobState) (record : TransitionRecord) :
    Except GoError ReplayedJobState :=
  match validate record with
  | .error message => .error (.plain
      ("invalid transition during replay for job " ++ jobID ++ ": " ++ message))
  | .ok () =>
    if record.jobID ≠ jobID then
      .error (.plain ("transition references wrong job during replay: expected " ++ jobID ++
        ", got " ++ record.jobID))
    else
      match record.entityType with
      | .job => applyJobRecord jobID replayed record
      | .task => applyTaskRecord replayed record
      | .unknown raw => .error (.plain ("unknown transition entity type " ++ raw.quote))

/-- The loop over the transitions; a context that is done stops it at its
next turn. -/
def replayRecords (ctxErr : Option GoError) (jobID : String) :
    ReplayedJobState → List TransitionRecord → Except GoError ReplayedJobState
  | replayed, [] => .ok replayed
  | replayed, record :: rest =>
    match ctxErr with
    | some err => .error err
    | none =>
      match applyRecord jobID replayed record with
      | .error err => .error err
      | .ok next => replayRecords ctxErr jobID next rest

def replayStart (jobID : String) (transitions : List TransitionRecord)
    (durableTasks : List DurableTaskRecord) : ReplayedJobState where
  job := ⟨jobID, "", none, 0, 0, 0⟩
  tasks := seedTasks durableTasks
  transitions := transitions

def replayJobStateFromData (ctxErr : Option GoError) (jobID : String)
    (transitions : List TransitionRecord) (durableTasks : List DurableTaskRecord) :
    Except GoError ReplayedJobState :=
  replayRecords ctxErr jobID (replayStart jobID transitions durableTasks) transitions

def replayJobState (ctxErr : Option GoError) (store : TransitionStore) (jobID : String) :
    Except GoError ReplayedJobState :=
  if jobID = "" then .error (.plain "job_id is required")
  else replayJobStateFromData ctxErr jobID (listTransitionsByJob store jobID)
    (listTasksByJob store jobID)

/-- The job is one entity of a history, each task is another. -/
inductive EntityState where
  | job (state : JobLifecycleState)
  | task (state : TaskLifecycleState)
  deriving DecidableEq, Repr

/-- `none` addresses the job itself. -/
def entityKey (record : TransitionRecord) : Option String :=
  match record.entityType with
  | .job => none
  | _ => some record.taskID

def recordState (record : TransitionRecord) : Option EntityState :=
  match record.entityType with
  | .job => (JobLifecycleState.parse record.newState).map .job
  | .task => (TaskLifecycleState.parse record.newState).map .task
  | .unknown _ => none

def canFollow : EntityState → EntityState → Bool
  | .job source, .job target => canTransitionJobState source target
  | .task source, .task target => canTransitionTaskState source target
  | _, _ => false

def follow (current : Option EntityState) (record : TransitionRecord) :
    Option (Option EntityState) :=
  match recordState record with
  | none => none
  | some next => if current.all (canFollow · next) then some (some next) else none

/-- The lifecycle part of a replayed view, entity by entity. -/
def controlState (replayed : ReplayedJobState) : Option String → Option EntityState
  | none => replayed.job.currentState.map .job
  | some taskID => ((replayed.tasks.lookup taskID).bind (·.currentState)).map .task

def Replayable (jobID : String) (transitions : List TransitionRecord) : Prop :=
  (∀ record ∈ transitions, Valid record ∧ record.jobID = jobID) ∧
    ∀ entity, (replayOne follow none
      (transitions.filter (concerns entityKey entity))).isSome

variable {jobID : String} {replayed next : ReplayedJobState} {record : TransitionRecord}

attribute [local simp] recordState canFollow controlState entityKey taskAfterRecord replayRecords

theorem apply_task_record_ok (entity : record.entityType = .task)
    (accepted : applyTaskRecord replayed record = .ok next) :
    follow (controlState replayed (entityKey record)) record =
        some (controlState next (entityKey record)) ∧
      ∀ other, other ≠ entityKey record → controlState next other = controlState replayed other := by
  unfold applyTaskRecord at accepted
  split at accepted
  · cases accepted
  · rename_i state parsed
    dsimp only at accepted
    split_ifs at accepted with legal
    cases accepted
    constructor
    · cases found : replayed.tasks.lookup record.taskID with
      | none => simp [follow, entity, parsed, found, lookup_insert]
      | some row =>
        cases before : row.currentState <;>
          simp_all [follow, lookup_insert]
    · intro other different
      cases other with
      | none => rfl
      | some taskID =>
        have distinct : taskID ≠ record.taskID := by
          simpa [entity] using different
        simp [lookup_insert_ne distinct]

theorem apply_record_ok (accepted : applyRecord jobID replayed record = .ok next) :
    Valid record ∧ record.jobID = jobID ∧
      follow (controlState replayed (entityKey record)) record =
        some (controlState next (entityKey record)) ∧
      ∀ other, other ≠ entityKey record → controlState next other = controlState replayed other := by
  unfold applyRecord at accepted
  split at accepted
  · cases accepted
  · rename_i valid
    split_ifs at accepted with wrongJob
    refine ⟨valid, not_not.mp wrongJob, ?_⟩
    split at accepted
    · rename_i entity
      unfold applyJobRecord at accepted
      split at accepted
      · cases accepted
      · rename_i state parsed
        split_ifs at accepted with legal
        cases accepted
        constructor
        · cases before : replayed.job.currentState <;>
            simp_all [follow, jobAfterRecord]
        · intro other different
          cases other with
          | none => simp [entity] at different
          | some => rfl
    · exact apply_task_record_ok ‹_› accepted
    · cases accepted

theorem apply_record_accepts (valid : Valid record) (owner : record.jobID = jobID)
    (legal : (follow (controlState replayed (entityKey record)) record).isSome) :
    ∃ next, applyRecord jobID replayed record = .ok next := by
  unfold applyRecord
  rw [show validate record = .ok () from valid]
  simp only [owner, ne_eq, not_true_eq_false, if_false]
  rcases valid_entity valid with entity | entity
  · obtain ⟨_, parsed⟩ := valid_job_new_state valid entity
    simp only [entity, applyJobRecord, parsed]
    rw [if_pos]
    · exact ⟨_, rfl⟩
    · cases before : replayed.job.currentState <;>
        simp_all [follow]
  · obtain ⟨_, parsed⟩ := valid_task_new_state valid entity
    simp only [entity, applyTaskRecord, parsed]
    rw [if_pos]
    · exact ⟨_, rfl⟩
    · cases found : replayed.tasks.lookup record.taskID with
      | none => simp [absentTask]
      | some row =>
        cases before : row.currentState <;>
          simp_all [follow]

variable {after : ReplayedJobState} {records : List TransitionRecord}

theorem replay_records_control (accepted : replayRecords none jobID replayed records = .ok after) :
    (∀ record ∈ records, Valid record ∧ record.jobID = jobID) ∧
      replay entityKey follow (controlState replayed) records =
        some (controlState after) := by
  induction records generalizing replayed with
  | nil =>
    simp only [replayRecords, Except.ok.injEq] at accepted
    subst accepted
    simp [replay]
  | cons record _ ih =>
    simp only [replayRecords] at accepted
    split at accepted
    · cases accepted
    · rename_i next applied
      obtain ⟨valid, owner, moved, unchanged⟩ := apply_record_ok applied
      obtain ⟨restValid, restReplay⟩ := ih accepted
      refine ⟨forall_mem_cons.mpr ⟨⟨valid, owner⟩, restValid⟩, ?_⟩
      have updated : update (controlState replayed) (entityKey record)
          (controlState next (entityKey record)) = controlState next :=
        update_eq_iff.mpr ⟨rfl, fun entity other => (unchanged entity other).symm⟩
      simp only [replay, moved, updated]
      exact restReplay

theorem replay_records_accepts
    (wellFormed : ∀ record ∈ records, Valid record ∧ record.jobID = jobID)
    (legal : (replay entityKey follow (controlState replayed) records).isSome) :
    ∃ after, replayRecords none jobID replayed records = .ok after := by
  induction records generalizing replayed with
  | nil => exact ⟨replayed, rfl⟩
  | cons record _ ih =>
    obtain ⟨⟨valid, owner⟩, restWellFormed⟩ := forall_mem_cons.mp wellFormed
    simp only [replay] at legal
    cases moved : follow (controlState replayed (entityKey record)) record with
    | none => simp [-entityKey, -controlState, moved] at legal
    | some value =>
      rw [moved] at legal
      have accepted : (follow (controlState replayed (entityKey record)) record).isSome := by
        rw [moved]
        rfl
      obtain ⟨next, applied⟩ := apply_record_accepts valid owner accepted
      obtain ⟨_, _, stepped, unchanged⟩ := apply_record_ok applied
      have updated : update (controlState replayed) (entityKey record) value =
          controlState next := by
        rw [moved, some.injEq] at stepped
        exact update_eq_iff.mpr ⟨stepped, fun entity other => (unchanged entity other).symm⟩
      simp only [updated] at legal
      obtain ⟨after, finished⟩ := ih restWellFormed legal
      exact ⟨after, by simp only [replayRecords, applied, finished]⟩

theorem seeded_lookup_state (rows : List DurableTaskRecord) (taskID : String) :
    ((seedTasks rows).lookup taskID).bind (·.currentState) = none := by
  unfold seedTasks
  suffices every : ∀ tasks : AList (fun _ : String => DurableTaskRecord),
      (tasks.lookup taskID).bind (·.currentState) = none →
      ((rows.foldl (fun tasks row => tasks.insert row.taskID (seededTask row)) tasks).lookup
        taskID).bind (·.currentState) = none from every ∅ rfl
  induction rows with
  | nil => exact fun tasks unset => unset
  | cons row _ ih =>
    intro tasks unset
    refine ih _ ?_
    by_cases same : taskID = row.taskID
    · subst same
      simp [lookup_insert, seededTask]
    · rw [lookup_insert_ne same]
      exact unset

section

variable (jobID) (transitions : List TransitionRecord) (rows : List DurableTaskRecord)

theorem start_control_none : controlState (replayStart jobID transitions rows) = fun _ => none := by
  funext entity
  cases entity with
  | none => rfl
  | some => simp [replayStart, seeded_lookup_state]

/-- A stored history is accepted by replay exactly when it is `Replayable`;
the seeded rows have no say in it. -/
theorem replay_accepts_iff :
    (∃ replayed, replayJobStateFromData none jobID transitions rows = .ok replayed) ↔
      Replayable jobID transitions := by
  unfold Replayable
  rw [← replay_is_some_iff entityKey follow (fun _ => none),
    ← start_control_none jobID transitions rows]
  constructor
  · rintro ⟨_, accepted⟩
    obtain ⟨wellFormed, control⟩ := replay_records_control accepted
    exact ⟨wellFormed, by rw [control]; rfl⟩
  · rintro ⟨wellFormed, legal⟩
    exact replay_records_accepts wellFormed legal

end

/-- After an accepted replay the state of each entity is the one its own
records lead to. -/
theorem replayed_control {transitions : List TransitionRecord} {rows : List DurableTaskRecord}
    (accepted : replayJobStateFromData none jobID transitions rows = .ok replayed)
    (entity : Option String) :
    replayOne follow none (transitions.filter (concerns entityKey entity)) =
      some (controlState replayed entity) := by
  obtain ⟨_, control⟩ := replay_records_control accepted
  rw [start_control_none] at control
  exact (replay_some_iff entityKey follow _ _ _).mp control entity

/-- Every row is stored under its own task id, as all writers of the store do. -/
def RowsKeyed (tasks : AList (fun _ : String => DurableTaskRecord)) : Prop :=
  ∀ taskID row, tasks.lookup taskID = some row → row.taskID = taskID

/-- What replay takes from a seeded row and never changes. -/
def payload (row : DurableTaskRecord) : String × String × String × String × String :=
  (row.stageID, row.agentID, row.agentName, row.inputJSON, row.partitionKey)

theorem apply_record_rows (accepted : applyRecord jobID replayed record = .ok next) :
    next.job.jobID = replayed.job.jobID ∧ next.job.name = replayed.job.name ∧
      next.job.lastSequenceID = replayed.job.lastSequenceID ∧
      next.transitions = replayed.transitions ∧
      ((record.entityType ≠ .task ∧ next.tasks = replayed.tasks) ∨
        record.entityType = .task ∧ ∃ state, next.tasks = replayed.tasks.insert record.taskID
          (taskAfterRecord ((replayed.tasks.lookup record.taskID).getD absentTask) record
            state)) := by
  unfold applyRecord at accepted
  split at accepted
  · cases accepted
  · split_ifs at accepted
    split at accepted
    · rename_i entity
      unfold applyJobRecord at accepted
      split at accepted
      · cases accepted
      · split_ifs at accepted
        cases accepted
        exact ⟨rfl, rfl, rfl, rfl, .inl ⟨by simp [entity], rfl⟩⟩
    · rename_i entity
      unfold applyTaskRecord at accepted
      split at accepted
      · cases accepted
      · rename_i state _
        dsimp only at accepted
        split_ifs at accepted
        cases accepted
        exact ⟨rfl, rfl, rfl, rfl, .inr ⟨entity, state, rfl⟩⟩
    · cases accepted

/-- The rows of a replayed view: keyed by task id, one for each seeded row and
one for each task the log speaks of, with the seeded payload. -/
theorem replay_records_rows (keyed : RowsKeyed replayed.tasks)
    (accepted : replayRecords none jobID replayed records = .ok after) :
    after.job.jobID = replayed.job.jobID ∧ after.job.name = replayed.job.name ∧
      after.job.lastSequenceID = replayed.job.lastSequenceID ∧
      after.transitions = replayed.transitions ∧ RowsKeyed after.tasks ∧
    (∀ taskID, taskID ∈ after.tasks ↔ taskID ∈ replayed.tasks ∨
        ∃ record ∈ records, record.entityType = .task ∧ record.taskID = taskID) ∧
      ∀ taskID row, replayed.tasks.lookup taskID = some row →
        ∃ kept, after.tasks.lookup taskID = some kept ∧ payload kept = payload row := by
  induction records generalizing replayed with
  | nil =>
    simp only [replayRecords, Except.ok.injEq] at accepted
    subst accepted
    exact ⟨rfl, rfl, rfl, rfl, keyed, by simp, fun taskID row found => ⟨row, found, rfl⟩⟩
  | cons record _ ih =>
    simp only [replayRecords] at accepted
    split at accepted
    · cases accepted
    · rename_i next applied
      obtain ⟨jobKept, nameKept, sequenceKept, logKept, rows⟩ := apply_record_rows applied
      rcases rows with ⟨other, same⟩ | ⟨entity, state, inserted⟩
      · obtain ⟨job, name, sequence, log, keyedAfter, members, payloads⟩ :=
          ih (same ▸ keyed) accepted
        rw [same] at members payloads
        refine ⟨job.trans jobKept, name.trans nameKept, sequence.trans sequenceKept,
          log.trans logKept, keyedAfter, ?_, payloads⟩
        intro taskID
        simp [members taskID, other]
      · have keyedNext : RowsKeyed next.tasks := by
          intro taskID row found
          rw [inserted] at found
          by_cases same : taskID = record.taskID
          · subst same
            rw [lookup_insert, some.injEq] at found
            rw [← found]
            rfl
          · rw [lookup_insert_ne same] at found
            exact keyed taskID row found
        obtain ⟨job, name, sequence, log, keyedAfter, members, payloads⟩ :=
          ih keyedNext accepted
        refine ⟨job.trans jobKept, name.trans nameKept, sequence.trans sequenceKept,
          log.trans logKept, keyedAfter, ?_, ?_⟩
        · intro taskID
          simp only [members taskID, inserted, mem_insert, mem_cons,
            exists_eq_or_imp, entity, true_and]
          tauto
        · intro taskID row found
          by_cases same : taskID = record.taskID
          · subst same
            refine payloads _ (taskAfterRecord row record state) ?_
            rw [inserted, lookup_insert, found]
            rfl
          · refine payloads taskID row ?_
            rw [inserted, lookup_insert_ne same]
            exact found

theorem rows_keyed_insert {tasks : AList (fun _ : String => DurableTaskRecord)}
    (keyed : RowsKeyed tasks) (row : DurableTaskRecord) :
    RowsKeyed (tasks.insert row.taskID row) := by
  intro taskID found lookup
  by_cases same : taskID = row.taskID
  · subst same
    rw [lookup_insert, some.injEq] at lookup
    rw [← lookup]
  · rw [lookup_insert_ne same] at lookup
    exact keyed taskID found lookup

theorem seed_tasks_keyed (rows : List DurableTaskRecord) : RowsKeyed (seedTasks rows) := by
  unfold seedTasks
  suffices every : ∀ tasks : AList (fun _ : String => DurableTaskRecord), RowsKeyed tasks →
      RowsKeyed (rows.foldl (fun tasks row => tasks.insert row.taskID (seededTask row)) tasks) from
    every ∅ (by simp [RowsKeyed])
  induction rows with
  | nil => exact fun tasks keyed => keyed
  | cons row _ ih => exact fun tasks keyed => ih _ (rows_keyed_insert keyed (seededTask row))

theorem seed_tasks_lookup (rows : List DurableTaskRecord)
    (distinct : (rows.map (·.taskID)).Nodup) (taskID : String) :
    (seedTasks rows).lookup taskID =
      (rows.find? fun row => decide (row.taskID = taskID)).map seededTask := by
  unfold seedTasks
  suffices every : ∀ tasks : AList (fun _ : String => DurableTaskRecord),
      (rows.foldl (fun tasks row => tasks.insert row.taskID (seededTask row)) tasks).lookup
        taskID = ((rows.find? fun row => decide (row.taskID = taskID)).map seededTask).or
          (tasks.lookup taskID) by
    simpa using every ∅
  induction rows with
  | nil => simp
  | cons row rest ih =>
    intro tasks
    obtain ⟨absent, restDistinct⟩ := nodup_cons.mp distinct
    rw [foldl_cons, ih restDistinct]
    by_cases same : row.taskID = taskID
    · subst same
      have missing : (rest.find? fun other => decide (other.taskID = row.taskID)) = none := by
        rw [find?_eq_none]
        intro other member
        have different : other.taskID ≠ row.taskID := fun equal =>
          absent (List.mem_map.mpr ⟨other, member, equal⟩)
        simpa using different
      simp [missing]
    · rw [find?_cons_of_neg (by simpa using same), lookup_insert_ne (Ne.symm same)]

section

variable (store : TransitionStore) (keyed : RowsKeyed store.tasks)

include store keyed

theorem mem_list_tasks (jobID : String) (row : DurableTaskRecord) :
    row ∈ listTasksByJob store jobID ↔
      store.tasks.lookup row.taskID = some row ∧ row.jobID = jobID := by
  simp only [listTasksByJob, mem_insertionSort, mem_filter, List.mem_map,
    decide_eq_true_eq]
  constructor
  · rintro ⟨⟨⟨taskID, found⟩, member, rfl⟩, owner⟩
    have present := mem_lookup_iff.mpr member
    exact ⟨keyed taskID found present ▸ present, owner⟩
  · rintro ⟨found, owner⟩
    exact ⟨⟨⟨row.taskID, row⟩, mem_lookup_iff.mp found, rfl⟩, owner⟩

theorem list_tasks_distinct (jobID : String) :
    ((listTasksByJob store jobID).map (·.taskID)).Nodup := by
  have keys : (store.tasks.entries.map (·.2)).map (·.taskID) = store.tasks.keys := by
    rw [List.map_map]
    refine map_congr_left fun entry member => ?_
    exact keyed entry.1 entry.2 (mem_lookup_iff.mpr member)
  have sorted := (perm_insertionSort (fun first second : DurableTaskRecord =>
    first.taskID ≤ second.taskID) ((store.tasks.entries.map (·.2)).filter fun task =>
      decide (task.jobID = jobID))).map (·.taskID)
  refine sorted.nodup_iff.mpr ?_
  refine List.Nodup.sublist (filter_sublist.map _) ?_
  rw [keys]
  exact store.tasks.keys_nodup

theorem seeded_rows_lookup (jobID taskID : String) :
    (seedTasks (listTasksByJob store jobID)).lookup taskID =
      ((store.tasks.lookup taskID).filter fun row => decide (row.jobID = jobID)).map
        seededTask := by
  rw [seed_tasks_lookup _ (list_tasks_distinct store keyed jobID)]
  congr 1
  cases found : (listTasksByJob store jobID).find? fun row => decide (row.taskID = taskID) with
  | some row =>
    have member := (mem_list_tasks store keyed jobID row).mp (mem_of_find?_eq_some found)
    have named : row.taskID = taskID := by simpa using find?_some found
    rw [← named, member.1, filter_some, if_pos (by simpa using member.2)]
  | none =>
    cases present : store.tasks.lookup taskID with
    | none => rfl
    | some row =>
      have named := keyed taskID row present
      rw [filter_some]
      split_ifs with owner
      · have member := (mem_list_tasks store keyed jobID row).mpr
          ⟨named ▸ present, by simpa using owner⟩
        have skipped := find?_eq_none.mp found row member
        simp [named] at skipped
      · rfl

end

theorem replay_job_state_ok {ctxErr : Option GoError} {store : TransitionStore}
    (replays : replayJobState ctxErr store jobID = .ok replayed) :
    replayJobStateFromData none jobID (store.transitions jobID) (listTasksByJob store jobID) =
        .ok replayed ∧
      replayed.job.jobID = jobID ∧ replayed.job.lastSequenceID = 0 ∧
      replayed.transitions = store.transitions jobID ∧ RowsKeyed replayed.tasks ∧
      ∀ taskID row, (seedTasks (listTasksByJob store jobID)).lookup taskID = some row →
        taskID ∈ replayed.tasks := by
  have accepted : replayJobStateFromData none jobID (store.transitions jobID)
      (listTasksByJob store jobID) = .ok replayed := by
    unfold replayJobState at replays
    split_ifs at replays
    cases ctxErr with
    | none => exact replays
    | some =>
      unfold replayJobStateFromData listTransitionsByJob at *
      cases log : store.transitions jobID with
      | nil => simpa [log] using replays
      | cons => simp [log] at replays
  obtain ⟨job, _, last, log, keyed, members, _⟩ := replay_records_rows
    (show RowsKeyed (replayStart jobID (store.transitions jobID)
      (listTasksByJob store jobID)).tasks from seed_tasks_keyed _) accepted
  refine ⟨accepted, job, last, log, keyed, fun taskID row found => ?_⟩
  exact (members taskID).mpr (.inl (lookup_isSome.mp (by
    rw [show (replayStart jobID (store.transitions jobID) (listTasksByJob store jobID)).tasks =
      seedTasks (listTasksByJob store jobID) from rfl, found]
    rfl)))

end Dagens.Scheduler.Replay
