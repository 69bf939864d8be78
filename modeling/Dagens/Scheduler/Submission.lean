import Dagens.Scheduler.Process

/-!
# What a submission leaves in the store

When every write succeeds, `SubmitJob` records the submission, one creation for
each task and the queueing, in this order, and writes one row for each task.
Replay accepts that history and yields the job QUEUED with exactly these rows.
-/

namespace Dagens.Scheduler.Submission

open Lib KeyedReplay Lifecycle GoSupport Replay Recovery Transitions StoreEffects Process List
  Function Option AList

variable {Input : Type} [GoRuntime Input]

/-- A job as `CompileWithOptions` hands it to `SubmitJob`. -/
structure Submittable (job : Job Input) : Prop where
  named : isBlank job.id = false
  submitted : job.lifecycleState = some .submitted
  stages : ∀ stage ∈ job.stages, stage.id ≠ "" ∧ ∀ task ∈ stage.tasks,
    task.id ≠ "" ∧ task.jobID = job.id ∧ task.stageID = stage.id ∧ task.lifecycleState = none
  distinct : ((jobTasks job).map (·.id)).Nodup

/-- The scheduler and its store know nothing under the job's id. -/
structure Unknown (job : Job Input) (sched : Scheduler Input) : Prop where
  unregistered : sched.jobs job.id = none
  keyed : RowsKeyed sched.store.tasks
  noLog : sched.store.transitions job.id = []
  noRows : ∀ taskID row, sched.store.tasks.lookup taskID = some row → row.jobID ≠ job.id

structure CreatedRecord (task : Task Input) (record : TransitionRecord) : Prop where
  valid : Valid record
  entity : record.entityType = .task
  ofJob : record.jobID = task.jobID
  ofTask : record.taskID = task.id
  state : record.newState = TaskLifecycleState.pending.text

structure CreatedRow (task : Task Input) (row : DurableTaskRecord) : Prop where
  ofTask : row.taskID = task.id
  ofJob : row.jobID = task.jobID
  payload : Replay.payload row = (task.stageID, task.agentID, task.agentName,
    marshalAgentInput task.input, task.partitionKey)

/-- The counters and the store of a submission that has recorded the creation
of the tasks `done`. Nothing else of the scheduler's memory changes meanwhile. -/
structure Creating (before : TransitionStore) (jobID : String) (done : List (Task Input))
    (sequences : String → Nat) (store : TransitionStore) : Prop where
  keyed : RowsKeyed store.tasks
  ordered : SequencedLog.Sequenced TransitionRecord.sequenceID (store.transitions jobID)
  bounded : ∀ record ∈ store.transitions jobID, record.sequenceID ≤ sequences jobID
  log : ∃ created, store.transitions jobID = before.transitions jobID ++ created ∧
    List.Forall₂ CreatedRecord done created
  rows : ∀ task ∈ done, ∃ row, store.tasks.lookup task.id = some row ∧ CreatedRow task row
  others : ∀ taskID, taskID ∉ done.map (·.id) →
    store.tasks.lookup taskID = before.tasks.lookup taskID

variable {store : TransitionStore} {job : Job Input} {task : Task Input}

theorem creating_step {before : TransitionStore} {jobID : String} {done : List (Task Input)}
    {sequences : String → Nat} {write : PendingWrite}
    (creating : Creating before jobID done sequences store) (fresh : task.id ∉ done.map (·.id))
    (owner : task.jobID = jobID) (numbered : write.record.sequenceID = sequences jobID + 1)
    (created : CreatedRecord task write.record) :
    Creating before jobID (done ++ [task]) (update sequences jobID (sequences jobID + 1))
      (taskCommitted task write store) := by
  have recordJob : write.record.jobID = jobID := created.ofJob.trans owner
  have grown : (taskCommitted task write store).transitions jobID =
      store.transitions jobID ++ [write.record] := by
    rw [show (taskCommitted task write store).transitions =
      (appended store write.record).transitions by simp [taskCommitted]]
    rw [appended_transitions, if_pos recordJob.symm, recordJob]
    refine SequencedLog.append_newest _ _ _ creating.ordered fun old member => ?_
    have bound := creating.bounded old member
    omega
  refine ⟨?_, ?_, ?_, ?_, ?_, ?_⟩
  · rw [task_committed_tasks]
    exact rows_keyed_insert creating.keyed (taskRow task write.record.nodeID write.newState
      write.record.attempt write.record.occurredAt)
  · rw [grown]
    refine pairwise_append.mpr ⟨creating.ordered, pairwise_singleton _ _, ?_⟩
    intro old member _ isLast
    rw [mem_singleton.mp isLast]
    have bound := creating.bounded old member
    show old.sequenceID ≤ write.record.sequenceID
    omega
  · intro record member
    rw [grown, List.mem_append, mem_singleton] at member
    rw [update_self]
    rcases member with old | rfl
    · have bound := creating.bounded record old
      omega
    · omega
  · obtain ⟨records, log, matching⟩ := creating.log
    refine ⟨records ++ [write.record], ?_, ?_⟩
    · rw [grown, log, append_assoc]
    · exact rel_append matching (List.Forall₂.cons created .nil)
  · intro other member
    rw [task_committed_tasks]
    rcases List.mem_append.mp member with old | new
    · have different : other.id ≠ task.id := by
        intro same
        exact fresh (same ▸ List.mem_map.mpr ⟨other, old, rfl⟩)
      rw [lookup_insert_ne different]
      exact creating.rows other old
    · rw [mem_singleton.mp new, lookup_insert]
      exact ⟨_, rfl, rfl, rfl, rfl⟩
  · intro taskID absent
    rw [map_append, List.mem_append, not_or] at absent
    have different : taskID ≠ task.id := by simpa using absent.2
    rw [task_committed_tasks, lookup_insert_ne different]
    exact creating.others taskID absent.1

/-- The scheduler `base` with the counters and the store of a submission. -/
def withWrites (base : Scheduler Input) (sequences : String → Nat) (store : TransitionStore) :
    Scheduler Input :=
  { base with jobSequences := sequences, store := store }

section

variable (world : World) (writes : WritesSucceed world) (base : Scheduler Input)
  (before : TransitionStore) (jobID : String) (hasJob : jobID ≠ "") (done : List (Task Input))
  (process : Process Input) (sequences : String → Nat) (store : TransitionStore)
  (memory : process.sched = withWrites base sequences store)
  (creating : Creating before jobID done sequences store)

include writes hasJob memory creating

theorem tasks_created (stageID : String) (tasks : List (Task Input))
    (ready : ∀ task ∈ tasks, task.id ≠ "" ∧ task.jobID = jobID ∧ task.stageID = stageID ∧
      task.lifecycleState = none) (hasStage : stageID ≠ "")
    (distinct : ((done ++ tasks).map (·.id)).Nodup) :
    ∃ sequences' store', (recordTasksCreated world jobID stageID tasks process).2.sched =
        withWrites base sequences' store' ∧
      Creating before jobID (done ++ tasks) sequences' store' := by
  induction tasks generalizing done process sequences store with
  | nil =>
    refine ⟨sequences, store, memory, ?_⟩
    rw [append_nil]
    exact creating
  | cons task _ ih =>
    obtain ⟨hasID, owner, placed, unset⟩ := ready task mem_cons_self
    have owned : ownedTask jobID stageID task = task := by
      rw [ownedTask, if_neg (placed ▸ hasStage), if_neg (owner ▸ hasJob)]
    obtain ⟨write, valid, record, _, recorded⟩ := record_task_ok world task .created "" 0 ""
      process writes (owner ▸ hasJob) hasID (by rw [unset]; rfl)
    have numbered : write.record.sequenceID = sequences jobID + 1 := by
      rw [record, owner, memory]
      rfl
    have fresh : task.id ∉ done.map (·.id) := by
      rw [map_append, nodup_append] at distinct
      intro member
      exact distinct.2.2 task.id member task.id (by simp) rfl
    have next := creating_step creating fresh owner numbered
      ⟨valid, by rw [record]; rfl, by rw [record]; rfl, by rw [record]; rfl, by rw [record]; rfl⟩
    rw [append_cons] at distinct ⊢
    simp only [recordTasksCreated, owned, recorded]
    refine ih (done ++ [task]) _ _ _ ?_ next
      (fun other member => ready other (mem_cons_of_mem _ member)) distinct
    rw [memory, owner]
    rfl

theorem stages_created (stages : List (Stage Input))
    (ready : ∀ stage ∈ stages, stage.id ≠ "" ∧ ∀ task ∈ stage.tasks, task.id ≠ "" ∧ task.jobID =
      jobID ∧ task.stageID = stage.id ∧ task.lifecycleState = none)
    (distinct : ((done ++ stages.flatMap (·.tasks)).map (·.id)).Nodup) :
    ∃ sequences' store', (recordStagesCreated world jobID stages process).2.sched =
        withWrites base sequences' store' ∧
      Creating before jobID (done ++ stages.flatMap (·.tasks)) sequences' store' := by
  induction stages generalizing done process sequences store with
  | nil =>
    refine ⟨sequences, store, memory, ?_⟩
    simpa using creating
  | cons stage _ ih =>
    obtain ⟨hasStage, tasksReady⟩ := ready stage mem_cons_self
    rw [flatMap_cons, ← append_assoc] at distinct
    have tasksDistinct : ((done ++ stage.tasks).map (·.id)).Nodup := by
      rw [map_append] at distinct
      exact (nodup_append.mp distinct).1
    obtain ⟨nextSequences, nextStore, nextMemory, next⟩ := tasks_created world writes base before
      jobID hasJob done process sequences store memory creating stage.id stage.tasks tasksReady
      hasStage tasksDistinct
    rw [flatMap_cons, ← append_assoc]
    exact ih (done ++ stage.tasks) _ nextSequences nextStore nextMemory next
      (fun other member => ready other (mem_cons_of_mem _ member)) distinct

end

structure JobStateRecord (jobID : String) (state : JobLifecycleState)
    (record : TransitionRecord) : Prop where
  valid : Valid record
  entity : record.entityType = .job
  ofJob : record.jobID = jobID
  newState : record.newState = state.text

/-- The store's view of a job right after its submission. -/
structure Stored (job : Job Input) (store : TransitionStore) : Prop where
  keyed : RowsKeyed store.tasks
  rows : ∀ task ∈ jobTasks job, ∃ row, store.tasks.lookup task.id = some row ∧ CreatedRow task row
  others : ∀ taskID row, store.tasks.lookup taskID = some row → row.jobID = job.id →
    taskID ∈ (jobTasks job).map (·.id)
  log : ∃ submitted created queued,
    store.transitions job.id = submitted :: created ++ [queued] ∧
      JobStateRecord job.id .submitted submitted ∧
      List.Forall₂ CreatedRecord (jobTasks job) created ∧ JobStateRecord job.id .queued queued

omit [GoRuntime Input] in
theorem enqueue_memory (sched : Scheduler Input) (ref : Nat) :
    (enqueueJob sched ref).1.objects = sched.objects ∧ (enqueueJob sched ref).1.jobs = sched.jobs ∧
      (enqueueJob sched ref).1.store = sched.store := by
  unfold enqueueJob
  split
  · exact ⟨rfl, rfl, rfl⟩
  · split_ifs <;> exact ⟨rfl, rfl, rfl⟩

theorem nonblank_ne_empty {text : String} (named : isBlank text = false) : text ≠ "" := by
  rintro rfl
  simp [isBlank] at named

attribute [local simp] setObject concerns isExecutableDequeuedJob registerJob controlState
  registeredJob

theorem record_job_appends (world : World) (ref : Nat) (transition : TransitionType)
    (newState : JobLifecycleState) (errorSummary : String) (process : Process Input)
    (job : Job Input) (writes : WritesSucceed world) (found : process.sched.objects ref = some job)
    (named : transition.text ≠ "") (hasID : job.id ≠ "")
    (allowed : jobTransitionAllowed job.lifecycleState newState = true)
    (ordered : SequencedLog.Sequenced TransitionRecord.sequenceID
      (process.sched.store.transitions job.id))
    (bounded : ∀ record ∈ process.sched.store.transitions job.id,
      record.sequenceID ≤ process.sched.jobSequences job.id) :
    let next := (recordJob world ref transition newState errorSummary process).sched
    next.jobs = process.sched.jobs ∧
      next.objects ref = some { job with lifecycleState := some newState } ∧
      next.store.tasks = process.sched.store.tasks ∧
      ∃ record, JobStateRecord job.id newState record ∧
        record.sequenceID = process.sched.jobSequences job.id + 1 ∧
        next.jobSequences job.id = process.sched.jobSequences job.id + 1 ∧
        next.store.transitions job.id = process.sched.store.transitions job.id ++ [record] := by
  obtain ⟨record, _, valid, shape, _, done⟩ := record_job_ok world ref transition newState
    errorSummary process job writes found named hasID allowed
  have ofJob : record.jobID = job.id := by rw [shape]; rfl
  have numbered : record.sequenceID = process.sched.jobSequences job.id + 1 := by rw [shape]; rfl
  rw [done]
  refine ⟨rfl, by simp, rfl, record,
    ⟨valid, by rw [shape]; rfl, ofJob, by rw [shape]; rfl⟩, numbered,
    by simp [takeSequence, nextSequence], ?_⟩
  show (appended process.sched.store record).transitions job.id = _
  rw [appended_transitions, if_pos ofJob.symm, ofJob]
  refine SequencedLog.append_newest _ _ _ ordered fun old member => ?_
  have bound := bounded old member
  omega

theorem initial_transitions_stored (world : World) (ref : Nat) (process : Process Input)
    (writes : WritesSucceed world) (submittable : Submittable job)
    (found : process.sched.objects ref = some job) (keyed : RowsKeyed process.sched.store.tasks)
    (noLog : process.sched.store.transitions job.id = [])
    (noRows : ∀ taskID row, process.sched.store.tasks.lookup taskID = some row →
      row.jobID ≠ job.id) :
    let after := (recordInitialTransitions world ref job process).sched
    after.jobs = process.sched.jobs ∧
      (∃ queued, after.objects ref = some queued ∧ queued.id = job.id ∧
        queued.lifecycleState = some .queued) ∧ Stored job after.store := by
  have hasID := nonblank_ne_empty submittable.named
  -- JOB_SUBMITTED
  obtain ⟨firstJobs, firstObject, firstTasks, first, firstState, firstNumber, firstSequence,
    firstLog⟩ := record_job_appends world ref .jobSubmitted .submitted "" process job writes
      found (by decide) hasID (by rw [submittable.submitted]; decide) (by rw [noLog]; exact .nil)
      (by simp [noLog])
  rw [noLog, nil_append] at firstLog
  unfold recordInitialTransitions
  dsimp only
  set submitted := recordJob world ref .jobSubmitted .submitted "" process
  -- TASK_CREATED for every task
  have start : Creating submitted.sched.store job.id ([] : List (Task Input))
      submitted.sched.jobSequences submitted.sched.store := by
    refine ⟨firstTasks ▸ keyed, ?_, ?_, ⟨[], by simp, .nil⟩, by simp, fun _ _ => rfl⟩
    · rw [firstLog]
      exact pairwise_singleton _ _
    · intro _ member
      rw [firstLog, mem_singleton] at member
      rw [member, firstNumber, firstSequence]
  obtain ⟨_, store, memory, created⟩ := stages_created world writes submitted.sched
    submitted.sched.store job.id hasID [] submitted submitted.sched.jobSequences
    submitted.sched.store rfl start job.stages submittable.stages submittable.distinct
  set creation := recordStagesCreated world job.id job.stages submitted
  rw [nil_append] at created
  have object : creation.2.sched.objects ref =
      some { job with lifecycleState := some .submitted } := by
    rw [memory]
    exact firstObject
  -- JOB_QUEUED
  obtain ⟨lastJobs, lastObject, lastTasks, last, lastState, _, _, lastLog⟩ :=
    record_job_appends world ref .jobQueued .queued ""
      { creation.2 with
        sched := setObject creation.2.sched ref
          { job with lifecycleState := some .submitted, stages := creation.1 } }
      { job with lifecycleState := some .submitted, stages := creation.1 } writes
      (by simp) (by decide) hasID rfl
      (by rw [memory]; exact created.ordered) (by rw [memory]; exact created.bounded)
  rw [object, getD_some]
  obtain ⟨records, log, matching⟩ := created.log
  refine ⟨?_, ⟨_, lastObject, rfl, rfl⟩, ?_, ?_, ?_, first, records, last, ?_, firstState,
    matching, lastState⟩
  · rw [lastJobs, memory]
    exact firstJobs
  · rw [lastTasks, memory]
    exact created.keyed
  · rw [lastTasks, memory]
    exact created.rows
  · rw [lastTasks, memory]
    intro taskID row present owner
    by_contra absent
    have old := created.others taskID absent
    rw [firstTasks] at old
    exact noRows taskID row (old.symm.trans present) owner
  · rw [lastLog, memory]
    show store.transitions job.id ++ [last] = _
    rw [log, firstLog]
    rfl

/-- The job of an accepted submission is registered and QUEUED, in memory and
in the store. -/
theorem submit_stored (world : World) (job : Job Input) (process after : Process Input)
    (writes : WritesSucceed world) (submittable : Submittable job)
    (unknown : Unknown job process.sched)
    (accepted : submitJob world job process = .ok after) :
    after.sched.jobs job.id = some process.sched.nextRef ∧
      (∃ queued, after.sched.objects process.sched.nextRef = some queued ∧ queued.id = job.id ∧
        queued.lifecycleState = some .queued) ∧ Stored job after.sched.store := by
  have admitted : Submittable { job with status := .pending } :=
    ⟨submittable.named, submittable.submitted, submittable.stages, submittable.distinct⟩
  obtain ⟨jobs, object, stored⟩ := initial_transitions_stored world process.sched.nextRef
    { process with
      sched := registerJob { process.sched with
        pendingEnqueue := process.sched.pendingEnqueue + 1 } { job with status := .pending } }
    writes admitted (by simp) unknown.keyed unknown.noLog unknown.noRows
  unfold submitJob at accepted
  dsimp only at accepted
  split_ifs at accepted with registered room
  rw [Except.ok.injEq] at accepted
  subst accepted
  refine ⟨?_, ?_, ?_⟩
  · rw [(enqueue_memory _ _).2.1]
    exact (congrFun jobs job.id).trans (by simp)
  · rw [(enqueue_memory _ _).1]
    exact object
  · rw [(enqueue_memory _ _).2.2]
    exact ⟨stored.keyed, stored.rows, stored.others, stored.log⟩

section

omit [GoRuntime Input]

variable {tasks : List (Task Input)} {created : List TransitionRecord}

theorem created_filter (matching : List.Forall₂ CreatedRecord tasks created)
    (distinct : (tasks.map (·.id)).Nodup) (taskID : String) :
    created.filter (concerns entityKey (some taskID)) = [] ∨
      ∃ record ∈ created, created.filter (concerns entityKey (some taskID)) =
        [record] := by
  induction matching with
  | nil => exact .inl rfl
  | @cons task record _ created first rest ih =>
    obtain ⟨absent, restDistinct⟩ := nodup_cons.mp distinct
    have key : entityKey record = some task.id := by simp [entityKey, first.entity, first.ofTask]
    by_cases same : task.id = taskID
    · subst same
      have others : created.filter (concerns entityKey (some task.id)) = [] := by
        rw [filter_eq_nil_iff]
        intro other member
        obtain ⟨index, bound, rfl⟩ := getElem_of_mem member
        have shape := rest.get (by rw [rest.length_eq]; exact bound) bound
        have different : entityKey created[index] ≠ some task.id := by
          simp only [entityKey, get_eq_getElem] at shape ⊢
          rw [shape.entity, shape.ofTask]
          intro equal
          exact absent (List.mem_map.mpr ⟨_, getElem_mem _, Option.some.inj equal⟩)
        simpa using different
      refine .inr ⟨record, mem_cons_self, ?_⟩
      rw [filter_cons_of_pos (by simp [key]), others]
    · rw [filter_cons_of_neg (by simp [key, same])]
      rcases ih restDistinct with none | ⟨other, member, only⟩
      · exact .inl none
      · exact .inr ⟨other, mem_cons_of_mem _ member, only⟩

theorem created_shape (matching : List.Forall₂ CreatedRecord tasks created) :
    created.map (·.taskID) = tasks.map (·.id) ∧
      ∀ record ∈ created, Valid record ∧ record.entityType = .task ∧
        record.newState = TaskLifecycleState.pending.text ∧
        ∃ task ∈ tasks, record.jobID = task.jobID := by
  induction matching with
  | nil => simp
  | @cons task _ _ _ first _ ih =>
    obtain ⟨ids, shapes⟩ := ih
    refine ⟨by rw [map_cons, map_cons, first.ofTask, ids], ?_⟩
    intro other member
    rcases mem_cons.mp member with rfl | later
    · exact ⟨first.valid, first.entity, first.state, task, mem_cons_self, first.ofJob⟩
    · obtain ⟨valid, entity, state, owner, inTasks, job⟩ := shapes other later
      exact ⟨valid, entity, state, owner, mem_cons_of_mem _ inTasks, job⟩

theorem job_task_owned (submittable : Submittable job) (member : task ∈ jobTasks job) :
    task.jobID = job.id := by
  obtain ⟨stage, inStages, inTasks⟩ := mem_flatMap.mp member
  exact ((submittable.stages stage inStages).2 task inTasks).2.1

end

theorem stored_job_history (stored : Stored job store) :
    replayOne follow none ((store.transitions job.id).filter
      (concerns entityKey none)) = some (some (.job .queued)) := by
  obtain ⟨_, created, _, log, submittedState, matching, queuedState⟩ := stored.log
  have noTasks : created.filter (concerns entityKey none) = [] := by
    rw [filter_eq_nil_iff]
    intro record member
    have entity := ((created_shape matching).2 record member).2.1
    simp [entityKey, entity]
  rw [log, cons_append, filter_cons_of_pos
    (by simp [entityKey, submittedState.entity]),
    filter_append, noTasks, nil_append, filter_cons_of_pos
    (by simp [entityKey, queuedState.entity]), filter_nil]
  simp only [replayOne, follow, recordState, submittedState.entity,
    submittedState.newState, queuedState.entity, queuedState.newState,
    JobLifecycleState.parse_text]
  rfl

section

variable (submittable : Submittable job) (stored : Stored job store)

include submittable stored

theorem stored_task_history (taskID : String) :
    replayOne follow none ((store.transitions job.id).filter
        (concerns entityKey (some taskID))) = some none ∨
      replayOne follow none ((store.transitions job.id).filter
        (concerns entityKey (some taskID))) = some (some (.task .pending)) := by
  obtain ⟨_, created, _, log, submittedState, matching, queuedState⟩ := stored.log
  have only : (store.transitions job.id).filter (concerns entityKey (some taskID)) =
      created.filter (concerns entityKey (some taskID)) := by
    rw [log, cons_append, filter_cons_of_neg
      (by simp [entityKey, submittedState.entity]),
      filter_append, filter_cons_of_neg
      (by simp [entityKey, queuedState.entity]), filter_nil,
      append_nil]
  rw [only]
  rcases created_filter matching submittable.distinct taskID with none | ⟨record, member, one⟩
  · rw [none]
    exact .inl rfl
  · obtain ⟨_, entity, state, _⟩ := (created_shape matching).2 record member
    rw [one]
    refine .inr ?_
    simp only [replayOne, follow, recordState, entity, state,
      TaskLifecycleState.parse_text]
    rfl

theorem stored_replayable : Replayable job.id (store.transitions job.id) := by
  obtain ⟨_, _, _, log, submittedState, matching, queuedState⟩ := stored.log
  constructor
  · intro record member
    rw [log, cons_append, mem_cons, List.mem_append, mem_singleton] at member
    rcases member with rfl | inCreated | rfl
    · exact ⟨submittedState.valid, submittedState.ofJob⟩
    · obtain ⟨valid, _, _, _, inTasks, owner⟩ := (created_shape matching).2 record inCreated
      exact ⟨valid, owner.trans (job_task_owned submittable inTasks)⟩
    · exact ⟨queuedState.valid, queuedState.ofJob⟩
  · intro entity
    cases entity with
    | none =>
      rw [stored_job_history stored]
      rfl
    | some taskID =>
      rcases stored_task_history submittable stored taskID with unset | pending
      · rw [unset]
        rfl
      · rw [pending]
        rfl

/-- What a refresh reads right after the submission: the job QUEUED, and one
row with its payload for each submitted task. -/
theorem stored_read :
    ∃ replayed, readDurableState none store job.id = some replayed ∧
      replayed.job.jobID = job.id ∧ replayed.job.currentState = some .queued ∧
      RowsKeyed replayed.tasks ∧
      (∀ taskID, taskID ∈ replayed.tasks ↔ taskID ∈ (jobTasks job).map (·.id)) ∧
      ∀ task ∈ jobTasks job, ∃ row, replayed.tasks.lookup task.id = some row ∧
        payload row = (task.stageID, task.agentID, task.agentName, marshalAgentInput task.input,
          task.partitionKey) := by
  obtain ⟨replayed, accepted⟩ := (replay_accepts_iff job.id (store.transitions job.id)
    (listTasksByJob store job.id)).mpr (stored_replayable submittable stored)
  have queued : replayed.job.currentState = some .queued := by
    have control := replayed_control accepted none
    rw [stored_job_history stored, Option.some.injEq] at control
    cases state : replayed.job.currentState with
    | none => simp [state] at control
    | some => simpa [state, eq_comm] using control
  have seeds := seeded_rows_lookup store stored.keyed job.id
  obtain ⟨jobID, _, _, _, keyed, members, payloads⟩ :=
    replay_records_rows (seed_tasks_keyed _) accepted
  have seeded : ∀ task ∈ jobTasks job, ∃ row,
      (seedTasks (listTasksByJob store job.id)).lookup task.id = some row ∧
      payload row = (task.stageID, task.agentID, task.agentName, marshalAgentInput task.input,
        task.partitionKey) := by
    intro task member
    obtain ⟨row, found, created⟩ := stored.rows task member
    have owner : row.jobID = job.id := created.ofJob.trans (job_task_owned submittable member)
    refine ⟨seededTask row, ?_, created.payload⟩
    rw [seeds, found, filter_some, if_pos (by simpa using owner)]
    rfl
  refine ⟨replayed, ?_, jobID, queued, keyed, ?_, ?_⟩
  · unfold readDurableState replayJobState listTransitionsByJob
    rw [if_neg (by simp [submittable.named]), if_neg (nonblank_ne_empty submittable.named),
      accepted]
    simp [nothingReplayed, queued]
  · intro taskID
    rw [members taskID]
    constructor
    · rintro (inSeeds | ⟨record, inLog, entity, rfl⟩)
      · obtain ⟨row, found⟩ := isSome_iff_exists.mp (lookup_isSome.mpr inSeeds)
        rw [show (replayStart job.id (store.transitions job.id)
          (listTasksByJob store job.id)).tasks = seedTasks (listTasksByJob store job.id) from rfl,
          seeds, map_eq_some_iff] at found
        obtain ⟨original, present, _⟩ := found
        obtain ⟨lookup, owner⟩ := filter_eq_some_iff.mp present
        exact stored.others taskID original lookup (by simpa using owner)
      · obtain ⟨_, _, _, log, submittedState, matching, queuedState⟩ :=
          stored.log
        rw [log, cons_append, mem_cons, List.mem_append, mem_singleton] at inLog
        rcases inLog with rfl | inCreated | rfl
        · simp [submittedState.entity] at entity
        · rw [← (created_shape matching).1]
          exact List.mem_map.mpr ⟨record, inCreated, rfl⟩
        · simp [queuedState.entity] at entity
    · intro inJob
      obtain ⟨task, member, rfl⟩ := List.mem_map.mp inJob
      obtain ⟨row, found, _⟩ := seeded task member
      exact .inl (lookup_isSome.mp (by
        show ((seedTasks (listTasksByJob store job.id)).lookup task.id).isSome = true
        rw [found]
        rfl))
  · intro task member
    obtain ⟨row, found, same⟩ := seeded task member
    obtain ⟨kept, lookup, keptSame⟩ := payloads task.id row found
    exact ⟨kept, lookup, keptSame.trans same⟩

end

theorem take_refreshed (sched : Scheduler Input) (ref : Nat) (job : Job Input)
    (mapOrder : List DurableTaskRecord → List DurableTaskRecord) (replayed : ReplayedJobState)
    (found : sched.objects ref = some job) (registered : sched.jobs job.id = some ref)
    (queued : job.lifecycleState = some .queued)
    (read : readDurableState none sched.store job.id = some replayed)
    (sameID : replayed.job.jobID = job.id)
    (replayedQueued : replayed.job.currentState = some .queued) :
    ∃ memory executed, takeDequeuedJob none mapOrder ref sched = some (memory, executed) ∧
      executed.stages = (buildRecoveredRuntimeJob replayed
        (mapOrder (replayed.tasks.entries.map (·.2))) : Job Input).stages := by
  have dequeued : markJobDequeued sched ref =
      { sched with queuedJobs := update sched.queuedJobs job.id false } := by
    simp [markJobDequeued, found]
  have ready : isExecutableDequeuedJob (markJobDequeued sched ref) ref = true := by
    simp [dequeued, found, registered, queued]
  have refreshed : refreshJobFromDurableState none mapOrder job.id (markJobDequeued sched ref) =
      some (installRefreshedJob (markJobDequeued sched ref) job.id replayed
        (mapOrder (replayed.tasks.entries.map (·.2)))) := by
    unfold refreshJobFromDurableState
    rw [dequeued, read]
    rfl
  set installed := installRefreshedJob (markJobDequeued sched ref) job.id replayed
    (mapOrder (replayed.tasks.entries.map (·.2))) with installedDef
  set rebuilt := adoptExisting (buildRecoveredRuntimeJob replayed
    (mapOrder (replayed.tasks.entries.map (·.2))))
    (registeredJob (markJobDequeued sched ref) job.id) with rebuiltDef
  have rebuiltID : rebuilt.id = job.id := by
    rw [rebuiltDef, adopt_existing_id]
    exact sameID
  have rebuiltState : rebuilt.lifecycleState = some .queued := by
    rw [rebuiltDef, adopt_existing_state]
    exact replayedQueued
  have rebuiltStages : rebuilt.stages = (buildRecoveredRuntimeJob replayed
      (mapOrder (replayed.tasks.entries.map (·.2))) : Job Input).stages := by
    rw [rebuiltDef, adopt_existing_stages]
  have installedJob : installed.jobs job.id = some (markJobDequeued sched ref).nextRef := by
    rw [installedDef]
    show update _ rebuilt.id _ job.id = _
    rw [rebuiltID, update_self]
  have installedObject : installed.objects (markJobDequeued sched ref).nextRef = some rebuilt := by
    rw [installedDef]
    show update _ _ _ _ = _
    rw [update_self]
  refine ⟨installed, rebuilt, ?_, rebuiltStages⟩
  have sameObjects : (markJobDequeued sched ref).objects ref = some job := by
    rw [dequeued]
    exact found
  unfold takeDequeuedJob
  simp only [sameObjects, ready, if_true, refreshed, getD_some, installedJob]
  rw [if_pos, installedObject]
  · rfl
  · simp [installedObject, rebuiltID, installedJob, rebuiltState]

end Dagens.Scheduler.Submission
