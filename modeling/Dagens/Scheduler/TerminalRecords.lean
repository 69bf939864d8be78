import Dagens.Scheduler.ExecutionCall

/-!
# What stands behind a final job record

`executeJob` closes a job with JOB_SUCCEEDED or JOB_FAILED. The record is
justified when no task claimed by the run is left in the middle of an attempt,
when a success has the success of every task behind it and when every error of an
executor has its TASK_FAILED. An accepted claim is a debt of its goroutine: a
terminal record with a larger number is still to come. `executeTask` leaves that
debt unpaid when the authority check fails and when the executor reports a policy
violation.
-/

namespace Dagens.Scheduler.TerminalRecords

open Lib GuardedRun Lifecycle GoSupport Replay Transitions StoreEffects Goroutine StageRun
  Operations Memory Machine MachineMoves Ledger ExecutionCall List Option

variable {Input : Type} [GoRuntime Input]

/-- The record leaves its task in the middle of an attempt. -/
def isOpen (record : TransitionRecord) : Bool :=
  decide (record.newState = TaskLifecycleState.dispatched.text) ||
    decide (record.newState = TaskLifecycleState.running.text)

def lastTaskRecord (log : List TransitionRecord) (taskID : String) : Option TransitionRecord :=
  (log.filter (KeyedReplay.concerns entityKey (some taskID))).getLast?

/-- The task has a record of this kind in the log of its job. -/
def Reported (store : TransitionStore) (task : Task Input) (transition : TransitionType) : Prop :=
  ∃ record ∈ store.transitions task.jobID,
    record.taskID = task.id ∧ record.transition = transition

/-- What has to be in the store when the final record of a job is appended.
`counters` are the sequence counters when the call began, so the claims of the
run are those with larger numbers. -/
structure Justified (origin : Job Input) (counters : String → Nat) (call : Call Input)
    (final : TransitionType) : Prop where
  settled : ∀ jobID, ∀ claim ∈ call.sched.store.transitions jobID,
    claim.entityType = .task → claim.transition = .taskDispatched →
    counters jobID < claim.sequenceID →
    ∀ last, lastTaskRecord (call.sched.store.transitions jobID) claim.taskID = some last →
      isOpen last = false
  succeeded : final = .jobSucceeded →
    ∀ task ∈ jobTasks origin, Reported call.sched.store task .taskSucceeded
  failed : final = .jobFailed → ∀ taskID ∈ call.refused,
    ∃ task ∈ jobTasks origin, task.id = taskID ∧ Reported call.sched.store task .taskFailed

def finalTransitions : List TransitionType := [.jobSucceeded, .jobFailed]

/-- A call of `executeJob` for a submitted job, whose tasks have a job id if the
job has one. -/
structure Begun (origin : Job Input) (counters : String → Nat) (call : Call Input) : Prop where
  entered : ∃ ref, call.exec = some ⟨ref, false, .begin⟩ ∧ Own origin ref call.sched origin
  labelled : origin.id ≠ "" → ∀ task ∈ jobTasks origin, task.jobID ≠ ""
  clock : call.now ≠ 0
  refused : call.refused = []
  counted : call.sched.jobSequences = counters
  grounded : Grounded (machineOf call)

/-- Where the goroutine of the stage's task `index` stands. -/
def positionOf (call : Call Input) (index : Nat) : Option TaskPC :=
  match call.exec with
  | some ⟨_, _, .inStage _ run⟩ =>
    match run.workers[index]? with
    | some (.running routine) => some routine.pc
    | _ => none
  | _ => none

/-- The process is still the leader when a goroutine checks before the remote
call, and the executor reports no policy violation. -/
def keepsAuthority (call : Call Input) : CallAction → Bool
  | .event (.work index answers) =>
    match positionOf call index with
    | some .authorizing =>
      match answers.authority with
      | .ok authority => authority.isLeader
      | .error _ => false
    | some .calling => answers.executor.all fun err => !err.isPolicyViolation
    | _ => true
  | _ => true

def Opened (task : Task Input) (state : TaskLifecycleState) : Prop :=
  task.id ≠ "" ∧ task.jobID ≠ "" ∧ task.lifecycleState = some state

/-- A prepared report that the store will accept. -/
structure Reports (write : PendingWrite) (report : TaskReport) : Prop where
  valid : Valid write.record
  state : write.newState = report.newState
  transition : write.record.transition = report.transition

def RoutineStands (store : TransitionStore) (task : Task Input) : TaskPC → Prop
  | .claimed | .starting => Opened task .dispatched
  | .recordingJob _ todo =>
    Opened task .dispatched ∧ ∀ step ∈ todo, step.1 ∉ finalTransitions
  | .startPending write => Opened task .dispatched ∧ Reports write .running
  | .authorizing | .calling | .succeeding | .failing _ => Opened task .running
  | .succeedPending write => Opened task .running ∧ Reports write .succeeded
  | .failPending _ write => Opened task .running ∧ Reports write .failed
  | .finished none => Reported store task .taskSucceeded
  | _ => True

/-- A terminal record with a number above `number` is still to come. -/
def owes (number : Nat) : TaskPC → Prop
  | .claimed | .recordingJob _ _ | .starting | .startPending _ | .authorizing | .calling
  | .succeeding | .failing _ => True
  | .succeedPending write | .failPending _ write => number < write.record.sequenceID
  | _ => False

/-- The executor has refused and TASK_FAILED is still to come. -/
def owesFailure : TaskPC → Prop
  | .failing _ | .failPending _ _ => True
  | _ => False

def Paid (store : TransitionStore) (jobID taskID : String) (number : Nat) : Prop :=
  ∃ record ∈ store.transitions jobID, record.entityType = .task ∧ record.taskID = taskID ∧
    isOpen record = false ∧ number < record.sequenceID

/-- What a step of a goroutine does to its task and to the logs. -/
structure RoutineStep (sched : Scheduler Input) (task : Task Input) (pc : TaskPC)
    (store : TransitionStore) (later : Task Input) (next : TaskPC) : Prop where
  stands : RoutineStands store later next
  grows : ∀ jobID, ∀ record ∈ sched.store.transitions jobID, record ∈ store.transitions jobID
  recent : ∀ jobID, ∀ record ∈ store.transitions jobID,
    record ∈ sched.store.transitions jobID ∨
      (record.entityType = .job ∧ record.transition ∉ finalTransitions) ∨
      jobID = task.jobID ∧ record.taskID = task.id ∧ record.entityType = .task ∧
        (isOpen record = true → owes record.sequenceID next)
  debts : ∀ number ≤ sched.jobSequences task.jobID, owes number pc →
    owes number next ∨ Paid store task.jobID task.id number
  failures : owesFailure pc → owesFailure next ∨ Reported store task .taskFailed

variable {sched : Scheduler Input} {later task : Task Input}

section Silent

variable {pc next : TaskPC}

omit [GoRuntime Input] in
theorem routine_step_silent (stands : RoutineStands sched.store later next)
    (debts : ∀ number ≤ sched.jobSequences task.jobID, owes number pc → owes number next)
    (failures : owesFailure pc → owesFailure next) :
    RoutineStep sched task pc sched.store later next :=
  ⟨stands, fun _ _ => id, fun _ _ => .inl, fun number below owed =>
    .inl (debts number below owed), fun owed => .inl (failures owed)⟩

end Silent

variable {routine : Goroutine} {record : TransitionRecord} {now : Time} {jobID : String}
  {write : PendingWrite}

section Writes

variable {report : TaskReport}

theorem prepare_report_written (sched : Scheduler Input) (routine : Goroutine) (task : Task Input)
    (report : TaskReport) (named : task.id ≠ "") (hasJob : task.jobID ≠ "")
    (clock : now ≠ 0)
    (allowed : taskTransitionAllowed task.lifecycleState report.newState = true)
    (errorSummary : String) (skipped : TaskPC) (pending : PendingWrite → TaskPC) :
    ∃ write, prepareReport sched routine task report errorSummary now skipped pending =
        ⟨takeSequence sched task.jobID, { routine with pc := pending write }, task, []⟩ ∧
      Reports write report ∧
      write.record.sequenceID = sched.jobSequences task.jobID + 1 := by
  have hasText : report.transition.text ≠ "" := by cases report <;> decide
  have valid := (task_record_valid (nextSequence sched task.jobID) task report.transition
    task.lifecycleState report.newState routine.nodeID task.attempts
    (normalizeTransitionErrorSummary Input errorSummary) now hasText allowed).mpr
      ⟨Nat.succ_ne_zero _, hasJob, named, clock⟩
  refine ⟨⟨_, report.newState, durableJobSnapshot (takeSequence sched task.jobID) task.jobID
    (nextSequence sched task.jobID) now⟩, ?_, ⟨valid, rfl, rfl⟩, rfl⟩
  simp only [prepareReport, prepareTaskTransition, allowed, if_true]
  rfl

theorem commit_report_written (valid : Valid write.record) (next : TaskPC)
    (events : List TaskEvent) :
    commitReport sched routine task write none next events =
      ⟨{ sched with store := taskCommitted task write sched.store }, { routine with pc := next },
        { task with lifecycleState := some write.newState }, events⟩ := by
  have committed := (commit_task_transition_ok task write none sched.store _).mpr
    ⟨⟨rfl, valid⟩, rfl⟩
  simp only [commitReport, committed]

theorem record_job_logs (sched : Scheduler Input) (ref : Nat) (transition : TransitionType)
    (newState : JobLifecycleState) (errorSummary : String) (now : Time) (fault : Option GoError)
    (jobID : String) (record : TransitionRecord) :
    let after := recordJobTransition sched ref transition newState errorSummary now fault
    (record ∈ sched.store.transitions jobID → record ∈ after.store.transitions jobID) ∧
      (record ∈ after.store.transitions jobID → record ∈ sched.store.transitions jobID ∨
        record.entityType = .job ∧ record.transition = transition) := by
  rcases record_job_transition_cases sched ref transition newState errorSummary now fault with
    same | ⟨_, _, _, taken | ⟨_, _, rfl, _, _, moved⟩⟩
  · rw [same]
    exact ⟨id, .inl⟩
  · rw [taken]
    exact ⟨id, .inl⟩
  · rw [moved]
    simp only [setObject, upsert_job_transitions, mem_appended]
    refine ⟨.inl, ?_⟩
    rintro (old | ⟨_, rfl⟩)
    · exact .inl old
    · exact .inr ⟨rfl, rfl⟩

theorem report_open (state : record.newState = report.newState.text)
    (final : report = .succeeded ∨ report = .failed) : isOpen record = false := by
  unfold isOpen
  rw [state]
  rcases final with rfl | rfl <;> decide

theorem mem_task_committed :
    record ∈ (taskCommitted task write sched.store).transitions jobID ↔
      record ∈ sched.store.transitions jobID ∨
        jobID = write.record.jobID ∧ record = write.record := by
  rw [taskCommitted, upsert_snapshot_transitions, upsert_task_transitions, mem_appended]

omit [GoRuntime Input] in
theorem mem_claim_committed :
    record ∈ (claimCommitted task write sched.store).transitions jobID ↔
      record ∈ sched.store.transitions jobID ∨
        jobID = write.record.jobID ∧ record = write.record := by
  rw [claimCommitted, upsert_snapshot_transitions, mem_appended]

end Writes

variable {progress : Progress Input} {answers : Answers}

section RoutineSteps

variable {pc : TaskPC}

omit [GoRuntime Input] in
theorem routine_step_prepared {pending : PendingWrite → TaskPC}
    (stands : RoutineStands sched.store later (pending write))
    (number : write.record.sequenceID = sched.jobSequences task.jobID + 1)
    (owed : ∀ number, number < write.record.sequenceID → owes number (pending write))
    (failures : owesFailure pc → owesFailure (pending write)) :
    RoutineStep sched task pc sched.store later (pending write) :=
  routine_step_silent stands (fun below le _ => owed below (by omega)) failures

theorem routine_step_committed {next : TaskPC} (entity : write.record.entityType = .task)
    (taskID : write.record.taskID = task.id) (jobID : write.record.jobID = task.jobID)
    (stands : RoutineStands (taskCommitted task write sched.store)
      { task with lifecycleState := some write.newState } next)
    (opens : isOpen write.record = true → owes write.record.sequenceID next)
    (debts : ∀ number, owes number pc →
      owes number next ∨ isOpen write.record = false ∧ number < write.record.sequenceID)
    (failures : owesFailure pc → write.record.transition = .taskFailed) :
    RoutineStep sched task pc (taskCommitted task write sched.store)
      { task with lifecycleState := some write.newState } next := by
  have member : write.record ∈ (taskCommitted task write sched.store).transitions task.jobID :=
    mem_task_committed.mpr (.inr ⟨jobID.symm, rfl⟩)
  refine ⟨stands, fun _ _ old => mem_task_committed.mpr (.inl old), ?_, ?_, ?_⟩
  · intro other record found
    rcases mem_task_committed.mp found with old | ⟨same, rfl⟩
    · exact .inl old
    · exact .inr (.inr ⟨same.trans jobID, taskID, entity, opens⟩)
  · intro number _ owed
    rcases debts number owed with still | ⟨closed, below⟩
    · exact .inl still
    · exact .inr ⟨write.record, member, entity, taskID, closed, below⟩
  · intro owed
    exact .inr ⟨write.record, member, taskID, failures owed⟩

theorem routine_step (ref : Nat) (position : Position) (clock : now ≠ 0) (hasJob : task.jobID ≠ "")
    (accepted : answers.fault = none)
    (authority : routine.pc = .authorizing →
      ∃ authority, answers.authority = .ok authority ∧ authority.isLeader = true)
    (policy : routine.pc = .calling →
      ∀ err, answers.executor = some err → err.isPolicyViolation = false)
    (pendings : ∀ prepared, routinePending ref position routine.pc = some prepared →
      prepared.write.record.entityType = .task ∧
        prepared.write.record.newState = prepared.write.newState.text ∧
        prepared.write.record.taskID = task.id ∧
        (Valid prepared.write.record → prepared.write.record.jobID = task.jobID))
    (stands : RoutineStands sched.store task routine.pc)
    (stepped : goroutineStep sched routine task answers now = some progress) :
    RoutineStep sched task routine.pc progress.sched.store progress.task progress.routine.pc := by
  obtain ⟨nodeID, attempt, current⟩ := routine
  cases current with
  | claiming =>
    cases stepped
    rcases prepare_claim_cases sched ⟨nodeID, attempt, _⟩ task now with
      ⟨legacy, _⟩ | refused | ⟨write, prepared, _⟩
    · exact absurd legacy hasJob
    · rw [refused]
      exact routine_step_silent trivial (fun _ _ => id) id
    · rw [prepared]
      exact routine_step_silent trivial (fun _ _ => id) id
  | claimPending write =>
    simp only [goroutineStep, accepted] at stepped
    cases stepped
    obtain ⟨entity, state, taskID, jobID⟩ := pendings ⟨ref, position, true, write⟩
      rfl
    rcases commit_claim_cases sched ⟨nodeID, attempt, _⟩ task write none with
      ⟨err, failed⟩ | ⟨committed, _, valid, _⟩
    · rw [failed]
      exact routine_step_silent trivial (fun _ _ => id) id
    · rw [committed]
      have named : task.id ≠ "" := by
        rcases (valid_iff _).mp valid with ⟨_, _, _, _, _, ⟨isJob, _⟩ | ⟨_, shape⟩⟩
        · rw [entity] at isJob
          cases isJob
        · rw [← taskID]
          exact shape.hasTask
      refine ⟨⟨named, hasJob, rfl⟩, fun _ _ old => mem_claim_committed.mpr (.inl old), ?_,
        fun _ _ => False.elim, False.elim⟩
      intro other record found
      rcases mem_claim_committed.mp found with old | ⟨same, rfl⟩
      · exact .inl old
      · exact .inr (.inr ⟨same.trans (jobID valid), taskID, entity, fun _ => trivial⟩)
  | claimed =>
    simp only [goroutineStep] at stepped
    split at stepped <;> cases stepped
    · exact routine_step_silent stands (fun _ _ => id) id
    · refine routine_step_silent ⟨stands, ?_⟩ (fun _ _ => id) id
      generalize (sched.objects _).bind (·.lifecycleState) = state
      cases state with
      | none => simp [firstDispatchTransitions]
      | some state => cases state <;> decide
  | recordingJob target todo =>
    cases todo with
    | nil =>
      cases stepped
      exact routine_step_silent stands.1 (fun _ _ => id) id
    | cons first =>
      obtain ⟨transition, newState⟩ := first
      cases stepped
      have logs := record_job_logs sched target transition newState "" now answers.fault
      refine ⟨⟨stands.1, fun step member => stands.2 step (mem_cons_of_mem _ member)⟩,
        fun jobID record => (logs jobID record).1, ?_, fun _ _ owed => .inl owed,
        False.elim⟩
      intro jobID record found
      rcases (logs jobID record).2 found with old | ⟨isJob, same⟩
      · exact .inl old
      · exact .inr (.inl ⟨isJob, same ▸ stands.2 _ mem_cons_self⟩)
  | starting =>
    cases stepped
    obtain ⟨named, _, state⟩ := stands
    obtain ⟨write, written, reports, number⟩ := prepare_report_written sched ⟨nodeID, attempt, _⟩
      { task with status := .running } .running named hasJob clock (by simp only [state]; rfl) ""
      .authorizing .startPending
    rw [written]
    exact routine_step_prepared ⟨⟨named, hasJob, state⟩, reports⟩ number (fun _ _ => trivial) id
  | startPending write =>
    simp only [goroutineStep, accepted] at stepped
    cases stepped
    obtain ⟨⟨named, _⟩, reports⟩ := stands
    obtain ⟨entity, state, taskID, jobID⟩ := pendings ⟨ref, position, false, write⟩
      rfl
    rw [commit_report_written reports.valid]
    exact routine_step_committed entity taskID (jobID reports.valid)
      ⟨named, hasJob, by rw [reports.state]; rfl⟩ (fun _ => trivial) (fun _ => .inl) False.elim
  | authorizing =>
    obtain ⟨_, isLeader, leads⟩ := authority rfl
    simp only [goroutineStep, isLeader, leads, if_true] at stepped
    cases stepped
    exact routine_step_silent stands (fun _ _ => id) id
  | calling =>
    simp only [goroutineStep] at stepped
    split at stepped
    · cases stepped
      exact routine_step_silent stands (fun _ _ => id) id
    · rename_i err answer
      simp only [policy rfl err answer, Bool.false_eq_true, if_false, Option.some.injEq]
        at stepped
      subst stepped
      exact routine_step_silent stands (fun _ _ => id) False.elim
  | succeeding =>
    cases stepped
    obtain ⟨named, _, state⟩ := stands
    obtain ⟨write, written, reports, number⟩ := prepare_report_written sched ⟨nodeID, attempt, _⟩ task
      .succeeded named hasJob clock (by rw [state]; rfl) "" (.finished none) .succeedPending
    rw [written]
    exact routine_step_prepared ⟨⟨named, hasJob, state⟩, reports⟩ number (fun _ => id) False.elim
  | succeedPending write =>
    simp only [goroutineStep, accepted] at stepped
    cases stepped
    obtain ⟨⟨named, _⟩, reports⟩ := stands
    obtain ⟨entity, state, taskID, jobID⟩ := pendings ⟨ref, position, false, write⟩
      rfl
    have closed : isOpen write.record = false :=
      report_open (state.trans (congrArg _ reports.state)) (.inl rfl)
    rw [commit_report_written reports.valid]
    refine routine_step_committed entity taskID (jobID reports.valid) ?_ (by simp [closed])
      (fun _ owed => .inr ⟨closed, owed⟩) False.elim
    exact ⟨write.record, mem_task_committed.mpr (.inr ⟨(jobID reports.valid).symm, rfl⟩),
      taskID, reports.transition⟩
  | failing err =>
    cases stepped
    obtain ⟨named, _, state⟩ := stands
    obtain ⟨write, written, reports, number⟩ := prepare_report_written sched ⟨nodeID, attempt, _⟩ task
      .failed named hasJob clock (by rw [state]; rfl) err.message
      (failedAttempt (taskFailure task nodeID err)) (.failPending err)
    rw [written]
    exact routine_step_prepared ⟨⟨named, hasJob, state⟩, reports⟩ number (fun _ => id) id
  | failPending _ write =>
    simp only [goroutineStep, accepted] at stepped
    cases stepped
    obtain ⟨⟨_⟩, reports⟩ := stands
    obtain ⟨entity, state, taskID, jobID⟩ := pendings ⟨ref, position, false, write⟩
      rfl
    have closed : isOpen write.record = false :=
      report_open (state.trans (congrArg _ reports.state)) (.inr rfl)
    rw [commit_report_written reports.valid]
    exact routine_step_committed entity taskID (jobID reports.valid) trivial (by simp [closed])
      (fun _ owed => .inr ⟨closed, owed⟩) (fun _ => reports.transition)
  | attempted =>
    simp only [goroutineStep] at stepped
    split_ifs at stepped
    · split at stepped <;> cases stepped <;>
        exact routine_step_silent trivial (fun _ _ => id) id
    · cases stepped
      exact routine_step_silent trivial (fun _ _ => id) id
  | finished => simp [goroutineStep] at stepped

end RoutineSteps

variable {action : CallAction} {pc : TaskPC} {transition : TransitionType} {total : Nat}
  {position : Position} {ref : Nat}

theorem pending_place {prepared : Prepared}
    (pending : routinePending ref position pc = some prepared) :
    prepared.ref = ref ∧ prepared.position = position := by
  cases pc <;> simp only [routinePending, Option.some.injEq, reduceCtorEq] at pending <;>
    subst pending <;> exact ⟨rfl, rfl⟩

variable {call : Call Input} {counters : String → Nat} {origin : Job Input}
  {store after : TransitionStore}

def crew : ExecPC → Nat × List (Worker Goroutine)
  | .inStage stage run => (stage, run.workers)
  | _ => (0, [])

/-- How many stages are behind the call. -/
def stagesDone (origin : Job Input) : ExecPC → Nat
  | .openStage stage | .inStage stage _ => stage
  | .completing | .recordSuccess => origin.stages.length
  | _ => 0

def Works (sched : Scheduler Input) (ref : Nat) (pc : ExecPC) (spot : TaskPC)
    (task : Task Input) : Prop :=
  ∃ index routine, (crew pc).2[index]? = some (.running routine) ∧ routine.pc = spot ∧
    objectTask sched ref ⟨(crew pc).1, index⟩ = some task

def WorkerStands (sched : Scheduler Input) (ref : Nat) (position : Position) :
    Worker Goroutine → Prop
  | .running routine => ∃ task, objectTask sched ref position = some task ∧
      RoutineStands sched.store task routine.pc
  | .returned none => ∃ task, objectTask sched ref position = some task ∧
      Reported sched.store task .taskSucceeded
  | _ => True

structure Accounts (origin : Job Input) (counters : String → Nat) (sched : Scheduler Input)
    (refused : List String) (ref : Nat) (pc : ExecPC) : Prop where
  own : ∃ job, Own origin ref sched job
  debts : ∀ jobID, ∀ record ∈ sched.store.transitions jobID, record.entityType = .task →
    isOpen record = true → counters jobID < record.sequenceID →
    Paid sched.store jobID record.taskID record.sequenceID ∨
      ∃ spot task, Works sched ref pc spot task ∧ task.jobID = jobID ∧ task.id = record.taskID ∧
        owes record.sequenceID spot
  refused : ∀ taskID ∈ refused,
    (∃ task ∈ jobTasks origin, task.id = taskID ∧ Reported sched.store task .taskFailed) ∨
      ∃ spot task, Works sched ref pc spot task ∧ task.id = taskID ∧ owesFailure spot
  workers : ∀ index worker, (crew pc).2[index]? = some worker →
    WorkerStands sched ref ⟨(crew pc).1, index⟩ worker
  passed : ∀ position task, position.stage < stagesDone origin pc →
    taskAt origin position = some task → Reported sched.store task .taskSucceeded
  heard : ∀ stage run err, pc = .inStage stage run →
    (.returned (some err) : Worker Goroutine) ∈ run.workers → run.errChan ≠ []

omit [GoRuntime Input] in
theorem reported_mono
    (grows : ∀ jobID, ∀ record ∈ store.transitions jobID, record ∈ after.transitions jobID)
    (reported : Reported store task transition) : Reported after task transition := by
  obtain ⟨record, member, same⟩ := reported
  exact ⟨record, grows _ record member, same⟩

variable {taskID : String}

theorem paid_mono {number : Nat}
    (grows : ∀ jobID, ∀ record ∈ store.transitions jobID, record ∈ after.transitions jobID)
    (paid : Paid store jobID taskID number) : Paid after jobID taskID number := by
  obtain ⟨record, member, same⟩ := paid
  exact ⟨record, grows _ record member, same⟩

omit [GoRuntime Input] in
theorem routine_stands_mono
    (grows : ∀ jobID, ∀ record ∈ store.transitions jobID, record ∈ after.transitions jobID)
    (stands : RoutineStands store task pc) : RoutineStands after task pc := by
  cases pc with
  | finished err =>
    cases err with
    | none => exact reported_mono grows stands
    | some => trivial
  | _ => exact stands

/-- A step that touches no task and writes no task record. -/
structure Frame (sched after : Scheduler Input) (ref : Nat) : Prop where
  own : ∀ origin job, Own origin ref sched job → ∃ later, Own origin ref after later
  tasks : ∀ position, objectTask after ref position = objectTask sched ref position
  grows : ∀ jobID, ∀ record ∈ sched.store.transitions jobID,
    record ∈ after.store.transitions jobID
  recent : ∀ jobID, ∀ record ∈ after.store.transitions jobID, record.entityType = .task →
    record ∈ sched.store.transitions jobID

omit [GoRuntime Input] in
theorem frame_refl (sched : Scheduler Input) (ref : Nat) : Frame sched sched ref :=
  ⟨fun _ job own => ⟨job, own⟩, fun _ => rfl, fun _ _ => id, fun _ _ member _ => member⟩

attribute [local simp] objectTask setObject KeyedReplay.concerns finalTransitions crew

omit [GoRuntime Input] in
theorem frame_status (sched : Scheduler Input) (ref : Nat) (status : JobStatus) (now : Time) :
    Frame sched (updateJobStatus sched ref status now) ref := by
  unfold updateJobStatus
  cases found : sched.objects ref with
  | none => exact frame_refl sched ref
  | some object =>
    refine ⟨?_, ?_, fun _ _ => id, fun _ _ member _ => member⟩
    · intro origin job own
      obtain rfl : object = job := Option.some.inj (found.symm.trans own.found)
      exact ⟨{ object with status := status, updatedAt := now }, own.entry, by simp,
        own.id, own.shape⟩
    · intro position
      simp [found, taskAt]

theorem frame_recorded (sched : Scheduler Input) (ref : Nat) (transition : TransitionType)
    (newState : JobLifecycleState) (errorSummary : String) (now : Time)
    (fault : Option GoError) :
    Frame sched (recordJobTransition sched ref transition newState errorSummary now fault) ref := by
  have logs := record_job_logs sched ref transition newState errorSummary now fault
  refine ⟨fun origin job own => own_recorded own ref transition newState errorSummary now fault,
    record_job_keeps_tasks sched ref transition newState errorSummary now fault ref,
    fun jobID record => (logs jobID record).1, ?_⟩
  intro jobID record member isTask
  rcases (logs jobID record).2 member with old | ⟨isJob, _⟩
  · exact old
  · rw [isTask] at isJob
    cases isJob

variable {index stage : Nat} {refused : List String}

section Moves

variable {after : Scheduler Input} {pc next : ExecPC}

section

omit [GoRuntime Input]

section

variable (accounts : Accounts origin counters sched refused ref pc)

include accounts

theorem accounts_frame (frame : Frame sched after ref) :
    Accounts origin counters after refused ref pc := by
  have works : ∀ spot task, Works sched ref pc spot task → Works after ref pc spot task := by
    rintro spot task ⟨index, routine, running, atPC, found⟩
    exact ⟨index, routine, running, atPC, (frame.tasks _).trans found⟩
  obtain ⟨job, own⟩ := accounts.own
  refine ⟨frame.own origin job own, ?_, ?_, ?_, ?_, accounts.heard⟩
  · intro jobID record member isTask opens recent
    rcases accounts.debts jobID record (frame.recent jobID record member isTask) isTask opens
      recent with paid | ⟨spot, task, working, owed⟩
    · exact .inl (paid_mono frame.grows paid)
    · exact .inr ⟨spot, task, works spot task working, owed⟩
  · intro taskID member
    rcases accounts.refused taskID member with ⟨task, known, id, reported⟩ |
      ⟨spot, task, working, owed⟩
    · exact .inl ⟨task, known, id, reported_mono frame.grows reported⟩
    · exact .inr ⟨spot, task, works spot task working, owed⟩
  · intro index worker found
    have stands := accounts.workers index worker found
    cases worker with
    | running =>
      obtain ⟨task, here, stands⟩ := stands
      exact ⟨task, (frame.tasks _).trans here, routine_stands_mono frame.grows stands⟩
    | reporting => trivial
    | returned err =>
      cases err with
      | none =>
        obtain ⟨task, here, reported⟩ := stands
        exact ⟨task, (frame.tasks _).trans here, reported_mono frame.grows reported⟩
      | some => trivial
  · intro position task before found
    exact reported_mono frame.grows (accounts.passed position task before found)

theorem accounts_crew
    (stays : ∀ spot task, Works sched ref pc spot task → Works sched ref next spot task ∨ (∀ number,
      ¬ owes number spot) ∧ ¬ owesFailure spot)
    (workers : ∀ index worker, (crew next).2[index]? = some worker → WorkerStands sched ref ⟨(crew
      next).1, index⟩ worker)
    (passed : ∀ position task, position.stage < stagesDone origin next → taskAt origin position =
      some task → Reported sched.store task .taskSucceeded)
    (heard : ∀ stage run err, next = .inStage stage run → (.returned (some err) : Worker Goroutine)
      ∈ run.workers → run.errChan ≠ []) :
    Accounts origin counters sched refused ref next := by
  refine ⟨accounts.own, ?_, ?_, workers, passed, heard⟩
  · intro jobID record member isTask opens recent
    rcases accounts.debts jobID record member isTask opens recent with
      paid | ⟨spot, task, working, jobIDs, ids, owed⟩
    · exact .inl paid
    · rcases stays spot task working with still | ⟨free, _⟩
      · exact .inr ⟨spot, task, still, jobIDs, ids, owed⟩
      · exact absurd owed (free _)
  · intro taskID member
    rcases accounts.refused taskID member with reported | ⟨spot, task, working, ids, owed⟩
    · exact .inl reported
    · rcases stays spot task working with still | ⟨_, free⟩
      · exact .inr ⟨spot, task, still, ids, owed⟩
      · exact absurd owed free

theorem accounts_goto
    (idle : ∀ (index : Nat) (routine : Goroutine), (crew pc).2[index]? ≠ some (.running routine))
    (empty : (crew next).2 = [])
    (passed : ∀ position task, position.stage < stagesDone origin next → taskAt origin position =
      some task → Reported sched.store task .taskSucceeded) :
    Accounts origin counters sched refused ref next := by
  refine accounts_crew accounts ?_ ?_ passed ?_
  · rintro _ _ ⟨index, routine, running, _⟩
    exact absurd running (idle index routine)
  · intro index worker found
    simp [-crew, empty] at found
  · rintro _ run _ rfl member
    have none : run.workers = [] := empty
    simp [none] at member

end

end

theorem accounts_work {run : StageRun Goroutine}
    {more : List String} (accounts : Accounts origin counters sched refused ref (.inStage stage run))
    (bounded : ∀ jobID, ∀ record ∈ sched.store.transitions jobID,
      record.sequenceID ≤ sched.jobSequences jobID)
    (running : run.workers[index]? = some (.running routine))
    (found : objectTask sched ref ⟨stage, index⟩ = some task)
    (move : GoroutineMove sched routine task answers now progress)
    (step : RoutineStep sched task routine.pc progress.sched.store progress.task
      progress.routine.pc)
    (refusals : ∀ taskID ∈ more, taskID = task.id ∧ owesFailure progress.routine.pc) :
    Accounts origin counters (updateTask progress.sched ref ⟨stage, index⟩ progress.task)
    (refused ++ more) ref (.inStage stage { run with
        workers := run.workers.set index (.running progress.routine) }) := by
  obtain ⟨_, own⟩ := accounts.own
  obtain ⟨id, jobID⟩ := goroutine_names move
  have here := (goroutine_keeps_tasks move ref ⟨stage, index⟩).trans found
  have inside := (List.getElem?_eq_some_iff.mp running).1
  have worked := own_worked own found move
  have self := object_task_updated here progress.task
  have others (position : Position) (different : position ≠ ⟨stage, index⟩) :=
    (object_task_other here progress.task different).trans (goroutine_keeps_tasks move ref position)
  have store := update_task_store progress.sched ref ⟨stage, index⟩ progress.task
  generalize updateTask progress.sched ref ⟨stage, index⟩ progress.task = after at *
  -- the goroutine that moved, in the crew after its step
  have mine : Works after ref (.inStage stage { run with
      workers := run.workers.set index (.running progress.routine) }) progress.routine.pc
      progress.task := ⟨index, progress.routine, by simp [inside], rfl, self⟩
  have works : ∀ spot other, Works sched ref (.inStage stage run) spot other →
      (spot = routine.pc ∧ other = task) ∨ Works after ref (.inStage stage { run with
        workers := run.workers.set index (.running progress.routine) }) spot other := by
    rintro spot other ⟨number, working, isRunning, rfl, atPosition⟩
    by_cases same : index = number
    · subst same
      cases running.symm.trans isRunning
      exact .inl ⟨rfl, Option.some.inj (atPosition.symm.trans found)⟩
    · refine .inr ⟨number, working, ?_, rfl, ?_⟩
      · simpa [getElem?_set_ne same] using isRunning
      · exact (others ⟨stage, number⟩ (by simp [Ne.symm same])).trans atPosition
  refine ⟨worked, ?_, ?_, ?_, ?_, ?_⟩
  · intro jobID record member isTask opens recent
    rw [store] at member ⊢
    rcases step.recent jobID record member with old | ⟨isJob, _⟩ | ⟨rfl, taskID, _, owed⟩
    · rcases accounts.debts jobID record old isTask opens recent with
        paid | ⟨spot, other, working, rfl, ids, owed⟩
      · exact .inl (paid_mono step.grows paid)
      · rcases works spot other working with ⟨rfl, rfl⟩ | still
        · rcases step.debts record.sequenceID (bounded _ record old) owed with owed | paid
          · exact .inr ⟨_, _, mine, jobID, id.trans ids, owed⟩
          · rw [← ids]
            exact .inl paid
        · exact .inr ⟨spot, other, still, rfl, ids, owed⟩
    · rw [isTask] at isJob
      cases isJob
    · exact .inr ⟨_, _, mine, jobID, id.trans taskID.symm, owed opens⟩
  · intro taskID member
    rw [store]
    rcases List.mem_append.mp member with old | new
    · rcases accounts.refused taskID old with ⟨known, isKnown, ids, reported⟩ |
        ⟨spot, other, working, ids, owed⟩
      · exact .inl ⟨known, isKnown, ids, reported_mono step.grows reported⟩
      · rcases works spot other working with ⟨rfl, rfl⟩ | still
        · rcases step.failures owed with owed | reported
          · exact .inr ⟨_, _, mine, id.trans ids, owed⟩
          · obtain ⟨known, atKnown, sameID, sameJob⟩ := shape_task own.shape (own_task own found)
            refine .inl ⟨known, task_at_mem atKnown, sameID.trans ids, ?_⟩
            obtain ⟨record, inLog, ofTask, kind⟩ := reported
            exact ⟨record, sameJob ▸ inLog, ofTask.trans sameID.symm, kind⟩
        · exact .inr ⟨spot, other, still, ids, owed⟩
    · obtain ⟨rfl, owed⟩ := refusals taskID new
      exact .inr ⟨_, _, mine, id, owed⟩
  · intro number worker isWorker
    by_cases same : index = number
    · subst same
      obtain rfl : Worker.running progress.routine = worker := by
        simpa [inside] using isWorker
      exact ⟨progress.task, self, store ▸ step.stands⟩
    · have old : run.workers[number]? = some worker := by
        simpa [getElem?_set_ne same] using isWorker
      have different : (⟨stage, number⟩ : Position) ≠ ⟨stage, index⟩ := by simp [Ne.symm same]
      have stands := accounts.workers number worker old
      cases worker with
      | running =>
        obtain ⟨other, atPosition, stands⟩ := stands
        exact ⟨other, (others _ different).trans atPosition,
          store ▸ routine_stands_mono step.grows stands⟩
      | reporting => trivial
      | returned err =>
        cases err with
        | none =>
          obtain ⟨other, atPosition, reported⟩ := stands
          exact ⟨other, (others _ different).trans atPosition,
            store ▸ reported_mono step.grows reported⟩
        | some => trivial
  · intro position known before atKnown
    rw [store]
    exact reported_mono step.grows (accounts.passed position known before atKnown)
  · rintro _ _ err ⟨⟩ member
    rcases mem_or_eq_of_mem_set member with old | new
    · exact accounts.heard stage run err rfl old
    · cases new

end Moves

theorem stage_clean {stageID : String} {run : StageRun Goroutine}
    (isJoined : joined total run = true) (clean : stageResult stageID run = none) :
    run.errChan = [] ∧ run.workers.length = total := by
  unfold stageResult at clean
  split at clean
  · cases clean
  · rename_i selection
    simp only [joined, selection, isSome_none, Bool.false_or, Bool.and_eq_true,
      decide_eq_true_eq] at isJoined
    exact ⟨by simpa using clean, isJoined.1⟩

variable {worker : Worker Goroutine}

theorem joined_returned {run : StageRun Goroutine} (isJoined : joined total run = true)
    (found : run.workers[index]? = some worker) :
    worker.hasReturned = true := by
  simp only [joined, Bool.and_eq_true, List.all_eq_true] at isJoined
  exact isJoined.2 worker (mem_of_getElem? found)

variable {exec : Exec}

section Call

omit [GoRuntime Input] in
theorem accounts_set {run : StageRun Goroutine} {old : Worker Goroutine} {errChan : List GoError}
    (accounts : Accounts origin counters sched refused ref (.inStage stage run))
    (found : run.workers[index]? = some old)
    (free : ∀ routine, old = .running routine → (∀ number, ¬ owes number routine.pc) ∧ ¬ owesFailure
      routine.pc) (stands : WorkerStands sched ref ⟨stage, index⟩ worker)
    (heard : ∀ err, worker = .returned (some err) → errChan ≠ [])
    (kept : run.errChan ≠ [] → errChan ≠ []) :
    Accounts origin counters sched refused ref (.inStage stage { run with
        workers := run.workers.set index worker
        errChan := errChan }) := by
  have inside := (List.getElem?_eq_some_iff.mp found).1
  refine accounts_crew accounts ?_ ?_ accounts.passed ?_
  · rintro _ _ ⟨number, routine, running, rfl, atPosition⟩
    by_cases same : index = number
    · subst same
      exact .inr (free routine (Option.some.inj (found.symm.trans running)))
    · exact .inl ⟨number, routine, (getElem?_set_ne same).trans running, rfl, atPosition⟩
  · intro number other isOther
    by_cases same : index = number
    · subst same
      obtain rfl : worker = other := by simpa [inside] using isOther
      exact stands
    · exact accounts.workers number other (by simpa [getElem?_set_ne same] using isOther)
  · rintro _ _ err ⟨⟩ member
    rcases mem_or_eq_of_mem_set member with before | rfl
    · exact kept (accounts.heard stage run err rfl before)
    · exact heard err rfl

omit [GoRuntime Input] in
theorem passed_stage {run : StageRun Goroutine} {object : Stage Input}
    (accounts : Accounts origin counters sched refused ref (.inStage stage run))
    (here : stageOf sched ref stage = some object)
    (isJoined : joined object.tasks.length run = true) (clean : stageResult object.id run = none)
    (before : position.stage < stage + 1) (found : taskAt origin position = some task) :
    Reported sched.store task .taskSucceeded := by
  rcases Nat.lt_succ_iff_lt_or_eq.mp before with earlier | rfl
  · exact accounts.passed position task earlier found
  · obtain ⟨_, own⟩ := accounts.own
    obtain ⟨silent, all⟩ := stage_clean isJoined clean
    obtain ⟨mine, atMine, id, jobID⟩ := shape_task own.shape.symm found
    have inside : position.index < run.workers.length := by
      obtain ⟨found, atStage, atTask⟩ := bind_eq_some_iff.mp atMine
      rw [own_stage own] at here
      obtain rfl : object = found := Option.some.inj (here.symm.trans atStage)
      rw [all]
      exact (List.getElem?_eq_some_iff.mp atTask).1
    obtain ⟨worker, isWorker⟩ : ∃ worker, run.workers[position.index]? = some worker :=
      ⟨_, getElem?_eq_getElem inside⟩
    have stands := accounts.workers position.index worker isWorker
    have returned := joined_returned isJoined isWorker
    cases worker with
    | running | reporting => cases returned
    | returned result =>
      cases result with
      | some err =>
        exact absurd silent (accounts.heard _ run err rfl (mem_of_getElem? isWorker))
      | none =>
        obtain ⟨same, atPosition, reported⟩ := stands
        obtain rfl : mine = same := by
          have atSame := own_task own atPosition
          exact Option.some.inj (atMine.symm.trans atSame)
        obtain ⟨record, member, ofTask, kind⟩ := reported
        exact ⟨record, jobID ▸ member, ofTask.trans id, kind⟩

theorem position_running {run : StageRun Goroutine} (executing : call.exec = some exec)
    (atPC : exec.pc = .inStage stage run)
    (running : run.workers[index]? = some (.running routine)) :
    positionOf call index = some routine.pc := by
  obtain ⟨_⟩ := exec
  cases atPC
  simp [positionOf, executing, running]

variable {last : TransitionRecord}

theorem call_policy {run : StageRun Goroutine} (executing : call.exec = some exec)
    (keeps : keepsAuthority call (.event (.work index answers)) = true)
    (atPC : exec.pc = .inStage stage run) (running : run.workers[index]? = some (.running routine))
    (calling : routine.pc = .calling) (err : GoError) (answer : answers.executor = some err) :
    err.isPolicyViolation = false := by
  simp only [keepsAuthority, position_running executing atPC running, calling] at keeps
  simpa [answer] using keeps

section

variable (grounded : Grounded (machineOf call)) (executing : call.exec = some exec)
  (labelled : ∀ task ∈ jobTasks origin, task.jobID ≠ "") (clock : call.now ≠ 0)
  (accounts : Accounts origin counters call.sched call.refused exec.ref exec.pc)

include grounded executing labelled clock accounts

theorem call_routine_step {run : StageRun Goroutine}
    (keeps : keepsAuthority call (.event (.work index answers)) = true)
    (atPC : exec.pc = .inStage stage run) (running : run.workers[index]? = some (.running routine))
    (found : objectTask call.sched exec.ref ⟨stage, index⟩ = some task)
    (accepted : answers.fault = none)
    (stepped : goroutineStep call.sched routine task answers call.now = some progress) :
    RoutineStep call.sched task routine.pc progress.sched.store progress.task
      progress.routine.pc := by
  have policy := call_policy executing keeps atPC running
  simp only [keepsAuthority, position_running executing atPC running] at keeps
  rw [atPC] at accounts
  obtain ⟨_, own⟩ := accounts.own
  obtain ⟨known, atKnown, _, sameJob⟩ := shape_task own.shape (own_task own found)
  have hasJob : task.jobID ≠ "" := sameJob ▸ labelled known (task_at_mem atKnown)
  obtain ⟨same, atPosition, stands⟩ := accounts.workers index (.running routine) running
  obtain rfl : task = same := Option.some.inj (found.symm.trans atPosition)
  have authority : routine.pc = .authorizing →
      ∃ authority, answers.authority = .ok authority ∧ authority.isLeader = true := by
    intro authorizing
    rw [authorizing] at keeps
    cases answer : answers.authority with
    | error => simp [answer] at keeps
    | ok authority => exact ⟨authority, rfl, by simpa [answer] using keeps⟩
  refine routine_step exec.ref ⟨stage, index⟩ clock hasJob accepted authority policy ?_ stands stepped
  intro prepared pending
  have sound := pending_sound grounded executing atPC running pending
  obtain ⟨same, atSame, taskID, jobID⟩ := sound.owner
  obtain ⟨sameRef, samePosition⟩ := pending_place pending
  rw [sameRef, samePosition] at atSame
  obtain rfl : task = same := Option.some.inj (found.symm.trans atSame)
  exact ⟨sound.entity, sound.state, taskID, fun valid => jobID ((valid_iff _).mp valid).2.1⟩

theorem call_accounts {after : Call Input} (keeps : keepsAuthority call action = true)
    (move : CallMove call exec action after) :
    after.exec = none ∨ ∃ pc, after.exec = some { exec with pc := pc } ∧
      Accounts origin counters after.sched after.refused exec.ref pc := by
  have nothing : ∀ (position : Position) (task : Task Input), position.stage < 0 →
      taskAt origin position = some task →
      Reported call.sched.store task .taskSucceeded := by
    intro position task before
    simp at before
  cases move with
  | begins atPC | marksFailed _ atPC =>
    refine .inr ⟨_, rfl, ?_⟩
    exact accounts_frame (accounts_goto accounts (by simp [atPC]) rfl nothing)
      (frame_status ..)
  | unqueued atPC | queued atPC | starts atPC | unserved _ _ _ _ _ atPC =>
    exact .inr ⟨_, rfl, accounts_goto accounts (by simp [atPC]) rfl nothing⟩
  | recordsQueued atPC | startsEmpty atPC =>
    refine .inr ⟨_, rfl, ?_⟩
    exact accounts_frame (accounts_goto accounts (by simp [atPC]) rfl nothing)
      (frame_recorded ..)
  | exhausts _ atPC last =>
    rw [atPC] at accounts
    refine .inr ⟨_, rfl, accounts_goto accounts (by simp) rfl ?_⟩
    intro position task before
    obtain ⟨job, own⟩ := accounts.own
    have beyond := own_exhausted own last
    exact accounts.passed position task (before.trans_le beyond)
  | opens _ _ atPC =>
    rw [atPC] at accounts
    exact .inr ⟨_, rfl, accounts_goto accounts (by simp) rfl accounts.passed⟩
  | passes _ _ _ atPC here isJoined clean =>
    rw [atPC] at accounts
    refine .inr ⟨_, rfl, accounts_goto accounts ?_ rfl ?_⟩
    · intro index routine running
      cases joined_returned isJoined running
    · intro position task before found
      exact passed_stage accounts here isJoined clean before found
  | fails _ _ _ _ atPC _ isJoined =>
    rw [atPC] at accounts
    refine .inr ⟨_, rfl, accounts_goto accounts ?_ rfl nothing⟩
    intro index routine running
    cases joined_returned isJoined running
  | recordsFailure | recordsSuccess => exact .inl rfl
  | marksCompleted atPC =>
    rw [atPC] at accounts
    refine .inr ⟨_, rfl, ?_⟩
    exact accounts_frame (accounts_goto accounts (by simp) rfl accounts.passed)
      (frame_status ..)
  | refuses stage run _ _ atPC =>
    rw [atPC] at accounts
    exact .inr ⟨_, rfl, accounts_crew accounts (fun _ _ => .inl) accounts.workers
      accounts.passed (by rintro _ _ err ⟨⟩; exact accounts.heard stage run err rfl)⟩
  | launches stage run object nodeID _ atPC here =>
    rw [atPC] at accounts
    refine .inr ⟨_, rfl, accounts_crew accounts ?_ ?_ accounts.passed ?_⟩
    · rintro spot task ⟨index, routine, running, atSpot, found⟩
      have inside := (List.getElem?_eq_some_iff.mp running).1
      exact .inl ⟨index, routine, (getElem?_append_left inside).trans running, atSpot, found⟩
    · intro index worker found
      by_cases inside : index < run.workers.length
      · exact accounts.workers index worker ((getElem?_append_left inside).symm.trans found)
      · have last := (List.getElem?_eq_some_iff.mp found).1
        simp only [crew, length_append, length_singleton] at last
        obtain rfl : index = run.workers.length := by omega
        obtain rfl : .running (startGoroutine nodeID) = worker := by
          simpa using found
        obtain ⟨job, atRef, atStage⟩ := bind_eq_some_iff.mp here
        have placed : objectTask call.sched exec.ref ⟨stage, run.workers.length⟩ =
            some object.tasks[run.workers.length] := by
          simp [atRef, taskAt, atStage]
        exact ⟨_, placed, trivial⟩
    · rintro _ _ err ⟨⟩ member
      rcases List.mem_append.mp member with old | new
      · exact accounts.heard stage run err rfl old
      · cases mem_singleton.mp new
  | finishes _ _ index _ err atPC running finished =>
    rw [atPC] at accounts
    refine .inr ⟨_, rfl, accounts_set accounts running ?_ ?_ ?_ id⟩
    · rintro _ ⟨⟩
      simp [finished, owes, owesFailure]
    · have stands := accounts.workers index _ running
      obtain ⟨task, found, stands⟩ := stands
      rw [finished] at stands
      cases err with
      | none => exact ⟨task, found, stands⟩
      | some => trivial
    · intro raised same
      cases err <;> cases same
  | works _ _ _ _ _ _ _ asked atPC running found accepted stepped =>
    subst asked
    have step := call_routine_step grounded executing labelled clock accounts keeps atPC running
      found accepted stepped
    have policy := call_policy executing keeps atPC running
    rw [atPC] at accounts
    refine .inr ⟨_, rfl, accounts_work accounts
      (fun jobID record => (grounded.store.logs jobID).bounded record) running found
      (goroutine_move stepped) step ?_⟩
    intro taskID member
    split_ifs at member with refuses
    · refine ⟨mem_singleton.mp member, ?_⟩
      obtain ⟨err, answer⟩ := isSome_iff_exists.mp refuses.2
      simp only [goroutineStep, refuses.1, answer, policy refuses.1 err answer,
        Bool.false_eq_true, if_false] at stepped
      cases stepped
      trivial
    · cases member
  | reports _ _ _ _ atPC reporting =>
    rw [atPC] at accounts
    exact .inr ⟨_, rfl, accounts_set accounts reporting (by rintro _ ⟨⟩) trivial (by simp)
      (by simp)⟩

end

theorem last_task_record {log : List TransitionRecord}
    (sorted : SequencedLog.Sequenced TransitionRecord.sequenceID log)
    (isLast : lastTaskRecord log taskID = some last) (member : record ∈ log)
    (isTask : record.entityType = .task) (ofTask : record.taskID = taskID) :
    record.sequenceID ≤ last.sequenceID := by
  obtain ⟨front, split⟩ := getLast?_eq_some_iff.mp isLast
  have inside : record ∈ front ++ [last] := by
    rw [← split]
    simp [member, entityKey, isTask, ofTask]
  have ordered : (front ++ [last]).Pairwise (SequencedLog.InOrder TransitionRecord.sequenceID) := by
    rw [← split]
    exact sorted.filter _
  rcases List.mem_append.mp inside with earlier | same
  · exact (pairwise_append.mp ordered).2.2 record earlier last (mem_singleton_self last)
  · rw [mem_singleton.mp same]

omit [GoRuntime Input] in
theorem accounts_settled {pc : ExecPC} (sound : StoreSound sched)
    (accounts : Accounts origin counters sched refused ref pc)
    (idle : ∀ (index : Nat) (routine : Goroutine), (crew pc).2[index]? ≠ some (.running routine))
    {claim : TransitionRecord} (member : claim ∈ sched.store.transitions jobID)
    (isTask : claim.entityType = .task) (recent : counters jobID < claim.sequenceID)
    (isLast : lastTaskRecord (sched.store.transitions jobID) claim.taskID = some last) :
    isOpen last = false := by
  have log := sound.logs jobID
  have inLog := mem_of_getLast? isLast
  obtain ⟨isMember, concerned⟩ := mem_filter.mp inLog
  have lastTask : last.entityType = .task ∧ last.taskID = claim.taskID := by
    have key : entityKey last = some claim.taskID := by
      simpa using concerned
    rcases valid_entity (log.filed last isMember).1 with isJob | isTask
    · simp [entityKey, isJob] at key
    · exact ⟨isTask, by simpa [entityKey, isTask] using key⟩
  have newest := last_task_record log.sorted isLast member isTask rfl
  by_contra opens
  rcases accounts.debts jobID last isMember lastTask.1 (by simpa using opens)
    (recent.trans_le newest) with paid | ⟨_, _, ⟨index, routine, running, _⟩, _⟩
  · obtain ⟨_, inside, laterTask, ofTask, _⟩ := paid
    have below := last_task_record log.sorted isLast inside laterTask (ofTask.trans lastTask.2)
    omega
  · exact idle index routine running

theorem justified_failure {err : GoError} (grounded : Grounded (machineOf call))
    (accounts : Accounts origin counters call.sched call.refused exec.ref (.recordFailure err)) :
    Justified origin counters call (failureTransition err).1 := by
  refine ⟨?_, ?_, ?_⟩
  · intro jobID claim member isTask _ recent last isLast
    exact accounts_settled grounded.store accounts (by simp) member isTask recent isLast
  · intro succeeded
    unfold failureTransition at succeeded
    split_ifs at succeeded
  · intro _ taskID member
    rcases accounts.refused taskID member with reported |
      ⟨_, _, ⟨index, routine, running, _⟩, _⟩
    · exact reported
    · simp at running

theorem justified_success (grounded : Grounded (machineOf call))
    (accounts : Accounts origin counters call.sched call.refused exec.ref .recordSuccess) :
    Justified origin counters call .jobSucceeded := by
  refine ⟨?_, ?_, by rintro ⟨⟩⟩
  · intro jobID claim member isTask _ recent last isLast
    exact accounts_settled grounded.store accounts (by simp) member isTask recent isLast
  · intro _ task member
    obtain ⟨_, inJob, inStage⟩ := mem_flatMap.mp member
    obtain ⟨number, atNumber⟩ := mem_iff_getElem?.mp inJob
    obtain ⟨index, atIndex⟩ := mem_iff_getElem?.mp inStage
    exact accounts.passed ⟨number, index⟩ task (List.getElem?_eq_some_iff.mp atNumber).1
      (by simp [taskAt, atNumber, atIndex])

end Call

structure Balanced (origin : Job Input) (counters : String → Nat) (call : Call Input) : Prop where
  labelled : origin.id ≠ "" → ∀ task ∈ jobTasks origin, task.jobID ≠ ""
  clock : call.now ≠ 0
  grounded : Grounded (machineOf call)
  executing : origin.id ≠ "" → ∀ exec, call.exec = some exec →
    Accounts origin counters call.sched call.refused exec.ref exec.pc
  alive : ∀ exec, call.exec = some exec → exec.cancelled = false

theorem balanced_start (begun : Begun origin counters call) : Balanced origin counters call := by
  obtain ⟨ref, entered, own⟩ := begun.entered
  have only : ∀ exec, call.exec = some exec → exec = ⟨ref, false, .begin⟩ := by
    intro exec executing
    exact Option.some.inj (executing.symm.trans entered)
  refine ⟨begun.labelled, begun.clock, begun.grounded, ?_, ?_⟩
  · rintro _ exec executing
    rw [only exec executing]
    refine ⟨⟨origin, own⟩, ?_, ?_, ?_, ?_, ?_⟩
    · intro jobID record member _ _ recent
      have below := (begun.grounded.store.logs jobID).bounded record member
      have same : (machineOf call).sched.jobSequences jobID = counters jobID :=
        congrFun begun.counted jobID
      omega
    · simp [begun.refused]
    · simp
    · simp [stagesDone]
    · rintro _ _ _ ⟨⟩
  · intro exec executing
    rw [only exec executing]

theorem balanced_step {after : Call Input} (balanced : Balanced origin counters call)
    (calm : calmAction action = true) (keeps : keepsAuthority call action = true)
    (taken : callStep call action = some after) :
    Balanced origin counters after := by
  have grounded := grounded_call_step balanced.grounded taken
  rcases call_step_cases calm balanced.alive taken with
    ⟨_, rfl⟩ | ⟨exec, executing, move⟩
  · exact ⟨balanced.labelled, by simp [balanced.clock], grounded, balanced.executing,
      balanced.alive⟩
  · have clock : after.now ≠ 0 := by
      cases move <;> exact balanced.clock
    refine ⟨balanced.labelled, clock, grounded, ?_, ?_⟩
    · intro named next isNext
      rcases call_accounts balanced.grounded executing (balanced.labelled named) balanced.clock
        (balanced.executing named exec executing) keeps move with finished | ⟨pc, going, later⟩
      · simp [finished] at isNext
      · obtain rfl : { exec with pc := pc } = next := Option.some.inj (going.symm.trans isNext)
        exact later
    · intro next isNext
      have alive := balanced.alive exec executing
      cases move <;> cases isNext <;> exact alive

/-- The step that appends a final job record is one of the two ends of
`executeJob`. -/
theorem final_record_justified {after : Call Input}
    (labelled : ∀ task ∈ jobTasks origin, task.jobID ≠ "") (clock : call.now ≠ 0)
    (grounded : Grounded (machineOf call)) (executing : call.exec = some exec)
    (keeps : keepsAuthority call action = true)
    (accounts : Accounts origin counters call.sched call.refused exec.ref exec.pc)
    (move : CallMove call exec action after)
    (appended : record ∈ after.sched.store.transitions origin.id)
    (absent : record ∉ call.sched.store.transitions origin.id) (isJob : record.entityType = .job)
    (final : record.transition ∈ finalTransitions) :
    Justified origin counters call record.transition := by
  have status : ∀ status, (updateJobStatus call.sched exec.ref status call.now).store =
      call.sched.store := fun status =>
    (steady_update_status call.sched exec.ref status call.now).store
  have recorded : ∀ {transition : TransitionType} {newState : JobLifecycleState}
      {errorSummary : String}, record ∈ (recordJobTransition call.sched exec.ref transition
        newState errorSummary call.now none).store.transitions origin.id →
      record.transition = transition := by
    intro transition newState errorSummary member
    rcases (record_job_logs call.sched exec.ref transition newState errorSummary call.now none
      origin.id record).2 member with old | ⟨_, same⟩
    · exact absurd old absent
    · exact same
  cases move with
  | recordsQueued =>
    rw [recorded appended] at final
    simp at final
  | startsEmpty =>
    rw [recorded appended] at final
    unfold startTransition at final
    split_ifs at final <;> simp at final
  | recordsFailure _ atPC =>
    rw [recorded appended]
    rw [atPC] at accounts
    exact justified_failure grounded accounts
  | recordsSuccess atPC =>
    rw [recorded appended]
    rw [atPC] at accounts
    exact justified_success grounded accounts
  | works _ _ _ _ _ _ _ asked atPC running found accepted stepped =>
    subst asked
    have step := call_routine_step grounded executing labelled clock accounts keeps atPC running
      found accepted stepped
    rw [update_task_store] at appended
    rcases step.recent origin.id record appended with old | ⟨_, other⟩ | ⟨_, _, isTask, _⟩
    · exact absurd old absent
    · exact absurd final other
    · rw [isJob] at isTask
      cases isTask
  | begins | marksFailed | marksCompleted =>
    simp only [goesOn, status] at appended
    exact absurd appended absent
  | _ => exact absurd appended absent

/-- Whenever `executeJob` appends JOB_SUCCEEDED or JOB_FAILED, the record is
justified, as long as the leader keeps its authority and no executor reports a
policy violation. -/
theorem terminal_records_justified (origin : Job Input) (counters : String → Nat)
    {call after : Call Input} (action : CallAction) (record : TransitionRecord)
    (reached : Reaches callStep
      (fun call action => (calmAction action && keepsAuthority call action) = true)
      (Begun origin counters) call)
    (allowed : (calmAction action && keepsAuthority call action) = true)
    (taken : callStep call action = some after)
    (appended : record ∈ after.sched.store.transitions origin.id)
    (absent : record ∉ call.sched.store.transitions origin.id)
    (isJob : record.entityType = .job) (final : record.transition ∈ finalTransitions) :
    Justified origin counters call record.transition := by
  have balanced : Balanced origin counters call := by
    refine reaches_invariant (fun state (begun : Begun origin counters state) =>
      balanced_start begun) ?_ reached
    intro state action next balanced allowed taken
    rw [Bool.and_eq_true] at allowed
    exact balanced_step balanced allowed.1 allowed.2 taken
  rw [Bool.and_eq_true] at allowed
  have named : origin.id ≠ "" := by
    have filed := ((grounded_call_step balanced.grounded taken).store.logs origin.id).filed record
      appended
    rw [← filed.2]
    exact ((valid_iff _).mp filed.1).2.1
  rcases call_step_cases allowed.1 balanced.alive taken with
    ⟨_, rfl⟩ | ⟨exec, executing, move⟩
  · exact absurd appended absent
  · exact final_record_justified (balanced.labelled named) balanced.clock balanced.grounded
      executing allowed.2 (balanced.executing named exec executing) move appended absent isJob
      final

def sampleCounters : String → Nat := (sampleCall (sampleJob ["task-1"]) 6).sched.jobSequences

theorem sample_call_begun :
    Begun (sampleOrigin (sampleJob ["task-1"]) 6) sampleCounters
      (sampleCall (sampleJob ["task-1"]) 6) := by
  have started : Started (sampleOrigin (sampleJob ["task-1"]) 6)
      (sampleCall (sampleJob ["task-1"]) 6) :=
    sample_call_started _ _ (by decide +kernel) (by decide +kernel) (by decide +kernel)
      (by decide +kernel) (by decide +kernel)
  obtain ⟨ref, entered, standing⟩ := started.entered
  exact ⟨⟨ref, entered, standing.toOwn⟩, fun _ => by decide +kernel, started.clock,
    started.refused, rfl, started.grounded⟩

def blocked : Answers := { answered with executor := some ⟨"denied", true, false⟩ }

/-- Some task claimed by the run is left in the middle of an attempt. -/
def leavesOpen (counters : String → Nat) (jobID : String) (log : List TransitionRecord) : Bool :=
  log.any fun claim =>
    decide (claim.entityType = .task ∧ claim.transition = .taskDispatched ∧
      counters jobID < claim.sequenceID) && (lastTaskRecord log claim.taskID).any isOpen

theorem left_open_unjustified {final : TransitionType} (jobID : String)
    (left : leavesOpen counters jobID (call.sched.store.transitions jobID) = true) :
    ¬ Justified origin counters call final := by
  intro justified
  obtain ⟨claim, member, found⟩ := List.any_eq_true.mp left
  rw [Bool.and_eq_true, decide_eq_true_eq] at found
  obtain ⟨⟨isTask, dispatched, recent⟩, opens⟩ := found
  cases isLast : lastTaskRecord (call.sched.store.transitions jobID) claim.taskID with
  | none => simp [isLast] at opens
  | some last =>
    have closed := justified.settled jobID claim member isTask dispatched recent last isLast
    simp [isLast, closed] at opens

/-- The executor of the only task reports a policy violation. -/
def blockedRun : List CallAction :=
  execSteps 4 ++ [.event (.launch (.ok "node-1"))] ++ execWorks 0 11 blocked ++
    [.event (.report 0 false)] ++ execSteps 2

theorem blocked_task_left_running :
    ∃ before after, run callStep (sampleCall (sampleJob ["task-1"]) 6) blockedRun = some before ∧
      callStep before (.event (.step calm)) = some after ∧
      ((after.sched.store.transitions "job-1").getLast?.map (·.transition)) = some .jobFailed ∧
      ((before.sched.store.transitions "job-1").all fun record =>
        decide (record.transition ≠ .jobFailed)) = true ∧
      ¬ Justified (sampleOrigin (sampleJob ["task-1"]) 6) sampleCounters before .jobFailed := by
  exact ⟨_, _, rfl, rfl, by decide +kernel, by decide +kernel, left_open_unjustified "job-1" rfl⟩

def succeedingRun : List CallAction :=
  execSteps 4 ++ [.event (.launch (.ok "node-1"))] ++ execWorks 0 12 answered ++ execSteps 3

theorem served_task_justifies_success :
    ∃ before after record, run callStep (sampleCall (sampleJob ["task-1"]) 6) succeedingRun =
        some before ∧
      callStep before (.event (.step calm)) = some after ∧
      (after.sched.store.transitions "job-1").getLast? = some record ∧
      record.transition = .jobSucceeded ∧
      Justified (sampleOrigin (sampleJob ["task-1"]) 6) sampleCounters before .jobSucceeded := by
  refine ⟨_, _, _, rfl, rfl, rfl, rfl, ?_⟩
  exact terminal_records_justified _ _ (.event (.step calm)) _
    (reaches_of_run (.start sample_call_begun) succeedingRun (by decide +kernel) rfl) rfl rfl
    (mem_of_getLast? rfl) (by decide +kernel) rfl (by decide +kernel)

end Dagens.Scheduler.TerminalRecords
