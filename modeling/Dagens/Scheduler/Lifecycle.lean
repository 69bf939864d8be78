import Mathlib

/-!
# Lifecycle states and transition records

The durable control-plane states of `state_machine.go`, the tables of legal
transitions, and `TransitionRecord` with its structural check. A record keeps
its states as text, as the stored rows do; `parse` is the conversion back to a
typed state that a reader of the rows performs.
-/

namespace Dagens.Scheduler.Lifecycle

inductive JobLifecycleState where
  | submitted
  | queued
  | running
  | awaitingHuman
  | succeeded
  | failed
  | canceled
  deriving DecidableEq, Repr

inductive TaskLifecycleState where
  | pending
  | dispatched
  | running
  | succeeded
  | failed
  deriving DecidableEq, Repr

namespace JobLifecycleState

def text : JobLifecycleState → String
  | submitted => "SUBMITTED"
  | queued => "QUEUED"
  | running => "RUNNING"
  | awaitingHuman => "AWAITING_HUMAN"
  | succeeded => "SUCCEEDED"
  | failed => "FAILED"
  | canceled => "CANCELED"

def all : List JobLifecycleState :=
  [submitted, queued, running, awaitingHuman, succeeded, failed, canceled]

def parse (raw : String) : Option JobLifecycleState :=
  all.find? fun state => decide (state.text = raw)

@[simp] theorem parse_text (state : JobLifecycleState) : parse state.text = some state := by
  cases state <;> decide

end JobLifecycleState

namespace TaskLifecycleState

def text : TaskLifecycleState → String
  | pending => "PENDING"
  | dispatched => "DISPATCHED"
  | running => "RUNNING"
  | succeeded => "SUCCEEDED"
  | failed => "FAILED"

def all : List TaskLifecycleState := [pending, dispatched, running, succeeded, failed]

def parse (raw : String) : Option TaskLifecycleState :=
  all.find? fun state => decide (state.text = raw)

@[simp] theorem parse_text (state : TaskLifecycleState) : parse state.text = some state := by
  cases state <;> decide

end TaskLifecycleState

/-- The empty Go string is the state of an object that has none yet. -/
def jobStateText : Option JobLifecycleState → String
  | none => ""
  | some state => state.text

def taskStateText : Option TaskLifecycleState → String
  | none => ""
  | some state => state.text

def validJobTransitions : JobLifecycleState → List JobLifecycleState
  | .submitted => [.queued]
  | .queued => [.running, .failed, .canceled]
  | .running => [.awaitingHuman, .succeeded, .failed, .canceled]
  | .awaitingHuman => [.running, .failed, .canceled]
  | .succeeded => []
  | .failed => []
  | .canceled => []

def validTaskTransitions : TaskLifecycleState → List TaskLifecycleState
  | .pending => [.dispatched, .failed]
  | .dispatched => [.running, .failed]
  | .running => [.succeeded, .failed]
  | .succeeded => []
  | .failed => []

/-- Re-applying the same state is treated as a no-op. -/
def canTransitionJobState (source target : JobLifecycleState) : Bool :=
  decide (source = target) || decide (target ∈ validJobTransitions source)

def canTransitionTaskState (source target : TaskLifecycleState) : Bool :=
  decide (source = target) || decide (target ∈ validTaskTransitions source)

def isTerminalJobState : JobLifecycleState → Bool
  | .succeeded | .failed | .canceled => true
  | _ => false

def isTerminalTaskState : TaskLifecycleState → Bool
  | .succeeded | .failed => true
  | _ => false

/-- An entity type read from a row may be any text. -/
inductive TransitionEntityType where
  | job
  | task
  | unknown (raw : String)
  deriving DecidableEq, Repr

def TransitionEntityType.text : TransitionEntityType → String
  | .job => "JOB"
  | .task => "TASK"
  | .unknown raw => raw

inductive TransitionType where
  | jobSubmitted
  | jobQueued
  | jobRunning
  | jobAwaitingHuman
  | jobResumed
  | jobSucceeded
  | jobFailed
  | jobCanceled
  | taskCreated
  | taskDispatched
  | taskRunning
  | taskSucceeded
  | taskFailed
  | unknown (raw : String)
  deriving DecidableEq, Repr

def TransitionType.text : TransitionType → String
  | .jobSubmitted => "JOB_SUBMITTED"
  | .jobQueued => "JOB_QUEUED"
  | .jobRunning => "JOB_RUNNING"
  | .jobAwaitingHuman => "JOB_AWAITING_HUMAN"
  | .jobResumed => "JOB_RESUMED"
  | .jobSucceeded => "JOB_SUCCEEDED"
  | .jobFailed => "JOB_FAILED"
  | .jobCanceled => "JOB_CANCELED"
  | .taskCreated => "TASK_CREATED"
  | .taskDispatched => "TASK_DISPATCHED"
  | .taskRunning => "TASK_RUNNING"
  | .taskSucceeded => "TASK_SUCCEEDED"
  | .taskFailed => "TASK_FAILED"
  | .unknown raw => raw

/-- Nanoseconds on the wall clock; zero is Go's zero `time.Time`. -/
abbrev Time := Nat

structure TransitionRecord where
  sequenceID : Nat
  entityType : TransitionEntityType
  transition : TransitionType
  jobID : String
  taskID : String
  previousState : String
  newState : String
  nodeID : String
  attempt : Int
  errorSummary : String
  occurredAt : Time
  deriving DecidableEq, Repr

def isValidJobLifecycleState (raw : String) : Bool := (JobLifecycleState.parse raw).isSome

def isValidTaskLifecycleState (raw : String) : Bool := (TaskLifecycleState.parse raw).isSome

def validateJobRecord (record : TransitionRecord) : Except String Unit :=
  if record.taskID ≠ "" then
    .error "task_id must be empty for job transitions"
  else if !isValidJobLifecycleState record.newState then
    .error ("invalid job new_state " ++ record.newState.quote)
  else if record.previousState ≠ "" && !isValidJobLifecycleState record.previousState then
    .error ("invalid job previous_state " ++ record.previousState.quote)
  else if record.previousState = "" ∧
      record.newState ≠ JobLifecycleState.submitted.text then
    .error ("previous_state required for non-initial job transition to " ++
      record.newState.quote)
  else .ok ()

def validateTaskRecord (record : TransitionRecord) : Except String Unit :=
  if record.taskID = "" then
    .error "task_id must be set for task transitions"
  else if !isValidTaskLifecycleState record.newState then
    .error ("invalid task new_state " ++ record.newState.quote)
  else if record.previousState ≠ "" && !isValidTaskLifecycleState record.previousState then
    .error ("invalid task previous_state " ++ record.previousState.quote)
  else if record.previousState = "" ∧
      record.newState ≠ TaskLifecycleState.pending.text then
    .error ("previous_state required for non-initial task transition to " ++
      record.newState.quote)
  else .ok ()

/-- `TransitionRecord.Validate`: structure only. Whether the transition is
legal is the business of the writers, which hold the in-memory state. -/
def validate (record : TransitionRecord) : Except String Unit :=
  if record.sequenceID = 0 then
    .error "sequence_id must be greater than zero"
  else if record.jobID = "" then
    .error "job_id must be set"
  else if record.entityType ≠ .job ∧ record.entityType ≠ .task then
    .error ("invalid entity_type " ++ record.entityType.text.quote)
  else if record.transition.text = "" then
    .error "transition must be set"
  else if record.newState = "" then
    .error "new_state must be set"
  else if record.occurredAt = 0 then
    .error "occurred_at must be set"
  else
    match record.entityType with
    | .job => validateJobRecord record
    | _ => validateTaskRecord record

def Valid (record : TransitionRecord) : Prop := validate record = .ok ()

instance (record : TransitionRecord) : Decidable (Valid record) :=
  inferInstanceAs (Decidable (validate record = .ok ()))

structure ValidJobShape (record : TransitionRecord) : Prop where
  noTask : record.taskID = ""
  newState : isValidJobLifecycleState record.newState = true
  previousState : record.previousState = "" ∨
    isValidJobLifecycleState record.previousState = true
  initial : record.previousState = "" → record.newState = JobLifecycleState.submitted.text

structure ValidTaskShape (record : TransitionRecord) : Prop where
  hasTask : record.taskID ≠ ""
  newState : isValidTaskLifecycleState record.newState = true
  previousState : record.previousState = "" ∨
    isValidTaskLifecycleState record.previousState = true
  initial : record.previousState = "" → record.newState = TaskLifecycleState.pending.text

section

variable (record : TransitionRecord)

theorem validate_job_record_ok : validateJobRecord record = .ok () ↔ ValidJobShape record := by
  constructor
  · intro accepted
    unfold validateJobRecord at accepted
    split_ifs at accepted with task state previous initial
    exact ⟨by simpa using task, by simpa using state,
      by simp at previous; tauto, by simp at initial; tauto⟩
  · rintro ⟨noTask, newState, _⟩
    unfold validateJobRecord
    rw [if_neg (by simpa using noTask), if_neg (by simpa using newState),
      if_neg (by simp; tauto), if_neg (by simp; tauto)]

theorem validate_task_record_ok : validateTaskRecord record = .ok () ↔ ValidTaskShape record := by
  constructor
  · intro accepted
    unfold validateTaskRecord at accepted
    split_ifs at accepted with task state previous initial
    exact ⟨task, by simpa using state, by simp at previous; tauto, by simp at initial; tauto⟩
  · rintro ⟨hasTask, newState, _⟩
    unfold validateTaskRecord
    rw [if_neg hasTask, if_neg (by simpa using newState), if_neg (by simp; tauto),
      if_neg (by simp; tauto)]

theorem valid_iff :
    Valid record ↔
      record.sequenceID ≠ 0 ∧ record.jobID ≠ "" ∧ record.transition.text ≠ "" ∧
        record.newState ≠ "" ∧ record.occurredAt ≠ 0 ∧
        (record.entityType = .job ∧ ValidJobShape record ∨
          record.entityType = .task ∧ ValidTaskShape record) := by
  rw [← validate_job_record_ok, ← validate_task_record_ok]
  unfold Valid validate
  cases entity : record.entityType <;> simp <;> split_ifs <;> simp_all

end

variable {record : TransitionRecord}

theorem valid_entity (valid : Valid record) :
    record.entityType = .job ∨ record.entityType = .task := by
  rcases (valid_iff record).mp valid with ⟨_, _, _, _, _, job | task⟩
  · exact .inl job.1
  · exact .inr task.1

theorem valid_job_new_state (valid : Valid record) (entity : record.entityType = .job) :
    ∃ state, JobLifecycleState.parse record.newState = some state := by
  rcases (valid_iff record).mp valid with ⟨_, _, _, _, _, job | task⟩
  · exact Option.isSome_iff_exists.mp job.2.newState
  · simp [entity] at task

theorem valid_task_new_state (valid : Valid record) (entity : record.entityType = .task) :
    ∃ state, TaskLifecycleState.parse record.newState = some state := by
  rcases (valid_iff record).mp valid with ⟨_, _, _, _, _, job | task⟩
  · simp [entity] at job
  · exact Option.isSome_iff_exists.mp task.2.newState

end Dagens.Scheduler.Lifecycle
