import Dagens.Scheduler.StoreEffects

/-!
# One task goroutine, step by step

`executeTaskWithRetry` cut at the points where other goroutines can act: the
preparation of a record, its transaction, each job transition of a first
dispatch, the authority check, the executor call. The task object itself is
passed in and out, so the caller decides where it lives.
-/

namespace Dagens.Scheduler.Goroutine

open Lifecycle GoSupport Transitions StoreEffects

set_option linter.dupNamespace false

inductive TaskPC where
  | claiming
  | claimPending (write : PendingWrite)
  | claimed
  | recordingJob (ref : Nat) (todo : List (TransitionType × JobLifecycleState))
  | starting
  | startPending (write : PendingWrite)
  | authorizing
  | calling
  | succeeding
  | succeedPending (write : PendingWrite)
  | failing (err : GoError)
  | failPending (err : GoError) (write : PendingWrite)
  | attempted (err : GoError) (retryable : Bool)
  | finished (err : Option GoError)
  deriving DecidableEq, Repr

structure Goroutine where
  nodeID : String
  attempt : Int
  pc : TaskPC
  deriving DecidableEq, Repr

def startGoroutine (nodeID : String) : Goroutine := ⟨nodeID, 1, .claiming⟩

/-- What the environment answers at a step; a step reads what it asks for. -/
structure Answers where
  fault : Option GoError
  selectNode : Option String
  authority : Except GoError LeadershipAuthority
  executor : Option GoError

inductive TaskEvent where
  | claimed (attempt : Int)
  | called
  | returned (err : Option GoError)
  | settled
  deriving DecidableEq, Repr

structure Progress (Input : Type) where
  sched : Scheduler Input
  routine : Goroutine
  task : Task Input
  events : List TaskEvent

variable {Input : Type} [GoRuntime Input]

/-- Prepare the record of a report, and where to continue when it is skipped
or prepared. -/
def prepareReport (sched : Scheduler Input) (routine : Goroutine) (task : Task Input)
    (report : TaskReport) (errorSummary : String) (now : Time) (skipped : TaskPC)
    (pending : PendingWrite → TaskPC) : Progress Input :=
  let sequenceID := nextSequence sched task.jobID
  let taken := takeSequence sched task.jobID
  let snapshot := durableJobSnapshot taken task.jobID sequenceID now
  match prepareTaskTransition task report routine.nodeID task.attempts errorSummary sequenceID
      snapshot now with
  | none => ⟨sched, { routine with pc := skipped }, task, []⟩
  | some write => ⟨taken, { routine with pc := pending write }, task, []⟩

/-- Run the transaction of a report; a failed write is only logged. -/
def commitReport (sched : Scheduler Input) (routine : Goroutine) (task : Task Input)
    (write : PendingWrite) (fault : Option GoError) (next : TaskPC) (events : List TaskEvent) :
    Progress Input :=
  match commitTaskTransition task write fault sched.store with
  | .error _ => ⟨sched, { routine with pc := next }, task, []⟩
  | .ok (recorded, store) =>
    ⟨{ sched with store := store }, { routine with pc := next }, recorded, events⟩

def prepareClaim (sched : Scheduler Input) (routine : Goroutine) (task : Task Input)
    (now : Time) : Progress Input :=
  let attempted := { task with attempts := routine.attempt }
  if task.jobID = "" then
    ⟨sched, { routine with pc := .starting },
      { attempted with lifecycleState := some .dispatched }, []⟩
  else
    let sequenceID := nextSequence sched task.jobID
    let taken := takeSequence sched task.jobID
    let snapshot := durableJobSnapshot taken task.jobID sequenceID now
    match prepareDispatchClaim attempted routine.nodeID routine.attempt sequenceID snapshot now with
    | none =>
      ⟨sched, { routine with pc := .attempted errDispatchClaimRejected true }, attempted, []⟩
    | some write => ⟨taken, { routine with pc := .claimPending write }, attempted, []⟩

def commitClaim (sched : Scheduler Input) (routine : Goroutine) (task : Task Input)
    (write : PendingWrite) (fault : Option GoError) : Progress Input :=
  match commitDispatchClaim task write fault sched.store with
  | .error err =>
    ⟨sched, { routine with pc := .attempted err err.isDispatchClaimRejected }, task, []⟩
  | .ok (claimed, store) =>
    ⟨{ sched with store := store }, { routine with pc := .claimed }, claimed,
      [.claimed routine.attempt]⟩

/-- What the goroutine has in hand after `executeTask` returned an error. -/
def failedAttempt (err : GoError) : TaskPC :=
  .attempted err (isDispatchCapacityConflict err)

def taskFailure (task : Task Input) (nodeID : String) (err : GoError) : GoError :=
  err.wrap ("task " ++ task.id ++ " failed on node " ++ nodeID ++ ": ")

def goroutineStep (sched : Scheduler Input) (routine : Goroutine) (task : Task Input)
    (answers : Answers) (now : Time) : Option (Progress Input) :=
  match routine.pc with
  | .claiming => some (prepareClaim sched routine task now)
  | .claimPending write => some (commitClaim sched routine task write answers.fault)
  | .claimed =>
    match sched.jobs task.jobID with
    | none => some ⟨sched, { routine with pc := .starting }, task, []⟩
    | some ref =>
      let todo := firstDispatchTransitions ((sched.objects ref).bind (·.lifecycleState))
      some ⟨sched, { routine with pc := .recordingJob ref todo }, task, []⟩
  | .recordingJob _ [] => some ⟨sched, { routine with pc := .starting }, task, []⟩
  | .recordingJob ref ((transition, newState) :: rest) =>
    some ⟨recordJobTransition sched ref transition newState "" now answers.fault,
      { routine with pc := .recordingJob ref rest }, task, []⟩
  | .starting =>
    some (prepareReport sched routine { task with status := .running } .running "" now
      .authorizing .startPending)
  | .startPending write =>
    some (commitReport sched routine task write answers.fault .authorizing [])
  | .authorizing =>
    match answers.authority with
    | .error err =>
      let raised := err.wrap "resolve dispatch authority before remote execution: "
      some ⟨sched, { routine with pc := failedAttempt raised }, task, []⟩
    | .ok authority =>
      if authority.isLeader then
        some ⟨sched, { routine with pc := .calling }, task, [.called]⟩
      else
        some ⟨sched, { routine with pc := failedAttempt (staleDispatchAuthority authority) },
          task, []⟩
  | .calling =>
    match answers.executor with
    | none =>
      some ⟨sched, { routine with pc := .succeeding }, { task with status := .completed },
        [.returned none]⟩
    | some err =>
      if err.isPolicyViolation then
        some ⟨sched, { routine with pc := failedAttempt err },
          { task with status := .blocked }, [.returned (some err)]⟩
      else
        some ⟨sched, { routine with pc := .failing err }, { task with status := .failed },
          [.returned (some err)]⟩
  | .succeeding =>
    some (prepareReport sched routine task .succeeded "" now (.finished none) .succeedPending)
  | .succeedPending write =>
    some (commitReport sched routine task write answers.fault (.finished none) [.settled])
  | .failing err =>
    some (prepareReport sched routine task .failed err.message now
      (failedAttempt (taskFailure task routine.nodeID err)) (.failPending err))
  | .failPending err write =>
    some (commitReport sched routine task write answers.fault
      (failedAttempt (taskFailure task routine.nodeID err)) [.settled])
  | .attempted err retryable =>
    if retryable && decide (routine.attempt < sched.config.maxDispatchAttempts) then
      match answers.selectNode with
      | none =>
        some ⟨sched, { routine with pc := .finished (some errNoWorkerCapacity) }, task, []⟩
      | some nodeID => some ⟨sched, ⟨nodeID, routine.attempt + 1, .claiming⟩, task, []⟩
    else some ⟨sched, { routine with pc := .finished (some err) }, task, []⟩
  | .finished _ => none

section

variable (sched : Scheduler Input) (routine : Goroutine) (task : Task Input)

theorem prepare_report_cases (report : TaskReport) (errorSummary : String) (now : Time)
    (skipped : TaskPC) (pending : PendingWrite → TaskPC) :
    prepareReport sched routine task report errorSummary now skipped pending =
        ⟨sched, { routine with pc := skipped }, task, []⟩ ∨
      ∃ write, prepareReport sched routine task report errorSummary now skipped pending =
          ⟨takeSequence sched task.jobID, { routine with pc := pending write }, task, []⟩ ∧
        taskTransitionAllowed task.lifecycleState report.newState = true ∧
        write.record = taskRecord (nextSequence sched task.jobID) task report.transition
          task.lifecycleState report.newState routine.nodeID task.attempts
          (normalizeTransitionErrorSummary Input errorSummary) now ∧
        write.newState = report.newState ∧
        write.snapshot = durableJobSnapshot (takeSequence sched task.jobID) task.jobID
          (nextSequence sched task.jobID) now := by
  unfold prepareReport
  dsimp only
  split
  · exact .inl rfl
  · rename_i write prepared
    exact .inr ⟨write, rfl, (prepare_task_transition_some ..).mp prepared⟩

theorem commit_report_cases (write : PendingWrite) (fault : Option GoError) (next : TaskPC)
    (events : List TaskEvent) :
    commitReport sched routine task write fault next events =
        ⟨sched, { routine with pc := next }, task, []⟩ ∨
      commitReport sched routine task write fault next events =
          ⟨{ sched with store := taskCommitted task write sched.store },
            { routine with pc := next },
            { task with lifecycleState := some write.newState }, events⟩ ∧
        fault = none ∧ Valid write.record := by
  unfold commitReport
  split
  · exact .inl rfl
  · rename_i recorded store committed
    obtain ⟨⟨clean, valid⟩, result⟩ := (commit_task_transition_ok ..).mp committed
    cases result
    exact .inr ⟨rfl, clean, valid⟩

end

omit [GoRuntime Input] in
theorem prepare_claim_cases (sched : Scheduler Input) (routine : Goroutine) (task : Task Input)
    (now : Time) :
    (task.jobID = "" ∧ prepareClaim sched routine task now =
        ⟨sched, { routine with pc := .starting },
          { task with attempts := routine.attempt, lifecycleState := some .dispatched }, []⟩) ∨
      prepareClaim sched routine task now =
        ⟨sched, { routine with pc := .attempted errDispatchClaimRejected true },
          { task with attempts := routine.attempt }, []⟩ ∨
      ∃ write, prepareClaim sched routine task now =
          ⟨takeSequence sched task.jobID, { routine with pc := .claimPending write },
            { task with attempts := routine.attempt }, []⟩ ∧
        task.jobID ≠ "" ∧
        canTransitionTaskState (claimPreviousState task) .dispatched = true ∧
        write.record = taskRecord (nextSequence sched task.jobID) task .taskDispatched
          (some (claimPreviousState task)) .dispatched routine.nodeID routine.attempt "" now ∧
        write.newState = .dispatched ∧
        write.snapshot = durableJobSnapshot (takeSequence sched task.jobID) task.jobID
          (nextSequence sched task.jobID) now := by
  unfold prepareClaim
  dsimp only
  split_ifs with legacy
  · exact .inl ⟨legacy, rfl⟩
  · right
    split
    · exact .inl rfl
    · rename_i write prepared
      exact .inr ⟨write, rfl, legacy, (prepare_dispatch_claim_some ..).mp prepared⟩

omit [GoRuntime Input] in
theorem commit_claim_cases (sched : Scheduler Input) (routine : Goroutine) (task : Task Input)
    (write : PendingWrite) (fault : Option GoError) :
    (∃ err, commitClaim sched routine task write fault =
        ⟨sched, { routine with pc := .attempted err err.isDispatchClaimRejected }, task, []⟩) ∨
      commitClaim sched routine task write fault =
          ⟨{ sched with store := claimCommitted task write sched.store },
            { routine with pc := .claimed },
            { task with lifecycleState := some .dispatched }, [.claimed routine.attempt]⟩ ∧
        fault = none ∧ Valid write.record ∧
        ∀ row, sched.store.tasks.lookup task.id = some row →
          claimAccepted row write.record.attempt = true := by
  unfold commitClaim
  split
  · rename_i err _
    exact .inl ⟨err, rfl⟩
  · rename_i claimed store committed
    obtain ⟨⟨clean, valid, _, rows⟩, result⟩ :=
      (commit_dispatch_claim_ok ..).mp committed
    cases result
    exact .inr ⟨rfl, clean, valid, rows⟩

/-- Control steps that neither write nor prepare a record. -/
inductive Quiet : TaskPC → TaskPC → List TaskEvent → Prop where
  | rejected (write : PendingWrite) (err : GoError) (retryable : Bool) :
      Quiet (.claimPending write) (.attempted err retryable) []
  | unregistered : Quiet .claimed .starting []
  | recorded (ref : Nat) : Quiet (.recordingJob ref []) .starting []
  | startSkipped : Quiet .starting .authorizing []
  | startLost (write : PendingWrite) : Quiet (.startPending write) .authorizing []
  | unauthorized (err : GoError) : Quiet .authorizing (failedAttempt err) []
  | called : Quiet .authorizing .calling [.called]
  | answered : Quiet .calling .succeeding [.returned none]
  | blocked (err : GoError) : Quiet .calling (failedAttempt err) [.returned (some err)]
  | refused (err : GoError) : Quiet .calling (.failing err) [.returned (some err)]
  | successSkipped : Quiet .succeeding (.finished none) []
  | successLost (write : PendingWrite) : Quiet (.succeedPending write) (.finished none) []
  | failureSkipped (err raised : GoError) : Quiet (.failing err) (failedAttempt raised) []
  | failureLost (err raised : GoError) (write : PendingWrite) :
      Quiet (.failPending err write) (failedAttempt raised) []
  | gaveUp (err final : GoError) (retryable : Bool) :
      Quiet (.attempted err retryable) (.finished (some final)) []

/-- A report with the program counters around its preparation and its commit. -/
inductive ReportPhase :
    TaskReport → TaskPC → (PendingWrite → TaskPC) → TaskPC → List TaskEvent → Prop where
  | running : ReportPhase .running .starting .startPending .authorizing []
  | succeeded :
      ReportPhase .succeeded .succeeding .succeedPending (.finished none) [.settled]
  | failed (err raised : GoError) :
      ReportPhase .failed (.failing err) (.failPending err) (failedAttempt raised) [.settled]

/-- What a step does, by its effect on the scheduler and on the task. -/
inductive GoroutineMove (sched : Scheduler Input) (routine : Goroutine) (task : Task Input)
    (answers : Answers) (now : Time) : Progress Input → Prop where
  | quiet (next : TaskPC) (status : JobStatus) (events : List TaskEvent)
      (control : Quiet routine.pc next events) :
      GoroutineMove sched routine task answers now
        ⟨sched, { routine with pc := next }, { task with status := status }, events⟩
  | retried (nodeID : String) (err : GoError) (before : routine.pc = .attempted err true) :
      GoroutineMove sched routine task answers now
        ⟨sched, ⟨nodeID, routine.attempt + 1, .claiming⟩, task, []⟩
  | noted (ref : Nat) (before : routine.pc = .claimed) (entry : sched.jobs task.jobID = some ref) :
      GoroutineMove sched routine task answers now
        ⟨sched,
          { routine with
            pc := .recordingJob ref
              (firstDispatchTransitions ((sched.objects ref).bind (·.lifecycleState))) },
          task, []⟩
  | jobRecorded (ref : Nat) (transition : TransitionType) (newState : JobLifecycleState)
      (rest : List (TransitionType × JobLifecycleState))
      (before : routine.pc = .recordingJob ref ((transition, newState) :: rest)) :
      GoroutineMove sched routine task answers now
        ⟨recordJobTransition sched ref transition newState "" now answers.fault,
          { routine with pc := .recordingJob ref rest }, task, []⟩
  | legacyClaim (before : routine.pc = .claiming) (legacy : task.jobID = "") :
      GoroutineMove sched routine task answers now
        ⟨sched, { routine with pc := .starting },
          { task with attempts := routine.attempt, lifecycleState := some .dispatched }, []⟩
  | illegalClaim (before : routine.pc = .claiming) :
      GoroutineMove sched routine task answers now
        ⟨sched, { routine with pc := .attempted errDispatchClaimRejected true },
          { task with attempts := routine.attempt }, []⟩
  | claimPrepared (write : PendingWrite) (before : routine.pc = .claiming)
      (hasJob : task.jobID ≠ "")
      (legal : canTransitionTaskState (claimPreviousState task) .dispatched = true)
      (record : write.record = taskRecord (nextSequence sched task.jobID) task .taskDispatched
        (some (claimPreviousState task)) .dispatched routine.nodeID routine.attempt "" now)
      (newState : write.newState = .dispatched)
      (snapshot : write.snapshot = durableJobSnapshot (takeSequence sched task.jobID) task.jobID
        (nextSequence sched task.jobID) now) :
      GoroutineMove sched routine task answers now
        ⟨takeSequence sched task.jobID, { routine with pc := .claimPending write },
          { task with attempts := routine.attempt }, []⟩
  | claimCommitted (write : PendingWrite) (before : routine.pc = .claimPending write)
      (clean : answers.fault = none) (valid : Valid write.record)
      (accepted : ∀ row, sched.store.tasks.lookup task.id = some row →
        claimAccepted row write.record.attempt = true) :
      GoroutineMove sched routine task answers now
        ⟨{ sched with store := claimCommitted task write sched.store },
          { routine with pc := .claimed }, { task with lifecycleState := some .dispatched },
          [.claimed routine.attempt]⟩
  | reportPrepared (report : TaskReport) (before : TaskPC) (pending : PendingWrite → TaskPC)
      (after : TaskPC) (events : List TaskEvent) (write : PendingWrite) (status : JobStatus)
      (errorSummary : String) (phase : ReportPhase report before pending after events)
      (atStart : routine.pc = before)
      (legal : taskTransitionAllowed task.lifecycleState report.newState = true)
      (record : write.record = taskRecord (nextSequence sched task.jobID) task
        report.transition task.lifecycleState report.newState routine.nodeID task.attempts
        errorSummary now)
      (newState : write.newState = report.newState)
      (snapshot : write.snapshot = durableJobSnapshot (takeSequence sched task.jobID) task.jobID
        (nextSequence sched task.jobID) now) :
      GoroutineMove sched routine task answers now
        ⟨takeSequence sched task.jobID, { routine with pc := pending write },
          { task with status := status }, []⟩
  | reportCommitted (report : TaskReport) (before : TaskPC) (pending : PendingWrite → TaskPC)
      (after : TaskPC) (events : List TaskEvent) (write : PendingWrite)
      (phase : ReportPhase report before pending after events)
      (atCommit : routine.pc = pending write) (clean : answers.fault = none)
      (valid : Valid write.record) :
      GoroutineMove sched routine task answers now
        ⟨{ sched with store := taskCommitted task write sched.store },
          { routine with pc := after }, { task with lifecycleState := some write.newState },
          events⟩

section

variable (sched : Scheduler Input) (routine : Goroutine) (task : Task Input) (answers : Answers)
  (now : Time)

include sched routine task answers now

section

variable {report : TaskReport} {before after : TaskPC} {pending : PendingWrite → TaskPC}
  {events : List TaskEvent} (phase : ReportPhase report before pending after events)

include phase

theorem prepare_report_move (status : JobStatus) (errorSummary : String)
    (atStart : routine.pc = before) (control : Quiet before after []) :
    GoroutineMove sched routine task answers now
      (prepareReport sched routine { task with status := status } report errorSummary now after
        pending) := by
  rcases prepare_report_cases sched routine { task with status := status } report _
    now after pending with same | ⟨write, prepared, legal, record, newState, snapshot⟩
  · rw [same]
    exact .quiet after status [] (atStart ▸ control)
  · rw [prepared]
    exact .reportPrepared report before pending after events write status _ phase atStart legal
      record newState snapshot

theorem commit_report_move (write : PendingWrite) (atCommit : routine.pc = pending write)
    (control : Quiet routine.pc after []) :
    GoroutineMove sched routine task answers now
      (commitReport sched routine task write answers.fault after events) := by
  rcases commit_report_cases sched routine task write answers.fault after events with
    lost | ⟨committed, clean, valid⟩
  · rw [lost]
    exact .quiet after task.status [] control
  · rw [committed]
    exact .reportCommitted report before pending after events write phase atCommit clean valid

end

variable {sched routine task answers now}

theorem goroutine_move {progress : Progress Input}
    (taken : goroutineStep sched routine task answers now = some progress) :
    GoroutineMove sched routine task answers now progress := by
  obtain ⟨nodeID, attempt, current⟩ := routine
  cases current with
  | claiming =>
    cases taken
    rcases prepare_claim_cases sched ⟨nodeID, attempt, _⟩ task now with
      ⟨legacy, claimed⟩ | refused | ⟨write, prepared, hasJob, legal, record, newState, snapshot⟩
    · rw [claimed]
      exact .legacyClaim rfl legacy
    · rw [refused]
      exact .illegalClaim rfl
    · rw [prepared]
      exact .claimPrepared write rfl hasJob legal record newState snapshot
  | claimPending write =>
    cases taken
    rcases commit_claim_cases sched ⟨nodeID, attempt, _⟩ task write answers.fault with
      ⟨err, rejected⟩ | ⟨claimed, clean, valid, rows⟩
    · rw [rejected]
      exact .quiet _ task.status [] (.rejected write err _)
    · rw [claimed]
      exact .claimCommitted write rfl clean valid rows
  | claimed =>
    simp only [goroutineStep] at taken
    split at taken <;> cases taken
    · exact .quiet _ task.status [] (.unregistered)
    · rename_i ref entry
      exact .noted ref rfl entry
  | recordingJob ref todo =>
    rcases todo with _ | ⟨⟨transition, newState⟩, rest⟩ <;>
      simp only [goroutineStep, Option.some.injEq] at taken <;> subst taken
    · exact .quiet _ task.status [] (.recorded ref)
    · exact .jobRecorded ref transition newState rest rfl
  | starting =>
    cases taken
    exact prepare_report_move sched ⟨nodeID, attempt, _⟩ task answers now .running .running _ rfl
      .startSkipped
  | startPending write =>
    cases taken
    exact commit_report_move sched ⟨nodeID, attempt, _⟩ task answers now .running write rfl
      (.startLost write)
  | authorizing =>
    simp only [goroutineStep] at taken
    split at taken
    · cases taken
      exact .quiet _ task.status [] (.unauthorized _)
    · split_ifs at taken <;> cases taken
      · exact .quiet _ task.status _ (.called)
      · exact .quiet _ task.status [] (.unauthorized _)
  | calling =>
    simp only [goroutineStep] at taken
    split at taken
    · cases taken
      exact .quiet _ .completed _ (.answered)
    · split_ifs at taken <;> cases taken
      · exact .quiet _ .blocked _ (.blocked _)
      · exact .quiet _ .failed _ (.refused _)
  | succeeding =>
    cases taken
    exact prepare_report_move sched ⟨nodeID, attempt, _⟩ task answers now .succeeded task.status _
      rfl .successSkipped
  | succeedPending write =>
    cases taken
    exact commit_report_move sched ⟨nodeID, attempt, _⟩ task answers now .succeeded write rfl
      (.successLost write)
  | failing err =>
    cases taken
    exact prepare_report_move sched ⟨nodeID, attempt, _⟩ task answers now (.failed err _)
      task.status _ rfl (.failureSkipped err _)
  | failPending err write =>
    cases taken
    exact commit_report_move sched ⟨nodeID, attempt, _⟩ task answers now (.failed err _) write rfl
      (.failureLost err _ write)
  | attempted err retryable =>
    simp only [goroutineStep] at taken
    split_ifs at taken with retry
    · have again : retryable = true := by
        simp only [Bool.and_eq_true] at retry
        exact retry.1
      subst again
      split at taken <;> cases taken
      · exact .quiet _ task.status [] (.gaveUp err _ _)
      · exact .retried _ err rfl
    · cases taken
      exact .quiet _ task.status [] (.gaveUp err err _)
  | finished => simp [goroutineStep] at taken

end

end Dagens.Scheduler.Goroutine
