import Dagens.Scheduler.Transitions

/-!
# What a transaction changes

One statement for each of the scheduler's three transactions: when it is
accepted, and which store it leaves. Everything proved about runs goes through
these instead of unfolding the store.
-/

namespace Dagens.Scheduler.StoreEffects

open Lib Lifecycle GoSupport Transitions

section Store

variable (store : TransitionStore) (record : TransitionRecord) (job : DurableJobRecord)
  (task : DurableTaskRecord) (snapshot : Option DurableJobRecord)

@[simp] theorem appended_tasks : (appended store record).tasks = store.tasks := rfl

@[simp] theorem upsert_job_transitions :
    (upsertJob store job).transitions = store.transitions := rfl

@[simp] theorem upsert_job_tasks : (upsertJob store job).tasks = store.tasks := rfl

@[simp] theorem upsert_task_transitions :
    (upsertTask store task).transitions = store.transitions := rfl

@[simp] theorem upsert_task_jobs : (upsertTask store task).jobs = store.jobs := rfl

@[simp] theorem upsert_task_tasks :
    (upsertTask store task).tasks = store.tasks.insert task.taskID task := rfl

@[simp] theorem upsert_snapshot_transitions :
    (upsertSnapshot store snapshot).transitions = store.transitions := by
  cases snapshot <;> rfl

@[simp] theorem upsert_snapshot_tasks : (upsertSnapshot store snapshot).tasks = store.tasks := by
  cases snapshot <;> rfl

section

variable (jobID : String)

theorem appended_transitions :
    (appended store record).transitions jobID =
      if jobID = record.jobID then
        SequencedLog.append TransitionRecord.sequenceID (store.transitions record.jobID) record
      else store.transitions jobID := by
  simp only [appended, Function.update_apply]

theorem mem_appended (entry : TransitionRecord) :
    entry ∈ (appended store record).transitions jobID ↔
      entry ∈ store.transitions jobID ∨ jobID = record.jobID ∧ entry = record := by
  rw [appended_transitions]
  by_cases same : jobID = record.jobID
  · subst same
    simp [SequencedLog.mem_append]
  · simp [same]

theorem appended_jobs_lookup :
    (appended store record).jobs.lookup jobID =
      if jobID = record.jobID then
        (store.jobs.lookup jobID).map fun row =>
          { row with lastSequenceID := max row.lastSequenceID record.sequenceID }
      else store.jobs.lookup jobID := by
  simp only [appended, bumpLastSequence]
  by_cases same : jobID = record.jobID
  · subst same
    cases found : store.jobs.lookup record.jobID with
    | none => simp [found]
    | some row =>
      by_cases behind : row.lastSequenceID < record.sequenceID
      · simp [behind, Nat.max_eq_right (Nat.le_of_lt behind)]
      · simp [behind, found, Nat.max_eq_left (Nat.le_of_not_lt behind)]
  · simp only [same, if_false]
    cases store.jobs.lookup record.jobID with
    | none => rfl
    | some =>
      dsimp only
      split_ifs
      · rw [AList.lookup_insert_ne same]
      · rfl

theorem upsert_job_lookup :
    (upsertJob store job).jobs.lookup jobID =
      if jobID = job.jobID then
        some { job with
          lastSequenceID := max ((store.jobs.lookup jobID).elim 0 (·.lastSequenceID))
            job.lastSequenceID }
      else store.jobs.lookup jobID := by
  simp only [upsertJob]
  by_cases same : jobID = job.jobID
  · subst same
    rw [AList.lookup_insert, if_pos rfl]
    cases store.jobs.lookup job.jobID <;> simp
  · rw [AList.lookup_insert_ne same, if_neg same]

end

end Store

attribute [local simp] Except.bind jobRecord jobStateText isValidJobLifecycleState taskRecord
  isValidTaskLifecycleState taskStateText

section

variable (store after : TransitionStore) (record : TransitionRecord)

theorem append_transition_ok :
    appendTransition store record = .ok after ↔ Valid record ∧ appended store record = after := by
  unfold appendTransition Valid
  cases validate record <;> simp

theorem job_transition_tx_ok (row : DurableJobRecord) :
    jobTransitionTx record row store = .ok after ↔
      Valid record ∧ upsertJob (appended store record) row = after := by
  unfold jobTransitionTx appendTransition Valid
  cases validate record <;> simp [bind, pure, Except.pure]

theorem task_transition_tx_ok (row : DurableTaskRecord) (snapshot : Option DurableJobRecord) :
    taskTransitionTx record row snapshot store = .ok after ↔
      Valid record ∧ upsertSnapshot (upsertTask (appended store record) row) snapshot = after := by
  unfold taskTransitionTx appendTransition Valid
  cases validate record <;> simp [bind, pure, Except.pure]

theorem dispatch_claim_tx_ok (claim : TaskDispatchClaim) (snapshot : Option DurableJobRecord) :
    dispatchClaimTx record claim snapshot store = .ok after ↔
      Valid record ∧ ∃ claimed, claimTaskDispatch store claim = some claimed ∧
        upsertSnapshot (appended claimed record) snapshot = after := by
  unfold dispatchClaimTx appendTransition Valid
  cases claimTaskDispatch store claim <;> cases validate record <;>
    simp [bind, pure, Except.pure]

end

theorem persist_ok (fault : Option GoError)
    (tx : TransitionStore → Except GoError TransitionStore) (store after : TransitionStore) :
    persistTransitionWrite fault tx store = .ok after ↔ fault = none ∧ tx store = .ok after := by
  cases fault <;> simp [persistTransitionWrite]

/-- A claim is accepted on a missing row, or on a row of a lower attempt that
is neither running nor succeeded; it changes nothing but that row. -/
theorem claim_task_dispatch_some (store claimed : TransitionStore) (claim : TaskDispatchClaim) :
    claimTaskDispatch store claim = some claimed ↔
      claim.taskID ≠ "" ∧
        (∀ row, store.tasks.lookup claim.taskID = some row →
          claimAccepted row claim.attempt = true) ∧
        { store with
          tasks := store.tasks.insert claim.taskID
            (claimedRow claim (store.tasks.lookup claim.taskID)) } = claimed := by
  unfold claimTaskDispatch
  by_cases empty : claim.taskID = ""
  · simp [empty]
  · cases found : store.tasks.lookup claim.taskID with
    | none => simp [empty]
    | some row =>
      by_cases accepted : claimAccepted row claim.attempt = true <;> simp [empty, accepted]

variable {Input : Type}

theorem job_record_valid (sequenceID : Nat) (job : Job Input) (transition : TransitionType)
    (newState : JobLifecycleState) (errorSummary : String) (now : Time)
    (named : transition.text ≠ "")
    (allowed : jobTransitionAllowed job.lifecycleState newState = true) :
    Valid (jobRecord sequenceID job transition newState errorSummary now) ↔
      sequenceID ≠ 0 ∧ job.id ≠ "" ∧ now ≠ 0 := by
  have nonempty : newState.text ≠ "" := by cases newState <;> decide
  have shape : ValidJobShape (jobRecord sequenceID job transition newState errorSummary now) := by
    refine ⟨rfl, ?_, ?_, ?_⟩
    · simp
    · cases previous : job.lifecycleState with
      | none => exact .inl (by simp [previous])
      | some =>
        exact .inr (by simp [previous])
    · intro initial
      cases previous : job.lifecycleState with
      | none =>
        rw [previous] at allowed
        have submitted : newState = .submitted := by simpa [jobTransitionAllowed] using allowed
        simp [submitted]
      | some state =>
        have blank : state.text = "" := by
          simpa [previous] using initial
        exact absurd blank (by cases state <;> decide)
  rw [valid_iff]
  simp [named, nonempty] at shape ⊢
  tauto

theorem task_record_valid (sequenceID : Nat) (task : Task Input) (transition : TransitionType)
    (previous : Option TaskLifecycleState) (newState : TaskLifecycleState) (nodeID : String)
    (attempt : Int) (errorSummary : String) (now : Time) (named : transition.text ≠ "")
    (allowed : taskTransitionAllowed previous newState = true) :
    Valid (taskRecord sequenceID task transition previous newState nodeID attempt
        errorSummary now) ↔
      sequenceID ≠ 0 ∧ task.jobID ≠ "" ∧ task.id ≠ "" ∧ now ≠ 0 := by
  have nonempty : newState.text ≠ "" := by cases newState <;> decide
  have shape : ValidTaskShape (taskRecord sequenceID task transition previous newState nodeID
      attempt errorSummary now) ↔ task.id ≠ "" := by
    refine ⟨fun valid => valid.hasTask, fun hasTask => ⟨hasTask, ?_, ?_, ?_⟩⟩
    · simp
    · cases previous with
      | none => exact .inl rfl
      | some =>
        exact .inr (by simp)
    · intro initial
      cases previous with
      | none =>
        have pending : newState = .pending := by simpa [taskTransitionAllowed] using allowed
        simp [pending]
      | some state =>
        have blank : state.text = "" := by simpa using initial
        exact absurd blank (by cases state <;> decide)
  rw [valid_iff, shape]
  simp [named, nonempty]
  tauto

theorem prepare_task_transition_some [GoRuntime Input] (task : Task Input) (report : TaskReport)
    (nodeID : String) (attempt : Int) (errorSummary : String) (sequenceID : Nat)
    (snapshot : Option DurableJobRecord) (now : Time) (write : PendingWrite) :
    prepareTaskTransition task report nodeID attempt errorSummary sequenceID snapshot now =
        some write ↔
      taskTransitionAllowed task.lifecycleState report.newState = true ∧
        write.record = taskRecord sequenceID task report.transition task.lifecycleState
          report.newState nodeID attempt (normalizeTransitionErrorSummary Input errorSummary)
          now ∧
        write.newState = report.newState ∧ write.snapshot = snapshot := by
  unfold prepareTaskTransition
  cases write
  split_ifs with allowed <;> simp [allowed, eq_comm]

theorem prepare_dispatch_claim_some (task : Task Input) (nodeID : String)
    (attempt : Int) (sequenceID : Nat) (snapshot : Option DurableJobRecord) (now : Time)
    (write : PendingWrite) :
    prepareDispatchClaim task nodeID attempt sequenceID snapshot now = some write ↔
      canTransitionTaskState (claimPreviousState task) .dispatched = true ∧
        write.record = taskRecord sequenceID task .taskDispatched
          (some (claimPreviousState task)) .dispatched nodeID attempt "" now ∧
        write.newState = .dispatched ∧ write.snapshot = snapshot := by
  unfold prepareDispatchClaim
  cases write
  split_ifs with allowed <;> simp [allowed, eq_comm]

def taskCommitted [GoRuntime Input] (task : Task Input) (write : PendingWrite)
    (store : TransitionStore) : TransitionStore :=
  upsertSnapshot (upsertTask (appended store write.record)
    (taskRow task write.record.nodeID write.newState write.record.attempt
      write.record.occurredAt)) write.snapshot

theorem commit_task_transition_ok [GoRuntime Input] (task : Task Input) (write : PendingWrite)
    (fault : Option GoError) (store : TransitionStore) (result : Task Input × TransitionStore) :
    commitTaskTransition task write fault store = .ok result ↔
      (fault = none ∧ Valid write.record) ∧
        ({ task with lifecycleState := some write.newState }, taskCommitted task write store) =
          result := by
  unfold commitTaskTransition
  constructor
  · intro committed
    dsimp only at committed
    split at committed
    · cases committed
    · rename_i after accepted
      obtain ⟨noFault, tx⟩ := (persist_ok ..).mp accepted
      obtain ⟨valid, final⟩ := (task_transition_tx_ok ..).mp tx
      refine ⟨⟨noFault, valid⟩, ?_⟩
      rw [← Except.ok.inj committed, ← final]
      rfl
  · rintro ⟨⟨noFault, valid⟩, rfl⟩
    have tx := (task_transition_tx_ok store _ write.record
      (taskRow task write.record.nodeID write.newState write.record.attempt
        write.record.occurredAt) write.snapshot).mpr ⟨valid, rfl⟩
    dsimp only
    rw [(persist_ok fault _ store _).mpr ⟨noFault, tx⟩]
    rfl

theorem task_committed_tasks [GoRuntime Input] (task : Task Input) (write : PendingWrite)
    (store : TransitionStore) :
    (taskCommitted task write store).tasks = store.tasks.insert task.id
      (taskRow task write.record.nodeID write.newState write.record.attempt
        write.record.occurredAt) := by
  simp [taskCommitted, taskRow]

def claimCommitted (task : Task Input) (write : PendingWrite) (store : TransitionStore) :
    TransitionStore :=
  upsertSnapshot (appended
    { store with
      tasks := store.tasks.insert task.id
        (claimedRow (claimOf task write) (store.tasks.lookup task.id)) }
    write.record) write.snapshot

theorem claim_committed_tasks (task : Task Input) (write : PendingWrite) (store : TransitionStore) :
    (claimCommitted task write store).tasks = store.tasks.insert task.id
      (claimedRow (claimOf task write) (store.tasks.lookup task.id)) := by
  simp [claimCommitted]

theorem commit_dispatch_claim_ok (task : Task Input) (write : PendingWrite)
    (fault : Option GoError) (store : TransitionStore) (result : Task Input × TransitionStore) :
    commitDispatchClaim task write fault store = .ok result ↔
      (fault = none ∧ Valid write.record ∧ task.id ≠ "" ∧
        ∀ row, store.tasks.lookup task.id = some row →
          claimAccepted row write.record.attempt = true) ∧
        ({ task with lifecycleState := some .dispatched }, claimCommitted task write store) =
          result := by
  unfold commitDispatchClaim
  constructor
  · intro committed
    split at committed
    · split_ifs at committed
    · rename_i after accepted
      obtain ⟨noFault, tx⟩ := (persist_ok ..).mp accepted
      obtain ⟨valid, _, claim, final⟩ := (dispatch_claim_tx_ok ..).mp tx
      obtain ⟨hasID, rows, rfl⟩ := (claim_task_dispatch_some ..).mp claim
      refine ⟨⟨noFault, valid, hasID, rows⟩, ?_⟩
      rw [← Except.ok.inj committed, ← final]
      rfl
  · rintro ⟨⟨noFault, valid, hasID, rows⟩, rfl⟩
    have claim := (claim_task_dispatch_some store _ (claimOf task write)).mpr ⟨hasID, rows, rfl⟩
    have tx := (dispatch_claim_tx_ok store _ write.record (claimOf task write)
      write.snapshot).mpr ⟨valid, _, claim, rfl⟩
    rw [(persist_ok fault _ store _).mpr ⟨noFault, tx⟩]
    rfl

section

variable [GoRuntime Input] (sched : Scheduler Input) (ref : Nat) (transition : TransitionType)
  (newState : JobLifecycleState) (errorSummary : String) (now : Time) (fault : Option GoError)

include sched ref transition newState errorSummary now fault

/-- A job transition is skipped, loses its sequence number to a failed write, or
appends its record and moves the row and the object. -/
theorem record_job_transition_cases :
    recordJobTransition sched ref transition newState errorSummary now fault = sched ∨
      ∃ job, sched.objects ref = some job ∧
        jobTransitionAllowed job.lifecycleState newState = true ∧
        (recordJobTransition sched ref transition newState errorSummary now fault =
            takeSequence sched job.id ∨
          ∃ record row, record = jobRecord (nextSequence sched job.id) job transition newState
              (normalizeTransitionErrorSummary Input errorSummary) now ∧
            row = jobRow (nextSequence sched job.id) job (some newState) now ∧ Valid record ∧
            recordJobTransition sched ref transition newState errorSummary now fault =
              setObject { takeSequence sched job.id with
                store := upsertJob (appended sched.store record) row } ref
                { job with lifecycleState := some newState }) := by
  unfold recordJobTransition
  cases found : sched.objects ref with
  | none => exact .inl rfl
  | some job =>
    dsimp only
    split_ifs with allowed
    · refine .inr ⟨job, rfl, allowed, ?_⟩
      split
      · exact .inl rfl
      · rename_i store accepted
        obtain ⟨_, tx⟩ := (persist_ok ..).mp accepted
        obtain ⟨valid, rfl⟩ := (job_transition_tx_ok ..).mp tx
        exact .inr ⟨_, _, rfl, rfl, valid, rfl⟩
    · exact .inl rfl

theorem record_job_tasks :
    (recordJobTransition sched ref transition newState errorSummary now fault).store.tasks =
      sched.store.tasks := by
  rcases record_job_transition_cases sched ref transition newState errorSummary now fault with
    same | ⟨_, _, _, taken | ⟨_, _, _, _, _, moved⟩⟩
  · rw [same]
  · rw [taken]
    rfl
  · rw [moved]
    rfl

end

end Dagens.Scheduler.StoreEffects
