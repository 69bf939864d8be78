import Dagens.Scheduler.HeldRefs
import Dagens.Scheduler.Submission

/-!
# How a reconcile pass fails a job

A pass puts the status FAILED on a job object or a JOB_FAILED record in a log
only at the positions behind one of its verdicts. Everything else a pass does
leaves the jobs that the table knows unharmed.
-/

namespace Dagens.Scheduler.PassFailures

open Lifecycle GoSupport Replay Transitions StoreEffects Reconcile HeldRefs Function

variable {Input : Type} [GoRuntime Input]

/-- The pass has decided to fail the job and has not finished doing so. -/
def condemns (sched : Scheduler Input) (jobID : String) : PassPC → Bool
  | .synthesizing ref terminal _ =>
    decide (terminal ≠ .succeeded ∧ jobIDAt sched ref = some jobID)
  | .recordTerminal ref terminal _ =>
    decide (terminal ≠ .succeeded ∧ jobIDAt sched ref = some jobID)
  | .authorizing durableJob _ _ => decide (durableJob.jobID = jobID)
  | .fetching durableJob _ _ => decide (durableJob.jobID = jobID)
  | .condemning ref _ _ _ => decide (jobIDAt sched ref = some jobID)
  | .deciding ref _ _ _ => decide (jobIDAt sched ref = some jobID)
  | .forcing ref _ _ => decide (jobIDAt sched ref = some jobID)
  | _ => false

/-- Between the two states the job's log got a JOB_FAILED record. -/
def RecordsFailure (before after : Scheduler Input) (jobID : String) : Prop :=
  ∃ record ∈ after.store.transitions jobID,
    record ∉ before.store.transitions jobID ∧ record.transition = .jobFailed

instance (before after : Scheduler Input) (jobID : String) :
    Decidable (RecordsFailure before after jobID) :=
  inferInstanceAs (Decidable (∃ record ∈ after.store.transitions jobID, _))

/-- Between the two states an object of the job got the status FAILED. -/
def TurnsFailed (before after : Scheduler Input) (jobID : String) : Prop :=
  ∃ ref job, after.objects ref = some job ∧ job.id = jobID ∧ job.status = .failed ∧
    ∀ old, before.objects ref = some old → old.status ≠ .failed

def Fails (before after : Scheduler Input) (jobID : String) : Prop :=
  RecordsFailure before after jobID ∨ TurnsFailed before after jobID

variable {before after sched : Scheduler Input} {jobID : String} {ref : Nat} {now : Time}

section

omit [GoRuntime Input]

theorem records_failure_same (same : after.store.transitions = before.store.transitions) :
    ¬ RecordsFailure before after jobID := by
  rintro ⟨_, member, fresh, _⟩
  rw [same] at member
  exact fresh member

theorem turns_failed_same (same : after.objects = before.objects) :
    ¬ TurnsFailed before after jobID := by
  rintro ⟨_, job, found, _, failed, fresh⟩
  rw [same] at found
  exact fresh job found failed

variable {job : Job Input}

theorem turns_failed_set (later : Job Input) (found : before.objects ref = some job)
    (objects : after.objects = update before.objects ref (some later)) (id : later.id = job.id)
    (turns : TurnsFailed before after jobID) :
    later.status = .failed ∧ job.status ≠ .failed ∧ jobIDAt before ref = some jobID := by
  obtain ⟨other, failing, foundLater, named, failed, fresh⟩ := turns
  rw [objects] at foundLater
  by_cases same : other = ref
  · subst same
    rw [update_self] at foundLater
    cases foundLater
    exact ⟨failed, fresh job found, by simp [jobIDAt, found, ← id, named]⟩
  · rw [update_of_ne same] at foundLater
    exact absurd failed (fresh failing foundLater)

theorem turns_failed_registered (known : (before.jobs jobID).isSome)
    (unknown : before.jobs job.id = none)
    (objects : after.objects = update before.objects before.nextRef (some job)) :
    ¬ TurnsFailed before after jobID := by
  rintro ⟨ref, failing, found, named, failed, fresh⟩
  rw [objects] at found
  by_cases new : ref = before.nextRef
  · subst new
    rw [update_self] at found
    cases found
    rw [← named, unknown] at known
    cases known
  · rw [update_of_ne new] at found
    exact fresh failing found failed

theorem fails_same (transitions : after.store.transitions = before.store.transitions)
    (objects : after.objects = before.objects) : ¬ Fails before after jobID := by
  rintro (records | turns)
  · exact records_failure_same transitions records
  · exact turns_failed_same objects turns

theorem status_fails {status : JobStatus}
    (fails : Fails sched (updateJobStatus sched ref status now) jobID) :
    status = .failed ∧ jobIDAt sched ref = some jobID := by
  unfold updateJobStatus at fails
  cases found : sched.objects ref with
  | none =>
    simp only [found] at fails
    exact absurd fails (fails_same rfl rfl)
  | some job =>
    simp only [found] at fails
    rcases fails with records | turns
    · exact absurd records (records_failure_same rfl)
    · obtain ⟨failed, _, named⟩ := turns_failed_set
        { job with status := status, updatedAt := now } found rfl rfl turns
      exact ⟨failed, named⟩

end

variable {fault : Option GoError} {durableJob : DurableJobRecord}

theorem record_fails {transition : TransitionType} {newState : JobLifecycleState}
    {errorSummary : String}
    (fails : Fails sched (recordJobTransition sched ref transition newState errorSummary now fault)
      jobID) : transition = .jobFailed ∧ jobIDAt sched ref = some jobID := by
  rcases record_job_transition_cases sched ref transition newState errorSummary now fault with
    same | ⟨job, found, _, taken | ⟨_, _, isRecord, _, _, moved⟩⟩
  · rw [same] at fails
    exact absurd fails (fails_same rfl rfl)
  · rw [taken] at fails
    exact absurd fails (fails_same rfl rfl)
  · rw [moved] at fails
    rcases fails with ⟨_, member, fresh, failed⟩ | turns
    · simp only [setObject, upsert_job_transitions, mem_appended] at member
      rcases member with old | ⟨named, rfl⟩
      · exact absurd old fresh
      · subst isRecord
        exact ⟨failed, by simpa [jobIDAt, found, jobRecord, eq_comm] using named⟩
    · obtain ⟨failed, fresh, _⟩ := turns_failed_set
        { job with lifecycleState := some newState } found rfl rfl turns
      exact absurd failed fresh

theorem warm_fails {replayed : ReplayedJobState} {rows : List DurableTaskRecord}
    (known : (sched.jobs jobID).isSome) :
    ¬ Fails sched (warmJob sched replayed rows).1 jobID := by
  unfold warmJob
  split
  · rename_i unknown
    rintro (records | turns)
    · exact records_failure_same rfl records
    · exact turns_failed_registered known unknown rfl turns
  · rename_i ref entry
    split
    · exact fails_same rfl rfl
    · rename_i job found
      split_ifs
      · rintro (records | turns)
        · exact records_failure_same rfl records
        · obtain ⟨failed, fresh, _⟩ := turns_failed_set
            { job with
              lifecycleState := replayed.job.currentState
              updatedAt := replayed.job.updatedAt } found rfl rfl turns
          exact fresh failed
      · exact fails_same rfl rfl

omit [GoRuntime Input] in
theorem fetch_fails {reason : String} {todo : List DurableJobRecord}
    (known : (sched.jobs jobID).isSome) :
    ¬ Fails sched (fetchStep sched durableJob reason todo).1 jobID := by
  unfold fetchStep
  cases entry : sched.jobs durableJob.jobID with
  | some =>
    dsimp only
    split_ifs <;> exact fails_same rfl rfl
  | none =>
    dsimp only
    have unharmed : ¬ Fails sched (registerJob sched (quarantinedJob Input durableJob)) jobID := by
      rintro (records | turns)
      · exact records_failure_same rfl records
      · exact turns_failed_registered known entry rfl turns
    split_ifs <;> exact unharmed

omit [GoRuntime Input] in
theorem force_fails : ¬ Fails sched (forceStep sched ref durableJob now fault) jobID := by
  unfold forceStep
  split
  · exact fails_same rfl rfl
  · rename_i job found
    dsimp only
    split
    all_goals
      rintro (records | turns)
      · exact records_failure_same rfl records
      · obtain ⟨failed, fresh, _⟩ := turns_failed_set
          { job with lifecycleState := some .failed, updatedAt := now } found rfl rfl turns
        exact fresh failed

/-- Objects and store are as they were. -/
structure SameData (before after : Scheduler Input) : Prop where
  objects : after.objects = before.objects
  store : after.store = before.store

section

omit [GoRuntime Input]

theorem enqueue_same_data (sched : Scheduler Input) (ref : Nat) :
    SameData sched (enqueueJob sched ref).1 := by
  obtain ⟨objects, _, store⟩ := Submission.enqueue_memory sched ref
  exact ⟨objects, store⟩

theorem try_enqueue_same_data (sched : Scheduler Input) (jobID : String) :
    SameData sched (tryEnqueueExistingQueuedJob sched jobID).1 := by
  unfold tryEnqueueExistingQueuedJob
  split
  · exact ⟨rfl, rfl⟩
  · rename_i ref entry
    split
    · exact ⟨rfl, rfl⟩
    · have queued := enqueue_same_data sched ref
      split_ifs <;> first | exact ⟨rfl, rfl⟩ | exact queued

theorem past_quarantine_same_data {cleared : Scheduler Input}
    (past : pastQuarantine sched jobID now = some cleared) : SameData sched cleared := by
  unfold pastQuarantine at past
  split at past
  · cases past
    exact ⟨rfl, rfl⟩
  · split_ifs at past
    cases past
    exact ⟨rfl, rfl⟩

section

variable (sched) (pass : Pass)

theorem next_same_data (durableJob : DurableJobRecord) (todo : List DurableJobRecord) (now : Time) :
    SameData sched (nextStep sched pass durableJob todo now).1 := by
  unfold nextStep
  split_ifs with late leader
  · exact ⟨rfl, rfl⟩
  all_goals
    cases past : pastQuarantine sched durableJob.jobID now with
    | none => exact ⟨rfl, rfl⟩
    | some cleared =>
      have same := past_quarantine_same_data past
      have tried := try_enqueue_same_data cleared durableJob.jobID
      first
      | exact ⟨tried.objects.trans same.objects, tried.store.trans same.store⟩
      | exact same

theorem replay_same_data (durableJob : DurableJobRecord) (todo : List DurableJobRecord) (now : Time)
    :
    SameData sched (replayStep sched pass durableJob todo now).1 := by
  unfold replayStep
  split
  · split_ifs <;> exact ⟨rfl, rfl⟩
  · dsimp only
    split_ifs <;> exact ⟨rfl, rfl⟩

end

theorem SameData.unharmed (same : SameData before after) : ¬ Fails before after jobID :=
  fails_same (by rw [same.store]) same.objects

end

theorem pass_fails {pass : Pass} {oracle : Oracle} (known : (sched.jobs jobID).isSome)
    (fails : Fails sched (passStep sched pass oracle now).1 jobID) :
    condemns sched jobID pass.pc = true := by
  obtain ⟨_, _, current⟩ := pass
  cases current with
  | listing | examining | authorizing =>
    exact absurd fails (fails_same rfl rfl)
  | next todo =>
    cases todo with
    | nil =>
      exact absurd fails (fails_same rfl rfl)
    | cons =>
      exact absurd fails (next_same_data ..).unharmed
  | replaying =>
    exact absurd fails (replay_same_data ..).unharmed
  | locking =>
    exact absurd fails (warm_fails known)
  | synthesizing _ terminal =>
    obtain ⟨failed, named⟩ := status_fails fails
    have bad : terminal ≠ .succeeded := by
      rintro rfl
      cases failed
    simp [condemns, bad, named]
  | recordTerminal _ terminal =>
    obtain ⟨failed, named⟩ := record_fails fails
    have bad : terminal ≠ .succeeded := by
      rintro rfl
      cases failed
    simp [condemns, bad, named]
  | queueing =>
    simp only [passStep] at fails
    split_ifs at fails
    · cases (record_fails fails).1
    · exact absurd fails (fails_same rfl rfl)
  | admitting =>
    simp only [passStep, admitStep] at fails
    split at fails
    · exact absurd fails (fails_same rfl rfl)
    · split_ifs at fails
      · exact absurd fails (fails_same rfl rfl)
      · exact absurd fails (fails_same rfl rfl)
      · exact absurd fails (fails_same rfl rfl)
      · exact absurd fails (enqueue_same_data _ _).unharmed
  | fetching =>
    exact absurd fails (fetch_fails known)
  | condemning =>
    simp [condemns, (status_fails fails).2]
  | deciding =>
    simp only [passStep] at fails
    split_ifs at fails
    · simp [condemns, (record_fails fails).2]
    · exact absurd fails (fails_same rfl rfl)
  | forcing =>
    exact absurd fails force_fails

end Dagens.Scheduler.PassFailures
