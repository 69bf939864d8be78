import Dagens.Hitl.Resumption

/-!
# An accepted answer is not lost

A job leaves the queue when it is acknowledged, from the memory queue already
when it is taken. Where `processJob` returns an error it relies on redelivery,
and where it acknowledges it relies on the checkpoint being settled: deleted or
replaced after a resume, or moved to the DLQ.
-/

namespace Dagens.Hitl.AnswerKept

open Lib.GuardedRun Resumption List Option

/-- The job is in the queue, or delivered and not yet acknowledged. -/
def Waiting (system : System) (job : Nat) : Prop :=
  ∃ status ∈ system.jobs[job]?, status ≠ .gone

def Processed (system : System) (job : Nat) : Prop :=
  ∃ activity ∈ system.active, activity.origin = .worker job

/-- Every job that was enqueued is in one of the places it may be in. -/
def AnswersKept (system : System) : Prop :=
  ∀ job < system.jobs.length,
    Waiting system job ∨ Processed system job ∨ system.checkpoint.settled = true

section Conditions

variable {Secret : Type} (config : Config Secret)

/-- An operation of a worker after which the job may be let go: the checkpoint
it looks for was there, and the operations that settle it succeed. The memory
queue does not redeliver, so with it the exits with an error are excluded too. -/
def Settles (system : System) (stage : ResumeStage) (reply : Reply) : Prop :=
  match stage with
  | .load =>
    (reply.fault = false → system.checkpoint ≠ .missing) ∧
      (config.queue = .simpleInMemory → reply.fault = false)
  | .markDone _ => config.queue = .simpleInMemory → reply.fault = false
  | .resuming failureCount =>
    match reply.outcome with
    | .failed err => config.queue = .simpleInMemory → isRetryable err = true →
        maxResumptionAttempts ≤ failureCount
    | _ => True
  | .moveToDLQ _ => reply.fault = false
  | .deleteOld => reply.accepted = true → reply.fault = false
  | .deleteCheckpoint => reply.fault = false
  | _ => True

instance (system : System) (stage : ResumeStage) (reply : Reply) :
    Decidable (Settles config system stage reply) := by
  unfold Settles
  split
  case h_3 => split <;> infer_instance
  all_goals infer_instance

/-- The condition on a step, until the checkpoint is settled. -/
def Careful (system : System) : Action → Prop
  | .act index reply => system.checkpoint.settled = false →
      ∀ activity ∈ system.active[index]?, activity.origin ≠ .direct →
        Settles config system activity.stage reply
  | _ => True

instance (system : System) (action : Action) : Decidable (Careful config system action) := by
  unfold Careful
  split <;> infer_instance

end Conditions

/-- A worker at this stage still holds its job: it neither lets it go nor returns
an error to a queue that does not redeliver. -/
def holdsJob (queue : QueueKind) : ResumeStage → Bool
  | .recordFailure => decide (queue = .redis)
  | .checkDone _ | .unmarkDone | .releaseLock | .acknowledge => false
  | _ => true

structure Inv {Secret : Type} (config : Config Secret) (system : System) : Prop where
  kept : ∀ job < system.jobs.length, Waiting system job ∨
    (config.queue = .simpleInMemory ∧ Processed system job)
  holding : ∀ activity ∈ system.active, activity.origin ≠ .direct →
    holdsJob config.queue activity.stage = true
  known : ∀ activity ∈ system.active, activity.stage ≠ .load → system.checkpoint ≠ .missing

attribute [local simp] holdsJob notPersisted

section Operations

variable {Secret : Type} (config : Config Secret) {system : System}
  {status before after : CheckpointStatus} {activity : Activity} {reply : Reply}

theorem remove_settles (known : system.checkpoint ≠ .missing) (settled : status.settled = true) :
    (system.remove status).checkpoint.settled = true := by
  unfold System.remove
  cases stands : system.checkpoint with
  | missing => exact absurd stands known
  | stored => simpa [CheckpointStatus.isStored] using settled
  | deleted => rfl
  | replaced => rfl
  | deadLettered => rfl

/-- What an operation leaves behind while the checkpoint is not settled. -/
structure Continues (system after : System) (next : Option ResumeStage) : Prop where
  jobs : after.jobs = system.jobs
  missing : after.checkpoint = .missing → system.checkpoint = .missing
  known : next ≠ none → after.checkpoint ≠ .missing

theorem redis_of {queue : QueueKind} (other : queue ≠ .simpleInMemory) : queue = .redis := by
  cases queue with
  | simpleInMemory => exact absurd rfl other
  | redis => rfl

/-- An operation of a worker that still holds its job settles the checkpoint, or
the worker goes on holding it, or the job will be delivered again. -/
theorem worker_operates {job : Nat} (worker : activity.origin = .worker job)
    (holds : holdsJob config.queue activity.stage = true)
    (known : activity.stage ≠ .load → system.checkpoint ≠ .missing)
    (settles : Settles config system activity.stage reply) :
    (operate config system activity reply).1.checkpoint.settled = true ∨
      Continues system (operate config system activity reply).1
          (operate config system activity reply).2 ∧
        (∀ stage ∈ (operate config system activity reply).2, holdsJob config.queue stage = true) ∧
        ((operate config system activity reply).2 = none → config.queue = .redis) := by
  obtain ⟨_, stage⟩ := activity
  cases worker
  have continuing (present : system.checkpoint ≠ .missing) (next : Option ResumeStage) :
      Continues system system next := ⟨rfl, id, fun _ => present⟩
  -- an error is returned to a queue that redelivers
  have exits (fault : reply.fault = true)
      (sound : config.queue = .simpleInMemory → reply.fault = false) : config.queue = .redis := by
    refine redis_of fun inMemory => ?_
    rw [sound inMemory] at fault
    cases fault
  cases stage with
    simp only [operate]
  | load =>
    obtain ⟨present, sound⟩ := settles
    split_ifs with fault
    · right
      exact ⟨⟨rfl, id, fun absent => absurd rfl absent⟩, by simp, fun _ => exits fault sound⟩
    · have there : system.checkpoint ≠ .missing := present (by simpa using fault)
      cases stands : system.checkpoint with
      | missing => exact absurd stands there
      | stored =>
        right
        exact ⟨continuing there _, by simp, by simp⟩
      | deleted | replaced | deadLettered => exact .inl (by simp [stands, CheckpointStatus.settled])
  | validate =>
    right
    split
    · exact ⟨continuing (known (by simp)) _, by simp, by simp⟩
    · exact ⟨continuing (known (by simp)) _, by simp, by simp⟩
    · contradiction
    · contradiction
  | markDone =>
    right
    split_ifs with fault
    · exact ⟨continuing (known (by simp)) _, by simp, fun _ => exits fault settles⟩
    · exact ⟨⟨rfl, id, fun _ => known (by simp)⟩, by simp, by simp⟩
  | resuming =>
    right
    split
    · exact ⟨⟨rfl, id, fun _ => known (by simp)⟩, by simp, by simp⟩
    · exact ⟨⟨rfl, id, fun _ => known (by simp)⟩, by simp, by simp⟩
    · rename_i err failed
      refine ⟨continuing (known (by simp)) _, ?_, by simp⟩
      intro stage member
      cases member
      simp only [afterFailure]
      split_ifs with retry
      · refine decide_eq_true (redis_of fun inMemory => ?_)
        simp only [Settles, failed] at settles
        have exhausted := settles inMemory retry.1
        omega
      · rfl
  | recordFailure =>
    right
    have redelivers : config.queue = .redis := of_decide_eq_true holds
    split
    · split_ifs
      · exact ⟨continuing (known (by simp)) _, by simp, fun _ => redelivers⟩
      · refine ⟨⟨rfl, ?_, ?_⟩, by simp, fun _ => redelivers⟩ <;> simp
    · exact ⟨continuing (known (by simp)) _, by simp, fun _ => redelivers⟩
  | moveToDLQ | deleteCheckpoint =>
    have sound : reply.fault = false := settles
    left
    simp only [sound]
    exact remove_settles (known (by simp)) rfl
  | persist =>
    have there := known (by simp)
    split_ifs
    · exact .inr ⟨continuing there _, by simp, by simp⟩
    · exact .inl (remove_settles there rfl)
    · exact .inr ⟨continuing there _, by simp, by simp⟩
    · exact .inr ⟨continuing there _, by simp, by simp⟩
  | deleteOld =>
    have there := known (by simp)
    split_ifs with refused fault
    · exact .inr ⟨continuing there _, by simp, by simp⟩
    · have sound := settles (by simpa using refused)
      rw [sound] at fault
      cases fault
    · exact .inl (remove_settles there rfl)
  | checkDone | unmarkDone | releaseLock | acknowledge => cases holds

inductive Changes (before : CheckpointStatus) : CheckpointStatus → Prop where
  | same : Changes before before
  | counted {failureCount : Nat} (stored : before = .stored failureCount) :
      Changes before (.stored (failureCount + 1))
  | removed (status : CheckpointStatus) (stored : before.isStored = true)
      (settled : status.settled = true) : Changes before status

theorem remove_changes (settled : status.settled = true) :
    Changes system.checkpoint (system.remove status).checkpoint := by
  unfold System.remove
  cases stored : system.checkpoint.isStored with
  | true => exact .removed status stored settled
  | false => exact .same

theorem operate_changes (system : System) (activity : Activity) (reply : Reply) :
    Changes system.checkpoint (operate config system activity reply).1.checkpoint := by
  obtain ⟨_, stage⟩ := activity
  cases stage with
    simp only [operate]
  | load =>
    split_ifs
    · exact .same
    · split <;> exact .same
  | validate | resuming =>
    split <;> exact .same
  | checkDone | markDone | unmarkDone | releaseLock =>
    split_ifs <;> exact .same
  | recordFailure =>
    split
    · rename_i stored
      split_ifs
      · exact .same
      · exact .counted stored
    · exact .same
  | moveToDLQ =>
    split_ifs
    · exact .same
    · exact remove_changes rfl
  | persist =>
    split_ifs
    · exact .same
    · exact remove_changes rfl
    · exact .same
    · exact .same
  | deleteOld =>
    split_ifs
    · exact .same
    · exact .same
    · exact remove_changes rfl
  | deleteCheckpoint =>
    have changed : Changes system.checkpoint
        (if reply.fault = true then system else system.remove .deleted).checkpoint := by
      split_ifs
      · exact .same
      · exact remove_changes rfl
    split <;> exact changed
  | acknowledge =>
    split
    · unfold ackJob
      split <;> exact .same
    · exact .same

omit config in
theorem changes_settled (changes : Changes before after) (settled : before.settled = true) :
    after.settled = true := by
  cases changes with
  | same => exact settled
  | counted stored =>
    rw [stored] at settled
    cases settled
  | removed _ _ later => exact later

omit config in
theorem changes_missing (changes : Changes before after) (missing : after = .missing) :
    before = .missing := by
  cases changes with
  | same => exact missing
  | counted => cases missing
  | removed _ _ later =>
    rw [missing] at later
    cases later

end Operations

section Steps

variable {Secret : Type} {config : Config Secret} {system after : System} {job index : Nat}
  {activity : Activity}

section

variable (inv : Inv config system)

include inv

theorem begun_holding (origin : Origin) :
    ∀ activity ∈ system.active ++ [⟨origin, .load⟩], activity.origin ≠ .direct →
      holdsJob config.queue activity.stage = true := by
  intro activity member
  rcases List.mem_append.mp member with earlier | new
  · exact inv.holding activity earlier
  · cases mem_singleton.mp new
    exact fun _ => rfl

theorem begun_known (origin : Origin) :
    ∀ activity ∈ system.active ++ [⟨origin, .load⟩], activity.stage ≠ .load →
      system.checkpoint ≠ .missing := by
  intro activity member
  rcases List.mem_append.mp member with earlier | new
  · exact inv.known activity earlier
  · cases mem_singleton.mp new
    exact fun loading => absurd rfl loading

theorem deliver_inv (taken : step config system (.deliver job) = some after) :
    Inv config after := by
  simp only [step] at taken
  cases found : system.jobs[job]? with
  | none =>
    rw [found] at taken
    cases taken
  | some =>
    rw [found] at taken
    obtain ⟨next, dequeued, rfl⟩ := map_eq_some_iff.mp taken
    refine ⟨fun other bound => ?_, begun_holding inv _, begun_known inv _⟩
    · rw [length_set] at bound
      by_cases same : job = other
      · subst same
        cases queue : config.queue with
        | simpleInMemory =>
          exact .inr ⟨rfl, ⟨.worker job, .load⟩, mem_append_right _ (by simp), rfl⟩
        | redis =>
          refine .inl ⟨next, by simp [bound], ?_⟩
          simp only [delivery, queue] at dequeued
          split at dequeued
          · contradiction
          · cases dequeued
            simp
          · split_ifs at dequeued
            cases dequeued
            simp
          · cases dequeued
      · rcases inv.kept other bound with waits | ⟨inMemory, activity, member, works⟩
        · obtain ⟨current, present, stays⟩ := waits
          exact .inl ⟨current, by rw [getElem?_set_ne same]; exact present, stays⟩
        · exact .inr ⟨inMemory, activity, mem_append_left _ member, works⟩

theorem inv_of_enqueue (frame : HandlerFrame system after) : Inv config after := by
  obtain ⟨checkpoint, -, active, jobs⟩ := frame
  refine ⟨fun job bound => ?_, ?_, ?_⟩
  · have kept (earlier : job < system.jobs.length) (same : after.jobs[job]? = system.jobs[job]?) :
        Waiting after job ∨ (config.queue = .simpleInMemory ∧ Processed after job) := by
      unfold Waiting Processed
      rw [same, active]
      exact inv.kept job earlier
    rcases jobs with same | enqueued
    · exact kept (same ▸ bound) (by rw [same])
    · rw [enqueued, length_append, length_singleton] at bound
      by_cases new : job = system.jobs.length
      · exact .inl ⟨.queued, by simp [enqueued, new], by simp⟩
      · have earlier : job < system.jobs.length := by omega
        exact kept earlier (by rw [enqueued, getElem?_append_left earlier])
  · rw [active]
    exact inv.holding
  · rw [active, checkpoint]
    exact inv.known

end

variable {active : List Activity} {reply : Reply} {action : Action}

theorem processed_set (found : active[index]? = some activity) (stage : ResumeStage)
    {origin : Origin} (works : ∃ other ∈ active, other.origin = origin) :
    ∃ other ∈ active.set index { activity with stage := stage }, other.origin = origin := by
  obtain ⟨other, member, same⟩ := works
  obtain ⟨position, listed⟩ := getElem?_of_mem member
  obtain ⟨bound, -⟩ := List.getElem?_eq_some_iff.mp found
  by_cases here : index = position
  · refine ⟨{ activity with stage := stage }, mem_set bound _, ?_⟩
    rw [here, listed, some.injEq] at found
    rw [← found]
    exact same
  · refine ⟨other, mem_of_getElem? (i := position) ?_, same⟩
    rw [getElem?_set_ne here]
    exact listed

theorem operate_continues (inv : Inv config system) (found : system.active[index]? = some activity)
    (settles : activity.origin ≠ .direct → Settles config system activity.stage reply) :
    (operate config system activity reply).1.checkpoint.settled = true ∨
      Continues system (operate config system activity reply).1
          (operate config system activity reply).2 ∧
        (activity.origin ≠ .direct →
          (∀ stage ∈ (operate config system activity reply).2, holdsJob config.queue stage = true) ∧
          ((operate config system activity reply).2 = none → config.queue = .redis)) := by
  have member := mem_of_getElem? found
  cases origin : activity.origin with
  | direct =>
    have known := inv.known activity member
    refine .inr ⟨?_, fun worker => absurd rfl worker⟩
    have missing := changes_missing (operate_changes config system activity reply)
    obtain ⟨_, stage⟩ := activity
    cases origin
    refine ⟨?_, missing, fun continues absent => ?_⟩
    · cases stage <;> simp only [operate] <;> (repeat' split) <;> rfl
    · by_cases loading : stage = .load
      · subst loading
        simp only [operate] at continues absent
        split_ifs at continues absent
        · exact continues rfl
        · split at continues
          · rename_i stored
            simp only [stored] at absent
            cases absent
          · contradiction
          · exact continues rfl
      · exact known loading (missing absent)
  | worker =>
    have working : activity.origin ≠ .direct := by simp [origin]
    rcases worker_operates config origin (inv.holding activity member working)
      (inv.known activity member) (settles working) with settled | ⟨continues, held⟩
    · exact .inl settled
    · exact .inr ⟨continues, fun _ => held⟩

theorem act_inv (inv : Inv config system) (unsettled : system.checkpoint.settled = false)
    (careful : Careful config system (.act index reply))
    (taken : step config system (.act index reply) = some after) :
    after.checkpoint.settled = true ∨ Inv config after := by
  simp only [step] at taken
  cases found : system.active[index]? with
  | none =>
    rw [found] at taken
    cases taken
  | some activity =>
    rw [found] at taken
    have operated := operate_continues inv found (careful unsettled activity found)
    dsimp only at taken
    generalize operate config system activity reply = result at taken operated
    obtain ⟨_, next⟩ := result
    rcases operated with settled | ⟨continues, worker⟩
    · left
      cases next <;> cases taken <;> exact settled
    · right
      cases next with
      | some stage =>
        cases taken
        refine ⟨fun job bound => ?_, fun other member working => ?_, fun other _ _ => ?_⟩
        · unfold Waiting Processed
          dsimp only at bound ⊢
          rw [continues.jobs] at bound ⊢
          exact (inv.kept job bound).imp_right fun ⟨inMemory, works⟩ =>
            ⟨inMemory, processed_set found stage works⟩
        · rcases mem_or_eq_of_mem_set member with earlier | new
          · exact inv.holding other earlier working
          · rw [new] at working ⊢
            exact (worker working).1 stage rfl
        · exact continues.known (by simp)
      | none =>
        cases taken
        refine ⟨fun job bound => ?_, fun other member => ?_, fun other member loaded absent => ?_⟩
        · unfold Waiting Processed
          dsimp only at bound ⊢
          rw [continues.jobs] at bound ⊢
          refine (inv.kept job bound).imp_right fun ⟨inMemory, works⟩ => ⟨inMemory, ?_⟩
          by_cases direct : activity.origin = .direct
          · obtain ⟨other, member, same⟩ := works
            obtain ⟨position, listed⟩ := getElem?_of_mem member
            refine ⟨other, mem_eraseIdx_iff_getElem?.mpr ⟨position, fun here => ?_, listed⟩, same⟩
            rw [← here, listed, some.injEq] at found
            rw [found, direct] at same
            cases same
          · rw [(worker direct).2 rfl] at inMemory
            cases inMemory
        · exact inv.holding other (mem_of_mem_eraseIdx member)
        · exact inv.known other (mem_of_mem_eraseIdx member) loaded (continues.missing absent)

theorem step_changes (taken : step config system action = some after) :
    Changes system.checkpoint after.checkpoint := by
  cases action with
    simp only [step] at taken
  | elapse | resume =>
    cases taken
    exact .same
  | callback =>
    split_ifs at taken
    cases taken
    exact .same
  | handle _ fault full =>
    split at taken
    · cases taken
    · rename_i call stage found
      cases taken
      have frame := handled_frame system stage (answersOf config system fault full) fault
      dsimp only
      rw [frame.checkpoint]
      exact .same
  | deliver =>
    split at taken
    · cases taken
    · obtain ⟨_, -, rfl⟩ := map_eq_some_iff.mp taken
      exact .same
  | act _ reply =>
    split at taken
    · cases taken
    · rename_i activity found
      have changes := operate_changes config system activity reply
      split at taken <;> cases taken <;> exact changes

theorem step_inv (inv : system.checkpoint.settled = true ∨ Inv config system)
    (careful : Careful config system action) (taken : step config system action = some after) :
    after.checkpoint.settled = true ∨ Inv config after := by
  by_cases settled : system.checkpoint.settled = true
  · exact .inl (changes_settled (step_changes taken) settled)
  have inv : Inv config system := inv.resolve_left settled
  cases action with
  | elapse =>
    cases taken
    exact .inr (inv_of_enqueue inv ⟨rfl, rfl, rfl, .inl rfl⟩)
  | callback =>
    simp only [step] at taken
    split_ifs at taken
    cases taken
    exact .inr (inv_of_enqueue inv ⟨rfl, rfl, rfl, .inl rfl⟩)
  | handle _ fault full =>
    simp only [step] at taken
    split at taken
    · cases taken
    · rename_i call stage found
      cases taken
      obtain ⟨checkpoint, returned, active, jobs⟩ := handled_frame system stage
        (answersOf config system fault full) fault
      exact .inr (inv_of_enqueue inv ⟨checkpoint, returned, active, jobs⟩)
  | deliver => exact .inr (deliver_inv inv taken)
  | resume =>
    cases taken
    refine .inr ⟨fun job bound => ?_, begun_holding inv _, begun_known inv _⟩
    · exact (inv.kept job bound).imp_right fun ⟨inMemory, activity, member, works⟩ =>
      ⟨inMemory, activity, mem_append_left _ member, works⟩
  | act => exact act_inv inv (by simpa using settled) careful taken

/-- In every run whose steps are careful, every enqueued answer is kept. -/
theorem answers_kept (config : Config Secret) {system : System}
    (reached : Reaches (step config) (Careful config) Fresh system) : AnswersKept system := by
  have inv : system.checkpoint.settled = true ∨ Inv config system := by
    refine reaches_invariant ?_ (fun _ _ _ inv careful taken => step_inv inv careful taken) reached
    intro fresh started
    right
    refine ⟨?_, ?_, ?_⟩
    · simp [started.jobs]
    · simp [started.active]
    · simp [started.active]
  intro job bound
  rcases inv with settled | inv
  · exact .inr (.inr settled)
  · rcases inv.kept job bound with waits | ⟨-, works⟩
    · exact .inl waits
    · exact .inr (.inl works)

end Steps

instance (system : System) : Decidable (AnswersKept system) := by
  unfold AnswersKept Waiting Processed
  infer_instance

theorem served_answer_kept : ∃ system,
    run (step (sampleConfig .redis)) waiting servedAnswer = some system ∧
      system.jobs = [.gone] ∧ AnswersKept system := by
  have fresh : Fresh waiting := ⟨rfl, rfl, rfl, rfl⟩
  refine ⟨_, rfl, by decide +kernel, answers_kept (sampleConfig .redis) ?_⟩
  exact reaches_of_run (.start fresh) servedAnswer (by decide +kernel) rfl

/-- From the memory queue an answer is lost when the checkpoint cannot be loaded
at once, and from either queue when the checkpoint cannot be moved to the DLQ. -/
theorem accepted_answer_lost :
    (∃ system, run (step (sampleConfig .simpleInMemory)) waiting
        (answeredCallback ++ [.deliver 0, .act 0 ⟨true, true, .completed⟩]) = some system ∧
      ¬AnswersKept system) ∧
    (∃ system, run (step (sampleConfig .redis)) waiting
        (answeredCallback ++ [.deliver 0, .act 0 (fine .completed),
          .act 0 ⟨false, false, .completed⟩, .act 0 ⟨true, true, .completed⟩,
          .act 0 (fine .completed)]) = some system ∧
      ¬AnswersKept system) :=
  ⟨⟨_, rfl, by decide +kernel⟩, ⟨_, rfl, by decide +kernel⟩⟩

end Dagens.Hitl.AnswerKept
