import Dagens.Scheduler.InFlight

/-!
# Retention, hydration and the numbering of transitions

`cleanupTerminalJobsOnce` forgets terminal jobs together with their sequence
counters, while the log of a job is permanent. Here the machine is extended by
that cleanup, by `GetJob` and by `RecoverFromTransitions`, which bring jobs back
from the store and seed their counters. A job's numbers stay distinct as
long as nobody takes a number from a counter that cleanup has deleted and no
hydration has raised again.
-/

namespace Dagens.Scheduler.Retention

open Lib.GuardedRun Lifecycle GoSupport Replay Recovery Transitions Reconcile Operations Memory
  Machine MachineMoves Wiring InFlight List

structure RetentionConfig where
  jobRetentionTTL : Time
  enableResumeRecoveredQueuedJobs : Bool
  deriving DecidableEq, Repr

/-- A call of `GetJob` or of `RecoverFromTransitions` between two accesses to
shared state. -/
inductive Reader where
  | looking (jobID : String)
  | hydrating (jobID : String) (replayed : ReplayedJobState)
  | listing
  | replaying (todo : List DurableJobRecord) (replayed : List ReplayedJobState)
  | applying (todo : List ReplayedJobState) (recovered : List Nat)
  | resuming (recovered : List Nat)

def recoveryOrder (first other : ReplayedJobState) : Prop := reconcileOrder first.job other.job

instance (first other : ReplayedJobState) : Decidable (recoveryOrder first other) :=
  inferInstanceAs (Decidable (reconcileOrder _ _))

variable {Input : Type} [GoRuntime Input]

/-- One turn of `resumeRecoveredQueuedJobsLocked`. -/
def resumeRecoveredQueuedJob (sched : Scheduler Input) (ref : Nat) : Scheduler Input :=
  match sched.objects ref with
  | none => sched
  | some job =>
    if job.lifecycleState = some .queued ∧ isSafeForQueuedResume job then
      (enqueueJob sched ref).1
    else sched

/-- A replayed job is applied under the lock: a job the table holds only has
its sequence seeded. -/
def applyRecovered (sched : Scheduler Input) (replayed : ReplayedJobState) (oracle : Oracle) :
    Scheduler Input × List Nat :=
  match sched.jobs replayed.job.jobID with
  | some _ =>
    (seedJobSequence sched replayed.job.jobID replayed.job.lastSequenceID replayed.transitions,
      [])
  | none =>
    (seedJobSequence (registerJob sched (buildRecoveredRuntimeJob replayed
        (oracle.mapOrder (replayedRows replayed)))) replayed.job.jobID
      replayed.job.lastSequenceID replayed.transitions, [sched.nextRef])

def readerStep (retention : RetentionConfig) (sched : Scheduler Input) (reader : Reader)
    (oracle : Oracle) : Scheduler Input × Option Reader :=
  match reader with
  | .looking jobID =>
    (sched, match sched.jobs jobID with
      | some _ => none
      | none => (readUnknownJob sched jobID oracle.ctxErr).map (.hydrating jobID))
  | .hydrating jobID replayed => ((hydrateJob sched jobID replayed oracle).1, none)
  | .listing =>
    (sched, if oracle.ctxErr.isSome then none
      else some (.replaying (listUnfinishedJobs sched.store) []))
  | .replaying [] replayed =>
    (sched, some (.applying (replayed.insertionSort recoveryOrder) []))
  | .replaying (row :: todo) replayed =>
    -- one history that does not replay ends the whole recovery
    (sched, match replayJobState oracle.ctxErr sched.store row.jobID with
      | .error _ => none
      | .ok raw => some (.replaying todo (replayed ++ [completeReplay row raw])))
  | .applying [] recovered =>
    (sched, if retention.enableResumeRecoveredQueuedJobs then some (.resuming recovered)
      else none)
  | .applying (replayed :: todo) recovered =>
    if oracle.ctxErr.isSome then (sched, none)
    else
      let applied := applyRecovered sched replayed oracle
      (applied.1, some (.applying todo (recovered ++ applied.2)))
  | .resuming recovered => (recovered.foldl resumeRecoveredQueuedJob sched, none)

/-- A terminal job whose last update is not after the cutoff `now - ttl`. -/
def expired (sched : Scheduler Input) (ttl now : Time) (jobID : String) : Bool :=
  match registeredJob sched jobID with
  | none => false
  | some job => job.lifecycleState.any isTerminalJobState && decide (job.updatedAt + ttl ≤ now)

def prunable (sched : Scheduler Input) (ttl now : Time) (jobID : String) : Bool :=
  decide (0 < ttl) && expired sched ttl now jobID

def cleanupTerminalJobsOnce (sched : Scheduler Input) (ttl now : Time) : Scheduler Input :=
  { sched with
    jobs := fun jobID => if prunable sched ttl now jobID then none else sched.jobs jobID
    jobSequences := fun jobID =>
      if prunable sched ttl now jobID then 0 else sched.jobSequences jobID
    queuedJobs := fun jobID =>
      if prunable sched ttl now jobID then false else sched.queuedJobs jobID }

/-- `pruned` records the ids that a cleanup has deleted; no step reads it. -/
structure Retained (Input : Type) [GoRuntime Input] where
  machine : Machine Input
  retention : RetentionConfig
  readers : List (Option Reader)
  pruned : String → Bool

inductive RetainedAction (Input : Type) [GoRuntime Input] where
  | base (action : Action Input)
  | getJob (jobID : String)
  | recoverFromTransitions
  | read (index : Nat) (oracle : Oracle)
  | cleanup

def withSched (retained : Retained Input) (sched : Scheduler Input) : Machine Input :=
  { retained.machine with sched := sched }

def retainedStep (retained : Retained Input) : RetainedAction Input → Option (Retained Input)
  | .base action =>
    (machineStep retained.machine action).map fun machine => { retained with machine := machine }
  | .getJob jobID => some { retained with readers := retained.readers ++ [some (.looking jobID)] }
  | .recoverFromTransitions =>
    some { retained with readers := retained.readers ++ [some .listing] }
  | .read index oracle =>
    retained.readers[index]?.join.map fun reader =>
      let result := readerStep retained.retention retained.machine.sched reader oracle
      { retained with
        machine := withSched retained result.1
        readers := retained.readers.set index result.2 }
  | .cleanup =>
    let sched := retained.machine.sched
    let ttl := retained.retention.jobRetentionTTL
    some { retained with
      machine := withSched retained (cleanupTerminalJobsOnce sched ttl retained.machine.now)
      pruned := fun jobID =>
        retained.pruned jobID || prunable sched ttl retained.machine.now jobID }

def FreshRetained (retained : Retained Input) : Prop :=
  Fresh retained.machine ∧ retained.readers = [] ∧ ∀ jobID, retained.pruned jobID = false

/-- A number for a pruned job is only taken from a counter that has been raised
past all numbers that the job already has, in its log or in flight. -/
def countersRaised (retained : Retained Input) : RetainedAction Input → Bool
  | .base action =>
    match actionNumbers retained.machine action with
    | none => true
    | some jobID =>
      !retained.pruned jobID ||
        (issued retained.machine.sched (machineFlight retained.machine) jobID).all
          fun number => decide (number ≤ retained.machine.sched.jobSequences jobID)
  | _ => true

omit [GoRuntime Input] in
theorem resume_recovered_all_steady (recovered : List Nat) (sched : Scheduler Input) :
    Steady sched (recovered.foldl resumeRecoveredQueuedJob sched) := by
  induction recovered generalizing sched with
  | nil => exact steady_refl sched
  | cons ref _ ih =>
    refine Steady.trans ?_ (ih _)
    unfold resumeRecoveredQueuedJob
    split
    · exact steady_refl sched
    · split_ifs
      · exact steady_enqueue sched ref
      · exact steady_refl sched

/-- The store stays as it is and counters only grow. -/
structure Raises (sched after : Scheduler Input) : Prop where
  store : after.store = sched.store
  sequences : ∀ jobID, sched.jobSequences jobID ≤ after.jobSequences jobID

omit [GoRuntime Input] in
theorem raises_refl (sched : Scheduler Input) : Raises sched sched := ⟨rfl, fun _ => le_rfl⟩

variable {after : Scheduler Input} {retained : Retained Input}

omit [GoRuntime Input] in
theorem raises_steady {sched : Scheduler Input} (steady : Steady sched after) :
    Raises sched after :=
  ⟨steady.store, fun jobID => by rw [steady.sequences]⟩

theorem reader_raises (retention : RetentionConfig) (sched : Scheduler Input) (reader : Reader)
    (oracle : Oracle) : Raises sched (readerStep retention sched reader oracle).1 := by
  cases reader with
  | looking | listing => exact raises_refl sched
  | hydrating jobID replayed =>
    simp only [readerStep, hydrateJob]
    split
    · exact raises_refl sched
    · exact ⟨rfl, fun other => seed_sequences_le (registerJob sched _) jobID other _ _⟩
  | replaying todo => cases todo <;> exact raises_refl sched
  | applying todo =>
    cases todo with
    | nil => exact raises_refl sched
    | cons replayed =>
      simp only [readerStep]
      split_ifs
      · exact raises_refl sched
      · unfold applyRecovered
        split
        · exact ⟨rfl, fun jobID => seed_sequences_le sched _ jobID _ _⟩
        · exact ⟨rfl, fun jobID => seed_sequences_le (registerJob sched _) _ jobID _ _⟩
  | resuming recovered => exact raises_steady (resume_recovered_all_steady recovered sched)

structure Numbered (retained : Retained Input) : Prop where
  own : ∀ jobID replayed, Carries retained.machine (.reading jobID replayed) →
    replayed.job.jobID = jobID
  distinct : ∀ jobID,
    (issued retained.machine.sched (machineFlight retained.machine) jobID).Nodup
  covered : ∀ jobID, retained.pruned jobID = false →
    Covered retained.machine.sched (machineFlight retained.machine) jobID

theorem fresh_numbered (retained : Retained Input) (fresh : FreshRetained retained) :
    Numbered retained := by
  obtain ⟨_⟩ := retained
  obtain ⟨⟨config, now, rfl⟩, _⟩ := fresh
  have nothing : ∀ jobID, issued (newMachine Input config now).sched
      (machineFlight (newMachine Input config now)) jobID = [] := fun _ => rfl
  refine ⟨?_, ?_, ?_⟩
  · rintro jobID _ ⟨_, _, lives, _⟩
    simp [threadOf, newMachine] at lives
  · intro jobID
    rw [nothing]
    exact nodup_nil
  · intro jobID _ _ member
    rw [nothing] at member
    cases member

theorem numbered_raised (numbered : Numbered retained)
    (raises : Raises retained.machine.sched after) (readers : List (Option Reader)) :
    Numbered { retained with machine := withSched retained after, readers := readers } := by
  have same : ∀ jobID, issued after (machineFlight (withSched retained after)) jobID =
      issued retained.machine.sched (machineFlight retained.machine) jobID := by
    intro jobID
    simp only [issued, raises.store]
    rfl
  refine ⟨numbered.own, fun jobID => (same jobID).symm ▸ numbered.distinct jobID, ?_⟩
  intro jobID unpruned number member
  exact (numbered.covered jobID unpruned number (same jobID ▸ member)).trans
    (raises.sequences jobID)

theorem numbered_cleaned (retained : Retained Input) (numbered : Numbered retained) (ttl : Time) :
    Numbered { retained with
      machine := withSched retained
        (cleanupTerminalJobsOnce retained.machine.sched ttl retained.machine.now)
      pruned := fun jobID => retained.pruned jobID ||
        prunable retained.machine.sched ttl retained.machine.now jobID } := by
  refine ⟨numbered.own, numbered.distinct, ?_⟩
  intro jobID unpruned number member
  obtain ⟨kept, spared⟩ := Bool.or_eq_false_iff.mp unpruned
  have bound := numbered.covered jobID kept number member
  simpa only [withSched, cleanupTerminalJobsOnce, spared, Bool.false_eq_true, if_false] using bound

theorem numbered_moved {action : Action Input} {after : Machine Input}
    (numbered : Numbered retained) (allowed : countersRaised retained (.base action) = true)
    (taken : machineStep retained.machine action = some after) :
    Numbered { retained with machine := after } := by
  have move := machine_move numbered.own taken
  have raised : ∀ jobID, actionNumbers retained.machine action = some jobID →
      Covered retained.machine.sched (machineFlight retained.machine) jobID := by
    intro jobID named
    simp only [countersRaised, named, Bool.or_eq_true, Bool.not_eq_true', all_eq_true,
      decide_eq_true_eq] at allowed
    rcases allowed with unpruned | covered
    · exact numbered.covered jobID unpruned
    · exact covered
  refine ⟨?_, ?_, ?_⟩
  · intro jobID replayed carries
    rcases move.items _ carries with old | acquired
    · exact numbered.own jobID replayed old
    · cases acquired with
      | read _ _ _ replays => exact (replay_job_state_ok replays).2.1
  · intro jobID
    exact issues_distinct (machine_issues move taken jobID) (raised jobID) (numbered.distinct jobID)
  · intro jobID unpruned
    exact issues_covered (machine_issues move taken jobID) (move_sequences move.move jobID)
      (numbered.covered jobID unpruned)

theorem numbered_step (retained : Retained Input) (action : RetainedAction Input)
    (after : Retained Input) (numbered : Numbered retained)
    (allowed : countersRaised retained action = true)
    (taken : retainedStep retained action = some after) : Numbered after := by
  cases action with
  | base =>
    obtain ⟨_, moved, rfl⟩ := Option.map_eq_some_iff.mp taken
    exact numbered_moved numbered allowed moved
  | getJob | recoverFromTransitions =>
    cases taken
    exact numbered_raised numbered (raises_refl _) _
  | read _ oracle =>
    obtain ⟨reader, _, rfl⟩ := Option.map_eq_some_iff.mp taken
    exact numbered_raised numbered (reader_raises _ _ reader oracle) _
  | cleanup =>
    cases taken
    exact numbered_cleaned retained numbered retained.retention.jobRetentionTTL

/-- As long as counters of pruned jobs are raised before they are used, no two
transitions stored for a job have the same sequence number. -/
theorem sequence_ids_unique_while_raised {retained : Retained Input}
    (reached : Reaches retainedStep
      (fun retained action => countersRaised retained action = true) FreshRetained retained)
    (jobID : String) :
    ((retained.machine.sched.store.transitions jobID).map (·.sequenceID)).Nodup := by
  have numbered : Numbered retained := by
    refine reaches_invariant ?_ ?_ reached
    · exact fresh_numbered
    · exact numbered_step
  refine (numbered.distinct jobID).sublist ?_
  exact (sublist_append_left _ _).map _

def sampleRetained : Retained SampleInput := ⟨sampleMachine, ⟨60, false⟩, [], fun _ => false⟩

theorem sample_retained_fresh : FreshRetained sampleRetained :=
  ⟨sample_fresh, rfl, fun _ => rfl⟩

/-- A job without tasks is submitted and executed, and its retention time passes. -/
def completedRun : List (Action SampleInput) :=
  [.submit (sampleJob [])] ++ steps 0 4 ++ [.dequeue] ++ steps 1 13 ++ [.tick 60]

def prunedRun : List (RetainedAction SampleInput) := completedRun.map .base ++ [.cleanup]

def resubmittedRun : List (RetainedAction SampleInput) :=
  prunedRun ++ [.base (.submit (sampleJob [])), .base (.thread 2 (.step calm))]

theorem resubmitted_job_reuses_sequence_id :
    ∃ retained, run retainedStep sampleRetained resubmittedRun = some retained ∧
      (retained.machine.sched.store.transitions "job-1").map
          (fun record => (record.sequenceID, record.transition)) =
        [(1, .jobSubmitted), (1, .jobSubmitted), (2, .jobQueued), (3, .jobRunning),
          (4, .jobSucceeded)] :=
  ⟨_, rfl, by decide⟩

/-- A pass fails a job whose executor call takes too long. -/
def failedRun : List (Action SampleInput) :=
  [.submit (sampleJob ["task-1"])] ++ steps 0 6 ++ [.dequeue] ++ steps 1 11 ++
    [.thread 1 (.launch (.ok "node-1"))] ++ works 1 0 8 answered ++
    [.tick 61000000000, .reconcile .leader] ++ steps 2 7 ++ [.tick 60]

/-- The failed job is pruned and brought back by `GetJob` while the executor call goes
on, and then the success of its task takes a number. -/
def hydratedRun : List (RetainedAction SampleInput) :=
  failedRun.map .base ++ [.cleanup, .getJob "job-1", .read 0 calm, .read 0 calm] ++
    (works 1 0 3 answered).map .base

set_option maxRecDepth 4000 in
theorem hydrated_job_keeps_numbers :
    ∃ retained, run retainedStep sampleRetained hydratedRun = some retained ∧
      retained.machine.sched.jobSequences "job-1" = 8 ∧
      ((retained.machine.sched.store.transitions "job-1").map (·.sequenceID)).Nodup := by
  have ends : (run retainedStep sampleRetained hydratedRun).any
      (fun retained => decide (retained.machine.sched.jobSequences "job-1" = 8)) = true := by
    decide +kernel
  obtain ⟨retained, ran, taken⟩ := (Option.any_eq_true _ _).mp ends
  exact ⟨retained, ran, of_decide_eq_true taken, sequence_ids_unique_while_raised
    (reaches_of_run (.start sample_retained_fresh) hydratedRun (by decide +kernel) ran) "job-1"⟩

end Dagens.Scheduler.Retention
