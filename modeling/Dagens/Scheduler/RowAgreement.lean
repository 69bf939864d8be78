import Dagens.Scheduler.JobHistory

/-!
# The materialized job row and the log

A job's durable row is written by its own transitions, together with the log,
and by the snapshots that task transitions carry, which are taken before their
transaction and committed whenever it runs. The row keeps up with the sequence
numbers of the log in any case; it keeps the job's last logged state as long as
no snapshot is committed after the job has moved on.
-/

namespace Dagens.Scheduler.RowAgreement

open Lib GuardedRun Lifecycle GoSupport Transitions StoreEffects Machine MachineMoves Wiring Ledger
  JobHistory List Option

variable {Input : Type} [GoRuntime Input]

/-- A JOB transition with the highest sequence number among those of the log. -/
structure LatestJobRecord (log : List TransitionRecord) (record : TransitionRecord) : Prop where
  member : record ∈ log
  isJob : record.entityType = .job
  highest : ∀ other ∈ log, other.entityType = .job → other.sequenceID ≤ record.sequenceID

instance (log : List TransitionRecord) (record : TransitionRecord) :
    Decidable (LatestJobRecord log record) :=
  decidable_of_iff (record ∈ log ∧ record.entityType = .job ∧
      ∀ other ∈ log, other.entityType = .job → other.sequenceID ≤ record.sequenceID)
    ⟨fun ⟨member, isJob, highest⟩ => ⟨member, isJob, highest⟩,
      fun latest => ⟨latest.member, latest.isJob, latest.highest⟩⟩

structure RowAgrees (row : DurableJobRecord) (log : List TransitionRecord) : Prop where
  state : ∀ record, LatestJobRecord log record → record.newState = jobStateText row.currentState
  covers : ∀ record ∈ log, record.sequenceID ≤ row.lastSequenceID

def RowsAgree (store : TransitionStore) : Prop :=
  ∀ jobID row, store.jobs.lookup jobID = some row → RowAgrees row (store.transitions jobID)

/-- A snapshot is committed while the job in the table still has the state that
the snapshot shows; the other accesses follow the history. -/
def snapshotCurrent (sched : Scheduler Input) : Access → Bool
  | .commit prepared none => prepared.write.snapshot.all fun row =>
    decide ((registeredJob sched row.jobID).map (·.lifecycleState) = some row.currentState)
  | access => tracksHistory sched access

variable {sched after : Scheduler Input} {jobID : String} {record : TransitionRecord}
  {store : TransitionStore} {job : DurableJobRecord} {machine : Machine Input}

def Covers (store : TransitionStore) : Prop :=
  ∀ jobID row, store.jobs.lookup jobID = some row →
    ∀ record ∈ store.transitions jobID, record.sequenceID ≤ row.lastSequenceID

variable {other : TransitionStore} {action : Action Input} {access : Access}

theorem eq_but_tasks (transitions : other.transitions = store.transitions)
    (jobs : other.jobs = store.jobs) : other = { store with tasks := other.tasks } := by
  cases other
  simp_all

theorem covers_appended (covers : Covers store) (record : TransitionRecord) :
    Covers (appended store record) := by
  intro jobID row found entry member
  rw [appended_jobs_lookup] at found
  rw [mem_appended] at member
  split_ifs at found with same
  · obtain ⟨old, present, rfl⟩ := map_eq_some_iff.mp found
    rcases member with logged | ⟨_, rfl⟩
    · exact (covers jobID old present entry logged).trans (le_max_left _ _)
    · exact le_max_right _ _
  · rcases member with logged | ⟨own, _⟩
    · exact covers jobID row found entry logged
    · exact absurd own same

theorem covers_upsert (covers : Covers store)
    (first : store.jobs.lookup job.jobID = none → ∀ record ∈ store.transitions job.jobID,
      record.sequenceID ≤ job.lastSequenceID) :
    Covers (upsertJob store job) := by
  intro jobID row found record member
  rw [upsert_job_lookup] at found
  rw [upsert_job_transitions] at member
  split_ifs at found with same
  · subst same
    cases found
    cases present : store.jobs.lookup job.jobID with
    | none => exact (first present record member).trans (le_max_right _ _)
    | some old =>
      exact (covers job.jobID old present record member).trans (le_max_left _ _)
  · exact covers jobID row found record member

theorem lookup_appended_none (missing : (appended store record).jobs.lookup jobID = none) :
    store.jobs.lookup jobID = none := by
  rw [appended_jobs_lookup] at missing
  split_ifs at missing with same
  · exact map_eq_none_iff.mp missing
  · exact missing

theorem lookup_upsert_none (missing : (upsertJob store job).jobs.lookup jobID = none) :
    jobID ≠ job.jobID ∧ store.jobs.lookup jobID = none := by
  rw [upsert_job_lookup] at missing
  split_ifs at missing with same
  exact ⟨same, missing⟩

theorem lookup_snapshot_none {snapshot : Option DurableJobRecord}
    (missing : (upsertSnapshot store snapshot).jobs.lookup jobID = none) :
    (∀ row, snapshot = some row → jobID ≠ row.jobID) ∧ store.jobs.lookup jobID = none := by
  cases snapshot with
  | none => exact ⟨by rintro _ ⟨⟩, missing⟩
  | some =>
    obtain ⟨other, before⟩ := lookup_upsert_none missing
    exact ⟨by rintro _ ⟨⟩; exact other, before⟩

/-- Writes prepared without a snapshot are older than those with one, and while
a job has no row, its writes with a snapshot are newer than the log. -/
structure Snapshots (machine : Machine Input) : Prop where
  older : ∀ bare full, Carries machine (.pending bare) → Carries machine (.pending full) →
    bare.write.record.jobID = full.write.record.jobID → bare.write.snapshot = none →
    full.write.snapshot.isSome → bare.write.record.sequenceID < full.write.record.sequenceID
  first : ∀ full, Carries machine (.pending full) → full.write.snapshot.isSome →
    machine.sched.store.jobs.lookup full.write.record.jobID = none →
    ∀ record ∈ machine.sched.store.transitions full.write.record.jobID,
      record.sequenceID < full.write.record.sequenceID

omit [GoRuntime Input] in
theorem bare_unknown {prepared : Prepared} (wired : Wired sched)
    (prepares : Prepares sched prepared after) :
    prepared.write.snapshot = none ↔ sched.jobs prepared.write.record.jobID = none := by
  obtain ⟨_, taken⟩ := prepares.snapshot
  rw [taken, durableJobSnapshot, map_eq_none_iff, registeredJob]
  cases entry : sched.jobs prepared.write.record.jobID with
  | none => simp
  | some ref =>
    obtain ⟨_, found, _⟩ := wired.entries _ ref entry
    simp [found]

omit [GoRuntime Input] in
theorem rowless_log (accesses : AccessSound sched access) (move : StoreMove sched access after)
    (missing : after.store.jobs.lookup jobID = none) :
    sched.store.jobs.lookup jobID = none ∧
      ∀ record ∈ after.store.transitions jobID, record ∈ sched.store.transitions jobID ∨
        ∃ bare, accessItem access = some (.pending bare) ∧ bare.write.snapshot = none ∧
          record = bare.write.record ∧ bare.write.record.jobID = jobID := by
  cases move with
  | unchanged _ store =>
    rw [store] at missing ⊢
    exact ⟨missing, fun record member => .inl member⟩
  | job _ _ _ _ _ _ _ _ _ store =>
    rw [store] at missing ⊢
    obtain ⟨other, logged⟩ := lookup_upsert_none missing
    refine ⟨lookup_appended_none logged, fun record member => ?_⟩
    rw [upsert_job_transitions, mem_appended] at member
    rcases member with old | ⟨own, _⟩
    · exact .inl old
    · exact absurd own other
  | task prepared _ _ _ _ transitions jobs =>
    have pending : PendingSound sched prepared := accesses _ rfl
    rw [jobs] at missing
    obtain ⟨others, logged⟩ := lookup_snapshot_none missing
    refine ⟨lookup_appended_none logged, fun record member => ?_⟩
    rw [transitions, mem_appended] at member
    rcases member with old | ⟨own, isNew⟩
    · exact .inl old
    · cases snapshot : prepared.write.snapshot with
      | none => exact .inr ⟨prepared, rfl, snapshot, isNew, own.symm⟩
      | some taken =>
        have same := (pending.snapshot taken snapshot).1
        exact absurd (own.trans same.symm) (others taken snapshot)
  | forced _ _ store =>
    rw [store] at missing ⊢
    exact ⟨(lookup_upsert_none missing).2, fun record member => .inl member⟩

theorem snapshots_step {after : Machine Input} (grounded : Grounded machine)
    (snapshots : Snapshots machine) (taken : machineStep machine action = some after) :
    Snapshots after := by
  obtain ⟨move, items⟩ := grounded_move grounded taken
  have counted : ∀ prepared, Carries machine (.pending prepared) →
      PendingSound machine.sched prepared := fun prepared carried => grounded.items _ carried
  refine ⟨?_, ?_⟩
  · intro bare full bareCarried fullCarried sameJob isBare isFull
    rcases items _ fullCarried with fullOld | fullNew
    · rcases items _ bareCarried with bareOld | bareNew
      · exact snapshots.older bare full bareOld fullOld sameJob isBare isFull
      · -- a write is prepared bare only while the table does not know the job
        obtain ⟨row, isRow⟩ := isSome_iff_exists.mp isFull
        have known := ((counted full fullOld).snapshot row isRow).2.2
        cases bareNew with
        | prepared _ prepares =>
          have unknown := (bare_unknown grounded.wired prepares).mp isBare
          simp [← sameJob, unknown] at known
    · cases fullNew with
      | prepared _ prepares =>
        rcases items _ bareCarried with bareOld | bareNew
        · have old := (counted bare bareOld).counted
          rw [prepares.sequence, nextSequence, ← sameJob]
          exact Nat.lt_succ_of_le old
        · cases bareNew with
          | prepared _ barePrepares =>
            have unknown := (bare_unknown grounded.wired barePrepares).mp isBare
            rw [sameJob] at unknown
            have isNone := (bare_unknown grounded.wired prepares).mpr unknown
            simp [isNone] at isFull
  · intro full carried isFull missing record member
    obtain ⟨before, log⟩ := rowless_log (grounded_access grounded action) (move_store move) missing
    rcases items _ carried with old | new
    · rcases log record member with logged | ⟨bare, uses, isBare, rfl, sameJob⟩
      · exact snapshots.first full old isFull before record logged
      · exact snapshots.older bare full (action_carries uses) old sameJob isBare isFull
    · cases new with
      | prepared _ prepares =>
        rw [prepares.sequence, nextSequence]
        refine Nat.lt_succ_of_le ?_
        rcases log record member with logged | ⟨bare, uses, _, rfl, sameJob⟩
        · exact (grounded.store.logs _).bounded record logged
        · rw [← sameJob]
          exact (counted bare (action_carries uses)).counted

theorem covers_step {after : Machine Input} (grounded : Grounded machine)
    (snapshots : Snapshots machine) (covers : Covers machine.sched.store)
    (tracks : tracksHistory machine.sched (actionAccess machine action) = true)
    (taken : machineStep machine action = some after) : Covers after.sched.store := by
  have store := move_store (grounded_move grounded taken).move
  have accesses := grounded_access grounded action
  have carries : ∀ item, accessItem (actionAccess machine action) = some item →
      Carries machine item := fun _ uses => action_carries uses
  generalize actionAccess machine action = access at store accesses carries tracks
  cases store with
  | unchanged _ store =>
    rw [store]
    exact covers
  | job _ job _ _ _ _ _ _ _ store =>
    rw [store]
    refine covers_upsert (covers_appended covers _) fun _ record member => ?_
    rw [mem_appended] at member
    rcases member with logged | ⟨_, rfl⟩
    · exact ((grounded.store.logs job.id).bounded record logged).trans (Nat.le_succ _)
    · exact le_rfl
  | task prepared _ row _ _ transitions jobs =>
    have pending : PendingSound machine.sched prepared := accesses _ rfl
    rw [eq_but_tasks (transitions.trans (upsert_snapshot_transitions ..).symm) jobs]
    cases snapshot : prepared.write.snapshot with
    | none => exact covers_appended covers _
    | some row =>
      obtain ⟨own, last, _⟩ := pending.snapshot row snapshot
      refine covers_upsert (covers_appended covers _) fun missing record member => ?_
      rw [own] at missing member
      rw [last]
      rw [mem_appended] at member
      rcases member with logged | ⟨_, rfl⟩
      · exact (snapshots.first prepared (carries _ rfl) (by simp [snapshot])
          (lookup_appended_none missing) record logged).le
      · exact le_rfl
  | forced => cases tracks

def LastStates (store : TransitionStore) : Prop :=
  ∀ jobID row record, store.jobs.lookup jobID = some row →
    lastJobRecord (store.transitions jobID) = some record →
    record.newState = jobStateText row.currentState

theorem last_states_appended (states : LastStates store)
    (sorted : SequencedLog.Sequenced TransitionRecord.sequenceID (store.transitions record.jobID))
    (entity : record.entityType = .task) : LastStates (appended store record) := by
  intro jobID row last found isLast
  rw [last_job_appended_task sorted entity] at isLast
  rw [appended_jobs_lookup] at found
  split_ifs at found with same
  · obtain ⟨old, present, rfl⟩ := map_eq_some_iff.mp found
    exact states jobID old last present isLast
  · exact states jobID row last found isLast

theorem last_states_upsert
    (others : ∀ jobID row record, jobID ≠ job.jobID → store.jobs.lookup jobID = some row →
      lastJobRecord (store.transitions jobID) = some record → record.newState = jobStateText
      row.currentState)
    (own : ∀ record, lastJobRecord (store.transitions job.jobID) = some record → record.newState =
      jobStateText job.currentState) : LastStates (upsertJob store job) := by
  intro jobID row record found isLast
  rw [upsert_job_transitions] at isLast
  rw [upsert_job_lookup] at found
  split_ifs at found with same
  · subst same
    cases found
    exact own record isLast
  · exact others jobID row record same found isLast

omit [GoRuntime Input] in
theorem last_states_move (sound : StoreSound sched) (accesses : AccessSound sched access)
    (memory : MemoryCurrent sched) (states : LastStates sched.store)
    (safe : snapshotCurrent sched access = true) (move : StoreMove sched access after) :
    LastStates after.store := by
  cases move with
  | unchanged _ store =>
    rw [store]
    exact states
  | job _ job transition newState errorSummary now _ _ _ store =>
    rw [store]
    set logged := jobRecord (nextSequence sched job.id) job transition newState errorSummary now
    refine last_states_upsert ?_ ?_
    · intro jobID row record other present isLast
      have elsewhere : jobID ≠ logged.jobID := other
      rw [appended_transitions, if_neg elsewhere] at isLast
      rw [appended_jobs_lookup, if_neg elsewhere] at present
      exact states jobID row record present isLast
    · intro record isLast
      have last := last_job_appended (sound.logs logged.jobID) rfl (Nat.lt_succ_self _)
      obtain rfl : logged = record := Option.some.inj (last.symm.trans isLast)
      rfl
  | task prepared _ row _ _ transitions jobs _ state =>
    have pending : PendingSound sched prepared := accesses _ rfl
    have logged := last_states_appended states (sound.logs _).sorted pending.entity
    rw [eq_but_tasks (transitions.trans (upsert_snapshot_transitions ..).symm) jobs]
    cases snapshot : prepared.write.snapshot with
    | none => exact logged
    | some row =>
      refine last_states_upsert (fun jobID row record _ => logged jobID row record) ?_
      intro record isLast
      have current : (registeredJob sched row.jobID).map (·.lifecycleState) =
          some row.currentState := by
        simpa [snapshotCurrent, snapshot] using safe
      obtain ⟨job, registered, state⟩ := map_eq_some_iff.mp current
      rw [last_job_appended_task (sound.logs _).sorted pending.entity] at isLast
      rw [← state]
      exact memory row.jobID job record registered isLast
  | forced => cases safe

structure RowsTracked (machine : Machine Input) : Prop extends Current machine where
  snapshots : Snapshots machine
  covers : Covers machine.sched.store
  states : LastStates machine.sched.store

theorem fresh_rows_tracked (machine : Machine Input) (fresh : Fresh machine) :
    RowsTracked machine := by
  have nothing := fresh_carries_nothing fresh
  refine ⟨fresh_current machine fresh, ⟨fun bare _ carried => absurd carried (nothing _),
    fun full carried => absurd carried (nothing _)⟩, ?_, ?_⟩ <;>
    obtain ⟨_, _, rfl⟩ := fresh
  · rintro _ _ _ _ ⟨⟩
  · rintro _ _ _ _ ⟨⟩

theorem rows_tracked_step (machine : Machine Input) (action : Action Input)
    (after : Machine Input) (tracked : RowsTracked machine)
    (safe : snapshotCurrent machine.sched (actionAccess machine action) = true)
    (taken : machineStep machine action = some after) : RowsTracked after := by
  have tracks : tracksHistory machine.sched (actionAccess machine action) = true := by
    revert safe
    cases actionAccess machine action <;> simp [snapshotCurrent, tracksHistory]
  have grounded := tracked.toGrounded
  exact ⟨current_step machine action after tracked.toCurrent tracks taken,
    snapshots_step grounded tracked.snapshots taken,
    covers_step grounded tracked.snapshots tracked.covers tracks taken,
    last_states_move tracked.store (grounded_access grounded action) tracked.memory
      tracked.states safe (move_store (grounded_move grounded taken).move)⟩

theorem rows_tracked_agree (tracked : RowsTracked machine) : RowsAgree machine.sched.store := by
  intro jobID row found
  refine ⟨fun record latest => ?_, tracked.covers jobID row found⟩
  refine tracked.states jobID row record found ?_
  have member : record ∈ jobRecords _ :=
    (mem_job_records _ record).mpr ⟨latest.member, latest.isJob⟩
  obtain ⟨_, back, split⟩ := append_of_mem member
  cases back with
  | nil => simp [lastJobRecord, split]
  | cons later =>
    -- a later job record would have a higher number
    have distinct := (tracked.store.logs jobID).distinct
    rw [split, pairwise_append] at distinct
    have higher := (pairwise_cons.mp distinct.2.1).1 later mem_cons_self
    have isLater := (mem_job_records (machine.sched.store.transitions jobID) later).mp
      (by simp [split])
    exact absurd (latest.highest later isLater.1 isLater.2) (not_le.mpr higher)

def twoTasksStarted : List (Action SampleInput) :=
  [.submit (sampleJob ["task-1", "task-2"])] ++ steps 0 8 ++ [.dequeue] ++ steps 1 11 ++
    [.thread 1 (.launch (.ok "node-1")), .thread 1 (.launch (.ok "node-2"))]

/-- The second goroutine takes its snapshot, the first one's claim moves the job
to RUNNING, and the second one commits. -/
def overtakenSnapshotRun : List (Action SampleInput) :=
  twoTasksStarted ++ works 1 1 1 answered ++ works 1 0 4 answered ++ works 1 1 1 answered

/-- The job record of the first claim, the last one of the log. -/
def runningRecord : TransitionRecord :=
  jobRecord 7 { sampleJob [] with lifecycleState := some .queued } .jobRunning .running "" 1

def claimsInTurnRun : List (Action SampleInput) :=
  twoTasksStarted ++ works 1 0 4 answered ++ works 1 1 4 answered

end Dagens.Scheduler.RowAgreement
