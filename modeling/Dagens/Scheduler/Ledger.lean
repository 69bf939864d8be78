import Dagens.Scheduler.Wiring

/-!
# The store under all runs

What every run keeps true of logs, rows and prepared writes, whatever fails and
whatever is interleaved: logs are sorted and hold records of their own job,
sequence numbers stay below the job's counter, job records are written with
strictly growing numbers, and a row belongs to a job the table knows.
-/

namespace Dagens.Scheduler.Ledger

open Lib GuardedRun Lifecycle GoSupport Replay Transitions StoreEffects Reconcile Operations Memory
  Machine MachineMoves Wiring List Option SequencedLog KeyedReplay

variable {Input : Type} [GoRuntime Input]

inductive StoreMove (sched : Scheduler Input) : Access → Scheduler Input → Prop where
  | unchanged (access : Access) {after : Scheduler Input} (store : after.store = sched.store) :
      StoreMove sched access after
  | job (ref : Nat) (job : Job Input) (transition : TransitionType)
      (newState : JobLifecycleState) (errorSummary : String) (now : Time)
      {after : Scheduler Input} (found : sched.objects ref = some job)
      (allowed : jobTransitionAllowed job.lifecycleState newState = true)
      (valid : Valid (jobRecord (nextSequence sched job.id) job transition newState errorSummary
        now))
      (store : after.store = upsertJob
        (appended sched.store (jobRecord (nextSequence sched job.id) job transition newState
          errorSummary now))
        (jobRow (nextSequence sched job.id) job (some newState) now))
      (counted : after.jobSequences job.id = nextSequence sched job.id)
      (jobs : after.jobs = sched.jobs)
      (objects : after.objects = Function.update sched.objects ref
        (some { job with lifecycleState := some newState })) :
      StoreMove sched (.jobTransition ref) after
  | task (prepared : Prepared) (task : Task Input) (row : DurableTaskRecord)
      {after : Scheduler Input}
      (found : objectTask sched prepared.ref prepared.position = some task)
      (valid : Valid prepared.write.record)
      (transitions : after.store.transitions =
        (appended sched.store prepared.write.record).transitions)
      (jobs : after.store.jobs =
        (upsertSnapshot (appended sched.store prepared.write.record)
          prepared.write.snapshot).jobs)
      (tasks : after.store.tasks = sched.store.tasks.insert task.id row)
      (state : row.currentState = some (if prepared.claims then .dispatched
        else prepared.write.newState))
      (owner : row.jobID = task.jobID)
      (keyed : RowsKeyed sched.store.tasks → row.taskID = task.id)
      (steady : Steady { sched with store := after.store } after) :
      StoreMove sched (.commit prepared none) after
  | forced {after : Scheduler Input} (row : DurableJobRecord) (now : Time)
      (store : after.store = upsertJob sched.store
        { row with currentState := some .failed, updatedAt := now }) :
      StoreMove sched (.force row) after

variable {store : TransitionStore} {sched after : Scheduler Input} {bound : Nat} {jobID : String}
  {log : List TransitionRecord} {record : TransitionRecord} {item : Item} {machine : Machine Input}
  {other : TransitionStore}

theorem upsert_snapshot_jobs_congr (same : store.jobs = other.jobs)
    (snapshot : Option DurableJobRecord) :
    (upsertSnapshot store snapshot).jobs = (upsertSnapshot other snapshot).jobs := by
  cases snapshot with
  | none => exact same
  | some => simp [upsertSnapshot, upsertJob, same]

omit [GoRuntime Input] in
theorem update_task_store (sched : Scheduler Input) (ref : Nat) (position : Position)
    (task : Task Input) : (updateTask sched ref position task).store = sched.store := by
  unfold updateTask
  split <;> rfl

omit [GoRuntime Input] in
theorem commit_steady {ref : Nat} {position : Position} {task : Task Input}
    (found : objectTask sched ref position = some task) (store : TransitionStore)
    (state : TaskLifecycleState) :
    let after := updateTask { sched with store := store } ref position
      { task with lifecycleState := some state }
    after.store = store ∧ Steady { sched with store := after.store } after := by
  have same := update_task_store { sched with store := store } ref position
    { task with lifecycleState := some state }
  have here : objectTask { sched with store := store } ref position = some task := found
  have unchanged : TaskKept task { task with lifecycleState := some state } := ⟨rfl, fun _ => rfl⟩
  have steady := steady_update_task here unchanged
  exact ⟨same, by rw [same]; exact steady⟩

variable {access : Access}

theorem move_store (move : SchedMove sched access after) :
    StoreMove sched access after := by
  cases move with
  | steady _ same | prepared _ same => exact .unchanged _ same.store
  | recorded ref transition newState errorSummary now fault =>
    rcases record_job_transition_cases sched ref transition newState errorSummary now fault with
      same | ⟨job, found, allowed, taken | ⟨_, row, rfl, rfl, valid, moved⟩⟩
    · rw [same]
      exact .unchanged _ rfl
    · rw [taken]
      exact .unchanged _ rfl
    · rw [moved]
      exact .job ref job transition newState _ now found allowed valid rfl
        (by simp [setObject, takeSequence]) rfl rfl
  | reported ref position task write found valid =>
    obtain ⟨store, steady⟩ := commit_steady found (taskCommitted task write sched.store)
      write.newState
    refine .task ⟨ref, position, false, write⟩ task (taskRow task write.record.nodeID
      write.newState write.record.attempt write.record.occurredAt) found valid ?_ ?_ ?_ rfl rfl
      (fun _ => rfl) steady <;> rw [store]
    · simp [taskCommitted]
    · exact upsert_snapshot_jobs_congr (upsert_task_jobs _ _) _
    · exact task_committed_tasks task write sched.store
  | claimed ref position task write found valid =>
    obtain ⟨store, steady⟩ := commit_steady found (claimCommitted task write sched.store)
      .dispatched
    refine .task ⟨ref, position, true, write⟩ task (claimedRow (claimOf task write)
      (sched.store.tasks.lookup task.id)) found valid ?_ ?_ ?_ ?_ ?_ ?_ steady
    · rw [store, claimCommitted, upsert_snapshot_transitions]
      rfl
    · rw [store, claimCommitted]
      refine upsert_snapshot_jobs_congr ?_ _
      rfl
    · rw [store]
      exact claim_committed_tasks task write sched.store
    · cases sched.store.tasks.lookup task.id <;> rfl
    · cases sched.store.tasks.lookup task.id <;> rfl
    · intro keyed
      cases existing : sched.store.tasks.lookup task.id with
      | none => rfl
      | some row => exact keyed task.id row existing
  | registered _ registers | warmed _ _ registers => exact .unchanged _ registers.store
  | linked | installed | caughtUp =>
    exact .unchanged _ rfl
  | forced _ row now =>
    unfold forceStep
    split
    · exact .unchanged _ rfl
    · dsimp only
      split
      · exact .unchanged _ rfl
      · exact .forced row now rfl

/-- The records of the job itself, in the order of the log. -/
def jobRecords (log : List TransitionRecord) : List TransitionRecord :=
  log.filter (KeyedReplay.concerns entityKey none)

theorem concerns_job (record : TransitionRecord) :
    concerns entityKey none record = true ↔ record.entityType = .job := by
  cases entity : record.entityType <;> simp [concerns, entityKey, entity]

theorem mem_job_records (log : List TransitionRecord) (record : TransitionRecord) :
    record ∈ jobRecords log ↔ record ∈ log ∧ record.entityType = .job := by
  simp [jobRecords, concerns_job]

structure LogSound (bound : Nat) (jobID : String) (log : List TransitionRecord) : Prop where
  sorted : SequencedLog.Sequenced TransitionRecord.sequenceID log
  filed : ∀ record ∈ log, Valid record ∧ record.jobID = jobID
  bounded : ∀ record ∈ log, record.sequenceID ≤ bound
  distinct : (jobRecords log).Pairwise fun first second => first.sequenceID < second.sequenceID

variable {larger : Nat}

theorem log_sound_mono (sound : LogSound bound jobID log) (le : bound ≤ larger) :
    LogSound larger jobID log :=
  ⟨sound.sorted, sound.filed, fun record member => (sound.bounded record member).trans le,
    sound.distinct⟩

section

variable (sorted : SequencedLog.Sequenced TransitionRecord.sequenceID log)

include sorted

theorem job_records_append (entity : record.entityType = .job)
    (newest : ∀ old ∈ log, old.sequenceID < record.sequenceID) :
    jobRecords (append TransitionRecord.sequenceID log record) =
      jobRecords log ++ [record] :=
  filter_append_newest _ _ log record sorted ((concerns_job record).mpr entity)
    fun old member _ => (newest old member).le

theorem job_records_append_task (entity : record.entityType = .task) :
    jobRecords (append TransitionRecord.sequenceID log record) = jobRecords log := by
  refine filter_append_other _ _ log record sorted ?_
  rw [Bool.eq_false_iff, Ne, concerns_job, entity]
  simp

end

theorem log_sound_append (sound : LogSound bound jobID log) (valid : Valid record)
    (owner : record.jobID = jobID) (le : bound ≤ larger) (counted : record.sequenceID ≤ larger)
    (order : record.entityType = .task ∨ bound < record.sequenceID) :
    LogSound larger jobID (append TransitionRecord.sequenceID log record) := by
  refine ⟨append_sequenced _ _ _, ?_, ?_, ?_⟩
  · intro other member
    rcases (SequencedLog.mem_append ..).mp member with old | rfl
    · exact sound.filed other old
    · exact ⟨valid, owner⟩
  · intro other member
    rcases (SequencedLog.mem_append ..).mp member with old | rfl
    · exact (sound.bounded other old).trans le
    · exact counted
  · rcases valid_entity valid with isJob | isTask
    · have newest : ∀ old ∈ log, old.sequenceID < record.sequenceID := by
        rcases order with task | later
        · simp [isJob] at task
        · exact fun old member => (sound.bounded old member).trans_lt later
      rw [job_records_append sound.sorted isJob newest, pairwise_append]
      refine ⟨sound.distinct, pairwise_singleton _ _, ?_⟩
      intro old oldMember _ lastMember
      rw [mem_singleton] at lastMember
      subst lastMember
      exact newest old ((mem_job_records log old).mp oldMember).1
    · rw [job_records_append_task sound.sorted isTask]
      exact sound.distinct

/-- A job the table knows, with a count that covers a sequence number. -/
structure Counted (sched : Scheduler Input) (jobID : String) (sequenceID : Nat) : Prop where
  known : (sched.jobs jobID).isSome
  covered : sequenceID ≤ sched.jobSequences jobID

structure PendingSound (sched : Scheduler Input) (prepared : Prepared) : Prop where
  entity : prepared.write.record.entityType = .task
  state : prepared.write.record.newState = prepared.write.newState.text
  claims : prepared.claims = true → prepared.write.newState = .dispatched
  counted : prepared.write.record.sequenceID ≤
    sched.jobSequences prepared.write.record.jobID
  snapshot : ∀ row, prepared.write.snapshot = some row →
    row.jobID = prepared.write.record.jobID ∧
      row.lastSequenceID = prepared.write.record.sequenceID ∧
      (sched.jobs prepared.write.record.jobID).isSome
  owner : ∃ task, objectTask sched prepared.ref prepared.position = some task ∧
    prepared.write.record.taskID = task.id ∧
    (prepared.write.record.jobID ≠ "" → prepared.write.record.jobID = task.jobID)

/-- Rows stand under their own job's id and within what the job has counted. -/
def RowsCounted (sched : Scheduler Input) (store : TransitionStore) : Prop :=
  ∀ jobID row, store.jobs.lookup jobID = some row →
    row.jobID = jobID ∧ Counted sched jobID row.lastSequenceID

structure StoreSound (sched : Scheduler Input) : Prop where
  logs : ∀ jobID, LogSound (sched.jobSequences jobID) jobID (sched.store.transitions jobID)
  jobsKnown : ∀ jobID, ∀ record ∈ sched.store.transitions jobID,
    record.entityType = .job → (sched.jobs jobID).isSome
  rows : RowsCounted sched sched.store
  tasks : RowsKeyed sched.store.tasks

/-- A read is of the job it was asked for, and its state is the one that the
records it has seen lead to. -/
structure ReadSound (jobID : String) (replayed : ReplayedJobState) : Prop where
  own : replayed.job.jobID = jobID
  state : KeyedReplay.replayOne follow none (jobRecords replayed.transitions) =
    some (replayed.job.currentState.map .job)

def ItemSound (sched : Scheduler Input) : Item → Prop
  | .pending prepared => PendingSound sched prepared
  | .reading jobID replayed => ReadSound jobID replayed
  | .warming replayed => Counted sched replayed.job.jobID replayed.job.lastSequenceID
  | .listing row => Counted sched row.jobID row.lastSequenceID

def AccessSound (sched : Scheduler Input) (access : Access) : Prop :=
  ∀ item, accessItem access = some item → ItemSound sched item

theorem counted_move {sequenceID : Nat} (wired : Wired sched)
    (move : SchedMove sched access after) (counted : Counted sched jobID sequenceID) :
    Counted after jobID sequenceID :=
  ⟨move_keeps_known wired move counted.known, counted.covered.trans (move_sequences move jobID)⟩

section

omit [GoRuntime Input]

theorem logs_move (sound : StoreSound sched) (accesses : AccessSound sched access)
    (sequences : ∀ jobID, sched.jobSequences jobID ≤ after.jobSequences jobID)
    (move : StoreMove sched access after) (jobID : String) :
    LogSound (after.jobSequences jobID) jobID (after.store.transitions jobID) := by
  cases move with
  | unchanged _ store =>
    rw [store]
    exact log_sound_mono (sound.logs jobID) (sequences jobID)
  | job _ job _ _ _ _ _ _ valid store counted =>
    rw [store, upsert_job_transitions, appended_transitions]
    split_ifs with same
    · have id : jobID = job.id := same
      subst id
      exact log_sound_append (sound.logs job.id) valid rfl (sequences job.id) counted.ge
        (.inr (Nat.lt_succ_self _))
    · exact log_sound_mono (sound.logs jobID) (sequences jobID)
  | task prepared _ _ _ valid transitions =>
    have pending : PendingSound sched prepared := accesses _ rfl
    rw [transitions, appended_transitions]
    split_ifs with same
    · subst same
      exact log_sound_append (sound.logs _) valid rfl (sequences _)
        (pending.counted.trans (sequences _)) (.inl pending.entity)
    · exact log_sound_mono (sound.logs jobID) (sequences jobID)
  | forced _ _ store =>
    rw [store, upsert_job_transitions]
    exact log_sound_mono (sound.logs jobID) (sequences jobID)

theorem log_members_move (accesses : AccessSound sched access)
    (move : StoreMove sched access after) (member : record ∈ after.store.transitions jobID) :
    record ∈ sched.store.transitions jobID ∨ record.entityType = .task ∨
      ∃ ref job, sched.objects ref = some job ∧ job.id = jobID := by
  cases move with
  | unchanged _ store => exact .inl (store ▸ member)
  | job ref job _ _ _ _ found _ _ store =>
    rw [store, upsert_job_transitions, mem_appended] at member
    rcases member with old | ⟨same, _⟩
    · exact .inl old
    · exact .inr (.inr ⟨ref, job, found, same.symm⟩)
  | task prepared _ _ _ _ transitions =>
    rw [transitions, mem_appended] at member
    rcases member with old | ⟨_, rfl⟩
    · exact .inl old
    · exact .inr (.inl (PendingSound.entity (accesses (.pending prepared) rfl)))
  | forced _ _ store =>
    rw [store, upsert_job_transitions] at member
    exact .inl member

theorem rows_counted_appended (rows : RowsCounted sched store)
    (covered : record.sequenceID ≤ sched.jobSequences record.jobID) :
    RowsCounted sched (appended store record) := by
  intro jobID row found
  rw [appended_jobs_lookup] at found
  split_ifs at found with same
  · obtain ⟨old, present, rfl⟩ := map_eq_some_iff.mp found
    obtain ⟨id, known, counted⟩ := rows jobID old present
    subst same
    exact ⟨id, known, max_le counted covered⟩
  · exact rows jobID row found

theorem rows_counted_upsert {job : DurableJobRecord} (rows : RowsCounted sched store)
    (counted : Counted sched job.jobID job.lastSequenceID) :
    RowsCounted sched (upsertJob store job) := by
  intro jobID row found
  rw [upsert_job_lookup] at found
  split_ifs at found with same
  · cases found
    subst same
    refine ⟨rfl, counted.known, max_le ?_ counted.covered⟩
    cases present : store.jobs.lookup job.jobID with
    | none => exact Nat.zero_le _
    | some old => exact (rows job.jobID old present).2.covered
  · exact rows jobID row found

theorem rows_counted_congr (same : other.jobs = store.jobs) (rows : RowsCounted sched store) :
    RowsCounted sched other := by
  intro jobID row found
  rw [same] at found
  exact rows jobID row found

end

section

variable (wired : Wired sched) (sound : StoreSound sched) (accesses : AccessSound sched access)
  (move : SchedMove sched access after)

include wired sound accesses move

theorem rows_move : RowsCounted after after.store := by
  have kept : RowsCounted after sched.store := fun jobID row found =>
    ⟨(sound.rows jobID row found).1, counted_move wired move (sound.rows jobID row found).2⟩
  have sequences := move_sequences move
  have known : ∀ jobID, (sched.jobs jobID).isSome → (after.jobs jobID).isSome := fun _ =>
    move_keeps_known wired move
  cases move_store move with
  | unchanged _ store =>
    rw [store]
    exact kept
  | job ref job _ _ _ _ found _ _ store counted =>
    rw [store]
    refine rows_counted_upsert (rows_counted_appended kept counted.ge)
      ⟨known _ (wired.heap ref job found), counted.ge⟩
  | task prepared _ _ _ _ _ jobs =>
    have pending : PendingSound sched prepared := accesses _ rfl
    have logged := rows_counted_appended kept (pending.counted.trans (sequences _))
    refine rows_counted_congr jobs ?_
    cases snapshot : prepared.write.snapshot with
    | none => exact logged
    | some taken =>
      obtain ⟨id, last, isKnown⟩ := pending.snapshot taken snapshot
      refine rows_counted_upsert logged ⟨?_, ?_⟩
      · rw [id]
        exact known _ isKnown
      · rw [id, last]
        exact pending.counted.trans (sequences _)
  | forced row _ store =>
    rw [store]
    exact rows_counted_upsert kept (counted_move wired move (accesses (.listing row) rfl))

theorem store_sound_move : StoreSound after := by
  have store := move_store move
  refine ⟨logs_move sound accesses (move_sequences move) store, ?_, rows_move wired sound accesses
    move, ?_⟩
  · intro jobID record member isJob
    rcases log_members_move accesses store member with old | isTask | ⟨ref, job, found, rfl⟩
    · exact move_keeps_known wired move (sound.jobsKnown jobID record old isJob)
    · simp [isJob] at isTask
    · exact move_keeps_known wired move (wired.heap ref job found)
  · cases store with
    | unchanged _ store | job _ _ _ _ _ _ _ _ _ store | forced _ _ store =>
      rw [store]
      exact sound.tasks
    | task _ _ row _ _ _ _ tasks _ _ keyed =>
      rw [tasks, ← keyed sound.tasks]
      exact rows_keyed_insert sound.tasks row

end

structure Grounded (machine : Machine Input) : Prop where
  wired : Wired machine.sched
  store : StoreSound machine.sched
  items : ∀ item, Carries machine item → ItemSound machine.sched item

omit [GoRuntime Input] in
theorem item_sound_kept (sequences : ∀ jobID, sched.jobSequences jobID ≤ after.jobSequences jobID)
    (known : ∀ jobID, (sched.jobs jobID).isSome → (after.jobs jobID).isSome)
    (objects : ∀ ref job, sched.objects ref = some job → ∃ later, after.objects ref = some later ∧
      Kept job later) (sound : ItemSound sched item) : ItemSound after item := by
  cases item with
  | pending =>
    obtain ⟨_, found, taskID, jobID⟩ := sound.owner
    obtain ⟨_, atRef, atPosition⟩ := bind_eq_some_iff.mp found
    obtain ⟨_, laterAtRef, kept⟩ := objects _ _ atRef
    obtain ⟨laterTask, laterAt, keptTask⟩ := rel_find (kept.tasks _) atPosition
    refine ⟨sound.entity, sound.state, sound.claims,
      sound.counted.trans (sequences _), ?_, laterTask, ?_, ?_, ?_⟩
    · intro row snapshot
      obtain ⟨id, last, isKnown⟩ := sound.snapshot row snapshot
      exact ⟨id, last, known _ isKnown⟩
    · simp [objectTask, laterAtRef, laterAt]
    · exact taskID.trans keptTask.id.symm
    · intro named
      have same := jobID named
      exact same.trans (keptTask.jobID (same ▸ named)).symm
  | reading => exact sound
  | warming | listing => exact ⟨known _ sound.known, sound.covered.trans (sequences _)⟩

theorem item_sound_move {access : Access} (wired : Wired sched)
    (move : SchedMove sched access after) (sound : ItemSound sched item) :
    ItemSound after item :=
  item_sound_kept (move_sequences move) (fun _ => move_keeps_known wired move)
    (fun _ _ => move_keeps_objects wired move) sound

theorem last_covered (sound : LogSound bound jobID log) :
    (log.getLast?.map (·.sequenceID)).getD 0 ≤ bound := by
  cases last : log.getLast? with
  | none => exact Nat.zero_le _
  | some record => exact sound.bounded record (mem_of_getLast? last)

theorem acquired_sound {held : Item → Prop} (wired : Wired sched)
    (sound : StoreSound sched) (items : ∀ item, held item → ItemSound sched item)
    (move : SchedMove sched access after) (acquired : Acquires held sched after item) :
    ItemSound after item := by
  cases acquired with
  | prepared _ prepares =>
    obtain ⟨task, found, taskID, jobID⟩ := prepares.owner
    refine ⟨prepares.entity, prepares.state, prepares.claims, prepares.counted.ge, ?_,
      task, found, taskID, fun _ => jobID⟩
    intro _ snapshot
    obtain ⟨_, taken⟩ := prepares.snapshot
    rw [snapshot] at taken
    obtain ⟨job, registered, rfl⟩ := map_eq_some_iff.mp taken.symm
    obtain ⟨ref, entry, object⟩ := bind_eq_some_iff.mp registered
    obtain ⟨same, found, id⟩ := wired.entries _ ref entry
    obtain rfl : same = job := Option.some.inj (found.symm.trans object)
    exact ⟨id, rfl, move_keeps_known wired move (by rw [entry]; rfl)⟩
  | read _ _ _ replays =>
    obtain ⟨accepted, own, _, log, _⟩ := replay_job_state_ok replays
    refine ⟨own, ?_⟩
    rw [log]
    exact replayed_control accepted none
  | replayed row raw _ listed replays =>
    obtain ⟨_, own, _, log, _⟩ := replay_job_state_ok replays
    have counted : Counted sched row.jobID row.lastSequenceID := items _ listed
    refine counted_move wired move ?_
    show Counted sched raw.job.jobID _
    rw [own]
    refine ⟨counted.known, max_le counted.covered ?_⟩
    rw [log]
    exact last_covered (sound.logs row.jobID)
  | listed _ member =>
    simp only [listUnfinishedJobs, mem_insertionSort, mem_filter, List.mem_map]
      at member
    obtain ⟨⟨⟨jobID, found⟩, entry, rfl⟩, _⟩ := member
    obtain ⟨id, counted⟩ := sound.rows jobID found (AList.mem_lookup_iff.mpr entry)
    refine counted_move wired move ?_
    show Counted sched found.jobID _
    rw [id]
    exact counted

theorem grounded_access (grounded : Grounded machine) (action : Action Input) :
    AccessSound machine.sched (actionAccess machine action) :=
  fun item uses => grounded.items item (action_carries uses)

theorem grounded_move {after : Machine Input} {action : Action Input} (grounded : Grounded machine)
    (taken : machineStep machine action = some after) :
    MachineMove machine action after :=
  machine_move (fun jobID replayed carried =>
    ReadSound.own (grounded.items (.reading jobID replayed) carried)) taken

theorem grounded_step (machine : Machine Input) (action : Action Input) (after : Machine Input)
    (grounded : Grounded machine) (taken : machineStep machine action = some after) :
    Grounded after := by
  obtain ⟨move, items⟩ := grounded_move grounded taken
  refine ⟨move_wired grounded.wired move, store_sound_move grounded.wired grounded.store
    (grounded_access grounded action) move, ?_⟩
  intro item carried
  rcases items item carried with old | acquired
  · exact item_sound_move grounded.wired move (grounded.items item old)
  · exact acquired_sound grounded.wired grounded.store grounded.items move acquired

theorem fresh_carries_nothing (fresh : Fresh machine) (item : Item) : ¬ Carries machine item := by
  obtain ⟨_, _, rfl⟩ := fresh
  rintro ⟨_, _, lives, _⟩
  simp [threadOf, newMachine] at lives

theorem fresh_grounded (machine : Machine Input) (fresh : Fresh machine) : Grounded machine := by
  have nothing := fresh_carries_nothing fresh
  obtain ⟨_, _, rfl⟩ := fresh
  refine ⟨⟨?_, ?_, ?_⟩, ⟨?_, ?_, ?_, ?_⟩, fun item carried => absurd carried (nothing item)⟩
  · intro jobID ref entry
    cases entry
  · intro ref _
    rfl
  · intro ref _ found
    cases found
  · intro jobID
    exact ⟨List.Pairwise.nil, by rintro _ ⟨⟩, by rintro _ ⟨⟩, List.Pairwise.nil⟩
  · rintro jobID _ ⟨⟩
  · intro jobID row found
    simp [newMachine, newScheduler, newTransitionStore] at found
  · intro _ row found
    simp [newMachine, newScheduler, newTransitionStore] at found

theorem reached_grounded {guard : Machine Input → Action Input → Prop}
    (reached : Reaches machineStep guard Fresh machine) : Grounded machine :=
  reaches_invariant fresh_grounded (fun machine action after grounded _ taken =>
      grounded_step machine action after grounded taken) reached

end Dagens.Scheduler.Ledger
