import Dagens.Scheduler.JobHistory

/-!
# Logs that can be replayed

Replay goes through a job's log entity by entity and refuses the first record
that is not a legal next state. The writers check legality against the objects
in memory. For the job itself these follow the log under the conditions of
`JobHistory`; for a task nothing in memory does, since a resume puts its tasks
back to PENDING whatever the log says. What does follow the log is the task's
row in the store, as long as every record is checked against it.
-/

namespace Dagens.Scheduler.ReplayableLog

open Lib KeyedReplay GuardedRun Lifecycle GoSupport Replay Transitions StoreEffects Operations
  Machine Ledger JobHistory Option

variable {Input : Type} [GoRuntime Input]

/-- Every job's log is accepted by replay. -/
def LogsReplay (store : TransitionStore) : Prop :=
  ∀ jobID, ∃ replayed, replayJobStateFromData none jobID (listTransitionsByJob store jobID)
    (listTasksByJob store jobID) = .ok replayed

/-- The task's row, if there is one, is of the same job and in a state that the
record may follow. -/
def rowAdmits (store : TransitionStore) (write : PendingWrite) : Bool :=
  (store.tasks.lookup write.record.taskID).all fun row =>
    decide (row.jobID = write.record.jobID) &&
      row.currentState.all (canTransitionTaskState · write.newState)

/-- No record of the same task in the job's log has a higher sequence number. -/
def numberedLast (store : TransitionStore) (record : TransitionRecord) : Bool :=
  (store.transitions record.jobID).all fun old =>
    decide (old.taskID = record.taskID → old.sequenceID ≤ record.sequenceID)

/-- Task records continue what the store has of their task, and the job's own
records what it has of the job. -/
def continuesHistory (sched : Scheduler Input) : Access → Bool
  | .commit prepared none =>
    rowAdmits sched.store prepared.write && numberedLast sched.store prepared.write.record
  | access => tracksHistory sched access

variable {store : TransitionStore} {write : PendingWrite} {sched : Scheduler Input}
  {record : TransitionRecord} {next : EntityState} {row : DurableTaskRecord}
  {last : TransitionRecord} {state : EntityState} {after : Scheduler Input} {access : Access}

theorem row_admits_iff (found : store.tasks.lookup write.record.taskID = some row) :
    rowAdmits store write = true ↔ row.jobID = write.record.jobID ∧
      ∀ state, row.currentState = some state →
        canTransitionTaskState state write.newState = true := by
  simp [rowAdmits, found, all_eq_true]

omit [GoRuntime Input] in
theorem continues_tracks (continues : continuesHistory sched access = true) :
    tracksHistory sched access = true := by
  cases access with
  | commit => rfl
  | _ => exact continues

def entityRecords (log : List TransitionRecord) (entity : Option String) :
    List TransitionRecord :=
  log.filter (concerns entityKey entity)

theorem replayed_is_last {records : List TransitionRecord} {state : Option EntityState}
    (replays : replayOne follow none records = some state) :
    state = records.getLast?.bind recordState := by
  cases last : records.getLast? with
  | none =>
    obtain rfl := List.getLast?_eq_none_iff.mp last
    cases replays
    rfl
  | some => exact (replay_one_last last replays).symm

/-- The records of every entity replay, and the row of a task is in the state
of the task's last record. -/
structure Followed (store : TransitionStore) : Prop where
  history : ∀ jobID entity,
    (replayOne follow none (entityRecords (store.transitions jobID) entity)).isSome
  rows : ∀ jobID taskID record,
    (entityRecords (store.transitions jobID) (some taskID)).getLast? = some record →
    ∃ row, store.tasks.lookup taskID = some row ∧ row.jobID = jobID ∧
      recordState record = row.currentState.map .task

section

variable
  (sorted : SequencedLog.Sequenced TransitionRecord.sequenceID (store.transitions record.jobID))
  (newest : ∀ old ∈ store.transitions record.jobID, entityKey old = entityKey record →
    old.sequenceID ≤ record.sequenceID) (jobID : String) (entity : Option String)

include sorted newest

theorem entity_records_appended :
    entityRecords ((appended store record).transitions jobID) entity =
      if jobID = record.jobID ∧ entityKey record = entity then
        entityRecords (store.transitions jobID) entity ++ [record]
      else entityRecords (store.transitions jobID) entity := by
  rw [appended_transitions]
  by_cases sameJob : jobID = record.jobID
  · subst sameJob
    rw [if_pos rfl]
    by_cases same : entityKey record = entity
    · subst same
      rw [if_pos ⟨rfl, rfl⟩]
      refine SequencedLog.filter_append_newest _ _ _ record sorted ?_ ?_
      · simp [concerns]
      · intro old member concerned
        exact newest old member (by simpa [concerns] using concerned)
    · rw [if_neg (fun both => same both.2)]
      refine SequencedLog.filter_append_other _ _ _ record sorted ?_
      simp [concerns, same]
  · rw [if_neg sameJob, if_neg (fun both => sameJob both.1)]

theorem history_appended (followed : Followed store) (isNext : recordState record = some next)
    (legal : ∀ last state, (entityRecords (store.transitions record.jobID) (entityKey
      record)).getLast? = some last → recordState last = some state → canFollow state next = true) :
    (replayOne follow none
      (entityRecords ((appended store record).transitions jobID) entity)).isSome := by
  rw [entity_records_appended sorted newest]
  split_ifs with own
  · obtain ⟨rfl, rfl⟩ := own
    obtain ⟨current, isCurrent⟩ := isSome_iff_exists.mp
      (followed.history record.jobID (entityKey record))
    have accepts : current.all (canFollow · next) = true := by
      rw [replayed_is_last isCurrent, all_eq_true]
      intro state isState
      obtain ⟨last, isLast, parsed⟩ := bind_eq_some_iff.mp isState
      exact legal last state isLast parsed
    rw [replay_one_append, isCurrent, bind_some]
    simp [follow, isNext, accepts]
  · exact followed.history jobID entity

end

omit [GoRuntime Input] in
theorem job_record_continues (current : MemoryCurrent sched) {ref : Nat} {job : Job Input}
    {newState : JobLifecycleState} (found : sched.objects ref = some job)
    (held : tableHolds sched ref = true)
    (allowed : jobTransitionAllowed job.lifecycleState newState = true)
    (isLast : lastJobRecord (sched.store.transitions job.id) = some last)
    (isState : recordState last = some state) : canFollow state (.job newState) = true := by
  have entry : sched.jobs job.id = some ref := by simpa [tableHolds, found] using held
  have text := current job.id job last (by simp [registeredJob, entry, found]) isLast
  have isJob := (last_job_record_mem isLast).2
  simp only [recordState, isJob, text, map_eq_some_iff] at isState
  obtain ⟨_, isParsed, rfl⟩ := isState
  cases before : job.lifecycleState with
  | none =>
    have unparsed : JobLifecycleState.parse (jobStateText none) = none := by decide
    rw [before, unparsed] at isParsed
    cases isParsed
  | some =>
    simp only [before, jobStateText, JobLifecycleState.parse_text] at isParsed
    cases isParsed
    simpa [before, jobTransitionAllowed, canFollow] using allowed

omit [GoRuntime Input] in
theorem followed_task {prepared : Prepared} {task : Task Input} (followed : Followed sched.store)
    (sound : StoreSound sched) (pending : PendingSound sched prepared)
    (found : objectTask sched prepared.ref prepared.position = some task)
    (valid : Valid prepared.write.record)
    (transitions : after.store.transitions = (appended sched.store
      prepared.write.record).transitions)
    (tasks : after.store.tasks = sched.store.tasks.insert task.id row)
    (state : row.currentState = some (if prepared.claims then .dispatched else
      prepared.write.newState)) (owner : row.jobID = task.jobID)
    (admits : rowAdmits sched.store prepared.write = true)
    (last : numberedLast sched.store prepared.write.record = true) : Followed after.store := by
  set record := prepared.write.record with isRecord
  have newest : ∀ old ∈ sched.store.transitions record.jobID, entityKey old = entityKey record →
      old.sequenceID ≤ record.sequenceID := by
    intro old member same
    simp only [numberedLast, List.all_eq_true, decide_eq_true_eq] at last
    refine last old member ?_
    simp only [entityKey, record, pending.entity] at same
    split at same
    · cases same
    · exact Option.some.inj same
  have sorted := (sound.logs record.jobID).sorted
  have isNext : recordState record = some (.task prepared.write.newState) := by
    simp [recordState, record, pending.entity, pending.state]
  have isKey : entityKey record = some record.taskID := by simp [entityKey, pending.entity, record]
  obtain ⟨owned, atPlace, named, ofJob⟩ := pending.owner
  obtain rfl : task = owned := Option.some.inj (found.symm.trans atPlace)
  have hasJob : record.jobID ≠ "" := ((valid_iff record).mp valid).2.1
  have moved : row.currentState = some prepared.write.newState := by
    rw [state]
    split_ifs with claims
    · rw [pending.claims claims]
    · rfl
  refine ⟨fun jobID entity => ?_, fun jobID taskID final isFinal => ?_⟩
  · rw [transitions]
    refine history_appended sorted newest jobID entity followed isNext ?_
    intro _ _ isBefore isCurrent
    rw [isKey] at isBefore
    obtain ⟨_, found, _, agrees⟩ := followed.rows _ _ _ isBefore
    rw [isCurrent] at agrees
    obtain ⟨current, isState, rfl⟩ := map_eq_some_iff.mp agrees.symm
    exact ((row_admits_iff found).mp admits).2 current isState
  · rw [transitions, entity_records_appended sorted newest, isKey] at isFinal
    rw [tasks]
    by_cases sameTask : taskID = task.id
    · subst sameTask
      rw [AList.lookup_insert]
      split_ifs at isFinal with own
      · rw [List.getLast?_concat, Option.some.injEq] at isFinal
        subst isFinal
        refine ⟨row, rfl, ?_, ?_⟩
        · rw [owner, ← ofJob hasJob, own.1]
        · rw [isNext, moved]
          rfl
      · -- Another job's log with records of this task: its row would be that job's.
        obtain ⟨_, isOld, ofOther, _⟩ := followed.rows jobID _ final isFinal
        have ofJob := (row_admits_iff (by rw [← isRecord, named]; exact isOld)).mp admits
        exact absurd ⟨ofOther.symm.trans ofJob.1, by rw [named]⟩ own
    · rw [AList.lookup_insert_ne sameTask]
      rw [if_neg] at isFinal
      · exact followed.rows jobID taskID final isFinal
      · rintro ⟨_, same⟩
        exact sameTask ((Option.some.inj same).symm.trans named)

omit [GoRuntime Input] in
theorem followed_move (current : MemoryCurrent sched) (sound : StoreSound sched)
    (accesses : AccessSound sched access) (followed : Followed sched.store)
    (continues : continuesHistory sched access = true) (move : StoreMove sched access after) :
    Followed after.store := by
  cases move with
  | unchanged _ store =>
    rw [store]
    exact followed
  | job ref job transition newState errorSummary now found allowed _ store =>
    have held : tableHolds sched ref = true := continues
    set record := jobRecord (nextSequence sched job.id) job transition newState errorSummary now
    have sorted := (sound.logs record.jobID).sorted
    have newest : ∀ old ∈ sched.store.transitions record.jobID,
        entityKey old = entityKey record → old.sequenceID ≤ record.sequenceID := by
      intro old member _
      exact ((sound.logs record.jobID).bounded old member).trans (Nat.le_succ _)
    have isNext : recordState record = some (.job newState) := by
      simp [recordState, record, jobRecord]
    rw [store]
    refine ⟨fun jobID entity => ?_, fun jobID taskID final isFinal => ?_⟩
    · rw [upsert_job_transitions]
      refine history_appended sorted newest jobID entity followed isNext ?_
      exact fun last state => job_record_continues current found held allowed
    · rw [upsert_job_transitions, entity_records_appended sorted newest, if_neg] at isFinal
      · exact followed.rows jobID taskID final isFinal
      · rintro ⟨_, same⟩
        cases same
  | task prepared _ _ found valid transitions _ tasks state owner =>
    simp only [continuesHistory, Bool.and_eq_true] at continues
    exact followed_task followed sound (accesses (.pending prepared) rfl) found valid transitions
      tasks state owner continues.1 continues.2
  | forced => cases continues

structure Continued (machine : Machine Input) : Prop extends Current machine where
  followed : Followed machine.sched.store

theorem fresh_continued (machine : Machine Input) (fresh : Fresh machine) : Continued machine := by
  refine ⟨fresh_current machine fresh, ?_⟩
  obtain ⟨_, _, rfl⟩ := fresh
  refine ⟨fun jobID entity => rfl, fun jobID taskID record isLast => ?_⟩
  cases isLast

theorem continued_step (machine : Machine Input) (action : Action Input) (after : Machine Input)
    (continued : Continued machine)
    (continues : continuesHistory machine.sched (actionAccess machine action) = true)
    (taken : machineStep machine action = some after) : Continued after :=
  ⟨current_step machine action after continued.toCurrent (continues_tracks continues) taken,
    followed_move continued.memory continued.store
      (grounded_access continued.toGrounded action) continued.followed continues
      (move_store (grounded_move continued.toGrounded taken).move)⟩

/-- In a run in which every task record continues the stored row and log of its
task, and every job record the job's log, all logs can be replayed. -/
theorem logs_replay_while_continued (machine : Machine Input)
    (reached : Reaches machineStep
      (fun before action => continuesHistory before.sched (actionAccess before action) = true)
      Fresh machine) : LogsReplay machine.sched.store := by
  have continued : Continued machine := reaches_invariant fresh_continued continued_step reached
  intro jobID
  rw [replay_accepts_iff]
  exact ⟨(continued.store.logs jobID).filed, continued.followed.history jobID⟩

def paused : Goroutine.Answers :=
  { answered with executor := some ⟨"human interaction pending", false, false⟩ }

/-- The only task of a job asks for a human, and the job waits. -/
def pausedRun : List (Action SampleInput) :=
  [.submit (sampleJob ["task-1"])] ++ steps 0 6 ++ [.dequeue] ++ steps 1 11 ++
    [.thread 1 (.launch (.ok "node-1"))] ++ works 1 0 13 paused ++
    [.thread 1 (.report 0 false)] ++ steps 1 3

theorem paused_job_replays :
    ∃ machine, run machineStep sampleMachine pausedRun = some machine ∧
      LogsReplay machine.sched.store := by
  have ends : (run machineStep sampleMachine pausedRun).isSome := by decide +kernel
  obtain ⟨machine, ran⟩ := isSome_iff_exists.mp ends
  refine ⟨machine, ran, logs_replay_while_continued machine ?_⟩
  exact reaches_of_run (.start sample_fresh) pausedRun (by decide +kernel) ran

/-- The answer comes and the job is resumed; the task, FAILED in the log and
PENDING in memory, is dispatched again. -/
def resumedRun : List (Action SampleInput) :=
  pausedRun ++ [.resume "job-1" [("decision", ())]] ++ steps 2 9 ++
    [.thread 2 (.launch (.ok "node-1"))] ++ works 2 0 5 answered

def replayFails (store : TransitionStore) (jobID : String) : Bool :=
  match replayJobStateFromData none jobID (listTransitionsByJob store jobID)
      (listTasksByJob store jobID) with
  | .ok _ => false
  | .error _ => true

theorem resumed_job_not_replayable :
    ∃ machine, run machineStep sampleMachine resumedRun = some machine ∧
      replayFails machine.sched.store "job-1" = true ∧ ¬ LogsReplay machine.sched.store := by
  have ends : (run machineStep sampleMachine resumedRun).any
      (fun machine => replayFails machine.sched.store "job-1") = true := by decide +kernel
  obtain ⟨machine, ran, fails⟩ := (any_eq_true _ _).mp ends
  refine ⟨machine, ran, fails, fun replays => ?_⟩
  obtain ⟨_, accepted⟩ := replays "job-1"
  simp [replayFails, accepted] at fails

end Dagens.Scheduler.ReplayableLog
