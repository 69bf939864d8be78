import Dagens.Scheduler.Replay

/-!
# What an accepted history leaves behind

The view of a replay has the last recorded state of each entity, the highest
attempt of each task and the payload of its durable row. Replay compares a new
state with the state before it, but not the recorded previous state, and takes
any first state.
-/

namespace Dagens.Scheduler.ReplayedHistory

open Lib.KeyedReplay Lifecycle Replay List

variable {jobID : String} {replayed next after : ReplayedJobState} {record : TransitionRecord}
  {records : List TransitionRecord}

/-- The last durable row of a task, as the seeding leaves it. -/
def durableRow (rows : List DurableTaskRecord) (taskID : String) : DurableTaskRecord :=
  (rows.reverse.find? fun row => decide (row.taskID = taskID)).getD absentTask

def recordsOf (transitions : List TransitionRecord) (entity : Option String) :
    List TransitionRecord :=
  transitions.filter (concerns entityKey entity)

structure Rebuilt (transitions : List TransitionRecord) (rows : List DurableTaskRecord)
    (replayed : ReplayedJobState) : Prop where
  states : ∀ entity, controlState replayed entity =
    (recordsOf transitions entity).getLast?.bind recordState
  attempts : ∀ taskID row, replayed.tasks.lookup taskID = some row →
    row.lastAttempt = ((recordsOf transitions (some taskID)).map (·.attempt)).foldl max 0
  payloads : ∀ taskID row, replayed.tasks.lookup taskID = some row →
    payload row = payload (durableRow rows taskID)

theorem last_state {final : Option EntityState}
    (accepted : replayOne follow none records = some final) :
    final = records.getLast?.bind recordState := by
  induction records using List.reverseRecOn with
  | nil =>
    cases accepted
    rfl
  | append_singleton =>
    rw [replay_one_append, Option.bind_eq_some_iff] at accepted
    obtain ⟨_, _, follows⟩ := accepted
    rw [getLast?_concat, Option.bind_some]
    unfold follow at follows
    split at follows
    · cases follows
    · rename_i state read
      split_ifs at follows
      cases follows
      exact read.symm

/-- The row of a task, or the zero row that the map lookup yields. -/
def seen (replayed : ReplayedJobState) (taskID : String) : DurableTaskRecord :=
  (replayed.tasks.lookup taskID).getD absentTask

theorem seen_step (taskID : String) (applied : applyRecord jobID replayed record = .ok next) :
    (seen next taskID).lastAttempt = (if concerns entityKey (some taskID) record then
        max (seen replayed taskID).lastAttempt record.attempt
      else (seen replayed taskID).lastAttempt) ∧
      payload (seen next taskID) = payload (seen replayed taskID) := by
  obtain ⟨valid, _⟩ := apply_record_ok applied
  obtain ⟨_, _, _, _, ⟨other, same⟩ | ⟨entity, _, inserted⟩⟩ := apply_record_rows applied
  · have isJob := (valid_entity valid).resolve_right other
    simp [seen, same, concerns, entityKey, isJob]
  · by_cases same : record.taskID = taskID
    · subst same
      simp [seen, inserted, concerns, entityKey, entity, taskAfterRecord, payload]
    · simp [seen, inserted, concerns, entityKey, entity, same,
        AList.lookup_insert_ne (Ne.symm same)]

theorem seen_run (taskID : String)
    (accepted : replayRecords none jobID replayed records = .ok after) :
    (seen after taskID).lastAttempt = ((recordsOf records (some taskID)).map (·.attempt)).foldl max
        (seen replayed taskID).lastAttempt ∧
      payload (seen after taskID) = payload (seen replayed taskID) := by
  induction records generalizing replayed with
  | nil =>
    cases accepted
    exact ⟨rfl, rfl⟩
  | cons _ _ ih =>
    simp only [replayRecords] at accepted
    split at accepted
    · cases accepted
    · rename_i next applied
      obtain ⟨attempt, kept⟩ := seen_step taskID applied
      obtain ⟨attempts, keptRest⟩ := ih accepted
      refine ⟨?_, keptRest.trans kept⟩
      rw [attempts, attempt, recordsOf, recordsOf, filter_cons]
      split_ifs <;> rfl

theorem seeded_row (rows : List DurableTaskRecord) (taskID : String) :
    ((seedTasks rows).lookup taskID).getD absentTask = seededTask (durableRow rows taskID) := by
  induction rows using List.reverseRecOn with
  | nil => rfl
  | append_singleton _ last ih =>
    rw [seedTasks, foldl_append, ← seedTasks, durableRow, reverse_concat]
    by_cases same : last.taskID = taskID
    · subst same
      simp
    · rw [find?_cons_of_neg (by simpa using same), ← durableRow, ← ih, foldl_cons, foldl_nil,
        AList.lookup_insert_ne (Ne.symm same)]

/-- Replay accepts the replayable histories and rebuilds each entity from its own
records. -/
theorem replay_rebuilds (jobID : String) (transitions : List TransitionRecord)
    (rows : List DurableTaskRecord) :
    ((∃ replayed, replayJobStateFromData none jobID transitions rows = .ok replayed) ↔
        Replayable jobID transitions) ∧
      ∀ replayed, replayJobStateFromData none jobID transitions rows = .ok replayed →
        Rebuilt transitions rows replayed := by
  refine ⟨replay_accepts_iff jobID transitions rows, fun replayed accepted => ?_⟩
  have start (taskID : String) :
      seen (replayStart jobID transitions rows) taskID = seededTask (durableRow rows taskID) :=
    seeded_row rows taskID
  refine ⟨fun entity => last_state (replayed_control accepted entity), ?_, ?_⟩
  · intro taskID row found
    have attempts := (seen_run taskID accepted).1
    rw [start] at attempts
    simpa [seen, found, seededTask] using attempts
  · intro taskID row found
    have kept := (seen_run taskID accepted).2
    rw [start] at kept
    simpa [seen, found, seededTask, payload] using kept

def jobRecordFrom (sequenceID : Nat) (previousState newState : String) : TransitionRecord where
  sequenceID := sequenceID
  entityType := .job
  transition := .jobQueued
  jobID := "job-1"
  taskID := ""
  previousState := previousState
  newState := newState
  nodeID := ""
  attempt := 0
  errorSummary := ""
  occurredAt := 1

/-- A history that begins QUEUED is accepted, and so is one whose last record claims
to leave SUBMITTED where QUEUED was reached. -/
theorem unchecked_previous_accepted :
    (∃ replayed, replayJobStateFromData none "job-1"
        [jobRecordFrom 1 "SUBMITTED" "QUEUED"] [] = .ok replayed) ∧
      ∃ replayed, replayJobStateFromData none "job-1"
        [jobRecordFrom 1 "" "SUBMITTED", jobRecordFrom 2 "SUBMITTED" "QUEUED",
          jobRecordFrom 3 "SUBMITTED" "RUNNING"] [] = .ok replayed :=
  ⟨⟨_, rfl⟩, _, rfl⟩

theorem queued_history_rebuilt : ∃ replayed, replayJobStateFromData none "job-1"
    [jobRecordFrom 1 "" "SUBMITTED"] [] = .ok replayed ∧
      Rebuilt [jobRecordFrom 1 "" "SUBMITTED"] [] replayed :=
  ⟨_, rfl, (replay_rebuilds "job-1" [jobRecordFrom 1 "" "SUBMITTED"] []).2 _ rfl⟩

end Dagens.Scheduler.ReplayedHistory
