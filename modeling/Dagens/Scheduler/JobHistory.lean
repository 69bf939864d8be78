import Dagens.Scheduler.Ledger

/-!
# Memory that follows the job's history

The writers of job transitions check legality against the object they hold.
That object speaks for the history only while it is the one in the job table,
while a refresh installs what the log says at that moment, and while no state
is forced past the log. Under these three conditions the table's object always
has the state of the job's last record.
-/

namespace Dagens.Scheduler.JobHistory

open Lib Lifecycle GoSupport Replay Recovery Transitions StoreEffects Memory Machine MachineMoves
  Wiring Ledger Function Option

variable {Input : Type} [GoRuntime Input]

/-- The object is the one its job's table entry points to. -/
def tableHolds (sched : Scheduler Input) (ref : Nat) : Bool :=
  (sched.objects ref).all fun job => decide (sched.jobs job.id = some ref)

/-- A job transition is recorded for the table's object, a refresh installs a
read that no record has overtaken, and no quarantine is forced. -/
def tracksHistory (sched : Scheduler Input) : Access → Bool
  | .jobTransition ref => tableHolds sched ref
  | .install jobID replayed => decide (replayed.transitions = sched.store.transitions jobID)
  | .force _ => false
  | _ => true

def lastJobRecord (log : List TransitionRecord) : Option TransitionRecord :=
  (jobRecords log).getLast?

/-- The table's object of every job has the state of the job's last record. -/
def MemoryCurrent (sched : Scheduler Input) : Prop :=
  ∀ jobID job record, registeredJob sched jobID = some job →
    lastJobRecord (sched.store.transitions jobID) = some record →
    record.newState = jobStateText job.lifecycleState

variable {record : TransitionRecord} {jobID : String} {after sched : Scheduler Input}
  {job : Job Input}

theorem replay_one_last {records : List TransitionRecord} {state : Option EntityState}
    (last : records.getLast? = some record)
    (replays : KeyedReplay.replayOne follow none records = some state) :
    recordState record = state := by
  obtain ⟨_, rfl⟩ := List.getLast?_eq_some_iff.mp last
  rw [KeyedReplay.replay_one_append] at replays
  obtain ⟨_, _, stepped⟩ := bind_eq_some_iff.mp replays
  unfold follow at stepped
  split at stepped
  · cases stepped
  · rename_i next isNext
    split_ifs at stepped
    cases stepped
    exact isNext

theorem job_record_state {state : Option JobLifecycleState} (entity : record.entityType = .job)
    (valid : Valid record) (same : recordState record = state.map .job) :
    record.newState = jobStateText state := by
  obtain ⟨_, isParsed⟩ := valid_job_new_state valid entity
  simp only [recordState, entity, isParsed, map_some] at same
  cases state with
  | none => cases same
  | some =>
    cases same
    have found := List.find?_some isParsed
    simpa [jobStateText, eq_comm] using found

theorem last_job_record_mem {log : List TransitionRecord} (last : lastJobRecord log = some record) :
    record ∈ log ∧ record.entityType = .job :=
  (mem_job_records log record).mp (List.mem_of_getLast? last)

variable {store : TransitionStore} {bound : Nat} {before : Scheduler Input}

theorem last_job_appended (sound : LogSound bound record.jobID (store.transitions record.jobID))
    (entity : record.entityType = .job) (next : bound < record.sequenceID) :
    lastJobRecord ((appended store record).transitions record.jobID) = some record := by
  have newest : ∀ old ∈ store.transitions record.jobID, old.sequenceID < record.sequenceID :=
    fun old member => (sound.bounded old member).trans_lt next
  rw [appended_transitions, if_pos rfl, lastJobRecord,
    job_records_append sound.sorted entity newest, List.getLast?_concat]

theorem last_job_appended_task
    (sorted : SequencedLog.Sequenced TransitionRecord.sequenceID (store.transitions record.jobID))
    (entity : record.entityType = .task) (jobID : String) :
    lastJobRecord ((appended store record).transitions jobID) =
      lastJobRecord (store.transitions jobID) := by
  rw [appended_transitions]
  split_ifs with same
  · rw [lastJobRecord, job_records_append_task sorted entity, lastJobRecord, same]
  · rfl

omit [GoRuntime Input] in
theorem registered_places {placed : Job Input} (wired : Wired before)
    (places : Places before placed after) (registered : registeredJob after jobID = some job) :
    (jobID = placed.id ∧ job = placed) ∨
      jobID ≠ placed.id ∧ registeredJob before jobID = some job := by
  simp only [registeredJob, places.jobs, places.objects] at registered ⊢
  by_cases same : jobID = placed.id
  · subst same
    simp only [update_self, bind_some, Option.some.injEq] at registered
    exact .inl ⟨rfl, registered.symm⟩
  · rw [update_of_ne same] at registered
    obtain ⟨ref, entry, found⟩ := bind_eq_some_iff.mp registered
    have older : ref ≠ before.nextRef := by
      rintro rfl
      obtain ⟨_, present, _⟩ := wired.entries jobID _ entry
      rw [wired.unused _ le_rfl] at present
      cases present
    rw [update_of_ne older] at found
    exact .inr ⟨same, by simp [entry, found]⟩

section

omit [GoRuntime Input]

theorem memory_current_same (current : MemoryCurrent sched) (jobs : after.jobs = sched.jobs)
    (objects : ∀ ref, Option.Rel Unmoved (sched.objects ref) (after.objects ref))
    (logs : ∀ jobID, lastJobRecord (after.store.transitions jobID) = lastJobRecord
      (sched.store.transitions jobID)) : MemoryCurrent after := by
  intro jobID _ record registered last
  obtain ⟨ref, entry, found⟩ := bind_eq_some_iff.mp registered
  have related := objects ref
  rw [found] at related
  rw [jobs] at entry
  cases earlier : sched.objects ref with
  | none =>
    rw [earlier] at related
    cases related
  | some old =>
    rw [earlier] at related
    cases related with
    | some same =>
      rw [same.state]
      exact current jobID old record (by simp [registeredJob, entry, earlier]) (logs jobID ▸ last)

theorem memory_current_task (sound : StoreSound sched) (current : MemoryCurrent sched)
    (entity : record.entityType = .task)
    (transitions : after.store.transitions = (appended sched.store record).transitions)
    (steady : Steady { sched with store := after.store } after) : MemoryCurrent after := by
  refine memory_current_same current steady.jobs steady.objects fun jobID => ?_
  rw [transitions, last_job_appended_task (sound.logs _).sorted entity]

theorem memory_current_places {placed : Job Input} (wired : Wired sched)
    (current : MemoryCurrent sched) (places : Places sched placed after)
    (store : after.store = sched.store)
    (agrees : ∀ record, lastJobRecord (sched.store.transitions placed.id) = some record →
      record.newState = jobStateText placed.lifecycleState) : MemoryCurrent after := by
  intro jobID job record registered last
  rw [store] at last
  rcases registered_places wired places registered with ⟨rfl, rfl⟩ | ⟨_, before⟩
  · exact agrees record last
  · exact current jobID job record before last

theorem memory_current_recorded {ref : Nat} (wired : Wired sched) (sound : StoreSound sched)
    (current : MemoryCurrent sched) (held : tableHolds sched ref = true)
    {newState : JobLifecycleState} (found : sched.objects ref = some job)
    (entity : record.entityType = .job) (owner : record.jobID = job.id)
    (numbered : record.sequenceID = nextSequence sched job.id)
    (moved : record.newState = newState.text)
    (transitions : after.store.transitions = (appended sched.store record).transitions)
    (jobs : after.jobs = sched.jobs)
    (objects : after.objects = update sched.objects ref
      (some { job with lifecycleState := some newState })) : MemoryCurrent after := by
  have entry : sched.jobs job.id = some ref := by
    simpa [tableHolds, found] using held
  intro jobID registered last isRegistered isLast
  rw [transitions] at isLast
  simp only [registeredJob, jobs, objects] at isRegistered
  by_cases same : jobID = job.id
  · subst same
    rw [← owner, last_job_appended (sound.logs record.jobID) entity
      (by rw [numbered, owner]; exact Nat.lt_succ_self _)] at isLast
    obtain rfl : record = last := Option.some.inj isLast
    rw [entry] at isRegistered
    obtain rfl : { job with lifecycleState := some newState } = registered := by
      simpa using isRegistered
    exact moved
  · rw [appended_transitions, owner, if_neg same] at isLast
    obtain ⟨other, otherEntry, object⟩ := bind_eq_some_iff.mp isRegistered
    have elsewhere : other ≠ ref := by
      rintro rfl
      obtain ⟨_, present, id⟩ := wired.entries jobID other otherEntry
      rw [found, Option.some.injEq] at present
      exact same (id.symm.trans (congrArg Job.id present.symm))
    rw [update_of_ne elsewhere] at object
    exact current jobID registered last (by simp [registeredJob, otherEntry, object]) isLast

end

theorem memory_current_move {access : Access} (wired : Wired sched) (sound : StoreSound sched)
    (current : MemoryCurrent sched) (accesses : AccessSound sched access)
    (tracks : tracksHistory sched access = true) (move : SchedMove sched access after) :
    MemoryCurrent after := by
  have unknown : ∀ jobID record, sched.jobs jobID = none →
      lastJobRecord (sched.store.transitions jobID) ≠ some record := by
    intro jobID record isUnknown last
    obtain ⟨member, isJob⟩ := last_job_record_mem last
    have known := sound.jobsKnown jobID record member isJob
    simp [isUnknown] at known
  cases move with
  | steady _ same =>
    exact memory_current_same current same.jobs same.objects fun _ => by rw [same.store]
  | prepared _ same =>
    exact memory_current_same current same.jobs same.objects fun _ =>
      congrArg (fun store => lastJobRecord (TransitionStore.transitions store _)) same.store
  | recorded ref transition newState errorSummary now fault =>
    rcases record_job_transition_cases sched ref transition newState errorSummary now fault with
      same | ⟨job, found, _, taken | ⟨record, _, rfl, rfl, _, moved⟩⟩
    · rw [same]
      exact current
    · rw [taken]
      exact current
    · rw [moved]
      exact memory_current_recorded wired sound current tracks found rfl rfl rfl rfl rfl rfl rfl
  | reported ref position task write found =>
    obtain ⟨store, steady⟩ := commit_steady found (taskCommitted task write sched.store)
      write.newState
    refine memory_current_task sound current
      (PendingSound.entity (accesses (.pending ⟨ref, position, false, write⟩) rfl)) ?_ steady
    rw [store]
    simp [taskCommitted]
  | claimed ref position task write found =>
    obtain ⟨store, steady⟩ := commit_steady found (claimCommitted task write sched.store)
      .dispatched
    refine memory_current_task sound current
      (PendingSound.entity (accesses (.pending ⟨ref, position, true, write⟩) rfl)) ?_ steady
    rw [store, claimCommitted, upsert_snapshot_transitions]
    rfl
  | registered _ registers | warmed _ _ registers =>
    exact memory_current_places wired current (registers_places registers) registers.store
      fun record last => absurd last (unknown _ record registers.unknown)
  | linked ref job found isUnknown =>
    have known := wired.heap ref job found
    simp [isUnknown] at known
  | installed jobID replayed rows =>
    have read : ReadSound jobID replayed := accesses _ rfl
    have latest : replayed.transitions = sched.store.transitions jobID := by
      simpa [tracksHistory] using tracks
    refine memory_current_places wired current (install_places sched jobID replayed rows) rfl ?_
    intro record last
    rw [adopt_existing_id] at last
    rw [adopt_existing_state]
    have id : (buildRecoveredRuntimeJob replayed rows : Job Input).id = jobID := read.own
    rw [id, ← latest] at last
    obtain ⟨member, entity⟩ := last_job_record_mem last
    have logs := latest ▸ sound.logs jobID
    exact job_record_state entity (logs.filed record member).1 (replay_one_last last read.state)
  | caughtUp replayed _ _ _ _ behind =>
    have counted : Counted sched replayed.job.jobID replayed.job.lastSequenceID :=
      accesses (.warming replayed) rfl
    exact absurd behind (not_lt.mpr counted.covered)
  | forced => cases tracks

/-- A sound machine whose memory follows the history. -/
structure Current (machine : Machine Input) : Prop extends Grounded machine where
  memory : MemoryCurrent machine.sched

theorem fresh_current (machine : Machine Input) (fresh : Fresh machine) : Current machine := by
  refine ⟨fresh_grounded machine fresh, ?_⟩
  obtain ⟨_, _, rfl⟩ := fresh
  intro _ _ _ registered
  cases registered

theorem current_step (machine : Machine Input) (action : Action Input) (after : Machine Input)
    (current : Current machine)
    (tracks : tracksHistory machine.sched (actionAccess machine action) = true)
    (taken : machineStep machine action = some after) : Current after :=
  ⟨grounded_step machine action after current.toGrounded taken,
    memory_current_move current.wired current.store current.memory
      (grounded_access current.toGrounded action) tracks
      (grounded_move current.toGrounded taken).move⟩

end Dagens.Scheduler.JobHistory
