import Dagens.Lib.GuardedRun
import Dagens.Scheduler.StoreEffects

/-!
# Schedulers sharing one transition store

Every scheduler works on its own copy of a task, however stale; the store is
the only thing they share. Each claim and each task record is one transaction.
The compare-and-set of a claim rests on `LastAttempt`, which an ordinary task
record overwrites with the attempt of whoever writes it.
-/

namespace Dagens.Scheduler.DispatchFleet

open Lib.GuardedRun Lifecycle GoSupport Replay Recovery Transitions StoreEffects Function List
  Option

variable {Input : Type} [GoRuntime Input]

structure FleetState (Input : Type) where
  store : TransitionStore
  copies : Nat → String → Option (Task Input)

/-- What a scheduler brings to a transaction besides its copy of the task. -/
structure WriteContext where
  sequenceID : Nat
  snapshot : Option DurableJobRecord
  now : Time
  fault : Option GoError
  deriving DecidableEq, Repr

inductive FleetAction (Input : Type) where
  | receive (who : Nat) (task : Task Input)
  | load (who : Nat) (jobID taskID : String)
  | claim (who : Nat) (taskID nodeID : String) (attempt : Int) (context : WriteContext)
  | record (who : Nat) (taskID : String) (report : TaskReport) (nodeID : String) (attempt : Int)
      (errorSummary : String) (context : WriteContext)

def setCopy (state : FleetState Input) (who : Nat) (task : Task Input) : FleetState Input :=
  { state with
    copies := update state.copies who
      (update (state.copies who) task.id (some task)) }

/-- The copy a scheduler obtains by replaying the job from the store. -/
def loadedTask (store : TransitionStore) (jobID taskID : String) : Option (Task Input) :=
  match replayJobState none store jobID with
  | .error _ => none
  | .ok replayed => (replayed.tasks.lookup taskID).map recoveredTask

/-- `claimTaskDispatchTransition` on one scheduler's copy. -/
def claimCopy (state : FleetState Input) (who : Nat) (task : Task Input) (nodeID : String)
    (attempt : Int) (context : WriteContext) : FleetState Input :=
  if task.jobID = "" then
    setCopy state who { task with lifecycleState := some .dispatched }
  else
    match prepareDispatchClaim task nodeID attempt context.sequenceID context.snapshot
        context.now with
    | none => state
    | some write =>
      match commitDispatchClaim task write context.fault state.store with
      | .error _ => state
      | .ok (claimed, store) => setCopy { state with store := store } who claimed

/-- `recordTaskTransition` on one scheduler's copy. -/
def recordCopy (state : FleetState Input) (who : Nat) (task : Task Input) (report : TaskReport)
    (nodeID : String) (attempt : Int) (errorSummary : String) (context : WriteContext) :
    FleetState Input :=
  match prepareTaskTransition task report nodeID attempt errorSummary context.sequenceID
      context.snapshot context.now with
  | none => state
  | some write =>
    match commitTaskTransition task write context.fault state.store with
    | .error _ => state
    | .ok (recorded, store) => setCopy { state with store := store } who recorded

def fleetStep (state : FleetState Input) : FleetAction Input → Option (FleetState Input)
  | .receive who task => some (setCopy state who task)
  | .load who jobID taskID => (loadedTask state.store jobID taskID).map (setCopy state who)
  | .claim who taskID nodeID attempt context =>
    (state.copies who taskID).map fun task =>
      claimCopy state who task nodeID attempt context
  | .record who taskID report nodeID attempt errorSummary context =>
    (state.copies who taskID).map fun task =>
      recordCopy state who task report nodeID attempt errorSummary context

def emptyFleet (state : FleetState Input) : Prop :=
  state.store = newTransitionStore ∧ ∀ who taskID, state.copies who taskID = none

/-- The (task id, attempt) pairs of the dispatch records of a job's log. -/
def dispatchKeys (store : TransitionStore) (jobID : String) : List (String × Int) :=
  ((store.transitions jobID).filter fun record =>
    decide (record.transition = .taskDispatched)).map fun record =>
      (record.taskID, record.attempt)

/-- No two dispatch records, in whichever logs, have the same key. -/
def DispatchesUnique (store : TransitionStore) : Prop :=
  (∀ jobID, (dispatchKeys store jobID).Nodup) ∧
    ∀ first second, first ≠ second →
      List.Disjoint (dispatchKeys store first) (dispatchKeys store second)

theorem dispatch_keys_appended (store : TransitionStore) (record : TransitionRecord)
    (jobID : String) :
    (dispatchKeys (appended store record) jobID).Perm
      (dispatchKeys store jobID ++
        if jobID = record.jobID ∧ record.transition = .taskDispatched then
          [(record.taskID, record.attempt)] else []) := by
  unfold dispatchKeys
  rw [appended_transitions]
  by_cases same : jobID = record.jobID
  · subst same
    rw [if_pos rfl]
    refine (((perm_insertionSort _ _).filter _).map _).trans ?_
    by_cases dispatched : record.transition = .taskDispatched <;>
      simp [filter_append, dispatched]
  · simp [same]

variable {store after : TransitionStore}

theorem dispatch_keys_congr (same : after.transitions = store.transitions) (jobID : String) :
    dispatchKeys after jobID = dispatchKeys store jobID := by
  simp only [dispatchKeys, same]

/-- The durable row bounds every attempt dispatched so far. -/
def AttemptsBounded (store : TransitionStore) : Prop :=
  ∀ jobID taskID attempt, (taskID, attempt) ∈ dispatchKeys store jobID →
    ∃ row, store.tasks.lookup taskID = some row ∧ attempt ≤ row.lastAttempt

/-- A task record keeps or raises the attempt of the row it overwrites. -/
def AttemptKept (state : FleetState Input) : FleetAction Input → Prop
  | .record _ taskID _ _ attempt _ _ =>
    ∀ row, state.store.tasks.lookup taskID = some row → row.lastAttempt ≤ attempt
  | _ => True

instance (state : FleetState Input) (action : FleetAction Input) :
    Decidable (AttemptKept state action) := by
  cases action with
  | record _ taskID _ _ attempt =>
    exact inferInstanceAs (Decidable (∀ row ∈ state.store.tasks.lookup taskID,
      row.lastAttempt ≤ attempt))
  | _ => exact isTrue trivial

structure FleetInvariant (state : FleetState Input) : Prop where
  keyed : ∀ who taskID task, state.copies who taskID = some task → task.id = taskID
  bounded : AttemptsBounded state.store
  unique : DispatchesUnique state.store

theorem unique_add_fresh (jobID : String) (key : String × Int)
    (keys : ∀ other, (dispatchKeys after other).Perm (dispatchKeys store other ++ if other = jobID
      then [key] else [])) (fresh : ∀ other, key ∉ dispatchKeys store other)
    (unique : DispatchesUnique store) :
    DispatchesUnique after := by
  have member : ∀ other entry, entry ∈ dispatchKeys after other →
      entry ∈ dispatchKeys store other ∨ other = jobID ∧ entry = key := by
    intro other entry found
    have split := (keys other).mem_iff.mp found
    by_cases same : other = jobID <;> simp [same] at split ⊢ <;> tauto
  refine ⟨fun other => ?_, fun first second different entry inFirst inSecond => ?_⟩
  · rw [(keys other).nodup_iff]
    by_cases same : other = jobID
    · rw [if_pos same, nodup_append]
      refine ⟨unique.1 other, nodup_singleton key, ?_⟩
      rintro entry found _ last rfl
      rw [mem_singleton] at last
      exact fresh other (last ▸ found)
    · simpa [same] using unique.1 other
  · rcases member first entry inFirst with oldFirst | ⟨firstJob, rfl⟩ <;>
      rcases member second entry inSecond with oldSecond | ⟨secondJob, again⟩
    · exact unique.2 first second different oldFirst oldSecond
    · exact fresh first (again ▸ oldFirst)
    · exact fresh second oldSecond
    · exact different (firstJob.trans secondJob.symm)

omit [GoRuntime Input] in
theorem keys_claim_committed (task : Task Input) (write : PendingWrite) (store : TransitionStore)
    (jobID : String) :
    (dispatchKeys (claimCommitted task write store) jobID).Perm
      (dispatchKeys store jobID ++
        if jobID = write.record.jobID ∧ write.record.transition = .taskDispatched then
          [(write.record.taskID, write.record.attempt)] else []) := by
  rw [claimCommitted, dispatch_keys_congr (upsert_snapshot_transitions _ _)]
  exact dispatch_keys_appended _ _ _

theorem keys_task_committed (task : Task Input) (write : PendingWrite) (store : TransitionStore)
    (other : write.record.transition ≠ .taskDispatched) (jobID : String) :
    (dispatchKeys (taskCommitted task write store) jobID).Perm (dispatchKeys store jobID) := by
  rw [taskCommitted, dispatch_keys_congr (upsert_snapshot_transitions _ _),
    dispatch_keys_congr (upsert_task_transitions _ _)]
  simpa [other] using dispatch_keys_appended store write.record jobID

omit [GoRuntime Input] in
theorem claim_preserves (task : Task Input) (write : PendingWrite)
    (taskID : write.record.taskID = task.id)
    (transition : write.record.transition = .taskDispatched)
    (accepted : ∀ row, store.tasks.lookup task.id = some row →
      claimAccepted row write.record.attempt = true) (bounded : AttemptsBounded store)
    (unique : DispatchesUnique store) :
    AttemptsBounded (claimCommitted task write store) ∧
      DispatchesUnique (claimCommitted task write store) := by
  have above : ∀ jobID attempt, (task.id, attempt) ∈ dispatchKeys store jobID →
      attempt < write.record.attempt := by
    intro jobID attempt found
    obtain ⟨row, lookup, bound⟩ := bounded jobID task.id attempt found
    have higher := accepted row lookup
    simp only [claimAccepted, Bool.and_eq_true, decide_eq_true_eq] at higher
    exact lt_of_le_of_lt bound higher.1.1
  have keys : ∀ jobID, (dispatchKeys (claimCommitted task write store) jobID).Perm
      (dispatchKeys store jobID ++
        if jobID = write.record.jobID then [(task.id, write.record.attempt)] else []) := by
    intro jobID
    simpa [taskID, transition] using keys_claim_committed task write store jobID
  refine ⟨?_, unique_add_fresh _ _ keys (fun jobID found => (above jobID _ found).false) unique⟩
  intro jobID otherID attempt found
  have claimedAttempt : (claimedRow (claimOf task write)
      (store.tasks.lookup task.id)).lastAttempt = write.record.attempt := by
    cases store.tasks.lookup task.id <;> rfl
  rw [claim_committed_tasks]
  by_cases same : otherID = task.id
  · subst same
    refine ⟨_, AList.lookup_insert _, claimedAttempt ▸ ?_⟩
    have split := (keys jobID).mem_iff.mp found
    rcases mem_append.mp split with old | new
    · exact (above jobID attempt old).le
    · split_ifs at new <;> simp at new
      exact new.le
  · rw [AList.lookup_insert_ne same]
    have split := (keys jobID).mem_iff.mp found
    rcases mem_append.mp split with old | new
    · exact bounded jobID otherID attempt old
    · split_ifs at new <;> simp [same] at new

theorem record_preserves (task : Task Input) (write : PendingWrite)
    (transition : write.record.transition ≠ .taskDispatched)
    (kept : ∀ row, store.tasks.lookup task.id = some row → row.lastAttempt ≤ write.record.attempt)
    (bounded : AttemptsBounded store) (unique : DispatchesUnique store) :
    AttemptsBounded (taskCommitted task write store) ∧
      DispatchesUnique (taskCommitted task write store) := by
  have keys := keys_task_committed task write store transition
  refine ⟨?_, fun jobID => (keys jobID).nodup_iff.mpr (unique.1 jobID), ?_⟩
  · intro jobID otherID attempt found
    obtain ⟨row, lookup, bound⟩ := bounded jobID otherID attempt ((keys jobID).mem_iff.mp found)
    rw [task_committed_tasks]
    by_cases same : otherID = task.id
    · subst same
      exact ⟨_, AList.lookup_insert _, bound.trans (kept row lookup)⟩
    · rw [AList.lookup_insert_ne same]
      exact ⟨row, lookup, bound⟩
  · intro first second different _ inFirst inSecond
    exact unique.2 first second different ((keys first).mem_iff.mp inFirst)
      ((keys second).mem_iff.mp inSecond)

omit [GoRuntime Input] in
theorem set_copy_invariant {state : FleetState Input} (who : Nat) (task : Task Input)
    (invariant : FleetInvariant state) : FleetInvariant (setCopy state who task) where
  bounded := invariant.bounded
  unique := invariant.unique
  keyed := by
    intro other taskID _ found
    by_cases sameWho : other = who
    · subst sameWho
      simp only [setCopy, update_self] at found
      by_cases sameID : taskID = task.id
      · subst sameID
        rw [update_self] at found
        exact congrArg Task.id (Option.some.inj found.symm)
      · rw [update_of_ne sameID] at found
        exact invariant.keyed _ _ _ found
    · simp only [setCopy, update_of_ne sameWho] at found
      exact invariant.keyed _ _ _ found

omit [GoRuntime Input] in
theorem claim_copy_invariant (state : FleetState Input) (who : Nat) (task : Task Input)
    (nodeID : String) (attempt : Int) (context : WriteContext)
    (invariant : FleetInvariant state) :
    FleetInvariant (claimCopy state who task nodeID attempt context) := by
  unfold claimCopy
  split_ifs
  · exact set_copy_invariant who _ invariant
  split
  · exact invariant
  · rename_i write prepared
    obtain ⟨_, record, _⟩ := (prepare_dispatch_claim_some ..).mp prepared
    split
    · exact invariant
    · rename_i claimed store committed
      obtain ⟨⟨_, _, _, rows⟩, result⟩ := (commit_dispatch_claim_ok ..).mp committed
      cases result
      obtain ⟨bounded, unique⟩ := claim_preserves task write (by rw [record]; rfl)
        (by rw [record]; rfl) rows invariant.bounded invariant.unique
      exact set_copy_invariant who _ ⟨invariant.keyed, bounded, unique⟩

theorem record_copy_invariant {state : FleetState Input} (who : Nat) {task : Task Input}
    (report : TaskReport) (nodeID : String) {attempt : Int} (errorSummary : String)
    (context : WriteContext)
    (kept : ∀ row, state.store.tasks.lookup task.id = some row → row.lastAttempt ≤ attempt)
    (invariant : FleetInvariant state) :
    FleetInvariant (recordCopy state who task report nodeID attempt errorSummary context) := by
  unfold recordCopy
  split
  · exact invariant
  · rename_i write prepared
    obtain ⟨_, record, _⟩ := (prepare_task_transition_some ..).mp prepared
    split
    · exact invariant
    · rename_i recorded store committed
      obtain ⟨_, result⟩ := (commit_task_transition_ok ..).mp committed
      cases result
      obtain ⟨bounded, unique⟩ := record_preserves task write
        (by rw [record]; cases report <;> simp [taskRecord, TaskReport.transition])
        (by rw [record]; exact kept) invariant.bounded invariant.unique
      exact set_copy_invariant who _ ⟨invariant.keyed, bounded, unique⟩

theorem fleet_step_invariant (state : FleetState Input) (action : FleetAction Input)
    (after : FleetState Input) (invariant : FleetInvariant state)
    (kept : AttemptKept state action) (taken : fleetStep state action = some after) :
    FleetInvariant after := by
  cases action with
  | receive who task =>
    cases taken
    exact set_copy_invariant who task invariant
  | load who =>
    obtain ⟨task, _, rfl⟩ := map_eq_some_iff.mp taken
    exact set_copy_invariant who task invariant
  | claim who _ nodeID attempt context =>
    obtain ⟨task, _, rfl⟩ := map_eq_some_iff.mp taken
    exact claim_copy_invariant state who task nodeID attempt context invariant
  | record who _ report nodeID attempt errorSummary context =>
    obtain ⟨task, copy, rfl⟩ := map_eq_some_iff.mp taken
    exact record_copy_invariant who report nodeID errorSummary context
      (invariant.keyed _ _ _ copy ▸ kept) invariant

attribute [local simp] newTransitionStore dispatchKeys

omit [GoRuntime Input] in
theorem empty_fleet_invariant (state : FleetState Input) (empty : emptyFleet state) :
    FleetInvariant state := by
  obtain ⟨store, copies⟩ := empty
  refine ⟨?_, ?_, ?_, ?_⟩
  · intro _ taskID _ found
    simp [copies] at found
  · intro jobID taskID _ found
    simp [store] at found
  · intro jobID
    simp [store]
  · intro _ _ _ _ found
    simp [store] at found

/-- As long as no task record writes an attempt below the row's, no dispatch is
logged twice. -/
theorem dispatches_unique_while_attempts_kept (state : FleetState Input)
    (reached : Reaches fleetStep AttemptKept emptyFleet state) :
    DispatchesUnique state.store :=
  (reaches_invariant empty_fleet_invariant fleet_step_invariant reached).unique

def writeAt (sequenceID : Nat) : WriteContext where
  sequenceID := sequenceID
  snapshot := none
  now := sequenceID
  fault := none

/-- Scheduler 1 submits and dispatches, 2 takes over before the RUNNING record,
1 then reports its failure, and 3 claims the attempt of 2 again. -/
def staleRecordRun : List (FleetAction SampleInput) :=
  [.receive 1 pendingTask,
    .record 1 "task-1" .created "" 0 "" (writeAt 1),
    .load 2 "job-1" "task-1",
    .load 3 "job-1" "task-1",
    .claim 1 "task-1" "node-1" 1 (writeAt 2),
    .claim 2 "task-1" "node-2" 1 (writeAt 3),
    .claim 2 "task-1" "node-2" 2 (writeAt 4),
    .record 1 "task-1" .running "node-1" 1 "" (writeAt 5),
    .record 1 "task-1" .failed "node-1" 1 "lost" (writeAt 6),
    .claim 3 "task-1" "node-3" 1 (writeAt 7),
    .claim 3 "task-1" "node-3" 2 (writeAt 8)]

def freshFleet : FleetState SampleInput := ⟨newTransitionStore, fun _ _ => none⟩

def staleRecordEnd : Option (FleetState SampleInput) :=
  run fleetStep freshFleet staleRecordRun

theorem stale_record_duplicates_dispatch :
    ∃ state, staleRecordEnd = some state ∧
      dispatchKeys state.store "job-1" = [("task-1", 1), ("task-1", 2), ("task-1", 2)] ∧
      ¬ DispatchesUnique state.store := by
  refine ⟨_, rfl, by decide, ?_⟩
  intro unique
  exact absurd (unique.1 "job-1") (by decide)

/-- The same contest without the record that lowers the attempt. -/
def keptAttemptsRun : List (FleetAction SampleInput) :=
  [.receive 1 pendingTask,
    .record 1 "task-1" .created "" 0 "" (writeAt 1),
    .load 2 "job-1" "task-1",
    .claim 1 "task-1" "node-1" 1 (writeAt 2),
    .claim 2 "task-1" "node-2" 2 (writeAt 3),
    .record 2 "task-1" .running "node-2" 2 "" (writeAt 4),
    .record 2 "task-1" .succeeded "node-2" 2 "" (writeAt 5)]

theorem kept_attempts_dispatch_once :
    ∃ state, run fleetStep freshFleet keptAttemptsRun = some state ∧
      dispatchKeys state.store "job-1" = [("task-1", 1), ("task-1", 2)] ∧
      DispatchesUnique state.store := by
  have started : Reaches fleetStep AttemptKept emptyFleet freshFleet :=
    .start ⟨rfl, fun _ _ => rfl⟩
  exact ⟨_, rfl, by decide, dispatches_unique_while_attempts_kept _
    (reaches_of_run started keptAttemptsRun (by decide) rfl)⟩

end Dagens.Scheduler.DispatchFleet
