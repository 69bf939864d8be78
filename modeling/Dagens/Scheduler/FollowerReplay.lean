import Dagens.Scheduler.Machine

/-!
# What a follower's pass leaves in memory

A pass in follower mode over a store nobody writes to. Each listed job is
looked at once, so the whole pass is a fold of one visit over the listed rows,
and a visit concerns the entry of its own job only. A visit rebuilds a job the
table does not hold. An entry the table does hold takes over the replayed job
state, and only when the replay has seen more than the process has counted; its
tasks are never touched, and a job whose row is finished is not visited at all.
-/

namespace Dagens.Scheduler.FollowerReplay

open Lifecycle GoSupport Replay Recovery Transitions Reconcile Machine List Function Option

variable {Input : Type} [GoRuntime Input]

/-- What the environment does while a listed job is in hand: the clock, whether
the context ends before the history is read, and the order of the task map. -/
structure Visit where
  now : Time
  expires : Bool
  oracle : Oracle

def inHand : PassPC → Option DurableJobRecord
  | .next (row :: _) => some row
  | .replaying row _ => some row
  | .locking row _ _ => some row
  | _ => none

def endsContext (visits : String → Visit) : PassPC → Bool
  | .replaying row _ => (visits row.jobID).expires
  | _ => false

/-- The rest of a pass that returns nil, leaving `final`. -/
inductive FollowerRun (visits : String → Visit) :
    Scheduler Input → Pass → Scheduler Input → Prop where
  | returned {sched : Scheduler Input} {pass : Pass} (done : pass.pc = .next []) :
      FollowerRun visits sched pass sched
  | step {sched after final : Scheduler Input} {pass : Pass} {pc : PassPC} (jobID : String)
      (looked : ∀ row, inHand pass.pc = some row → row.jobID = jobID)
      (stepped : passStep sched pass (visits jobID).oracle (visits jobID).now =
        (after, some pc))
      (rest : FollowerRun visits after
        ⟨pass.mode, pass.expired || endsContext visits pc, pc⟩ final) :
      FollowerRun visits sched pass final

/-- One turn of the loop, from the quarantine check to the end of the lock. -/
def visitJob (visits : String → Visit) (sched : Scheduler Input) (row : DurableJobRecord) :
    Scheduler Input :=
  let visit := visits row.jobID
  match pastQuarantine sched row.jobID visit.now with
  | none => sched
  | some cleared =>
    match replayJobState (if visit.expires then some errDeadlineExceeded else none)
        cleared.store row.jobID with
    | .error _ => cleared
    | .ok raw =>
      (warmJob { cleared with
          replayQuarantine := update cleared.replayQuarantine row.jobID none }
        (completeReplay row raw)
        (visit.oracle.mapOrder (replayedRows (completeReplay row raw)))).1

variable {sched final : Scheduler Input} {visits : String → Visit} {first : Scheduler Input}
  {row : DurableJobRecord} {replayed : ReplayedJobState} {todo : List DurableJobRecord}
  {jobID : String} {pass : Pass} {raw : ReplayedJobState} {store : TransitionStore}

theorem follower_run_step (looked : inHand pass.pc = some row)
    (run : FollowerRun visits sched pass final) :
    ∃ after pc, passStep sched pass (visits row.jobID).oracle (visits row.jobID).now =
        (after, some pc) ∧
      FollowerRun visits after ⟨pass.mode, pass.expired || endsContext visits pc, pc⟩ final := by
  cases run with
  | returned done =>
    rw [done] at looked
    cases looked
  | step _ same stepped rest =>
    rw [← same row looked] at stepped
    exact ⟨_, _, stepped, rest⟩

variable {expired : Bool}

attribute [local simp] passStep nextStep registeredJob registerJob Pass.ctxErr setObject

theorem visited_run
    (run : FollowerRun visits sched ⟨.follower, expired, .next (row :: todo)⟩ final) :
    ∃ later, FollowerRun visits (visitJob visits sched row) ⟨.follower, later, .next todo⟩
      final := by
  obtain ⟨_, _, stepped, rest⟩ := follower_run_step rfl run
  have live : expired = false := by
    cases expired with
    | false => rfl
    | true => simp at stepped
  subst live
  simp only [passStep, nextStep, Bool.false_eq_true, if_false] at stepped
  cases pending : pastQuarantine sched row.jobID (visits row.jobID).now with
  | none =>
    simp only [pending] at stepped
    cases stepped
    simp only [visitJob, pending]
    exact ⟨_, rest⟩
  | some cleared =>
    simp only [pending, reduceCtorEq, if_false, Prod.mk.injEq, some.injEq] at stepped
    obtain ⟨rfl, rfl⟩ := stepped
    obtain ⟨_, next, replays, later⟩ := follower_run_step rfl rest
    simp only [passStep, replayStep, Pass.ctxErr, endsContext, Bool.false_or, reduceCtorEq,
      if_false, false_and] at replays
    simp only [visitJob, pending]
    cases read : replayJobState
        (if (visits row.jobID).expires then some errDeadlineExceeded else none) cleared.store
        row.jobID with
    | error err =>
      simp only [read] at replays
      cases replays
      exact ⟨_, later⟩
    | ok raw =>
      simp only [read] at replays
      cases replays
      obtain ⟨_, _, stepped, rest⟩ := follower_run_step rfl later
      simp only [passStep, lockStep, reduceCtorEq, if_false, Prod.mk.injEq, some.injEq]
        at stepped
      obtain ⟨rfl, rfl⟩ := stepped
      exact ⟨_, by simpa [endsContext] using rest⟩

theorem follower_run_folds (run : FollowerRun visits sched ⟨.follower, expired, .next todo⟩ final) :
    final = todo.foldl (visitJob visits) sched := by
  induction todo generalizing sched expired with
  | nil =>
    cases run with
    | returned => rfl
    | step _ _ stepped => simp at stepped
  | cons _ _ ih =>
    obtain ⟨_, rest⟩ := visited_run run
    exact ih rest

theorem follower_step {after : Scheduler Input} {pc : PassPC} (looked : inHand pass.pc = some row)
    (stepped : passStep sched pass (visits row.jobID).oracle (visits row.jobID).now = (after, some
      pc))
    (rest : FollowerRun visits after ⟨pass.mode, pass.expired || endsContext visits pc, pc⟩ final) :
    FollowerRun visits sched pass final := by
  refine .step row.jobID (fun other held => ?_) stepped rest
  rw [some.inj (held.symm.trans looked)]

theorem visit_returns (lasts : (visits row.jobID).expires = false)
    (rest : FollowerRun visits (visitJob visits sched row) ⟨.follower, false, .next todo⟩ final) :
    FollowerRun visits sched ⟨.follower, false, .next (row :: todo)⟩ final := by
  simp only [visitJob, lasts, Bool.false_eq_true, if_false] at rest
  cases pending : pastQuarantine sched row.jobID (visits row.jobID).now with
  | none =>
    simp only [pending] at rest
    have skipped : passStep sched ⟨.follower, false, .next (row :: todo)⟩
        (visits row.jobID).oracle (visits row.jobID).now = (sched, some (.next todo)) := by
      simp [pending]
    exact follower_step rfl skipped rest
  | some cleared =>
    simp only [pending] at rest
    have head : passStep sched ⟨.follower, false, .next (row :: todo)⟩
        (visits row.jobID).oracle (visits row.jobID).now =
          (cleared, some (.replaying row todo)) := by
      simp [pending]
    refine follower_step rfl head ?_
    simp only [endsContext, lasts, Bool.or_self]
    cases read : replayJobState none cleared.store row.jobID with
    | error =>
      simp only [read] at rest
      have failed : passStep cleared ⟨.follower, false, .replaying row todo⟩
          (visits row.jobID).oracle (visits row.jobID).now = (cleared, some (.next todo)) := by
        simp [replayStep, read]
      exact follower_step rfl failed rest
    | ok raw =>
      simp only [read] at rest
      have replayed : passStep cleared ⟨.follower, false, .replaying row todo⟩
          (visits row.jobID).oracle (visits row.jobID).now =
            ({ cleared with
              replayQuarantine := update cleared.replayQuarantine row.jobID none },
              some (.locking row (completeReplay row raw) todo)) := by
        simp [replayStep, read]
      exact follower_step rfl replayed (follower_step rfl rfl rest)

theorem follower_run_returns (lasts : ∀ jobID, (visits jobID).expires = false)
    (todo : List DurableJobRecord) (sched : Scheduler Input) :
    FollowerRun visits sched ⟨.follower, false, .next todo⟩
      (todo.foldl (visitJob visits) sched) := by
  induction todo generalizing sched with
  | nil => exact .returned rfl
  | cons row _ ih => exact visit_returns (lasts row.jobID) (ih _)

/-- Every entry of the table is an object of that id, and new references are unused. -/
structure TableSound (sched : Scheduler Input) : Prop where
  named : ∀ jobID ref, sched.jobs jobID = some ref →
    ∃ job, sched.objects ref = some job ∧ job.id = jobID
  unused : ∀ ref, sched.nextRef ≤ ref → sched.objects ref = none

/-- Nothing a visit of the job reads has changed. -/
structure SameFor (jobID : String) (before after : Scheduler Input) : Prop where
  entry : registeredJob after jobID = registeredJob before jobID
  sequence : after.jobSequences jobID = before.jobSequences jobID
  quarantine : after.replayQuarantine jobID = before.replayQuarantine jobID

/-- The effect of a visit to `jobID`: everything else is left alone. -/
structure Confined (jobID : String) (before after : Scheduler Input) : Prop where
  sound : TableSound after
  store : after.store = before.store
  others : ∀ other, other ≠ jobID → SameFor other before after

section

omit [GoRuntime Input]

theorem same_for_refl (jobID : String) (sched : Scheduler Input) : SameFor jobID sched sched :=
  ⟨rfl, rfl, rfl⟩

variable {middle last : Scheduler Input} {ref : Nat}

theorem SameFor.trans (left : SameFor jobID first middle) (right : SameFor jobID middle last) :
    SameFor jobID first last :=
  ⟨right.entry.trans left.entry, right.sequence.trans left.sequence,
    right.quarantine.trans left.quarantine⟩

theorem Confined.trans (left : Confined jobID first middle) (right : Confined jobID middle last) :
    Confined jobID first last :=
  ⟨right.sound, right.store.trans left.store, fun other different =>
    (left.others other different).trans (right.others other different)⟩

section

variable (sound : TableSound sched)

include sound

theorem quarantine_confined (jobID : String) (deadline : Option Time) :
    Confined jobID sched { sched with
      replayQuarantine := update sched.replayQuarantine jobID deadline } :=
  ⟨⟨sound.named, sound.unused⟩, rfl, fun _ different =>
    ⟨rfl, rfl, update_of_ne different _ _⟩⟩

theorem seed_confined (jobID : String) (durableLast : Nat) (transitions : List TransitionRecord) :
    Confined jobID sched (seedJobSequence sched jobID durableLast transitions) :=
  ⟨⟨sound.named, sound.unused⟩, rfl, fun _ different =>
    ⟨rfl, update_of_ne different _ _, rfl⟩⟩

theorem register_confined (job : Job Input) :
    Confined job.id sched (registerJob sched job) ∧
      registeredJob (registerJob sched job) job.id = some job := by
  -- the table holds no reference to the slot that is filled
  have elsewhere (jobID : String) (ref : Nat) (known : sched.jobs jobID = some ref) :
      ref ≠ sched.nextRef := by
    obtain ⟨_, found, _⟩ := sound.named jobID ref known
    rintro rfl
    rw [sound.unused _ le_rfl] at found
    cases found
  refine ⟨⟨⟨?_, ?_⟩, rfl, ?_⟩, by simp⟩
  · intro jobID ref known
    by_cases same : jobID = job.id
    · subst same
      simp only [registerJob, update_self, some.injEq] at known
      exact ⟨job, by simp [← known], rfl⟩
    · simp only [registerJob, update_of_ne same] at known
      simpa only [registerJob, update_of_ne (elsewhere jobID ref known)] using
        sound.named jobID ref known
  · intro ref later
    have past : sched.nextRef + 1 ≤ ref := later
    simp only [registerJob, update_of_ne (show ref ≠ sched.nextRef by omega)]
    exact sound.unused ref (by omega)
  · intro other different
    refine ⟨?_, rfl, rfl⟩
    simp only [registeredJob, registerJob, update_of_ne different]
    cases known : sched.jobs other with
    | none => rfl
    | some ref => simp [update_of_ne (elsewhere other ref known)]

theorem set_object_confined (known : sched.jobs jobID = some ref) (job : Job Input)
    (named : job.id = jobID) :
    Confined jobID sched (setObject sched ref job) ∧
      registeredJob (setObject sched ref job) jobID = some job := by
  obtain ⟨_, found, heldNamed⟩ := sound.named jobID ref known
  have elsewhere (other : String) (otherRef : Nat) (otherKnown : sched.jobs other = some otherRef)
      (different : other ≠ jobID) : otherRef ≠ ref := by
    obtain ⟨_, entryFound, entryNamed⟩ := sound.named other otherRef otherKnown
    rintro rfl
    rw [found, some.injEq] at entryFound
    exact different (entryNamed.symm.trans (entryFound ▸ heldNamed))
  refine ⟨⟨⟨?_, ?_⟩, rfl, ?_⟩, by simp [known]⟩
  · intro other otherRef otherKnown
    by_cases same : other = jobID
    · subst same
      have sameRef : otherRef = ref := some.inj (otherKnown.symm.trans known)
      exact ⟨job, by simp [sameRef], named⟩
    · simpa only [setObject, update_of_ne (elsewhere other otherRef otherKnown same)]
        using sound.named other otherRef otherKnown
  · intro later past
    have other : later ≠ ref := by
      rintro rfl
      rw [sound.unused later past] at found
      cases found
    simpa only [setObject, update_of_ne other] using sound.unused later past
  · intro other different
    refine ⟨?_, rfl, rfl⟩
    simp only [registeredJob, setObject]
    cases otherKnown : sched.jobs other with
    | none => rfl
    | some otherRef =>
      simp [update_of_ne (elsewhere other otherRef otherKnown different)]

end

end

/-- The entry of a job after the locked part of its visit. -/
def warmedEntry (counted : Nat) (replayed : ReplayedJobState) (rows : List DurableTaskRecord) :
    Option (Job Input) → Job Input
  | none => buildRecoveredRuntimeJob replayed rows
  | some job =>
    if counted < replayed.job.lastSequenceID then
      { job with
        lifecycleState := replayed.job.currentState
        updatedAt := replayed.job.updatedAt }
    else job

theorem warm_confined (sound : TableSound sched) (replayed : ReplayedJobState)
    (rows : List DurableTaskRecord) :
    Confined replayed.job.jobID sched (warmJob sched replayed rows).1 ∧
      registeredJob (warmJob sched replayed rows).1 replayed.job.jobID =
        some (warmedEntry (sched.jobSequences replayed.job.jobID) replayed rows
          (registeredJob sched replayed.job.jobID)) := by
  cases known : sched.jobs replayed.job.jobID with
  | none =>
    obtain ⟨confined, entry⟩ := register_confined sound (buildRecoveredRuntimeJob replayed rows)
    have unregistered : registeredJob sched replayed.job.jobID = none := by
      simp [known]
    simp only [warmJob, known, unregistered, warmedEntry]
    exact ⟨confined.trans (seed_confined confined.sound _ _ _), entry⟩
  | some =>
    obtain ⟨job, found, named⟩ := sound.named _ _ known
    have registered : registeredJob sched replayed.job.jobID = some job := by
      simp [known, found]
    simp only [warmJob, known, found, registered, warmedEntry]
    split_ifs with behind
    · obtain ⟨confined, entry⟩ := set_object_confined sound known
        { job with
          lifecycleState := replayed.job.currentState
          updatedAt := replayed.job.updatedAt } named
      have seeded := seed_confined confined.sound job.id replayed.job.lastSequenceID
        replayed.transitions
      rw [named] at confined entry seeded ⊢
      exact ⟨confined.trans seeded, entry⟩
    · exact ⟨⟨sound, rfl, fun other _ => same_for_refl other sched⟩, registered⟩

omit [GoRuntime Input] in
theorem past_quarantine_confined {cleared : Scheduler Input} (sound : TableSound sched) {now : Time}
    (past : pastQuarantine sched jobID now = some cleared) :
    Confined jobID sched cleared ∧ registeredJob cleared jobID = registeredJob sched jobID ∧
      cleared.jobSequences = sched.jobSequences := by
  unfold pastQuarantine at past
  split at past
  · cases past
    exact ⟨⟨sound, rfl, fun other _ => same_for_refl other sched⟩, rfl, rfl⟩
  · split_ifs at past
    cases past
    exact ⟨quarantine_confined sound jobID none, rfl, rfl⟩

/-- A visit that gets to the lock with the replay `raw`. -/
def Reads (visits : String → Visit) (sched : Scheduler Input) (row : DurableJobRecord)
    (raw : ReplayedJobState) : Prop :=
  (pastQuarantine sched row.jobID (visits row.jobID).now).isSome ∧
    replayJobState (if (visits row.jobID).expires then some errDeadlineExceeded else none)
      sched.store row.jobID = .ok raw

theorem visit_reads (sound : TableSound sched) (reads : Reads visits sched row raw) :
    Confined row.jobID sched (visitJob visits sched row) ∧
      registeredJob (visitJob visits sched row) row.jobID =
        some (warmedEntry (sched.jobSequences row.jobID) (completeReplay row raw)
          ((visits row.jobID).oracle.mapOrder (replayedRows (completeReplay row raw)))
          (registeredJob sched row.jobID)) := by
  obtain ⟨past, replays⟩ := reads
  obtain ⟨_, passed⟩ := isSome_iff_exists.mp past
  obtain ⟨clearing, entry, sequences⟩ := past_quarantine_confined sound passed
  have named : (completeReplay row raw).job.jobID = row.jobID := (replay_job_state_ok replays).2.1
  have reset := quarantine_confined clearing.sound row.jobID none
  have warmed := warm_confined reset.sound (completeReplay row raw)
    ((visits row.jobID).oracle.mapOrder (replayedRows (completeReplay row raw)))
  rw [named] at warmed
  rw [← clearing.store] at replays
  simp only [visitJob, passed, replays]
  refine ⟨(clearing.trans reset).trans warmed.1, ?_⟩
  rw [warmed.2, sequences, ← entry]
  rfl

theorem visit_skips (sound : TableSound sched) (unread : ∀ raw, ¬ Reads visits sched row raw) :
    Confined row.jobID sched (visitJob visits sched row) ∧
      registeredJob (visitJob visits sched row) row.jobID = registeredJob sched row.jobID := by
  cases passed : pastQuarantine sched row.jobID (visits row.jobID).now with
  | none =>
    simp only [visitJob, passed]
    exact ⟨⟨sound, rfl, fun other _ => same_for_refl other sched⟩, trivial⟩
  | some =>
    obtain ⟨clearing, entry, _⟩ := past_quarantine_confined sound passed
    cases replays : replayJobState
        (if (visits row.jobID).expires then some errDeadlineExceeded else none) sched.store
        row.jobID with
    | ok raw => exact absurd ⟨by simp [passed], replays⟩ (unread raw)
    | error =>
      rw [← clearing.store] at replays
      simp only [visitJob, passed, replays]
      exact ⟨clearing, entry⟩

variable {second : Scheduler Input}

omit [GoRuntime Input] in
theorem past_quarantine_same
    (same : second.replayQuarantine jobID = first.replayQuarantine jobID) (now : Time) :
    (pastQuarantine second jobID now).isSome = (pastQuarantine first jobID now).isSome := by
  unfold pastQuarantine
  rw [same]
  cases first.replayQuarantine jobID with
  | none => rfl
  | some =>
    dsimp only
    split_ifs <;> rfl

omit [GoRuntime Input] in
theorem reads_same (same : SameFor row.jobID first second)
    (store : second.store = first.store) (raw : ReplayedJobState) :
    Reads visits second row raw ↔ Reads visits first row raw := by
  unfold Reads
  rw [past_quarantine_same same.quarantine, store]

theorem visit_confined (sound : TableSound sched) (row : DurableJobRecord) :
    Confined row.jobID sched (visitJob visits sched row) := by
  by_cases read : ∃ raw, Reads visits sched row raw
  · obtain ⟨_, reads⟩ := read
    exact (visit_reads sound reads).1
  · exact (visit_skips sound (not_exists.mp read)).1

theorem visit_entry_same (sound : TableSound first)
    (otherSound : TableSound second) (same : SameFor row.jobID first second)
    (store : second.store = first.store) :
    registeredJob (visitJob visits second row) row.jobID =
      registeredJob (visitJob visits first row) row.jobID := by
  by_cases read : ∃ raw, Reads visits first row raw
  · obtain ⟨raw, reads⟩ := read
    rw [(visit_reads sound reads).2,
      (visit_reads otherSound ((reads_same same store raw).mpr reads)).2, same.entry,
      same.sequence]
  · have unread (raw : ReplayedJobState) : ¬ Reads visits second row raw := fun reads =>
    read ⟨raw, (reads_same same store raw).mp reads⟩
    rw [(visit_skips sound (not_exists.mp read)).2, (visit_skips otherSound unread).2, same.entry]

theorem fold_visits (visits : String → Visit) (sound : TableSound sched)
    {rows : List DurableJobRecord} (distinct : (rows.map (·.jobID)).Nodup) :
    (rows.foldl (visitJob visits) sched).store = sched.store ∧
      (∀ jobID, jobID ∉ rows.map (·.jobID) →
        SameFor jobID sched (rows.foldl (visitJob visits) sched)) ∧
      ∀ row ∈ rows, registeredJob (rows.foldl (visitJob visits) sched) row.jobID =
        registeredJob (visitJob visits sched row) row.jobID := by
  induction rows generalizing sched with
  | nil => exact ⟨rfl, fun jobID _ => same_for_refl jobID sched, by simp⟩
  | cons row _ ih =>
    obtain ⟨absent, restDistinct⟩ := nodup_cons.mp distinct
    have visit : Confined row.jobID sched (visitJob visits sched row) := visit_confined sound row
    obtain ⟨store, unvisited, visited⟩ := ih visit.sound restDistinct
    refine ⟨store.trans visit.store, ?_, ?_⟩
    · intro jobID outside
      simp only [map_cons, mem_cons, not_or] at outside
      exact (visit.others jobID outside.1).trans (unvisited jobID outside.2)
    · intro member listed
      rcases mem_cons.mp listed with rfl | later
      · exact (unvisited member.jobID absent).entry
      · have different : member.jobID ≠ row.jobID := fun equal =>
        absent (List.mem_map.mpr ⟨member, later, equal⟩)
        rw [foldl_cons, visited member later]
        exact visit_entry_same sound visit.sound (visit.others _ different) visit.store

/-- Every job row is stored under its own id, as all writers of the store do. -/
def JobRowsKeyed (store : TransitionStore) : Prop :=
  ∀ jobID row, store.jobs.lookup jobID = some row → row.jobID = jobID

theorem listed_jobs_distinct (keyed : JobRowsKeyed store) :
    (((listUnfinishedJobs store).insertionSort reconcileOrder).map (·.jobID)).Nodup := by
  have keys : (store.jobs.entries.map (·.2)).map (·.jobID) = store.jobs.keys := by
    rw [List.map_map]
    refine map_congr_left fun entry member => ?_
    exact keyed entry.1 entry.2 (AList.mem_lookup_iff.mpr member)
  have sorted := ((perm_insertionSort reconcileOrder _).trans
    (perm_insertionSort (fun first second : DurableJobRecord =>
      first.createdAt ≤ second.createdAt) ((store.jobs.entries.map (·.2)).filter fun job =>
        !job.currentState.any isTerminalJobState))).map (·.jobID)
  refine sorted.nodup_iff.mpr (List.Nodup.sublist (filter_sublist.map _) ?_)
  rw [keys]
  exact store.jobs.keys_nodup

def TasksAgree (job : Job Input) (replayed : ReplayedJobState) : Prop :=
  ∀ task ∈ jobTasks job,
    task.lifecycleState = (replayed.tasks.lookup task.id).bind (·.currentState)

/-- Every job in memory that has a log is where the log leads. -/
def Converged (sched : Scheduler Input) : Prop :=
  ∀ jobID job replayed, listTransitionsByJob sched.store jobID ≠ [] →
    registeredJob sched jobID = some job →
    replayJobState none sched.store jobID = .ok replayed →
    job.lifecycleState = replayed.job.currentState ∧ TasksAgree job replayed

/-- The sequence number a replay of the listed row reports. -/
def lastSeen (store : TransitionStore) (row : DurableJobRecord) : Nat :=
  max row.lastSequenceID
    (((listTransitionsByJob store row.jobID).getLast?.map (·.sequenceID)).getD 0)

/-- The pass will bring the job state up to date: the row is unfinished, the
job is not in quarantine when its turn comes, its history is read in time, and
the process has counted less than the store holds. -/
def Refreshes (visits : String → Visit) (sched : Scheduler Input) (jobID : String) : Prop :=
  ∃ row ∈ listUnfinishedJobs sched.store, row.jobID = jobID ∧
    (pastQuarantine sched jobID (visits jobID).now).isSome ∧ (visits jobID).expires = false ∧
    sched.jobSequences jobID < lastSeen sched.store row

/-- Of a job in memory the tasks are already where the log leads, and so is the
job unless the pass refreshes it. -/
def NearlyConverged (visits : String → Visit) (sched : Scheduler Input) : Prop :=
  ∀ jobID job replayed, listTransitionsByJob sched.store jobID ≠ [] →
    registeredJob sched jobID = some job →
    replayJobState none sched.store jobID = .ok replayed →
    (job.lifecycleState = replayed.job.currentState ∨ Refreshes visits sched jobID) ∧
      TasksAgree job replayed

omit [GoRuntime Input] in
theorem reads_iff (logged : listTransitionsByJob sched.store row.jobID ≠ [])
    (replays : replayJobState none sched.store row.jobID = .ok replayed) :
    Reads visits sched row raw ↔
      (pastQuarantine sched row.jobID (visits row.jobID).now).isSome ∧
        (visits row.jobID).expires = false ∧ raw = replayed := by
  unfold Reads
  refine and_congr_right fun _ => ?_
  cases (visits row.jobID).expires with
  | false => simp [replays, eq_comm]
  | true =>
    obtain ⟨_, _, split⟩ := exists_cons_of_ne_nil logged
    simp only [if_true, replayJobState, replayJobStateFromData, split, replayRecords]
    split_ifs <;> simp

theorem recovered_tasks_agree (keyed : RowsKeyed replayed.tasks) {complete : ReplayedJobState}
    {rows : List DurableTaskRecord} (permuted : rows.Perm (replayedRows replayed)) :
    TasksAgree (buildRecoveredRuntimeJob complete rows : Job Input) replayed := by
  intro _ member
  simp only [jobTasks, recovered_job_stages, mem_flatMap, List.mem_map] at member
  obtain ⟨_, ⟨_, _, rfl⟩, inside⟩ := member
  simp only [finishRecoveredStage, recoveredStage, List.mem_map, rowsOfStage, mem_filter] at inside
  obtain ⟨_, ⟨listed, _⟩, rfl⟩ := inside
  obtain ⟨⟨taskID, found⟩, entry, rfl⟩ := List.mem_map.mp (permuted.mem_iff.mp listed)
  have lookup := AList.mem_lookup_iff.mpr entry
  have named : found.taskID = taskID := keyed taskID found lookup
  simp only [recoveredTask]
  rw [named, mem_def.mp lookup]
  rfl

/-- What the pass does to the entry of one job with a log. -/
inductive EntryAfter (visits : String → Visit) (sched : Scheduler Input) (jobID : String)
    (replayed : ReplayedJobState) : Option (Job Input) → Prop where
  | kept (stays : (registeredJob sched jobID).isSome → ¬ Refreshes visits sched jobID) :
      EntryAfter visits sched jobID replayed (registeredJob sched jobID)
  | refreshed (job : Job Input) (stamp : Time) (held : registeredJob sched jobID = some job)
      (refreshes : Refreshes visits sched jobID) :
      EntryAfter visits sched jobID replayed (some { job with
        lifecycleState := replayed.job.currentState
        updatedAt := stamp })
  | rebuilt (job : Job Input) (unknown : registeredJob sched jobID = none)
      (state : job.lifecycleState = replayed.job.currentState)
      (tasks : TasksAgree job replayed) :
      EntryAfter visits sched jobID replayed (some job)

omit [GoRuntime Input] in
theorem refreshes_row (visits : String → Visit) (keyed : JobRowsKeyed sched.store)
    (listed : row ∈ listUnfinishedJobs sched.store) :
    Refreshes visits sched row.jobID ↔
      (pastQuarantine sched row.jobID (visits row.jobID).now).isSome ∧
        (visits row.jobID).expires = false ∧
        sched.jobSequences row.jobID < lastSeen sched.store row := by
  constructor
  · rintro ⟨other, otherListed, same, past, lasts, behind⟩
    have rowOf {found : DurableJobRecord} (member : found ∈ listUnfinishedJobs sched.store) :
        sched.store.jobs.lookup found.jobID = some found := by
      simp only [listUnfinishedJobs, mem_insertionSort, mem_filter, List.mem_map]
        at member
      obtain ⟨⟨⟨jobID, entry⟩, inside, rfl⟩, _⟩ := member
      have lookup := AList.mem_lookup_iff.mpr inside
      rw [keyed jobID entry lookup]
      exact lookup
    have equal : other = row := by
      have first := rowOf otherListed
      rw [same, rowOf listed] at first
      exact (some.inj first).symm
    subst equal
    exact ⟨past, lasts, behind⟩
  · rintro ⟨past, lasts, behind⟩
    exact ⟨row, listed, rfl, past, lasts, behind⟩

theorem listing_run_folds (run : FollowerRun visits sched ⟨.follower, expired, .listing⟩ final) :
    final = ((listUnfinishedJobs sched.store).insertionSort reconcileOrder).foldl
    (visitJob visits) sched := by
  cases run with
  | returned done => cases done
  | step _ _ stepped rest =>
    simp only [passStep] at stepped
    cases stepped
    exact follower_run_folds rest

theorem entry_after (sound : TableSound sched) (keyed : JobRowsKeyed sched.store)
    (run : FollowerRun visits sched ⟨.follower, expired, .listing⟩ final)
    (logged : listTransitionsByJob sched.store jobID ≠ [])
    (replays : replayJobState none sched.store jobID = .ok replayed) :
    EntryAfter visits sched jobID replayed (registeredJob final jobID) := by
  rw [listing_run_folds run]
  obtain ⟨_, unvisited, visited⟩ := fold_visits visits sound (listed_jobs_distinct keyed)
  by_cases listed : jobID ∈
      ((listUnfinishedJobs sched.store).insertionSort reconcileOrder).map (·.jobID)
  · obtain ⟨row, member, rfl⟩ := List.mem_map.mp listed
    have unfinished := (mem_insertionSort reconcileOrder).mp member
    rw [visited row member]
    by_cases reads : Reads visits sched row replayed
    · obtain ⟨past, lasts, _⟩ := (reads_iff logged replays).mp reads
      have refreshes := refreshes_row visits keyed unfinished
      rw [(visit_reads sound reads).2]
      have seen : (completeReplay row replayed).job.lastSequenceID = lastSeen sched.store row := by
        simp only [completeReplay, lastSeen, (replay_job_state_ok replays).2.2.2.1]
        rfl
      cases held : registeredJob sched row.jobID with
      | none =>
        exact .rebuilt _ held rfl (recovered_tasks_agree
          (replay_job_state_ok replays).2.2.2.2.1 ((visits row.jobID).oracle.permutes _))
      | some job =>
        simp only [warmedEntry, seen]
        split_ifs with behind
        · exact .refreshed job _ held (refreshes.mpr ⟨past, lasts, behind⟩)
        · rw [← held]
          exact .kept fun _ refreshed => behind (refreshes.mp refreshed).2.2
    · have unread (raw : ReplayedJobState) : ¬ Reads visits sched row raw := by
        intro other
        have same := ((reads_iff logged replays).mp other).2.2
        exact reads (same ▸ other)
      rw [(visit_skips sound unread).2]
      refine .kept fun _ refreshed => reads ((reads_iff logged replays).mpr ?_)
      obtain ⟨past, lasts, _⟩ := (refreshes_row visits keyed unfinished).mp refreshed
      exact ⟨past, lasts, rfl⟩
  · rw [(unvisited jobID listed).entry]
    refine .kept fun _ refreshed => listed ?_
    obtain ⟨row, unfinished, named, _⟩ := refreshed
    exact List.mem_map.mpr ⟨row, (mem_insertionSort reconcileOrder).mpr unfinished, named⟩

/-- A follower pass that returns nil leaves every job with a log where the log
leads exactly when the entries it does not refresh were there before. -/
theorem follower_pass_converges_iff {visits : String → Visit} {sched final : Scheduler Input}
    (sound : TableSound sched) (keyed : JobRowsKeyed sched.store)
    (run : FollowerRun visits sched ⟨.follower, false, .listing⟩ final) :
    Converged final ↔ NearlyConverged visits sched := by
  have store : final.store = sched.store := by
    rw [listing_run_folds run]
    exact (fold_visits visits sound (listed_jobs_distinct keyed)).1
  constructor
  · intro converged jobID job replayed logged held replays
    have after := entry_after sound keyed run logged replays
    rw [← store] at logged replays
    have agree (entry : Job Input) (found : registeredJob final jobID = some entry) :=
      converged jobID entry replayed logged found replays
    generalize foundEntry : registeredJob final jobID = found at after
    cases after with
    | kept =>
      obtain ⟨state, tasks⟩ := agree job (foundEntry.trans held)
      exact ⟨.inl state, tasks⟩
    | refreshed before _ same refreshes =>
      obtain rfl : before = job := some.inj (same.symm.trans held)
      exact ⟨.inr refreshes, (agree _ foundEntry).2⟩
    | rebuilt _ unknown =>
      rw [unknown] at held
      cases held
  · intro nearly jobID entry replayed logged found replays
    rw [store] at logged replays
    have after := entry_after sound keyed run logged replays
    rw [found] at after
    generalize wrapped : some entry = held at after
    cases after with
    | kept stays =>
      obtain ⟨state, tasks⟩ := nearly jobID entry replayed logged wrapped.symm replays
      exact ⟨state.resolve_right (stays (by rw [← wrapped]; rfl)), tasks⟩
    | refreshed job _ held =>
      cases wrapped
      exact ⟨rfl, (nearly jobID job replayed logged held replays).2⟩
    | rebuilt _ _ state tasks =>
      cases wrapped
      exact ⟨state, tasks⟩

def sampleMoves : List (TransitionType × JobLifecycleState) :=
  [(.jobSubmitted, .submitted), (.jobQueued, .queued), (.jobFailed, .failed)]

/-- A store with the first `count` transitions of a job no node was found for. -/
def storeAfter (count : Nat) : TransitionStore :=
  ((sampleMoves.take count).foldl
    (fun sched move => recordJobTransition sched 0 move.1 move.2 "" 1 none)
    (registerJob (newScheduler SampleInput ⟨false, 10, 2⟩) (sampleJob ["task-1"]))).store

/-- A follower that holds the job in `state`, having counted `seen` transitions. -/
def followerWith (state : JobLifecycleState) (seen : Nat) (store : TransitionStore) :
    Scheduler SampleInput :=
  { registerJob (newScheduler SampleInput ⟨false, 10, 2⟩)
      { sampleJob ["task-1"] with lifecycleState := some state } with
    jobSequences := fun _ => seen
    store := store }

def calmVisits : String → Visit := fun _ => ⟨1, false, calm⟩

omit [GoRuntime Input] in
theorem new_table_sound (config : SchedulerConfig) : TableSound (newScheduler Input config) := by
  refine ⟨fun jobID ref known => ?_, fun _ _ => rfl⟩
  cases known

theorem follower_with_sound (state : JobLifecycleState) (seen : Nat) (store : TransitionStore) :
    TableSound (followerWith state seen store) := by
  have fresh : TableSound (newScheduler SampleInput ⟨false, 10, 2⟩) := new_table_sound _
  have registered := (register_confined fresh
    { sampleJob ["task-1"] with lifecycleState := some state }).1.sound
  exact ⟨registered.named, registered.unused⟩

theorem job_rows_keyed (keyed : ∀ entry ∈ store.jobs.entries, entry.2.jobID = entry.1) :
    JobRowsKeyed store :=
  fun jobID row found => keyed ⟨jobID, row⟩ (AList.mem_lookup_iff.mp found)

/-- The log ends in FAILED, so the job is not listed, and the follower goes on
showing it as QUEUED. -/
theorem finished_job_stays_queued_on_follower :
    TableSound (followerWith .queued 2 (storeAfter 3)) ∧ JobRowsKeyed (storeAfter 3) ∧
      FollowerRun calmVisits (followerWith .queued 2 (storeAfter 3))
        ⟨.follower, false, .listing⟩ (followerWith .queued 2 (storeAfter 3)) ∧
      ¬ Converged (followerWith .queued 2 (storeAfter 3)) := by
  refine ⟨follower_with_sound _ _ _, job_rows_keyed (by decide), ?_, ?_⟩
  · exact .step "job-1" (by simp [inHand]) rfl (.returned rfl)
  · intro converged
    have replays : ∃ replayed, replayJobState none (storeAfter 3) "job-1" = .ok replayed ∧
        replayed.job.currentState = some .failed := ⟨_, rfl, rfl⟩
    obtain ⟨replayed, accepted, failed⟩ := replays
    have agreed := (converged "job-1" _ replayed (by decide) rfl accepted).1
    rw [failed] at agreed
    cases agreed

def queuedRow : DurableJobRecord := ⟨"job-1", "job", some .queued, 2, 1, 1⟩

/-- A follower that missed the queueing of a job catches up on it. -/
theorem follower_catches_up_on_queued_job :
    Converged ([queuedRow].foldl (visitJob calmVisits)
      (followerWith .submitted 1 (storeAfter 2))) := by
  refine (follower_pass_converges_iff (follower_with_sound .submitted 1 (storeAfter 2))
    (job_rows_keyed (by decide)) (.step "" (fun _ held => nomatch held) rfl
      (follower_run_returns (fun _ => rfl) _ _))).mpr ?_
  intro jobID job _ _ held replays
  by_cases same : jobID = "job-1"
  · subst same
    cases held
    cases replays
    refine ⟨.inr ⟨queuedRow, by decide, rfl, rfl, rfl, by decide⟩, ?_⟩
    intro _ member
    cases mem_singleton.mp member
    rfl
  · simp [followerWith, newScheduler, sampleJob, newJob, same] at held

end Dagens.Scheduler.FollowerReplay
