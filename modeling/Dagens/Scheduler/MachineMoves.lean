import Dagens.Scheduler.Machine
import Dagens.Scheduler.Memory

/-!
# What a step of the machine can do

Every step of every thread has one of few effects on the shared memory:
`SchedMove` lists them. What a thread carries from one step to the next is an
`Item`, and a step either keeps the items it had or acquires them from the
memory it reads. Invariants of the machine are proved from these two facts and
do not look at program counters again.
-/

namespace Dagens.Scheduler.MachineMoves

open Lifecycle GoSupport Replay Transitions StoreEffects Goroutine Reconcile StageRun
  Operations Memory Machine Option Function List

variable {Input : Type} [GoRuntime Input]

/-- A job whose id the table did not know gets an object of its own. -/
structure Registers (sched : Scheduler Input) (job : Job Input) (after : Scheduler Input) :
    Prop where
  unknown : sched.jobs job.id = none
  config : after.config = sched.config
  store : after.store = sched.store
  jobs : after.jobs = update sched.jobs job.id (some sched.nextRef)
  nextRef : after.nextRef = sched.nextRef + 1
  objects : after.objects = update sched.objects sched.nextRef (some job)
  sequences : ∀ jobID, sched.jobSequences jobID ≤ after.jobSequences jobID

inductive SchedMove (sched : Scheduler Input) : Access → Scheduler Input → Prop where
  | steady (access : Access) {after : Scheduler Input} (same : Steady sched after) :
      SchedMove sched access after
  | prepared (jobID : String) {middle : Scheduler Input} (same : Steady sched middle) :
      SchedMove sched .quiet (takeSequence middle jobID)
  | recorded (ref : Nat) (transition : TransitionType) (newState : JobLifecycleState)
      (errorSummary : String) (now : Time) (fault : Option GoError) :
      SchedMove sched (.jobTransition ref)
        (recordJobTransition sched ref transition newState errorSummary now fault)
  | reported (ref : Nat) (position : Position) (task : Task Input) (write : PendingWrite)
      (found : objectTask sched ref position = some task) (valid : Valid write.record) :
      SchedMove sched (.commit ⟨ref, position, false, write⟩ none)
        (updateTask { sched with store := taskCommitted task write sched.store } ref position
          { task with lifecycleState := some write.newState })
  | claimed (ref : Nat) (position : Position) (task : Task Input) (write : PendingWrite)
      (found : objectTask sched ref position = some task) (valid : Valid write.record)
      (accepted : ∀ row, sched.store.tasks.lookup task.id = some row →
        claimAccepted row write.record.attempt = true) :
      SchedMove sched (.commit ⟨ref, position, true, write⟩ none)
        (updateTask { sched with store := claimCommitted task write sched.store } ref position
          { task with lifecycleState := some .dispatched })
  | registered (job : Job Input) {after : Scheduler Input} (registers : Registers sched job after) :
      SchedMove sched .quiet after
  | warmed (replayed : ReplayedJobState) (job : Job Input) {after : Scheduler Input}
      (registers : Registers sched job after) : SchedMove sched (.warm replayed) after
  | linked (ref : Nat) (job : Job Input) (found : sched.objects ref = some job)
      (unknown : sched.jobs job.id = none) :
      SchedMove sched .quiet
        { sched with jobs := update sched.jobs job.id (some ref) }
  | installed (jobID : String) (replayed : ReplayedJobState) (rows : List DurableTaskRecord)
      (permutes : rows.Perm (replayedRows replayed)) :
      SchedMove sched (.install jobID replayed) (installRefreshedJob sched jobID replayed rows)
  | caughtUp (replayed : ReplayedJobState) (ref : Nat) (job : Job Input)
      (entry : sched.jobs replayed.job.jobID = some ref) (found : sched.objects ref = some job)
      (behind : sched.jobSequences replayed.job.jobID < replayed.job.lastSequenceID) :
      SchedMove sched (.warm replayed)
        (seedJobSequence (setObject sched ref
            { job with
              lifecycleState := replayed.job.currentState
              updatedAt := replayed.job.updatedAt })
          job.id replayed.job.lastSequenceID replayed.transitions)
  | forced (ref : Nat) (row : DurableJobRecord) (now : Time) (fault : Option GoError) :
      SchedMove sched (.force row) (forceStep sched ref row now fault)

inductive Item where
  | pending (prepared : Prepared)
  | reading (jobID : String) (replayed : ReplayedJobState)
  | warming (replayed : ReplayedJobState)
  | listing (row : DurableJobRecord)

def listedRows : PassPC → List DurableJobRecord
  | .listing => []
  | .next todo => todo
  | .replaying durableJob todo => durableJob :: todo
  | .locking durableJob _ todo => durableJob :: todo
  | .examining _ durableJob _ todo => durableJob :: todo
  | .synthesizing _ _ todo => todo
  | .recordTerminal _ _ todo => todo
  | .queueing _ durableJob todo => durableJob :: todo
  | .admitting _ durableJob todo => durableJob :: todo
  | .authorizing durableJob _ todo => durableJob :: todo
  | .fetching durableJob _ todo => durableJob :: todo
  | .condemning _ durableJob _ todo => durableJob :: todo
  | .deciding _ durableJob _ todo => durableJob :: todo
  | .forcing _ durableJob todo => durableJob :: todo

inductive Holds : Thread Input → Item → Prop where
  | creating (ref : Nat) (position : Position) (todo : List Position) (write : PendingWrite) :
      Holds (.submit ref (.createPending position todo write))
        (.pending ⟨ref, position, false, write⟩)
  | working (exec : Exec) (stage : Nat) (run : StageRun Goroutine) (index : Nat)
      (routine : Goroutine) (prepared : Prepared) (inStage : exec.pc = .inStage stage run)
      (running : run.workers[index]? = some (.running routine))
      (pending : routinePending exec.ref ⟨stage, index⟩ routine.pc = some prepared) :
      Holds (.exec exec) (.pending prepared)
  | refreshing (jobID : String) (replayed : ReplayedJobState) :
      Holds (.loop (.installing jobID replayed)) (.reading jobID replayed)
  | resuming (jobID : String) (context : List (String × GoRuntime.Value Input))
      (replayed : ReplayedJobState) :
      Holds (.resume jobID context (.installing replayed)) (.reading jobID replayed)
  | hydrating (jobID : String) (context : List (String × GoRuntime.Value Input))
      (replayed : ReplayedJobState) :
      Holds (.resume jobID context (.hydrating replayed)) (.reading jobID replayed)
  | warming (pass : Pass) (durableJob : DurableJobRecord) (replayed : ReplayedJobState)
      (todo : List DurableJobRecord) (locking : pass.pc = .locking durableJob replayed todo) :
      Holds (.pass pass) (.warming replayed)
  | listing (pass : Pass) (row : DurableJobRecord) (member : row ∈ listedRows pass.pc) :
      Holds (.pass pass) (.listing row)

/-- A write that a step has just prepared: its sequence number is the next one
of its job, and it is about the task that is now at its position. -/
structure Prepares (sched : Scheduler Input) (prepared : Prepared) (after : Scheduler Input) :
    Prop where
  entity : prepared.write.record.entityType = .task
  state : prepared.write.record.newState = prepared.write.newState.text
  claims : prepared.claims = true → prepared.write.newState = .dispatched
  sequence : prepared.write.record.sequenceID = nextSequence sched prepared.write.record.jobID
  counted : after.jobSequences prepared.write.record.jobID = prepared.write.record.sequenceID
  owner : ∃ task, objectTask after prepared.ref prepared.position = some task ∧
    prepared.write.record.taskID = task.id ∧ prepared.write.record.jobID = task.jobID
  snapshot : ∃ now, prepared.write.snapshot = durableJobSnapshot sched
    prepared.write.record.jobID prepared.write.record.sequenceID now

inductive Acquires (held : Item → Prop) (sched after : Scheduler Input) : Item → Prop where
  | prepared (prepared : Prepared) (prepares : Prepares sched prepared after) :
      Acquires held sched after (.pending prepared)
  | read (jobID : String) (replayed : ReplayedJobState) (ctxErr : Option GoError)
      (replays : replayJobState ctxErr sched.store jobID = .ok replayed) :
      Acquires held sched after (.reading jobID replayed)
  | replayed (row : DurableJobRecord) (raw : ReplayedJobState) (ctxErr : Option GoError)
      (listed : held (.listing row))
      (replays : replayJobState ctxErr sched.store row.jobID = .ok raw) :
      Acquires held sched after (.warming (completeReplay row raw))
  | listed (row : DurableJobRecord) (member : row ∈ listUnfinishedJobs sched.store) :
      Acquires held sched after (.listing row)

/-- What a step of a thread does: its effect on the memory, and where the items
of the thread come from. -/
structure StepSpec (sched : Scheduler Input) (thread : Thread Input) (event : Event)
    (after : Scheduler Input) (next : Option (Thread Input)) : Prop where
  move : SchedMove sched (access sched thread event) after
  items : ∀ later item, next = some later → Holds later item →
    Holds thread item ∨ Acquires (Holds thread) sched after item

variable {sched after : Scheduler Input} {event : Event} {ref index : Nat} {position : Position}
  {task old : Task Input} {ctxErr : Option GoError} {jobID : String} {replayed : ReplayedJobState}
  {now : Time} {exec : Exec} {cancelled : Bool} {Routine : Type} {result : Outcome Input}
  {thread : Thread Input} {routine : Goroutine} {answers : Answers} {progress : Progress Input}
  {other : Nat} {worker found : Worker Goroutine}

theorem step_spec_return (move : SchedMove sched (access sched thread event) after) :
    StepSpec sched thread event after none :=
  ⟨move, by rintro _ _ ⟨⟩⟩

theorem step_spec_idle {next : Thread Input}
    (move : SchedMove sched (access sched thread event) after) (idle : ∀ item, ¬ Holds next item) :
    StepSpec sched thread event after (some next) := by
  refine ⟨move, ?_⟩
  rintro _ item ⟨⟩ holds
  exact absurd holds (idle item)

attribute [local simp] objectTask setObject takeSequence nextSequence listedRows routinePending
  routineAccess failedAttempt

section

omit [GoRuntime Input]

theorem owned_task_kept (found : ownedTaskAt sched ref position = some task) :
    ∃ old, objectTask sched ref position = some old ∧ TaskKept old task := by
  simp only [ownedTaskAt, bind_eq_bind, bind_eq_some_iff, Option.pure_def,
    Option.some.injEq] at found
  obtain ⟨_, atRef, _, atStage, old, atIndex, rfl⟩ := found
  refine ⟨old, ?_, rfl, fun owned => by simp [Process.ownedTask, owned]⟩
  simp [atRef, taskAt, atStage, atIndex]

theorem object_task_updated (found : objectTask sched ref position = some old) (task : Task Input) :
    objectTask (updateTask sched ref position task) ref position = some task := by
  obtain ⟨job, _, atPosition, updated⟩ := update_task_found found task
  simp [updated, task_at_set_self job position task atPosition]

theorem object_task_other {other : Position} (found : objectTask sched ref position = some old)
    (task : Task Input) (different : other ≠ position) :
    objectTask (updateTask sched ref position task) ref other = objectTask sched ref other := by
  obtain ⟨job, atRef, _, updated⟩ := update_task_found found task
  simp [updated, atRef, task_at_set_ne job position other task different]

theorem snapshot_steady (found : objectTask sched ref position = some old) (task : Task Input)
    (jobID : String) (sequenceID : Nat) (now : Time) :
    durableJobSnapshot (updateTask sched ref position task) jobID sequenceID now =
      durableJobSnapshot sched jobID sequenceID now := by
  obtain ⟨_, atRef, _, updated⟩ := update_task_found found task
  rw [updated]
  simp only [durableJobSnapshot, registeredJob, setObject]
  cases sched.jobs jobID with
  | none => rfl
  | some other =>
    by_cases same : other = ref
    · subst same
      simp [atRef, jobRow, setTaskAt]
    · simp [same]

end

section

variable (sched ref)

theorem create_spec (position : Position) (todo : List Position) (oracle : Oracle) (now : Time) :
    StepSpec sched (.submit ref (.creating (position :: todo))) (.step oracle)
      (createStep sched ref position todo now).1
      ((createStep sched ref position todo now).2.map (.submit ref)) := by
  unfold createStep
  split
  · exact step_spec_idle (.steady _ (steady_refl sched)) (by rintro _ ⟨⟩)
  · rename_i task found
    obtain ⟨_, atPosition, kept⟩ := owned_task_kept found
    have steady := steady_update_task atPosition kept
    dsimp only
    split
    · exact step_spec_idle (.steady _ steady) (by rintro _ ⟨⟩)
    · rename_i write isPrepared
      obtain ⟨_, record, newState, snapshot⟩ := (prepare_task_transition_some ..).mp isPrepared
      refine ⟨.prepared task.jobID steady, ?_⟩
      rintro _ _ ⟨⟩ holds
      cases holds
      refine .inr (.prepared _ ?_)
      have sequence : nextSequence (updateTask sched ref position task) task.jobID =
          nextSequence sched task.jobID := by
        simp [steady.sequences]
      refine ⟨by rw [record]; rfl, by rw [record, newState]; rfl, by rintro ⟨⟩, ?_, ?_, ?_,
        ⟨now, ?_⟩⟩
      · rw [record]
        exact sequence
      · rw [record]
        simp [taskRecord]
      · exact ⟨task, object_task_updated atPosition task, by rw [record]; rfl, by rw [record]; rfl⟩
      · rw [snapshot, record]
        exact snapshot_steady atPosition task task.jobID _ now

theorem commit_created_move (position : Position) (write : PendingWrite) (fault : Option GoError) :
    SchedMove sched (.commit ⟨ref, position, false, write⟩ fault)
      (commitCreated sched ref position write fault) := by
  unfold commitCreated
  split
  · exact .steady _ (steady_refl sched)
  · rename_i task found
    split
    · exact .steady _ (steady_refl sched)
    · rename_i recorded store committed
      obtain ⟨⟨rfl, valid⟩, result⟩ := (commit_task_transition_ok ..).mp committed
      cases result
      exact .reported ref position task write found valid

theorem submit_spec (pc : SubmitPC) (oracle : Oracle) (now : Time) :
    StepSpec sched (.submit ref pc) (.step oracle) (submitStep sched ref pc oracle now).1
      ((submitStep sched ref pc oracle now).2.map (.submit ref)) := by
  cases pc with
  | recordSubmitted | recordQueued =>
    exact step_spec_idle (.recorded ref _ _ _ _ _) (by rintro _ ⟨⟩)
  | creating todo =>
    cases todo with
    | nil =>
      exact step_spec_idle (.steady _ (steady_refl sched)) (by rintro _ ⟨⟩)
    | cons position todo => exact create_spec sched ref position todo oracle now
  | createPending position _ write =>
    exact step_spec_idle (commit_created_move sched ref position write oracle.fault) (by rintro _ ⟨⟩)
  | enqueueing =>
    have released : Steady sched { sched with pendingEnqueue := sched.pendingEnqueue - 1 } :=
      steady_of_objects rfl rfl rfl rfl rfl rfl
    exact step_spec_return (.steady _ (released.trans (steady_enqueue _ ref)))

end

theorem read_durable_replays {store : TransitionStore}
    (read : readDurableState ctxErr store jobID = some replayed) :
    replayJobState ctxErr store jobID = .ok replayed := by
  unfold readDurableState at read
  split_ifs at read
  split at read
  · cases read
  · rename_i found replays
    split_ifs at read
    cases read
    exact replays

section

omit [GoRuntime Input]

theorem read_unknown_replays (read : readUnknownJob sched jobID ctxErr = some replayed) :
    replayJobState ctxErr sched.store jobID = .ok replayed := by
  unfold readUnknownJob at read
  split at read
  · cases read
  · rename_i found replays
    split_ifs at read
    cases read
    exact replays

theorem read_job_replays (read : readJob sched ref ctxErr = some (jobID, replayed)) :
    replayJobState ctxErr sched.store jobID = .ok replayed := by
  obtain ⟨_, _, durable⟩ := bind_eq_some_iff.mp read
  obtain ⟨_, reads, same⟩ := map_eq_some_iff.mp durable
  cases same
  exact read_durable_replays reads

theorem seed_sequences_le (sched : Scheduler Input) (seeded jobID : String) (durableLast : Nat)
    (transitions : List TransitionRecord) :
    sched.jobSequences jobID ≤
      (seedJobSequence sched seeded durableLast transitions).jobSequences jobID := by
  simp only [seedJobSequence]
  by_cases same : jobID = seeded
  · subst same
    simp
  · simp [same]

theorem registers_seeded (job : Job Input) (unknown : sched.jobs job.id = none) (seeded : String)
    (durableLast : Nat) (transitions : List TransitionRecord) :
    Registers sched job (seedJobSequence (registerJob sched job) seeded durableLast transitions) :=
  ⟨unknown, rfl, rfl, rfl, rfl, rfl, fun jobID =>
    seed_sequences_le (registerJob sched job) seeded jobID durableLast transitions⟩

end

section

variable (sched)

theorem loop_spec (pc : LoopPC) (oracle : Oracle) :
    StepSpec sched (.loop pc) (.step oracle) (loopStep sched pc oracle).1
      (loopStep sched pc oracle).2 := by
  cases pc with
  | taken ref => exact step_spec_idle (.steady _ (steady_dequeued sched ref)) (by rintro _ ⟨⟩)
  | checking | rechecking =>
    simp only [loopStep]
    split_ifs
    · exact step_spec_idle (.steady _ (steady_refl sched)) (by rintro _ ⟨⟩)
    · exact step_spec_return (.steady _ (steady_refl sched))
  | authorizing ref =>
    simp only [loopStep]
    split_ifs
    · exact step_spec_idle (.steady _ (steady_refl sched)) (by rintro _ ⟨⟩)
    · exact step_spec_return (.steady _ (steady_enqueue sched ref))
  | reading =>
    simp only [loopStep]
    split
    · exact step_spec_idle (.steady _ (steady_refl sched)) (by rintro _ ⟨⟩)
    · rename_i jobID replayed read
      refine ⟨.steady _ (steady_refl sched), ?_⟩
      rintro later item ⟨⟩ holds
      cases holds
      exact .inr (.read jobID replayed _ (read_job_replays read))
  | installing jobID replayed =>
    exact step_spec_idle (.installed jobID replayed _ (oracle.permutes _)) (by rintro _ ⟨⟩)

/-- A read that a thread holds is a read of the job it was asked for. -/
def OwnRead (thread : Thread Input) : Prop :=
  ∀ jobID replayed, Holds thread (.reading jobID replayed) → replayed.job.jobID = jobID

theorem resume_spec (jobID : String) (context : List (String × GoRuntime.Value Input))
    (pc : ResumePC) (oracle : Oracle) (own : OwnRead (.resume jobID context pc)) :
    StepSpec sched (.resume jobID context pc) (.step oracle)
      (resumeStep sched jobID context pc oracle).1
      (resumeStep sched jobID context pc oracle).2 := by
  have same : ∀ access, SchedMove sched access sched := fun access =>
    .steady access (steady_refl sched)
  cases pc with
    simp only [resumeStep]
  | lookup =>
    split
    · exact step_spec_idle (same _) (by rintro _ ⟨⟩)
    · refine ⟨same _, ?_⟩
      intro later item isNext holds
      obtain ⟨replayed, read, rfl⟩ := map_eq_some_iff.mp isNext
      cases holds
      exact .inr (.read jobID replayed _ (read_unknown_replays read))
  | hydrating replayed =>
    have own := own jobID replayed (.hydrating jobID context replayed)
    refine step_spec_idle ?_ (by rintro _ ⟨⟩)
    unfold hydrateJob
    split
    · exact .steady _ (steady_refl sched)
    · rename_i unknown
      refine .registered _ (registers_seeded _ ?_ _ _ _)
      rw [← own] at unknown
      exact unknown
  | checking =>
    split
    · exact step_spec_idle (same _) (by rintro _ ⟨⟩)
    · split_ifs
      · exact step_spec_return (same _)
      · exact step_spec_idle (same _) (by rintro _ ⟨⟩)
  | reading =>
    refine ⟨same _, ?_⟩
    intro later item isNext holds
    obtain ⟨replayed, read, rfl⟩ := map_eq_some_iff.mp isNext
    cases holds
    exact .inr (.read jobID replayed _ (read_durable_replays read))
  | installing replayed =>
    exact step_spec_idle (.installed jobID replayed _ (oracle.permutes _)) (by rintro _ ⟨⟩)
  | deciding =>
    split_ifs
    · exact step_spec_idle (same _) (by rintro _ ⟨⟩)
    · exact step_spec_return (same _)
  | authorizing =>
    split_ifs
    · exact step_spec_idle (same _) (by rintro _ ⟨⟩)
    · exact step_spec_idle (same _) (by rintro _ ⟨⟩)
    · exact step_spec_return (same _)
  | resetting ref =>
    refine step_spec_idle (.steady _ ?_) (by rintro _ ⟨⟩)
    unfold resetTasks
    split
    · exact steady_refl sched
    · rename_i job found
      exact steady_set found ⟨kept_resumed context job, rfl⟩

end

def locks : PassPC → Bool
  | .locking _ _ _ => true
  | _ => false

theorem pass_spec_listed {pass : Pass} {oracle : Oracle} {pc : PassPC}
    (move : SchedMove sched (passAccess sched pass.pc) after)
    (listed : ∀ row ∈ listedRows pc, row ∈ listedRows pass.pc) (unlocked : locks pc = false) :
    StepSpec sched (.pass pass) (.step oracle) after (some (.pass { pass with pc := pc })) := by
  refine ⟨move, ?_⟩
  rintro _ _ ⟨⟩ holds
  cases holds with
  | warming _ _ _ _ locking =>
    cases locking
    cases unlocked
  | listing _ row member => exact .inl (.listing pass row (listed row member))

theorem warm_move (sched : Scheduler Input) (replayed : ReplayedJobState)
    (rows : List DurableTaskRecord) :
    SchedMove sched (.warm replayed) (warmJob sched replayed rows).1 := by
  unfold warmJob
  split
  · rename_i unknown
    exact .warmed replayed _ (registers_seeded _ unknown _ _ _)
  · rename_i ref entry
    split
    · exact .steady _ (steady_refl sched)
    · rename_i job found
      split_ifs with behind
      · exact .caughtUp replayed ref job entry found behind
      · exact .steady _ (steady_refl sched)

theorem rest_listed {pass : Pass} {pc : PassPC} {durableJob : DurableJobRecord}
    {todo : List DurableJobRecord} (atPC : pass.pc = pc)
    (rows : listedRows pc = durableJob :: todo) :
    ∀ row ∈ listedRows (.next todo), row ∈ listedRows pass.pc := by
  rw [atPC, rows]
  exact fun row member => mem_cons_of_mem durableJob member

section

variable (sched) (pass : Pass)

section

variable (durableJob : DurableJobRecord) (todo : List DurableJobRecord) (oracle : Oracle)
  (now : Time)

theorem next_spec (pc : pass.pc = .next (durableJob :: todo)) :
    StepSpec sched (.pass pass) (.step oracle) (nextStep sched pass durableJob todo now).1
      ((nextStep sched pass durableJob todo now).2.map fun pc => .pass { pass with pc := pc }) := by
  have rest := rest_listed pc rfl
  have all : ∀ row ∈ listedRows (.replaying durableJob todo), row ∈ listedRows pass.pc := by
    rw [pc]
    exact fun row member => member
  unfold nextStep
  split_ifs with expired leads
  · exact step_spec_return (.steady _ (steady_refl sched))
  · split
    · exact pass_spec_listed (.steady _ (steady_refl sched)) rest rfl
    · rename_i cleared past
      have steady := (steady_past_quarantine past).trans
        (steady_try_enqueue cleared durableJob.jobID)
      dsimp only
      split_ifs
      · exact pass_spec_listed (.steady _ steady) rest rfl
      · exact pass_spec_listed (.steady _ steady) all rfl
  · split
    · exact pass_spec_listed (.steady _ (steady_refl sched)) rest rfl
    · rename_i cleared past
      exact pass_spec_listed (.steady _ (steady_past_quarantine past)) all rfl

theorem replay_spec (pc : pass.pc = .replaying durableJob todo) :
    StepSpec sched (.pass pass) (.step oracle) (replayStep sched pass durableJob todo now).1
      ((replayStep sched pass durableJob todo now).2.map fun pc =>
        .pass { pass with pc := pc }) := by
  have rest := rest_listed pc rfl
  have all : ∀ reason, ∀ row ∈ listedRows (.authorizing durableJob reason todo),
      row ∈ listedRows pass.pc := by
    rw [pc]
    exact fun _ row member => member
  have quarantined : ∀ access deadline, SchedMove sched access
      { sched with replayQuarantine := deadline } := fun access deadline =>
    .steady access (steady_of_objects rfl rfl rfl rfl rfl rfl)
  unfold replayStep
  split
  · split_ifs
    · exact pass_spec_listed (quarantined _ _) (all _) rfl
    · exact pass_spec_listed (.steady _ (steady_refl sched)) rest rfl
  · rename_i raw replays
    dsimp only
    split_ifs
    · exact pass_spec_listed (quarantined _ _) (all _) rfl
    · exact pass_spec_listed (quarantined _ _) (all _) rfl
    · refine ⟨quarantined _ _, ?_⟩
      rintro _ _ ⟨⟩ holds
      cases holds with
      | warming _ _ _ _ locking =>
        cases locking
        refine .inr (.replayed durableJob raw _ (.listing pass durableJob ?_) replays)
        rw [pc]
        exact mem_cons_self
      | listing _ row member => exact .inl (.listing pass row (all "" row member))

theorem fetch_spec (reason : String) (pc : pass.pc = .fetching durableJob reason todo) :
    StepSpec sched (.pass pass) (.step oracle) (fetchStep sched durableJob reason todo).1
      ((fetchStep sched durableJob reason todo).2.map fun pc => .pass { pass with pc := pc }) := by
  have quiet : passAccess sched pass.pc = .quiet := by rw [pc]; rfl
  have rest := rest_listed pc rfl
  have all : ∀ ref, ∀ row ∈ listedRows (.condemning ref durableJob reason todo),
      row ∈ listedRows pass.pc := by
    rw [pc]
    exact fun _ row member => member
  have move : SchedMove sched (passAccess sched pass.pc)
      (fetchStep sched durableJob reason todo).1 := by
    rw [quiet]
    unfold fetchStep
    cases entry : sched.jobs durableJob.jobID with
    | none =>
      dsimp only
      split_ifs <;>
        exact .registered (quarantinedJob Input durableJob)
          ⟨entry, rfl, rfl, rfl, rfl, rfl, fun _ => le_rfl⟩
    | some =>
      dsimp only
      split_ifs <;> exact .steady _ (steady_refl sched)
  generalize fetched : fetchStep sched durableJob reason todo = result at move ⊢
  unfold fetchStep at fetched
  dsimp only at fetched
  split_ifs at fetched <;> subst fetched
  · exact pass_spec_listed move rest rfl
  · exact pass_spec_listed move (all _) rfl

theorem admit_spec (ref : Nat) (pc : pass.pc = .admitting ref durableJob todo) :
    StepSpec sched (.pass pass) (.step oracle) (admitStep sched ref durableJob todo).1
      ((admitStep sched ref durableJob todo).2.map fun pc => .pass { pass with pc := pc }) := by
  have rest := rest_listed pc rfl
  have same := SchedMove.steady (passAccess sched pass.pc) (steady_refl sched)
  unfold admitStep
  split
  · exact pass_spec_listed same rest rfl
  · dsimp only
    split_ifs
    · exact pass_spec_listed same rest rfl
    · exact pass_spec_listed same rest rfl
    · refine pass_spec_listed same ?_ rfl
      rw [pc]
      exact fun row member => member
    · exact pass_spec_listed (.steady _ (steady_enqueue sched ref)) rest rfl

end

theorem pass_spec (oracle : Oracle) (now : Time) :
    StepSpec sched (.pass pass) (.step oracle) (passStep sched pass oracle now).1
      ((passStep sched pass oracle now).2.map fun pc => .pass { pass with pc := pc }) := by
  have same : ∀ access, SchedMove sched access sched := fun access =>
    .steady access (steady_refl sched)
  obtain ⟨_, _, current⟩ := pass
  cases current with
    simp only [passStep]
  | listing =>
    refine ⟨same _, ?_⟩
    rintro _ _ ⟨⟩ holds
    cases holds with
    | warming _ _ _ _ locking => cases locking
    | listing _ row member =>
      exact .inr (.listed row ((mem_insertionSort _).mp member))
  | next todo =>
    cases todo with
    | nil =>
      exact step_spec_return (same _)
    | cons durableJob todo =>
      exact next_spec sched _ durableJob todo oracle now rfl
  | replaying durableJob todo =>
    exact replay_spec sched _ durableJob todo oracle now rfl
  | locking durableJob replayed todo =>
    simp only [lockStep]
    have move : SchedMove sched (passAccess sched (.locking durableJob replayed todo))
        (warmJob sched replayed (oracle.mapOrder (replayedRows replayed))).1 :=
      warm_move sched replayed _
    split_ifs
    · exact pass_spec_listed move (by simp) rfl
    · exact pass_spec_listed move (by simp +contextual [listedRows]) rfl
  | examining =>
    simp only [examineStep]
    split_ifs
    · split
      · exact pass_spec_listed (same _) (by simp +contextual [listedRows]) rfl
      · exact pass_spec_listed (same _) (by simp) rfl
    · exact pass_spec_listed (same _) (by simp) rfl
  | synthesizing ref | condemning ref =>
    exact pass_spec_listed (.steady _ (steady_update_status sched ref _ now))
      (by simp) rfl
  | recordTerminal ref =>
    exact pass_spec_listed (.recorded ref _ _ _ _ _) (by simp) rfl
  | queueing ref =>
    refine pass_spec_listed ?_ (by simp) rfl
    simp only [passAccess]
    split_ifs
    · exact .recorded ref _ _ _ _ _
    · exact same _
  | admitting ref durableJob todo =>
    exact admit_spec sched _ durableJob todo oracle ref rfl
  | authorizing =>
    split_ifs
    · exact pass_spec_listed (same _) (by simp) rfl
    · exact pass_spec_listed (same _) (by simp +contextual [listedRows]) rfl
  | fetching durableJob reason todo =>
    exact fetch_spec sched _ durableJob todo oracle reason rfl
  | deciding ref =>
    split_ifs with legal
    · refine pass_spec_listed ?_ (by simp +contextual [listedRows]) rfl
      simp only [passAccess, legal, if_true]
      exact .recorded ref _ _ _ _ _
    · exact pass_spec_listed (same _) (by simp) rfl
  | forcing ref durableJob =>
    exact pass_spec_listed (.forced ref durableJob now oracle.fault) (by simp +contextual [listedRows]) rfl

end

theorem record_job_keeps_tasks (sched : Scheduler Input) (ref : Nat) (transition : TransitionType)
    (newState : JobLifecycleState) (errorSummary : String) (now : Time) (fault : Option GoError)
    (other : Nat) (position : Position) :
    objectTask (recordJobTransition sched ref transition newState errorSummary now fault) other
      position = objectTask sched other position := by
  rcases record_job_transition_cases sched ref transition newState errorSummary now fault with
    same | ⟨_, found, _, taken | ⟨_, _, _, _, _, moved⟩⟩
  · rw [same]
  · rw [taken]
    rfl
  · rw [moved]
    by_cases here : other = ref
    · subst here
      simp [found, taskAt]
    · simp [here]

omit [GoRuntime Input] in
theorem update_task_take (sched : Scheduler Input) (jobID : String) (ref : Nat)
    (position : Position) (task : Task Input) :
    updateTask (takeSequence sched jobID) ref position task =
      takeSequence (updateTask sched ref position task) jobID := by
  unfold updateTask
  cases found : sched.objects ref <;> simp [found]

theorem routine_prepares {prepared : Prepared} (found : objectTask sched ref position = some task)
    (move : GoroutineMove sched routine task answers now progress)
    (pending : routinePending ref position progress.routine.pc = some prepared) :
    Prepares sched prepared (updateTask progress.sched ref position progress.task) := by
  have counted : ∀ later : Task Input, TaskKept task later →
      (updateTask (takeSequence sched task.jobID) ref position later).jobSequences task.jobID =
        nextSequence sched task.jobID := by
    intro later kept
    rw [update_task_take]
    simp [(steady_update_task found kept).sequences]
  have owner : ∀ later : Task Input, objectTask (updateTask (takeSequence sched task.jobID) ref
      position later) ref position = some later := by
    intro later
    rw [update_task_take]
    exact object_task_updated found later
  cases move with
  | quiet _ _ _ control =>
    generalize routine.pc = before at control
    cases control <;> simp at pending
  | retried | noted | jobRecorded | legacyClaim | illegalClaim | claimCommitted =>
    simp at pending
  | claimPrepared write _ _ _ record newState snapshot =>
    obtain rfl : ⟨ref, position, true, write⟩ = prepared := by
      simpa using pending
    refine ⟨?_, ?_, fun _ => newState, ?_, ?_, ⟨_, owner _, ?_, ?_⟩, ⟨now, ?_⟩⟩ <;>
      simp only [record, newState, snapshot]
    all_goals first | rfl | exact counted _ ⟨rfl, fun _ => rfl⟩
  | reportPrepared _ _ _ _ _ write _ _ phase _ _ record newState snapshot =>
    obtain rfl : ⟨ref, position, false, write⟩ = prepared := by
      cases phase <;> simpa using pending
    refine ⟨?_, ?_, by rintro ⟨⟩, ?_, ?_, ⟨_, owner _, ?_, ?_⟩, ⟨now, ?_⟩⟩ <;>
      simp only [record, newState, snapshot]
    all_goals first | rfl | exact counted _ ⟨rfl, fun _ => rfl⟩
  | reportCommitted _ _ _ _ _ _ phase =>
    cases phase <;> simp at pending

theorem routine_sched_move (found : objectTask sched ref position = some task)
    (stepped : goroutineStep sched routine task answers now = some progress) :
    SchedMove sched (routineAccess ref position routine answers)
      (updateTask progress.sched ref position progress.task) := by
  have move := goroutine_move stepped
  cases move with
  | quiet | legacyClaim | illegalClaim =>
    exact .steady _ (steady_update_task found ⟨rfl, fun _ => rfl⟩)
  | retried | noted =>
    exact .steady _ (steady_update_task found (task_kept_refl task))
  | jobRecorded job transition newState _ before =>
    have same := update_task_same ((record_job_keeps_tasks sched job transition newState "" now
      answers.fault ref position).trans found)
    dsimp only
    rw [same, show routineAccess ref position routine answers = .jobTransition job by
      simp [before]]
    exact .recorded job transition newState "" now answers.fault
  | claimPrepared _ before =>
    rw [show routineAccess ref position routine answers = .quiet by
      simp [before], update_task_take]
    exact .prepared _ (steady_update_task found ⟨rfl, fun _ => rfl⟩)
  | claimCommitted write before clean valid accepted =>
    rw [show routineAccess ref position routine answers =
        .commit ⟨ref, position, true, write⟩ none by
      simp [before, clean]]
    exact .claimed ref position task write found valid accepted
  | reportPrepared _ _ _ _ _ _ _ _ phase atStart =>
    rw [show routineAccess ref position routine answers = .quiet by
      cases phase <;> simp [atStart], update_task_take]
    exact .prepared _ (steady_update_task found ⟨rfl, fun _ => rfl⟩)
  | reportCommitted _ _ _ _ _ write phase atCommit clean valid =>
    rw [show routineAccess ref position routine answers =
        .commit ⟨ref, position, false, write⟩ none by
      cases phase <;> simp [atCommit, clean]]
    exact .reported ref position task write found valid

theorem exec_holds_nothing (empty : ∀ stage run, exec.pc = .inStage stage run → run.workers = [])
    (item : Item) :
    ¬ Holds (.exec exec : Thread Input) item := by
  intro holds
  cases holds with
  | working _ stage run _ _ _ inStage running =>
    simp [empty stage run inStage] at running

theorem exec_step_spec (oracle : Oracle) {pc : Option ExecPC}
    (stepped : execStep sched exec oracle now = some (after, pc)) :
    StepSpec sched (.exec exec) (.step oracle) after
      (pc.map fun pc => .exec { exec with pc := pc }) := by
  have idle : ∀ pc, (∀ stage run, pc = ExecPC.inStage stage run → run.workers = []) →
      SchedMove sched (execAccess sched exec) after →
      StepSpec sched (.exec exec) (.step oracle) after
        (some (.exec { exec with pc := pc })) := fun pc empty move =>
    step_spec_idle move (exec_holds_nothing empty)
  have same : ∀ access, SchedMove sched access sched := fun access =>
    .steady access (steady_refl sched)
  obtain ⟨ref, _, current⟩ := exec
  cases current with
  | begin | failing | completing =>
    cases stepped
    exact idle _ (by rintro _ _ ⟨⟩) (.steady _ (steady_update_status sched ref _ now))
  | queueing =>
    cases stepped
    exact idle _ (by split_ifs <;> rintro _ _ ⟨⟩) (same _)
  | recordQueued =>
    cases stepped
    exact idle _ (by rintro _ _ ⟨⟩) (.recorded ref _ _ _ _ _)
  | starting =>
    cases stepped
    refine idle _ (by rintro _ _ ⟨⟩) ?_
    simp only [execAccess]
    split_ifs
    · exact same _
    · exact .recorded ref _ _ _ _ _
  | openStage =>
    cases stepped
    refine idle _ ?_ (same _)
    split
    · rintro _ _ ⟨⟩
    · split_ifs
      · rintro _ _ ⟨⟩
        rfl
      · rintro _ _ ⟨⟩
  | inStage =>
    simp only [execStep] at stepped
    split at stepped
    · cases stepped
    · split_ifs at stepped
      cases stepped
      refine idle _ ?_ (same _)
      split <;> rintro _ _ ⟨⟩
  | recordFailure | recordSuccess =>
    cases stepped
    exact step_spec_return (.recorded ref _ _ _ _ _)

theorem stage_items {stage : Nat} {run worked : StageRun Goroutine}
    (inStage : exec.pc = .inStage stage run)
    (workers : ∀ index routine prepared, worked.workers[index]? = some (.running routine) →
      routinePending exec.ref ⟨stage, index⟩ routine.pc = some prepared → run.workers[index]? = some
      (.running routine) ∨ Prepares sched prepared after) :
    ∀ (later : Thread Input) (item : Item),
      some (.exec ⟨exec.ref, cancelled, .inStage stage worked⟩) = some later → Holds later item →
      Holds (.exec exec : Thread Input) item ∨
        Acquires (Holds (.exec exec : Thread Input)) sched after item := by
  rintro _ _ ⟨⟩ holds
  cases holds with
  | working _ _ _ index routine prepared here running pending =>
    cases here
    rcases workers index routine prepared running pending with old | new
    · exact .inl (.working exec stage run index routine prepared inStage old pending)
    · exact .inr (.prepared _ new)

theorem set_workers_kept {run : StageRun Goroutine}
    (here : (run.workers.set index worker)[other]? = some found) :
    (other = index ∧ worker = found) ∨ run.workers[other]? = some found := by
  rw [List.getElem?_set] at here
  split_ifs at here with same inside
  · exact .inl ⟨same.symm, Option.some.inj here⟩
  · exact .inr here

theorem append_workers_kept {run : StageRun Goroutine}
    (here : (run.workers ++ [worker])[other]? = some found) :
    (other = run.workers.length ∧ worker = found) ∨ run.workers[other]? = some found := by
  by_cases inside : other < run.workers.length
  · rw [List.getElem?_append_left inside] at here
    exact .inr here
  · rw [List.getElem?_append_right (not_lt.mp inside), List.getElem?_singleton] at here
    split_ifs at here with last
    exact .inl ⟨by omega, Option.some.inj here⟩

theorem finish_cases {result : Option GoError} {run after : StageRun Routine}
    (finished : finish index result run = some after) :
    after = { run with
      workers := run.workers.set index (match result with
        | none => .returned none
        | some err => .reporting err) } := by
  unfold finish at finished
  split at finished
  · cases result <;> cases finished <;> rfl
  · cases finished

theorem report_cases {viaDone : Bool} {run after : StageRun Routine}
    (reported : report index cancelled viaDone run = some after) :
    ∃ err, run.workers[index]? = some (.reporting err) ∧
      after = { run with
        workers := run.workers.set index (.returned (some err))
        errChan := if cancelled && viaDone then run.errChan else run.errChan ++ [err] } := by
  unfold report at reported
  split at reported
  · rename_i err reporting
    cases reported
    exact ⟨err, reporting, rfl⟩
  · cases reported

theorem launch_cases {total : Nat} {selection : Except GoError String} {start : String → Routine}
    {run after : StageRun Routine}
    (launched : launch total cancelled selection start run = some after) :
    run.selectionErr = none ∧
      ((∃ err, after = { run with selectionErr := some err }) ∨
        ∃ nodeID, after = { run with workers := run.workers ++ [.running (start nodeID)] }) := by
  unfold launch at launched
  split_ifs at launched with enabled stopped
  · cases launched
    exact ⟨enabled.1, .inl ⟨_, rfl⟩⟩
  · refine ⟨enabled.1, ?_⟩
    cases selection <;> cases launched
    · exact .inl ⟨_, rfl⟩
    · exact .inr ⟨_, rfl⟩

theorem work_spec {stage : Nat} {run worked : StageRun Goroutine} {events : List TaskEvent}
    (inStage : exec.pc = .inStage stage run)
    (stepped : workStep sched exec.ref stage run index answers now = some (after, worked, events)) :
    StepSpec sched (.exec exec) (.work index answers) after
      (some (.exec { exec with pc := .inStage stage worked })) := by
  unfold workStep at stepped
  split at stepped
  · rename_i routine task running found
    have here : access sched (.exec exec) (.work index answers) =
        routineAccess exec.ref ⟨stage, index⟩ routine answers := by
      simp [access, workAccess, inStage, running]
    split at stepped
    · rename_i err finished
      obtain ⟨_, finishes, same⟩ := map_eq_some_iff.mp stepped
      cases same
      refine ⟨.steady _ (steady_refl _), stage_items inStage ?_⟩
      intro other waiting prepared still pending
      rw [finish_cases finishes] at still
      rcases set_workers_kept still with ⟨_, running⟩ | old
      · cases err <;> cases running
      · exact .inl old
    · obtain ⟨_, moved, same⟩ := map_eq_some_iff.mp stepped
      cases same
      refine ⟨here ▸ routine_sched_move found moved, stage_items inStage ?_⟩
      intro other waiting prepared still pending
      rcases set_workers_kept still with ⟨rfl, same⟩ | old
      · cases same
        exact .inr (routine_prepares found (goroutine_move moved) pending)
      · exact .inl old
  · cases stepped

inductive ExecMove (sched : Scheduler Input) (exec : Exec) (now : Time) :
    Event → Outcome Input → Prop where
  | stepped (oracle : Oracle) (after : Scheduler Input) (pc : Option ExecPC)
      (moved : execStep sched exec oracle now = some (after, pc)) :
      ExecMove sched exec now (.step oracle)
        ⟨after, pc.map fun pc => .exec { exec with pc := pc }, [], succeededJobs after exec⟩
  | cancelled : ExecMove sched exec now .cancel
      (outcome sched (some (.exec { exec with cancelled := true })))
  | launched (stage : Nat) (run worked : StageRun Goroutine) (object : Stage Input)
      (selection : Except GoError String) (atStage : exec.pc = .inStage stage run)
      (here : stageOf sched exec.ref stage = some object)
      (launches : launch object.tasks.length exec.cancelled selection startGoroutine run =
        some worked) :
      ExecMove sched exec now (.launch selection)
        (outcome sched (some (.exec { exec with pc := .inStage stage worked })))
  | worked (stage : Nat) (run worked : StageRun Goroutine) (index : Nat) (answers : Answers)
      (after : Scheduler Input) (events : List TaskEvent) (atStage : exec.pc = .inStage stage run)
      (moved : workStep sched exec.ref stage run index answers now =
        some (after, worked, events)) :
      ExecMove sched exec now (.work index answers)
        ⟨after, some (.exec { exec with pc := .inStage stage worked }),
          executedKeys sched exec.ref ⟨stage, index⟩ events, []⟩
  | reported (stage : Nat) (run worked : StageRun Goroutine) (index : Nat) (viaDone : Bool)
      (atStage : exec.pc = .inStage stage run)
      (reports : report index exec.cancelled viaDone run = some worked) :
      ExecMove sched exec now (.report index viaDone)
        (outcome sched (some (.exec { exec with pc := .inStage stage worked })))

theorem exec_move (stepped : execEvent sched exec event now = some result) :
    ExecMove sched exec now event result := by
  cases event with
    simp only [execEvent, stageEvent] at stepped
  | step oracle =>
    obtain ⟨⟨after, pc⟩, moved, rfl⟩ := map_eq_some_iff.mp stepped
    exact .stepped oracle after pc moved
  | cancel =>
    cases stepped
    exact .cancelled
  | expire =>
    split at stepped <;> cases stepped
  | launch selection =>
    split at stepped
    · rename_i stage run atStage
      obtain ⟨object, here, started⟩ := bind_eq_some_iff.mp stepped
      obtain ⟨worked, launches, rfl⟩ := map_eq_some_iff.mp started
      exact .launched stage run worked object selection atStage here launches
    · cases stepped
  | work index answers =>
    split at stepped
    · rename_i stage run atStage
      obtain ⟨⟨after, worked, events⟩, moved, rfl⟩ := map_eq_some_iff.mp stepped
      exact .worked stage run worked index answers after events atStage moved
    · cases stepped
  | report index viaDone =>
    split at stepped
    · rename_i stage run atStage
      obtain ⟨worked, reports, rfl⟩ := map_eq_some_iff.mp stepped
      exact .reported stage run worked index viaDone atStage reports
    · cases stepped

theorem exec_stays (stepped : execEvent sched exec event now = some result) {later : Thread Input}
    (isLater : result.thread = some later) :
    ∃ cancelled pc, later = .exec ⟨exec.ref, cancelled, pc⟩ := by
  cases exec_move stepped with
  | stepped =>
    obtain ⟨_, _, rfl⟩ := map_eq_some_iff.mp isLater
    exact ⟨_, _, rfl⟩
  | _ =>
    cases isLater
    exact ⟨_, _, rfl⟩

theorem exec_spec (stepped : execEvent sched exec event now = some result) :
    StepSpec sched (.exec exec) event result.sched result.thread := by
  have inStage : ∀ stage (run worked : StageRun Goroutine) cancelled, exec.pc = .inStage stage run →
      (∀ (index : Nat) (routine : Goroutine) prepared,
        worked.workers[index]? = some (.running routine) →
        routinePending exec.ref ⟨stage, index⟩ routine.pc = some prepared →
        run.workers[index]? = some (.running routine)) →
      ∀ event, StepSpec sched (.exec exec) event sched
        (some (.exec ⟨exec.ref, cancelled, .inStage stage worked⟩)) :=
    fun stage run worked cancelled atStage kept event =>
      ⟨.steady _ (steady_refl sched), stage_items atStage fun index routine prepared running pending =>
        .inl (kept index routine prepared running pending)⟩
  cases exec_move stepped with
  | stepped oracle _ _ moved => exact exec_step_spec oracle moved
  | cancelled =>
    refine ⟨.steady _ (steady_refl sched), ?_⟩
    rintro _ _ ⟨⟩ holds
    cases holds with
    | working _ stage run index routine prepared here running pending =>
      exact .inl (.working exec stage run index routine prepared here running pending)
  | launched stage run worked _ _ atStage _ launches =>
    refine inStage stage run worked exec.cancelled atStage ?_ _
    intro index routine prepared running pending
    rcases launch_cases launches with ⟨_, ⟨_, rfl⟩ | ⟨_, rfl⟩⟩
    · exact running
    · rcases append_workers_kept running with ⟨_, new⟩ | old
      · cases new
        cases pending
      · exact old
  | worked stage run worked index answers _ _ atStage moved =>
    exact work_spec atStage moved
  | reported stage run worked _ _ atStage reports =>
    refine inStage stage run worked exec.cancelled atStage ?_ _
    intro _ routine prepared running pending
    obtain ⟨_, _, rfl⟩ := report_cases reports
    rcases set_workers_kept running with ⟨_, impossible⟩ | old
    · cases impossible
    · exact old

theorem thread_spec (own : OwnRead thread)
    (stepped : threadStep sched thread event now = some result) :
    StepSpec sched thread event result.sched result.thread := by
  cases thread with
  | submit ref pc =>
    cases event <;> cases stepped
    exact submit_spec sched ref pc _ now
  | loop pc =>
    cases event <;> cases stepped
    exact loop_spec sched pc _
  | resume jobID context pc =>
    cases event <;> cases stepped
    exact resume_spec sched jobID context pc _ own
  | entering ref =>
    cases event <;> cases stepped
    have idle : ∀ entered item, ¬ Holds (.exec ⟨entered, false, .begin⟩ : Thread Input) item := by
      rintro _ _ holds
      cases holds with
      | working _ _ _ _ _ _ inStage => cases inStage
    unfold enterJob
    split
    · exact step_spec_idle (.steady _ (steady_refl sched)) (idle _)
    · rename_i job found
      split
      · exact step_spec_idle (.steady _ (steady_refl sched)) (idle _)
      · rename_i unknown
        exact step_spec_idle (.linked ref job found unknown) (idle _)
  | exec exec => exact exec_spec stepped
  | pass pass =>
    cases event <;> cases stepped
    · exact pass_spec sched pass _ now
    · refine ⟨.steady _ (steady_refl sched), ?_⟩
      rintro _ _ ⟨⟩ holds
      cases holds with
      | warming _ durableJob replayed todo locking =>
        exact .inl (.warming pass durableJob replayed todo locking)
      | listing _ row member => exact .inl (.listing pass row member)

end Dagens.Scheduler.MachineMoves
