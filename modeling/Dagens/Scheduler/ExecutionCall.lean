import Dagens.Scheduler.JobHistory

/-!
# One call of `executeJob`

The call alone, with the goroutines of its tasks in any interleaving, while the
store accepts every write and the context is not cancelled. `CallMove` lists what
a step of such a call does; the history field `refused` records the tasks whose
executor call returned an error.
-/

namespace Dagens.Scheduler.ExecutionCall

open Lib GuardedRun Lifecycle GoSupport Replay Transitions StoreEffects Goroutine StageRun Reconcile
  Operations Machine MachineMoves Ledger List Option

variable {Input : Type} [GoRuntime Input]

structure Call (Input : Type) [GoRuntime Input] where
  sched : Scheduler Input
  now : Time
  exec : Option Exec
  refused : List String

inductive CallAction where
  | tick (elapsed : Time)
  | event (event : Event)

/-- The task whose executor call the event answers with an error. -/
def refusedTask (sched : Scheduler Input) (exec : Exec) : Event → Option String
  | .work index answers =>
    match exec.pc with
    | .inStage stage run =>
      match run.workers[index]?, answers.executor with
      | some (.running routine), some _ =>
        if routine.pc = .calling then
          (objectTask sched exec.ref ⟨stage, index⟩).map (·.id)
        else none
      | _, _ => none
    | _ => none
  | _ => none

def execOf : Option (Thread Input) → Option Exec
  | some (.exec exec) => some exec
  | _ => none

def callStep (call : Call Input) : CallAction → Option (Call Input)
  | .tick elapsed => some { call with now := call.now + elapsed }
  | .event event => do
      let exec ← call.exec
      let result ← execEvent call.sched exec event call.now
      return { call with
        sched := result.sched
        exec := execOf result.thread
        refused := call.refused ++ (refusedTask call.sched exec event).toList }

/-- Writes are accepted, the context is alive, and a selection fails only for
lack of capacity. -/
def calmAction : CallAction → Bool
  | .tick _ => true
  | .event (.step oracle) => oracle.fault.isNone
  | .event (.launch (.error err)) => decide (err = errNoWorkerCapacity)
  | .event (.launch (.ok _)) => true
  | .event (.work _ answers) => answers.fault.isNone
  | .event (.report _ _) => true
  | .event .cancel => false
  | .event .expire => false

/-- A worker whose `executeTaskWithRetry` has returned. -/
def finishedWorker : Option GoError → Worker Goroutine
  | none => .returned none
  | some err => .reporting err

/-- The call goes on at another position with the same history. -/
def goesOn (call : Call Input) (exec : Exec) (sched : Scheduler Input) (pc : ExecPC) :
    Call Input :=
  { call with sched := sched, exec := some { exec with pc := pc } }

inductive CallMove (call : Call Input) (exec : Exec) (action : CallAction) : Call Input → Prop where
  | begins (atPC : exec.pc = .begin) :
      CallMove call exec action
        (goesOn call exec (updateJobStatus call.sched exec.ref .running call.now) .queueing)
  | unqueued (atPC : exec.pc = .queueing)
      (state : lifecycleOf call.sched exec.ref = some .submitted) :
      CallMove call exec action (goesOn call exec call.sched .recordQueued)
  | queued (atPC : exec.pc = .queueing)
      (state : lifecycleOf call.sched exec.ref ≠ some .submitted) :
      CallMove call exec action (goesOn call exec call.sched .starting)
  | recordsQueued (atPC : exec.pc = .recordQueued) :
      CallMove call exec action (goesOn call exec
        (recordJobTransition call.sched exec.ref .jobQueued .queued "" call.now none) .starting)
  | starts (atPC : exec.pc = .starting) (tasks : hasTasks call.sched exec.ref = true) :
      CallMove call exec action (goesOn call exec call.sched (.openStage 0))
  | startsEmpty (atPC : exec.pc = .starting) (tasks : hasTasks call.sched exec.ref = false) :
      CallMove call exec action (goesOn call exec
        (recordJobTransition call.sched exec.ref
          (startTransition (lifecycleOf call.sched exec.ref)) .running "" call.now none)
        (.openStage 0))
  | exhausts (stage : Nat) (atPC : exec.pc = .openStage stage)
      (last : stageOf call.sched exec.ref stage = none) :
      CallMove call exec action (goesOn call exec call.sched .completing)
  | opens (stage : Nat) (object : Stage Input) (atPC : exec.pc = .openStage stage)
      (here : stageOf call.sched exec.ref stage = some object) :
      CallMove call exec action
        (goesOn call exec call.sched (.inStage stage (newStageRun Goroutine)))
  | unserved (stage : Nat) (object : Stage Input) (oracle : Oracle)
      (asked : action = .event (.step oracle)) (unavailable : oracle.nodesAvailable = false)
      (atPC : exec.pc = .openStage stage)
      (here : stageOf call.sched exec.ref stage = some object) :
      CallMove call exec action (goesOn call exec call.sched (.failing errNoHealthyNodes))
  | passes (stage : Nat) (run : StageRun Goroutine) (object : Stage Input)
      (atPC : exec.pc = .inStage stage run)
      (here : stageOf call.sched exec.ref stage = some object)
      (isJoined : joined object.tasks.length run = true)
      (clean : stageResult object.id run = none) :
      CallMove call exec action (goesOn call exec call.sched (.openStage (stage + 1)))
  | fails (stage : Nat) (run : StageRun Goroutine) (object : Stage Input) (err : GoError)
      (atPC : exec.pc = .inStage stage run)
      (here : stageOf call.sched exec.ref stage = some object)
      (isJoined : joined object.tasks.length run = true)
      (result : stageResult object.id run = some err) :
      CallMove call exec action (goesOn call exec call.sched (.failing err))
  | marksFailed (err : GoError) (atPC : exec.pc = .failing err) :
      CallMove call exec action (goesOn call exec
        (updateJobStatus call.sched exec.ref (failureStatus err) call.now) (.recordFailure err))
  | recordsFailure (err : GoError) (atPC : exec.pc = .recordFailure err) :
      CallMove call exec action { call with
        sched := recordJobTransition call.sched exec.ref (failureTransition err).1
          (failureTransition err).2 err.message call.now none
        exec := none }
  | marksCompleted (atPC : exec.pc = .completing) :
      CallMove call exec action (goesOn call exec
        (updateJobStatus call.sched exec.ref .completed call.now) .recordSuccess)
  | recordsSuccess (atPC : exec.pc = .recordSuccess) :
      CallMove call exec action { call with
        sched := recordJobTransition call.sched exec.ref .jobSucceeded .succeeded "" call.now none
        exec := none }
  | refuses (stage : Nat) (run : StageRun Goroutine) (object : Stage Input)
      (asked : action = .event (.launch (.error errNoWorkerCapacity)))
      (atPC : exec.pc = .inStage stage run)
      (here : stageOf call.sched exec.ref stage = some object)
      (room : run.workers.length < object.tasks.length) :
      CallMove call exec action (goesOn call exec call.sched
        (.inStage stage { run with selectionErr := some errNoWorkerCapacity }))
  | launches (stage : Nat) (run : StageRun Goroutine) (object : Stage Input) (nodeID : String)
      (asked : action = .event (.launch (.ok nodeID)))
      (atPC : exec.pc = .inStage stage run)
      (here : stageOf call.sched exec.ref stage = some object)
      (room : run.workers.length < object.tasks.length) :
      CallMove call exec action (goesOn call exec call.sched
        (.inStage stage { run with
          workers := run.workers ++ [.running (startGoroutine nodeID)] }))
  | finishes (stage : Nat) (run : StageRun Goroutine) (index : Nat) (routine : Goroutine)
      (err : Option GoError) (atPC : exec.pc = .inStage stage run)
      (running : run.workers[index]? = some (.running routine))
      (finished : routine.pc = .finished err) :
      CallMove call exec action (goesOn call exec call.sched
        (.inStage stage { run with
          workers := run.workers.set index (finishedWorker err) }))
  | works (stage : Nat) (run : StageRun Goroutine) (index : Nat) (routine : Goroutine)
      (task : Task Input) (answers : Answers) (progress : Progress Input)
      (asked : action = .event (.work index answers))
      (atPC : exec.pc = .inStage stage run)
      (running : run.workers[index]? = some (.running routine))
      (found : objectTask call.sched exec.ref ⟨stage, index⟩ = some task)
      (accepted : answers.fault = none)
      (stepped : goroutineStep call.sched routine task answers call.now = some progress) :
      CallMove call exec action { call with
        sched := updateTask progress.sched exec.ref ⟨stage, index⟩ progress.task
        exec := some { exec with
          pc := .inStage stage { run with
            workers := run.workers.set index (.running progress.routine) } }
        refused := call.refused ++
          if routine.pc = .calling ∧ answers.executor.isSome then [task.id] else [] }
  | reports (stage : Nat) (run : StageRun Goroutine) (index : Nat) (err : GoError)
      (atPC : exec.pc = .inStage stage run)
      (reporting : run.workers[index]? = some (.reporting err)) :
      CallMove call exec action (goesOn call exec call.sched
        (.inStage stage { run with
          workers := run.workers.set index (.returned (some err))
          errChan := run.errChan ++ [err] }))

variable {call after : Call Input} {exec : Exec} {sched : Scheduler Input} {index stage ref : Nat}
  {answers : Answers} {action : CallAction} {job origin : Job Input} {position : Position}
  {old task : Task Input} {routine : Goroutine} {now : Time} {progress : Progress Input}

theorem exec_step_moves {oracle : Oracle} {pc : Option ExecPC} (accepted : oracle.fault = none)
    (stepped : execStep call.sched exec oracle call.now = some (sched, pc)) :
    CallMove call exec (.event (.step oracle)) { call with
      sched := sched
      exec := pc.map fun pc => { exec with pc := pc } } := by
  obtain ⟨_, _, current⟩ := exec
  cases current with
  | begin =>
    cases stepped
    exact .begins rfl
  | queueing =>
    cases stepped
    split_ifs with state
    · exact .unqueued rfl state
    · exact .queued rfl state
  | recordQueued =>
    simp only [execStep, accepted] at stepped
    cases stepped
    exact .recordsQueued rfl
  | starting =>
    simp only [execStep, accepted] at stepped
    cases stepped
    split_ifs with tasks
    · exact .starts rfl tasks
    · exact .startsEmpty rfl (Bool.eq_false_iff.mpr tasks)
  | openStage stage =>
    cases stepped
    split
    · rename_i last
      exact .exhausts stage rfl last
    · rename_i object here
      split_ifs
      · exact .opens stage object rfl here
      · rename_i unavailable
        exact .unserved stage object oracle rfl (Bool.eq_false_iff.mpr unavailable) rfl here
  | inStage stage run =>
    simp only [execStep] at stepped
    split at stepped
    · cases stepped
    · rename_i object here
      split_ifs at stepped with isJoined
      cases stepped
      split
      · rename_i clean
        exact .passes stage run object rfl here isJoined clean
      · rename_i err result
        exact .fails stage run object err rfl here isJoined result
  | failing err =>
    cases stepped
    exact .marksFailed err rfl
  | recordFailure err =>
    simp only [execStep, accepted] at stepped
    cases stepped
    exact .recordsFailure err rfl
  | completing =>
    cases stepped
    exact .marksCompleted rfl
  | recordSuccess =>
    simp only [execStep, accepted] at stepped
    cases stepped
    exact .recordsSuccess rfl

theorem work_moves {run worked : StageRun Goroutine} {events : List TaskEvent}
    (atPC : exec.pc = .inStage stage run) (accepted : answers.fault = none)
    (stepped : workStep call.sched exec.ref stage run index answers call.now = some (sched, worked,
      events)) :
    CallMove call exec (.event (.work index answers)) { call with
      sched := sched
      exec := some { exec with pc := .inStage stage worked }
      refused := call.refused ++ (refusedTask call.sched exec (.work index answers)).toList } := by
  unfold workStep at stepped
  split at stepped
  · rename_i routine task running found
    split at stepped
    · rename_i err finished
      obtain ⟨_, finishes, same⟩ := map_eq_some_iff.mp stepped
      cases same
      have nothing : refusedTask call.sched exec (.work index answers) = none := by
        simp only [refusedTask, atPC, running]
        cases answers.executor <;> simp [finished]
      have worker : worked = { run with workers := run.workers.set index (finishedWorker err) } := by
        rw [finish_cases finishes]
        cases err <;> rfl
      rw [nothing, worker, toList_none, append_nil]
      exact .finishes stage run index routine err atPC running finished
    · obtain ⟨progress, moved, same⟩ := map_eq_some_iff.mp stepped
      cases same
      have noted : (refusedTask call.sched exec (.work index answers)).toList =
          if routine.pc = .calling ∧ answers.executor.isSome then [task.id] else [] := by
        simp only [refusedTask, atPC, running, found]
        cases answers.executor <;> by_cases calling : routine.pc = .calling <;> simp [calling]
      rw [noted]
      exact .works stage run index routine task answers progress rfl atPC running found accepted
        moved
  · cases stepped

variable {event : Event}

attribute [local simp] refusedTask execOf calmAction outcome goesOn threadOf setObject
  updateJobStatus updateTask

theorem call_event_moves (calm : calmAction (.event event) = true)
    (alive : ∀ exec, call.exec = some exec → exec.cancelled = false)
    (taken : callStep call (.event event) = some after) :
    ∃ exec, call.exec = some exec ∧ CallMove call exec (.event event) after := by
  obtain ⟨exec, executing, stepped⟩ := bind_eq_some_iff.mp taken
  obtain ⟨_, moved, same⟩ := bind_eq_some_iff.mp stepped
  cases same
  refine ⟨exec, executing, ?_⟩
  have live := alive exec executing
  cases exec_move moved with
  | stepped oracle _ pc advanced =>
    have accepted : oracle.fault = none := by simpa using calm
    have move := exec_step_moves accepted advanced
    cases pc <;> simpa using move
  | cancelled => cases calm
  | launched stage run _ object selection atPC here launched =>
    simp only [launch, live, Bool.false_eq_true, if_false] at launched
    split_ifs at launched with enabled
    cases selection with
    | error err =>
      cases launched
      have capacity : err = errNoWorkerCapacity := by simpa using calm
      subst capacity
      have move : CallMove call exec (.event (.launch (.error errNoWorkerCapacity))) _ :=
        .refuses stage run object rfl atPC here enabled.2
      simpa using move
    | ok nodeID =>
      cases launched
      have move : CallMove call exec (.event (.launch (.ok nodeID))) _ :=
        .launches stage run object nodeID rfl atPC here enabled.2
      simpa using move
  | worked _ _ _ _ answers _ _ atPC advanced =>
    have accepted : answers.fault = none := by simpa using calm
    exact work_moves atPC accepted advanced
  | reported stage run _ index viaDone atPC reported =>
    obtain ⟨err, reporting, rfl⟩ := report_cases reported
    have move : CallMove call exec (.event (.report index viaDone)) _ :=
      .reports stage run index err atPC reporting
    simpa [live] using move

theorem call_step_cases (calm : calmAction action = true)
    (alive : ∀ exec, call.exec = some exec → exec.cancelled = false)
    (taken : callStep call action = some after) :
    (∃ elapsed, after = { call with now := call.now + elapsed }) ∨
      ∃ exec, call.exec = some exec ∧ CallMove call exec action after := by
  cases action with
  | tick elapsed =>
    cases taken
    exact .inl ⟨elapsed, rfl⟩
  | event => exact .inr (call_event_moves calm alive taken)

def machineOf (call : Call Input) : Machine Input where
  sched := call.sched
  threads := [call.exec.map .exec]
  now := call.now
  submitted := []
  executed := []
  succeeded := []

attribute [local simp] machineOf

theorem machine_of_step (taken : callStep call (.event event) = some after) :
    ∃ machine, machineStep (machineOf call) (.thread 0 event) = some machine ∧
      machine.sched = after.sched ∧ machine.threads = (machineOf after).threads := by
  obtain ⟨_, executing, stepped⟩ := bind_eq_some_iff.mp taken
  obtain ⟨result, moved, same⟩ := bind_eq_some_iff.mp stepped
  cases same
  refine ⟨resumed (machineOf call) 0 result, ?_, rfl, ?_⟩
  · simp [machineStep, executing, threadStep, moved]
  · have back : result.thread = (execOf result.thread).map .exec := by
      cases later : result.thread with
      | none => rfl
      | some =>
        obtain ⟨_, _, rfl⟩ := exec_stays moved later
        rfl
    simpa [resumed] using back

theorem grounded_call_step (grounded : Grounded (machineOf call))
    (taken : callStep call action = some after) :
    Grounded (machineOf after) := by
  cases action with
  | tick =>
    cases taken
    exact ⟨grounded.wired, grounded.store, grounded.items⟩
  | event =>
    obtain ⟨_, stepped, sched, threads⟩ := machine_of_step taken
    obtain ⟨wired, store, items⟩ := grounded_step _ _ _ grounded stepped
    rw [sched] at wired store items
    refine ⟨wired, store, fun item carried => items item ?_⟩
    obtain ⟨pid, thread, lives, holds⟩ := carried
    refine ⟨pid, thread, ?_, holds⟩
    simpa only [threadOf, threads] using lives

/-- Stage ids with the ids and job ids of their tasks. -/
def shape (job : Job Input) : List (String × List (String × String)) :=
  job.stages.map fun stage => (stage.id, stage.tasks.map fun task => (task.id, task.jobID))

/-- The call executes the job that the table has under `origin`'s id, with the
stages and tasks of `origin`. -/
structure Own (origin : Job Input) (ref : Nat) (sched : Scheduler Input) (job : Job Input) :
    Prop where
  entry : sched.jobs origin.id = some ref
  found : sched.objects ref = some job
  id : job.id = origin.id
  shape : shape job = shape origin

section

omit [GoRuntime Input]

theorem shape_set_task (found : taskAt job position = some old) (id : task.id = old.id)
    (jobID : task.jobID = old.jobID) : shape (setTaskAt job position task) = shape job := by
  obtain ⟨_, atStage, atTask⟩ := bind_eq_some_iff.mp found
  refine ext_getElem? fun number => ?_
  simp only [shape, setTaskAt, getElem?_map, getElem?_modify]
  by_cases same : position.stage = number
  · subst same
    simp only [if_true, atStage, Option.map_eq_map, map_some, Option.some.injEq,
      Prod.mk.injEq, true_and]
    refine ext_getElem? fun index => ?_
    simp only [getElem?_map, getElem?_set]
    split_ifs with here inside
    · rw [← here, atTask, map_some, map_some, id, jobID]
    · rw [← here]
      simp [getElem?_eq_none (not_lt.mp inside)]
    · rfl
  · simp [same]

theorem shape_task (same : shape job = shape origin) (found : taskAt job position = some task) :
    ∃ known, taskAt origin position = some known ∧ known.id = task.id ∧
      known.jobID = task.jobID := by
  obtain ⟨_, atStage, atTask⟩ := bind_eq_some_iff.mp found
  have atShape := congrArg (fun stages => stages[position.stage]?) same
  simp only [shape, getElem?_map, atStage, map_some] at atShape
  obtain ⟨_, atKnown, names⟩ := map_eq_some_iff.mp atShape.symm
  have atNames := congrArg (fun entry => entry.2[position.index]?) names
  simp only [getElem?_map, atTask, map_some] at atNames
  obtain ⟨other, atOther, both⟩ := map_eq_some_iff.mp atNames
  rw [Prod.mk.injEq] at both
  exact ⟨other, by simp [taskAt, atKnown, atOther], both⟩

theorem shape_stage (same : shape job = shape origin) {number : Nat} {stage : Stage Input}
    (found : job.stages[number]? = some stage) :
    ∃ known, origin.stages[number]? = some known ∧ known.id = stage.id ∧
      known.tasks.length = stage.tasks.length := by
  have atShape := congrArg (fun stages => stages[number]?) same
  simp only [shape, getElem?_map, found, map_some] at atShape
  obtain ⟨known, atKnown, names⟩ := map_eq_some_iff.mp atShape.symm
  rw [Prod.mk.injEq] at names
  refine ⟨known, atKnown, names.1, ?_⟩
  simpa using congrArg List.length names.2

section

variable (own : Own origin ref sched job)

include own

theorem own_task (found : objectTask sched ref position = some task) :
    taskAt job position = some task := by
  simpa [objectTask, own.found] using found

theorem own_stage (number : Nat) : stageOf sched ref number = job.stages[number]? := by
  simp [stageOf, own.found]

theorem own_exhausted {stage : Nat} (last : stageOf sched ref stage = none) :
    origin.stages.length ≤ stage := by
  have lengths : job.stages.length = origin.stages.length := by
    simpa [shape] using congrArg List.length own.shape
  rw [← lengths]
  simpa [own_stage own] using last

theorem own_lifecycle : lifecycleOf sched ref = job.lifecycleState := by
  simp [lifecycleOf, own.found]

theorem own_registered : registeredJob sched origin.id = some job := by
  simp [registeredJob, own.entry, own.found]

end

theorem task_at_mem (found : taskAt job position = some task) : task ∈ jobTasks job := by
  obtain ⟨stage, atStage, atTask⟩ := bind_eq_some_iff.mp found
  exact mem_flatMap.mpr ⟨stage, mem_of_getElem? atStage, mem_of_getElem? atTask⟩

theorem own_job_id (own : Own origin ref sched job)
    (owned : ∀ task ∈ jobTasks origin, task.jobID = origin.id)
    (found : objectTask sched ref position = some task) : task.jobID = origin.id := by
  obtain ⟨known, atKnown, _, jobID⟩ := shape_task own.shape (own_task own found)
  rw [← jobID]
  exact owned known (task_at_mem atKnown)

end

/-- The job's records lead to the state of its object. -/
structure Standing (origin : Job Input) (ref : Nat) (sched : Scheduler Input) (job : Job Input) :
    Prop extends Own origin ref sched job where
  history : KeyedReplay.replayOne follow none
    (jobRecords (sched.store.transitions origin.id)) = some (job.lifecycleState.map .job)

omit [GoRuntime Input] in
theorem standing_status (standing : Standing origin ref sched job) (status : JobStatus)
    (now : Time) :
    Standing origin ref (updateJobStatus sched ref status now)
      { job with status := status, updatedAt := now } := by
  have moved : updateJobStatus sched ref status now =
      setObject sched ref { job with status := status, updatedAt := now } := by
    simp [standing.found]
  rw [moved]
  exact ⟨⟨standing.entry, by simp, standing.id, standing.shape⟩, standing.history⟩

section JobTransition

variable {origin job : Job Input} {ref : Nat} {sched : Scheduler Input}
  {transition : TransitionType} {newState : JobLifecycleState} {now : Time}
  (named : origin.id ≠ "") (clock : now ≠ 0) (hasText : transition.text ≠ "")
  (allowed : jobTransitionAllowed job.lifecycleState newState = true) (errorSummary : String)

include named clock hasText allowed

theorem record_job_written (own : Own origin ref sched job) :
    recordJobTransition sched ref transition newState errorSummary now none =
      setObject { takeSequence sched job.id with
        store := upsertJob (appended sched.store
            (jobRecord (nextSequence sched job.id) job transition newState
              (normalizeTransitionErrorSummary Input errorSummary) now))
          (jobRow (nextSequence sched job.id) job (some newState) now) } ref
        { job with lifecycleState := some newState } := by
  have valid := (job_record_valid (nextSequence sched job.id) job transition newState
    (normalizeTransitionErrorSummary Input errorSummary) now hasText allowed).mpr
      ⟨Nat.succ_ne_zero _, by rw [own.id]; exact named, clock⟩
  have written := (job_transition_tx_ok sched.store _ _
    (jobRow (nextSequence sched job.id) job (some newState) now)).mpr ⟨valid, rfl⟩
  simp only [recordJobTransition, own.found, allowed, if_true]
  rw [(persist_ok none _ (takeSequence sched job.id).store _).mpr ⟨rfl, written⟩]

theorem standing_recorded (sound : StoreSound sched) (standing : Standing origin ref sched job) :
    Standing origin ref (recordJobTransition sched ref transition newState errorSummary now none)
      { job with lifecycleState := some newState } := by
  rw [record_job_written named clock hasText allowed _ standing.toOwn]
  refine ⟨⟨standing.entry, by simp, standing.id, standing.shape⟩, ?_⟩
  simp only [setObject, upsert_job_transitions]
  generalize isRecord : jobRecord (nextSequence sched job.id) job transition newState
    (normalizeTransitionErrorSummary Input errorSummary) now = record
  have owner : record.jobID = origin.id := isRecord ▸ standing.id
  have number : record.sequenceID = sched.jobSequences origin.id + 1 := by
    rw [← isRecord, ← standing.id]
    rfl
  have newest : ∀ old ∈ sched.store.transitions origin.id, old.sequenceID < record.sequenceID := by
    intro old member
    have below := (sound.logs origin.id).bounded old member
    omega
  have state : recordState record = some (.job newState) := by
    simp [recordState, ← isRecord, jobRecord]
  rw [appended_transitions, if_pos owner.symm, owner,
    job_records_append (sound.logs origin.id).sorted (by rw [← isRecord]; rfl) newest,
    KeyedReplay.replay_one_append, standing.history]
  cases previous : job.lifecycleState with
  | none => simp [follow, state]
  | some old =>
    rw [previous] at allowed
    have legal : canTransitionJobState old newState = true := allowed
    simp [follow, state, canFollow, legal]

end JobTransition

omit [GoRuntime Input] in
theorem standing_task {other : Scheduler Input} (standing : Standing origin ref sched job)
    (found : objectTask sched ref position = some old) (id : task.id = old.id)
    (jobID : task.jobID = old.jobID) (jobs : other.jobs = sched.jobs)
    (objects : other.objects = sched.objects)
    (records : jobRecords (other.store.transitions origin.id) = jobRecords (sched.store.transitions
      origin.id)) :
    Standing origin ref (updateTask other ref position task) (setTaskAt job position task) := by
  have moved : updateTask other ref position task =
      setObject other ref (setTaskAt job position task) := by
    simp [objects, standing.found]
  rw [moved]
  refine ⟨⟨?_, by simp, standing.id, ?_⟩, ?_⟩
  · exact (congrFun jobs origin.id).trans standing.entry
  · exact (shape_set_task (own_task standing.toOwn found) id jobID).trans standing.shape
  · exact (congrArg _ records).trans standing.history

theorem goroutine_names (move : GoroutineMove sched routine task answers now progress) :
    progress.task.id = task.id ∧ progress.task.jobID = task.jobID := by
  cases move <;> exact ⟨rfl, rfl⟩

omit [GoRuntime Input] in
theorem job_records_commit (sound : StoreSound sched) {record : TransitionRecord}
    (entity : record.entityType = .task) (jobID : String) :
    jobRecords ((appended sched.store record).transitions jobID) =
      jobRecords (sched.store.transitions jobID) := by
  rw [appended_transitions]
  split_ifs with same
  · rw [same]
    exact job_records_append_task (sound.logs _).sorted entity
  · rfl

theorem pending_sound {run : StageRun Goroutine} {prepared : Prepared}
    (grounded : Grounded (machineOf call)) (executing : call.exec = some exec)
    (atPC : exec.pc = .inStage stage run) (running : run.workers[index]? = some (.running routine))
    (pending : routinePending exec.ref ⟨stage, index⟩ routine.pc = some prepared) :
    PendingSound call.sched prepared := by
  refine grounded.items (.pending prepared) ⟨0, .exec exec, ?_,
    .working exec stage run index routine prepared atPC running pending⟩
  simp [executing]

theorem standing_work {run : StageRun Goroutine} (grounded : Grounded (machineOf call))
    (executing : call.exec = some exec) (atPC : exec.pc = .inStage stage run)
    (running : run.workers[index]? = some (.running routine))
    (found : objectTask call.sched exec.ref ⟨stage, index⟩ = some task)
    (standing : Standing origin exec.ref call.sched job)
    (move : GoroutineMove call.sched routine task answers call.now progress)
    (quiet : ∀ ref first rest, routine.pc ≠ .recordingJob ref (first :: rest)) :
    Standing origin exec.ref (updateTask progress.sched exec.ref ⟨stage, index⟩ progress.task)
      (setTaskAt job ⟨stage, index⟩ progress.task) := by
  obtain ⟨id, jobID⟩ := goroutine_names move
  have commits (prepared : Prepared)
      (pending : routinePending exec.ref ⟨stage, index⟩ routine.pc = some prepared) :=
    job_records_commit grounded.store
      (pending_sound grounded executing atPC running pending).entity origin.id
  cases move with
  | jobRecorded _ _ _ _ before => exact absurd before (quiet _ _ _)
  | claimCommitted write before =>
    refine standing_task standing found id jobID rfl rfl ?_
    rw [claimCommitted, upsert_snapshot_transitions]
    exact commits ⟨exec.ref, ⟨stage, index⟩, true, write⟩ (by rw [before]; rfl)
  | reportCommitted _ _ _ _ _ write phase atCommit =>
    refine standing_task standing found id jobID rfl rfl ?_
    rw [taskCommitted, upsert_snapshot_transitions, upsert_task_transitions]
    refine commits ⟨exec.ref, ⟨stage, index⟩, false, write⟩ ?_
    rw [atCommit]
    cases phase <;> rfl
  | _ => exact standing_task standing found id jobID rfl rfl rfl

theorem goroutine_keeps_tasks (move : GoroutineMove sched routine task answers now progress)
    (ref : Nat) (position : Position) :
    objectTask progress.sched ref position = objectTask sched ref position := by
  cases move with
  | jobRecorded target transition newState =>
    exact record_job_keeps_tasks sched target transition newState "" now answers.fault ref position
  | _ => rfl

theorem own_recorded (own : Own origin ref sched job) (target : Nat) (transition : TransitionType)
    (newState : JobLifecycleState) (errorSummary : String) (now : Time) (fault : Option GoError) :
    ∃ later, Own origin ref
      (recordJobTransition sched target transition newState errorSummary now fault) later := by
  rcases record_job_transition_cases sched target transition newState errorSummary now fault with
    same | ⟨object, found, _, taken | ⟨_, _, _, _, _, moved⟩⟩
  · rw [same]
    exact ⟨job, own⟩
  · rw [taken]
    exact ⟨job, own.entry, own.found, own.id, own.shape⟩
  · rw [moved]
    by_cases same : ref = target
    · subst same
      obtain rfl : job = object := Option.some.inj (own.found.symm.trans found)
      exact ⟨{ job with lifecycleState := some newState }, own.entry, by simp, own.id,
        own.shape⟩
    · refine ⟨job, own.entry, ?_, own.id, own.shape⟩
      simpa [takeSequence, same] using own.found

theorem own_worked (own : Own origin ref sched job)
    (found : objectTask sched ref position = some task)
    (move : GoroutineMove sched routine task answers now progress) :
    ∃ later, Own origin ref (updateTask progress.sched ref position progress.task) later := by
  obtain ⟨id, jobID⟩ := goroutine_names move
  have here := (goroutine_keeps_tasks move ref position).trans found
  have middle : ∃ later, Own origin ref progress.sched later := by
    cases move with
    | jobRecorded target transition newState =>
      exact own_recorded own target transition newState "" now answers.fault
    | _ => exact ⟨job, own.entry, own.found, own.id, own.shape⟩
  obtain ⟨later, own⟩ := middle
  have moved : updateTask progress.sched ref position progress.task =
      setObject progress.sched ref (setTaskAt later position progress.task) := by
    simp [own.found]
  rw [moved]
  exact ⟨setTaskAt later position progress.task, own.entry, by simp, own.id,
    (shape_set_task (own_task own here) id jobID).trans own.shape⟩

theorem own_call_move (own : Own origin exec.ref call.sched job)
    (move : CallMove call exec action after) : ∃ later, Own origin exec.ref after.sched later := by
  have status : ∀ status, ∃ later, Own origin exec.ref
      (updateJobStatus call.sched exec.ref status call.now) later := by
    intro status
    refine ⟨{ job with status := status, updatedAt := call.now }, ?_⟩
    have moved : updateJobStatus call.sched exec.ref status call.now = setObject call.sched
        exec.ref { job with status := status, updatedAt := call.now } := by
      simp [own.found]
    rw [moved]
    exact ⟨own.entry, by simp, own.id, own.shape⟩
  cases move with
  | begins => exact status .running
  | marksFailed err => exact status (failureStatus err)
  | marksCompleted => exact status .completed
  | recordsQueued | startsEmpty | recordsFailure | recordsSuccess =>
    exact own_recorded own _ _ _ _ _ _
  | works _ _ _ _ _ _ _ _ _ _ found _ stepped =>
    exact own_worked own found (goroutine_move stepped)
  | _ => exact ⟨job, own⟩

/-- `executeJob` is called for a job of the table whose tasks carry its id, in a
scheduler and a store as runs leave them. -/
structure Started (origin : Job Input) (call : Call Input) : Prop where
  entered : ∃ ref, call.exec = some ⟨ref, false, .begin⟩ ∧
    Standing origin ref call.sched origin
  startable : origin.lifecycleState ∈ [some .submitted, some .queued, some .awaitingHuman]
  owned : ∀ task ∈ jobTasks origin, task.jobID = origin.id
  clock : call.now ≠ 0
  refused : call.refused = []
  grounded : Grounded (machineOf call)

theorem grounded_entered {machine : Machine Input} (grounded : Grounded machine)
    (sched : call.sched = machine.sched) (entered : call.exec = some exec) (atPC : exec.pc = .begin)
    : Grounded (machineOf call) := by
  refine ⟨by simpa [sched] using grounded.wired,
    by simpa [sched] using grounded.store, ?_⟩
  rintro item ⟨pid, thread, lives, holds⟩
  cases pid with
  | zero =>
    obtain rfl : .exec exec = thread := by
      simpa [entered] using lives
    exact absurd holds (exec_holds_nothing (by simp [atPC]) item)
  | succ => simp at lives

/-- The call for a job that was submitted to a new scheduler. -/
def sampleCall (job : Job SampleInput) (submission : Nat) : Call SampleInput where
  sched := ((run machineStep sampleMachine ([.submit job] ++ steps 0 submission)).getD
    sampleMachine).sched
  now := 1
  exec := some ⟨0, false, .begin⟩
  refused := []

def sampleOrigin (job : Job SampleInput) (submission : Nat) : Job SampleInput :=
  ((sampleCall job submission).sched.objects 0).getD job

theorem sample_call_grounded (job : Job SampleInput) (submission : Nat) :
    Grounded (machineOf (sampleCall job submission)) := by
  refine grounded_entered ?_ rfl rfl rfl
  cases ran : run machineStep sampleMachine ([.submit job] ++ steps 0 submission) with
  | none => exact fresh_grounded _ sample_fresh
  | some machine =>
    have reached : Reaches machineStep (fun _ _ => True) Fresh machine :=
      reaches_of_run (.start sample_fresh) _ (allowed_of_always (fun _ _ => trivial) _ _) ran
    exact reached_grounded reached

theorem sample_call_started (job : Job SampleInput) (submission : Nat)
    (placed : ((sampleCall job submission).sched.objects 0).isSome = true)
    (entry : (sampleCall job submission).sched.jobs (sampleOrigin job submission).id = some 0)
    (history : KeyedReplay.replayOne follow none (jobRecords
        ((sampleCall job submission).sched.store.transitions (sampleOrigin job submission).id)) =
      some ((sampleOrigin job submission).lifecycleState.map .job))
    (startable : (sampleOrigin job submission).lifecycleState ∈
      [some .submitted, some .queued, some .awaitingHuman])
    (owned : ∀ task ∈ jobTasks (sampleOrigin job submission),
      task.jobID = (sampleOrigin job submission).id) :
    Started (sampleOrigin job submission) (sampleCall job submission) := by
  obtain ⟨_, found⟩ := isSome_iff_exists.mp placed
  have same : (sampleCall job submission).sched.objects 0 = some (sampleOrigin job submission) := by
    simp [sampleOrigin, found]
  exact ⟨⟨0, rfl, ⟨⟨entry, same, rfl, rfl⟩, history⟩⟩, startable, owned, Nat.one_ne_zero, rfl,
    sample_call_grounded job submission⟩

def execSteps (count : Nat) : List CallAction := List.replicate count (.event (.step calm))

def execWorks (index count : Nat) (answers : Answers) : List CallAction :=
  List.replicate count (.event (.work index answers))

end Dagens.Scheduler.ExecutionCall
