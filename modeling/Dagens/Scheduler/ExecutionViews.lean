import Dagens.Scheduler.ExecutionCall

/-!
# The views of a job when `executeJob` returns

Status, lifecycle state, job row and replayed history move at different steps of
the call, and a job transition that is illegal is skipped without an error. The
views agree at the end if every final transition finds a predecessor that allows
it. The one that can go wrong is the pause of a job that no claim has moved to
RUNNING yet: the pause is read off the error's text, and the text contains the
id of the stage.
-/

namespace Dagens.Scheduler.ExecutionViews

open Lib GuardedRun Lifecycle GoSupport Replay Transitions StoreEffects Goroutine StageRun Reconcile
  Operations Memory Machine MachineMoves Ledger ExecutionCall List Option

variable {Input : Type} [GoRuntime Input]

def settledPairs : List (JobStatus × Option JobLifecycleState) :=
  [(.completed, some .succeeded), (.failed, some .failed), (.blocked, some .failed),
    (.awaitingHuman, some .awaitingHuman)]

/-- Memory, job row and history of a job whose execution is over. -/
def ViewsAgree (sched : Scheduler Input) (jobID : String) : Prop :=
  ∃ job row, registeredJob sched jobID = some job ∧
    (job.status, job.lifecycleState) ∈ settledPairs ∧
    sched.store.jobs.lookup jobID = some row ∧ row.currentState = job.lifecycleState ∧
    KeyedReplay.replayOne follow none (jobRecords (sched.store.transitions jobID)) =
      some (job.lifecycleState.map .job)

/-- The errors that a stage can return before one of its claims is accepted. -/
def earlyErrors : List GoError := [errNoWorkerCapacity, errDispatchClaimRejected]

def stageFailure (stageID : String) (err : GoError) : GoError :=
  err.wrap ("stage " ++ stageID ++ " failed: ")

/-- The id of the stage makes such an error look like a pause. -/
def disguised (stageID : String) : Bool :=
  earlyErrors.any fun err => isHumanPauseError (stageFailure stageID err)

/-- The stage whose first claim moves the job to RUNNING. -/
def firstStage (job : Job Input) : Option (Stage Input) :=
  job.stages.find? fun stage => !stage.tasks.isEmpty

def plainlyNamed (job : Job Input) : Bool :=
  decide (job.id ≠ "") && (decide (job.lifecycleState = some .awaitingHuman) ||
    (firstStage job).all fun stage => !disguised stage.id)

def Active (state : Option JobLifecycleState) : Prop :=
  state = some .queued ∨ state = some .awaitingHuman ∨ state = some .running

/-- What a goroutine has seen while the job is still `waiting` for its first
claim. -/
def RoutineFits (ref : Nat) (waiting : Prop) : TaskPC → Prop
  | .claiming => True
  | .claimPending write => write.record.taskID ≠ "" → Valid write.record
  | .claimed => True
  | .recordingJob target todo =>
    target = ref ∧ (∀ step ∈ todo, step.2 = .running ∧ step.1.text ≠ "") ∧
      (waiting → todo ≠ [])
  | .attempted err _ => waiting → err ∈ earlyErrors
  | .finished (some err) => waiting → err ∈ earlyErrors
  | _ => ¬ waiting

def WorkerFits (ref : Nat) (waiting : Prop) (errChan : List GoError) :
    Worker Goroutine → Prop
  | .running routine => RoutineFits ref waiting routine.pc
  | .reporting err => waiting → err ∈ earlyErrors
  | .returned none => ¬ waiting
  | .returned (some err) => err ∈ errChan

structure RunFits (ref : Nat) (waiting : Prop) (total : Nat) (run : StageRun Goroutine) :
    Prop where
  workers : ∀ worker ∈ run.workers, WorkerFits ref waiting run.errChan worker
  errors : waiting → ∀ err ∈ run.errChan, err ∈ earlyErrors
  selection : ∀ err, run.selectionErr = some err → err ∈ earlyErrors
  busy : run.workers ≠ [] ∨ run.errChan ≠ [] ∨ run.selectionErr ≠ none → total ≠ 0

/-- No task precedes the stage, but the job has tasks. -/
def Untouched (origin : Job Input) (stage : Nat) : Prop :=
  (∃ object ∈ origin.stages, object.tasks ≠ []) ∧
    ∀ number < stage, ∀ object, origin.stages[number]? = some object → object.tasks = []

def Phase (origin : Job Input) (ref : Nat) (status : JobStatus)
    (state : Option JobLifecycleState) : ExecPC → Prop
  | .begin | .queueing => state = some .submitted ∨ Active state
  | .recordQueued => state = some .submitted
  | .starting => Active state
  | .openStage stage => Active state ∧ (state ≠ some .running → Untouched origin stage)
  | .inStage stage run =>
    Active state ∧ (state ≠ some .running → Untouched origin stage) ∧
      ∃ object, origin.stages[stage]? = some object ∧
        RunFits ref (state ≠ some .running) object.tasks.length run
  | .failing err => Active state ∧ (state = some .queued → isHumanPauseError err = false)
  | .recordFailure err =>
    Active state ∧ (state = some .queued → isHumanPauseError err = false) ∧
      status = failureStatus err
  | .completing => state = some .running
  | .recordSuccess => state = some .running ∧ status = .completed

/-- A state in which a stage's id cannot mislead. -/
def Safe (origin : Job Input) (state : Option JobLifecycleState) : Prop :=
  state = some .awaitingHuman ∨ state = some .running ∨
    ∀ stage, firstStage origin = some stage → disguised stage.id = false

/-- The call stands at a position of `executeJob`. -/
def StandsAt (origin : Job Input) (ref : Nat) (sched : Scheduler Input) (pc : ExecPC) : Prop :=
  ∃ job, Standing origin ref sched job ∧ Safe origin job.lifecycleState ∧
    Phase origin ref job.status job.lifecycleState pc

variable {origin : Job Input} {state : Option JobLifecycleState} {ref : Nat} {task : Task Input}
  {err : GoError}

omit [GoRuntime Input] in
theorem claim_error_rejected {write : PendingWrite} {store : TransitionStore}
    (valid : task.id ≠ "" → Valid write.record)
    (failed : commitDispatchClaim task write none store = .error err) :
    err = errDispatchClaimRejected := by
  unfold commitDispatchClaim persistTransitionWrite dispatchClaimTx at failed
  cases claimed : claimTaskDispatch store (claimOf task write) with
  | none =>
    simp only [claimed] at failed
    cases failed
    rfl
  | some after =>
    have hasID := ((claim_task_dispatch_some ..).mp claimed).1
    have logged := (append_transition_ok after _ write.record).mpr ⟨valid hasID, rfl⟩
    simp only [claimed, logged] at failed
    cases failed

variable {waiting later : Prop}

theorem routine_fits_mono (implies : later → waiting) {pc : TaskPC}
    (fits : RoutineFits ref waiting pc) : RoutineFits ref later pc := by
  cases pc with
  | claiming => trivial
  | claimPending => exact fits
  | claimed => trivial
  | recordingJob => exact ⟨fits.1, fits.2.1, fun still => fits.2.2 (implies still)⟩
  | attempted => exact fun still => fits (implies still)
  | finished err =>
    cases err with
    | none | some => exact fun still => fits (implies still)
  | _ => exact fun still => fits (implies still)

variable {number : Nat} {answers : Answers} {sched : Scheduler Input} {object : Stage Input}
  {routine : Goroutine} {progress : Progress Input} {call : Call Input} {now : Time}

theorem routine_fits_running (running : ¬ waiting)
    (dispatched : routine.pc ∉ [.claiming, .claimed] ∧ (∀ write, routine.pc ≠ .claimPending write) ∧
      ∀ target todo, routine.pc ≠ .recordingJob target todo)
    (move : GoroutineMove sched routine task answers now progress) :
    RoutineFits ref waiting progress.routine.pc := by
  obtain ⟨early, unclaimed, unrecorded⟩ := dispatched
  cases move with
  | quiet _ _ _ control =>
    generalize routine.pc = before at control early unclaimed unrecorded
    cases control <;> exact fun still => absurd still running
  | retried => trivial
  | noted _ before | legacyClaim before | illegalClaim before | claimPrepared _ before =>
    simp [before] at early
  | jobRecorded _ _ _ _ before => exact absurd before (unrecorded _ _)
  | claimCommitted _ before => exact absurd before (unclaimed _)
  | reportPrepared _ _ _ _ _ _ _ _ phase => cases phase <;> exact running
  | reportCommitted _ _ _ _ _ _ phase =>
    cases phase <;> first | exact running | exact fun still => absurd still running

theorem first_dispatch_running (active : Active state) :
    (∀ step ∈ firstDispatchTransitions state, step.2 = .running ∧ step.1.text ≠ "") ∧
      (state ≠ some .running → firstDispatchTransitions state ≠ []) := by
  rcases active with rfl | rfl | rfl <;> decide

theorem routine_fits_step (active : Active state) (object : lifecycleOf sched ref = state)
    (entry : sched.jobs task.jobID = some ref) (hasJob : task.jobID ≠ "") (clock : now ≠ 0)
    (accepted : answers.fault = none)
    (owner : ∀ write, routine.pc = .claimPending write → write.record.taskID = task.id)
    (quiet : ∀ target first rest, routine.pc ≠ .recordingJob target (first :: rest))
    (fits : RoutineFits ref (state ≠ some .running) routine.pc)
    (stepped : goroutineStep sched routine task answers now = some progress) :
    RoutineFits ref (state ≠ some .running) progress.routine.pc := by
  have move := goroutine_move stepped
  obtain ⟨nodeID, attempt, current⟩ := routine
  cases current with
  | claiming =>
    cases stepped
    rcases prepare_claim_cases sched ⟨nodeID, attempt, _⟩ task now with
      ⟨legacy, _⟩ | refused | ⟨write, prepared, _, legal, record, _⟩
    · exact absurd legacy hasJob
    · rw [refused]
      exact fun _ => by simp [earlyErrors]
    · rw [prepared]
      intro hasID
      rw [record] at hasID ⊢
      have allowed : taskTransitionAllowed (some (claimPreviousState task)) .dispatched = true :=
        legal
      exact (task_record_valid _ task _ _ _ _ _ _ _ (by decide) allowed).mpr
        ⟨Nat.succ_ne_zero _, hasJob, hasID, clock⟩
  | claimPending write =>
    simp only [goroutineStep, accepted] at stepped
    cases stepped
    unfold commitClaim
    split
    · rename_i err failed
      rw [claim_error_rejected (fun hasID => fits (owner write rfl ▸ hasID)) failed]
      exact fun _ => by simp [earlyErrors]
    · trivial
  | claimed =>
    simp only [goroutineStep, entry] at stepped
    cases stepped
    obtain ⟨steps, nonempty⟩ := first_dispatch_running active
    have seen : (sched.objects ref).bind (·.lifecycleState) = state := object
    rw [← seen] at steps nonempty ⊢
    exact ⟨rfl, steps, nonempty⟩
  | recordingJob target todo =>
    cases todo with
    | nil =>
      cases stepped
      exact fun waiting => fits.2.2 waiting rfl
    | cons first rest => exact absurd rfl (quiet target first rest)
  | attempted =>
    simp only [goroutineStep] at stepped
    split_ifs at stepped with again
    · split at stepped <;> cases stepped
      · exact fun _ => by simp [earlyErrors]
      · trivial
    · cases stepped
      exact fits
  | finished => simp [goroutineStep] at stepped
  | _ =>
    exact routine_fits_running fits (by simp) move

variable {index : Nat}

section Runs

variable {total : Nat} {run : StageRun Goroutine}

theorem run_fits_new : RunFits ref waiting total (newStageRun Goroutine) := by
  refine ⟨?_, ?_, ?_, ?_⟩ <;> simp [newStageRun]

variable {worker : Worker Goroutine} {stageID : String}

theorem worker_fits_mono (implies : later → waiting) {errChan longer : List GoError}
    (kept : ∀ err ∈ errChan, err ∈ longer) (fits : WorkerFits ref waiting errChan worker) :
    WorkerFits ref later longer worker := by
  cases worker with
  | running => exact routine_fits_mono implies fits
  | reporting => exact fun still => fits (implies still)
  | returned result =>
    cases result with
    | none => exact fun still => fits (implies still)
    | some err => exact kept err fits

theorem run_fits_mono (implies : later → waiting) (fits : RunFits ref waiting total run) :
    RunFits ref later total run :=
  ⟨fun worker member => worker_fits_mono implies (fun _ => id) (fits.workers worker member),
    fun still => fits.errors (implies still), fits.selection, fits.busy⟩

section

variable (fits : RunFits ref waiting total run)

include fits

theorem run_fits_refused (room : total ≠ 0) :
    RunFits ref waiting total { run with selectionErr := some errNoWorkerCapacity } :=
  ⟨fits.workers, fits.errors, by simp [earlyErrors], fun _ => room⟩

theorem run_fits_launched (room : total ≠ 0) (nodeID : String) :
    RunFits ref waiting total
      { run with workers := run.workers ++ [.running (startGoroutine nodeID)] } := by
  refine ⟨?_, fits.errors, fits.selection, fun _ => room⟩
  intro worker member
  rcases List.mem_append.mp member with old | new
  · exact fits.workers worker old
  · rw [mem_singleton.mp new]
    trivial

theorem run_fits_set {old : Worker Goroutine} (found : run.workers[index]? = some old)
    (seen : WorkerFits ref waiting run.errChan worker) :
    RunFits ref waiting total { run with workers := run.workers.set index worker } := by
  have some : run.workers ≠ [] := by
    rintro empty
    simp [empty] at found
  refine ⟨?_, fits.errors, fits.selection, fun _ => fits.busy (.inl some)⟩
  intro other member
  rcases mem_or_eq_of_mem_set member with kept | rfl
  · exact fits.workers other kept
  · exact seen

theorem run_fits_reported (reporting : run.workers[index]? = some (.reporting err)) :
    RunFits ref waiting total
      { run with
        workers := run.workers.set index (.returned (some err))
        errChan := run.errChan ++ [err] } := by
  have early : waiting → err ∈ earlyErrors :=
    fits.workers _ (mem_of_getElem? reporting)
  have some : run.workers ≠ [] := by
    rintro empty
    simp [empty] at reporting
  refine ⟨?_, ?_, fits.selection, fun _ => fits.busy (.inl some)⟩
  · intro other member
    rcases mem_or_eq_of_mem_set member with kept | rfl
    · exact worker_fits_mono id (fun _ => mem_append_left _) (fits.workers other kept)
    · exact mem_append_right _ (mem_singleton_self err)
  · intro still other member
    rcases List.mem_append.mp member with old | new
    · exact fits.errors still other old
    · rw [mem_singleton.mp new]
      exact early still

theorem run_fits_clean (isJoined : joined total run = true) (clean : stageResult stageID run = none)
    (still : waiting) : total = 0 := by
  have quiet : run.selectionErr = none ∧ run.errChan = [] := by
    unfold stageResult at clean
    split at clean
    · cases clean
    · rename_i selection
      exact ⟨selection, by simpa using clean⟩
  simp only [joined, quiet.1, isSome_none, Bool.false_or, Bool.and_eq_true,
    decide_eq_true_eq, List.all_eq_true] at isJoined
  obtain ⟨_, returned⟩ := isJoined
  by_contra nonzero
  obtain ⟨worker, member⟩ := exists_mem_of_length_pos (by omega : 0 < run.workers.length)
  have fit := fits.workers worker member
  have back := returned worker member
  cases worker with
  | running => cases back
  | reporting => cases back
  | returned result =>
    cases result with
    | none => exact fit still
    | some =>
      rw [quiet.2] at fit
      cases fit

theorem run_fits_failure (result : stageResult stageID run = some err) :
    total ≠ 0 ∧ (waiting → ∃ cause ∈ earlyErrors, err = stageFailure stageID cause) := by
  unfold stageResult at result
  split at result
  · rename_i cause selection
    cases result
    exact ⟨fits.busy (.inr (.inr (by simp [selection]))), fun _ =>
      ⟨cause, fits.selection cause selection, rfl⟩⟩
  · obtain ⟨cause, first, rfl⟩ := map_eq_some_iff.mp result
    have member := mem_of_head? first
    exact ⟨fits.busy (.inr (.inl (ne_nil_of_mem member))), fun still =>
      ⟨cause, fits.errors still cause member, rfl⟩⟩

end

end Runs

omit [GoRuntime Input] in
theorem first_stage_here (untouched : Untouched origin number)
    (here : origin.stages[number]? = some object) (nonempty : object.tasks.length ≠ 0) :
    firstStage origin = some object := by
  obtain ⟨inside, atNumber⟩ := List.getElem?_eq_some_iff.mp here
  refine find?_eq_some_iff_getElem.mpr ⟨?_, number, inside, atNumber, ?_⟩
  · simpa [List.isEmpty_iff, ← length_eq_zero_iff] using nonempty
  · intro earlier before
    have empty := untouched.2 earlier before _ (getElem?_eq_getElem (before.trans inside))
    simp [empty]

variable {newState : JobLifecycleState}

theorem active_allows (active : Active state) (final : newState = .running ∨ newState = .failed) :
    jobTransitionAllowed state newState = true := by
  rcases active with rfl | rfl | rfl <;> rcases final with rfl | rfl <;> decide

variable {stage : Nat} {action : CallAction} {after : Call Input}

section Steps

variable {job : Job Input} {exec : Exec}

section

omit [GoRuntime Input]

theorem untouched_start (own : Own origin ref sched job) (tasks : hasTasks sched ref = true) :
    Untouched origin 0 := by
  refine ⟨?_, by simp⟩
  have busy : job.stages.any (fun stage => !stage.tasks.isEmpty) = true := by
    simpa [hasTasks, own.found] using tasks
  obtain ⟨_, member, nonempty⟩ := List.any_eq_true.mp busy
  obtain ⟨_, here⟩ := mem_iff_getElem?.mp member
  obtain ⟨known, atKnown, _, same⟩ := shape_stage own.shape here
  refine ⟨known, mem_of_getElem? atKnown, ?_⟩
  rintro empty
  rw [empty, length_nil] at same
  simp [length_eq_zero_iff.mp same.symm] at nonempty

theorem touched_end (own : Own origin ref sched job)
    (last : stageOf sched ref stage = none) : ¬ Untouched origin stage := by
  rintro ⟨⟨object, member, nonempty⟩, earlier⟩
  have beyond := own_exhausted own last
  obtain ⟨number, here⟩ := mem_iff_getElem?.mp member
  have inside := (List.getElem?_eq_some_iff.mp here).1
  exact nonempty (earlier number (inside.trans_le beyond) object here)

theorem stage_known {known : Stage Input} (own : Own origin ref sched job)
    (here : stageOf sched ref number = some object)
    (atKnown : origin.stages[number]? = some known) :
    known.id = object.id ∧ known.tasks.length = object.tasks.length := by
  rw [own_stage own] at here
  obtain ⟨same, atSame, names⟩ := shape_stage own.shape here
  obtain rfl : known = same := some.inj (atKnown.symm.trans atSame)
  exact names

end

section

variable {transition : TransitionType} (grounded : Grounded (machineOf call))
  (standing : Standing origin exec.ref call.sched job) (named : origin.id ≠ "")
  (clock : call.now ≠ 0) (hasText : transition.text ≠ "")
  (allowed : jobTransitionAllowed job.lifecycleState newState = true) (errorSummary : String)

include grounded standing named clock hasText allowed

theorem stands_recorded {pc : ExecPC}
    (safe : Safe origin (some newState))
    (phase : Phase origin exec.ref job.status (some newState) pc) :
    StandsAt origin exec.ref (recordJobTransition call.sched exec.ref transition newState
      errorSummary call.now none) pc :=
  ⟨_, standing_recorded named clock hasText allowed errorSummary grounded.store standing, safe,
    phase⟩

theorem agree_recorded (pair : (job.status, some newState) ∈ settledPairs) :
    ViewsAgree (recordJobTransition call.sched exec.ref transition newState errorSummary call.now
      none) origin.id := by
  have later := standing_recorded named clock hasText allowed errorSummary grounded.store standing
  obtain ⟨row, found, state⟩ : ∃ row, (recordJobTransition call.sched exec.ref transition newState
      errorSummary call.now none).store.jobs.lookup origin.id = some row ∧
      row.currentState = some newState := by
    have same : origin.id = (jobRow (nextSequence call.sched job.id) job (some newState)
      call.now).jobID := standing.id.symm
    rw [record_job_written named clock hasText allowed _ standing.toOwn]
    simp only [setObject]
    rw [upsert_job_lookup, if_pos same]
    exact ⟨_, rfl, rfl⟩
  exact ⟨_, row, own_registered later.toOwn, pair, found, state, later.history⟩

end

omit [GoRuntime Input] in
theorem failure_named (err : GoError) : (failureTransition err).1.text ≠ "" := by
  unfold failureTransition
  split_ifs <;> decide

omit [GoRuntime Input] in
theorem failure_allowed (active : Active state)
    (undisguised : state = some .queued → isHumanPauseError err = false) :
    jobTransitionAllowed state (failureTransition err).2 = true := by
  unfold failureTransition
  split_ifs with policy pause
  · exact active_allows active (.inr rfl)
  · rcases active with queued | awaiting | running
    · rw [undisguised queued] at pause
      cases pause
    · rw [awaiting]
      decide
    · rw [running]
      decide
  · exact active_allows active (.inr rfl)

theorem stands_work {run : StageRun Goroutine}
    (grounded : Grounded (machineOf call)) (executing : call.exec = some exec)
    (standing : Standing origin exec.ref call.sched job) (safe : Safe origin job.lifecycleState)
    (named : origin.id ≠ "") (owned : ∀ task ∈ jobTasks origin, task.jobID = origin.id)
    (clock : call.now ≠ 0) (atPC : exec.pc = .inStage stage run)
    (running : run.workers[index]? = some (.running routine))
    (found : objectTask call.sched exec.ref ⟨stage, index⟩ = some task)
    (accepted : answers.fault = none)
    (stepped : goroutineStep call.sched routine task answers call.now = some progress)
    (phase : Phase origin exec.ref job.status job.lifecycleState (.inStage stage run)) :
    StandsAt origin exec.ref (updateTask progress.sched exec.ref ⟨stage, index⟩ progress.task)
    (.inStage stage { run with
        workers := run.workers.set index (.running progress.routine) }) := by
  obtain ⟨active, untouched, object, here, fits⟩ := phase
  have fit : RoutineFits exec.ref (job.lifecycleState ≠ some .running) routine.pc :=
    fits.workers _ (mem_of_getElem? running)
  have move := goroutine_move stepped
  have jobID := own_job_id standing.toOwn owned found
  by_cases records : ∃ target first rest, routine.pc = .recordingJob target (first :: rest)
  · obtain ⟨_, ⟨transition, newState⟩, _, pc⟩ := records
    rw [pc] at fit
    obtain ⟨rfl, steps, _⟩ := fit
    obtain ⟨rfl, hasText⟩ := steps (transition, newState) mem_cons_self
    simp only [goroutineStep, pc, accepted] at stepped
    cases stepped
    have allowed := active_allows active (.inl (rfl : JobLifecycleState.running = .running))
    have same := update_task_same ((record_job_keeps_tasks call.sched exec.ref transition .running
      "" call.now none exec.ref ⟨stage, index⟩).trans found)
    dsimp only
    rw [same]
    refine stands_recorded grounded standing named clock hasText allowed "" (.inr (.inl rfl))
      ⟨.inr (.inr rfl), fun still => absurd rfl still, object, here, ?_⟩
    refine run_fits_set (run_fits_mono (fun still => absurd rfl still) fits) running ?_
    exact ⟨rfl, fun step member => steps step (mem_cons_of_mem _ member),
      fun still => absurd rfl still⟩
  · push Not at records
    have lifecycle := own_lifecycle standing.toOwn
    refine ⟨_, standing_work grounded executing atPC running found standing move records, safe,
      active, untouched, object, here, run_fits_set fits running ?_⟩
    refine routine_fits_step active lifecycle (jobID ▸ standing.entry)
      (jobID ▸ named) clock accepted ?_ records fit stepped
    intro write pc
    have pending : routinePending exec.ref ⟨stage, index⟩ routine.pc =
        some ⟨exec.ref, ⟨stage, index⟩, true, write⟩ := by
      rw [pc]
      rfl
    obtain ⟨_, atPosition, taskID, _⟩ :=
      (pending_sound grounded executing atPC running pending).owner
    rw [taskID]
    exact congrArg Task.id (some.inj (atPosition.symm.trans found))

/-- What a step leaves: the call at its next position, or agreeing views. -/
def Continues (origin : Job Input) (exec : Exec) (after : Call Input) : Prop :=
  (after.exec = none ∧ ViewsAgree after.sched origin.id) ∨
    ∃ pc, after.exec = some { exec with pc := pc } ∧ StandsAt origin exec.ref after.sched pc

theorem call_continues (grounded : Grounded (machineOf call))
    (executing : call.exec = some exec) (named : origin.id ≠ "")
    (owned : ∀ task ∈ jobTasks origin, task.jobID = origin.id) (clock : call.now ≠ 0)
    (stands : StandsAt origin exec.ref call.sched exec.pc) (move : CallMove call exec action after) :
    Continues origin exec after := by
  obtain ⟨job, standing, safe, phase⟩ := stands
  have own := standing.toOwn
  have lifecycle := own_lifecycle own
  cases move with
  | begins atPC =>
    rw [atPC] at phase
    exact .inr ⟨_, rfl, _, standing_status standing .running call.now, safe, phase⟩
  | unqueued _ state => exact .inr ⟨_, rfl, _, standing, safe, lifecycle.symm.trans state⟩
  | queued atPC state =>
    rw [atPC] at phase
    rw [lifecycle] at state
    exact .inr ⟨_, rfl, _, standing, safe, phase.resolve_left state⟩
  | recordsQueued atPC =>
    rw [atPC] at phase
    have submitted : job.lifecycleState = some .submitted := phase
    have undisguised := (safe.resolve_left (by simp [submitted])).resolve_left (by simp [submitted])
    exact .inr ⟨_, rfl, stands_recorded grounded standing named clock (by decide)
      (by rw [submitted]; decide) "" (.inr (.inr undisguised)) (.inl rfl)⟩
  | starts atPC tasks =>
    rw [atPC] at phase
    exact .inr ⟨_, rfl, _, standing, safe, phase, fun _ => untouched_start own tasks⟩
  | startsEmpty atPC =>
    rw [atPC] at phase
    have hasText : (startTransition (lifecycleOf call.sched exec.ref)).text ≠ "" := by
      unfold startTransition
      split_ifs <;> decide
    exact .inr ⟨_, rfl, stands_recorded grounded standing named clock hasText
      (active_allows phase (.inl rfl)) "" (.inr (.inl rfl))
      ⟨.inr (.inr rfl), fun still => absurd rfl still⟩⟩
  | exhausts _ atPC last =>
    rw [atPC] at phase
    refine .inr ⟨_, rfl, _, standing, safe, ?_⟩
    by_contra still
    exact touched_end own last (phase.2 still)
  | opens _ _ atPC here =>
    rw [atPC] at phase
    rw [own_stage own] at here
    obtain ⟨known, atKnown, _⟩ := shape_stage own.shape here
    exact .inr ⟨_, rfl, _, standing, safe, phase.1, phase.2, known, atKnown, run_fits_new⟩
  | unserved _ _ _ _ _ atPC =>
    rw [atPC] at phase
    exact .inr ⟨_, rfl, _, standing, safe, phase.1, fun _ => by decide⟩
  | passes _ _ _ atPC here isJoined clean =>
    rw [atPC] at phase
    obtain ⟨active, untouched, known, atKnown, fits⟩ := phase
    obtain ⟨_, total⟩ := stage_known own here atKnown
    refine .inr ⟨_, rfl, _, standing, safe, active, fun still => ?_⟩
    refine ⟨(untouched still).1, fun earlier before other found => ?_⟩
    rcases Nat.lt_succ_iff_lt_or_eq.mp before with less | rfl
    · exact (untouched still).2 earlier less other found
    · obtain rfl : known = other := some.inj (atKnown.symm.trans found)
      exact length_eq_zero_iff.mp (run_fits_clean fits (total ▸ isJoined) clean still)
  | fails _ _ _ _ atPC here _ result =>
    rw [atPC] at phase
    obtain ⟨active, untouched, known, atKnown, fits⟩ := phase
    obtain ⟨id, _⟩ := stage_known own here atKnown
    refine .inr ⟨_, rfl, _, standing, safe, active, fun queued => ?_⟩
    have still : job.lifecycleState ≠ some .running := by simp [queued]
    obtain ⟨nonempty, early⟩ := run_fits_failure fits result
    obtain ⟨cause, member, rfl⟩ := early still
    have first := first_stage_here (untouched still) atKnown nonempty
    have undisguised := ((safe.resolve_left (by simp [queued])).resolve_left still) known first
    rw [id] at undisguised
    exact List.any_eq_false.mp undisguised cause member |> Bool.eq_false_iff.mpr
  | marksFailed err atPC =>
    rw [atPC] at phase
    exact .inr ⟨_, rfl, _, standing_status standing (failureStatus err) call.now, safe,
      phase.1, phase.2, rfl⟩
  | recordsFailure err atPC =>
    rw [atPC] at phase
    refine .inl ⟨rfl, agree_recorded grounded standing named clock (failure_named err)
      (failure_allowed phase.1 phase.2.1) err.message ?_⟩
    rw [phase.2.2]
    unfold failureStatus failureTransition
    split_ifs <;> decide
  | marksCompleted atPC =>
    rw [atPC] at phase
    exact .inr ⟨_, rfl, _, standing_status standing .completed call.now, safe, phase, rfl⟩
  | recordsSuccess atPC =>
    rw [atPC] at phase
    obtain ⟨running, completed⟩ := phase
    exact .inl ⟨rfl, agree_recorded grounded standing named clock (by decide)
      (by rw [running]; decide) "" (by rw [completed]; decide)⟩
  | refuses _ _ _ _ atPC here =>
    rw [atPC] at phase
    obtain ⟨active, untouched, known, atKnown, fits⟩ := phase
    have total := (stage_known own here atKnown).2
    exact .inr ⟨_, rfl, _, standing, safe, active, untouched, known, atKnown,
      run_fits_refused fits (by omega)⟩
  | launches _ _ _ nodeID _ atPC here =>
    rw [atPC] at phase
    obtain ⟨active, untouched, known, atKnown, fits⟩ := phase
    have total := (stage_known own here atKnown).2
    exact .inr ⟨_, rfl, _, standing, safe, active, untouched, known, atKnown,
      run_fits_launched fits (by omega) nodeID⟩
  | finishes _ _ _ routine err atPC running finished =>
    rw [atPC] at phase
    obtain ⟨active, untouched, known, atKnown, fits⟩ := phase
    have fit : RoutineFits exec.ref (job.lifecycleState ≠ some .running) routine.pc :=
      fits.workers _ (mem_of_getElem? running)
    rw [finished] at fit
    refine .inr ⟨_, rfl, _, standing, safe, active, untouched, known, atKnown,
      run_fits_set fits running ?_⟩
    cases err <;> exact fit
  | works _ _ _ _ _ _ _ _ atPC running found accepted stepped =>
    rw [atPC] at phase
    exact .inr ⟨_, rfl, stands_work grounded executing standing safe named owned clock atPC
      running found accepted stepped phase⟩
  | reports _ _ _ _ atPC reporting =>
    rw [atPC] at phase
    obtain ⟨active, untouched, known, atKnown, fits⟩ := phase
    exact .inr ⟨_, rfl, _, standing, safe, active, untouched, known, atKnown,
      run_fits_reported fits reporting⟩

end Steps

/-- The call goes on at a position of `executeJob`, or its views agree. -/
structure Sound (origin : Job Input) (call : Call Input) : Prop where
  owned : ∀ task ∈ jobTasks origin, task.jobID = origin.id
  clock : call.now ≠ 0
  grounded : Grounded (machineOf call)
  executing : ∀ exec, call.exec = some exec →
    exec.cancelled = false ∧ StandsAt origin exec.ref call.sched exec.pc
  returned : call.exec = none → ViewsAgree call.sched origin.id

theorem sound_start (plain : plainlyNamed origin = true) (started : Started origin call) :
    Sound origin call := by
  obtain ⟨ref, entered, standing⟩ := started.entered
  refine ⟨started.owned, started.clock, started.grounded, ?_, by simp [entered]⟩
  intro exec isExec
  obtain rfl : ⟨ref, false, .begin⟩ = exec := some.inj (entered.symm.trans isExec)
  refine ⟨rfl, origin, standing, ?_, ?_⟩
  · simp only [plainlyNamed, Bool.and_eq_true, Bool.or_eq_true, decide_eq_true_eq] at plain
    rcases plain.2 with awaiting | undisguised
    · exact .inl awaiting
    · refine .inr (.inr fun stage first => ?_)
      simpa [first] using undisguised
  · have startable := started.startable
    simp only [mem_cons, not_mem_nil, or_false] at startable
    rcases startable with submitted | queued | awaiting
    · exact .inl submitted
    · exact .inr (.inl queued)
    · exact .inr (.inr (.inl awaiting))

theorem sound_step (named : origin.id ≠ "")
    (sound : Sound origin call) (calm : calmAction action = true)
    (taken : callStep call action = some after) : Sound origin after := by
  have grounded := grounded_call_step sound.grounded taken
  rcases call_step_cases calm (fun exec executing => (sound.executing exec executing).1) taken with
    ⟨_, rfl⟩ | ⟨exec, executing, move⟩
  · exact ⟨sound.owned, by simp [sound.clock], grounded, sound.executing, sound.returned⟩
  · obtain ⟨alive, stands⟩ := sound.executing exec executing
    have clock : after.now ≠ 0 := by
      cases move <;> exact sound.clock
    rcases call_continues sound.grounded executing named sound.owned sound.clock stands move with
      ⟨finished, agree⟩ | ⟨pc, going, later⟩
    · exact ⟨sound.owned, clock, grounded, by simp [finished], fun _ => agree⟩
    · refine ⟨sound.owned, clock, grounded, ?_, by simp [going]⟩
      intro next isNext
      obtain rfl : { exec with pc := pc } = next := some.inj (going.symm.trans isNext)
      exact ⟨alive, later⟩

/-- Whatever the executor answers, whatever capacity there is and however the
goroutines of the stages interleave: when `executeJob` returns, status and
lifecycle state of a plainly named job are one of the four settled pairs, and
its row and its history have that lifecycle state. -/
theorem views_agree_on_return (origin : Job Input) (plain : plainlyNamed origin = true)
    {call : Call Input}
    (reached : Reaches callStep (fun _ action => calmAction action = true) (Started origin) call)
    (returned : call.exec = none) : ViewsAgree call.sched origin.id := by
  have named : origin.id ≠ "" := by
    simp only [plainlyNamed, Bool.and_eq_true, decide_eq_true_eq] at plain
    exact plain.1
  have sound : Sound origin call :=
    reaches_invariant (fun _ started => sound_start plain started)
      (fun _ _ _ sound calm taken => sound_step named sound calm taken) reached
  exact sound.returned returned

def oneTaskJob (stageID : String) : Job SampleInput :=
  { newJob SampleInput "job-1" "job" 1 with
    stages := [⟨stageID, "job-1", [sampleTask "task-1"], [], .pending⟩] }

/-- No worker has capacity for the first task. -/
def noCapacityRun : List CallAction :=
  execSteps 4 ++ [.event (.launch (.error errNoWorkerCapacity))] ++ execSteps 3

theorem disguised_call_started :
    Started (sampleOrigin (oneTaskJob "execution paused") 6)
      (sampleCall (oneTaskJob "execution paused") 6) :=
  sample_call_started _ _ (by decide +kernel) (by decide +kernel) (by decide +kernel)
    (by decide +kernel) (by decide +kernel)

theorem plain_call_started :
    Started (sampleOrigin (oneTaskJob "stage-1") 6) (sampleCall (oneTaskJob "stage-1") 6) :=
  sample_call_started _ _ (by decide +kernel) (by decide +kernel) (by decide +kernel)
    (by decide +kernel) (by decide +kernel)

set_option maxRecDepth 4000 in
theorem stage_id_read_as_pause :
    Started (sampleOrigin (oneTaskJob "execution paused") 6)
        (sampleCall (oneTaskJob "execution paused") 6) ∧
      (∀ action ∈ noCapacityRun, calmAction action = true) ∧
      ∃ final, run callStep (sampleCall (oneTaskJob "execution paused") 6) noCapacityRun =
          some final ∧
        final.exec.isNone ∧
        ((registeredJob final.sched "job-1").map fun job => (job.status, job.lifecycleState)) =
          some (.awaitingHuman, some .queued) ∧
        ¬ ViewsAgree final.sched "job-1" := by
  refine ⟨disguised_call_started, by decide, _, rfl, rfl, rfl, ?_⟩
  rintro ⟨_, _, registered, pair, _⟩
  cases registered
  revert pair
  decide

set_option maxRecDepth 4000 in
theorem plain_stage_fails_in_every_view :
    ∃ final, run callStep (sampleCall (oneTaskJob "stage-1") 6) noCapacityRun = some final ∧
      ViewsAgree final.sched "job-1" := by
  refine ⟨_, rfl, views_agree_on_return (sampleOrigin (oneTaskJob "stage-1") 6) (by decide)
    (reaches_of_run (.start plain_call_started) noCapacityRun (by decide) rfl) rfl⟩

end Dagens.Scheduler.ExecutionViews
