import Dagens.Lib.BoundedRun
import Dagens.Scheduler.ExecutionCall

/-!
# A call of `executeJob` returns

While the store accepts its writes, every schedule of a call is finite: each
step lowers a count of the steps that the call can still take, with the retries
that each goroutine has left. And no schedule gets stuck: the call or one of its
goroutines can always go on until the call has returned.
-/

namespace Dagens.Scheduler.CallProgress

open Lib.BoundedRun Lifecycle GoSupport Transitions StoreEffects Goroutine StageRun
  Operations Memory Machine ExecutionCall List Option

variable {Input : Type} [GoRuntime Input]

def waited (call : Call Input) (elapsed : Time) : Call Input :=
  { call with now := call.now + elapsed }

/-- Some time passes, then one event of the call. -/
def momentStep (call : Call Input) (moment : Time × Event) : Option (Call Input) :=
  callStep (waited call moment.1) (.event moment.2)

/-- Writes are accepted, the process leads, nodes have capacity and the executor
succeeds. -/
def serves : Event → Bool
  | .step oracle => oracle.fault.isNone && oracle.nodesAvailable
  | .launch (.ok _) => true
  | .launch (.error _) => false
  | .work _ answers =>
    answers.fault.isNone && answers.selectNode.isSome && answers.executor.isNone &&
      match answers.authority with
      | .ok authority => authority.isLeader
      | .error _ => false
  | .report _ _ => true
  | .cancel => false
  | .expire => false

/-- The selection loop waits for the goroutine it has started. -/
def inTurn (call : Call Input) : Event → Bool
  | .launch _ =>
    match call.exec with
    | some ⟨_, _, .inStage _ run⟩ => run.workers.all Worker.hasReturned
    | _ => true
  | _ => true

variable {event : Event} {ref number index limit stage : Nat} {object : Stage Input}
  {moment : Time × Event}

theorem serves_calm (served : serves event = true) : calmAction (.event event) = true := by
  cases event with
  | step =>
    simp only [serves, Bool.and_eq_true] at served
    exact served.1
  | launch selection =>
    cases selection with
    | ok => rfl
    | error => cases served
  | work =>
    simp only [serves, Bool.and_eq_true] at served
    exact served.1.1.1
  | report => rfl
  | cancel | expire => cases served

structure Placed (origin : Job Input) (call : Call Input) : Prop where
  alive : ∀ exec, call.exec = some exec → exec.cancelled = false
  own : ∀ exec, call.exec = some exec → ∃ job, Own origin exec.ref call.sched job
  staffed : ∀ exec stage run, call.exec = some exec → exec.pc = .inStage stage run →
    ∃ object, origin.stages[stage]? = some object ∧ run.workers.length ≤ object.tasks.length

variable {origin : Job Input} {sched : Scheduler Input} {call after : Call Input} {exec : Exec}
  {action : CallAction} {routine : Goroutine} {task : Task Input} {answers : Answers} {now : Time}
  {progress : Progress Input}

omit [GoRuntime Input] in
theorem own_stage_known {job : Job Input} (own : Own origin ref sched job)
    (here : stageOf sched ref number = some object) :
    ∃ known, origin.stages[number]? = some known ∧ known.id = object.id ∧
      known.tasks.length = object.tasks.length := by
  rw [own_stage own] at here
  exact shape_stage own.shape here

theorem placed_move (placed : Placed origin call) (executing : call.exec = some exec)
    (move : CallMove call exec action after) : Placed origin after := by
  obtain ⟨_, own⟩ := placed.own exec executing
  have alive := placed.alive exec executing
  have later := own_call_move own move
  refine ⟨?_, ?_, ?_⟩
  · intro next isNext
    cases move <;> cases isNext <;> exact alive
  · intro next isNext
    have same : next.ref = exec.ref := by
      cases move <;> cases isNext <;> rfl
    rw [same]
    exact later
  · intro next _ _ isNext atPC
    cases move with
    | opens _ _ _ here =>
      cases isNext
      cases atPC
      obtain ⟨known, atKnown, _⟩ := own_stage_known own here
      exact ⟨known, atKnown, Nat.zero_le _⟩
    | refuses _ worked _ _ before =>
      cases isNext
      cases atPC
      exact placed.staffed exec _ worked executing before
    | launches _ _ _ _ _ _ here =>
      cases isNext
      cases atPC
      obtain ⟨known, atKnown, _⟩ := own_stage_known own here
      refine ⟨known, atKnown, ?_⟩
      simp only [length_append, length_singleton]
      omega
    | finishes _ worked _ _ _ before | works _ worked _ _ _ _ _ _ before
    | reports _ worked _ _ before =>
      cases isNext
      cases atPC
      simpa using placed.staffed exec _ worked executing before
    | _ => cases isNext <;> cases atPC

/-- Steps that an attempt can still take. -/
def attemptWeight : TaskPC → Nat
  | .claiming => 18
  | .claimPending _ => 17
  | .claimed => 16
  | .recordingJob _ todo => 13 + todo.length
  | .starting => 12
  | .startPending _ => 11
  | .authorizing => 10
  | .calling => 9
  | .succeeding => 8
  | .failing _ => 8
  | .succeedPending _ => 7
  | .failPending _ _ => 7
  | .attempted _ _ => 3
  | .finished _ => 2

def routineWeight (limit : Nat) (routine : Goroutine) : Nat :=
  20 * (limit - routine.attempt).toNat + attemptWeight routine.pc

def workerWeight (limit : Nat) : Worker Goroutine → Nat
  | .running routine => routineWeight limit routine
  | .reporting _ => 1
  | .returned _ => 0

/-- More than a worker that is just started. -/
def startWeight (limit : Nat) : Nat := 20 * limit + 19

def stageWeight (limit : Nat) (stage : Stage Input) : Nat :=
  stage.tasks.length * startWeight limit + 4

def stagesWeight (limit : Nat) (stages : List (Stage Input)) : Nat :=
  (stages.map (stageWeight limit)).sum

def execWeight (limit : Nat) (origin : Job Input) : ExecPC → Nat
  | .begin => stagesWeight limit origin.stages + 11
  | .queueing => stagesWeight limit origin.stages + 10
  | .recordQueued => stagesWeight limit origin.stages + 9
  | .starting => stagesWeight limit origin.stages + 8
  | .openStage stage => stagesWeight limit (origin.stages.drop stage) + 6
  | .inStage stage run =>
    stagesWeight limit (origin.stages.drop (stage + 1)) +
      ((origin.stages[stage]?.elim 0 (·.tasks.length)) - run.workers.length) *
        startWeight limit +
      (run.workers.map (workerWeight limit)).sum + 7
  | .failing _ => 4
  | .recordFailure _ => 3
  | .completing => 4
  | .recordSuccess => 3

def callWeight (origin : Job Input) (call : Call Input) : Nat :=
  call.exec.elim 0 fun exec => execWeight call.sched.config.maxDispatchAttempts origin exec.pc

theorem first_dispatch_length (state : Option JobLifecycleState) :
    (firstDispatchTransitions state).length ≤ 2 := by
  cases state with
  | none => decide
  | some state => cases state <;> decide

attribute [local simp] attemptWeight callWeight stageEvent routineWeight failedAttempt workerWeight
  execWeight

theorem routine_lowers (stepped : goroutineStep sched routine task answers now = some progress) :
    routineWeight sched.config.maxDispatchAttempts progress.routine <
      routineWeight sched.config.maxDispatchAttempts routine := by
  have move := goroutine_move stepped
  cases move with
  | quiet _ _ _ control =>
    unfold routineWeight
    dsimp only
    generalize routine.pc = before at control
    cases control <;> simp
  | retried _ _ before =>
    simp only [goroutineStep, before] at stepped
    split_ifs at stepped with within
    · rw [Bool.and_eq_true, decide_eq_true_eq] at within
      simp only [routineWeight, before, attemptWeight]
      omega
    · simp at stepped
  | noted target before =>
    have short := first_dispatch_length ((sched.objects target).bind (·.lifecycleState))
    simp only [routineWeight, before, attemptWeight]
    omega
  | jobRecorded _ _ _ _ before | legacyClaim before | illegalClaim before | claimPrepared _ before
    | claimCommitted _ before =>
    simp [before]
  | reportPrepared _ _ _ _ _ _ _ _ phase atStart =>
    simp only [routineWeight, atStart]
    cases phase <;> simp
  | reportCommitted _ _ _ _ _ _ phase atCommit =>
    simp only [routineWeight, atCommit]
    cases phase <;> simp

theorem record_job_config (sched : Scheduler Input) (ref : Nat) (transition : TransitionType)
    (newState : JobLifecycleState) (errorSummary : String) (now : Time)
    (fault : Option GoError) :
    (recordJobTransition sched ref transition newState errorSummary now fault).config =
      sched.config := by
  rcases record_job_transition_cases sched ref transition newState errorSummary now fault with
    same | ⟨_, _, _, taken | ⟨_, _, _, _, _, moved⟩⟩
  · rw [same]
  · rw [taken]
    rfl
  · rw [moved]
    rfl

theorem goroutine_config (move : GoroutineMove sched routine task answers now progress) :
    progress.sched.config = sched.config := by
  cases move with
  | jobRecorded target transition newState =>
    exact record_job_config sched target transition newState "" now answers.fault
  | _ => rfl

theorem call_config (move : CallMove call exec action after) :
    after.sched.config = call.sched.config := by
  cases move with
  | begins | marksFailed | marksCompleted =>
    exact (steady_update_status ..).config
  | recordsQueued | startsEmpty | recordsFailure | recordsSuccess =>
    exact record_job_config _ _ _ _ _ _ _
  | works _ _ _ _ _ _ _ _ _ _ _ _ stepped =>
    have same := goroutine_config (goroutine_move stepped)
    unfold updateTask
    split <;> exact same
  | _ => rfl

theorem sum_set_lt {workers : List (Worker Goroutine)} {old worker : Worker Goroutine}
    (found : workers[index]? = some old)
    (less : workerWeight limit worker < workerWeight limit old) :
    ((workers.set index worker).map (workerWeight limit)).sum <
      (workers.map (workerWeight limit)).sum := by
  induction workers generalizing index with
  | nil => simp at found
  | cons _ rest ih =>
    cases index with
    | zero =>
      simp only [getElem?_cons_zero] at found
      cases found
      simpa using less
    | succ index =>
      have later : rest[index]? = some old := by simpa using found
      simpa using ih later

omit [GoRuntime Input] in
theorem stages_weight_drop (here : origin.stages[number]? = some object) :
    stagesWeight limit (origin.stages.drop number) =
      stageWeight limit object + stagesWeight limit (origin.stages.drop (number + 1)) := by
  obtain ⟨inside, atNumber⟩ := List.getElem?_eq_some_iff.mp here
  rw [drop_eq_getElem_cons inside, atNumber]
  simp [stagesWeight]

theorem call_lowers (placed : Placed origin call) (executing : call.exec = some exec)
    (served : action ≠ .event (.launch (.error errNoWorkerCapacity)))
    (move : CallMove call exec action after) :
    callWeight origin after < callWeight origin call := by
  obtain ⟨_, own⟩ := placed.own exec executing
  have config := call_config move
  set limit := call.sched.config.maxDispatchAttempts with isLimit
  have before : callWeight origin call = execWeight limit origin exec.pc := by
    simp [executing, isLimit]
  have going : ∀ pc, after.exec = some { exec with pc := pc } →
      callWeight origin after = execWeight limit origin pc := by
    intro pc goes
    simp [goes, config, isLimit]
  have done : after.exec = none → callWeight origin after = 0 := by
    intro returned
    simp [returned]
  cases move with
  | begins atPC | unqueued atPC | queued atPC | recordsQueued atPC | starts atPC | startsEmpty atPC
  | exhausts _ atPC | unserved _ _ _ _ _ atPC | marksFailed _ atPC | marksCompleted atPC =>
    rw [before, going _ rfl, atPC]
    simp
  | opens _ _ atPC here =>
    rw [before, going _ rfl, atPC]
    obtain ⟨known, atKnown, _⟩ := own_stage_known own here
    simp only [execWeight, stages_weight_drop atKnown, stageWeight, newStageRun, atKnown,
      elim_some, length_nil, Nat.sub_zero, map_nil, sum_nil]
    omega
  | passes _ _ _ atPC | fails _ _ _ _ atPC =>
    rw [before, going _ rfl, atPC]
    simp only [execWeight]
    omega
  | recordsFailure _ atPC | recordsSuccess atPC =>
    rw [before, done rfl, atPC]
    simp
  | refuses _ _ _ asked => exact absurd asked served
  | launches _ run _ nodeID _ atPC here =>
    rw [before, going _ rfl, atPC]
    obtain ⟨known, atKnown, _⟩ := own_stage_known own here
    have fresh : routineWeight limit (startGoroutine nodeID) < startWeight limit := by
      simp only [routineWeight, startGoroutine, attemptWeight, startWeight]
      omega
    have fewer : (known.tasks.length - run.workers.length) * startWeight limit =
        (known.tasks.length - (run.workers.length + 1)) * startWeight limit +
          startWeight limit := by
      rw [← Nat.succ_mul]
      congr 1
      omega
    simp only [execWeight, atKnown, elim_some, length_append, length_singleton,
      map_append, map_cons, map_nil, sum_append, sum_cons, sum_nil,
      workerWeight]
    omega
  | finishes _ _ _ routine err atPC running finished =>
    rw [before, going _ rfl, atPC]
    have less : workerWeight limit (finishedWorker err) <
        workerWeight limit (.running routine) := by
      cases err <;> simp [finishedWorker, finished]
    have smaller := sum_set_lt running less
    simp only [execWeight, length_set]
    omega
  | works _ _ _ routine _ _ progress _ atPC running _ _ stepped =>
    rw [before, going _ rfl, atPC]
    have less : workerWeight limit (.running progress.routine) <
        workerWeight limit (.running routine) := routine_lowers stepped
    have smaller := sum_set_lt running less
    simp only [execWeight, length_set]
    omega
  | reports _ _ _ err atPC reporting =>
    rw [before, going _ rfl, atPC]
    have less : workerWeight limit (.returned (some err)) <
        workerWeight limit (.reporting err) := by simp
    have smaller := sum_set_lt reporting less
    simp only [execWeight, length_set]
    omega

theorem goroutine_enabled (sched : Scheduler Input) (routine : Goroutine) (task : Task Input)
    (answers : Answers) (now : Time) (unfinished : ∀ err, routine.pc ≠ .finished err) :
    ∃ progress, goroutineStep sched routine task answers now = some progress := by
  rw [← isSome_iff_exists]
  cases pc : routine.pc with
  | finished err => exact absurd pc (unfinished err)
  | claimed =>
    simp only [goroutineStep, pc]
    split <;> rfl
  | recordingJob _ todo =>
    cases todo <;> simp [goroutineStep, pc]
  | authorizing | calling =>
    simp only [goroutineStep, pc]
    split
    · rfl
    · split_ifs <;> rfl
  | attempted =>
    simp only [goroutineStep, pc]
    split_ifs
    · split <;> rfl
    · rfl
  | _ => simp [goroutineStep, pc]

theorem work_enabled {run : StageRun Goroutine} (answers : Answers) (now : Time)
    (running : run.workers[index]? = some (.running routine))
    (found : objectTask sched ref ⟨stage, index⟩ = some task) :
    ∃ result, workStep sched ref stage run index answers now = some result := by
  simp only [workStep, running, found]
  cases pc : routine.pc with
  | finished err =>
    cases err <;> simp [finish, running]
  | _ =>
    obtain ⟨_, stepped⟩ := goroutine_enabled sched routine task answers now (by simp [pc])
    exact ⟨_, by rw [stepped]; rfl⟩

theorem event_enabled (executing : call.exec = some exec) (event : Event)
    (enabled : (execEvent call.sched exec event call.now).isSome) :
    ∃ after, callStep call (.event event) = some after := by
  obtain ⟨_, moved⟩ := isSome_iff_exists.mp enabled
  simp [callStep, executing, moved]

theorem stage_enabled {run : StageRun Goroutine} (placed : Placed origin call)
    (executing : call.exec = some exec) (atPC : exec.pc = .inStage stage run) :
    ∃ event after, serves event = true ∧ inTurn call event = true ∧
      callStep call (.event event) = some after := by
  obtain ⟨_, own⟩ := placed.own exec executing
  have alive := placed.alive exec executing
  obtain ⟨_, atKnown, _⟩ := placed.staffed exec stage run executing atPC
  obtain ⟨object, atObject, _⟩ := shape_stage own.shape.symm atKnown
  have here := (own_stage own stage).trans atObject
  by_cases busy : ∃ (index : Nat) (routine : Goroutine),
      run.workers[index]? = some (.running routine)
  · obtain ⟨index, routine, running⟩ := busy
    have inside : index < object.tasks.length := by
      have bound := (List.getElem?_eq_some_iff.mp running).1
      omega
    have found : objectTask call.sched exec.ref ⟨stage, index⟩ = some object.tasks[index] := by
      simp [objectTask, own.found, taskAt, atObject, inside]
    obtain ⟨_, worked⟩ := work_enabled answered call.now running found
    obtain ⟨after, taken⟩ := event_enabled executing (.work index answered)
      (by simp [execEvent, atPC, worked])
    exact ⟨_, after, rfl, rfl, taken⟩
  · by_cases reporting : ∃ (index : Nat) (err : GoError),
        run.workers[index]? = some (.reporting err)
    · obtain ⟨index, err, found⟩ := reporting
      obtain ⟨after, taken⟩ := event_enabled executing (.report index false)
        (by simp [execEvent, atPC, report, found])
      exact ⟨_, after, rfl, rfl, taken⟩
    · have returned : run.workers.all Worker.hasReturned = true := by
        rw [List.all_eq_true]
        intro worker member
        obtain ⟨index, found⟩ := mem_iff_getElem?.mp member
        cases worker with
        | running routine => exact absurd ⟨index, routine, found⟩ busy
        | reporting err => exact absurd ⟨index, err, found⟩ reporting
        | returned => rfl
      by_cases selecting : run.selectionErr = none ∧ run.workers.length < object.tasks.length
      · obtain ⟨after, taken⟩ := event_enabled executing (.launch (.ok "node"))
          (by simp [execEvent, atPC, here, launch, selecting, alive])
        refine ⟨_, after, rfl, ?_, taken⟩
        obtain ⟨_⟩ := exec
        cases atPC
        simp only [inTurn, executing, returned]
      · have isJoined : joined object.tasks.length run = true := by
          simp only [joined, returned, Bool.and_true, Bool.or_eq_true, decide_eq_true_eq]
          by_cases unset : run.selectionErr = none
          · have full : ¬ run.workers.length < object.tasks.length := fun less =>
            selecting ⟨unset, less⟩
            exact .inr (by omega)
          · exact .inl (by simpa [isSome_iff_ne_none] using unset)
        obtain ⟨after, taken⟩ := event_enabled executing (.step calm)
          (by simp [execEvent, execStep, atPC, here, isJoined])
        exact ⟨_, after, rfl, rfl, taken⟩

theorem call_enabled (placed : Placed origin call) (executing : call.exec = some exec) :
    ∃ event after, serves event = true ∧ inTurn call event = true ∧
      callStep call (.event event) = some after := by
  cases atPC : exec.pc with
  | inStage => exact stage_enabled placed executing atPC
  | _ =>
    obtain ⟨after, taken⟩ := event_enabled executing (.step calm)
      (by simp [execEvent, execStep, atPC])
    exact ⟨_, after, rfl, rfl, taken⟩

section

variable (placed : Placed origin call) (served : serves moment.2 = true)
  (taken : momentStep call moment = some after)

include placed served taken

theorem moment_move :
    ∃ exec, call.exec = some exec ∧
      CallMove (waited call moment.1) exec (.event moment.2) after := by
  have alive : ∀ exec, (waited call moment.1).exec = some exec → exec.cancelled = false :=
    placed.alive
  exact call_event_moves (serves_calm served) alive taken

theorem placed_step : Placed origin after ∧ callWeight origin after < callWeight origin call := by
  obtain ⟨_, executing, move⟩ := moment_move placed served taken
  have here : Placed origin (waited call moment.1) := ⟨placed.alive, placed.own, placed.staffed⟩
  have lowers : callWeight origin after < callWeight origin (waited call moment.1) := by
    refine call_lowers here executing ?_ move
    intro refused
    rw [CallAction.event.injEq] at refused
    rw [refused] at served
    cases served
  exact ⟨placed_move here executing move, lowers⟩

end

theorem stuck_returned (placed : Placed origin call)
    (stuck : Stuck momentStep (fun call moment => (serves moment.2 && inTurn call moment.2) = true)
      call) :
    call.exec = none := by
  cases executing : call.exec with
  | none => rfl
  | some =>
    obtain ⟨event, after, served, turn, taken⟩ := call_enabled placed executing
    have blocked := stuck (0, event) (by simp [served, turn])
    have moves : momentStep call (0, event) = some after := taken
    rw [moves] at blocked
    cases blocked

end Dagens.Scheduler.CallProgress
