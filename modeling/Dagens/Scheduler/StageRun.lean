import Dagens.Lib.GuardedRun
import Dagens.Scheduler.Transitions

/-!
# The parallel part of `executeStage`

Tasks are started one after the other; each started task is a worker that
reports at most one error through a `select` racing with the cancellation of
the stage context. The collector waits for the workers and then looks only at
the selection error and at the error channel.

What a worker does between start and result is a parameter, so the same stage
serves the schedule-level results here and the scheduler machine.
-/

namespace Dagens.Scheduler.StageRun

open Lib.GuardedRun GoSupport List

set_option linter.dupNamespace false

/-- `reporting` is the moment before the `select`; `returned` is after
`wg.Done`. -/
inductive Worker (Routine : Type) where
  | running (routine : Routine)
  | reporting (err : GoError)
  | returned (err : Option GoError)

structure StageRun (Routine : Type) where
  workers : List (Worker Routine)
  selectionErr : Option GoError
  errChan : List GoError

def errContextCanceled : GoError := .plain "context canceled"

def errNoHealthyNodes : GoError := .plain "no healthy nodes available for execution"

variable {Routine : Type}

def newStageRun (Routine : Type) : StageRun Routine where
  workers := []
  selectionErr := none
  errChan := []

def Worker.hasReturned : Worker Routine → Bool
  | .returned _ => true
  | _ => false

/-- The next turn of the selection loop. -/
def launch (total : Nat) (cancelled : Bool) (selection : Except GoError String)
    (start : String → Routine) (stage : StageRun Routine) : Option (StageRun Routine) :=
  if stage.selectionErr = none ∧ stage.workers.length < total then
    if cancelled then some { stage with selectionErr := some errContextCanceled }
    else
      match selection with
      | .error err => some { stage with selectionErr := some err }
      | .ok nodeID =>
        some { stage with workers := stage.workers ++ [.running (start nodeID)] }
  else none

/-- `executeTaskWithRetry` of a worker returns. -/
def finish (index : Nat) (result : Option GoError) (stage : StageRun Routine) :
    Option (StageRun Routine) :=
  match stage.workers[index]? with
  | some (.running _) =>
    match result with
    | none => some { stage with workers := stage.workers.set index (.returned none) }
    | some err => some { stage with workers := stage.workers.set index (.reporting err) }
  | _ => none

/-- The worker's `select`: the `Done` branch is there only once the context is
cancelled, and `viaDone` says which branch is taken when both are ready. -/
def report (index : Nat) (cancelled viaDone : Bool) (stage : StageRun Routine) :
    Option (StageRun Routine) :=
  match stage.workers[index]? with
  | some (.reporting err) =>
    some
      { stage with
        workers := stage.workers.set index (.returned (some err))
        errChan := if cancelled && viaDone then stage.errChan else stage.errChan ++ [err] }
  | _ => none

/-- `wg.Wait` has returned. -/
def joined (total : Nat) (stage : StageRun Routine) : Bool :=
  (stage.selectionErr.isSome || decide (stage.workers.length = total)) &&
    stage.workers.all Worker.hasReturned

def stageResult (stageID : String) (stage : StageRun Routine) : Option GoError :=
  match stage.selectionErr with
  | some err => some (err.wrap ("stage " ++ stageID ++ " failed: "))
  | none => stage.errChan.head?.map (GoError.wrap ("stage " ++ stageID ++ " failed: "))

/-- Every task of the stage was started and its `executeTaskWithRetry`
returned nil. -/
def AllSucceeded (total : Nat) (stage : StageRun Routine) : Prop :=
  stage.workers.length = total ∧ ∀ worker ∈ stage.workers, worker = .returned none

inductive StageEvent where
  | launch (selection : Except GoError String)
  | finish (index : Nat) (result : Option GoError)
  | report (index : Nat)
  | cancel

structure StageState where
  stage : StageRun String
  cancelled : Bool

def stageStart : StageState := ⟨newStageRun String, false⟩

/-- `choices index` is the branch that worker `index` takes when both branches
of its `select` are ready. -/
def stageStep (total : Nat) (choices : Nat → Bool) (state : StageState) :
    StageEvent → Option StageState
  | .launch selection =>
    (launch total state.cancelled selection id state.stage).map fun stage =>
      { state with stage := stage }
  | .finish index result =>
    (finish index result state.stage).map fun stage => { state with stage := stage }
  | .report index =>
    (report index state.cancelled (choices index) state.stage).map fun stage =>
      { state with stage := stage }
  | .cancel => some { state with cancelled := true }

/-- What `executeStage` returns after a schedule; `none` when the schedule is
not one of a completed call. -/
def executeStage (stageID : String) (total : Nat) (nodesAvailable : Bool)
    (choices : Nat → Bool) (schedule : List StageEvent) :
    Option (Option GoError × StageRun String) :=
  if !nodesAvailable then some (some errNoHealthyNodes, newStageRun String)
  else
    match run (stageStep total choices) stageStart schedule with
    | none => none
    | some final =>
      if joined total final.stage then some (stageResult stageID final.stage, final.stage)
      else none

/-- Some turn of the selection loop finds no node or a cancelled context. -/
def selectionFails (cancelled : Bool) : List StageEvent → Bool
  | [] => false
  | .launch (.error _) :: _ => true
  | .launch (.ok _) :: rest => cancelled || selectionFails cancelled rest
  | .cancel :: rest => selectionFails true rest
  | .finish _ _ :: rest => selectionFails cancelled rest
  | .report _ :: rest => selectionFails cancelled rest

/-- Some worker reaches its `select` with an error before the cancellation. -/
def reportsInTime : List StageEvent → Bool
  | [] => false
  | .report _ :: _ => true
  | .cancel :: _ => false
  | .launch _ :: rest => reportsInTime rest
  | .finish _ _ :: rest => reportsInTime rest

def isFailure : StageEvent → Bool
  | .finish _ (some _) => true
  | _ => false

def someTaskFails (schedule : List StageEvent) : Bool := schedule.any isFailure

def Worker.failed : Worker Routine → Bool
  | .reporting _ => true
  | .returned (some _) => true
  | _ => false

def HasFailure (workers : List (Worker Routine)) : Prop :=
  ∃ worker ∈ workers, worker.failed = true

theorem has_failure_set {workers : List (Worker Routine)} {index : Nat}
    {before worker : Worker Routine} (found : workers[index]? = some before)
    (kept : before.failed = true → worker.failed = true) :
    HasFailure (workers.set index worker) ↔ HasFailure workers ∨ worker.failed = true := by
  obtain ⟨inside, _⟩ := List.getElem?_eq_some_iff.mp found
  constructor
  · rintro ⟨other, member, failed⟩
    rcases mem_or_eq_of_mem_set member with old | rfl
    · exact .inl ⟨other, old, failed⟩
    · exact .inr failed
  · rintro (⟨other, member, failed⟩ | failed)
    · obtain ⟨place, lookup⟩ := mem_iff_getElem?.mp member
      by_cases same : index = place
      · subst same
        have old : before = other := Option.some.inj (found.symm.trans lookup)
        exact ⟨worker, mem_set inside _, kept (old ▸ failed)⟩
      · exact ⟨other, mem_iff_getElem?.mpr
          ⟨place, by rw [List.getElem?_set_ne same]; exact lookup⟩, failed⟩
    · exact ⟨worker, mem_set inside _, failed⟩

inductive StageMove (choices : Nat → Bool) : StageState → StageEvent → StageState → Prop where
  | blocked {state : StageState} {selection : Except GoError String} (err : GoError)
      (selecting : state.stage.selectionErr = none)
      (reason : state.cancelled = true ∨ ∃ refusal, selection = .error refusal) :
      StageMove choices state (.launch selection)
        { state with stage := { state.stage with selectionErr := some err } }
  | started {state : StageState} {nodeID : String}
      (selecting : state.stage.selectionErr = none) (live : state.cancelled = false) :
      StageMove choices state (.launch (.ok nodeID))
        { state with
          stage := { state.stage with workers := state.stage.workers ++ [.running nodeID] } }
  | succeeded {state : StageState} {index : Nat} {nodeID : String}
      (running : state.stage.workers[index]? = some (.running nodeID)) :
      StageMove choices state (.finish index none)
        { state with
          stage := { state.stage with
            workers := state.stage.workers.set index (.returned none) } }
  | failed {state : StageState} {index : Nat} {nodeID : String} (err : GoError)
      (running : state.stage.workers[index]? = some (.running nodeID)) :
      StageMove choices state (.finish index (some err))
        { state with
          stage := { state.stage with
            workers := state.stage.workers.set index (.reporting err) } }
  | reported {state : StageState} {index : Nat} {err : GoError}
      (reporting : state.stage.workers[index]? = some (.reporting err)) :
      StageMove choices state (.report index)
        { state with
          stage := { state.stage with
            workers := state.stage.workers.set index (.returned (some err))
            errChan := if state.cancelled && choices index then state.stage.errChan
              else state.stage.errChan ++ [err] } }
  | cancelled {state : StageState} :
      StageMove choices state .cancel { state with cancelled := true }

variable {state after twin : StageState} {event : StageEvent}

theorem stage_move {total : Nat} (choices : Nat → Bool)
    (taken : stageStep total choices state event = some after) :
    StageMove choices state event after := by
  cases event with
  | launch selection =>
    simp only [stageStep, launch] at taken
    split_ifs at taken with enabled cancelled
    · cases taken
      exact .blocked _ enabled.1 (.inl cancelled)
    · cases selection with
      | error err =>
        cases taken
        exact .blocked _ enabled.1 (.inr ⟨err, rfl⟩)
      | ok =>
        cases taken
        exact .started enabled.1 (by simpa using cancelled)
    · cases taken
  | finish _ result =>
    simp only [stageStep, finish] at taken
    split at taken
    · rename_i nodeID running
      cases result <;> cases taken
      · exact .succeeded running
      · exact .failed _ running
    · cases taken
  | report =>
    simp only [stageStep, report] at taken
    split at taken
    · rename_i err reporting
      cases taken
      exact .reported reporting
    · cases taken
  | cancel =>
    cases taken
    exact .cancelled

/-- The part of a state that does not depend on the `select` choices. -/
def SameButChannel (state twin : StageState) : Prop :=
  twin.cancelled = state.cancelled ∧ twin.stage.workers = state.stage.workers ∧
    twin.stage.selectionErr = state.stage.selectionErr

theorem stage_step_twin (total : Nat) (choices others : Nat → Bool)
    (same : SameButChannel state twin) (taken : stageStep total choices state event = some after) :
    ∃ next, stageStep total others twin event = some next ∧ SameButChannel after next := by
  obtain ⟨⟨_⟩, _⟩ := state
  obtain ⟨⟨_⟩, _⟩ := twin
  obtain ⟨rfl, rfl, rfl⟩ := same
  cases event with
  | launch selection =>
    simp only [stageStep, launch] at taken ⊢
    split_ifs at taken ⊢
    · cases taken
      exact ⟨_, rfl, rfl, rfl, rfl⟩
    · cases selection <;> cases taken <;> exact ⟨_, rfl, rfl, rfl, rfl⟩
    · cases taken
  | finish _ result =>
    simp only [stageStep, finish] at taken ⊢
    split at taken
    · cases result <;> cases taken <;> exact ⟨_, rfl, rfl, rfl, rfl⟩
    · cases taken
  | report =>
    simp only [stageStep, report] at taken ⊢
    split at taken
    · cases taken
      exact ⟨_, rfl, rfl, rfl, rfl⟩
    · cases taken
  | cancel =>
    cases taken
    exact ⟨_, rfl, rfl, rfl, rfl⟩

theorem run_twin {total : Nat} (choices others : Nat → Bool) {schedule : List StageEvent}
    {final : StageState} (same : SameButChannel state twin)
    (ran : run (stageStep total choices) state schedule = some final) :
    ∃ other, run (stageStep total others) twin schedule = some other ∧
      SameButChannel final other := by
  induction schedule generalizing state twin with
  | nil =>
    cases ran
    exact ⟨twin, rfl, same⟩
  | cons _ _ ih =>
    obtain ⟨_, taken, later⟩ := run_cons ran
    obtain ⟨_, moved, sameNext⟩ := stage_step_twin total choices others same taken
    obtain ⟨other, ranOther, sameFinal⟩ := ih sameNext later
    exact ⟨other, by rw [run, moved]; exact ranOther, sameFinal⟩

attribute [local simp] Worker.failed selectionFails reportsInTime isFailure newStageRun executeStage

section Runs

variable {total : Nat} {choices : Nat → Bool} {state final : StageState}

section

variable (schedule : List StageEvent)
  (ran : run (stageStep total choices) state schedule = some final)

include schedule ran

theorem run_selection :
    final.stage.selectionErr.isSome =
      (state.stage.selectionErr.isSome || selectionFails state.cancelled schedule) := by
  induction schedule generalizing state with
  | nil =>
    cases ran
    simp
  | cons _ _ ih =>
    obtain ⟨_, taken, later⟩ := run_cons ran
    rw [ih later]
    cases stage_move choices taken with
    | @blocked selection _ _ reason =>
      cases selection <;> simp_all
    | started _ live => simp [live]
    | succeeded | failed | reported | cancelled =>
      simp

theorem run_keeps_reports (reported : state.stage.errChan ≠ []) : final.stage.errChan ≠ [] := by
  induction schedule generalizing state with
  | nil =>
    cases ran
    exact reported
  | cons _ _ ih =>
    obtain ⟨_, taken, later⟩ := run_cons ran
    refine ih later ?_
    cases stage_move choices taken <;> simp_all
    split_ifs <;> simp_all

theorem run_reports_in_time (live : state.cancelled = false)
    (inTime : reportsInTime schedule = true) :
    final.stage.errChan ≠ [] := by
  induction schedule generalizing state with
  | nil => simp at inTime
  | cons _ rest ih =>
    obtain ⟨_, taken, later⟩ := run_cons ran
    cases stage_move choices taken with
    | reported => exact run_keeps_reports rest later (by simp [live])
    | cancelled => simp at inTime
    | _ => exact ih later live inTime

end

theorem run_drops_late_reports (schedule : List StageEvent)
    (ran : run (stageStep total fun _ => true) state schedule = some final)
    (late : state.cancelled = true ∨ reportsInTime schedule = false) :
    final.stage.errChan = state.stage.errChan := by
  induction schedule generalizing state with
  | nil =>
    cases ran
    rfl
  | cons _ _ ih =>
    obtain ⟨_, taken, later⟩ := run_cons ran
    cases stage_move _ taken with
    | reported =>
      have cancelled : state.cancelled = true := by simpa using late
      rw [ih later (.inl cancelled)]
      simp [cancelled]
    | cancelled =>
      have kept := ih later (.inl rfl)
      exact kept
    | _ =>
      have kept := ih later late
      exact kept

theorem run_failures {schedule : List StageEvent}
    (ran : run (stageStep total choices) state schedule = some final) :
    HasFailure final.stage.workers ↔
      HasFailure state.stage.workers ∨ someTaskFails schedule = true := by
  induction schedule generalizing state with
  | nil =>
    cases ran
    simp [someTaskFails]
  | cons _ _ ih =>
    obtain ⟨_, taken, later⟩ := run_cons ran
    rw [ih later]
    cases stage_move choices taken with
    | started =>
      simp [HasFailure, or_and_right, exists_or, someTaskFails]
    | succeeded running | failed _ running =>
      rw [has_failure_set running (by simp)]
      simp [someTaskFails]
    | reported reporting =>
      have before : HasFailure state.stage.workers :=
        ⟨_, mem_of_getElem? reporting, rfl⟩
      rw [has_failure_set reporting (by simp)]
      simp [before]
    | _ => simp [someTaskFails]

end Runs

theorem stage_result_none (stageID : String) (stage : StageRun Routine) :
    stageResult stageID stage = none ↔ stage.selectionErr = none ∧ stage.errChan = [] := by
  unfold stageResult
  cases stage.selectionErr <;> simp

theorem all_succeeded_iff {total : Nat} {stage : StageRun Routine}
    (selected : stage.selectionErr = none) (done : joined total stage = true) :
    AllSucceeded total stage ↔ ¬ HasFailure stage.workers := by
  simp only [joined, selected, Option.isSome_none, Bool.false_or, Bool.and_eq_true,
    decide_eq_true_eq, all_eq_true] at done
  obtain ⟨started, returned⟩ := done
  constructor
  · rintro ⟨_, succeeded⟩ ⟨worker, member, failed⟩
    rw [succeeded worker member] at failed
    exact Bool.false_ne_true failed
  · intro fine
    refine ⟨started, fun worker member => ?_⟩
    have finished := returned worker member
    have notFailed : ¬ worker.failed = true := fun failed => fine ⟨worker, member, failed⟩
    rcases worker with _ | err | (_ | err) <;>
      simp_all [Worker.hasReturned]

theorem execute_stage_some {stageID : String} {total : Nat} {choices : Nat → Bool}
    {schedule : List StageEvent} {result : Option GoError} {stage : StageRun String}
    (executed : executeStage stageID total true choices schedule = some (result, stage)) :
    ∃ final, run (stageStep total choices) stageStart schedule = some final ∧
      joined total final.stage = true ∧ result = stageResult stageID final.stage ∧
      stage = final.stage := by
  simp only [executeStage, Bool.not_true, Bool.false_eq_true, if_false] at executed
  split at executed
  · cases executed
  · rename_i final ran
    split_ifs at executed with done
    cases executed
    exact ⟨final, ran, done, rfl, rfl⟩

/-- The schedules on which nil always means that every task was started and
succeeded: no node at all, a failed selection, no failing task, or an error
that reaches its `select` before the cancellation. -/
def NilIsTrustworthy (nodesAvailable : Bool) (schedule : List StageEvent) : Prop :=
  nodesAvailable = false ∨ selectionFails false schedule = true ∨
    someTaskFails schedule = false ∨ reportsInTime schedule = true

theorem stage_nil_means_success_iff (stageID : String) (total : Nat) (nodesAvailable : Bool)
    (schedule : List StageEvent)
    (completes : ∃ choices,
      (executeStage stageID total nodesAvailable choices schedule).isSome = true) :
    (∀ choices result stage,
        executeStage stageID total nodesAvailable choices schedule = some (result, stage) →
        result = none → AllSucceeded total stage) ↔
      NilIsTrustworthy nodesAvailable schedule := by
  cases nodesAvailable with
  | false => simp [NilIsTrustworthy]
  | true =>
    constructor
    · intro trusted
      by_contra untrusted
      simp only [NilIsTrustworthy, not_or, Bool.not_eq_true, Bool.not_eq_false] at untrusted
      obtain ⟨_, selected, fails, late⟩ := untrusted
      obtain ⟨choices, completed⟩ := completes
      obtain ⟨⟨result, stage⟩, executed⟩ := Option.isSome_iff_exists.mp completed
      obtain ⟨_, ran, done, _⟩ := execute_stage_some executed
      -- Let every late worker take the `Done` branch: the channel stays empty.
      obtain ⟨other, ranOther, _, sameWorkers, sameSelection⟩ :=
        run_twin choices (fun _ => true) ⟨rfl, rfl, rfl⟩ ran
      have noSelectionErr : other.stage.selectionErr = none := by
        have failed := run_selection schedule ranOther
        simpa [stageStart, selected] using failed
      have noReports : other.stage.errChan = [] :=
        run_drops_late_reports schedule ranOther (.inr late)
      have doneOther : joined total other.stage = true := by
        simpa [joined, sameWorkers, sameSelection] using done
      have succeeded := trusted (fun _ => true) none other.stage (by
        simp [ranOther, doneOther,
          (stage_result_none stageID other.stage).mpr ⟨noSelectionErr, noReports⟩]) rfl
      exact (all_succeeded_iff noSelectionErr doneOther).mp succeeded
        ((run_failures ranOther).mpr (.inr fails))
    · intro trusted choices result stage executed isNil
      obtain ⟨_, ran, done, rfl, rfl⟩ := execute_stage_some executed
      obtain ⟨noSelectionErr, noReports⟩ := (stage_result_none _ _).mp isNil
      rw [all_succeeded_iff noSelectionErr done, run_failures ran]
      rcases trusted with none | selection | fine | inTime
      · cases none
      · have failed := run_selection schedule ran
        simp [stageStart, noSelectionErr, selection] at failed
      · simp [HasFailure, stageStart, fine]
      · exact absurd noReports (run_reports_in_time schedule ran rfl inTime)

/-- One task: it is started, the context is cancelled, it fails, and its
worker takes the `Done` branch. -/
def lostErrorSchedule : List StageEvent :=
  [.launch (.ok "node-1"), .cancel, .finish 0 (some (.plain "task failed")), .report 0]

theorem cancelled_stage_hides_failure :
    let stage : StageRun String := ⟨[.returned (some (.plain "task failed"))], none, []⟩
    executeStage "stage-1" 1 true (fun _ => true) lostErrorSchedule = some (none, stage) ∧
      ¬ AllSucceeded 1 stage := by
  refine ⟨rfl, ?_⟩
  simp [AllSucceeded]

def timelyErrorSchedule : List StageEvent :=
  [.launch (.ok "node-1"), .finish 0 (some (.plain "task failed")), .report 0, .cancel]

theorem timely_stage_trustworthy :
    (executeStage "stage-1" 1 true (fun _ => true) timelyErrorSchedule).isSome = true ∧
      ((∀ choices result stage,
          executeStage "stage-1" 1 true choices timelyErrorSchedule = some (result, stage) →
          result = none → AllSucceeded 1 stage) ↔
        NilIsTrustworthy true timelyErrorSchedule) :=
  ⟨rfl, stage_nil_means_success_iff "stage-1" 1 true timelyErrorSchedule ⟨fun _ => true, rfl⟩⟩

end Dagens.Scheduler.StageRun
