import Dagens.Lib.ExclusiveWindows
import Dagens.Lib.GuardedRun
import Dagens.Scheduler.Goroutine

/-!
# Several schedulers running one task

Every scheduler runs `executeTaskWithRetry` on its own copy of one task, with
its own memory and the shared store. The window of an attempt opens with the
accepted claim and closes with the record of the attempt's terminal outcome.
A claim is rejected on a RUNNING row, but not on a DISPATCHED row of a lower
attempt: the window is protected only from the RUNNING record on.
-/

namespace Dagens.Scheduler.ExclusiveDispatch

open Lib GuardedRun ExclusiveWindows Lifecycle GoSupport Transitions StoreEffects Goroutine Function
  List Option

variable {Input : Type} [GoRuntime Input]

structure Loop (Input : Type) where
  task : Task Input
  routine : Goroutine

structure RunFleet (Input : Type) where
  store : TransitionStore
  memory : Nat → Scheduler Input
  loops : Nat → Option (Loop Input)
  events : List (Nat × TaskEvent)

inductive RunAction (Input : Type) where
  | start (who : Nat) (task : Task Input) (nodeID : String)
  | step (who : Nat) (answers : Answers) (now : Time)

def isIdle : Option (Loop Input) → Bool
  | none => true
  | some loop =>
    match loop.routine.pc with
    | .finished _ => true
    | _ => false

/-- The scheduler's memory together with the shared store. -/
def schedulerView (fleet : RunFleet Input) (who : Nat) : Scheduler Input :=
  { fleet.memory who with store := fleet.store }

def progressed (fleet : RunFleet Input) (who : Nat) (progress : Progress Input) :
    RunFleet Input where
  store := progress.sched.store
  memory := update fleet.memory who progress.sched
  loops := update fleet.loops who (some ⟨progress.task, progress.routine⟩)
  events := fleet.events ++ progress.events.map fun event => (who, event)

/-- A scheduler may start a new loop on the task, from any copy it holds of it,
once its previous loop has returned. -/
def runFleetStep (taskID : String) (fleet : RunFleet Input) :
    RunAction Input → Option (RunFleet Input)
  | .start who task nodeID =>
    if task.id = taskID ∧ task.jobID ≠ "" ∧ isIdle (fleet.loops who) = true then
      some
        { fleet with
          loops := update fleet.loops who (some ⟨task, startGoroutine nodeID⟩) }
    else none
  | .step who answers now =>
    match fleet.loops who with
    | none => none
    | some loop =>
      (goroutineStep (schedulerView fleet who) loop.routine loop.task answers now).map
        (progressed fleet who)

def freshRunFleet (fleet : RunFleet Input) : Prop :=
  (∀ who, fleet.loops who = none) ∧ fleet.events = []

def opensWindow : TaskEvent → Bool
  | .claimed _ => true
  | _ => false

def closesWindow : TaskEvent → Bool
  | .settled => true
  | _ => false

/-- Between a scheduler's accepted claim and the record of that attempt's
terminal outcome, no other scheduler obtains a claim and calls the executor. -/
def RunsExclusive (events : List (Nat × TaskEvent)) : Prop :=
  ∀ before middle later rest first second attempt other, first ≠ second →
    events = before ++ (first, .claimed attempt) ::
      (middle ++ (second, .claimed other) :: (later ++ (second, .called) :: rest)) →
    (first, .settled) ∈ middle ++ later

def claimAwaits (rows : AList (fun _ : String => DurableTaskRecord)) (loop : Loop Input) :
    Bool :=
  match loop.routine.pc with
  | .claimPending write =>
    (rows.lookup loop.task.id).all fun row =>
      decide (row.currentState = some .dispatched → write.record.attempt ≤ row.lastAttempt)
  | _ => true

/-- No claim of a higher attempt arrives at the store while the row is
DISPATCHED. -/
def ClaimAwaitsRunning (fleet : RunFleet Input) : RunAction Input → Prop
  | .start _ _ _ => True
  | .step who _ _ => (fleet.loops who).all (claimAwaits fleet.store.tasks) = true

instance (fleet : RunFleet Input) :
    ∀ action, Decidable (ClaimAwaitsRunning fleet action)
  | .start _ _ _ => isTrue trivial
  | .step who _ _ =>
    inferInstanceAs (Decidable ((fleet.loops who).all (claimAwaits fleet.store.tasks) = true))

/-- The attempt is claimed and its outcome not yet recorded. -/
def inFlight : TaskPC → Bool
  | .claimed | .recordingJob _ _ | .starting | .startPending _ | .authorizing | .calling
  | .succeeding | .succeedPending _ | .failing _ | .failPending _ _ => true
  | _ => false

/-- A prepared RUNNING record has the state it is named for. -/
def StartShape : TaskPC → Prop
  | .startPending write => write.newState = .running
  | _ => True

abbrev window (events : List (Nat × TaskEvent)) (who : Nat) : Bool :=
  windowOpen opensWindow closesWindow events who

structure RunInvariant (taskID : String) (fleet : RunFleet Input) : Prop where
  copies : ∀ who loop, fleet.loops who = some loop →
    loop.task.id = taskID ∧ loop.task.jobID ≠ "" ∧ StartShape loop.routine.pc
  flying : ∀ who loop, fleet.loops who = some loop → inFlight loop.routine.pc = true →
    window fleet.events who = true
  single : ∀ first second, window fleet.events first = true →
    window fleet.events second = true → first = second
  guarded : ∀ who, window fleet.events who = true →
    ∃ row, fleet.store.tasks.lookup taskID = some row ∧
      (row.currentState = some .dispatched ∨ row.currentState = some .running)
  free : OpensWhenFree opensWindow closesWindow fleet.events

/-- The four ways in which a goroutine step touches the window of its attempt. -/
inductive WindowMove (sched : Scheduler Input) (routine : Goroutine) (task : Task Input)
    (progress : Progress Input) : Prop where
  | quiet (rows : progress.sched.store.tasks = sched.store.tasks)
      (silent : ∀ event ∈ progress.events, opensWindow event = false ∧ closesWindow event = false)
      (stays : inFlight progress.routine.pc = true → inFlight routine.pc = true)
  | claim (write : PendingWrite) (pending : routine.pc = .claimPending write)
      (accepted : ∀ row, sched.store.tasks.lookup task.id = some row →
        claimAccepted row write.record.attempt = true)
      (rows : progress.sched.store.tasks = sched.store.tasks.insert task.id
        (claimedRow (claimOf task write) (sched.store.tasks.lookup task.id)))
      (opened : progress.events = [.claimed routine.attempt])
  | start (row : DurableTaskRecord) (flying : inFlight routine.pc = true)
      (running : row.currentState = some .running)
      (rows : progress.sched.store.tasks = sched.store.tasks.insert task.id row)
      (silent : progress.events = [])
  | settle (row : DurableTaskRecord) (flying : inFlight routine.pc = true)
      (rows : progress.sched.store.tasks = sched.store.tasks.insert task.id row)
      (closed : progress.events = [.settled])
      (landed : inFlight progress.routine.pc = false)

variable {before after : TaskPC} {events : List TaskEvent} {sched : Scheduler Input}
  {routine : Goroutine} {task : Task Input} {answers : Answers} {now : Time}
  {progress : Progress Input}

omit [GoRuntime Input] in
theorem quiet_window (control : Quiet before after events) :
    (∀ event ∈ events, opensWindow event = false ∧ closesWindow event = false) ∧
      (inFlight after = true → inFlight before = true) ∧ StartShape after := by
  cases control <;> simp [opensWindow, closesWindow, inFlight, failedAttempt, StartShape]

omit [GoRuntime Input] in
theorem phase_window {report : TaskReport} {pending : PendingWrite → TaskPC}
    (phase : ReportPhase report before pending after events) (write : PendingWrite) :
    inFlight before = true ∧ inFlight (pending write) = true ∧
      (events = [] ∧ (StartShape (pending write) ↔ write.newState = .running) ∨
        events = [.settled] ∧ inFlight after = false) ∧
      StartShape after := by
  cases phase <;> simp [inFlight, failedAttempt, StartShape]

theorem goroutine_window (hasJob : task.jobID ≠ "") (shape : StartShape routine.pc)
    (move : GoroutineMove sched routine task answers now progress) :
    WindowMove sched routine task progress := by
  cases move with
  | quiet _ _ _ control =>
    exact .quiet rfl (quiet_window control).1 (quiet_window control).2.1
  | retried | illegalClaim | claimPrepared => exact .quiet rfl (by simp) (by simp [inFlight])
  | noted _ before => exact .quiet rfl (by simp) fun _ => by rw [before]; rfl
  | jobRecorded _ _ _ _ before =>
    exact .quiet (record_job_tasks ..) (by simp) fun _ => by rw [before]; rfl
  | legacyClaim _ legacy => exact absurd legacy hasJob
  | claimCommitted write before _ _ accepted =>
    exact .claim write before accepted (claim_committed_tasks task write sched.store) rfl
  | reportPrepared _ _ _ _ _ write _ _ phase atStart =>
    exact .quiet rfl (by simp) fun _ => atStart ▸ (phase_window phase write).1
  | reportCommitted _ _ _ _ _ write phase atCommit =>
    obtain ⟨_, flying, closing, _⟩ := phase_window phase write
    rw [← atCommit] at flying
    rcases closing with ⟨silent, running⟩ | ⟨settled, landed⟩
    · rw [← atCommit] at running
      exact .start _ flying (congrArg some (running.mp shape))
        (task_committed_tasks task write sched.store) silent
    · exact .settle _ flying (task_committed_tasks task write sched.store) settled landed

theorem goroutine_start_shape (move : GoroutineMove sched routine task answers now progress) :
    StartShape progress.routine.pc := by
  cases move with
  | quiet _ _ _ control => exact (quiet_window control).2.2
  | reportPrepared _ _ _ _ _ _ _ _ phase _ _ _ newState =>
    cases phase with
    | running => exact newState
    | succeeded => trivial
    | failed => trivial
  | reportCommitted _ _ _ _ _ write phase =>
    exact (phase_window phase write).2.2.2
  | _ => trivial

section

omit [GoRuntime Input]

theorem window_silent (events : List (Nat × TaskEvent)) (who other : Nat) (extra : List TaskEvent)
    (silent : ∀ event ∈ extra, opensWindow event = false ∧ closesWindow event = false) :
    window (events ++ extra.map fun event => (who, event)) other = window events other := by
  induction extra generalizing events with
  | nil => simp
  | cons event _ ih =>
    obtain ⟨notOpening, notClosing⟩ := silent event (mem_cons_self ..)
    have later := ih (events ++ [(who, event)]) fun entry member =>
      silent entry (mem_cons_of_mem _ member)
    rw [append_assoc, singleton_append] at later
    rw [map_cons, later, window, window_open_snoc, windowAfter]
    split_ifs <;> simp [notOpening, notClosing]

theorem free_silent (events : List (Nat × TaskEvent)) (who : Nat) (extra : List TaskEvent)
    (silent : ∀ event ∈ extra, opensWindow event = false ∧ closesWindow event = false)
    (free : OpensWhenFree opensWindow closesWindow events) :
    OpensWhenFree opensWindow closesWindow (events ++ extra.map fun event => (who, event)) := by
  induction extra generalizing events with
  | nil => simpa using free
  | cons event _ ih =>
    have next := opens_when_free_snoc opensWindow closesWindow (who, event) free fun opening => by
      simp [(silent event (mem_cons_self ..)).1] at opening
    have later := ih (events ++ [(who, event)])
      (fun entry member => silent entry (mem_cons_of_mem _ member)) next
    rwa [append_assoc, singleton_append] at later

theorem loops_progressed {fleet : RunFleet Input} {who other : Nat} {loop : Loop Input}
    (found : (progressed fleet who progress).loops other = some loop) :
    other = who ∧ loop = ⟨progress.task, progress.routine⟩ ∨
      other ≠ who ∧ fleet.loops other = some loop := by
  simp only [progressed] at found
  by_cases same : other = who
  · subst same
    rw [update_self] at found
    exact .inl ⟨rfl, (some.inj found).symm⟩
  · rw [update_of_ne same] at found
    exact .inr ⟨same, found⟩

end

section Progress

variable {taskID : String} {fleet : RunFleet Input} {who : Nat} {loop : Loop Input}
  {progress : Progress Input}

section

omit [GoRuntime Input]

section

variable (invariant : RunInvariant taskID fleet)
  (copies : ∀ other entry, (progressed fleet who progress).loops other = some entry →
    entry.task.id = taskID ∧ entry.task.jobID ≠ "" ∧ StartShape entry.routine.pc)

include invariant copies

theorem silent_invariant (present : fleet.loops who = some loop)
    (silent : ∀ event ∈ progress.events, opensWindow event = false ∧ closesWindow event = false)
    (stays : inFlight progress.routine.pc = true → inFlight loop.routine.pc = true)
    (guarded : ∀ other, window fleet.events other = true → ∃ row, progress.sched.store.tasks.lookup
          taskID = some row ∧ (row.currentState = some .dispatched ∨ row.currentState = some .running)) :
    RunInvariant taskID (progressed fleet who progress) := by
  have windows : ∀ other, window (progressed fleet who progress).events other =
      window fleet.events other := fun other => window_silent fleet.events who other _ silent
  refine ⟨copies, ?_, ?_, ?_, free_silent fleet.events who _ silent invariant.free⟩
  · intro other entry found flying
    rw [windows]
    rcases loops_progressed found with ⟨rfl, rfl⟩ | ⟨_, old⟩
    · exact invariant.flying other loop present (stays flying)
    · exact invariant.flying other entry old flying
  · intro first second openFirst openSecond
    rw [windows] at openFirst openSecond
    exact invariant.single first second openFirst openSecond
  · intro other opened
    rw [windows] at opened
    exact guarded other opened

theorem claim_invariant (closed : ∀ other, window fleet.events other = false) (attempt : Int)
    (opened : progress.events = [.claimed attempt])
    (dispatched : ∃ row, progress.sched.store.tasks.lookup taskID = some row ∧ row.currentState =
      some .dispatched) :
    RunInvariant taskID (progressed fleet who progress) := by
  have events : (progressed fleet who progress).events =
      fleet.events ++ [(who, .claimed attempt)] := by simp [progressed, opened]
  have windows : ∀ other, window (progressed fleet who progress).events other = true ↔
      other = who := by
    intro other
    rw [events, window, window_open_snoc, windowAfter]
    by_cases same : who = other
    · simp [same, opensWindow]
    · simp [same, eq_comm (a := other), closed other]
  refine ⟨copies, ?_, ?_, ?_, ?_⟩
  · intro other entry found flying
    rw [windows]
    rcases loops_progressed found with ⟨same, _⟩ | ⟨_, old⟩
    · exact same
    · have openOther := invariant.flying other entry old flying
      rw [closed other] at openOther
      cases openOther
  · intro _ _ openFirst openSecond
    rw [windows] at openFirst openSecond
    rw [openFirst, openSecond]
  · intro other _
    obtain ⟨row, found, state⟩ := dispatched
    exact ⟨row, found, .inl state⟩
  · rw [events]
    exact opens_when_free_snoc opensWindow closesWindow _ invariant.free fun _ => closed

theorem settle_invariant (present : fleet.loops who = some loop)
    (flying : inFlight loop.routine.pc = true) (closed : progress.events = [.settled])
    (landed : inFlight progress.routine.pc = false) :
    RunInvariant taskID (progressed fleet who progress) := by
  have opened := invariant.flying who loop present flying
  have events : (progressed fleet who progress).events = fleet.events ++ [(who, .settled)] := by
    simp [progressed, closed]
  have windows : ∀ other, window (progressed fleet who progress).events other = false := by
    intro other
    rw [events, window, window_open_snoc, windowAfter]
    by_cases same : who = other
    · simp [same, opensWindow, closesWindow]
    · rw [if_neg same]
      by_contra openOther
      exact same (invariant.single who other opened (by simpa using openOther))
  refine ⟨copies, ?_, ?_, ?_, ?_⟩
  · intro other entry found inAir
    rcases loops_progressed found with ⟨_, rfl⟩ | ⟨apart, old⟩
    · rw [landed] at inAir
      cases inAir
    · exact absurd (invariant.single who other opened (invariant.flying other entry old inAir))
        (Ne.symm apart)
  · intro _ _ openFirst
    rw [windows] at openFirst
    cases openFirst
  · intro other openOther
    rw [windows] at openOther
    cases openOther
  · rw [events]
    exact opens_when_free_snoc opensWindow closesWindow _ invariant.free fun opening => by
      simp [opensWindow] at opening

end

end

end Progress

omit [GoRuntime Input] in
theorem start_invariant (taskID : String) (fleet : RunFleet Input) (who : Nat) (nodeID : String)
    (invariant : RunInvariant taskID fleet) (id : task.id = taskID) (hasJob : task.jobID ≠ "") :
    RunInvariant taskID
      { fleet with
        loops := update fleet.loops who (some ⟨task, startGoroutine nodeID⟩) } := by
  have loops : ∀ other entry, update fleet.loops who
      (some ⟨task, startGoroutine nodeID⟩) other = some entry →
      entry = ⟨task, startGoroutine nodeID⟩ ∨ fleet.loops other = some entry := by
    intro other entry found
    by_cases same : other = who
    · subst same
      rw [update_self] at found
      exact .inl (some.inj found).symm
    · rw [update_of_ne same] at found
      exact .inr found
  refine ⟨?_, ?_, invariant.single, invariant.guarded, invariant.free⟩
  · intro other entry found
    rcases loops other entry found with rfl | old
    · exact ⟨id, hasJob, trivial⟩
    · exact invariant.copies other entry old
  · intro other entry found flying
    rcases loops other entry found with rfl | old
    · simp [startGoroutine, inFlight] at flying
    · exact invariant.flying other entry old flying

theorem run_fleet_step_invariant (taskID : String) (fleet : RunFleet Input)
    (action : RunAction Input) (after : RunFleet Input) (invariant : RunInvariant taskID fleet)
    (awaits : ClaimAwaitsRunning fleet action)
    (taken : runFleetStep taskID fleet action = some after) : RunInvariant taskID after := by
  cases action with
  | start who task nodeID =>
    simp only [runFleetStep] at taken
    split_ifs at taken with enabled
    cases taken
    exact start_invariant taskID fleet who nodeID invariant enabled.1 enabled.2.1
  | step who =>
    cases present : fleet.loops who with
    | none => simp [runFleetStep, present] at taken
    | some loop =>
      simp only [runFleetStep, present] at taken
      obtain ⟨progress, stepped, rfl⟩ := map_eq_some_iff.mp taken
      have move := goroutine_move stepped
      obtain ⟨rfl, hasJob, shape⟩ := invariant.copies who loop present
      obtain ⟨sameID, sameJob⟩ : progress.task.id = loop.task.id ∧
          progress.task.jobID = loop.task.jobID := by
        cases move <;> exact ⟨rfl, rfl⟩
      have copies : ∀ other entry, (progressed fleet who progress).loops other = some entry →
          entry.task.id = loop.task.id ∧ entry.task.jobID ≠ "" ∧ StartShape entry.routine.pc := by
        intro other entry found
        rcases loops_progressed found with ⟨_, rfl⟩ | ⟨_, old⟩
        · exact ⟨sameID, sameJob.symm ▸ hasJob, goroutine_start_shape move⟩
        · exact invariant.copies other entry old
      cases goroutine_window hasJob shape move with
      | quiet rows silent stays =>
        exact silent_invariant invariant copies present silent stays fun other opened =>
          rows.symm ▸ invariant.guarded other opened
      | claim write pending accepted rows opened =>
        have waits : ∀ row, fleet.store.tasks.lookup loop.task.id = some row →
            row.currentState = some .dispatched →
            write.record.attempt ≤ row.lastAttempt := by
          simpa [ClaimAwaitsRunning, present, claimAwaits, pending, Option.all_eq_true,
            imp_iff_not_or] using awaits
        have found := (congrArg (AList.lookup loop.task.id) rows).trans (AList.lookup_insert _)
        refine claim_invariant invariant copies (fun other => ?_) _ opened ⟨_, found, ?_⟩
        · by_contra opened
          obtain ⟨row, found, inWindow⟩ := invariant.guarded other (by simpa using opened)
          have free := accepted row found
          simp only [claimAccepted, Bool.and_eq_true, decide_eq_true_eq] at free
          rcases inWindow with dispatched | running
          · exact absurd free.1.1 (not_lt.mpr (waits row found dispatched))
          · exact free.1.2 running
        · unfold claimedRow
          split <;> rfl
      | start row flying running rows silent =>
        refine silent_invariant invariant copies present (by simp [silent])
          (fun _ => flying) fun other _ => ⟨row, ?_, .inr running⟩
        exact (congrArg (AList.lookup loop.task.id) rows).trans (AList.lookup_insert _)
      | settle _ flying _ closed landed =>
        exact settle_invariant invariant copies present flying closed landed

omit [GoRuntime Input] in
theorem fresh_run_fleet_invariant (taskID : String) (fleet : RunFleet Input)
    (fresh : freshRunFleet fleet) : RunInvariant taskID fleet := by
  obtain ⟨loops, events⟩ := fresh
  refine ⟨?_, ?_, ?_, ?_, ?_⟩
  · intro who loop found
    simp [loops] at found
  · intro who loop found
    simp [loops] at found
  · intro _ _ opened
    simp [events, window, windowOpen] at opened
  · intro who opened
    simp [events, window, windowOpen] at opened
  · rw [events]
    exact opens_when_free_nil opensWindow closesWindow

/-- As long as no claim of a higher attempt arrives at a DISPATCHED row, no two
schedulers run the task at once. -/
theorem runs_exclusive_while_claims_await (taskID : String) (fleet : RunFleet Input)
    (reached : Reaches (runFleetStep taskID) ClaimAwaitsRunning freshRunFleet fleet) :
    RunsExclusive fleet.events := by
  have invariant := reaches_invariant (fresh_run_fleet_invariant taskID)
    (run_fleet_step_invariant taskID) reached
  intro _ _ _ _ _ _ _ _ _ split
  obtain ⟨closing, member, closes⟩ := closed_before_next opensWindow closesWindow invariant.free
    split rfl rfl
  have settled : closing = .settled := by
    cases closing <;> simp [closesWindow] at closes ⊢
  exact mem_append_left _ (settled ▸ member)

def racingFleet : RunFleet SampleInput where
  store := newTransitionStore
  memory := fun _ => newScheduler SampleInput ⟨false, 1000, 2⟩
  loops := fun _ => none
  events := []

def goodAnswers : Answers where
  fault := none
  selectNode := some "node-2"
  authority := .ok ⟨true, "leader", "1"⟩
  executor := none

/-- Scheduler 1 has claimed and not yet recorded RUNNING when scheduler 2, turned
away with attempt 1, claims attempt 2 and calls the executor. -/
def raceRun : List (RunAction SampleInput) :=
  [RunAction.start 1 pendingTask "node-1", .start 2 pendingTask "node-2"] ++
    replicate 2 (RunAction.step 1 goodAnswers 1) ++ replicate 9 (RunAction.step 2 goodAnswers 2) ++
    replicate 4 (RunAction.step 1 goodAnswers 3)

theorem claim_before_running_overlaps :
    ∃ fleet, run (runFleetStep "task-1") racingFleet raceRun = some fleet ∧
      fleet.events = [(1, .claimed 1), (2, .claimed 2), (2, .called), (1, .called)] ∧
      ¬ RunsExclusive fleet.events := by
  refine ⟨_, rfl, by decide, ?_⟩
  intro exclusive
  have settled := exclusive [] [] [] [(1, .called)] 1 2 1 2 (by decide) (by decide)
  cases settled

/-- Scheduler 2 comes when the RUNNING record is there, and again when the task
has succeeded. -/
def awaitedRun : List (RunAction SampleInput) :=
  [RunAction.start 1 pendingTask "node-1", .start 2 pendingTask "node-2"] ++
    replicate 5 (RunAction.step 1 goodAnswers 1) ++ replicate 6 (RunAction.step 2 goodAnswers 2) ++
    replicate 4 (RunAction.step 1 goodAnswers 3) ++ [RunAction.start 2 pendingTask "node-2"] ++
    replicate 6 (RunAction.step 2 goodAnswers 4)

theorem awaited_claims_run_once :
    ∃ fleet, run (runFleetStep "task-1") racingFleet awaitedRun = some fleet ∧
      fleet.events = [(1, .claimed 1), (1, .called), (1, .returned none), (1, .settled)] ∧
      RunsExclusive fleet.events := by
  have started : Reaches (runFleetStep "task-1") ClaimAwaitsRunning freshRunFleet racingFleet :=
    .start ⟨fun _ => rfl, rfl⟩
  exact ⟨_, rfl, by decide, runs_exclusive_while_claims_await "task-1" _
    (reaches_of_run started awaitedRun (by decide) rfl)⟩

end Dagens.Scheduler.ExclusiveDispatch
