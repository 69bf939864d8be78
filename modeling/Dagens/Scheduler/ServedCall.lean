import Dagens.Lib.ClaimBoard
import Dagens.Scheduler.CallProgress
import Dagens.Scheduler.ExecutionViews
import Dagens.Scheduler.TerminalRecords

/-!
# A served call as a board of claims

While the environment serves a call of `executeJob`, a goroutine can only be
stopped by its dispatch claim. The call then refines a board on which the tasks
of the job claim their durable rows: a row that is RUNNING or SUCCEEDED refuses
every claim, any other one refuses the attempts it has seen, and a task that has
been refused its last attempt has failed.
-/

namespace Dagens.Scheduler.ServedCall

open Lib.ClaimBoard Lifecycle GoSupport Transitions StoreEffects Goroutine StageRun
  Operations Memory Machine MachineMoves Ledger ExecutionCall CallProgress ExecutionViews
  TerminalRecords List Option

variable {Input : Type} [GoRuntime Input]

/-- The claim of the attempt is accepted and the attempt has not failed. -/
def past : TaskPC → Bool
  | .claimed | .recordingJob _ _ | .starting | .startPending _ | .authorizing | .calling
  | .succeeding | .succeedPending _ | .finished none => true
  | _ => false

inductive ServedMove (sched : Scheduler Input) (routine : Goroutine) (task : Task Input) :
    Progress Input → Prop where
  | prepares (write : PendingWrite) (before : routine.pc = .claiming)
      (attempt : write.record.attempt = routine.attempt) :
      ServedMove sched routine task
        ⟨takeSequence sched task.jobID, { routine with pc := .claimPending write },
          { task with attempts := routine.attempt }, []⟩
  | accepts (write : PendingWrite) (before : routine.pc = .claimPending write)
      (named : task.id ≠ "")
      (free : ∀ row, sched.store.tasks.lookup task.id = some row →
        claimAccepted row write.record.attempt = true) :
      ServedMove sched routine task
        ⟨{ sched with store := claimCommitted task write sched.store },
          { routine with pc := .claimed }, { task with lifecycleState := some .dispatched },
          [.claimed routine.attempt]⟩
  | rejects (write : PendingWrite) (before : routine.pc = .claimPending write)
      (blocked : task.id = "" ∨ ∃ row, sched.store.tasks.lookup task.id = some row ∧
        claimAccepted row write.record.attempt = false) :
      ServedMove sched routine task
        ⟨sched, { routine with pc := .attempted errDispatchClaimRejected true }, task, []⟩
  | retries (nodeID : String) (err : GoError) (before : routine.pc = .attempted err true)
      (within : routine.attempt < sched.config.maxDispatchAttempts) :
      ServedMove sched routine task ⟨sched, ⟨nodeID, routine.attempt + 1, .claiming⟩, task, []⟩
  | givesUp (err : GoError) (before : routine.pc = .attempted err true)
      (spent : sched.config.maxDispatchAttempts ≤ routine.attempt) :
      ServedMove sched routine task
        ⟨sched, { routine with pc := .finished (some err) }, task, []⟩
  | advances (progress : Progress Input) (before : past routine.pc = true)
      (after : past progress.routine.pc = true)
      (attempt : progress.routine.attempt = routine.attempt)
      (rows : ∀ taskID, taskID ≠ task.id →
        progress.sched.store.tasks.lookup taskID = sched.store.tasks.lookup taskID)
      (settles : progress.routine.pc = .finished none →
        ∃ row, progress.sched.store.tasks.lookup task.id = some row ∧
          row.currentState = some .succeeded) :
      ServedMove sched routine task progress

/-- What a goroutine has kept to while it is served. -/
def RoutineServed (limit : Nat) (routine : Goroutine) : Prop :=
  1 ≤ routine.attempt ∧ routine.attempt ≤ limit ∧
    match routine.pc with
    | .claimPending write => write.record.attempt = routine.attempt
    | .attempted _ retryable => retryable = true
    | .failing _ | .failPending _ _ => False
    | _ => True

variable {task : Task Input} {err : GoError}

omit [GoRuntime Input] in
theorem claim_blocked {write : PendingWrite} {store : TransitionStore}
    (valid : task.id ≠ "" → Valid write.record)
    (failed : commitDispatchClaim task write none store = .error err) :
    task.id = "" ∨ ∃ row, store.tasks.lookup task.id = some row ∧
      claimAccepted row write.record.attempt = false := by
  by_contra free
  rw [not_or] at free
  obtain ⟨named, free⟩ := free
  have rows : ∀ row, store.tasks.lookup task.id = some row →
      claimAccepted row write.record.attempt = true := by
    intro row found
    by_contra blocked
    exact free ⟨row, found, by simpa using blocked⟩
  have claimed := (commit_dispatch_claim_ok task write none store _).mpr
    ⟨⟨rfl, valid named, named, rows⟩, rfl⟩
  rw [claimed] at failed
  cases failed

variable {progress : Progress Input} {sched : Scheduler Input} {answers : Answers}
  {routine : Goroutine}

section Routine

variable {now : Time}

theorem advance_rows (move : GoroutineMove sched routine task answers now progress)
    (taskID : String) (other : taskID ≠ task.id) :
    progress.sched.store.tasks.lookup taskID = sched.store.tasks.lookup taskID := by
  cases move with
  | jobRecorded =>
    dsimp only
    rw [record_job_tasks]
  | claimCommitted =>
    dsimp only
    rw [claim_committed_tasks, AList.lookup_insert_ne other]
  | reportCommitted =>
    dsimp only
    rw [task_committed_tasks, AList.lookup_insert_ne other]
  | _ => rfl

theorem served_move (accepted : answers.fault = none) (node : answers.selectNode.isSome)
    (succeeds : answers.executor = none)
    (leads : ∃ authority, answers.authority = .ok authority ∧ authority.isLeader = true)
    (hasJob : task.jobID ≠ "") (clock : now ≠ 0)
    (pending : routine.pc = .claiming → task.lifecycleState = some .pending)
    (served : RoutineServed limit routine) (stands : RoutineStands sched.store task routine.pc)
    (valid : ∀ write, routine.pc = .claimPending write → task.id ≠ "" → Valid write.record)
    (stepped : goroutineStep sched routine task answers now = some progress) :
    ServedMove sched routine task progress := by
  have rows := advance_rows (goroutine_move stepped)
  obtain ⟨nodeID, attempt, current⟩ := routine
  cases current with
  | claiming =>
    cases stepped
    have legal : canTransitionTaskState
        (claimPreviousState { task with attempts := attempt }) .dispatched = true := by
      simp only [claimPreviousState, pending rfl]
      rfl
    simp only [prepareClaim, hasJob, if_false, prepareDispatchClaim, legal, if_true]
    exact .prepares _ rfl rfl
  | claimPending write =>
    simp only [goroutineStep, accepted] at stepped
    cases stepped
    unfold commitClaim
    split
    · rename_i err failed
      rw [claim_error_rejected (valid write rfl) failed]
      exact .rejects write rfl (claim_blocked (valid write rfl) failed)
    · rename_i claimed store committed
      obtain ⟨⟨_, _, named, free⟩, result⟩ := (commit_dispatch_claim_ok ..).mp committed
      cases result
      exact .accepts write rfl named free
  | claimed =>
    simp only [goroutineStep] at stepped
    split at stepped <;> cases stepped <;>
      exact .advances _ rfl rfl rfl rows (by rintro ⟨⟩)
  | recordingJob _ todo =>
    cases todo with
    | nil | cons =>
      cases stepped
      exact .advances _ rfl rfl rfl rows (by rintro ⟨⟩)
  | starting =>
    cases stepped
    rcases prepare_report_cases sched ⟨nodeID, attempt, _⟩ { task with status := .running }
      .running "" now .authorizing .startPending with same | ⟨write, written, _⟩
    · rw [same] at rows ⊢
      exact .advances _ rfl rfl rfl rows (by rintro ⟨⟩)
    · rw [written] at rows ⊢
      exact .advances _ rfl rfl rfl rows (by rintro ⟨⟩)
  | startPending =>
    simp only [goroutineStep, accepted] at stepped
    cases stepped
    rw [commit_report_written stands.2.valid] at rows ⊢
    exact .advances _ rfl rfl rfl rows (by rintro ⟨⟩)
  | authorizing =>
    obtain ⟨leader, isLeader, leads⟩ := leads
    simp only [goroutineStep, isLeader, leads, if_true] at stepped
    cases stepped
    exact .advances _ rfl rfl rfl rows (by rintro ⟨⟩)
  | calling =>
    simp only [goroutineStep, succeeds] at stepped
    cases stepped
    exact .advances _ rfl rfl rfl rows (by rintro ⟨⟩)
  | succeeding =>
    cases stepped
    obtain ⟨named, _, state⟩ := stands
    obtain ⟨write, written, _, _⟩ := prepare_report_written sched ⟨nodeID, attempt, _⟩ task
      .succeeded named
      hasJob clock (by rw [state]; rfl) "" (.finished none) .succeedPending
    rw [written] at rows ⊢
    exact .advances _ rfl rfl rfl rows (by rintro ⟨⟩)
  | succeedPending =>
    simp only [goroutineStep, accepted] at stepped
    cases stepped
    rw [commit_report_written stands.2.valid] at rows ⊢
    refine .advances _ rfl rfl rfl rows fun _ => ?_
    dsimp only
    rw [task_committed_tasks, AList.lookup_insert]
    exact ⟨_, rfl, congrArg some stands.2.state⟩
  | failing | failPending =>
    simp only [RoutineServed] at served
    exact served.2.2.elim
  | attempted err =>
    simp only [RoutineServed] at served
    obtain ⟨_, _, rfl⟩ := served
    simp only [goroutineStep, Bool.true_and, decide_eq_true_eq] at stepped
    split_ifs at stepped with within
    · obtain ⟨other, selected⟩ := isSome_iff_exists.mp node
      simp only [selected] at stepped
      cases stepped
      exact .retries other err rfl within
    · cases stepped
      exact .givesUp err rfl (not_lt.mp within)
  | finished => simp [goroutineStep] at stepped

omit [GoRuntime Input] in
theorem routine_served_step (top : sched.config.maxDispatchAttempts ≤ limit)
    (served : RoutineServed limit routine) (move : ServedMove sched routine task progress) :
    RoutineServed limit progress.routine := by
  obtain ⟨least, most, _⟩ := served
  cases move with
  | prepares _ _ attempt => exact ⟨least, most, attempt⟩
  | accepts | givesUp => exact ⟨least, most, trivial⟩
  | rejects => exact ⟨least, most, rfl⟩
  | retries =>
    refine ⟨?_, ?_, trivial⟩
    all_goals
      dsimp only
      omega
  | advances _ _ after attempt =>
    refine ⟨attempt ▸ least, attempt ▸ most, ?_⟩
    revert after
    cases progress.routine.pc <;> simp [past]

end Routine

/-- `limit` is `MaxDispatchAttempts`. A goroutine that was refused its last attempt
has failed, even if it has not returned yet. -/
def routineStand (limit : Nat) (routine : Goroutine) : Stand :=
  match routine.pc with
  | .claiming | .claimPending _ => .trying
  | .attempted _ _ => if limit ≤ routine.attempt then .failed else .trying
  | .failing _ | .failPending _ _ | .finished (some _) => .failed
  | .finished none => .settled
  | _ => .holding

def workerStand (limit : Nat) : Worker Goroutine → Stand
  | .running routine => routineStand limit routine
  | .reporting _ => .failed
  | .returned none => .settled
  | .returned (some _) => .failed

def standOf (origin : Job Input) (limit : Nat) (pc : ExecPC) (position : Position) : Stand :=
  if position.stage < stagesDone origin pc then .settled
  else if position.stage = (crew pc).1 then
    (crew pc).2[position.index]?.elim .idle (workerStand limit)
  else .idle

def Spot (origin : Job Input) : Type := { position : Position // (taskAt origin position).isSome }

def spotID {origin : Job Input} (spot : Spot origin) : String :=
  ((taskAt origin spot.1).get spot.2).id

/-- The attempts that `executeTaskWithRetry` makes. -/
def attemptLimit (maxDispatchAttempts : Nat) : Nat := max 1 maxDispatchAttempts

/-- The row lets one of the attempts pass. -/
def acceptable (limit : Nat) (row : Option DurableTaskRecord) : Bool :=
  row.all fun row => claimAccepted row (attemptLimit limit)

def Free (limit : Nat) (taskID : String) (row : Option DurableTaskRecord) : Prop :=
  taskID ≠ "" ∧ acceptable limit row = true

def Closed (row : Option DurableTaskRecord) : Prop :=
  ∃ closed, row = some closed ∧ closed.currentState = some .succeeded

def boardOf (origin : Job Input) (limit : Nat) (sched : Scheduler Input) (pc : ExecPC) :
    Board (Spot origin) String DurableTaskRecord where
  stand := fun spot => standOf origin limit pc spot.1
  rows := fun taskID => sched.store.tasks.lookup taskID

attribute [local simp] acceptable routineStand standOf boardOf Stand.claimed workerStand

theorem closed_not_free (limit : Nat) (taskID : String) (row : Option DurableTaskRecord)
    (closed : Closed row) : ¬ Free limit taskID row := by
  obtain ⟨closed, rfl, state⟩ := closed
  simp [Free, claimAccepted, state]

variable {limit : Nat}

theorem claim_accepted_mono {row : DurableTaskRecord} {attempt : Int} (within : attempt ≤ limit)
    (accepted : claimAccepted row attempt = true) :
    claimAccepted row limit = true := by
  simp only [claimAccepted, Bool.and_eq_true, decide_eq_true_eq] at accepted ⊢
  exact ⟨⟨by omega, accepted.1.2⟩, accepted.2⟩

theorem past_stand (isPast : past routine.pc = true) :
    routineStand limit routine =
      if routine.pc = .finished none then .settled else .holding := by
  obtain ⟨_, _, pc⟩ := routine
  cases pc with
  | finished err => cases err <;> simp_all [past]
  | _ => simp_all [past]

omit [GoRuntime Input] in
theorem stand_in_stage (origin : Job Input) (limit stage index : Nat) (run : StageRun Goroutine) :
    standOf origin limit (.inStage stage run) ⟨stage, index⟩ =
      run.workers[index]?.elim .idle (workerStand limit) := by
  simp [stagesDone, crew]

variable {position : Position} {other run : StageRun Goroutine}

omit [GoRuntime Input] in
theorem stand_elsewhere (origin : Job Input) (limit : Nat) {stage index : Nat}
    (same : ∀ number, number ≠ index → other.workers[number]? = run.workers[number]?)
    (elsewhere : position ≠ ⟨stage, index⟩) :
    standOf origin limit (.inStage stage other) position =
      standOf origin limit (.inStage stage run) position := by
  obtain ⟨number, place⟩ := position
  by_cases here : number = stage
  · subst here
    have others := same place fun equal => elsewhere (by rw [equal])
    simp [stagesDone, crew, others]
  · simp [stagesDone, crew, here]

structure Book (origin : Job Input) (limit : Nat) (sched : Scheduler Input) (ref : Nat)
    (pc : ExecPC) : Prop where
  routines : ∀ (index : Nat) (routine : Goroutine), (crew pc).2[index]? = some (.running routine) →
    RoutineServed (attemptLimit limit) routine
  pending : ∀ position task, objectTask sched ref position = some task →
    (standOf origin limit pc position).claimed = false → task.lifecycleState = some .pending
  selection : ∀ stage run, pc = .inStage stage run → run.selectionErr = none
  heard : ∀ stage run, pc = .inStage stage run → run.errChan ≠ [] →
    ∃ (index : Nat) (err : GoError), run.workers[index]? = some (.returned (some err))

def isFailing : ExecPC → Bool
  | .failing _ | .recordFailure _ => true
  | _ => false

/-- A step of a served call that is not failing. -/
inductive Outlook (origin : Job Input) (limit : Nat) (call : Call Input) (exec : Exec)
    (serial : Prop) (after : Call Input) : Prop where
  | ends (atPC : exec.pc = .recordSuccess) (returned : after.exec = none)
  | fails (err : GoError) (next : after.exec = some { exec with pc := .failing err })
      (spot : Spot origin)
      (failed : (boardOf origin limit call.sched exec.pc).stand spot = .failed)
  | goesOn (pc : ExecPC) (next : after.exec = some { exec with pc := pc })
      (going : isFailing pc = false) (book : Book origin limit after.sched exec.ref pc)
      (step : BoardStep spotID (Free limit) Closed serial
        (boardOf origin limit call.sched exec.pc) (boardOf origin limit after.sched pc))

variable {pc next : ExecPC} {serial : Prop} {ref : Nat} {origin job : Job Input}

section Quiet

variable {after : Scheduler Input}

omit [GoRuntime Input] in
theorem book_plain (book : Book origin limit sched ref pc) (own : Own origin ref sched job)
    (tasks : ∀ position, objectTask after ref position = objectTask sched ref position)
    (rows : after.store.tasks = sched.store.tasks) (empty : (crew next).2 = [])
    (fresh : ∀ stage run, next = .inStage stage run → run.selectionErr = none ∧ run.errChan = [])
    (stands : ∀ position, (taskAt origin position).isSome →
      standOf origin limit next position = standOf origin limit pc position) :
    Book origin limit after ref next ∧
      BoardStep spotID (Free limit) Closed serial
        (boardOf origin limit sched pc) (boardOf origin limit after next) := by
  refine ⟨⟨?_, ?_, ?_, ?_⟩, .rests (fun spot => stands spot.1 spot.2) fun taskID => ?_⟩
  · intro _ _ running
    simp [empty] at running
  · intro position task found unclaimed
    rw [tasks] at found
    obtain ⟨_, atKnown, _⟩ := shape_task own.shape (own_task own found)
    rw [stands position (by simp [atKnown])] at unclaimed
    exact book.pending position task found unclaimed
  · intro stage run atPC
    exact (fresh stage run atPC).1
  · intro stage run atPC heard
    exact absurd (fresh stage run atPC).2 heard
  · simp only [boardOf, rows]

end Quiet

variable {worker : Worker Goroutine} {index stage : Nat} {known : Task Input}

section Worker

variable {after : Scheduler Input}

omit [GoRuntime Input] in
theorem book_worker (book : Book origin limit sched ref (.inStage stage run))
    (workers : ∀ number, number ≠ index → other.workers[number]? = run.workers[number]?)
    (isWorker : other.workers[index]? = some worker)
    (served : ∀ routine, worker = .running routine → RoutineServed (attemptLimit limit) routine)
    (tasks : ∀ position, position ≠ ⟨stage, index⟩ →
      objectTask after ref position = objectTask sched ref position)
    (pending : ∀ task, objectTask after ref ⟨stage, index⟩ = some task →
      (workerStand limit worker).claimed = false → task.lifecycleState = some .pending)
    (selection : other.selectionErr = run.selectionErr)
    (heard : other.errChan ≠ [] →
      ∃ (index : Nat) (err : GoError), other.workers[index]? = some (.returned (some err))) :
    Book origin limit after ref (.inStage stage other) := by
  refine ⟨?_, ?_, ?_, ?_⟩
  · intro number routine running
    by_cases same : number = index
    · rw [same] at running
      exact served routine (Option.some.inj (isWorker.symm.trans running))
    · exact book.routines number routine ((workers number same).symm.trans running)
  · intro position task found unclaimed
    by_cases same : position = ⟨stage, index⟩
    · subst same
      rw [stand_in_stage, isWorker] at unclaimed
      exact pending task found unclaimed
    · rw [stand_elsewhere origin limit workers same] at unclaimed
      exact book.pending position task ((tasks position same).symm.trans found) unclaimed
  · rintro _ _ ⟨⟩
    rw [selection]
    exact book.selection stage run rfl
  · rintro _ _ ⟨⟩
    exact heard

omit [GoRuntime Input] in
theorem worker_moves (atKnown : taskAt origin ⟨stage, index⟩ = some known)
    (workers : ∀ number, number ≠ index → other.workers[number]? = run.workers[number]?)
    (isWorker : other.workers[index]? = some worker) (rows : ∀ taskID, taskID ≠ known.id →
      after.store.tasks.lookup taskID = sched.store.tasks.lookup taskID) :
    Moves spotID (boardOf origin limit sched (.inStage stage run))
    (boardOf origin limit after (.inStage stage other))
      ⟨⟨stage, index⟩, by simp [atKnown]⟩
    (run.workers[index]?.elim .idle (workerStand limit)) (workerStand limit worker) := by
  refine ⟨stand_in_stage origin limit stage index run, ?_, ?_, ?_⟩
  · exact (stand_in_stage origin limit stage index other).trans (by rw [isWorker]; rfl)
  · intro _ different
    exact stand_elsewhere origin limit workers
      fun same => different (Subtype.ext same)
  · intro taskID different
    refine rows taskID fun same => different ?_
    simpa [spotID, atKnown] using same

end Worker

structure Kept (origin : Job Input) (counters : String → Nat) (limit : Nat) (call : Call Input) :
    Prop where
  named : origin.id ≠ ""
  sound : Sound origin call
  balanced : Balanced origin counters call
  placed : Placed origin call
  config : call.sched.config.maxDispatchAttempts = limit

theorem serves_work (served : serves (.work index answers) = true) :
    answers.fault = none ∧ answers.selectNode.isSome ∧ answers.executor = none ∧
      ∃ authority, answers.authority = .ok authority ∧ authority.isLeader = true := by
  simp only [serves, Bool.and_eq_true, isNone_iff_eq_none] at served
  obtain ⟨⟨⟨accepted, node⟩, succeeds⟩, leads⟩ := served
  refine ⟨accepted, node, succeeds, ?_⟩
  cases answer : answers.authority with
  | error => simp [answer] at leads
  | ok authority => exact ⟨authority, rfl, by simpa [answer] using leads⟩

variable {event : Event}

theorem serves_keeps_authority (call : Call Input)
    (served : serves event = true) : keepsAuthority call (.event event) = true := by
  cases event with
  | work =>
    obtain ⟨_, _, succeeds, _, answer, leads⟩ := serves_work served
    simp only [keepsAuthority, answer, leads, succeeds, all_none]
    split <;> rfl
  | _ => rfl

variable {call : Call Input} {counters : String → Nat}

theorem kept_waited (kept : Kept origin counters limit call) (elapsed : Time) :
    Kept origin counters limit (waited call elapsed) := by
  have waits : callStep call (.tick elapsed) = some (waited call elapsed) := rfl
  exact ⟨kept.named, sound_step kept.named kept.sound rfl waits,
    balanced_step kept.balanced rfl rfl waits,
    ⟨kept.placed.alive, kept.placed.own, kept.placed.staffed⟩, kept.config⟩

theorem kept_step {after : Call Input} {moment : Time × Event}
    (kept : Kept origin counters limit call) (served : serves moment.2 = true)
    (taken : momentStep call moment = some after) :
    Kept origin counters limit after := by
  have waiting := kept_waited kept moment.1
  have calm := serves_calm served
  obtain ⟨_, _, move⟩ := moment_move kept.placed served taken
  exact ⟨kept.named, sound_step kept.named waiting.sound calm taken,
    balanced_step waiting.balanced calm (serves_keeps_authority _ served) taken,
    (placed_step kept.placed served taken).1,
    (congrArg _ (call_config move)).trans waiting.config⟩

section Steps

variable {exec : Exec} {after : Call Input} {object : Stage Input}

omit [GoRuntime Input] in
theorem served_board {after : Scheduler Input} {before later : ExecPC} {spot : Spot origin}
    (served : RoutineServed (attemptLimit limit) routine)
    (config : sched.config.maxDispatchAttempts = limit)
    (unfinished : ∀ err, routine.pc ≠ .finished err) (id : spotID spot = task.id)
    (store : after.store = progress.sched.store)
    (moves : Moves spotID (boardOf origin limit sched before) (boardOf origin limit after later)
      spot (routineStand limit routine) (routineStand limit progress.routine))
    (move : ServedMove sched routine task progress) :
    BoardStep spotID (Free limit) Closed serial (boardOf origin limit sched before)
      (boardOf origin limit after later) := by
  obtain ⟨_, most, phase⟩ := served
  have row : progress.sched.store = sched.store →
      (boardOf origin limit after later).rows (spotID spot) =
        (boardOf origin limit sched before).rows (spotID spot) := by
    intro same
    simp only [boardOf, store, same]
  cases move with
  | prepares _ atPC =>
    simp only [routineStand, atPC] at moves
    exact moves.rests (row rfl)
  | accepts _ atPC named free =>
    simp only [routineStand, atPC] at moves
    refine .claims spot moves ⟨id ▸ named, ?_⟩
    rw [id]
    simp only [atPC] at phase
    cases found : sched.store.tasks.lookup task.id with
    | none => simp [found]
    | some existing =>
      have accepted := claim_accepted_mono (phase ▸ most) (free existing found)
      simpa [found] using accepted
  | rejects write atPC blocked =>
    simp only [routineStand, atPC] at moves
    simp only [atPC] at phase
    split_ifs at moves with spent
    · refine .spends spot moves (row rfl) ?_
      rintro ⟨named, free⟩
      rw [id] at named free
      obtain ⟨_, found, refused⟩ := blocked.resolve_left named
      have last : write.record.attempt = attemptLimit limit := by
        simp only [attemptLimit] at most ⊢
        omega
      simp [found, ← last, refused] at free
    · exact moves.rests (row rfl)
  | retries _ _ atPC within =>
    rw [config] at within
    simp only [routineStand, atPC, not_le.mpr within, if_false] at moves
    exact moves.rests (row rfl)
  | givesUp _ atPC spent =>
    rw [config] at spent
    simp only [routineStand, atPC, spent, if_true] at moves
    exact moves.rests (row rfl)
  | advances _ isPast stays _ _ settles =>
    rw [past_stand isPast, past_stand stays, if_neg (unfinished none)] at moves
    split_ifs at moves with done
    · refine .settles spot moves ?_
      simpa [id, store, Closed] using settles done
    · exact .holds spot moves

omit [GoRuntime Input] in
theorem served_unclaimed (move : ServedMove sched routine task progress)
    (unclaimed : (routineStand limit progress.routine).claimed = false) :
    (routineStand limit routine).claimed = false ∧
      progress.task.lifecycleState = task.lifecycleState := by
  cases move with
  | accepts => simp at unclaimed
  | advances _ _ stays =>
    rw [past_stand stays] at unclaimed
    split_ifs at unclaimed <;> cases unclaimed
  | prepares _ atPC | rejects _ atPC =>
    exact ⟨by simp [atPC], rfl⟩
  | retries _ _ atPC | givesUp _ atPC =>
    refine ⟨?_, rfl⟩
    simp only [routineStand, atPC]
    split_ifs <;> rfl

section

variable {run : StageRun Goroutine} (kept : Kept origin counters limit call)
  (book : Book origin limit call.sched exec.ref (.inStage stage run))
  (served : serves (.work index answers) = true) (executing : call.exec = some exec)
  (atPC : exec.pc = .inStage stage run) (running : run.workers[index]? = some (.running routine))
  (found : objectTask call.sched exec.ref ⟨stage, index⟩ = some task)
  (stepped : goroutineStep call.sched routine task answers call.now = some progress)

include kept book served executing atPC running found stepped

theorem call_served_move : ServedMove call.sched routine task progress := by
  obtain ⟨accepted, node, succeeds, leads⟩ := serves_work served
  obtain ⟨_, job, standing, _, phase⟩ := kept.sound.executing exec executing
  rw [atPC] at phase
  obtain ⟨_, _, _, _, fits⟩ := phase
  have fit : RoutineFits exec.ref (job.lifecycleState ≠ some .running) routine.pc :=
    fits.workers _ (mem_of_getElem? running)
  have jobID := own_job_id standing.toOwn kept.sound.owned found
  have accounts := kept.balanced.executing kept.named exec executing
  rw [atPC] at accounts
  obtain ⟨same, atSame, stands⟩ := accounts.workers index (.running routine) running
  obtain rfl : task = same := Option.some.inj (found.symm.trans atSame)
  refine served_move accepted node succeeds leads (jobID ▸ kept.named) kept.sound.clock ?_
    (book.routines index routine running) stands ?_ stepped
  · intro claiming
    refine book.pending _ task found ?_
    rw [stand_in_stage, running]
    simp only [elim_some, workerStand, routineStand, claiming]
    rfl
  · intro write pc hasID
    rw [pc] at fit
    refine fit ?_
    have pending : routinePending exec.ref ⟨stage, index⟩ routine.pc =
        some ⟨exec.ref, ⟨stage, index⟩, true, write⟩ := by
      rw [pc]
      rfl
    obtain ⟨owner, atOwner, taskID, _⟩ :=
      (pending_sound kept.sound.grounded executing atPC running pending).owner
    obtain rfl : task = owner := Option.some.inj (found.symm.trans atOwner)
    exact taskID ▸ hasID

theorem work_outlook (serial : Prop) :
    let after := updateTask progress.sched exec.ref ⟨stage, index⟩ progress.task
    let worked := { run with workers := run.workers.set index (.running progress.routine) }
    Book origin limit after exec.ref (.inStage stage worked) ∧
      BoardStep spotID (Free limit) Closed serial
        (boardOf origin limit call.sched (.inStage stage run))
        (boardOf origin limit after (.inStage stage worked)) := by
  intro after worked
  have steps := goroutine_move stepped
  have move := call_served_move kept book served executing atPC running found stepped
  have inside := (List.getElem?_eq_some_iff.mp running).1
  obtain ⟨_, own⟩ := kept.placed.own exec executing
  obtain ⟨known, atKnown, sameID, _⟩ := shape_task own.shape (own_task own found)
  have store : after.store = progress.sched.store := update_task_store _ _ _ _
  have here := (goroutine_keeps_tasks steps exec.ref ⟨stage, index⟩).trans found
  have workers : ∀ number, number ≠ index →
      worked.workers[number]? = run.workers[number]? := fun number different =>
    List.getElem?_set_ne (Ne.symm different)
  have isWorker : worked.workers[index]? = some (.running progress.routine) := by
    simp [worked, inside]
  have bounds := book.routines index routine running
  refine ⟨?_, ?_⟩
  · refine book_worker book workers isWorker ?_ ?_ ?_ rfl ?_
    · rintro _ ⟨⟩
      refine routine_served_step ?_ bounds move
      rw [kept.config]
      exact le_max_right 1 limit
    · intro position different
      rw [object_task_other here progress.task different]
      exact goroutine_keeps_tasks steps exec.ref position
    · intro _ isLater unclaimed
      rw [object_task_updated here progress.task] at isLater
      cases isLater
      obtain ⟨was, same⟩ := served_unclaimed move unclaimed
      rw [same]
      refine book.pending ⟨stage, index⟩ task found ?_
      rw [stand_in_stage, running]
      exact was
    · intro errors
      obtain ⟨number, err, isReturned⟩ := book.heard stage run rfl errors
      refine ⟨number, err, (workers number ?_).trans isReturned⟩
      rintro rfl
      rw [running] at isReturned
      cases isReturned
  · have rows : ∀ taskID, taskID ≠ known.id →
        after.store.tasks.lookup taskID = call.sched.store.tasks.lookup taskID := by
      intro taskID different
      rw [store]
      exact advance_rows steps taskID (sameID ▸ different)
    have moves : Moves spotID (boardOf origin limit call.sched (.inStage stage run))
        (boardOf origin limit after (.inStage stage worked)) ⟨⟨stage, index⟩, by simp [atKnown]⟩
        (run.workers[index]?.elim .idle (workerStand limit))
        (workerStand limit (.running progress.routine)) :=
      worker_moves atKnown workers isWorker rows
    rw [running] at moves
    refine served_board bounds kept.config ?_ ?_ store moves move
    · intro err finished
      simp [goroutineStep, finished] at stepped
    · simpa [spotID, atKnown] using sameID

end

omit [GoRuntime Input] in
theorem stand_outside (outside : ∀ stage run, pc ≠ .inStage stage run) (position : Position) :
    standOf origin limit pc position =
      if position.stage < stagesDone origin pc then .settled else .idle := by
  cases pc with
  | inStage stage run => exact absurd rfl (outside stage run)
  | _ => simp [crew]

omit [GoRuntime Input] in
theorem spot_stage (known : (taskAt origin position).isSome) :
    position.stage < origin.stages.length := by
  obtain ⟨_, found⟩ := isSome_iff_exists.mp known
  obtain ⟨_, atStage, _⟩ := bind_eq_some_iff.mp found
  exact (List.getElem?_eq_some_iff.mp atStage).1

section

variable (own : Own origin exec.ref call.sched job)
  (book : Book origin limit call.sched exec.ref exec.pc)

include own book

theorem quiet_outlook
    (tasks : ∀ position, objectTask after.sched exec.ref position = objectTask call.sched exec.ref
      position) (rows : after.sched.store.tasks = call.sched.store.tasks)
    (empty : (crew next).2 = [])
    (fresh : ∀ stage run, next = .inStage stage run → run.selectionErr = none ∧ run.errChan = [])
    (going : isFailing next = false) (isNext : after.exec = some { exec with pc := next })
    (stands : ∀ position, (taskAt origin position).isSome → standOf origin limit next position =
      standOf origin limit exec.pc position) :
    Outlook origin limit call exec serial after :=
  have quiet := book_plain book own tasks rows empty fresh stands
  .goesOn next isNext going quiet.1 quiet.2

theorem plain_outlook (frame : Frame call.sched after.sched exec.ref)
    (rows : after.sched.store.tasks = call.sched.store.tasks)
    (before : ∀ stage run, exec.pc ≠ .inStage stage run)
    (later : ∀ stage run, next ≠ .inStage stage run) (going : isFailing next = false)
    (done : ∀ position, (taskAt origin position).isSome → (position.stage < stagesDone origin next ↔
      position.stage < stagesDone origin exec.pc))
    (isNext : after.exec = some { exec with pc := next }) :
    Outlook origin limit call exec serial after := by
  have empty : (crew next).2 = [] := by
    cases next with
    | inStage stage run => exact absurd rfl (later stage run)
    | _ => rfl
  refine quiet_outlook own book frame.tasks rows empty
    (fun stage run atPC => absurd atPC (later stage run)) going isNext fun position known => ?_
  rw [stand_outside before, stand_outside later]
  simp only [done position known]

end

theorem worker_outlook (book : Book origin limit call.sched exec.ref (.inStage stage run))
    (atKnown : taskAt origin ⟨stage, index⟩ = some known)
    (workers : ∀ number, number ≠ index → other.workers[number]? = run.workers[number]?)
    (isWorker : other.workers[index]? = some worker)
    (served : ∀ routine, worker = .running routine → RoutineServed (attemptLimit limit) routine)
    (unclaimed : (workerStand limit worker).claimed = false → (run.workers[index]?.elim .idle
    (workerStand limit)).claimed = false) (selection : other.selectionErr = run.selectionErr)
    (heard : other.errChan ≠ [] → ∃ (index : Nat) (err : GoError), other.workers[index]? = some
    (.returned (some err))) :
    Book origin limit call.sched exec.ref (.inStage stage other) ∧
      Moves spotID (boardOf origin limit call.sched (.inStage stage run))
    (boardOf origin limit call.sched (.inStage stage other))
        ⟨⟨stage, index⟩, by simp [atKnown]⟩
    (run.workers[index]?.elim .idle (workerStand limit)) (workerStand limit worker) := by
  refine ⟨?_, worker_moves atKnown workers isWorker fun _ _ => rfl⟩
  refine book_worker book workers isWorker served (fun _ _ => rfl) ?_ selection heard
  intro task found isUnclaimed
  refine book.pending ⟨stage, index⟩ task found ?_
  rw [stand_in_stage]
  exact unclaimed isUnclaimed

theorem passed_stands (own : Own origin exec.ref call.sched job)
    (accounts : Accounts origin counters call.sched call.refused exec.ref (.inStage stage run))
    (here : stageOf call.sched exec.ref stage = some object)
    (isJoined : joined object.tasks.length run = true) (clean : stageResult object.id run = none)
    (known : (taskAt origin position).isSome) :
    standOf origin limit (.openStage (stage + 1)) position =
      standOf origin limit (.inStage stage run) position := by
  obtain ⟨number, index⟩ := position
  by_cases same : number = stage
  · subst same
    obtain ⟨silent, all⟩ := stage_clean isJoined clean
    obtain ⟨_, found⟩ := isSome_iff_exists.mp known
    obtain ⟨_, atMine, _⟩ := shape_task own.shape.symm found
    obtain ⟨stage, atStage, atTask⟩ := bind_eq_some_iff.mp atMine
    rw [own_stage own] at here
    obtain rfl : object = stage := Option.some.inj (here.symm.trans atStage)
    have inside : index < run.workers.length := by
      rw [all]
      exact (List.getElem?_eq_some_iff.mp atTask).1
    have isWorker := List.getElem?_eq_getElem inside
    have returned := joined_returned isJoined isWorker
    rw [stand_in_stage, isWorker]
    cases worker : run.workers[index] with
    | running | reporting =>
      rw [worker] at returned
      cases returned
    | returned result =>
      cases result with
      | none => simp [stagesDone]
      | some err =>
        rw [worker] at isWorker
        exact absurd silent (accounts.heard _ run err rfl (mem_of_getElem? isWorker))
  · have earlier : number < stage + 1 ↔ number < stage := by omega
    simp [stagesDone, crew, earlier, same]

theorem failed_spot {stageID : String}
    (kept : Kept origin counters limit call) (executing : call.exec = some exec)
    (book : Book origin limit call.sched exec.ref (.inStage stage run))
    (atPC : exec.pc = .inStage stage run) (result : stageResult stageID run = some err) :
    ∃ spot : Spot origin,
    (boardOf origin limit call.sched (.inStage stage run)).stand spot = .failed := by
  have errors : run.errChan ≠ [] := by
    rintro silent
    simp [stageResult, book.selection stage run rfl, silent] at result
  obtain ⟨index, _, isReturned⟩ := book.heard stage run rfl errors
  obtain ⟨object, atObject, room⟩ := kept.placed.staffed exec stage run executing atPC
  have inside : index < object.tasks.length :=
    (List.getElem?_eq_some_iff.mp isReturned).1.trans_le room
  have known : (taskAt origin ⟨stage, index⟩).isSome := by
    simp [taskAt, atObject, inside]
  refine ⟨⟨⟨stage, index⟩, known⟩, ?_⟩
  exact (stand_in_stage origin limit stage index run).trans (by rw [isReturned]; rfl)

theorem launch_outlook (own : Own origin exec.ref call.sched job)
    (executing : call.exec = some exec) (atPC : exec.pc = .inStage stage run)
    (book : Book origin limit call.sched exec.ref (.inStage stage run))
    (here : stageOf call.sched exec.ref stage = some object)
    (room : run.workers.length < object.tasks.length) (nodeID : String) :
    let started := { run with workers := run.workers ++ [.running (startGoroutine nodeID)] }
    Book origin limit call.sched exec.ref (.inStage stage started) ∧
      BoardStep spotID (Free limit) Closed (inTurn call (.launch (.ok nodeID)) = true)
        (boardOf origin limit call.sched (.inStage stage run))
        (boardOf origin limit call.sched (.inStage stage started)) := by
  intro started
  obtain ⟨known, atKnown, _, total⟩ := own_stage_known own here
  have atTask : taskAt origin ⟨stage, run.workers.length⟩ =
      some (known.tasks.get ⟨run.workers.length, by omega⟩) := by
    simp [taskAt, atKnown, total, room]
  have workers : ∀ number, number ≠ run.workers.length →
      started.workers[number]? = run.workers[number]? := by
    intro number different
    rcases Nat.lt_or_gt_of_ne different with less | _
    · exact List.getElem?_append_left less
    · rw [List.getElem?_eq_none (by simp [started]; omega), List.getElem?_eq_none (by omega)]
  have isWorker : started.workers[run.workers.length]? =
      some (.running (startGoroutine nodeID)) := by simp [started]
  have none : run.workers[run.workers.length]? = none := List.getElem?_eq_none le_rfl
  have served : ∀ routine, (.running (startGoroutine nodeID) : Worker Goroutine) =
      .running routine → RoutineServed (attemptLimit limit) routine := by
    rintro _ ⟨⟩
    exact ⟨le_rfl, Int.ofNat_le.mpr (le_max_left 1 limit), trivial⟩
  obtain ⟨later, moves⟩ := worker_outlook book atTask workers isWorker served
    (fun _ => by rw [none]; rfl) rfl (by
      intro errors
      obtain ⟨index, err, isReturned⟩ := book.heard stage run rfl errors
      refine ⟨index, err, (workers index ?_).trans isReturned⟩
      rintro rfl
      simp at isReturned)
  rw [none] at moves
  refine ⟨later, .begins _ moves rfl fun turn spot => ?_⟩
  obtain ⟨_⟩ := exec
  cases atPC
  simp only [inTurn, executing] at turn
  show (standOf origin limit (.inStage _ _) spot.1).active = false
  simp only [standOf]
  split_ifs with earlier here
  · rfl
  · cases found : (crew (.inStage stage run)).2[spot.1.index]? with
    | none => rfl
    | some worker =>
      have back := List.all_eq_true.mp turn worker (mem_of_getElem? found)
      cases worker with
      | running => cases back
      | reporting => cases back
      | returned result => cases result <;> rfl
  · rfl

theorem changed_outlook {old : Worker Goroutine}
    (kept : Kept origin counters limit call) (executing : call.exec = some exec)
    (book : Book origin limit call.sched exec.ref exec.pc) (atPC : exec.pc = .inStage stage run)
    (isNext : after.exec = some { exec with pc := .inStage stage other })
    (sched : after.sched = call.sched) (found : run.workers[index]? = some old)
    (workers : other.workers = run.workers.set index worker)
    (same : workerStand limit worker = workerStand limit old)
    (stopped : ∀ routine, worker ≠ .running routine) (silent : ∀ err, old ≠ .returned (some err))
    (selection : other.selectionErr = run.selectionErr)
    (heard : other.errChan = run.errChan ∨ ∃ err, worker = .returned (some err)) :
    Outlook origin limit call exec serial after := by
  rw [atPC] at book
  have inside := (List.getElem?_eq_some_iff.mp found).1
  obtain ⟨object, atObject, room⟩ := kept.placed.staffed exec stage run executing atPC
  have atKnown : taskAt origin ⟨stage, index⟩ =
      some (object.tasks.get ⟨index, inside.trans_le room⟩) := by
    simp [taskAt, atObject, inside.trans_le room]
  have others : ∀ number, number ≠ index → other.workers[number]? = run.workers[number]? := by
    intro number different
    rw [workers, List.getElem?_set_ne (Ne.symm different)]
  have isWorker : other.workers[index]? = some worker := by simp [workers, inside]
  have reported : other.errChan ≠ [] →
      ∃ (index : Nat) (err : GoError), other.workers[index]? = some (.returned (some err)) := by
    intro errors
    rcases heard with unchanged | ⟨err, rfl⟩
    · rw [unchanged] at errors
      obtain ⟨number, err, isReturned⟩ := book.heard stage run rfl errors
      refine ⟨number, err, (others number ?_).trans isReturned⟩
      rintro rfl
      exact silent err (Option.some.inj (found.symm.trans isReturned))
    · exact ⟨index, err, isWorker⟩
  obtain ⟨later, moves⟩ := worker_outlook book atKnown others isWorker
    (fun routine isRunning => absurd isRunning (stopped routine))
    (by rw [found, same]; exact id) selection reported
  rw [found, same] at moves
  refine .goesOn _ isNext rfl (sched ▸ later) ?_
  rw [sched, atPC]
  exact moves.rests rfl

theorem call_outlook (kept : Kept origin counters limit call)
    (executing : call.exec = some exec) (going : isFailing exec.pc = false)
    (book : Book origin limit call.sched exec.ref exec.pc) (served : serves event = true)
    (move : CallMove call exec (.event event) after) :
    Outlook origin limit call exec (inTurn call event = true) after := by
  obtain ⟨_, own⟩ := kept.placed.own exec executing
  have accounts := kept.balanced.executing kept.named exec executing
  have status := fun status => frame_status call.sched exec.ref status call.now
  have statusRows : ∀ status, (updateJobStatus call.sched exec.ref status call.now).store.tasks =
      call.sched.store.tasks := fun status => by
    rw [(steady_update_status ..).store]
  cases move with
  | begins atPC | marksCompleted atPC =>
    exact plain_outlook own book (status _) (statusRows _) (by simp [atPC]) (by simp) rfl
      (by simp [atPC, stagesDone]) rfl
  | unqueued atPC | queued atPC | starts atPC =>
    exact plain_outlook own book (frame_refl _ _) rfl (by simp [atPC]) (by simp) rfl
      (by simp [atPC, stagesDone]) rfl
  | recordsQueued atPC | startsEmpty atPC =>
    exact plain_outlook own book (frame_recorded ..) (record_job_tasks ..)
      (by simp [atPC]) (by simp) rfl (by simp [atPC, stagesDone]) rfl
  | exhausts _ atPC last =>
    refine plain_outlook own book (frame_refl _ _) rfl (by simp [atPC]) (by simp) rfl ?_ rfl
    intro position known
    have beyond := own_exhausted own last
    have inside := spot_stage known
    simp only [atPC, stagesDone]
    omega
  | opens _ _ atPC =>
    refine quiet_outlook own book (fun _ => rfl) rfl rfl ?_ rfl rfl fun position _ => ?_
    · rintro _ _ ⟨⟩
      exact ⟨rfl, rfl⟩
    · simp [atPC, stagesDone, crew, newStageRun]
  | unserved _ _ _ asked unavailable =>
    cases asked
    simp [serves, unavailable] at served
  | passes _ _ _ atPC here isJoined clean =>
    rw [atPC] at accounts
    refine quiet_outlook own book (fun _ => rfl) rfl rfl (by rintro _ _ ⟨⟩) rfl rfl
      fun position known => ?_
    rw [atPC]
    exact passed_stands own accounts here isJoined clean known
  | fails _ _ _ err atPC _ _ result =>
    obtain ⟨spot, failed⟩ := failed_spot kept executing (atPC ▸ book) atPC result
    exact .fails err rfl spot (by rw [atPC]; exact failed)
  | marksFailed _ atPC | recordsFailure _ atPC => simp [isFailing, atPC] at going
  | recordsSuccess atPC => exact .ends atPC rfl
  | refuses _ _ _ asked =>
    cases asked
    cases served
  | launches _ _ _ nodeID asked atPC here room =>
    cases asked
    rw [atPC] at book
    obtain ⟨kept, step⟩ := launch_outlook own executing atPC book here room nodeID
    exact .goesOn _ rfl rfl kept (by rw [atPC]; exact step)
  | finishes _ _ _ _ err atPC running finished =>
    refine changed_outlook kept executing book atPC rfl rfl running rfl ?_ ?_ (by rintro _ ⟨⟩)
      rfl (.inl rfl)
    · cases err <;> simp [finishedWorker, finished]
    · cases err <;> rintro _ ⟨⟩
  | works _ _ index _ _ answers _ asked atPC running found _ stepped =>
    cases asked
    obtain ⟨later, step⟩ := work_outlook kept (atPC ▸ book) served executing atPC running
      found stepped (inTurn call (.work index answers) = true)
    exact .goesOn _ rfl rfl later (by rw [atPC]; exact step)
  | reports _ _ _ err atPC reporting =>
    exact changed_outlook kept executing book atPC rfl rfl reporting rfl rfl (by rintro _ ⟨⟩)
      (by rintro _ ⟨⟩) rfl (.inr ⟨err, rfl⟩)

end Steps

end Dagens.Scheduler.ServedCall
