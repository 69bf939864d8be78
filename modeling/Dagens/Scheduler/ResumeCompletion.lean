import Dagens.Scheduler.ServedCall

/-!
# Resuming a paused job

A resume sets the tasks of the job back to PENDING in memory and executes it
from its first stage. The durable rows keep the states and attempts of the first
execution, and the dispatch claims are decided on the rows: a row that is RUNNING
or SUCCEEDED refuses every claim, any other one refuses the attempts it has seen.
So a resumed job ends well exactly when no row stands in the way.
-/

namespace Dagens.Scheduler.ResumeCompletion

open Lib GuardedRun BoundedRun ClaimBoard Lifecycle GoSupport Replay Transitions Goroutine Reconcile
  Operations Machine Wiring Ledger ExecutionCall CallProgress ExecutionViews TerminalRecords
  ServedCall List Option

variable {Input : Type} [GoRuntime Input]

/-- `ResumeAwaitingHumanJob` up to the start of `executeJob`. -/
def resumeCall (sched : Scheduler Input) (now : Time) (jobID : String)
    (context : List (String × GoRuntime.Value Input)) (oracle : Oracle) : Option (Call Input) :=
  let resuming : Machine Input :=
    { sched := sched
      threads := [some (.resume jobID context .lookup)]
      now := now
      submitted := []
      executed := []
      succeeded := [] }
  (run machineStep resuming (List.replicate 5 (.thread 0 (.step oracle)))).bind fun machine =>
    match threadOf machine 0 with
    | some (.exec exec) => some ⟨machine.sched, machine.now, some exec, []⟩
    | _ => none

/-- The job waits for a human in a scheduler and a store as runs leave them. -/
structure Paused (origin : Job Input) (ref : Nat) (sched : Scheduler Input) : Prop where
  standing : Standing origin ref sched origin
  awaiting : origin.lifecycleState = some .awaitingHuman
  named : origin.id ≠ ""
  owned : ∀ task ∈ jobTasks origin, task.jobID = origin.id
  wired : Wired sched
  store : StoreSound sched

/-- Task ids name one task each, and no row stands in the way. -/
def resumable (sched : Scheduler Input) (job : Job Input) : Bool :=
  let taskIDs := (jobTasks job).map (·.id)
  decide taskIDs.Nodup && taskIDs.all fun taskID =>
    decide (taskID ≠ "") &&
      acceptable sched.config.maxDispatchAttempts (sched.store.tasks.lookup taskID)

/-- The call has returned and left the job SUCCEEDED. -/
def Succeeded (jobID : String) (call : Call Input) : Prop :=
  call.exec = none ∧ (registeredJob call.sched jobID).bind (·.lifecycleState) = some .succeeded

/-- The environment serves the call, in any interleaving of its goroutines. -/
def Served (_ : Call Input) (moment : Time × Event) : Prop := serves moment.2 = true

variable {task : Task Input} {context : List (String × GoRuntime.Value Input)} {job : Job Input}

theorem resumed_task_mem (member : task ∈ jobTasks (resumedJob context job)) :
    ∃ old ∈ jobTasks job, task = resumedTask context old := by
  simp only [jobTasks, resumedJob, flatMap_map, mem_flatMap, List.mem_map] at member
  obtain ⟨stage, inJob, old, inStage, rfl⟩ := member
  exact ⟨old, mem_flatMap.mpr ⟨stage, inJob, inStage⟩, rfl⟩

variable {origin : Job Input}

attribute [local simp] threadOf spotID resetTasks setObject resumed standOf boardOf

section Resume

variable {ref : Nat} {sched : Scheduler Input} {now : Time} {oracle : Oracle}

def resumedCall (sched : Scheduler Input) (ref : Nat) (job : Job Input) (now : Time) :
    Call Input where
  sched := setObject sched ref job
  now := now
  exec := some ⟨ref, false, .begin⟩
  refused := []

section

variable (paused : Paused origin ref sched)

include paused

theorem resume_calls (nonempty : context ≠ []) (leads : oracle.isLeader = true) :
    resumeCall sched now origin.id context oracle =
      some (resumedCall sched ref (resumedJob context origin) now) := by
  have own := paused.standing.toOwn
  have lifecycle : lifecycleOf sched ref = some .awaitingHuman :=
    (own_lifecycle own).trans paused.awaiting
  have entry : sched.jobs (resumedJob context origin).id = some ref := own.entry
  simp [resumeCall, run, machineStep, threadStep, resumeStep, own.entry, lifecycle, leads, nonempty,
    own.found, enterJob, entry, outcome, resumedCall]

section

variable (context)

theorem resumed_grounded (now : Time) :
    Grounded (machineOf (resumedCall sched ref (resumedJob context origin) now)) := by
  have grounded : Grounded ⟨sched, [some (.resume origin.id context (.resetting ref))], now, [],
      [], []⟩ := by
    refine ⟨paused.wired, paused.store, ?_⟩
    rintro _ ⟨pid, thread, lives, holds⟩
    cases pid with
    | zero =>
      obtain rfl : .resume origin.id context (.resetting ref) = thread := by
        simpa using lives
      cases holds
    | succ => simp at lives
  obtain ⟨machine, taken, same⟩ : ∃ machine,
      machineStep ⟨sched, [some (.resume origin.id context (.resetting ref))], now, [], [], []⟩
        (.thread 0 (.step calm)) = some machine ∧
        machine.sched = setObject sched ref (resumedJob context origin) := by
    refine ⟨_, rfl, ?_⟩
    simp [outcome, resumeStep, paused.standing.found]
  exact grounded_entered (grounded_step _ _ _ grounded taken) same.symm rfl rfl

theorem resumed_own :
    Own (resumedJob context origin) ref (setObject sched ref (resumedJob context origin))
      (resumedJob context origin) :=
  ⟨paused.standing.entry, by simp, rfl, rfl⟩

theorem resumed_started (clock : now ≠ 0) :
    Started (resumedJob context origin)
      (resumedCall sched ref (resumedJob context origin) now) := by
  refine ⟨⟨ref, rfl, resumed_own context paused, paused.standing.history⟩, ?_, ?_, clock, rfl,
    resumed_grounded context paused now⟩
  · have awaiting : (resumedJob context origin).lifecycleState = some .awaitingHuman :=
      paused.awaiting
    simp [awaiting]
  · intro _ member
    obtain ⟨old, inJob, rfl⟩ := resumed_task_mem member
    exact paused.owned old inJob

theorem resumed_kept (clock : now ≠ 0) :
    Kept (resumedJob context origin) sched.jobSequences sched.config.maxDispatchAttempts
      (resumedCall sched ref (resumedJob context origin) now) := by
  have started : Started (resumedJob context origin)
      (resumedCall sched ref (resumedJob context origin) now) :=
    resumed_started context paused clock
  have own := resumed_own context paused
  have named : (resumedJob context origin).id ≠ "" := paused.named
  have plain : plainlyNamed (resumedJob context origin) = true := by
    have awaiting : (resumedJob context origin).lifecycleState = some .awaitingHuman :=
      paused.awaiting
    simp [plainlyNamed, named, awaiting]
  have entered : ∀ exec, (resumedCall sched ref (resumedJob context origin) now).exec = some exec →
      exec = ⟨ref, false, .begin⟩ := by
    rintro _ ⟨⟩
    rfl
  refine ⟨named, sound_start plain started, balanced_start ⟨⟨ref, rfl, own⟩, ?_, clock, rfl, rfl,
    resumed_grounded context paused now⟩, ⟨?_, ?_, ?_⟩, rfl⟩
  · intro _ task member
    rw [started.owned task member]
    exact named
  · intro exec executing
    rw [entered exec executing]
  · intro exec executing
    rw [entered exec executing]
    exact ⟨_, own⟩
  · intro exec _ _ executing atPC
    rw [entered exec executing] at atPC
    cases atPC

theorem resumed_book (limit : Nat) :
    Book (resumedJob context origin) limit (setObject sched ref (resumedJob context origin)) ref
      .begin := by
  refine ⟨by simp [crew], ?_, by rintro _ _ ⟨⟩, by rintro _ _ ⟨⟩⟩
  intro _ _ found _
  have atTask := own_task (resumed_own context paused) found
  obtain ⟨_, _, rfl⟩ := resumed_task_mem (task_at_mem atTask)
  rfl

end

end

end Resume

section

omit [GoRuntime Input]

theorem spot_id {position : Position} (found : taskAt job position = some task) :
    ∃ spot : Spot job, spot.1 = position ∧ spotID spot = task.id :=
  ⟨⟨position, by simp [found]⟩, rfl, by simp [found]⟩

theorem injective_iff_positions (job : Job Input) :
    Function.Injective (spotID : Spot job → String) ↔
      ∀ first second one other, taskAt job first = some one → taskAt job second = some other →
        one.id = other.id → first = second := by
  constructor
  · intro injective first second one other found found' same
    obtain ⟨spot, rfl, id⟩ := spot_id found
    obtain ⟨spot', rfl, id'⟩ := spot_id found'
    exact congrArg Subtype.val (injective (id.trans (same.trans id'.symm)))
  · intro positions spot spot' same
    obtain ⟨one, found⟩ := isSome_iff_exists.mp spot.2
    obtain ⟨other, found'⟩ := isSome_iff_exists.mp spot'.2
    refine Subtype.ext (positions spot.1 spot'.1 one other found found' ?_)
    simpa [found, found'] using same

theorem nodup_iff_injective (job : Job Input) :
    ((jobTasks job).map (·.id)).Nodup ↔ Function.Injective (spotID : Spot job → String) := by
  rw [injective_iff_positions, jobTasks, map_flatMap, nodup_flatMap, pairwise_iff_getElem]
  constructor
  · rintro ⟨within, across⟩ ⟨number, index⟩ ⟨number', index'⟩ one other found found' same
    obtain ⟨stage, atStage, atTask⟩ := bind_eq_some_iff.mp found
    obtain ⟨stage', atStage', atTask'⟩ := bind_eq_some_iff.mp found'
    have apart : ∀ (first second : Nat) (s s' : Stage Input) (t t' : Task Input),
        job.stages[first]? = some s → job.stages[second]? = some s' → t ∈ s.tasks →
        t' ∈ s'.tasks → t.id = t'.id → ¬ first < second := by
      intro first second s s' t t' atFirst atSecond inFirst inSecond sameID less
      obtain ⟨inside, rfl⟩ := List.getElem?_eq_some_iff.mp atFirst
      obtain ⟨inside', rfl⟩ := List.getElem?_eq_some_iff.mp atSecond
      exact across first second inside inside' less (List.mem_map_of_mem inFirst)
        (sameID ▸ List.mem_map_of_mem inSecond)
    have inStage := mem_of_getElem? atTask
    have inStage' := mem_of_getElem? atTask'
    obtain rfl : number = number' := by
      have notLess := apart number number' _ _ _ _ atStage atStage' inStage inStage' same
      have notMore := apart number' number _ _ _ _ atStage' atStage inStage' inStage same.symm
      omega
    obtain rfl : stage = stage' := Option.some.inj (atStage.symm.trans atStage')
    have distinct := within stage (mem_of_getElem? atStage)
    have atID : (stage.tasks.map (·.id))[index]? = some one.id := by simp [atTask]
    have atID' : (stage.tasks.map (·.id))[index']? = some one.id := by simp [atTask', same]
    rw [(getElem?_inj (by
      simpa using (List.getElem?_eq_some_iff.mp atTask).1) distinct).mp (atID.trans atID'.symm)]
  · intro positions
    refine ⟨?_, ?_⟩
    · intro stage member
      obtain ⟨number, atStage⟩ := mem_iff_getElem?.mp member
      refine List.nodup_iff_getElem?_ne_getElem?.mpr fun index index' less inside same => ?_
      have bound : index' < stage.tasks.length := by simpa using inside
      have found : ∀ (place : Nat) (bound : place < stage.tasks.length),
          taskAt job ⟨number, place⟩ = some (stage.tasks.get ⟨place, bound⟩) := by
        intro place bound
        simp [taskAt, atStage, bound]
      have equal := positions _ _ _ _ (found index (by omega)) (found index' bound)
        (by simpa [bound, less.trans bound] using same)
      rw [Position.mk.injEq] at equal
      omega
    · intro number number' inside inside' less id one other
      obtain ⟨task, inStage, rfl⟩ := List.mem_map.mp one
      obtain ⟨task', inStage', same⟩ := List.mem_map.mp other
      obtain ⟨index, atTask⟩ := mem_iff_getElem?.mp inStage
      obtain ⟨index', atTask'⟩ := mem_iff_getElem?.mp inStage'
      have equal := positions ⟨number, index⟩ ⟨number', index'⟩ task task'
        (by simp [taskAt, inside, atTask]) (by simp [taskAt, inside', atTask']) same.symm
      rw [Position.mk.injEq] at equal
      omega

theorem resumable_iff (sched : Scheduler Input) (job : Job Input) :
    resumable sched job = true ↔
      Function.Injective (spotID : Spot job → String) ∧
        ∀ spot : Spot job, Free sched.config.maxDispatchAttempts (spotID spot)
          (sched.store.tasks.lookup (spotID spot)) := by
  rw [← nodup_iff_injective]
  simp only [resumable, Bool.and_eq_true, decide_eq_true_eq, List.all_eq_true, List.forall_mem_map]
  refine and_congr_right fun _ => ⟨?_, ?_⟩
  · intro all spot
    obtain ⟨task, found⟩ := isSome_iff_exists.mp spot.2
    have id : spotID spot = task.id := by simp [found]
    rw [id]
    exact all task (task_at_mem found)
  · intro all task member
    obtain ⟨_, inJob, inStage⟩ := mem_flatMap.mp member
    obtain ⟨number, atNumber⟩ := mem_iff_getElem?.mp inJob
    obtain ⟨index, atIndex⟩ := mem_iff_getElem?.mp inStage
    have found : taskAt job ⟨number, index⟩ = some task := by simp [taskAt, atNumber, atIndex]
    let spot : Spot job := ⟨⟨number, index⟩, by simp [found]⟩
    have id : spotID spot = task.id := by simp [spot, found]
    have free := all spot
    rw [id] at free
    exact free

end

theorem resumable_resumed (sched : Scheduler Input) (job : Job Input)
    (context : List (String × GoRuntime.Value Input)) :
    resumable sched (resumedJob context job) = resumable sched job := by
  have same : (jobTasks (resumedJob context job)).map (·.id) = (jobTasks job).map (·.id) := by
    simp [jobTasks, resumedJob, resumedTask, flatMap_map, map_flatMap, Function.comp_def]
  simp only [resumable, same]

variable {call after : Call Input}

section Ends

variable {counters : String → Nat} {limit : Nat} {exec : Exec} {action : CallAction}

section

variable (kept : Kept origin counters limit call) (executing : call.exec = some exec)

include kept executing

theorem ended_succeeded (atPC : exec.pc = .recordSuccess) (move : CallMove call exec action after) :
    Succeeded origin.id after := by
  have sound : StoreSound call.sched := kept.sound.grounded.store
  obtain ⟨_, job, standing, _, phase⟩ := kept.sound.executing exec executing
  rw [atPC] at phase
  have running := phase.1
  cases move with
  | recordsSuccess =>
    have allowed : jobTransitionAllowed job.lifecycleState .succeeded = true := by
      rw [running]
      decide
    have later := standing_recorded kept.named kept.sound.clock
      (by decide : TransitionType.jobSucceeded.text ≠ "") allowed "" sound standing
    exact ⟨rfl, by rw [own_registered later.toOwn]; rfl⟩
  | _ => simp_all

theorem ended_unsuccessful (failing : isFailing exec.pc = true)
    (move : CallMove call exec action after) :
    (∃ next, after.exec = some next ∧ isFailing next.pc = true) ∨
      after.exec = none ∧ ¬ Succeeded origin.id after := by
  have sound : StoreSound call.sched := kept.sound.grounded.store
  obtain ⟨_, _, standing, _, phase⟩ := kept.sound.executing exec executing
  cases move with
  | marksFailed => exact .inl ⟨_, rfl, rfl⟩
  | recordsFailure err atPC =>
    rw [atPC] at phase
    obtain ⟨active, undisguised, _⟩ := phase
    refine .inr ⟨rfl, ?_⟩
    rintro ⟨_, succeeded⟩
    have later := standing_recorded kept.named kept.sound.clock (failure_named err)
      (failure_allowed active undisguised) err.message sound standing
    rw [own_registered later.toOwn] at succeeded
    revert succeeded
    simp only [bind_some, failureTransition]
    split_ifs <;> decide
  | _ => simp_all [isFailing]

end

end Ends

section Runs

variable {start : Scheduler Input} {moment : Time × Event}

/-- No claim of the call is refused for good. -/
structure Smoothly (origin : Job Input) (start : Scheduler Input) (call : Call Input) :
    Prop where
  kept : Kept origin start.jobSequences start.config.maxDispatchAttempts call
  executing : ∀ exec, call.exec = some exec → isFailing exec.pc = false ∧
    Book origin start.config.maxDispatchAttempts call.sched exec.ref exec.pc ∧
    Smooth spotID (fun taskID => start.store.tasks.lookup taskID)
      (boardOf origin start.config.maxDispatchAttempts call.sched exec.pc)
  returned : call.exec = none → Succeeded origin.id call

theorem smoothly_step (free : resumable start origin = true) (smoothly : Smoothly origin start call)
    (served : serves moment.2 = true) (taken : momentStep call moment = some after) :
    Smoothly origin start after := by
  have kept := kept_step smoothly.kept served taken
  have waiting := kept_waited smoothly.kept moment.1
  obtain ⟨exec, executing, move⟩ := moment_move smoothly.kept.placed served taken
  obtain ⟨going, book, smooth⟩ := smoothly.executing exec executing
  obtain ⟨distinct, opened⟩ := (resumable_iff start origin).mp free
  cases call_outlook waiting executing going book served move with
  | ends atPC returned =>
    exact ⟨kept, by simp [returned], fun _ => ended_succeeded waiting executing atPC move⟩
  | fails _ _ spot failed => exact absurd failed (smooth.unfailed spot)
  | goesOn pc next going book step =>
    refine ⟨kept, ?_, by simp [next]⟩
    intro later isLater
    obtain rfl : { exec with pc := pc } = later := Option.some.inj (next.symm.trans isLater)
    exact ⟨going, book, smooth_step distinct opened smooth step⟩

structure InTurns (origin : Job Input) (start : Scheduler Input) (call : Call Input) : Prop where
  kept : Kept origin start.jobSequences start.config.maxDispatchAttempts call
  executing : ∀ exec, call.exec = some exec → isFailing exec.pc = false →
    Book origin start.config.maxDispatchAttempts call.sched exec.ref exec.pc ∧
    Serial spotID (Free start.config.maxDispatchAttempts) Closed
      (fun taskID => start.store.tasks.lookup taskID)
      (boardOf origin start.config.maxDispatchAttempts call.sched exec.pc)
  returned : call.exec = none → Succeeded origin.id call → resumable start origin = true

theorem in_turns_step (turns : InTurns origin start call)
    (served : (serves moment.2 && inTurn call moment.2) = true)
    (taken : momentStep call moment = some after) : InTurns origin start after := by
  rw [Bool.and_eq_true] at served
  obtain ⟨served, turn⟩ := served
  have kept := kept_step turns.kept served taken
  have waiting := kept_waited turns.kept moment.1
  obtain ⟨exec, executing, move⟩ := moment_move turns.kept.placed served taken
  by_cases failing : isFailing exec.pc = true
  · rcases ended_unsuccessful waiting executing failing move with
      ⟨next, isNext, still⟩ | ⟨returned, unsuccessful⟩
    · refine ⟨kept, ?_, by simp [isNext]⟩
      intro later isLater going
      obtain rfl : next = later := Option.some.inj (isNext.symm.trans isLater)
      simp [still] at going
    · exact ⟨kept, by simp [returned], fun _ succeeded => absurd succeeded unsuccessful⟩
  · have going := Bool.eq_false_iff.mpr failing
    obtain ⟨book, serial⟩ := turns.executing exec executing going
    cases call_outlook waiting executing going book served move with
    | ends atPC returned =>
      refine ⟨kept, by simp [returned], fun _ _ => ?_⟩
      refine (resumable_iff start origin).mpr (serial_settled serial fun spot => ?_)
      have inside := spot_stage spot.2
      simp [atPC, stagesDone, inside]
    | fails _ next =>
      refine ⟨kept, ?_, by simp [next]⟩
      intro later isLater going
      obtain rfl := Option.some.inj (next.symm.trans isLater)
      cases going
    | goesOn pc next _ book step =>
      refine ⟨kept, ?_, by simp [next]⟩
      intro later isLater _
      obtain rfl : { exec with pc := pc } = later := Option.some.inj (next.symm.trans isLater)
      exact ⟨book, serial_step (closed_not_free _) turn serial step⟩

end Runs

/-- A resume with a non-empty context, under a store that accepts every write and
an executor that succeeds on every call, ends with a job that has SUCCEEDED, in
any interleaving of its goroutines, if and only if the job is resumable. -/
theorem resume_completes_iff (origin : Job Input) (ref : Nat) (sched : Scheduler Input)
    (now : Time) (context : List (String × GoRuntime.Value Input)) (oracle : Oracle)
    (paused : Paused origin ref sched) (nonempty : context ≠ [])
    (leads : oracle.isLeader = true) (clock : now ≠ 0) :
    ∃ call, resumeCall sched now origin.id context oracle = some call ∧
      (EndsIn momentStep Served call (Succeeded origin.id) ↔ resumable sched origin = true) := by
  refine ⟨_, resume_calls paused nonempty leads, ?_⟩
  have kept := resumed_kept context paused clock
  have book := resumed_book context paused sched.config.maxDispatchAttempts
  have idle : ∀ spot : Spot (resumedJob context origin),
      (boardOf (resumedJob context origin) sched.config.maxDispatchAttempts
        (setObject sched ref (resumedJob context origin)) .begin).stand spot = .idle := by
    intro spot
    simp [stagesDone, crew]
  rw [← resumable_resumed sched origin context]
  constructor
  · intro ends
    -- one goroutine at a time, as long as it goes
    have initial : InTurns (resumedJob context origin) sched
        (resumedCall sched ref (resumedJob context origin) now) := by
      refine ⟨kept, ?_, by rintro ⟨⟩⟩
      rintro _ ⟨⟩ _
      exact ⟨book, serial_idle idle fun _ => rfl⟩
    have lowers : ∀ call moment after, InTurns (resumedJob context origin) sched call →
        (serves moment.2 && inTurn call moment.2) = true → momentStep call moment = some after →
        InTurns (resumedJob context origin) sched after ∧
          callWeight (resumedJob context origin) after <
            callWeight (resumedJob context origin) call := by
      intro call moment after turns served taken
      rw [Bool.and_eq_true] at served
      exact ⟨in_turns_step turns (by simp [served]) taken,
        (placed_step turns.kept.placed served.1 taken).2⟩
    obtain ⟨actions, final, allowed, ran, stuck⟩ := stuck_run_exists lowers initial
    obtain ⟨turns, _⟩ := run_bounded lowers actions initial allowed ran
    have returned := stuck_returned turns.kept.placed stuck
    refine turns.returned returned (ends.complete actions final ?_ ran ?_)
    · refine allowed_mono (fun call moment served => ?_) actions allowed
      rw [Bool.and_eq_true] at served
      exact served.1
    · intro moment _
      simp [momentStep, callStep, waited, returned]
  · intro free
    have initial : Smoothly (resumedJob context origin) sched
        (resumedCall sched ref (resumedJob context origin) now) := by
      refine ⟨kept, ?_, by rintro ⟨⟩⟩
      rintro _ ⟨⟩
      exact ⟨rfl, book, smooth_idle idle fun _ => rfl⟩
    have lowers : ∀ call moment after, Smoothly (resumedJob context origin) sched call →
        Served call moment → momentStep call moment = some after →
        Smoothly (resumedJob context origin) sched after ∧
          callWeight (resumedJob context origin) after <
            callWeight (resumedJob context origin) call := fun call moment after smoothly served
              taken => ⟨smoothly_step free smoothly served taken,
                (placed_step smoothly.kept.placed served taken).2⟩
    refine ends_in lowers (fun call smoothly stuck => smoothly.returned ?_) initial
    refine stuck_returned smoothly.kept.placed fun moment served => stuck moment ?_
    simp only [Bool.and_eq_true] at served
    exact served.1

def pausing : Answers :=
  { answered with executor := some ⟨"human interaction pending", false, false⟩ }

def execLaunch : CallAction := .event (.launch (.ok "node-1"))

/-- The call that a run from the submission of the job has led to. -/
def sampleRun (job : Job SampleInput) (submission : Nat) (actions : List CallAction) :
    Call SampleInput :=
  (run callStep (sampleCall job submission) actions).getD (sampleCall job submission)

def pausedOrigin (job : Job SampleInput) (submission : Nat) (actions : List CallAction) :
    Job SampleInput :=
  ((sampleRun job submission actions).sched.objects 0).getD job

theorem sample_run_grounded (job : Job SampleInput) (submission : Nat)
    (actions : List CallAction) : Grounded (machineOf (sampleRun job submission actions)) := by
  unfold sampleRun
  cases ran : run callStep (sampleCall job submission) actions with
  | none => exact sample_call_grounded job submission
  | some call =>
    have reached :=
      reaches_of_run (.start rfl) actions (allowed_of_always (fun _ _ => trivial) _ _) ran
    exact reaches_invariant (fun state (same : sampleCall job submission = state) =>
      same ▸ sample_call_grounded job submission)
      (fun _ _ _ grounded _ taken => grounded_call_step grounded taken) reached

/-- What `Paused` asks of the job itself. -/
def AwaitsHuman (job : Job SampleInput) (sched : Scheduler SampleInput) : Prop :=
  sched.jobs job.id = some 0 ∧
    KeyedReplay.replayOne follow none (jobRecords (sched.store.transitions job.id)) =
      some (job.lifecycleState.map .job) ∧
    job.lifecycleState = some .awaitingHuman ∧ job.id ≠ "" ∧
    ∀ task ∈ jobTasks job, task.jobID = job.id

instance (job : Job SampleInput) (sched : Scheduler SampleInput) :
    Decidable (AwaitsHuman job sched) := by
  unfold AwaitsHuman
  infer_instance

theorem sample_run_paused (job : Job SampleInput) (submission : Nat) (actions : List CallAction)
    (awaits : ((sampleRun job submission actions).sched.objects 0).isSome = true ∧
      AwaitsHuman (pausedOrigin job submission actions) (sampleRun job submission actions).sched) :
    Paused (pausedOrigin job submission actions) 0 (sampleRun job submission actions).sched := by
  obtain ⟨placed, entry, history, awaiting, named, owned⟩ := awaits
  obtain ⟨_, found⟩ := isSome_iff_exists.mp placed
  have same : (sampleRun job submission actions).sched.objects 0 =
      some (pausedOrigin job submission actions) := by
    simp [pausedOrigin, found]
  have grounded := sample_run_grounded job submission actions
  exact ⟨⟨⟨entry, same, rfl, rfl⟩, history⟩, awaiting, named, owned, grounded.wired, grounded.store⟩

def onePauseRun : List CallAction :=
  execSteps 4 ++ [execLaunch] ++ execWorks 0 13 pausing ++ [.event (.report 0 false)] ++
    execSteps 3

theorem one_pause :
    Paused (pausedOrigin (sampleJob ["task-1"]) 6 onePauseRun) 0
      (sampleRun (sampleJob ["task-1"]) 6 onePauseRun).sched :=
  sample_run_paused _ _ _ (by decide +kernel)

theorem one_task_resume_completes :
    ∃ call, resumeCall (sampleRun (sampleJob ["task-1"]) 6 onePauseRun).sched 1
        (pausedOrigin (sampleJob ["task-1"]) 6 onePauseRun).id [("decision", ())] calm =
          some call ∧
      EndsIn momentStep Served call
        (Succeeded (pausedOrigin (sampleJob ["task-1"]) 6 onePauseRun).id) := by
  obtain ⟨call, resumes, ends⟩ := resume_completes_iff
    (pausedOrigin (sampleJob ["task-1"]) 6 onePauseRun) 0
    (sampleRun (sampleJob ["task-1"]) 6 onePauseRun).sched 1 [("decision", ())] calm one_pause
    (by decide) rfl (by decide)
  exact ⟨call, resumes, ends.mpr (by decide +kernel)⟩

def twoStageJob : Job SampleInput :=
  { newJob SampleInput "job-1" "job" 1 with
    stages := [⟨"stage-1", "job-1", [sampleTask "task-1"], [], .pending⟩,
      ⟨"stage-2", "job-1", [sampleTask "task-2"], ["stage-1"], .pending⟩] }

/-- The task of the first stage succeeds, the one of the second pauses. -/
def secondPauseRun : List CallAction :=
  execSteps 4 ++ [execLaunch] ++ execWorks 0 12 answered ++ execSteps 2 ++ [execLaunch] ++
    execWorks 0 12 pausing ++ [.event (.report 0 false)] ++ execSteps 3

theorem second_pause :
    Paused (pausedOrigin twoStageJob 8 secondPauseRun) 0
      (sampleRun twoStageJob 8 secondPauseRun).sched :=
  sample_run_paused _ _ _ (by decide +kernel)

/-- The claim of the first stage's task is refused twice. -/
def refusedEvents : List Event :=
  replicate 4 (Event.step calm) ++ [Event.launch (.ok "node-1")] ++
    replicate 7 (Event.work 0 answered) ++ [Event.report 0 false] ++ replicate 3 (Event.step calm)

theorem succeeded_task_blocks_resume :
    Paused (pausedOrigin twoStageJob 8 secondPauseRun) 0
        (sampleRun twoStageJob 8 secondPauseRun).sched ∧
      (∀ action ∈ secondPauseRun, calmAction action = true) ∧
      (∀ event ∈ refusedEvents, serves event = true) ∧
      (run callStep (sampleCall twoStageJob 8) secondPauseRun).isSome ∧
      (jobTasks (pausedOrigin twoStageJob 8 secondPauseRun)).map (·.lifecycleState) =
        [some .succeeded, some .failed] ∧
      ((resumeCall (sampleRun twoStageJob 8 secondPauseRun).sched 1 "job-1" [("decision", ())]
          calm).bind fun call => run momentStep call (refusedEvents.map fun event => (0, event))).map
        (fun final => (final.exec.isNone,
          (registeredJob final.sched "job-1").bind (·.lifecycleState))) =
        some (true, some .failed) :=
  ⟨second_pause, by decide +kernel⟩

end Dagens.Scheduler.ResumeCompletion
