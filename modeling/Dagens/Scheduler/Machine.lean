import Dagens.Scheduler.Operations

/-!
# The scheduler as a machine of threads

Submissions, the run loop, resumes, executions with their task goroutines and
reconcile passes run against one scheduler in any interleaving. The history
fields of `Machine` record what was submitted, which executor calls returned
without error and which jobs an execution recorded as succeeded; no step reads
them.
-/

namespace Dagens.Scheduler.Machine

open Lifecycle GoSupport Replay Transitions Goroutine Reconcile StageRun Operations

set_option linter.dupNamespace false

variable {Input : Type} [GoRuntime Input]

/-- What the environment lets a thread do next. -/
inductive Event where
  | step (oracle : Oracle)
  | launch (selection : Except GoError String)
  | work (index : Nat) (answers : Answers)
  | report (index : Nat) (viaDone : Bool)
  | cancel
  | expire

/-- A task as the history knows it: its job and its own id. -/
structure TaskKey where
  jobID : String
  taskID : String
  deriving DecidableEq, Repr

structure Outcome (Input : Type) [GoRuntime Input] where
  sched : Scheduler Input
  thread : Option (Thread Input)
  executed : List TaskKey
  succeeded : List String

def outcome (sched : Scheduler Input) (thread : Option (Thread Input)) : Outcome Input :=
  ⟨sched, thread, [], []⟩

/-- The key of the task whose executor call has just returned without error. -/
def executedKeys (sched : Scheduler Input) (ref : Nat) (position : Position)
    (events : List TaskEvent) : List TaskKey :=
  if .returned none ∈ events then
    match sched.objects ref with
    | none => []
    | some job => ((taskAt job position).map fun task => ⟨job.id, task.id⟩).toList
  else []

/-- The job that the last step of a successful execution has recorded. -/
def succeededJobs (after : Scheduler Input) (exec : Exec) : List String :=
  match exec.pc, after.objects exec.ref with
  | .recordSuccess, some job => if job.lifecycleState = some .succeeded then [job.id] else []
  | _, _ => []

def stageEvent (sched : Scheduler Input) (exec : Exec) (stage : Nat) (run : StageRun Goroutine)
    (event : Event) (now : Time) : Option (Outcome Input) :=
  let continued := fun after => some (.exec { exec with pc := .inStage stage after })
  match event with
  | .launch selection =>
    (stageOf sched exec.ref stage).bind fun object =>
      (launch object.tasks.length exec.cancelled selection startGoroutine run).map fun after =>
        outcome sched (continued after)
  | .work index answers =>
    (workStep sched exec.ref stage run index answers now).map fun (after, worked, events) =>
      ⟨after, continued worked, executedKeys sched exec.ref ⟨stage, index⟩ events, []⟩
  | .report index viaDone =>
    (report index exec.cancelled viaDone run).map fun after => outcome sched (continued after)
  | _ => none

def execEvent (sched : Scheduler Input) (exec : Exec) (event : Event) (now : Time) :
    Option (Outcome Input) :=
  match event with
  | .step oracle =>
    (execStep sched exec oracle now).map fun (after, pc) =>
      ⟨after, pc.map fun pc => .exec { exec with pc := pc }, [], succeededJobs after exec⟩
  | .cancel => some (outcome sched (some (.exec { exec with cancelled := true })))
  | _ =>
    match exec.pc with
    | .inStage stage run => stageEvent sched exec stage run event now
    | _ => none

def threadStep (sched : Scheduler Input) (thread : Thread Input) (event : Event) (now : Time) :
    Option (Outcome Input) :=
  match thread, event with
  | .submit ref pc, .step oracle =>
    let after := submitStep sched ref pc oracle now
    some (outcome after.1 (after.2.map (.submit ref)))
  | .loop pc, .step oracle =>
    let after := loopStep sched pc oracle
    some (outcome after.1 after.2)
  | .resume jobID context pc, .step oracle =>
    let after := resumeStep sched jobID context pc oracle
    some (outcome after.1 after.2)
  | .entering ref, .step _ =>
    let entered := enterJob sched ref
    some (outcome entered.1 (some (.exec ⟨entered.2, false, .begin⟩)))
  | .pass pass, .step oracle =>
    let after := passStep sched pass oracle now
    some (outcome after.1 (after.2.map fun pc => .pass { pass with pc := pc }))
  | .pass pass, .expire => some (outcome sched (some (.pass { pass with expired := true })))
  | .exec exec, event => execEvent sched exec event now
  | _, _ => none

structure Machine (Input : Type) [GoRuntime Input] where
  sched : Scheduler Input
  threads : List (Option (Thread Input))
  now : Time
  submitted : List (Job Input)
  executed : List TaskKey
  succeeded : List String

def newMachine (Input : Type) [GoRuntime Input] (config : SchedulerConfig) (now : Time) :
    Machine Input where
  sched := newScheduler Input config
  threads := []
  now := now
  submitted := []
  executed := []
  succeeded := []

inductive Action (Input : Type) [GoRuntime Input] where
  | tick (elapsed : Time)
  | submit (job : Job Input)
  | dequeue
  | resume (jobID : String) (context : List (String × GoRuntime.Value Input))
  | reconcile (mode : ReconcileMode)
  | thread (pid : Nat) (event : Event)

def spawn (machine : Machine Input) (sched : Scheduler Input) (thread : Thread Input) :
    Machine Input :=
  { machine with sched := sched, threads := machine.threads ++ [some thread] }

def threadOf (machine : Machine Input) (pid : Nat) : Option (Thread Input) :=
  machine.threads[pid]?.join

def dequeued (sched : Scheduler Input) : Option (Scheduler Input × Nat) :=
  match sched.jobQueue with
  | [] => none
  | ref :: rest => some ({ sched with jobQueue := rest }, ref)

def resumed (machine : Machine Input) (pid : Nat) (result : Outcome Input) : Machine Input :=
  { machine with
    sched := result.sched
    threads := machine.threads.set pid result.thread
    executed := machine.executed ++ result.executed
    succeeded := machine.succeeded ++ result.succeeded }

def machineStep (machine : Machine Input) : Action Input → Option (Machine Input)
  | .tick elapsed => some { machine with now := machine.now + elapsed }
  | .submit job =>
    (admitJob machine.sched job).map fun admitted =>
      { spawn machine admitted (.submit machine.sched.nextRef .recordSubmitted) with
        submitted := machine.submitted ++ [job] }
  | .dequeue =>
    (dequeued machine.sched).map fun (sched, ref) => spawn machine sched (.loop (.taken ref))
  | .resume jobID context => some (spawn machine machine.sched (.resume jobID context .lookup))
  | .reconcile mode => some (spawn machine machine.sched (.pass ⟨mode, false, .listing⟩))
  | .thread pid event => do
      let thread ← threadOf machine pid
      let result ← threadStep machine.sched thread event machine.now
      return resumed machine pid result

/-- One scheduler over an empty store. -/
def Fresh (machine : Machine Input) : Prop :=
  ∃ config now, machine = newMachine Input config now

/-- A task transition prepared for the task at a position: a dispatch claim or
a report. -/
structure Prepared where
  ref : Nat
  position : Position
  claims : Bool
  write : PendingWrite

inductive Access where
  | quiet
  | jobTransition (ref : Nat)
  | commit (prepared : Prepared) (fault : Option GoError)
  | install (jobID : String) (replayed : ReplayedJobState)
  | warm (replayed : ReplayedJobState)
  | force (durableJob : DurableJobRecord)

def routinePending (ref : Nat) (position : Position) : TaskPC → Option Prepared
  | .claimPending write => some ⟨ref, position, true, write⟩
  | .startPending write => some ⟨ref, position, false, write⟩
  | .succeedPending write => some ⟨ref, position, false, write⟩
  | .failPending _ write => some ⟨ref, position, false, write⟩
  | _ => none

def routineAccess (ref : Nat) (position : Position) (routine : Goroutine) (answers : Answers) :
    Access :=
  match routine.pc with
  | .recordingJob job (_ :: _) => .jobTransition job
  | pc =>
    match routinePending ref position pc with
    | some prepared => .commit prepared answers.fault
    | none => .quiet

def passAccess (sched : Scheduler Input) : PassPC → Access
  | .locking _ replayed _ => .warm replayed
  | .recordTerminal ref _ _ => .jobTransition ref
  | .queueing ref _ _ =>
    if lifecycleOf sched ref = some .submitted then .jobTransition ref else .quiet
  | .deciding ref _ _ _ =>
    if (lifecycleOf sched ref).any (canTransitionJobState · .failed) then .jobTransition ref
    else .quiet
  | .forcing _ durableJob _ => .force durableJob
  | _ => .quiet

def execAccess (sched : Scheduler Input) (exec : Exec) : Access :=
  match exec.pc with
  | .recordQueued => .jobTransition exec.ref
  | .starting => if hasTasks sched exec.ref then .quiet else .jobTransition exec.ref
  | .recordFailure _ => .jobTransition exec.ref
  | .recordSuccess => .jobTransition exec.ref
  | _ => .quiet

def submitAccess (ref : Nat) (oracle : Oracle) : SubmitPC → Access
  | .recordSubmitted => .jobTransition ref
  | .recordQueued => .jobTransition ref
  | .createPending position _ write => .commit ⟨ref, position, false, write⟩ oracle.fault
  | _ => .quiet

def workAccess (exec : Exec) (index : Nat) (answers : Answers) : Access :=
  match exec.pc with
  | .inStage stage run =>
    match run.workers[index]? with
    | some (.running routine) => routineAccess exec.ref ⟨stage, index⟩ routine answers
    | _ => .quiet
  | _ => .quiet

def access (sched : Scheduler Input) (thread : Thread Input) (event : Event) : Access :=
  match thread, event with
  | .submit ref pc, .step oracle => submitAccess ref oracle pc
  | .loop (.installing jobID replayed), .step _ => .install jobID replayed
  | .resume jobID _ (.installing replayed), .step _ => .install jobID replayed
  | .pass pass, .step _ => passAccess sched pass.pc
  | .exec exec, .step _ => execAccess sched exec
  | .exec exec, .work index answers => workAccess exec index answers
  | _, _ => .quiet

def actionAccess (machine : Machine Input) : Action Input → Access
  | .thread pid event =>
    match threadOf machine pid with
    | some thread => access machine.sched thread event
    | none => .quiet
  | _ => .quiet

def sampleJob (taskIDs : List String) : Job SampleInput :=
  { newJob SampleInput "job-1" "job" 1 with
    stages := [⟨"stage-1", "job-1", taskIDs.map sampleTask, [], .pending⟩] }

def sampleMachine : Machine SampleInput := newMachine SampleInput ⟨false, 10, 2⟩ 1

theorem sample_fresh : Fresh sampleMachine := ⟨_, _, rfl⟩

/-- Nothing fails and the process is the leader. -/
def calm : Oracle := ⟨none, none, .ok ⟨true, "leader", "1"⟩, true, id, fun _ => .refl _⟩

def answered : Answers := ⟨none, some "node-1", .ok ⟨true, "leader", "1"⟩, none⟩

def steps (pid count : Nat) : List (Action SampleInput) :=
  List.replicate count (.thread pid (.step calm))

def works (pid index count : Nat) (answers : Answers) : List (Action SampleInput) :=
  List.replicate count (.thread pid (.work index answers))

end Dagens.Scheduler.Machine
