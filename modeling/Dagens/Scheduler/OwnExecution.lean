import Dagens.Scheduler.PassFailures

/-!
# Reconcile passes and the executions of the same process

A leader-mode pass judges a job by its durable state alone: whether the replay
fails, whether all tasks of a RUNNING job are still pending, whether a task has
been in flight for longer than a minute. Nothing asks whether the process
itself is executing the job. A pass fails such a job exactly through the
positions behind one of these verdicts, so the job is safe as long as no
verdict is reached about a job that is being executed and no execution starts
for a job whose verdict is out.
-/

namespace Dagens.Scheduler.OwnExecution

open Lib.GuardedRun Lifecycle GoSupport Replay Recovery Transitions Reconcile Operations Machine
  MachineMoves Wiring TableRefs HeldRefs PassFailures Option List

variable {Input : Type} [GoRuntime Input]

/-- The thread is inside a call of `executeJob` for the job. -/
def executes (sched : Scheduler Input) (jobID : String) : Thread Input → Bool
  | .entering ref => decide (jobIDAt sched ref = some jobID)
  | .exec exec => decide (jobIDAt sched exec.ref = some jobID)
  | _ => false

def executing (machine : Machine Input) (jobID : String) : Bool :=
  machine.threads.any fun thread => thread.any (executes machine.sched jobID)

def threadCondemns (sched : Scheduler Input) (jobID : String) : Thread Input → Bool
  | .pass pass => condemns sched jobID pass.pc
  | _ => false

def condemned (machine : Machine Input) (jobID : String) : Bool :=
  machine.threads.any fun thread => thread.any (threadCondemns machine.sched jobID)

/-- The durable state of a job gives a pass no reason to fail it: it replays,
and it does not look like an orphan or like a task stuck in flight. -/
def looksAlive (store : TransitionStore) (jobID : String) (now : Time) : Bool :=
  match replayJobState none store jobID with
  | .error _ => false
  | .ok replayed =>
    decide (replayed.job.currentState ≠ some .running) ||
      (!allReplayedTasksPending (replayedRows replayed) &&
        !hasStaleInFlightReplayedTask (replayedRows replayed) now staleInFlightReconcileTimeout)

/-- A job that can be queued again has all the fields its execution needs. -/
def completeIfQueued (sched : Scheduler Input) (ref : Nat) : Bool :=
  (sched.objects ref).all fun job =>
    decide (job.lifecycleState ≠ some .queued) || !isSafeForQueuedResume job ||
      decide (recoveredQueuedMissingExecutionFieldCount job sched.config.enableStickiness = 0)

/-- The pass finds nothing against a job that is being executed. -/
def passSpares (machine : Machine Input) (pass : Pass) : Bool :=
  match pass.pc with
  | .replaying durableJob _ =>
    !executing machine durableJob.jobID || decide (pass.mode = .follower) ||
      (!pass.expired && looksAlive machine.sched.store durableJob.jobID machine.now)
  | .examining ref _ rows _ =>
    (jobIDAt machine.sched ref).all fun jobID =>
      !executing machine jobID || decide (lifecycleOf machine.sched ref ≠ some .running) ||
        decide (replayedTerminalJobState rows ≠ some .failed)
  | .admitting ref durableJob _ =>
    !executing machine durableJob.jobID || completeIfQueued machine.sched ref
  | _ => true

/-- Where a thread is about to call `executeJob`, and for which object. -/
def aboutToExecute : Thread Input → Option Nat
  | .loop (.rechecking ref) => some ref
  | .resume _ _ (.authorizing ref) => some ref
  | .resume _ _ (.resetting ref) => some ref
  | _ => none

def threadSpares (machine : Machine Input) (thread : Thread Input) : Bool :=
  match thread with
  | .pass pass => passSpares machine pass
  | thread =>
    (((aboutToExecute thread).bind (jobIDAt machine.sched)).all fun jobID =>
      !condemned machine jobID)

def spares (machine : Machine Input) : Action Input → Bool
  | .thread pid (.step _) => (threadOf machine pid).all (threadSpares machine)
  | _ => true

variable {event : Event} {machine : Machine Input} {jobID : String} {sched : Scheduler Input}
  {pc : PassPC} {thread : Thread Input} {result : Outcome Input}

theorem executing_iff :
    executing machine jobID = true ↔
      ∃ pid thread, threadOf machine pid = some thread ∧
        executes machine.sched jobID thread = true :=
  any_thread

theorem condemned_iff :
    condemned machine jobID = true ↔
      ∃ pid thread, threadOf machine pid = some thread ∧
        threadCondemns machine.sched jobID thread = true :=
  any_thread

variable {pass : Pass} {now : Time}

section

omit [GoRuntime Input]

variable {durableJob : DurableJobRecord} {todo : List DurableJobRecord}

/-- A replay condemns its own job only, in leader mode, and only when the pass has
run out of time or the job does not look alive. -/
theorem replay_verdict {later : Scheduler Input}
    (stepped : (replayStep sched pass durableJob todo now).2 = some pc)
    (verdict : condemns later jobID pc = true) :
    pass.mode = .leader ∧ durableJob.jobID = jobID ∧
    (pass.expired = true ∨ looksAlive sched.store durableJob.jobID now = false) := by
  have named : ∀ reason, pc = .authorizing durableJob reason todo → durableJob.jobID = jobID := by
    rintro _ rfl
    simpa [condemns] using verdict
  cases late : pass.expired with
  | true =>
    simp only [replayStep] at stepped
    split at stepped
    · split_ifs at stepped with leader <;> cases stepped
      · exact ⟨leader, named _ rfl, .inl rfl⟩
      · cases verdict
    · split_ifs at stepped with orphan stale <;> cases stepped
      · exact ⟨orphan.1, named _ rfl, .inl rfl⟩
      · exact ⟨stale.1, named _ rfl, .inl rfl⟩
      · cases verdict
  | false =>
    simp only [replayStep, Pass.ctxErr, late, Bool.false_eq_true, if_false] at stepped
    unfold looksAlive
    cases replays : replayJobState none sched.store durableJob.jobID with
    | error =>
      simp only [replays] at stepped
      split_ifs at stepped with leader <;> cases stepped
      · exact ⟨leader, named _ rfl, .inr rfl⟩
      · cases verdict
    | ok raw =>
      simp only [replays] at stepped
      split_ifs at stepped with orphan stale <;> cases stepped
      · have running : raw.job.currentState = some .running := orphan.2.1
        have pending : allReplayedTasksPending (replayedRows raw) = true := orphan.2.2
        exact ⟨orphan.1, named _ rfl, .inr (by simp [running, pending])⟩
      · have running : raw.job.currentState = some .running := stale.2.1
        have stuck : hasStaleInFlightReplayedTask (replayedRows raw) now
            staleInFlightReconcileTimeout = true := stale.2.2
        exact ⟨stale.1, named _ rfl, .inr (by simp [running, stuck])⟩
      · cases verdict

theorem fetch_goes_on {reason : String}
    (fetched : (fetchStep sched durableJob reason todo).2 = some pc) :
    pc = .next todo ∨ ∃ ref, pc = .condemning ref durableJob reason todo := by
  unfold fetchStep at fetched
  dsimp only at fetched
  split_ifs at fetched <;> cases fetched
  · exact .inl rfl
  · exact .inr ⟨_, rfl⟩

end

/-- A pass that spares the running executions does not come to condemn one of
their jobs. -/
theorem pass_verdict {oracle : Oracle}
    (known : ∀ ref ∈ passRefs pass.pc, (jobIDAt machine.sched ref).isSome)
    (kept : IDsKept machine.sched (passStep machine.sched pass oracle machine.now).1)
    (rewired : Wired (passStep machine.sched pass oracle machine.now).1)
    (stepped : (passStep machine.sched pass oracle machine.now).2 = some pc)
    (spared : passSpares machine pass = true) (runs : executing machine jobID = true)
    (verdict : condemns (passStep machine.sched pass oracle machine.now).1 jobID pc = true) :
    condemns machine.sched jobID pass.pc = true := by
  obtain ⟨_, _, current⟩ := pass
  cases current with
  | listing | recordTerminal | queueing | forcing =>
    cases stepped
    cases verdict
  | next todo =>
    cases todo with
    | nil => simp [passStep] at stepped
    | cons =>
      simp only [passStep, nextStep] at stepped
      split_ifs at stepped
      · split at stepped
        · cases stepped
          cases verdict
        · cases stepped
          split_ifs at verdict <;> cases verdict
      · split at stepped <;> cases stepped <;> cases verdict
  | replaying =>
    simp only [passStep] at stepped
    obtain ⟨leader, rfl, against⟩ := replay_verdict stepped verdict
    cases leader
    rcases against with late | dead
    · cases late
      simp [passSpares, runs] at spared
    · simp [passSpares, runs, dead] at spared
  | locking =>
    simp only [passStep, lockStep] at stepped
    cases stepped
    split_ifs at verdict <;> cases verdict
  | examining _ _ rows =>
    simp only [passStep, examineStep, Option.some.injEq] at stepped verdict
    subst stepped
    split_ifs at verdict with running
    · split at verdict
      · rename_i terminal isTerminal
        simp only [condemns, decide_eq_true_eq] at verdict
        simp only [passSpares, verdict.2, runs, running, all_some, Bool.not_true,
          ne_eq, not_true_eq_false, decide_false, Bool.false_or, decide_eq_true_eq] at spared
        refine absurd ?_ verdict.1
        unfold replayedTerminalJobState at isTerminal spared
        split_ifs at isTerminal spared <;> cases isTerminal
        · exact absurd rfl spared
        · rfl
      · cases verdict
    · cases verdict
  | synthesizing ref =>
    simp only [passStep, Option.some.injEq] at stepped kept verdict
    subst stepped
    simp only [condemns, decide_eq_true_eq] at verdict ⊢
    exact ⟨verdict.1, kept.back (known ref (by simp [passRefs])) verdict.2⟩
  | admitting =>
    simp only [passStep, admitStep] at stepped
    split at stepped
    · cases stepped
      cases verdict
    · rename_i job found
      split_ifs at stepped with idle unsafeResume missing <;> cases stepped
      · cases verdict
      · cases verdict
      · simp only [condemns, decide_eq_true_eq] at verdict
        subst verdict
        have queued : job.lifecycleState = some .queued := by simpa using idle
        have safe : isSafeForQueuedResume job = true := by simpa using unsafeResume
        simp only [passSpares, runs, completeIfQueued, found, queued, safe,
          Bool.not_true, Bool.false_or, all_some, ne_eq, not_true_eq_false, decide_false,
          decide_eq_true_eq] at spared
        omega
      · cases verdict
  | authorizing =>
    cases stepped
    split_ifs at verdict
    · exact verdict
    · cases verdict
  | fetching durableJob reason todo =>
    simp only [passStep] at stepped verdict rewired
    rcases fetch_goes_on stepped with rfl | ⟨ref, rfl⟩
    · cases verdict
    · have entry := fetch_entry machine.sched durableJob reason todo stepped
        (mem_singleton_self ref)
      simp only [condemns, decide_eq_true_eq, entry_id rewired entry, Option.some.injEq]
        at verdict ⊢
      exact verdict
  | condemning ref =>
    simp only [passStep, Option.some.injEq] at stepped kept verdict
    subst stepped
    simp only [condemns, decide_eq_true_eq] at verdict ⊢
    exact kept.back (known ref (by simp [passRefs])) verdict
  | deciding =>
    simp only [passStep] at stepped verdict
    split_ifs at stepped verdict <;> cases stepped
    · cases verdict
    · exact verdict

variable {later : Thread Input} {before after : Scheduler Input}

theorem thread_executes (wired : Wired sched) (kept : IDsKept sched result.sched)
    (stepped : threadStep sched thread event now = some result)
    (isLater : result.thread = some later)
    (held : ∀ ref ∈ heldRefs thread, (jobIDAt sched ref).isSome)
    (executesLater : executes result.sched jobID later = true) :
    executes sched jobID thread = true ∨ (∃ oracle, event = .step oracle) ∧
    (aboutToExecute thread).bind (jobIDAt sched) = some jobID := by
  cases thread with
  | submit =>
    cases event <;> cases stepped
    obtain ⟨next, _, rfl⟩ := map_eq_some_iff.mp isLater
    cases executesLater
  | loop =>
    cases event <;> cases stepped
    rcases loop_goes_on isLater with ⟨next, rfl⟩ | ⟨ref, rfl, rfl⟩
    · cases executesLater
    · exact .inr ⟨⟨_, rfl⟩, of_decide_eq_true executesLater⟩
  | resume =>
    cases event <;> cases stepped
    rcases resume_goes_on isLater with ⟨_, rfl⟩ | ⟨ref, starts, rfl⟩
    · cases executesLater
    · simp only [executes, decide_eq_true_eq] at executesLater
      rcases starts with rfl | rfl <;>
        exact .inr ⟨⟨_, rfl⟩, kept.back (held ref (mem_singleton_self _)) executesLater⟩
  | entering entered =>
    cases event <;> cases stepped
    cases isLater
    refine .inl ?_
    have same : jobIDAt (enterJob sched entered).1 (enterJob sched entered).2 = some jobID :=
      of_decide_eq_true executesLater
    rw [enter_id wired entered] at same
    simp [executes, same]
  | exec exec =>
    obtain ⟨_, _, rfl⟩ := exec_stays stepped isLater
    simp only [executes, decide_eq_true_eq] at executesLater ⊢
    exact .inl (kept.back (held exec.ref (mem_singleton_self _)) executesLater)
  | pass =>
    cases event <;> cases stepped
    · obtain ⟨_, _, rfl⟩ := map_eq_some_iff.mp isLater
      cases executesLater
    · cases isLater
      cases executesLater

theorem thread_condemns (kept : IDsKept machine.sched result.sched) (rewired : Wired result.sched)
    (stepped : threadStep machine.sched thread event machine.now = some result)
    (isLater : result.thread = some later)
    (held : ∀ ref ∈ heldRefs thread, (jobIDAt machine.sched ref).isSome)
    (spared : ∀ oracle, event = .step oracle → threadSpares machine thread = true)
    (runs : executing machine jobID = true)
    (verdict : threadCondemns result.sched jobID later = true) :
    threadCondemns machine.sched jobID thread = true := by
  cases thread with
  | submit =>
    cases event <;> cases stepped
    obtain ⟨next, _, rfl⟩ := map_eq_some_iff.mp isLater
    cases verdict
  | loop =>
    cases event <;> cases stepped
    rcases loop_goes_on isLater with ⟨next, rfl⟩ | ⟨ref, _, rfl⟩ <;> cases verdict
  | resume =>
    cases event <;> cases stepped
    rcases resume_goes_on isLater with ⟨_, rfl⟩ | ⟨_, _, rfl⟩ <;> cases verdict
  | entering =>
    cases event <;> cases stepped
    cases isLater
    cases verdict
  | exec =>
    obtain ⟨_, _, rfl⟩ := exec_stays stepped isLater
    cases verdict
  | pass =>
    cases event <;> cases stepped
    · obtain ⟨_, isPC, rfl⟩ := map_eq_some_iff.mp isLater
      exact pass_verdict held kept rewired isPC (spared _ rfl) runs verdict
    · cases isLater
      exact verdict

section

variable (kept : IDsKept before after) (held : ∀ ref ∈ heldRefs thread, (jobIDAt before ref).isSome)

include kept held

theorem executes_back (executesLater : executes after jobID thread = true) :
    executes before jobID thread = true := by
  cases thread with
  | entering ref =>
    simp only [executes, decide_eq_true_eq] at executesLater ⊢
    exact kept.back (held ref (mem_singleton_self _)) executesLater
  | exec exec =>
    simp only [executes, decide_eq_true_eq] at executesLater ⊢
    exact kept.back (held exec.ref (mem_singleton_self _)) executesLater
  | _ => cases executesLater

theorem condemns_back (verdict : threadCondemns after jobID thread = true) :
    threadCondemns before jobID thread = true := by
  cases thread with
  | pass pass =>
    obtain ⟨_, _, pc⟩ := pass
    cases pc with
    | synthesizing ref | recordTerminal ref =>
      simp only [threadCondemns, condemns, decide_eq_true_eq] at verdict ⊢
      exact ⟨verdict.1, kept.back (held ref (mem_singleton_self _)) verdict.2⟩
    | condemning ref | deciding ref | forcing ref =>
      simp only [threadCondemns, condemns, decide_eq_true_eq] at verdict ⊢
      exact kept.back (held ref (mem_singleton_self _)) verdict
    | _ => exact verdict
  | _ => cases verdict

end

/-- No job is executed and condemned at once. -/
structure Apart (machine : Machine Input) : Prop extends Rooted machine where
  apart : ∀ jobID, executing machine jobID = true → condemned machine jobID = true → False

theorem spawn_apart {after : Machine Input} (before : Apart machine) (rooted : Rooted after)
    (kept : IDsKept machine.sched after.sched)
    (grown : after.threads = machine.threads ++ [some thread])
    (idle : ∀ jobID, executes after.sched jobID thread = false)
    (silent : ∀ jobID, threadCondemns after.sched jobID thread = false) : Apart after := by
  refine ⟨rooted, fun jobID runs verdict => ?_⟩
  obtain ⟨runner, found, livesRunner, isRunning⟩ := executing_iff.mp runs
  obtain ⟨judge, other, livesJudge, isJudging⟩ := condemned_iff.mp verdict
  have wasRunning : threadOf machine runner = some found := by
    rcases thread_of_spawn grown livesRunner with old | rfl
    · exact old
    · rw [idle jobID] at isRunning
      cases isRunning
  have wasJudging : threadOf machine judge = some other := by
    rcases thread_of_spawn grown livesJudge with old | rfl
    · exact old
    · rw [silent jobID] at isJudging
      cases isJudging
  refine before.apart jobID (executing_iff.mpr ⟨runner, found, wasRunning, ?_⟩)
    (condemned_iff.mpr ⟨judge, other, wasJudging, ?_⟩)
  · exact executes_back kept (fun ref => before.held runner found ref wasRunning) isRunning
  · exact condemns_back kept (fun ref => before.held judge other ref wasJudging) isJudging

variable {pid : Nat}

theorem resumed_apart (before : Apart machine)
    (rooted : Rooted (resumed machine pid result)) (kept : IDsKept machine.sched result.sched)
    (lives : threadOf machine pid = some thread)
    (stepped : threadStep machine.sched thread event machine.now = some result)
    (spared : ∀ oracle, event = .step oracle → threadSpares machine thread = true) :
    Apart (resumed machine pid result) := by
  have held := fun ref => before.held pid thread ref lives
  refine ⟨rooted, fun jobID runs verdict => ?_⟩
  obtain ⟨runner, found, livesRunner, isRunning⟩ := executing_iff.mp runs
  obtain ⟨judge, other, livesJudge, isJudging⟩ := condemned_iff.mp verdict
  rcases thread_of_resumed livesRunner with ⟨rfl, isLater⟩ | ⟨_, oldRunner⟩
  · -- The stepping thread executes the job: it did before, or it starts now.
    rcases thread_of_resumed livesJudge with ⟨_, isOther⟩ | ⟨_, oldJudge⟩
    · obtain rfl : found = other := Option.some.inj (isLater.symm.trans isOther)
      cases found <;> first | cases isRunning | cases isJudging
    · have judged : condemned machine jobID = true := condemned_iff.mpr ⟨judge, other, oldJudge,
        condemns_back kept (fun ref => before.held judge other ref oldJudge) isJudging⟩
      rcases thread_executes before.wired kept stepped isLater held isRunning with
        running | ⟨⟨oracle, isStep⟩, starts⟩
      · exact before.apart jobID (executing_iff.mpr ⟨runner, thread, lives, running⟩) judged
      · have sparing := spared oracle isStep
        unfold threadSpares at sparing
        split at sparing
        · cases starts
        · rw [starts, all_some, judged] at sparing
          cases sparing
  · have running : executing machine jobID = true := executing_iff.mpr ⟨runner, found, oldRunner,
      executes_back kept (fun ref => before.held runner found ref oldRunner) isRunning⟩
    rcases thread_of_resumed livesJudge with ⟨rfl, isLater⟩ | ⟨_, oldJudge⟩
    · exact before.apart jobID running (condemned_iff.mpr ⟨judge, thread, lives,
        thread_condemns kept rooted.wired stepped isLater held spared running isJudging⟩)
    · exact before.apart jobID running (condemned_iff.mpr ⟨judge, other, oldJudge,
        condemns_back kept (fun ref => before.held judge other ref oldJudge) isJudging⟩)

theorem apart_step (machine : Machine Input) (action : Action Input) (after : Machine Input)
    (before : Apart machine) (spared : spares machine action = true)
    (taken : machineStep machine action = some after) : Apart after := by
  have rooted := rooted_step before.toRooted taken
  have kept := move_ids_kept before.wired (machine_move before.own taken).move
  cases action with
  | tick =>
    cases taken
    exact ⟨rooted, before.apart⟩
  | submit | dequeue =>
    obtain ⟨_, _, rfl⟩ := map_eq_some_iff.mp taken
    exact spawn_apart before rooted kept rfl (fun _ => rfl) (fun _ => rfl)
  | resume | reconcile =>
    cases taken
    exact spawn_apart before rooted kept rfl (fun _ => rfl) (fun _ => rfl)
  | thread =>
    obtain ⟨_, lives, stepped⟩ := bind_eq_some_iff.mp taken
    obtain ⟨_, moved, same⟩ := bind_eq_some_iff.mp stepped
    cases same
    refine resumed_apart before rooted kept lives moved ?_
    rintro _ rfl
    simpa [spares, lives] using spared

theorem idle_apart (machine : Machine Input) (idle : Idle machine) : Apart machine := by
  refine ⟨idle_rooted idle, fun jobID runs _ => ?_⟩
  obtain ⟨pid, thread, lives, _⟩ := executing_iff.mp runs
  exact absurd lives (nobody_lives idle pid thread)

theorem executing_known (rooted : Rooted machine) (runs : executing machine jobID = true) :
    (machine.sched.jobs jobID).isSome := by
  have named : ∃ ref, jobIDAt machine.sched ref = some jobID := by
    obtain ⟨_, thread, _, isRunning⟩ := executing_iff.mp runs
    cases thread with
    | entering ref => exact ⟨ref, of_decide_eq_true isRunning⟩
    | exec exec => exact ⟨exec.ref, of_decide_eq_true isRunning⟩
    | _ => cases isRunning
  obtain ⟨ref, isNamed⟩ := named
  obtain ⟨job, found, rfl⟩ := map_eq_some_iff.mp isNamed
  exact rooted.wired.heap ref job found

/-- In a run in which no pass finds anything against a job that is being
executed and no execution starts for a condemned job, no pass fails a job that
the process is executing. -/
theorem spared_executions_not_failed {machine after : Machine Input}
    (reached : Reaches machineStep (fun before action => spares before action = true) Idle machine)
    {pid : Nat} {pass : Pass} (lives : threadOf machine pid = some (.pass pass)) {event : Event}
    (taken : machineStep machine (.thread pid event) = some after) (jobID : String)
    (runs : executing machine jobID = true) : ¬ Fails machine.sched after.sched jobID := by
  have apart : Apart machine := reaches_invariant idle_apart apart_step reached
  obtain ⟨thread, same, stepped⟩ := bind_eq_some_iff.mp taken
  obtain rfl : .pass pass = thread := Option.some.inj (lives.symm.trans same)
  obtain ⟨_, moved, isAfter⟩ := bind_eq_some_iff.mp stepped
  cases isAfter
  cases event <;> cases moved
  · intro fails
    have verdict := pass_fails (executing_known apart.toRooted runs) fails
    exact apart.apart jobID runs (condemned_iff.mpr ⟨pid, _, lives, verdict⟩)
  · exact fails_same rfl rfl

theorem sample_idle : Idle sampleMachine :=
  ⟨(Ledger.fresh_grounded sampleMachine sample_fresh).wired, rfl⟩

/-- The executor call of the only task is in progress when a pass comes by. -/
def passDuringCall (elapsed : Time) (count : Nat) : List (Action SampleInput) :=
  [.submit (sampleJob ["task-1"])] ++ steps 0 6 ++ [.dequeue] ++ steps 1 11 ++
    [.thread 1 (.launch (.ok "node-1"))] ++ works 1 0 8 answered ++
    [.tick elapsed, .reconcile .leader] ++ steps 2 count

set_option maxRecDepth 4000 in
/-- After ten seconds the pass goes through all it has to say about the job. -/
theorem short_call_spared :
    ∃ machine after pass, run machineStep sampleMachine (passDuringCall (10 * second) 6) =
        some machine ∧ threadOf machine 2 = some (.pass pass) ∧
      machineStep machine (.thread 2 (.step calm)) = some after ∧
      executing machine "job-1" = true ∧ ¬ Fails machine.sched after.sched "job-1" := by
  have sample : ∃ machine after pass,
      run machineStep sampleMachine (passDuringCall (10 * second) 6) = some machine ∧
        threadOf machine 2 = some (.pass pass) ∧
        machineStep machine (.thread 2 (.step calm)) = some after ∧
        executing machine "job-1" = true :=
    ⟨_, _, _, rfl, rfl, rfl, by decide +kernel⟩
  obtain ⟨machine, after, pass, ran, lives, taken, runs⟩ := sample
  have allowed : Allowed machineStep (fun before action => spares before action = true)
      sampleMachine (passDuringCall (10 * second) 6) := by decide +kernel
  have reached := reaches_of_run (.start sample_idle) _ allowed ran
  exact ⟨machine, after, pass, ran, lives, taken, runs,
    spared_executions_not_failed reached lives taken "job-1" runs⟩

set_option maxRecDepth 4000 in
/-- After sixty-one seconds it records the job as failed. -/
theorem long_call_failed_by_own_pass :
    ∃ machine after pass, run machineStep sampleMachine (passDuringCall (61 * second) 6) =
        some machine ∧ threadOf machine 2 = some (.pass pass) ∧ pass.mode = .leader ∧
      machineStep machine (.thread 2 (.step calm)) = some after ∧
      executing machine "job-1" = true ∧ executing after "job-1" = true ∧
      RecordsFailure machine.sched after.sched "job-1" := by
  refine ⟨_, _, _, rfl, rfl, rfl, rfl, ?_⟩
  decide +kernel

end Dagens.Scheduler.OwnExecution
