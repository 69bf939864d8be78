import Dagens.Scheduler.Ledger

/-!
# Sequence numbers on their way to the log

A task transition takes its sequence number when it is prepared and reaches the
log, or is lost, in a later step. Between the two its record is in flight. A
number of a job is issued when it stands in the job's log or on a record in
flight, and every step either takes the next number of one job or issues
nothing new.
-/

namespace Dagens.Scheduler.InFlight

open Lib Lifecycle GoSupport Transitions StoreEffects Goroutine StageRun Reconcile Operations
  Machine MachineMoves Wiring Ledger Option List Multiset

variable {Input : Type} [GoRuntime Input]

def pendingRecord : TaskPC → Option TransitionRecord
  | .claimPending write => some write.record
  | .startPending write => some write.record
  | .succeedPending write => some write.record
  | .failPending _ write => some write.record
  | _ => none

def workerRecords : Worker Goroutine → List TransitionRecord
  | .running routine => (pendingRecord routine.pc).toList
  | _ => []

def inFlight : Thread Input → List TransitionRecord
  | .submit _ (.createPending _ _ write) => [write.record]
  | .exec ⟨_, _, .inStage _ run⟩ => run.workers.flatMap workerRecords
  | _ => []

def carried : Option (Thread Input) → List TransitionRecord
  | none => []
  | some thread => inFlight thread

def machineFlight (machine : Machine Input) : List TransitionRecord :=
  machine.threads.flatMap carried

/-- The points of a task goroutine at which it prepares a task transition. -/
def preparing : TaskPC → Bool
  | .claiming => true
  | .starting => true
  | .succeeding => true
  | .failing _ => true
  | _ => false

def workNumbers (sched : Scheduler Input) (exec : Exec) (index : Nat) : Option String :=
  match exec.pc with
  | .inStage stage run =>
    match run.workers[index]? with
    | some (.running routine) =>
      if preparing routine.pc then
        (objectTask sched exec.ref ⟨stage, index⟩).map (·.jobID)
      else none
    | _ => none
  | _ => none

/-- The job for which a step asks for a sequence number, if it asks for one. -/
def numbers (sched : Scheduler Input) (thread : Thread Input) (event : Event) : Option String :=
  match access sched thread event with
  | .jobTransition ref => (sched.objects ref).map (·.id)
  | _ =>
    match thread, event with
    | .submit ref (.creating (position :: _)), .step _ =>
      (ownedTaskAt sched ref position).map (·.jobID)
    | .exec exec, .work index _ => workNumbers sched exec index
    | _, _ => none

def actionNumbers (machine : Machine Input) : Action Input → Option String
  | .thread pid event => (threadOf machine pid).bind fun thread => numbers machine.sched thread event
  | _ => none

inductive Flight (sched after : Scheduler Input) :
    Access → Option String → Multiset TransitionRecord → Multiset TransitionRecord → Prop where
  | kept {access : Access} {numbered : Option String} {before later : Multiset TransitionRecord}
      (uncommitted : ∀ prepared fault, access ≠ .commit prepared fault) (fewer : later ≤ before) :
      Flight sched after access numbered before later
  | prepared {access : Access} {before later : Multiset TransitionRecord}
      (record : TransitionRecord) (quiet : access = .quiet)
      (number : record.sequenceID = nextSequence sched record.jobID)
      (counted : after.jobSequences record.jobID = record.sequenceID)
      (grown : later ≤ record ::ₘ before) :
      Flight sched after access (some record.jobID) before later
  | committed {numbered : Option String} {before later : Multiset TransitionRecord}
      (prepared : Prepared) (fault : Option GoError)
      (landed : prepared.write.record ::ₘ later ≤ before) :
      Flight sched after (.commit prepared fault) numbered before later

variable {sched after : Scheduler Input} {numbered : Option String}
  {before later : List TransitionRecord} {routine : Goroutine} {task : Task Input}
  {answers : Answers} {now : Time} {progress : Progress Input} {record : TransitionRecord}
  {machine : Machine Input} {action : Action Input} {jobID : String}

omit [GoRuntime Input] in
theorem flight_empty {access : Access} {before : Multiset TransitionRecord}
    (uncommitted : ∀ prepared fault, access ≠ .commit prepared fault) :
    Flight sched after access numbered before ([] : List TransitionRecord) :=
  .kept uncommitted (zero_le before)

omit [GoRuntime Input] in
theorem flight_frame {access : Access} {before later : Multiset TransitionRecord}
    (others : Multiset TransitionRecord)
    (flight : Flight sched after access numbered before later) :
    Flight sched after access numbered (others + before) (others + later) := by
  cases flight with
  | kept uncommitted fewer => exact .kept uncommitted (add_le_add_right fewer others)
  | prepared record quiet number counted grown =>
    refine .prepared record quiet number counted ?_
    rw [← add_cons]
    exact add_le_add_right grown others
  | committed prepared fault landed =>
    refine .committed prepared fault ?_
    rw [← add_cons]
    exact add_le_add_right landed others

attribute [local simp] numbers inFlight machineFlight

section

variable (sched)

include sched

theorem create_flight (ref : Nat) (position : Position) (todo : List Position) (oracle : Oracle)
    (now : Time) :
    let result := createStep sched ref position todo now
    Flight sched result.1 .quiet
      (numbers sched (.submit ref (.creating (position :: todo))) (.step oracle))
      ([] : List TransitionRecord) (carried (result.2.map (fun pc => (.submit ref pc : Thread Input))) : List _) := by
  have idle : ∀ prepared fault, Access.quiet ≠ .commit prepared fault := by rintro _ _ ⟨⟩
  have spec := create_spec sched ref position todo oracle now
  unfold createStep at spec ⊢
  split
  · exact flight_empty idle
  · rename_i task found
    simp only [found] at spec
    dsimp only at spec ⊢
    split
    · exact flight_empty idle
    · rename_i write isPrepared
      simp only [isPrepared] at spec
      obtain ⟨_, record, _⟩ := (prepare_task_transition_some ..).mp isPrepared
      have owner : numbers sched (.submit ref (.creating (position :: todo))) (.step oracle) =
          some write.record.jobID := by
        simp [access, submitAccess, found, record, taskRecord]
      rcases spec.items _ _ rfl (.creating ref position todo write) with old | acquired
      · cases old
      · cases acquired with
        | prepared _ prepares =>
          rw [owner]
          exact .prepared write.record rfl prepares.sequence prepares.counted le_rfl

theorem submit_flight (ref : Nat) (pc : SubmitPC) (oracle : Oracle) (now : Time) :
    let result := submitStep sched ref pc oracle now
    Flight sched result.1 (access sched (.submit ref pc) (.step oracle))
      (numbers sched (.submit ref pc) (.step oracle)) (inFlight (.submit ref pc : Thread Input))
      (carried (result.2.map (fun pc => (.submit ref pc : Thread Input))) : List _) := by
  cases pc with
  | recordSubmitted | recordQueued | enqueueing => exact flight_empty (by rintro _ _ ⟨⟩)
  | creating todo =>
    cases todo with
    | nil => exact flight_empty (by rintro _ _ ⟨⟩)
    | cons position todo => exact create_flight sched ref position todo oracle now
  | createPending position _ write =>
    exact .committed ⟨ref, position, false, write⟩ oracle.fault le_rfl

theorem loop_carries_nothing (pc : LoopPC) (oracle : Oracle) :
    carried (loopStep sched pc oracle).2 = [] := by
  cases pc <;> simp only [loopStep]
  case checking | authorizing | rechecking => split_ifs <;> rfl
  all_goals rfl

theorem resume_carries_nothing (jobID : String) (context : List (String × GoRuntime.Value Input))
    (pc : ResumePC) (oracle : Oracle) :
    carried (resumeStep sched jobID context pc oracle).2 = [] := by
  cases pc <;> simp only [resumeStep]
  case lookup =>
    split
    · rfl
    · cases readUnknownJob sched jobID oracle.ctxErr <;> rfl
  case checking =>
    split
    · rfl
    · split_ifs <;> rfl
  case reading => cases readDurableState oracle.ctxErr sched.store jobID <;> rfl
  case deciding => split_ifs <;> rfl
  case authorizing => split_ifs <;> rfl
  all_goals rfl

end

theorem routine_pending_record (ref : Nat) (position : Position) (pc : TaskPC) :
    pendingRecord pc = (routinePending ref position pc).map (·.write.record) := by
  cases pc <;> rfl

section

variable (move : GoroutineMove sched routine task answers now progress)

include move

theorem goroutine_lands (pending : pendingRecord routine.pc = some record) :
    pendingRecord progress.routine.pc = none := by
  cases move with
  | quiet _ _ _ control =>
    generalize routine.pc = before at control pending
    cases control <;> rfl
  | retried => rfl
  | noted => rfl
  | jobRecorded => rfl
  | legacyClaim => rfl
  | illegalClaim => rfl
  | claimPrepared _ before =>
    rw [before] at pending
    cases pending
  | claimCommitted => rfl
  | reportPrepared _ _ _ _ _ _ _ _ phase atStart =>
    rw [atStart] at pending
    cases phase <;> cases pending
  | reportCommitted _ _ _ _ _ _ phase =>
    cases phase <;> rfl

theorem goroutine_prepares (pending : pendingRecord progress.routine.pc = some record) :
    preparing routine.pc = true ∧ record.jobID = task.jobID := by
  cases move with
  | quiet _ _ _ control =>
    generalize routine.pc = before at control
    cases control <;> cases pending
  | retried | noted | jobRecorded | legacyClaim | illegalClaim | claimCommitted => cases pending
  | claimPrepared _ before _ _ written =>
    cases pending
    exact ⟨by rw [before]; rfl, by rw [written]; rfl⟩
  | reportPrepared _ _ _ _ _ _ _ _ phase atStart _ written =>
    cases phase <;> cases pending <;>
      exact ⟨by rw [atStart]; rfl, by rw [written]; rfl⟩
  | reportCommitted _ _ _ _ _ _ phase =>
    cases phase <;> cases pending

end

variable {ref : Nat} {position : Position} {exec : Exec} {result : Outcome Input}

theorem preparing_access (answers : Answers) (prepares : preparing routine.pc = true) :
    routineAccess ref position routine answers = .quiet := by
  unfold routineAccess
  cases pc : routine.pc <;> rw [pc] at prepares <;> first | rfl | cases prepares

theorem routine_flight (found : objectTask sched ref position = some task)
    (owner : preparing routine.pc = true → numbered = some task.jobID)
    (stepped : goroutineStep sched routine task answers now = some progress) :
    Flight sched (updateTask progress.sched ref position progress.task)
      (routineAccess ref position routine answers) numbered
      ((pendingRecord routine.pc).toList : List _)
      ((pendingRecord progress.routine.pc).toList : List _) := by
  have move := goroutine_move stepped
  cases waits : routinePending ref position routine.pc with
  | some prepared =>
    have record : pendingRecord routine.pc = some prepared.write.record := by
      rw [routine_pending_record ref position, waits]
      rfl
    have commits : routineAccess ref position routine answers = .commit prepared answers.fault := by
      unfold routineAccess
      cases pc : routine.pc <;> rw [pc] at waits <;> cases waits <;> rfl
    rw [record, goroutine_lands move record, commits]
    exact .committed prepared answers.fault le_rfl
  | none =>
    have empty : pendingRecord routine.pc = none := by
      rw [routine_pending_record ref position, waits]
      rfl
    rw [empty]
    cases flies : pendingRecord progress.routine.pc with
    | none =>
      refine flight_empty fun prepared fault commits => ?_
      have uses : accessItem (routineAccess ref position routine answers) =
          some (.pending prepared) := by
        rw [commits]
        rfl
      obtain ⟨_, _, pending⟩ := routine_access_item uses
      rw [waits] at pending
      cases pending
    | some =>
      obtain ⟨prepares, jobID⟩ := goroutine_prepares move flies
      rw [routine_pending_record ref position] at flies
      obtain ⟨prepared, pending, rfl⟩ := map_eq_some_iff.mp flies
      have fresh := routine_prepares found move pending
      rw [owner prepares, ← jobID]
      exact .prepared prepared.write.record (preparing_access answers prepares)
        fresh.sequence fresh.counted le_rfl

theorem flat_map_set {Holder Record : Type} (held : Holder → List Record) (holders : List Holder)
    (index : Nat) (old new : Holder) (found : holders[index]? = some old) :
    ∃ others : Multiset Record,
      (holders.flatMap held : List Record) = others + (held old : Multiset Record) ∧
      ((holders.set index new).flatMap held : List Record) =
        others + (held new : Multiset Record) := by
  induction holders generalizing index with
  | nil => cases found
  | cons first rest ih =>
    cases index with
    | zero =>
      cases found
      refine ⟨(rest.flatMap held : List Record), ?_, ?_⟩ <;>
        simp only [set_cons_zero, flatMap_cons, ← coe_add, add_comm]
    | succ index =>
      obtain ⟨others, before, later⟩ := ih index found
      refine ⟨(held first : Multiset Record) + others, ?_, ?_⟩ <;>
        simp only [set_cons_succ, flatMap_cons, ← coe_add, before, later, add_assoc]

theorem exec_step_carries_nothing {oracle : Oracle} {pc : Option ExecPC}
    (stepped : execStep sched exec oracle now = some (after, pc)) :
    carried (pc.map fun pc => (.exec { exec with pc := pc } : Thread Input)) = [] := by
  obtain ⟨_, _, current⟩ := exec
  cases current with
  | queueing =>
    cases stepped
    split_ifs <;> rfl
  | openStage =>
    cases stepped
    split
    · rfl
    · split_ifs <;> rfl
  | inStage =>
    simp only [execStep] at stepped
    split at stepped
    · cases stepped
    · split_ifs at stepped
      cases stepped
      split <;> rfl
  | _ =>
    cases stepped
    rfl

theorem in_stage_flight {stage : Nat} {run : StageRun Goroutine}
    (inStage : exec.pc = .inStage stage run) :
    inFlight (.exec exec : Thread Input) = run.workers.flatMap workerRecords := by
  obtain ⟨_⟩ := exec
  cases inStage
  rfl

theorem finish_idle {index : Nat} {result : Option GoError} {run after : StageRun Goroutine}
    (finished : finish index result run = some after) :
    ∃ worker, workerRecords worker = [] ∧
      after = { run with workers := run.workers.set index worker } := by
  refine ⟨_, ?_, finish_cases finished⟩
  cases result <;> rfl

section

variable (sched)

theorem work_flight (exec : Exec) (stage : Nat) (run worked : StageRun Goroutine) (index : Nat)
    (answers : Answers) (now : Time) {events : List TaskEvent}
    (inStage : exec.pc = .inStage stage run)
    (stepped : workStep sched exec.ref stage run index answers now = some (after, worked, events)) :
    Flight sched after (access sched (.exec exec) (.work index answers))
      (numbers sched (.exec exec) (.work index answers)) (inFlight (.exec exec : Thread Input))
      (worked.workers.flatMap workerRecords : List _) := by
  rw [in_stage_flight inStage]
  unfold workStep at stepped
  split at stepped
  · rename_i routine task running found
    have here : access sched (.exec exec) (.work index answers) =
        routineAccess exec.ref ⟨stage, index⟩ routine answers := by
      simp [access, workAccess, inStage, running]
    have owner : preparing routine.pc = true →
        numbers sched (.exec exec) (.work index answers) = some task.jobID := by
      intro prepares
      simp [here, preparing_access answers prepares, workNumbers, inStage, running, prepares, found]
    rw [here]
    split at stepped
    · rename_i err finished
      obtain ⟨_, finishes, same⟩ := map_eq_some_iff.mp stepped
      cases same
      obtain ⟨worker, idle, rfl⟩ := finish_idle finishes
      obtain ⟨others, before, later⟩ := flat_map_set workerRecords run.workers index _ worker
        running
      rw [before, later, idle]
      refine flight_frame others ?_
      refine flight_empty ?_
      simp [routineAccess, finished, routinePending]
    · obtain ⟨progress, moved, same⟩ := map_eq_some_iff.mp stepped
      cases same
      obtain ⟨others, before, later⟩ := flat_map_set workerRecords run.workers index _
        (.running progress.routine) running
      rw [before, later]
      exact flight_frame others (routine_flight found owner moved)
  · cases stepped

theorem exec_flight (exec : Exec) (event : Event) (now : Time)
    (stepped : execEvent sched exec event now = some result) :
    Flight sched result.sched (access sched (.exec exec) event)
      (numbers sched (.exec exec) event) (inFlight (.exec exec : Thread Input))
      (carried result.thread : List _) := by
  cases exec_move stepped with
  | stepped _ _ _ moved =>
    dsimp only
    rw [exec_step_carries_nothing moved]
    refine flight_empty fun prepared fault (commits : execAccess sched exec = _) => ?_
    have uses := exec_access_item sched exec
    rw [commits] at uses
    cases uses
  | cancelled =>
    refine .kept (by rintro _ _ ⟨⟩) (le_of_eq ?_)
    obtain ⟨_, cancelled, pc⟩ := exec
    cases pc <;> rfl
  | launched _ _ _ _ _ atStage _ launches =>
    rw [in_stage_flight atStage]
    refine .kept (by rintro _ _ ⟨⟩) (le_of_eq ?_)
    rcases launch_cases launches with ⟨_, ⟨err, rfl⟩ | ⟨_, rfl⟩⟩
    · rfl
    · simp [outcome, carried, workerRecords, startGoroutine, pendingRecord]
  | worked stage run worked index answers _ _ atStage moved =>
    exact work_flight sched exec stage run worked index answers now atStage moved
  | reported _ run _ index _ atStage reports =>
    obtain ⟨err, reporting, rfl⟩ := report_cases reports
    rw [in_stage_flight atStage]
    obtain ⟨_, before, later⟩ := flat_map_set workerRecords run.workers index _
      (.returned (some err)) reporting
    refine .kept (by rintro _ _ ⟨⟩) (le_of_eq ?_)
    exact later.trans before.symm

theorem thread_flight (thread : Thread Input) (event : Event) (now : Time)
    (stepped : threadStep sched thread event now = some result) :
    Flight sched result.sched (access sched thread event) (numbers sched thread event)
      (inFlight thread) (carried result.thread : List _) := by
  cases thread with
  | submit ref pc =>
    cases event <;> cases stepped
    exact submit_flight sched ref pc _ now
  | loop pc | resume _ _ pc =>
    cases event <;> cases stepped
    simp only [outcome, loop_carries_nothing, resume_carries_nothing]
    refine flight_empty ?_
    cases pc <;> rintro _ _ ⟨⟩
  | entering =>
    cases event <;> cases stepped
    exact flight_empty (by rintro _ _ ⟨⟩)
  | exec exec => exact exec_flight sched exec event now stepped
  | pass pass =>
    cases event <;> cases stepped
    · rename_i oracle
      have empty : carried ((passStep sched pass oracle now).2.map fun pc =>
        (.pass { pass with pc := pc } : Thread Input)) = [] := by
        cases (passStep sched pass oracle now).2 <;> rfl
      simp only [outcome]
      rw [empty]
      refine flight_empty fun prepared fault => ?_
      change passAccess sched pass.pc ≠ _
      cases pass.pc <;> simp only [passAccess, ne_eq, reduceCtorEq, not_false_eq_true]
      all_goals split_ifs <;> rintro ⟨⟩
    · exact flight_empty (by rintro _ _ ⟨⟩)

end

theorem machine_flight {after : Machine Input} (taken : machineStep machine action = some after) :
    Flight machine.sched after.sched (actionAccess machine action) (actionNumbers machine action)
      (machineFlight machine) (machineFlight after : List _) := by
  cases action with
  | tick =>
    cases taken
    exact .kept (by rintro _ _ ⟨⟩) le_rfl
  | submit | dequeue =>
    obtain ⟨_, _, rfl⟩ := map_eq_some_iff.mp taken
    refine .kept (by rintro _ _ ⟨⟩) (le_of_eq ?_)
    simp [spawn, carried]
  | resume | reconcile =>
    cases taken
    refine .kept (by rintro _ _ ⟨⟩) (le_of_eq ?_)
    simp [spawn, carried]
  | thread pid event =>
    obtain ⟨thread, lives, stepped⟩ := bind_eq_some_iff.mp taken
    obtain ⟨result, moved, same⟩ := bind_eq_some_iff.mp stepped
    cases same
    have position : machine.threads[pid]? = some (some thread) := by
      simpa [threadOf, join_eq_some_iff] using lives
    obtain ⟨others, before, later⟩ := flat_map_set carried machine.threads pid _ result.thread
      position
    simp only [actionAccess, actionNumbers, lives, bind_some]
    rw [machineFlight, before, machineFlight, resumed, later]
    exact flight_frame others (thread_flight machine.sched thread event machine.now moved)

/-- The numbers that are in the log of a job or in flight for it. -/
def issued (sched : Scheduler Input) (flight : List TransitionRecord) (jobID : String) :
    List Nat :=
  (sched.store.transitions jobID ++
    flight.filter fun record => decide (record.jobID = jobID)).map (·.sequenceID)

/-- The job's counter is not behind a number that was issued for it. -/
def Covered (sched : Scheduler Input) (flight : List TransitionRecord) (jobID : String) : Prop :=
  ∀ number ∈ issued sched flight jobID, number ≤ sched.jobSequences jobID

/-- A step issues nothing new for the job, or exactly its next number. -/
inductive Issues (sched after : Scheduler Input) (numbered : Option String) (jobID : String)
    (before later : List Nat) : Prop where
  | nothing (fewer : (later : Multiset Nat) ≤ before)
  | next (named : numbered = some jobID)
      (counted : after.jobSequences jobID = nextSequence sched jobID)
      (grown : (later : Multiset Nat) ≤ nextSequence sched jobID ::ₘ (before : Multiset Nat))

/-- The records behind the issued numbers of a job. -/
def records (log : List TransitionRecord) (flight : Multiset TransitionRecord) (jobID : String) :
    Multiset TransitionRecord :=
  log + flight.filter (·.jobID = jobID)

omit [GoRuntime Input] in
theorem coe_issued (sched : Scheduler Input) (flight : List TransitionRecord) (jobID : String) :
    (issued sched flight jobID : Multiset Nat) =
      (records (sched.store.transitions jobID) flight jobID).map (·.sequenceID) := by
  simp [issued, records]

theorem records_le (log : List TransitionRecord) {before later : Multiset TransitionRecord}
    (fewer : later ≤ before) (jobID : String) : records log later jobID ≤ records log before jobID :=
  add_le_add_right (filter_le_filter _ fewer) _

section

variable (log : List TransitionRecord) (flight : Multiset TransitionRecord)

theorem records_cons_own (record : TransitionRecord) :
    records log (record ::ₘ flight) record.jobID = record ::ₘ records log flight record.jobID := by
  simp [records]

theorem records_cons_other (other : record.jobID ≠ jobID) :
    records log (record ::ₘ flight) jobID = records log flight jobID := by
  simp [records, other]

end

theorem records_appended (store : TransitionStore) (record : TransitionRecord)
    (flight : Multiset TransitionRecord) (jobID : String) :
    records ((appended store record).transitions jobID) flight jobID =
      records (store.transitions jobID) (record ::ₘ flight) jobID := by
  rw [appended_transitions]
  split_ifs with same
  · subst same
    rw [records_cons_own, records, records, coe_eq_coe.mpr
      (SequencedLog.append_perm TransitionRecord.sequenceID _ record), ← cons_coe,
      cons_add]
  · rw [records_cons_other _ _ (Ne.symm same)]

section

omit [GoRuntime Input]

theorem issues_nothing
    (fewer : records (after.store.transitions jobID) later jobID ≤ records (sched.store.transitions
      jobID) before jobID) :
    Issues sched after numbered jobID (issued sched before jobID) (issued after later jobID) := by
  refine .nothing ?_
  rw [coe_issued, coe_issued]
  exact map_le_map fewer

theorem issues_record (record : TransitionRecord)
    (number : record.sequenceID = nextSequence sched record.jobID)
    (counted : after.jobSequences record.jobID = record.sequenceID)
    (grown : records (after.store.transitions jobID) later jobID ≤ records (sched.store.transitions
      jobID) (record ::ₘ (before : Multiset _)) jobID) :
    Issues sched after (some record.jobID) jobID (issued sched before jobID)
      (issued after later jobID) := by
  by_cases same : record.jobID = jobID
  · subst same
    refine .next rfl (counted.trans number) ?_
    rw [records_cons_own] at grown
    rw [coe_issued, coe_issued, ← number]
    simpa only [Multiset.map_cons] using
      map_le_map (f := TransitionRecord.sequenceID) grown
  · rw [records_cons_other _ _ same] at grown
    exact issues_nothing grown

theorem issues_move {access : Access} (move : StoreMove sched access after)
    (flight : Flight sched after access numbered before later)
    (named : ∀ ref job, access = .jobTransition ref → sched.objects ref = some job → numbered = some
      job.id) (jobID : String) :
    Issues sched after numbered jobID (issued sched before jobID) (issued after later jobID) := by
  cases move with
  | unchanged _ store =>
    cases flight with
    | kept _ fewer =>
      refine issues_nothing ?_
      rw [store]
      exact records_le _ fewer jobID
    | prepared record _ number counted grown =>
      refine issues_record record number counted ?_
      rw [store]
      exact records_le _ grown jobID
    | committed _ _ landed =>
      refine issues_nothing ?_
      rw [store]
      exact records_le _ ((le_cons_self _ _).trans landed) jobID
  | job ref job transition newState errorSummary now found _ _ store counted =>
    cases flight with
    | kept _ fewer =>
      rw [named ref job rfl found]
      refine issues_record (jobRecord (nextSequence sched job.id) job transition newState
        errorSummary now) rfl counted ?_
      rw [store, upsert_job_transitions, records_appended]
      exact records_le _ (cons_le_cons _ fewer) jobID
    | prepared _ quiet => cases quiet
  | task prepared _ _ _ _ transitions =>
    cases flight with
    | kept uncommitted => exact absurd rfl (uncommitted prepared none)
    | prepared _ quiet => cases quiet
    | committed _ _ landed =>
      refine issues_nothing ?_
      rw [transitions, records_appended]
      exact records_le _ landed jobID
  | forced _ _ store =>
    cases flight with
    | kept _ fewer =>
      refine issues_nothing ?_
      rw [store, upsert_job_transitions]
      exact records_le _ fewer jobID
    | prepared _ quiet => cases quiet

section

variable
  (issues : Issues sched after numbered jobID (issued sched before jobID) (issued after later
    jobID))

include issues

theorem issues_distinct (covered : numbered = some jobID → Covered sched before jobID)
    (distinct : (issued sched before jobID).Nodup) : (issued after later jobID).Nodup := by
  rw [← coe_nodup] at distinct ⊢
  cases issues with
  | nothing fewer => exact nodup_of_le fewer distinct
  | next named _ grown =>
    refine nodup_of_le grown (Multiset.nodup_cons.mpr ⟨?_, distinct⟩)
    intro reused
    exact absurd (covered named _ (mem_coe.mp reused)) (Nat.not_succ_le_self _)

theorem issues_covered (monotone : sched.jobSequences jobID ≤ after.jobSequences jobID)
    (covered : Covered sched before jobID) : Covered after later jobID := by
  intro number member
  rw [← mem_coe] at member
  cases issues with
  | nothing fewer =>
    exact (covered number (mem_coe.mp (mem_of_le fewer member))).trans monotone
  | next _ counted grown =>
    rcases Multiset.mem_cons.mp (mem_of_le grown member) with rfl | old
    · exact counted.ge
    · exact (covered number (mem_coe.mp old)).trans monotone

end

end

theorem action_numbers_named (ref : Nat) (job : Job Input)
    (records : actionAccess machine action = .jobTransition ref)
    (found : machine.sched.objects ref = some job) :
    actionNumbers machine action = some job.id := by
  cases action with
  | thread =>
    simp only [actionAccess] at records
    split at records
    · rename_i thread lives
      simp [actionNumbers, lives, records, found]
    · cases records
  | _ => cases records

theorem machine_issues {after : Machine Input} (move : MachineMove machine action after)
    (taken : machineStep machine action = some after) (jobID : String) :
    Issues machine.sched after.sched (actionNumbers machine action) jobID
      (issued machine.sched (machineFlight machine) jobID)
      (issued after.sched (machineFlight after) jobID) :=
  issues_move (move_store move.move) (machine_flight taken) action_numbers_named jobID

end Dagens.Scheduler.InFlight
