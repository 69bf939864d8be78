import Dagens.Scheduler.ExecutedTasks

/-!
# Submitted tasks and recorded successes

The run loop executes what the store can rebuild of a job, not what was
submitted. A TASK_CREATED record whose write failed is not repeated, so the
rebuilt job lacks the task and its success says nothing about it. Where every
durable read finds a row for each submitted task, all objects of a job list
all its tasks, and a success means that each of them was executed.
-/

namespace Dagens.Scheduler.SubmittedTasks

open Lib.GuardedRun Lifecycle GoSupport Replay Recovery Transitions Reconcile Operations Memory
  Machine MachineMoves Wiring HeldRefs ExecutedTasks List Option Function AList

variable {Input : Type} [GoRuntime Input]

/-- Of a job recorded as succeeded by an execution, every submitted task was executed
and its executor call returned without error: there are as many such calls as tasks. -/
def NothingDropped (machine : Machine Input) : Prop :=
  ∀ job ∈ machine.submitted, job.id ∈ machine.succeeded →
    List.Subperm ((jobTasks job).map fun task => ⟨job.id, task.id⟩) machine.executed

/-- No two tasks of the job have one id, which is all that tells them apart in the store. -/
def distinctTasks (job : Job Input) : Bool := decide ((jobTasks job).map (·.id)).Nodup

/-- The store has a row of the job for every task that it was submitted with. -/
def rowsComplete (machine : Machine Input) (jobID : String) : Bool :=
  machine.submitted.all fun job =>
    decide (job.id ≠ jobID) || (jobTasks job).all fun task =>
      (listTasksByJob machine.sched.store jobID).any fun row => decide (row.taskID = task.id)

/-- The thread is about to read the durable state of the job. -/
def readsJob (sched : Scheduler Input) : Thread Input → Option String
  | .loop (.reading ref) => jobIDAt sched ref
  | .resume jobID _ .reading => some jobID
  | _ => none

def keepsTasks (machine : Machine Input) : Action Input → Bool
  | .thread pid event =>
    (threadOf machine pid).all fun thread =>
      ((readsJob machine.sched thread).all (rowsComplete machine)) &&
        match thread with
        | .exec exec => reportsErrors exec event
        | _ => true
  | .submit job => distinctTasks job
  | _ => true

def Lists (object : Job Input) (taskID : String) : Prop :=
  ∃ position task, taskAt object position = some task ∧ task.id = taskID

def ListsAll (object job : Job Input) : Prop := ∀ task ∈ jobTasks job, Lists object task.id

variable {object job : Job Input} {replayed : ReplayedJobState} {machine : Machine Input}
  {jobID : String} {thread : Thread Input} {sched : Scheduler Input} {event : Event}
  {result : Outcome Input} {pid : Nat} {task : Task Input}

section

omit [GoRuntime Input]

theorem lists_of_mem (member : task ∈ jobTasks object) :
    Lists object task.id := by
  obtain ⟨_, inStages, inTasks⟩ := mem_flatMap.mp member
  obtain ⟨number, atStage⟩ := mem_iff_getElem?.mp inStages
  obtain ⟨index, atTask⟩ := mem_iff_getElem?.mp inTasks
  exact ⟨⟨number, index⟩, task, by simp [taskAt, atStage, atTask], rfl⟩

variable {later : Job Input}

theorem lists_all_kept (kept : Kept object later) (lists : ListsAll object job) :
    ListsAll later job := by
  intro task member
  obtain ⟨position, _, atOld, named⟩ := lists task member
  obtain ⟨new, atNew, keptTask⟩ := rel_find (kept.tasks _) atOld
  exact ⟨position, new, atNew, keptTask.id.trans named⟩

theorem lists_all_of_stages (same : later.stages = object.stages) (lists : ListsAll object job) :
    ListsAll later job := by
  intro task member
  obtain ⟨position, old, atOld, named⟩ := lists task member
  exact ⟨position, old, by simpa [taskAt, same] using atOld, named⟩

end

variable {row : DurableTaskRecord} {now : Time} {later : Thread Input} {after : Machine Input}
  {rows : List DurableTaskRecord}

theorem recovered_lists (member : row ∈ rows) :
    Lists (buildRecoveredRuntimeJob replayed rows : Job Input) row.taskID := by
  have listed : (recoveredTask row : Task Input) ∈
      jobTasks (buildRecoveredRuntimeJob replayed rows : Job Input) := by
    rw [jobTasks, recovered_job_stages]
    refine mem_flatMap.mpr ⟨_, List.mem_map_of_mem (a := recoveredStageID row) ?_, ?_⟩
    · rw [recoveredStageIDs, mem_insertionSort, mem_dedup]
      exact List.mem_map_of_mem member
    · simp only [finishRecoveredStage, recoveredStage]
      exact List.mem_map_of_mem (by simp [rowsOfStage, member])
  exact lists_of_mem listed

theorem mem_seed_tasks (member : row ∈ rows) :
    row.taskID ∈ seedTasks rows := by
  suffices every : ∀ tasks : AList (fun _ : String => DurableTaskRecord), row.taskID ∈
      rows.foldl (fun tasks row => tasks.insert row.taskID (seededTask row)) tasks from every ∅
  have kept : ∀ (rest : List DurableTaskRecord)
      (tasks : AList (fun _ : String => DurableTaskRecord)), row.taskID ∈ tasks →
      row.taskID ∈ rest.foldl
        (fun tasks row => tasks.insert row.taskID (seededTask row)) tasks := by
    intro rest
    induction rest with
    | nil => exact fun tasks inside => inside
    | cons _ _ ih => exact fun tasks inside => ih _ ((mem_insert _).mpr (.inr inside))
  induction rows with
  | nil => cases member
  | cons _ rest ih =>
    intro tasks
    rcases mem_cons.mp member with rfl | inRest
    · exact kept rest _ ((mem_insert _).mpr (.inl rfl))
    · exact ih inRest _

theorem read_complete {ctxErr : Option GoError} (complete : rowsComplete machine jobID = true)
    (replays : replayJobState ctxErr machine.sched.store jobID = .ok replayed)
    (submitted : job ∈ machine.submitted) (named : job.id = jobID) (member : task ∈ jobTasks job) :
    ∃ row ∈ replayedRows replayed, row.taskID = task.id := by
  simp only [rowsComplete, List.all_eq_true, Bool.or_eq_true, List.any_eq_true,
    decide_eq_true_eq] at complete
  rcases complete job submitted with other | rows
  · exact absurd named other
  · obtain ⟨_, listed, same⟩ := rows task member
    obtain ⟨_, _, _, _, keyed, seeds⟩ := replay_job_state_ok replays
    have seeded := mem_seed_tasks listed
    obtain ⟨seed, isSeed⟩ := isSome_iff_exists.mp (lookup_isSome.mpr seeded)
    obtain ⟨found, isFound⟩ :=
      isSome_iff_exists.mp (lookup_isSome.mpr (seeds _ seed isSeed))
    refine ⟨found, List.mem_map.mpr ⟨⟨_, found⟩, mem_lookup_iff.mp isFound, rfl⟩, ?_⟩
    rw [keyed _ found isFound, same]

/-- The job whose read a thread is about to install. -/
def installing : Thread Input → Option (String × ReplayedJobState)
  | .loop (.installing jobID replayed) => some (jobID, replayed)
  | .resume jobID _ (.installing replayed) => some (jobID, replayed)
  | _ => none

/-- The job that a thread has found in the table and goes by. -/
def foundJob : Thread Input → Option String
  | .loop (.installing jobID _) => some jobID
  | .resume _ _ .lookup => none
  | .resume _ _ (.hydrating _) => none
  | .resume jobID _ _ => some jobID
  | _ => none

theorem installing_found (installs : installing thread = some (jobID, replayed)) :
    foundJob thread = some jobID := by
  cases thread with
  | loop pc | resume _ _ pc =>
    cases pc <;> cases installs
    rfl
  | _ => cases installs

theorem thread_installs (stepped : threadStep sched thread event now = some result)
    (isLater : result.thread = some later) (installs : installing later = some (jobID, replayed)) :
    readsJob sched thread = some jobID ∧
      ∃ ctxErr, replayJobState ctxErr sched.store jobID = .ok replayed := by
  cases thread with
  | submit =>
    cases event <;> cases stepped
    obtain ⟨next, _, rfl⟩ := map_eq_some_iff.mp isLater
    cases installs
  | loop pc =>
    cases event <;> cases stepped
    cases pc with
    | reading =>
      simp only [outcome, loopStep] at isLater
      cases isLater
      split at installs
      · cases installs
      · rename_i readID read isRead
        cases installs
        obtain ⟨_, found, reads⟩ := bind_eq_some_iff.mp isRead
        obtain ⟨_, durable, same⟩ := map_eq_some_iff.mp reads
        cases same
        exact ⟨by simp [readsJob, jobIDAt, found], _, read_durable_replays durable⟩
    | checking | authorizing | rechecking =>
      simp only [outcome, loopStep] at isLater
      split_ifs at isLater
      cases isLater
      cases installs
    | _ =>
      cases isLater
      cases installs
  | resume _ _ pc =>
    cases event <;> cases stepped
    rcases resume_goes_on isLater with ⟨_, rfl⟩ | ⟨ref, _, rfl⟩
    · cases pc with
        simp only [outcome, resumeStep] at isLater
      | reading =>
        obtain ⟨read, durable, same⟩ := map_eq_some_iff.mp isLater
        cases same
        cases installs
        exact ⟨rfl, _, read_durable_replays durable⟩
      | lookup =>
        split at isLater
        · cases isLater
          cases installs
        · obtain ⟨_, _, same⟩ := map_eq_some_iff.mp isLater
          cases same
          cases installs
      | checking =>
        split at isLater
        · cases isLater
          cases installs
        · split_ifs at isLater
          cases isLater
          cases installs
      | deciding | authorizing =>
        split_ifs at isLater
        all_goals cases isLater
        all_goals cases installs
      | _ => cases isLater <;> cases installs
    · cases installs
  | entering =>
    cases event <;> cases stepped
    cases isLater
    cases installs
  | exec =>
    obtain ⟨_, pc, rfl⟩ := exec_stays stepped isLater
    cases installs
  | pass =>
    cases event <;> cases stepped
    · obtain ⟨_, _, rfl⟩ := map_eq_some_iff.mp isLater
      cases installs
    · cases isLater
      cases installs

omit [GoRuntime Input] in
theorem id_known (wired : Wired sched) {ref : Nat} (named : jobIDAt sched ref = some jobID) :
    (sched.jobs jobID).isSome := by
  obtain ⟨job, found, rfl⟩ := map_eq_some_iff.mp named
  exact wired.heap ref job found

theorem hydrate_known {oracle : Oracle} (own : replayed.job.jobID = jobID) :
    ((hydrateJob sched jobID replayed oracle).1.jobs jobID).isSome := by
  unfold hydrateJob
  split
  · rename_i ref entry
    simp [entry]
  · subst own
    simp [seedJobSequence, registerJob, buildRecoveredRuntimeJob]

theorem thread_finds (wired : Wired sched)
    (own : ∀ jobID replayed, Holds thread (.reading jobID replayed) → replayed.job.jobID = jobID)
    (stepped : threadStep sched thread event now = some result)
    (isLater : result.thread = some later) (finds : foundJob later = some jobID) :
    foundJob thread = some jobID ∨ (sched.jobs jobID).isSome ∨
      (result.sched.jobs jobID).isSome := by
  cases thread with
  | loop pc =>
    -- The run loop knows a job by id only through the read it installs.
    have installs : ∃ replayed, installing later = some (jobID, replayed) := by
      cases event <;> cases stepped
      rcases loop_goes_on isLater with ⟨next, rfl⟩ | ⟨ref, _, rfl⟩
      · cases next <;> cases finds
        exact ⟨_, rfl⟩
      · cases finds
    obtain ⟨replayed, isInstalling⟩ := installs
    obtain ⟨reads, _⟩ := thread_installs stepped isLater isInstalling
    cases pc with
    | reading => exact .inr (.inl (id_known wired reads))
    | _ => cases reads
  | resume resumedID context pc =>
    cases event <;> cases stepped
    rcases resume_goes_on isLater with ⟨next, rfl⟩ | ⟨ref, _, rfl⟩
    · cases pc with
      | lookup =>
        simp only [outcome, resumeStep] at isLater
        split at isLater
        · rename_i ref entry
          cases isLater
          cases finds
          exact .inr (.inl (by simp [entry]))
        · obtain ⟨_, _, same⟩ := map_eq_some_iff.mp isLater
          cases same
          cases finds
      | hydrating replayed =>
        cases isLater
        cases finds
        exact .inr (.inr (hydrate_known (own _ _ (.hydrating _ context replayed))))
      | _ =>
        have same : resumedID = jobID := by
          cases next <;> cases finds <;> rfl
        subst same
        exact .inl rfl
    · cases finds
  | submit =>
    cases event <;> cases stepped
    obtain ⟨_, _, rfl⟩ := map_eq_some_iff.mp isLater
    cases finds
  | entering =>
    cases event <;> cases stepped
    cases isLater
    cases finds
  | exec =>
    obtain ⟨_, pc, rfl⟩ := exec_stays stepped isLater
    cases finds
  | pass =>
    cases event <;> cases stepped
    · obtain ⟨_, _, rfl⟩ := map_eq_some_iff.mp isLater
      cases finds
    · cases isLater
      cases finds

theorem access_installs (installs : access sched thread event = .install jobID replayed) :
    installing thread = some (jobID, replayed) := by
  have uses : accessItem (access sched thread event) = some (.reading jobID replayed) := by
    rw [installs]
    rfl
  cases thread with
  | loop pc | resume _ _ pc =>
    cases pc <;> cases event <;> cases installs
    rfl
  | submit | entering | exec | pass => cases access_holds sched _ event uses

/-- All objects of submitted jobs list all their tasks. -/
def Complete (submitted : List (Job Input)) (sched : Scheduler Input) : Prop :=
  ∀ job ∈ submitted, ∀ ref object, sched.objects ref = some object → object.id = job.id →
    ListsAll object job

/-- A read has a row for every task of the job it is of. -/
def ReadsAll (submitted : List (Job Input)) (jobID : String) (replayed : ReplayedJobState) :
    Prop :=
  ∀ job ∈ submitted, job.id = jobID → ∀ task ∈ jobTasks job,
    ∃ row ∈ replayedRows replayed, row.taskID = task.id

theorem complete_move {submitted : List (Job Input)} {after : Scheduler Input} {access : Access}
    (wired : Wired sched) (known : ∀ job ∈ submitted, (sched.jobs job.id).isSome)
    (complete : Complete submitted sched)
    (reads : ∀ jobID replayed, access = .install jobID replayed → replayed.job.jobID = jobID ∧
      ReadsAll submitted jobID replayed) (move : SchedMove sched access after) :
    Complete submitted after := by
  intro job member ref object found named
  rcases move_objects wired move with
    place | ⟨_, registers⟩ | ⟨jobID, replayed, rows, installs, permutes, rfl⟩
  · obtain ⟨earlier, before, kept⟩ := rel_origin (place.objects _) found
    exact lists_all_kept kept (complete job member ref earlier before (kept.id ▸ named))
  · rw [registers.objects] at found
    by_cases new : ref = sched.nextRef
    · subst new
      rw [update_self] at found
      cases found
      have isKnown := known job member
      rw [← named, registers.unknown] at isKnown
      cases isKnown
    · rw [update_of_ne new] at found
      exact complete job member ref object found named
  · rw [(install_places sched jobID replayed rows).objects] at found
    by_cases new : ref = sched.nextRef
    · subst new
      rw [update_self] at found
      cases found
      obtain ⟨own, all⟩ := reads jobID replayed installs
      have ofJob : job.id = jobID := by
        rw [← named, adopt_existing_id]
        exact own
      refine lists_all_of_stages (adopt_existing_stages _ _) fun task inJob => ?_
      obtain ⟨_, inRows, same⟩ := all job member ofJob task inJob
      rw [← same]
      exact recovered_lists (permutes.mem_iff.mpr inRows)
    · rw [update_of_ne new] at found
      exact complete job member ref object found named

/-- A process in which no submitted task has got lost. -/
structure Whole (machine : Machine Input) : Prop extends Rooted machine where
  known : ∀ job ∈ machine.submitted, (machine.sched.jobs job.id).isSome
  distinct : ∀ job ∈ machine.submitted, distinctTasks job = true
  complete : Complete machine.submitted machine.sched
  found : ∀ pid thread jobID, threadOf machine pid = some thread →
    foundJob thread = some jobID → (machine.sched.jobs jobID).isSome
  reads : ∀ pid thread jobID replayed, threadOf machine pid = some thread →
    installing thread = some (jobID, replayed) → ReadsAll machine.submitted jobID replayed
  done : ∀ pid exec, threadOf machine pid = some (.exec exec) →
    Done machine.sched machine.executed exec.ref exec.pc
  credited : ∀ jobID ∈ machine.succeeded, (machine.sched.jobs jobID).isSome ∧
    ∀ job ∈ machine.submitted, job.id = jobID → ∀ task ∈ jobTasks job,
      ⟨jobID, task.id⟩ ∈ machine.executed

theorem whole_exec_known (whole : Whole machine) {exec : Exec}
    (lives : threadOf machine pid = some (.exec exec)) :
    (jobIDAt machine.sched exec.ref).isSome :=
  whole.held pid _ exec.ref lives (mem_singleton_self _)

theorem whole_spawn {access : Access} (whole : Whole machine) (rooted : Rooted after)
    (move : SchedMove machine.sched access after.sched)
    (quiet : ∀ jobID replayed, access ≠ .install jobID replayed)
    (grown : after.threads = machine.threads ++ [some thread])
    (submitted : after.submitted = machine.submitted) (executed : after.executed = machine.executed)
    (succeeded : after.succeeded = machine.succeeded) (lost : foundJob thread = none)
    (idle : ∀ exec, thread ≠ .exec exec) : Whole after := by
  have stays : ∀ jobID, (machine.sched.jobs jobID).isSome → (after.sched.jobs jobID).isSome :=
    fun jobID => move_keeps_known whole.wired move
  refine ⟨rooted, ?_, ?_, ?_, ?_, ?_, ?_, ?_⟩
  · rw [submitted]
    exact fun job member => stays _ (whole.known job member)
  · rw [submitted]
    exact whole.distinct
  · rw [submitted]
    exact complete_move whole.wired whole.known whole.complete
      (fun jobID replayed installs => absurd installs (quiet jobID replayed)) move
  · intro pid found jobID lives finds
    rcases thread_of_spawn grown lives with old | rfl
    · exact stays _ (whole.found pid found jobID old finds)
    · rw [lost] at finds
      cases finds
  · intro pid found jobID replayed lives installs
    rw [submitted]
    rcases thread_of_spawn grown lives with old | rfl
    · exact whole.reads pid found jobID replayed old installs
    · rw [installing_found installs] at lost
      cases lost
  · intro pid exec lives
    rcases thread_of_spawn grown lives with old | new
    · rw [executed]
      exact done_mono (move_keys_kept whole.wired move (whole_exec_known whole old))
        (List.Subset.refl _) (whole.done pid exec old)
    · exact absurd new.symm (idle exec)
  · rw [submitted, executed, succeeded]
    exact fun jobID member => ⟨stays _ (whole.credited jobID member).1,
      (whole.credited jobID member).2⟩

/-- A submission: the new object lists all tasks of the job, and no other
object or thread knows its id. -/
theorem whole_submit (whole : Whole machine) (rooted : Rooted after)
    (distinct : distinctTasks job = true)
    (taken : machineStep machine (.submit job) = some after) :
    Whole after := by
  obtain ⟨admitted, admits, rfl⟩ := map_eq_some_iff.mp taken
  unfold admitJob at admits
  split_ifs at admits with isKnown room
  cases admits
  have unknown : machine.sched.jobs job.id = none := by simpa using isKnown
  have move : SchedMove machine.sched .quiet
      (registerJob { machine.sched with pendingEnqueue := machine.sched.pendingEnqueue + 1 }
        { job with status := .pending }) :=
    .registered { job with status := .pending } ⟨unknown, rfl, rfl, rfl, rfl, rfl, fun _ => le_rfl⟩
  have spawned : Whole (spawn machine
      (registerJob { machine.sched with pendingEnqueue := machine.sched.pendingEnqueue + 1 }
        { job with status := .pending })
      (.submit machine.sched.nextRef .recordSubmitted)) :=
    whole_spawn whole ⟨rooted.wired, rooted.own, rooted.held⟩ move (by rintro _ _ ⟨⟩) rfl rfl rfl
      rfl rfl (by rintro _ ⟨⟩)
  -- Nothing that is known goes by the new id.
  have fresh : ∀ jobID, (machine.sched.jobs jobID).isSome → job.id ≠ jobID := by
    rintro jobID known rfl
    rw [unknown] at known
    cases known
  refine ⟨rooted, ?_, ?_, ?_, spawned.found, ?_, spawned.done, ?_⟩
  · intro other member
    rcases List.mem_append.mp member with old | new
    · exact spawned.known other old
    · obtain rfl := mem_singleton.mp new
      simp [spawn, registerJob]
  · intro other member
    rcases List.mem_append.mp member with old | new
    · exact whole.distinct other old
    · obtain rfl := mem_singleton.mp new
      exact distinct
  · intro other member ref object found named
    rcases List.mem_append.mp member with old | new
    · exact spawned.complete other old ref object found named
    · obtain rfl := mem_singleton.mp new
      simp only [spawn, registerJob] at found
      by_cases here : ref = machine.sched.nextRef
      · subst here
        rw [update_self] at found
        cases found
        exact lists_all_of_stages rfl fun task inJob => lists_of_mem inJob
      · rw [update_of_ne here] at found
        exact absurd named.symm (fresh _ (whole.wired.heap ref object found))
  · intro pid thread jobID replayed lives installs other member named
    rcases List.mem_append.mp member with old | new
    · exact spawned.reads pid thread jobID replayed lives installs other old named
    · obtain rfl := mem_singleton.mp new
      rcases thread_of_spawn rfl lives with before | rfl
      · exact absurd named
          (fresh _ (whole.found pid thread jobID before (installing_found installs)))
      · cases installs
  · intro jobID member
    refine ⟨(spawned.credited jobID member).1, fun other inSubmitted named => ?_⟩
    rcases List.mem_append.mp inSubmitted with old | new
    · exact (spawned.credited jobID member).2 other old named
    · obtain rfl := mem_singleton.mp new
      exact absurd named (fresh _ (whole.credited jobID member).1)

section

variable (whole : Whole machine) (lives : threadOf machine pid = some thread)
  (stepped : threadStep machine.sched thread event machine.now = some result)

include whole lives stepped

/-- An execution that has just recorded the success of its job has executed all
tasks of its object. -/
theorem success_credited (kept : IDsKept machine.sched result.sched)
    (credits : jobID ∈ result.succeeded) :
    (machine.sched.jobs jobID).isSome ∧ ∀ job ∈ machine.submitted, job.id = jobID →
      ∀ task ∈ jobTasks job, ⟨jobID, task.id⟩ ∈ machine.executed := by
  have recorded : ∃ exec, thread = .exec exec ∧ exec.pc = .recordSuccess ∧
      jobIDAt result.sched exec.ref = some jobID := by
    cases thread with
    | exec exec =>
      refine ⟨exec, rfl, ?_⟩
      cases exec_move stepped with
      | stepped =>
        simp only [succeededJobs] at credits
        split at credits
        · rename_i job atPC found
          split_ifs at credits
          · obtain rfl := mem_singleton.mp credits
            exact ⟨atPC, by simp [jobIDAt, found]⟩
          · cases credits
        · cases credits
      | _ => cases credits
    | _ => cases event <;> cases stepped <;> cases credits
  obtain ⟨exec, rfl, atPC, named⟩ := recorded
  have before := kept.back (whole_exec_known whole lives) named
  refine ⟨id_known whole.wired before, fun job member ofJob task inJob => ?_⟩
  have done := whole.done pid exec lives
  rw [atPC] at done
  obtain ⟨object, found, sameID⟩ := map_eq_some_iff.mp before
  obtain ⟨position, _, atTask, sameTask⟩ :=
    whole.complete job member exec.ref object found (sameID.trans ofJob.symm) task inJob
  refine done position ⟨jobID, task.id⟩ ?_
  simp [keyAt, found, atTask, sameID, sameTask]

theorem thread_done
    (move : SchedMove machine.sched (access machine.sched thread event) result.sched)
    (reports : ∀ exec, thread = .exec exec → reportsErrors exec event = true) {later : Exec}
    (isLater : result.thread = some (.exec later)) :
    Done result.sched (machine.executed ++ result.executed) later.ref later.pc := by
  cases thread with
  | exec exec =>
    have keys := move_keys_kept whole.wired move (whole_exec_known whole lives)
    exact exec_done keys (whole.done pid exec lives) (reports exec rfl) stepped isLater
  | entering =>
    cases event <;> cases stepped
    cases isLater
    trivial
  | submit =>
    cases event <;> cases stepped
    obtain ⟨next, _, same⟩ := map_eq_some_iff.mp isLater
    cases same
  | loop =>
    cases event <;> cases stepped
    rcases loop_goes_on isLater with ⟨next, same⟩ | ⟨ref, _, same⟩ <;> cases same
  | resume =>
    cases event <;> cases stepped
    rcases resume_goes_on isLater with ⟨next, same⟩ | ⟨_, _, same⟩ <;> cases same
  | pass =>
    cases event <;> cases stepped
    · obtain ⟨_, _, same⟩ := map_eq_some_iff.mp isLater
      cases same
    · cases isLater

end

theorem whole_resumed (whole : Whole machine) (rooted : Rooted (resumed machine pid result))
    (lives : threadOf machine pid = some thread)
    (stepped : threadStep machine.sched thread event machine.now = some result)
    (move : SchedMove machine.sched (access machine.sched thread event) result.sched)
    (complete : ∀ jobID, readsJob machine.sched thread = some jobID → rowsComplete machine jobID =
      true) (reports : ∀ exec, thread = .exec exec → reportsErrors exec event = true) :
    Whole (resumed machine pid result) := by
  have stays : ∀ jobID, (machine.sched.jobs jobID).isSome → (result.sched.jobs jobID).isSome :=
    fun jobID => move_keeps_known whole.wired move
  have own : ∀ jobID replayed, Holds thread (.reading jobID replayed) →
      replayed.job.jobID = jobID :=
    fun jobID replayed holds => whole.own jobID replayed ⟨pid, thread, lives, holds⟩
  refine ⟨rooted, fun job member => stays _ (whole.known job member), whole.distinct,
    ?_, ?_, ?_, ?_, ?_⟩
  · refine complete_move whole.wired whole.known whole.complete ?_ move
    intro jobID replayed installs
    refine ⟨own jobID replayed (access_holds machine.sched thread event (by rw [installs]; rfl)),
      whole.reads pid thread jobID replayed lives (access_installs installs)⟩
  · intro other found jobID livesAfter finds
    rcases thread_of_resumed livesAfter with ⟨_, isLater⟩ | ⟨_, old⟩
    · rcases thread_finds whole.wired own stepped isLater finds with before | known | known
      · exact stays _ (whole.found pid thread jobID lives before)
      · exact stays _ known
      · exact known
    · exact stays _ (whole.found other found jobID old finds)
  · intro other found jobID replayed livesAfter installs
    rcases thread_of_resumed livesAfter with ⟨_, isLater⟩ | ⟨_, old⟩
    · obtain ⟨isRead, _, replays⟩ := thread_installs stepped isLater installs
      intro job member named task inJob
      exact read_complete (complete jobID isRead) replays member named inJob
    · exact whole.reads other found jobID replayed old installs
  · intro other exec livesAfter
    rcases thread_of_resumed livesAfter with ⟨_, isLater⟩ | ⟨_, old⟩
    · exact thread_done whole lives stepped move reports isLater
    · exact done_mono (move_keys_kept whole.wired move (whole_exec_known whole old))
        (subset_append_left _ _) (whole.done other exec old)
  · intro jobID member
    have credit : (machine.sched.jobs jobID).isSome ∧ ∀ job ∈ machine.submitted,
        job.id = jobID → ∀ task ∈ jobTasks job, ⟨jobID, task.id⟩ ∈ machine.executed := by
      rcases List.mem_append.mp member with old | new
      · exact whole.credited jobID old
      · exact success_credited whole lives stepped (move_ids_kept whole.wired move) new
    refine ⟨stays _ credit.1, fun job inSubmitted named task inJob => ?_⟩
    exact mem_append_left _ (credit.2 job inSubmitted named task inJob)

theorem whole_step (machine : Machine Input) (action : Action Input) (after : Machine Input)
    (whole : Whole machine) (keeps : keepsTasks machine action = true)
    (taken : machineStep machine action = some after) : Whole after := by
  have rooted := rooted_step whole.toRooted taken
  have move := (machine_move whole.own taken).move
  cases action with
  | tick =>
    cases taken
    exact ⟨rooted, whole.known, whole.distinct, whole.complete, whole.found, whole.reads,
      whole.done, whole.credited⟩
  | submit => exact whole_submit whole rooted keeps taken
  | dequeue =>
    obtain ⟨⟨_⟩, _, rfl⟩ := map_eq_some_iff.mp taken
    exact whole_spawn whole rooted move (by rintro _ _ ⟨⟩) rfl rfl rfl rfl rfl (by rintro _ ⟨⟩)
  | resume | reconcile =>
    cases taken
    exact whole_spawn whole rooted move (by rintro _ _ ⟨⟩) rfl rfl rfl rfl rfl (by rintro _ ⟨⟩)
  | thread =>
    obtain ⟨_, lives, stepped⟩ := bind_eq_some_iff.mp taken
    obtain ⟨_, moved, same⟩ := bind_eq_some_iff.mp stepped
    cases same
    simp only [keepsTasks, lives, all_some, Bool.and_eq_true] at keeps
    simp only [actionAccess, lives] at move
    refine whole_resumed whole rooted lives moved move ?_ ?_
    · intro jobID isRead
      simpa [isRead] using keeps.1
    · rintro _ rfl
      exact keeps.2

/-- A process with nothing in progress and no history of its own. -/
structure Unused (machine : Machine Input) : Prop extends Idle machine where
  submitted : machine.submitted = []
  executed : machine.executed = []
  succeeded : machine.succeeded = []

theorem unused_whole (machine : Machine Input) (unused : Unused machine) : Whole machine := by
  have idle := unused.toIdle
  refine ⟨idle_rooted idle, ?_, ?_, ?_, ?_, ?_, ?_, ?_⟩
  · simp [unused.submitted]
  · simp [unused.submitted]
  · intro job member
    rw [unused.submitted] at member
    cases member
  · exact fun pid thread jobID lives => absurd lives (nobody_lives idle pid thread)
  · exact fun pid thread jobID replayed lives => absurd lives (nobody_lives idle pid thread)
  · exact fun pid exec lives => absurd lives (nobody_lives idle pid _)
  · simp [unused.succeeded]

/-- In a run in which no job is submitted with two tasks of one id, every durable read
of a submitted job finds a row for each of its tasks and no goroutine drops an error
that the collector does not see otherwise, a recorded success covers all submitted
tasks. -/
theorem nothing_dropped_while_rows_complete (machine : Machine Input)
    (reached : Reaches machineStep (fun before action => keepsTasks before action = true) Unused
      machine) : NothingDropped machine := by
  have whole : Whole machine := reaches_invariant unused_whole whole_step reached
  intro job member succeeded
  have apart : ((jobTasks job).map (·.id)).Nodup := of_decide_eq_true (whole.distinct job member)
  have keys : (jobTasks job).map (fun task => (⟨job.id, task.id⟩ : TaskKey)) =
      ((jobTasks job).map (·.id)).map fun taskID => ⟨job.id, taskID⟩ := by simp
  refine List.Nodup.subperm ?_ fun key inKeys => ?_
  · rw [keys]
    refine apart.map fun one other same => ?_
    injection same
  · obtain ⟨task, inJob, rfl⟩ := List.mem_map.mp inKeys
    exact (whole.credited job.id succeeded).2 job member rfl task inJob

theorem sample_unused : Unused sampleMachine :=
  ⟨⟨(Ledger.fresh_grounded sampleMachine sample_fresh).wired, rfl⟩, rfl, rfl, rfl⟩

def faulty : Oracle := { calm with fault := some (.plain "connection lost") }

/-- A job of two tasks is submitted and executed; `first` answers the write of
the first task's TASK_CREATED record. -/
def succeedingRun (first : Oracle) (launches : List (Action SampleInput)) :
    List (Action SampleInput) :=
  [.submit (sampleJob ["task-1", "task-2"])] ++ steps 0 2 ++ [.thread 0 (.step first)] ++
    steps 0 5 ++ [.dequeue] ++ steps 1 11 ++ launches ++ steps 1 4

def bothTasks : List (Action SampleInput) :=
  [.thread 1 (.launch (.ok "node-1")), .thread 1 (.launch (.ok "node-1"))] ++
    works 1 0 12 answered ++ works 1 1 11 answered

/-- With both rows in the store the success covers both tasks. -/
theorem both_tasks_executed :
    ∃ machine, run machineStep sampleMachine (succeedingRun calm bothTasks) = some machine ∧
      machine.succeeded = ["job-1"] ∧ NothingDropped machine := by
  have ends : (run machineStep sampleMachine (succeedingRun calm bothTasks)).any
      (fun machine => decide (machine.succeeded = ["job-1"])) = true := by decide +kernel
  obtain ⟨machine, ran, succeeded⟩ := (Option.any_eq_true _ _).mp ends
  refine ⟨machine, ran, of_decide_eq_true succeeded, ?_⟩
  refine nothing_dropped_while_rows_complete machine ?_
  exact reaches_of_run (.start sample_unused) (succeedingRun calm bothTasks) (by decide +kernel)
    ran

def secondTaskOnly : List (Action SampleInput) :=
  [.thread 1 (.launch (.ok "node-1"))] ++ works 1 0 12 answered

/-- The first task has no row: it is not in the rebuilt job, and the job succeeds
without it. -/
theorem unrecorded_task_dropped :
    ∃ machine, run machineStep sampleMachine (succeedingRun faulty secondTaskOnly) =
        some machine ∧
      machine.succeeded = ["job-1"] ∧ machine.executed = [⟨"job-1", "task-2"⟩] ∧
      ¬ NothingDropped machine := by
  have ends : (run machineStep sampleMachine (succeedingRun faulty secondTaskOnly)).any
      (fun machine => decide (machine.succeeded = ["job-1"] ∧
        machine.executed = [⟨"job-1", "task-2"⟩] ∧
        machine.submitted.map (fun job => (job.id, (jobTasks job).map (·.id))) =
          [("job-1", ["task-1", "task-2"])])) = true := by decide +kernel
  obtain ⟨machine, ran, facts⟩ := (Option.any_eq_true _ _).mp ends
  obtain ⟨succeeded, executed, submitted⟩ := of_decide_eq_true facts
  refine ⟨machine, ran, succeeded, executed, fun nothing => ?_⟩
  obtain ⟨job, member, same⟩ := List.mem_map.mp (submitted ▸ mem_singleton_self
    ("job-1", ["task-1", "task-2"]))
  obtain ⟨named, tasks⟩ := Prod.mk.inj same
  have listed : "task-1" ∈ (jobTasks job).map (·.id) := by simp [tasks]
  obtain ⟨task, inJob, isFirst⟩ := List.mem_map.mp listed
  have covered := (nothing job member (by simp [succeeded, named])).subset
    (List.mem_map_of_mem inJob)
  rw [executed, named, isFirst] at covered
  revert covered
  decide

end Dagens.Scheduler.SubmittedTasks
