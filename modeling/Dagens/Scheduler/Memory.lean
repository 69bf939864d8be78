import Dagens.Scheduler.Operations

/-!
# Objects that keep their tasks

A job object changes in place while threads hold references and positions into
it. `Kept` says that it stays the same job with the same tasks, `Steady` that a
step moved no lifecycle state of a job, wrote nothing to the store and took no
sequence number.
-/

namespace Dagens.Scheduler.Memory

open Lifecycle GoSupport Transitions Reconcile Operations Function Option

variable {Input : Type}

/-- A task keeps its id, and its job's id once it has one. -/
structure TaskKept (before after : Task Input) : Prop where
  id : after.id = before.id
  jobID : before.jobID ≠ "" → after.jobID = before.jobID

/-- The same job with the same tasks at the same positions. -/
structure Kept (before after : Job Input) : Prop where
  id : after.id = before.id
  tasks : ∀ position, Option.Rel TaskKept (taskAt before position) (taskAt after position)

theorem task_kept_refl (task : Task Input) : TaskKept task task := ⟨rfl, fun _ => rfl⟩

theorem TaskKept.trans {first middle last : Task Input} (left : TaskKept first middle)
    (right : TaskKept middle last) : TaskKept first last :=
  ⟨right.id.trans left.id, fun owned => by
    have same := left.jobID owned
    exact (right.jobID (same ▸ owned)).trans same⟩

theorem rel_refl {Value : Type} {relation : Value → Value → Prop}
    (reflexive : ∀ value, relation value value) (value : Option Value) :
    Option.Rel relation value value := by
  cases value with
  | none => exact .none
  | some value => exact .some (reflexive value)

theorem rel_trans {Value : Type} (relation : Value → Value → Prop)
    (transitive : ∀ first middle last, relation first middle → relation middle last →
      relation first last) {first middle last : Option Value}
    (left : Option.Rel relation first middle) (right : Option.Rel relation middle last) :
    Option.Rel relation first last := by
  cases left with
  | none => exact right
  | some kept =>
    cases right with
    | some later => exact .some (transitive _ _ _ kept later)

section Related

variable {Value : Type} {relation : Value → Value → Prop} {left right : Option Value} {value : Value}

theorem rel_find (related : Option.Rel relation left right) (found : left = some value) :
    ∃ later, right = some later ∧ relation value later := by
  subst found
  cases related with
  | some same => exact ⟨_, rfl, same⟩

theorem rel_origin (related : Option.Rel relation left right) (found : right = some value) :
    ∃ earlier, left = some earlier ∧ relation earlier value := by
  subst found
  cases related with
  | some same => exact ⟨_, rfl, same⟩

end Related

variable {before after : Job Input} {position : Position} {task old : Task Input}
  {sched : Scheduler Input} {ref : Nat}

theorem kept_of_stages (id : after.id = before.id) (stages : after.stages = before.stages) :
    Kept before after := by
  refine ⟨id, fun position => ?_⟩
  rw [show taskAt after position = taskAt before position by simp [taskAt, stages]]
  exact rel_refl task_kept_refl _

theorem kept_refl (job : Job Input) : Kept job job := kept_of_stages rfl rfl

variable {first middle last job : Job Input}

theorem Kept.trans (left : Kept first middle) (right : Kept middle last) : Kept first last :=
  ⟨right.id.trans left.id, fun position =>
    rel_trans TaskKept (fun _ _ _ => TaskKept.trans) (left.tasks position) (right.tasks position)⟩

section

variable (job)

theorem task_at_set_self (position : Position) (task : Task Input)
    (found : taskAt job position = some old) :
    taskAt (setTaskAt job position task) position = some task := by
  obtain ⟨_, atStage, atTask⟩ := bind_eq_some_iff.mp found
  have inside := (List.getElem?_eq_some_iff.mp atTask).1
  simp [taskAt, setTaskAt, atStage, inside]

theorem task_at_set_ne (position other : Position) (task : Task Input) (ne : other ≠ position) :
    taskAt (setTaskAt job position task) other = taskAt job other := by
  simp only [taskAt, setTaskAt, List.getElem?_modify]
  cases job.stages[other.stage]? with
  | none => rfl
  | some =>
    by_cases sameStage : position.stage = other.stage
    · have elsewhere : position.index ≠ other.index := by
        intro _
        apply ne
        cases position
        cases other
        simp_all
      simp [sameStage, List.getElem?_set_ne elsewhere]
    · simp [sameStage]

theorem set_task_same (position : Position) (task : Task Input)
    (found : taskAt job position = some task) : setTaskAt job position task = job := by
  obtain ⟨stage, atStage, atTask⟩ := bind_eq_some_iff.mp found
  have stages : job.stages.modify position.stage (fun stage =>
    { stage with tasks := stage.tasks.set position.index task }) = job.stages := by
    refine List.ext_getElem? fun number => ?_
    rw [List.getElem?_modify]
    by_cases same : position.stage = number
    · subst same
      have tasks : stage.tasks.set position.index task = stage.tasks := by
        refine List.ext_getElem? fun index => ?_
        rw [List.getElem?_set]
        split_ifs with here inside
        · rw [← here, atTask]
        · rw [← here]
          exact (List.getElem?_eq_none (not_lt.mp inside)).symm
        · rfl
      simp [atStage, tasks]
    · simp [same]
  simp [setTaskAt, stages]

end

theorem kept_set_task (found : taskAt job position = some old) (kept : TaskKept old task) :
    Kept job (setTaskAt job position task) := by
  refine ⟨rfl, fun other => ?_⟩
  by_cases same : other = position
  · subst same
    rw [found, task_at_set_self job other task found]
    exact .some kept
  · rw [task_at_set_ne job position other task same]
    exact rel_refl task_kept_refl _

structure Unmoved (before after : Job Input) : Prop where
  kept : Kept before after
  state : after.lifecycleState = before.lifecycleState

theorem unmoved_refl (job : Job Input) : Unmoved job job := ⟨kept_refl job, rfl⟩

theorem Unmoved.trans (left : Unmoved first middle) (right : Unmoved middle last) :
    Unmoved first last :=
  ⟨left.kept.trans right.kept, right.state.trans left.state⟩

/-- Nothing changes but the queue, the quarantine and data of objects other
than their lifecycle states. -/
structure Steady (before after : Scheduler Input) : Prop where
  config : after.config = before.config
  store : after.store = before.store
  jobs : after.jobs = before.jobs
  nextRef : after.nextRef = before.nextRef
  sequences : after.jobSequences = before.jobSequences
  objects : ∀ ref, Option.Rel Unmoved (before.objects ref) (after.objects ref)

theorem steady_of_objects {before after : Scheduler Input} (config : after.config = before.config)
    (store : after.store = before.store) (jobs : after.jobs = before.jobs)
    (nextRef : after.nextRef = before.nextRef)
    (sequences : after.jobSequences = before.jobSequences)
    (objects : after.objects = before.objects) : Steady before after :=
  ⟨config, store, jobs, nextRef, sequences, fun _ => objects ▸ rel_refl unmoved_refl _⟩

theorem steady_refl (sched : Scheduler Input) : Steady sched sched :=
  steady_of_objects rfl rfl rfl rfl rfl rfl

theorem Steady.trans {first middle last : Scheduler Input} (left : Steady first middle)
    (right : Steady middle last) : Steady first last where
  config := right.config.trans left.config
  store := right.store.trans left.store
  jobs := right.jobs.trans left.jobs
  nextRef := right.nextRef.trans left.nextRef
  sequences := right.sequences.trans left.sequences
  objects := fun ref => rel_trans Unmoved (fun _ _ _ => Unmoved.trans) (left.objects ref)
    (right.objects ref)

theorem steady_set {later : Job Input} (found : sched.objects ref = some job)
    (same : Unmoved job later) :
    Steady sched (setObject sched ref later) := by
  refine ⟨rfl, rfl, rfl, rfl, rfl, fun other => ?_⟩
  by_cases here : other = ref
  · subst here
    simp only [setObject, update_self, found]
    exact .some same
  · simp only [setObject, update_of_ne here]
    exact rel_refl unmoved_refl _

theorem update_task_found (found : objectTask sched ref position = some old) (task : Task Input) :
    ∃ job, sched.objects ref = some job ∧ taskAt job position = some old ∧
      updateTask sched ref position task = setObject sched ref (setTaskAt job position task) := by
  obtain ⟨job, atRef, atPosition⟩ := bind_eq_some_iff.mp found
  exact ⟨job, atRef, atPosition, by simp [updateTask, atRef]⟩

theorem steady_update_task (found : objectTask sched ref position = some old)
    (kept : TaskKept old task) : Steady sched (updateTask sched ref position task) := by
  obtain ⟨_, atRef, atPosition, updated⟩ := update_task_found found task
  rw [updated]
  exact steady_set atRef ⟨kept_set_task atPosition kept, rfl⟩

theorem update_task_same (found : objectTask sched ref position = some task) :
    updateTask sched ref position task = sched := by
  obtain ⟨job, atRef, atPosition, updated⟩ := update_task_found found task
  rw [updated, set_task_same job position task atPosition, setObject, ← atRef, update_eq_self]

section

variable (sched ref)

theorem steady_update_status (status : JobStatus) (now : Time) :
    Steady sched (updateJobStatus sched ref status now) := by
  unfold updateJobStatus
  split
  · exact steady_refl sched
  · rename_i job found
    exact steady_set found ⟨kept_of_stages rfl rfl, rfl⟩

theorem steady_enqueue : Steady sched (enqueueJob sched ref).1 := by
  unfold enqueueJob
  split
  · exact steady_refl sched
  · split_ifs <;> exact steady_of_objects rfl rfl rfl rfl rfl rfl

theorem steady_dequeued : Steady sched (markJobDequeued sched ref) := by
  unfold markJobDequeued
  split <;> exact steady_of_objects rfl rfl rfl rfl rfl rfl

end

theorem steady_try_enqueue (sched : Scheduler Input) (jobID : String) :
    Steady sched (tryEnqueueExistingQueuedJob sched jobID).1 := by
  unfold tryEnqueueExistingQueuedJob
  split
  · exact steady_refl sched
  · split
    · exact steady_refl sched
    · split_ifs
      all_goals first | exact steady_refl sched | exact steady_enqueue sched _

theorem steady_past_quarantine {cleared : Scheduler Input} {jobID : String} {now : Time}
    (past : pastQuarantine sched jobID now = some cleared) : Steady sched cleared := by
  unfold pastQuarantine at past
  split at past
  · cases past
    exact steady_refl sched
  · split_ifs at past
    cases past
    exact steady_of_objects rfl rfl rfl rfl rfl rfl

theorem kept_resumed [GoRuntime Input] (context : List (String × GoRuntime.Value Input))
    (job : Job Input) : Kept job (resumedJob context job) := by
  refine ⟨rfl, fun position => ?_⟩
  have tasks : taskAt (resumedJob context job) position =
      (taskAt job position).map (resumedTask context) := by
    simp only [taskAt, resumedJob, List.getElem?_map]
    cases job.stages[position.stage]? <;> simp
  rw [tasks]
  cases taskAt job position with
  | none => exact .none
  | some => exact .some ⟨rfl, fun _ => rfl⟩

end Dagens.Scheduler.Memory
