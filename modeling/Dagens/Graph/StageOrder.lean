import Dagens.Graph.Compiler
import Dagens.Scheduler.Submission

/-!
# Stage order across the durable refresh

The compiler orders the stages of a job by dependency. The store keeps a stage
id for each task and no order of stages, and the rebuild before execution sorts
the stages by their ids. So the executed job has the compiled order exactly
when the ids that `uuid.New` gave to the stages happen to be ascending.
-/

namespace Dagens.Graph.StageOrder

open Scheduler Scheduler.GoSupport Scheduler.Replay Scheduler.Recovery Scheduler.Transitions
  Scheduler.Process Scheduler.Submission Compiler List Function

variable {Input : Type}

/-- The stages have the same ids in the same order, each with the same tasks. -/
def SameStages (compiled executed : Job Input) : Prop :=
  List.Forall₂ (fun (stage rebuilt : Stage Input) => rebuilt.id = stage.id ∧
    (rebuilt.tasks.map (·.id)).Perm (stage.tasks.map (·.id))) compiled.stages executed.stages

/-- `task` was created for a unit of work of the graph node `nodeID`. -/
def TaskOf (graph : Graph) (nodeToStage : AList (fun _ : String => String)) (nodeID : String)
    (task : Scheduler.Task Input) : Prop :=
  nodeToStage.lookup nodeID = some task.stageID ∧
    ∃ node, graph.nodes.lookup nodeID = some node ∧ task.agentID ∈ (flattenNode node).map (·.id)

/-- Along every edge the work of the source is in a strictly earlier stage. -/
def EdgesForward (graph : Graph) (nodeToStage : AList (fun _ : String => String))
    (executed : Job Input) : Prop :=
  ∀ source target, target ∈ graph.getEdges source →
    ∀ (first second : Nat) (firstStage secondStage : Stage Input),
      executed.stages[first]? = some firstStage →
      executed.stages[second]? = some secondStage →
      ∀ work ∈ firstStage.tasks, ∀ later ∈ secondStage.tasks,
        TaskOf graph nodeToStage source work → TaskOf graph nodeToStage target later →
        first < second

/-- The place of every task: its id and the id of its stage. -/
def taskPlaces (job : Job Input) : List (String × String) :=
  job.stages.flatMap fun stage => stage.tasks.map fun task => (task.id, stage.id)

variable {runtime : Runtime} {graph : Graph} {input : Option Input} {sessionID : String}
  {compilation : Compilation Input} {job executed : Job Input} {replayed : ReplayedJobState}

section

variable (compiled : Compiled runtime graph input sessionID compilation)

include compiled

theorem compiled_ids_nodup : (compilation.job.stages.flatMap fun stage =>
      stage.id :: stage.tasks.map (·.id)).Nodup := by
  obtain ⟨count, ids⟩ := compiled.ids
  have distinct := (nodup_range (n := count)).map runtime.distinct
  rw [← ids] at distinct
  exact (nodup_cons.mp distinct).2

theorem compiled_ids_named (id : String)
    (member : id ∈ compilation.job.stages.flatMap fun stage => stage.id :: stage.tasks.map (·.id)) :
    id ≠ "" := by
  obtain ⟨count, ids⟩ := compiled.ids
  have drawn : id ∈ (List.range count).map runtime.newUUID := by
    rw [← ids]
    exact mem_cons_of_mem _ member
  obtain ⟨call, _, rfl⟩ := List.mem_map.mp drawn
  exact nonblank_ne_empty (runtime.named call)

end

theorem stage_ids_sublist (stages : List (Stage Input)) :
    (stages.map (·.id)).Sublist (stages.flatMap fun stage =>
      stage.id :: stage.tasks.map (·.id)) := by
  induction stages with
  | nil => exact .slnil
  | cons _ _ ih =>
    rw [map_cons, flatMap_cons, cons_append]
    exact (ih.trans (sublist_append_right _ _)).cons_cons _

theorem task_ids_sublist (stages : List (Stage Input)) :
    ((stages.flatMap (·.tasks)).map (·.id)).Sublist (stages.flatMap fun stage =>
      stage.id :: stage.tasks.map (·.id)) := by
  induction stages with
  | nil => exact .slnil
  | cons _ _ ih =>
    rw [flatMap_cons, map_append, flatMap_cons]
    exact ((List.Sublist.refl _).cons _).append ih

theorem compiled_submittable (compiled : Compiled runtime graph input sessionID compilation) :
    Submittable compilation.job where
  named := by
    rw [compiled.id]
    exact runtime.named 0
  submitted := compiled.submitted
  stages := by
    intro stage member
    have shape := compiled.stages stage member
    refine ⟨compiled_ids_named compiled _ (mem_flatMap.mpr ⟨stage, member, by simp⟩), ?_⟩
    intro task inTasks
    have made := shape.tasks task inTasks
    refine ⟨compiled_ids_named compiled _ (mem_flatMap.mpr ⟨stage, member, ?_⟩), made.job,
      made.stage, made.unset⟩
    exact mem_cons_of_mem _ (List.mem_map.mpr ⟨task, inTasks, rfl⟩)
  distinct := (compiled_ids_nodup compiled).sublist (task_ids_sublist _)

theorem mem_task_places {taskID stageID : String} :
    (taskID, stageID) ∈ taskPlaces job ↔
      ∃ stage ∈ job.stages, stage.id = stageID ∧ taskID ∈ stage.tasks.map (·.id) := by
  simp only [taskPlaces, mem_flatMap, List.mem_map, Prod.mk.injEq]
  constructor
  · rintro ⟨stage, member, task, inTasks, rfl, rfl⟩
    exact ⟨stage, member, rfl, task, inTasks, rfl⟩
  · rintro ⟨stage, member, rfl, task, inTasks, rfl⟩
    exact ⟨stage, member, task, inTasks, rfl, rfl⟩

theorem task_places_ids (job : Job Input) :
    (taskPlaces job).map Prod.fst = (jobTasks job).map (·.id) := by
  simp [taskPlaces, jobTasks, map_flatMap, comp_def]

def rowPlace (row : DurableTaskRecord) : String × String := (row.taskID, row.stageID)

theorem replayed_places [GoRuntime Input] (submittable : Submittable job)
    (keyed : RowsKeyed replayed.tasks)
    (members : ∀ taskID, taskID ∈ replayed.tasks ↔ taskID ∈ (jobTasks job).map (·.id))
    (payloads : ∀ task ∈ jobTasks job, ∃ row, replayed.tasks.lookup task.id = some row ∧ payload row
      = (task.stageID, task.agentID, task.agentName, marshalAgentInput task.input,
      task.partitionKey)) :
    ((replayed.tasks.entries.map (·.2)).map rowPlace).Perm (taskPlaces job) := by
  have rowIDs : ((replayed.tasks.entries.map (·.2)).map rowPlace).map Prod.fst =
      replayed.tasks.keys := by
    rw [List.map_map, List.map_map]
    refine map_congr_left fun entry member => ?_
    exact keyed entry.1 entry.2 (AList.mem_lookup_iff.mpr member)
  have rowsDistinct := List.Nodup.of_map Prod.fst (rowIDs ▸ replayed.tasks.keys_nodup)
  have placesDistinct : (taskPlaces job).Nodup :=
    List.Nodup.of_map Prod.fst (task_places_ids job ▸ submittable.distinct)
  rw [perm_ext_iff_of_nodup rowsDistinct placesDistinct]
  have placed : ∀ stage ∈ job.stages, ∀ task ∈ stage.tasks, ∃ row,
      replayed.tasks.lookup task.id = some row ∧ row.stageID = stage.id := by
    intro stage inStages task inTasks
    obtain ⟨row, found, same⟩ := payloads task (mem_flatMap.mpr ⟨stage, inStages, inTasks⟩)
    have stageID : row.stageID = task.stageID := congrArg Prod.fst same
    exact ⟨row, found, stageID.trans ((submittable.stages stage inStages).2 task inTasks).2.2.1⟩
  rintro ⟨_⟩
  rw [mem_task_places]
  constructor
  · intro member
    obtain ⟨row, inRows, place⟩ := List.mem_map.mp member
    obtain ⟨⟨key, value⟩, inEntries, rfl⟩ := List.mem_map.mp inRows
    have found := AList.mem_lookup_iff.mpr inEntries
    have named := keyed key value found
    simp only [rowPlace] at place
    cases place
    have inJob := (members key).mp (AList.lookup_isSome.mp (by rw [found]; rfl))
    obtain ⟨task, inTasks, same⟩ := List.mem_map.mp inJob
    obtain ⟨stage, inStages, inStage⟩ := mem_flatMap.mp inTasks
    obtain ⟨row, lookup, sameStage⟩ := placed stage inStages task inStage
    rw [same, found] at lookup
    cases lookup
    exact ⟨stage, inStages, sameStage.symm, List.mem_map.mpr ⟨task, inStage, same.trans named.symm⟩⟩
  · rintro ⟨stage, inStages, rfl, inTasks⟩
    obtain ⟨task, inStage, rfl⟩ := List.mem_map.mp inTasks
    obtain ⟨row, found, sameStage⟩ := placed stage inStages task inStage
    refine List.mem_map.mpr ⟨row, List.mem_map.mpr ⟨⟨task.id, row⟩,
      AList.mem_lookup_iff.mp found, rfl⟩, ?_⟩
    rw [rowPlace, keyed task.id row found, sameStage]

section Rebuilt

variable {job : Job Input} {rows : List DurableTaskRecord}
  (places : (rows.map rowPlace).Perm (taskPlaces job))
  (stagesNamed : ∀ stage ∈ job.stages, stage.id ≠ "")
  (stagesDistinct : (job.stages.map (·.id)).Nodup)
  (tasksDistinct : ((jobTasks job).map (·.id)).Nodup)

include places stagesNamed

theorem row_stage_kept : ∀ row ∈ rows, recoveredStageID row = row.stageID := by
  intro row member
  have place := places.mem_iff.mp (List.mem_map.mpr ⟨row, member, rfl⟩)
  obtain ⟨stage, inStages, same, _⟩ := mem_task_places.mp place
  rw [recoveredStageID, if_neg (same ▸ stagesNamed stage inStages)]

include stagesDistinct

theorem rebuilt_stage_ids (nonempty : ∀ stage ∈ job.stages, stage.tasks ≠ []) :
    recoveredStageIDs rows = (job.stages.map (·.id)).insertionSort (· ≤ ·) := by
  have same : (rows.map recoveredStageID).dedup.Perm (job.stages.map (·.id)) := by
    rw [perm_ext_iff_of_nodup (nodup_dedup _) stagesDistinct]
    intro stageID
    rw [mem_dedup]
    constructor
    · intro member
      obtain ⟨row, inRows, rfl⟩ := List.mem_map.mp member
      rw [row_stage_kept places stagesNamed row inRows]
      have place := places.mem_iff.mp (List.mem_map.mpr ⟨row, inRows, rfl⟩)
      obtain ⟨stage, inStages, same, _⟩ := mem_task_places.mp place
      exact List.mem_map.mpr ⟨stage, inStages, same⟩
    · intro member
      obtain ⟨stage, inStages, rfl⟩ := List.mem_map.mp member
      obtain ⟨task, inTasks⟩ := exists_mem_of_ne_nil _ (nonempty stage inStages)
      have place := places.mem_iff.mpr (mem_task_places.mpr
          ⟨stage, inStages, rfl, List.mem_map.mpr ⟨task, inTasks, rfl⟩⟩)
      obtain ⟨row, inRows, same⟩ := List.mem_map.mp place
      refine List.mem_map.mpr ⟨row, inRows, ?_⟩
      rw [row_stage_kept places stagesNamed row inRows]
      exact congrArg Prod.snd same
  refine List.Perm.eq_of_pairwise (fun first second _ _ => le_antisymm)
    (pairwise_insertionSort (· ≤ ·) _) (pairwise_insertionSort (· ≤ ·) _) ?_
  exact (perm_insertionSort _ _).trans (same.trans (perm_insertionSort _ _).symm)

include tasksDistinct

theorem rebuilt_stage_tasks (stage : Stage Input) (member : stage ∈ job.stages) :
    ((rowsOfStage stage.id rows).map (·.taskID)).Perm (stage.tasks.map (·.id)) := by
  have rowsNodup : (rows.map (·.taskID)).Nodup := by
    have ids : (rows.map rowPlace).map Prod.fst = rows.map (·.taskID) := by
      rw [List.map_map]
      rfl
    rw [← ids, (places.map Prod.fst).nodup_iff, task_places_ids]
    exact tasksDistinct
  have tasksNodup : (stage.tasks.map (·.id)).Nodup := by
    obtain ⟨_, _, split⟩ := append_of_mem member
    rw [jobTasks, split, flatMap_append, flatMap_cons, map_append, map_append] at tasksDistinct
    exact (nodup_append.mp (nodup_append.mp tasksDistinct).2.1).1
  have selectedNodup : ((rowsOfStage stage.id rows).map (·.taskID)).Nodup :=
    rowsNodup.sublist (filter_sublist.map _)
  rw [perm_ext_iff_of_nodup selectedNodup tasksNodup]
  intro taskID
  constructor
  · intro inRows
    obtain ⟨row, selected, rfl⟩ := List.mem_map.mp inRows
    obtain ⟨rowMember, here⟩ := mem_filter.mp selected
    rw [decide_eq_true_eq, row_stage_kept places stagesNamed row rowMember] at here
    have place : (row.taskID, row.stageID) ∈ taskPlaces job :=
      places.mem_iff.mp (List.mem_map.mpr ⟨row, rowMember, rfl⟩)
    obtain ⟨other, inStages, same, inTasks⟩ := mem_task_places.mp place
    have equal : other = stage :=
      inj_on_of_nodup_map stagesDistinct inStages member (same.trans here)
    exact equal ▸ inTasks
  · intro inTasks
    have place : (taskID, stage.id) ∈ rows.map rowPlace :=
      places.mem_iff.mpr (mem_task_places.mpr ⟨stage, member, rfl, inTasks⟩)
    obtain ⟨row, rowMember, same⟩ := List.mem_map.mp place
    simp only [rowPlace, Prod.mk.injEq] at same
    refine List.mem_map.mpr ⟨row, mem_filter.mpr ⟨rowMember, ?_⟩, same.1⟩
    rw [decide_eq_true_eq, row_stage_kept places stagesNamed row rowMember]
    exact same.2

end Rebuilt

theorem same_stages_ids {compiled : Job Input} (same : SameStages compiled executed) :
    executed.stages.map (·.id) = compiled.stages.map (·.id) := by
  unfold SameStages at same
  generalize compiled.stages = stages, executed.stages = rebuilt at same ⊢
  induction same with
  | nil => rfl
  | cons pair _ ih => rw [map_cons, map_cons, pair.1, ih]

theorem rebuilt_same_iff [GoRuntime Input] {rows : List DurableTaskRecord}
    (submittable : Submittable job) (stagesDistinct : (job.stages.map (·.id)).Nodup)
    (nonempty : ∀ stage ∈ job.stages, stage.tasks ≠ [])
    (places : (rows.map rowPlace).Perm (taskPlaces job))
    (rebuilt : executed.stages = (buildRecoveredRuntimeJob replayed rows : Job Input).stages) :
    SameStages job executed ↔ (job.stages.map (·.id)).Pairwise (· < ·) := by
  have named : ∀ stage ∈ job.stages, stage.id ≠ "" :=
    fun stage member => (submittable.stages stage member).1
  have ids := rebuilt_stage_ids places named stagesDistinct nonempty
  rw [recovered_job_stages] at rebuilt
  have executedIDs : executed.stages.map (·.id) = recoveredStageIDs rows := by
    rw [rebuilt, List.map_map]
    exact List.map_id _
  constructor
  · intro same
    have sorted : (job.stages.map (·.id)).Pairwise (· ≤ ·) := by
      rw [← same_stages_ids same, executedIDs, ids]
      exact pairwise_insertionSort (· ≤ ·) _
    exact (sorted.and stagesDistinct).imp fun pair => lt_of_le_of_ne pair.1 pair.2
  · intro ascending
    have sorted := (ascending.imp fun less => le_of_lt less).insertionSort_eq
    unfold SameStages
    rw [rebuilt, ids, sorted, List.map_map, List.forall₂_map_right_iff, List.forall₂_same]
    intro stage member
    refine ⟨rfl, ?_⟩
    have tasks := rebuilt_stage_tasks places named stagesDistinct submittable.distinct stage member
    simpa [finishRecoveredStage, recoveredStage, recoveredTask, comp_def] using tasks

theorem rebuilt_task_stage [GoRuntime Input] {rows : List DurableTaskRecord}
    (rebuilt : executed.stages = (buildRecoveredRuntimeJob replayed rows : Job Input).stages) :
    ∀ stage ∈ executed.stages, ∀ task ∈ stage.tasks, task.stageID = stage.id := by
  rw [rebuilt, recovered_job_stages]
  intro stage member task inTasks
  obtain ⟨_, _, rfl⟩ := List.mem_map.mp member
  obtain ⟨_, selected, rfl⟩ := List.mem_map.mp inTasks
  have here := (mem_filter.mp selected).2
  rw [decide_eq_true_eq] at here
  exact here

theorem ascending_edges_forward
    (ordered : ∀ source target sourceStage targetStage, target ∈ graph.getEdges source →
      compilation.nodeToStage.lookup source = some sourceStage → compilation.nodeToStage.lookup
      target = some targetStage → [sourceStage, targetStage].Sublist (compilation.job.stages.map
      (·.id))) (ascending : (compilation.job.stages.map (·.id)).Pairwise (· < ·))
    (same : SameStages compilation.job executed)
    (placed : ∀ stage ∈ executed.stages, ∀ task ∈ stage.tasks, task.stageID = stage.id) :
    EdgesForward graph compilation.nodeToStage executed := by
  intro source target edge first second firstStage secondStage firstAt secondAt work inFirst later
    inSecond ofSource ofTarget
  have executedAscending := same_stages_ids same ▸ ascending
  have apart := ordered source target work.stageID later.stageID edge ofSource.1 ofTarget.1
  have less : work.stageID < later.stageID := by
    simpa using ascending.sublist apart
  rw [placed firstStage (mem_of_getElem? firstAt) work inFirst,
    placed secondStage (mem_of_getElem? secondAt) later inSecond] at less
  by_contra notBefore
  obtain ⟨firstBound, firstIs⟩ := List.getElem?_eq_some_iff.mp firstAt
  obtain ⟨secondBound, secondIs⟩ := List.getElem?_eq_some_iff.mp secondAt
  rcases Nat.lt_or_eq_of_le (not_lt.mp notBefore) with after | equalIndex
  · have reverse := pairwise_iff_getElem.mp executedAscending second first
      (by simpa using secondBound) (by simpa using firstBound) after
    rw [getElem_map, getElem_map, firstIs, secondIs] at reverse
    exact lt_asymm less reverse
  · subst equalIndex
    rw [firstIs] at secondIs
    rw [secondIs] at less
    exact lt_irrefl _ less

/-- The compiled order survives the refresh, and every edge leads to a strictly
later stage of the executed job, exactly when the stage ids drawn by the
compiler are ascending. -/
theorem stage_order_survives_iff [GoRuntime Input] (runtime : Runtime) (graph : Graph)
    (input : Option Input) (options : CompileOptions) (compilation : Compilation Input)
    (world : World) (process after : Process Input)
    (mapOrder : List DurableTaskRecord → List DurableTaskRecord) (waiting : List Nat)
    (compiled : compile runtime graph input options = .ok compilation)
    (writes : WritesSucceed world) (unknown : Unknown compilation.job process.sched)
    (permutes : ∀ rows, (mapOrder rows).Perm rows)
    (accepted : submitJob world compilation.job process = .ok after) :
    ∃ memory executed, takeDequeuedJob none mapOrder process.sched.nextRef
        { after.sched with jobQueue := waiting } = some (memory, executed) ∧
      ((SameStages compilation.job executed ∧
          EdgesForward graph compilation.nodeToStage executed) ↔
        (compilation.job.stages.map (·.id)).Pairwise (· < ·)) := by
  have spec := compile_spec runtime graph input options compiled
  have submittable := compiled_submittable spec
  have stagesDistinct := (compiled_ids_nodup spec).sublist (stage_ids_sublist _)
  obtain ⟨registered, ⟨queued, object, sameID, state⟩, stored⟩ := submit_stored world
    compilation.job process after writes submittable unknown accepted
  obtain ⟨replayed, read, replayedID, replayedQueued, keyed, members, payloads⟩ :=
    stored_read submittable stored
  obtain ⟨memory, executed, taken, stages⟩ := take_refreshed
    { after.sched with jobQueue := waiting } process.sched.nextRef queued mapOrder replayed object
    (sameID ▸ registered) state (sameID ▸ read) (replayedID.trans sameID.symm) replayedQueued
  have places := ((permutes (replayed.tasks.entries.map (·.2))).map rowPlace).trans
    (replayed_places submittable keyed members payloads)
  have same := rebuilt_same_iff submittable stagesDistinct
    (fun stage member => (spec.stages stage member).nonempty) places stages
  refine ⟨memory, executed, taken, fun kept => same.mp kept.1, fun ascending => ?_⟩
  exact ⟨same.mpr ascending, ascending_edges_forward spec.ordered ascending
    (same.mpr ascending) (rebuilt_task_stage stages)⟩

/-- An id supply that begins with the given UUIDs. -/
def drawnFrom (known : List String) (call : Nat) : String :=
  known[call]?.getD (String.ofList (List.replicate (37 + call) 'f'))

theorem drawn_from_injective (known : List String) (distinct : known.Nodup)
    (sized : ∀ id ∈ known, id.length = 36) : Function.Injective (drawnFrom known) := by
  have length : ∀ call, known.length ≤ call → (drawnFrom known call).length = 37 + call := by
    intro call beyond
    simp [drawnFrom, getElem?_eq_none beyond]
  have short : ∀ (call : Nat) (bound : call < known.length),
      drawnFrom known call = known[call] ∧ (drawnFrom known call).length = 36 := by
    intro call bound
    have same : drawnFrom known call = known[call] := by simp [drawnFrom, bound]
    exact ⟨same, same ▸ sized _ (getElem_mem bound)⟩
  intro first second equal
  have lengths := congrArg String.length equal
  rcases Nat.lt_or_ge first known.length with low | high <;>
    rcases Nat.lt_or_ge second known.length with low' | high'
  · rw [(short first low).1, (short second low').1] at equal
    exact (List.Nodup.getElem_inj_iff distinct).mp equal
  · rw [(short first low).2, length second high'] at lengths
    omega
  · rw [length first high, (short second low').2] at lengths
    omega
  · rw [length first high, length second high'] at lengths
    omega

theorem drawn_from_named (known : List String) (named : ∀ id ∈ known, isBlank id = false)
    (call : Nat) : isBlank (drawnFrom known call) = false := by
  unfold drawnFrom
  cases found : known[call]? with
  | none =>
    rw [Option.getD_none, isBlank, String.toList_ofList, Nat.add_comm, replicate_succ]
    rfl
  | some id => exact named id (mem_of_getElem? found)

def twoStepRuntime (known : List String) (distinct : known.Nodup)
    (sized : ∀ id ∈ known, id.length = 36) (named : ∀ id ∈ known, isBlank id = false) :
    Runtime where
  newUUID := drawnFrom known
  mapOrder := id
  now := 1
  distinct := drawn_from_injective known distinct sized
  named := drawn_from_named known named
  permutes := fun keys => .refl keys

/-- `draft` before `review`. -/
def buildTwoStep : Except GoError Graph := do
  let graph ← (newGraph "two-step").addNode (.unit ⟨"draft", "draft", none⟩)
  let graph ← graph.addNode (.unit ⟨"review", "review", none⟩)
  let graph ← graph.addEdge "draft" "review"
  let graph ← graph.setEntry "draft"
  graph.addFinish "review"

def twoStepGraph : Graph := buildTwoStep.toOption.getD (newGraph "")

def twoStepCompilation (runtime : Runtime) : Compilation SampleInput :=
  (compile runtime twoStepGraph (some .blank) ⟨""⟩).toOption.getD
    ⟨newJob SampleInput "" "" 0, ∅⟩

def steadyWorld : World where
  clock := fun index => index + 2
  fault := fun _ => none
  selectNode := fun _ => none
  authority := fun _ => .ok ⟨true, "leader", "1"⟩
  executor := fun _ => none

def twoStepSubmitted (runtime : Runtime) : Process SampleInput :=
  (submitJob steadyWorld (twoStepCompilation runtime).job
    (newProcess SampleInput ⟨false, 8, 3⟩)).toOption.getD (newProcess SampleInput ⟨false, 8, 3⟩)

/-- The ids of a job, of the stages and tasks of `draft` and of `review`. -/
def descendingUUIDs : List String :=
  ["5b1f0c1e-6d0f-4c55-8f0e-2f7a3d9c1b01", "e7a4c9d2-31b8-4f6a-9c2d-8b5e0f1a2c02",
    "9c3d5e7f-1a2b-4c3d-8e4f-5a6b7c8d9e03", "2d8f6b4a-7c9e-4d1b-a3f5-6e7d8c9b0a04",
    "4e5f6a7b-8c9d-4e0f-b1a2-c3d4e5f6a705"]

def ascendingUUIDs : List String :=
  ["5b1f0c1e-6d0f-4c55-8f0e-2f7a3d9c1b01", "2d8f6b4a-7c9e-4d1b-a3f5-6e7d8c9b0a04",
    "9c3d5e7f-1a2b-4c3d-8e4f-5a6b7c8d9e03", "e7a4c9d2-31b8-4f6a-9c2d-8b5e0f1a2c02",
    "4e5f6a7b-8c9d-4e0f-b1a2-c3d4e5f6a705"]

def descendingRuntime : Runtime :=
  twoStepRuntime descendingUUIDs (by decide) (by decide) (by decide)

def ascendingRuntime : Runtime :=
  twoStepRuntime ascendingUUIDs (by decide) (by decide) (by decide)

theorem fresh_process_unknown (config : SchedulerConfig) (job : Job Input) :
    Unknown job (newProcess Input config).sched where
  unregistered := rfl
  keyed := fun _ _ found => nomatch found
  noLog := rfl
  noRows := fun _ _ found => nomatch found

/-- With descending ids the run loop executes `review` before `draft`. -/
theorem descending_ids_reverse_stages :
    ∃ executed, compile descendingRuntime twoStepGraph (some .blank) ⟨""⟩ =
        .ok (twoStepCompilation descendingRuntime) ∧
      submitJob steadyWorld (twoStepCompilation descendingRuntime).job
        (newProcess SampleInput ⟨false, 8, 3⟩) = .ok (twoStepSubmitted descendingRuntime) ∧
      (takeDequeuedJob none id 0 (twoStepSubmitted descendingRuntime).sched).map (·.2) =
        some executed ∧
      executed.stages.map (fun stage => stage.tasks.map (·.agentID)) = [["review"], ["draft"]] ∧
      ¬ (SameStages (twoStepCompilation descendingRuntime).job executed ∧
        EdgesForward twoStepGraph (twoStepCompilation descendingRuntime).nodeToStage
          executed) := by
  refine ⟨_, rfl, rfl, rfl, by decide, ?_⟩
  rintro ⟨same, _⟩
  exact absurd (same_stages_ids same) (by decide)

theorem ascending_ids_keep_stages :
    ∃ memory executed, takeDequeuedJob none id 0
        { (twoStepSubmitted ascendingRuntime).sched with jobQueue := [] } =
          some (memory, executed) ∧
      SameStages (twoStepCompilation ascendingRuntime).job executed ∧
      EdgesForward twoStepGraph (twoStepCompilation ascendingRuntime).nodeToStage executed := by
  obtain ⟨memory, executed, taken, kept⟩ := stage_order_survives_iff ascendingRuntime twoStepGraph
    (some .blank) ⟨""⟩ (twoStepCompilation ascendingRuntime) steadyWorld
    (newProcess SampleInput ⟨false, 8, 3⟩) (twoStepSubmitted ascendingRuntime) id [] rfl
    ⟨fun _ => rfl, fun _ => Nat.succ_ne_zero _⟩ (fresh_process_unknown _ _)
    (fun rows => .refl rows) rfl
  exact ⟨memory, executed, taken, kept.mpr (by decide)⟩

end Dagens.Graph.StageOrder
