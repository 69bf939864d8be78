import Dagens.Lib.KahnLevels
import Dagens.Graph.Model
import Dagens.Scheduler.DataModel

/-!
# Compilation of a graph into a job

`DAGCompiler.CompileWithOptions`: Kahn's algorithm sorts the nodes into levels,
every level with work in it becomes a stage, and every unit of work in it a
task. The ids come from `uuid.New` in the order of the calls.
-/

namespace Dagens.Graph.Compiler

open Lib Scheduler Scheduler.GoSupport List

/-- What the Go runtime contributes to a compilation: the ids that `uuid.New`
yields in turn, the order in which a map yields its keys, and the time. -/
structure Runtime where
  newUUID : Nat → String
  mapOrder : List String → List String
  now : Nat
  distinct : Function.Injective newUUID
  named : ∀ call, isBlank (newUUID call) = false
  permutes : ∀ keys, (mapOrder keys).Perm keys

structure CompileOptions where
  sessionID : String
  deriving DecidableEq, Repr

def topologicalSort (runtime : Runtime) (graph : Graph) : Except GoError (List (List String)) :=
  let allNodes := graph.allNodes
  let inDegree := KahnLevels.inDegree graph.getEdges allNodes
  let currentLevel := runtime.mapOrder
    (allNodes.filter fun nodeID => decide (inDegree nodeID = 0))
  if currentLevel.isEmpty && !allNodes.isEmpty then
    .error (.plain "cycle detected: no nodes with zero in-degree")
  else
    let sortedLevels := KahnLevels.levelsFrom graph.getEdges allNodes.length inDegree currentLevel
    let processedCount := sortedLevels.flatten.length
    if processedCount ≠ allNodes.length then
      .error (.plain ("cycle detected: processed " ++ toString processedCount ++
        " nodes but graph has " ++ toString allNodes.length ++ " nodes"))
    else .ok sortedLevels

mutual

/-- The units of work of a node: a `ParallelNode` stands for its children. -/
def flattenNode : Node → List NodeInfo
  | .unit info => [info]
  | .parallel _ children => flattenParallelNode children

def flattenParallelNode : List Node → List NodeInfo
  | [] => []
  | child :: rest => flattenNode child ++ flattenParallelNode rest

end

def flattenLevel (graph : Graph) : List String → Except GoError (List NodeInfo)
  | [] => .ok []
  | nodeID :: rest =>
    match graph.getNode nodeID with
    | .error err => .error (err.wrap ("node " ++ nodeID ++ " not found: "))
    | .ok node => (flattenLevel graph rest).map (flattenNode node ++ ·)

def findPredecessors (graph : Graph) (nodeID : String) : List String :=
  graph.edges.entries.flatMap fun entry =>
    (entry.2.filter fun target => decide (target = nodeID)).map fun _ => entry.1

/-- The stages of the level's predecessors, or the previous stage when there
are none. -/
def computeStageDependencies (graph : Graph) (levelNodeIDs : List String)
    (nodeToStage : AList (fun _ : String => String)) (previousStage : Option String) :
    List String :=
  let deps := ((levelNodeIDs.flatMap (findPredecessors graph)).filterMap
    nodeToStage.lookup).dedup
  if deps.isEmpty then previousStage.toList else deps

def createTask {Input : Type} (node : NodeInfo) (taskID stageID jobID : String)
    (input : Option Input) (sessionID : String) : Scheduler.Task Input where
  id := taskID
  stageID := stageID
  jobID := jobID
  agentID := node.id
  agentName := node.name
  input := input
  partitionKey := if sessionID ≠ "" then sessionID else node.partition.getD ""
  status := .pending
  lifecycleState := none
  attempts := 0

/-- The locals of `buildStages`; `calls` counts the ids drawn so far. -/
structure Build (Input : Type) where
  calls : Nat
  nodeToStage : AList (fun _ : String => String)
  previousStage : Option String
  stages : List (Stage Input)

section Stages

variable {Input : Type} (runtime : Runtime) (graph : Graph) (jobID : String)
  (input : Option Input) (sessionID : String)

/-- The stage of a level, once its units of work are known. -/
def levelStage (level : List String) (nodes : List NodeInfo) (build : Build Input) :
    Stage Input where
  id := runtime.newUUID build.calls
  jobID := jobID
  tasks := (nodes.zipIdx (build.calls + 1)).map fun (node, call) =>
    createTask node (runtime.newUUID call) (runtime.newUUID build.calls) jobID input sessionID
  dependencies := computeStageDependencies graph level build.nodeToStage build.previousStage
  status := .pending

def addLevel (level : List String) (nodes : List NodeInfo) (build : Build Input) : Build Input :=
  if nodes.isEmpty then build
  else
    { calls := build.calls + 1 + nodes.length
      nodeToStage := level.foldl
        (fun known nodeID => known.insert nodeID (runtime.newUUID build.calls))
        build.nodeToStage
      previousStage := some (runtime.newUUID build.calls)
      stages := build.stages ++ [levelStage runtime graph jobID input sessionID level nodes build] }

def buildStages : Nat → List (List String) → Build Input → Except GoError (Build Input)
  | _, [], build => .ok build
  | levelIdx, level :: rest, build =>
    match flattenLevel graph level with
    | .error err =>
      .error (err.wrap ("failed to flatten level " ++ toString levelIdx ++ ": "))
    | .ok nodes =>
      buildStages (levelIdx + 1) rest
        (addLevel runtime graph jobID input sessionID level nodes build)

end Stages

/-- The job together with the stage that each graph node went to. -/
structure Compilation (Input : Type) where
  job : Job Input
  nodeToStage : AList (fun _ : String => String)

def compile {Input : Type} (runtime : Runtime) (graph : Graph) (input : Option Input)
    (options : CompileOptions) : Except GoError (Compilation Input) :=
  match graph.validate with
  | .error err => .error (err.wrap "invalid graph: ")
  | .ok () =>
    let job := newJob Input (runtime.newUUID 0) graph.name runtime.now
    match topologicalSort runtime graph with
    | .error err => .error (err.wrap "topological sort failed: ")
    | .ok sortedLevels =>
      match buildStages runtime graph job.id input options.sessionID 0 sortedLevels
          ⟨1, ∅, none, []⟩ with
      | .error err => .error (err.wrap "stage building failed: ")
      | .ok build =>
        .ok
          { job := { job with
              stages := build.stages
              edges := graph.edges.entries.flatMap fun entry =>
                entry.2.map fun target => ⟨entry.1, target⟩ }
            nodeToStage := build.nodeToStage }

def compileWithOptions {Input : Type} (runtime : Runtime) (graph : Graph) (input : Option Input)
    (options : CompileOptions) : Except GoError (Job Input) :=
  (compile runtime graph input options).map (·.job)

/-- No node is in two levels, and every edge into a level leaves an earlier one. -/
structure Leveled (graph : Graph) (levels : List (List String)) : Prop where
  nodup : levels.flatten.Nodup
  earlier : ∀ before level after, levels = before ++ level :: after →
    ∀ source, ∀ target ∈ level, target ∈ graph.getEdges source → source ∈ before.flatten

theorem topological_sort_leveled (runtime : Runtime) (graph : Graph)
    {levels : List (List String)} (sorted : topologicalSort runtime graph = .ok levels) :
    Leveled graph levels := by
  have closed : ∀ node ∈ graph.allNodes, ∀ target ∈ graph.getEdges node, target ∈ graph.allNodes :=
    fun node _ target edge => (edges_closed graph node target edge).2
  have initial := KahnLevels.initial_invariant (runtime.permutes
    (graph.allNodes.filter fun nodeID =>
      decide (KahnLevels.inDegree graph.getEdges graph.allNodes nodeID = 0)))
    graph.nodes.keys_nodup
  simp only [topologicalSort] at sorted
  split_ifs at sorted
  rw [Except.ok.injEq] at sorted
  subst sorted
  constructor
  · simpa using KahnLevels.levels_nodup closed graph.allNodes.length initial
  · intro _ _ _ split source target reached edge
    have known : source ∈ graph.allNodes := (edges_closed graph source target edge).1
    simpa using KahnLevels.levels_edges closed graph.nodes.keys_nodup graph.allNodes.length
      initial split known edge reached

theorem leveled_forward {graph : Graph} {before after : List (List String)} {level : List String}
    (leveled : Leveled graph (before ++ level :: after)) {source target : String}
    (edge : target ∈ graph.getEdges source) (late : source ∈ level)
    (early : target ∈ before.flatten) : False := by
  obtain ⟨targetLevel, member, inLevel⟩ := mem_flatten.mp early
  obtain ⟨front, back, rfl⟩ := append_of_mem member
  have sooner := leveled.earlier front targetLevel (back ++ level :: after) (by simp) source target
    inLevel edge
  have apart := leveled.nodup
  rw [flatten_append, flatten_append, nodup_append] at apart
  refine apart.2.2 source ?_ source ?_ rfl
  · exact mem_append_left _ sooner
  · exact mem_flatten.mpr ⟨level, mem_cons_self, late⟩

section Invariant

variable {Input : Type} (runtime : Runtime) (graph : Graph) (jobID : String)
  (input : Option Input) (sessionID : String)

/-- A task as `createTask` makes it for its stage. -/
structure CompiledTask (stageID : String) (task : Scheduler.Task Input) : Prop where
  stage : task.stageID = stageID
  job : task.jobID = jobID
  unset : task.lifecycleState = none
  unclaimed : task.attempts = 0
  given : task.input = input
  keyed : task.partitionKey = "" → sessionID = ""

structure CompiledStage (stage : Stage Input) : Prop where
  owner : stage.jobID = jobID
  tasks : ∀ task ∈ stage.tasks, CompiledTask jobID input sessionID stage.id task
  nonempty : stage.tasks ≠ []

/-- Holds of the locals of `buildStages` after the levels `processed`. -/
structure BuildInvariant (processed : List (List String)) (build : Build Input) : Prop where
  drawn : 1 ≤ build.calls
  ids : build.stages.flatMap (fun stage => stage.id :: stage.tasks.map (·.id)) =
    (List.range' 1 (build.calls - 1)).map runtime.newUUID
  stages : ∀ stage ∈ build.stages, CompiledStage jobID input sessionID stage
  placed : ∀ nodeID stageID, build.nodeToStage.lookup nodeID = some stageID →
    stageID ∈ build.stages.map (·.id) ∧ nodeID ∈ processed.flatten
  ordered : ∀ source target sourceStage targetStage, target ∈ graph.getEdges source →
    build.nodeToStage.lookup source = some sourceStage →
    build.nodeToStage.lookup target = some targetStage →
    [sourceStage, targetStage].Sublist (build.stages.map (·.id))

theorem build_invariant_start : BuildInvariant runtime graph jobID input sessionID []
    (⟨1, ∅, none, []⟩ : Build Input) where
  drawn := Nat.le_refl 1
  ids := by simp
  stages := by simp
  placed := by simp
  ordered := by simp

theorem place_level_lookup (stageID nodeID : String) (level : List String)
    (known : AList (fun _ : String => String)) :
    (level.foldl (fun map key => map.insert key stageID) known).lookup nodeID =
      if nodeID ∈ level then some stageID else known.lookup nodeID := by
  induction level generalizing known with
  | nil => simp
  | cons first rest ih =>
    rw [foldl_cons, ih]
    by_cases later : nodeID ∈ rest
    · simp [later]
    · by_cases same : nodeID = first
      · subst same
        simp [later]
      · simp [later, same, AList.lookup_insert_ne same]

section

variable (level : List String) (nodes : List NodeInfo) (build : Build Input)

theorem level_stage_compiled (some_work : nodes ≠ []) :
    CompiledStage jobID input sessionID
      (levelStage runtime graph jobID input sessionID level nodes build) where
  owner := rfl
  tasks := by
    intro _ member
    obtain ⟨⟨_⟩, _, rfl⟩ := List.mem_map.mp member
    refine ⟨rfl, rfl, rfl, rfl, rfl, ?_⟩
    simp only [createTask]
    split_ifs with session
    · exact fun blank => absurd blank session
    · exact fun _ => not_not.mp session
  nonempty := by
    simp [levelStage, zipIdx_eq_nil_iff, some_work]

theorem level_stage_ids :
    (levelStage runtime graph jobID input sessionID level nodes build).id ::
        (levelStage runtime graph jobID input sessionID level nodes build).tasks.map (·.id) =
      (List.range' build.calls (1 + nodes.length)).map runtime.newUUID := by
  have tasks : (nodes.zipIdx (build.calls + 1)).map (fun entry => runtime.newUUID entry.2) =
      (List.range' (build.calls + 1) nodes.length).map runtime.newUUID := by
    rw [← zipIdx_map_snd (build.calls + 1) nodes, List.map_map]
    rfl
  rw [Nat.add_comm 1, range'_succ, map_cons, ← tasks, levelStage, List.map_map]
  rfl

end

variable {processed rest : List (List String)} {build : Build Input}

theorem add_level_invariant (nodes : List NodeInfo) {level : List String}
    (leveled : Leveled graph (processed ++ level :: rest))
    (invariant : BuildInvariant runtime graph jobID input sessionID processed build) :
    BuildInvariant runtime graph jobID input sessionID (processed ++ [level])
      (addLevel runtime graph jobID input sessionID level nodes build) := by
  unfold addLevel
  have widened : ∀ nodeID, nodeID ∈ processed.flatten → nodeID ∈ (processed ++ [level]).flatten :=
    fun nodeID member => by simp [member]
  split_ifs with noWork
  · exact ⟨invariant.drawn, invariant.ids, invariant.stages,
      fun nodeID stageID found => ⟨(invariant.placed nodeID stageID found).1,
        widened nodeID (invariant.placed nodeID stageID found).2⟩, invariant.ordered⟩
  · have someWork : nodes ≠ [] := by simpa using noWork
    have drawn := invariant.drawn
    refine ⟨by dsimp only; omega, ?_, ?_, ?_, ?_⟩
    · have calls : build.calls + 1 + nodes.length - 1 =
          (build.calls - 1) + (1 + nodes.length) := by omega
      have next : 1 + (build.calls - 1) = build.calls := by omega
      dsimp only
      rw [flatMap_append, invariant.ids, calls, ← range'_append_1, next, map_append]
      simp only [flatMap_cons, flatMap_nil, append_nil]
      rw [level_stage_ids]
    · intro stage member
      rcases List.mem_append.mp member with old | new
      · exact invariant.stages stage old
      · rw [mem_singleton.mp new]
        exact level_stage_compiled runtime graph jobID input sessionID level nodes build someWork
    · intro nodeID stageID found
      dsimp only at found ⊢
      rw [place_level_lookup] at found
      split_ifs at found with inLevel
      · rw [Option.some.injEq] at found
        subst found
        exact ⟨by simp [levelStage], by simp [inLevel]⟩
      · obtain ⟨stage, old⟩ := invariant.placed nodeID stageID found
        exact ⟨by simp [List.mem_map.mp stage], widened nodeID old⟩
    · intro source target sourceStage targetStage edge sourceFound targetFound
      dsimp only at sourceFound targetFound ⊢
      rw [place_level_lookup] at sourceFound targetFound
      rw [map_append]
      split_ifs at targetFound with targetHere
      · rw [Option.some.injEq] at targetFound
        subst targetFound
        have before := leveled.earlier processed level rest rfl source target targetHere edge
        have notHere : source ∉ level := by
          intro here
          have apart := leveled.nodup
          rw [flatten_append, nodup_append] at apart
          exact apart.2.2 source before source (mem_flatten.mpr ⟨level, mem_cons_self, here⟩) rfl
        rw [if_neg notHere] at sourceFound
        have member := (invariant.placed source sourceStage sourceFound).1
        exact (singleton_sublist.mpr member).append (List.Sublist.refl _)
      · have early := (invariant.placed target targetStage targetFound).2
        have notHere : source ∉ level := fun here => leveled_forward leveled edge here early
        rw [if_neg notHere] at sourceFound
        exact (invariant.ordered source target sourceStage targetStage edge sourceFound
          targetFound).trans (sublist_append_left _ _)

theorem build_stages_invariant (levelIdx : Nat) {final : Build Input}
    (leveled : Leveled graph (processed ++ rest))
    (invariant : BuildInvariant runtime graph jobID input sessionID processed build)
    (built : buildStages runtime graph jobID input sessionID levelIdx rest build = .ok final) :
    BuildInvariant runtime graph jobID input sessionID (processed ++ rest) final := by
  induction rest generalizing levelIdx processed build with
  | nil =>
    simp only [buildStages, Except.ok.injEq] at built
    subst built
    simpa using invariant
  | cons level rest ih =>
    simp only [buildStages] at built
    split at built
    · cases built
    · rename_i nodes _
      have next := add_level_invariant runtime graph jobID input sessionID nodes leveled invariant
      have assoc : processed ++ level :: rest = (processed ++ [level]) ++ rest := by simp
      rw [assoc] at leveled ⊢
      exact ih (levelIdx + 1) leveled next built

end Invariant

/-- Everything later modules use about a compiled job. -/
structure Compiled {Input : Type} (runtime : Runtime) (graph : Graph) (input : Option Input)
    (sessionID : String) (compilation : Compilation Input) : Prop where
  id : compilation.job.id = runtime.newUUID 0
  submitted : compilation.job.lifecycleState = some .submitted
  ids : ∃ count, compilation.job.id ::
      compilation.job.stages.flatMap (fun stage => stage.id :: stage.tasks.map (·.id)) =
    (List.range count).map runtime.newUUID
  stages : ∀ stage ∈ compilation.job.stages,
    CompiledStage compilation.job.id input sessionID stage
  ordered : ∀ source target sourceStage targetStage, target ∈ graph.getEdges source →
    compilation.nodeToStage.lookup source = some sourceStage →
    compilation.nodeToStage.lookup target = some targetStage →
    [sourceStage, targetStage].Sublist (compilation.job.stages.map (·.id))

theorem compile_spec {Input : Type} (runtime : Runtime) (graph : Graph) (input : Option Input)
    (options : CompileOptions) {compilation : Compilation Input}
    (compiled : compile runtime graph input options = .ok compilation) :
    Compiled runtime graph input options.sessionID compilation := by
  unfold compile at compiled
  split at compiled
  · cases compiled
  · dsimp only at compiled
    split at compiled
    · cases compiled
    · rename_i levels sorted
      split at compiled
      · cases compiled
      · rename_i build built
        have leveled : Leveled graph ([] ++ levels) :=
          topological_sort_leveled runtime graph sorted
        have invariant := build_stages_invariant runtime graph _ input options.sessionID 0 leveled
          (build_invariant_start runtime graph _ input options.sessionID) built
        rw [Except.ok.injEq] at compiled
        subst compiled
        refine ⟨rfl, rfl, ⟨build.calls, ?_⟩, invariant.stages, invariant.ordered⟩
        have drawn := invariant.drawn
        have count : build.calls = (build.calls - 1) + 1 := by omega
        rw [range_eq_range', count, range'_succ, map_cons]
        exact congrArg _ invariant.ids

end Dagens.Graph.Compiler
