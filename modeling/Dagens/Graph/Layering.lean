import Dagens.Graph.Compiler

/-!
# Compilation is a layering

The compiler accepts exactly the valid graphs without a directed cycle. Every
unit of work becomes one task, no stage is empty, and the tasks of an edge's
source stand in an earlier stage than those of its target.
-/

namespace Dagens.Graph.Layering

open Lib KahnLevels Scheduler Compiler List

theorem edges_stay (graph : Graph) : ∀ node ∈ graph.allNodes, ∀ target ∈ graph.getEdges node,
    target ∈ graph.allNodes :=
  fun node _ target edge => (edges_closed graph node target edge).2

/-- Where the sort starts: the nodes without incoming edges, in the map's order. -/
def firstLevel (runtime : Runtime) (graph : Graph) : List String :=
  runtime.mapOrder (graph.allNodes.filter fun nodeID =>
    decide (inDegree graph.getEdges graph.allNodes nodeID = 0))

theorem first_level_invariant (runtime : Runtime) (graph : Graph) :
    LevelInvariant graph.getEdges graph.allNodes [] (firstLevel runtime graph)
      (inDegree graph.getEdges graph.allNodes) :=
  initial_invariant (runtime.permutes _) graph.nodes.keys_nodup

/-- The levels that the loop produces, whether or not they hold every node. -/
def foundLevels (runtime : Runtime) (graph : Graph) : List (List String) :=
  levelsFrom graph.getEdges graph.allNodes.length
    (inDegree graph.getEdges graph.allNodes) (firstLevel runtime graph)

section

variable (runtime : Runtime) (graph : Graph)

include runtime graph

theorem topological_sort_ok (levels : List (List String)) :
    topologicalSort runtime graph = .ok levels ↔
      levels = foundLevels runtime graph ∧ levels.flatten.length = graph.allNodes.length := by
  have stuck : firstLevel runtime graph = [] → foundLevels runtime graph = [] := by
    intro empty
    unfold foundLevels
    cases graph.allNodes.length with
    | zero => rfl
    | succ => simp [levelsFrom, empty]
  simp only [topologicalSort]
  split_ifs with noStart incomplete
  · -- the early exit is the case of no level at all
    rw [Bool.and_eq_true, List.isEmpty_iff] at noStart
    have nothing := stuck noStart.1
    have someNode : graph.allNodes ≠ [] := by simpa using noStart.2
    constructor
    · rintro ⟨⟩
    · rintro ⟨rfl, count⟩
      rw [nothing, flatten_nil, length_nil] at count
      exact absurd (length_eq_zero_iff.mp count.symm) someNode
  · constructor
    · rintro ⟨⟩
    · rintro ⟨rfl, count⟩
      exact absurd count incomplete
  · rw [Except.ok.injEq]
    constructor
    · rintro rfl
      exact ⟨rfl, not_not.mp incomplete⟩
    · exact fun same => same.1.symm

theorem found_levels_nodup : (foundLevels runtime graph).flatten.Nodup :=
  levels_nodup (edges_stay graph) graph.allNodes.length
    (first_level_invariant runtime graph)

theorem found_levels_final :
    ∃ final, LevelInvariant graph.getEdges graph.allNodes
      (foundLevels runtime graph).flatten [] final :=
  levels_exhausted (edges_stay graph) graph.allNodes.length
    (first_level_invariant runtime graph) (by simp)

theorem found_levels_subperm : List.Subperm (foundLevels runtime graph).flatten graph.allNodes := by
  obtain ⟨_, invariant⟩ := found_levels_final runtime graph
  refine (found_levels_nodup runtime graph).subperm fun node member => ?_
  exact ((invariant.ready node).mp (by simpa using member)).1

end

variable {levels : List (List String)} {graph : Graph} {source target : String}
  {level : List String} {Input : Type} {input : Option Input}

theorem sorted_nodes {runtime : Runtime} (sorted : topologicalSort runtime graph = .ok levels) :
    levels.flatten.Perm graph.allNodes := by
  obtain ⟨rfl, count⟩ := (topological_sort_ok runtime graph levels).mp sorted
  exact (found_levels_subperm runtime graph).perm_of_length_le count.ge

theorem path_earlier (leveled : Leveled graph levels)
    (path : Relation.TransGen (fun source target => target ∈ graph.getEdges source) source target)
    {before after : List (List String)} (split : levels = before ++ level :: after)
    (member : target ∈ level) :
    source ∈ before.flatten := by
  induction path generalizing before level after with
  | single edge => exact leveled.earlier before level after split source _ member edge
  | tail _ edge ih =>
    have middle := leveled.earlier before level after split _ _ member edge
    obtain ⟨middleLevel, inBefore, inLevel⟩ := mem_flatten.mp middle
    obtain ⟨front, back, rfl⟩ := append_of_mem inBefore
    have middleSplit : levels = front ++ middleLevel :: (back ++ level :: after) := by
      simp [split]
    simp [ih middleSplit inLevel]

theorem sorted_acyclic (runtime : Runtime) (sorted : topologicalSort runtime graph = .ok levels) :
    Acyclic graph.getEdges := by
  intro node cycle
  have leveled := topological_sort_leveled runtime graph sorted
  have known : node ∈ graph.allNodes := by
    obtain ⟨_, edge, _⟩ := Relation.TransGen.head'_iff.mp cycle
    exact (edges_closed graph node _ edge).1
  have placed : node ∈ levels.flatten := (sorted_nodes sorted).mem_iff.mpr known
  obtain ⟨level, inLevels, inLevel⟩ := mem_flatten.mp placed
  obtain ⟨_, _, split⟩ := append_of_mem inLevels
  have early := path_earlier leveled cycle split inLevel
  have apart := leveled.nodup
  rw [split, flatten_append, nodup_append] at apart
  exact apart.2.2 node early node (mem_flatten.mpr ⟨level, mem_cons_self, inLevel⟩) rfl

theorem topological_sort_iff (runtime : Runtime) (graph : Graph) :
    (∃ levels, topologicalSort runtime graph = .ok levels) ↔ Acyclic graph.getEdges := by
  constructor
  · rintro ⟨_, sorted⟩
    exact sorted_acyclic runtime sorted
  · intro acyclic
    refine ⟨foundLevels runtime graph, (topological_sort_ok runtime graph _).mpr ⟨rfl, ?_⟩⟩
    obtain ⟨_, invariant⟩ := found_levels_final runtime graph
    refine le_antisymm (found_levels_subperm runtime graph).length_le ?_
    refine List.Subperm.length_le (graph.nodes.keys_nodup.subperm fun node member => ?_)
    exact acyclic_processed acyclic graph.nodes.keys_nodup invariant member

/-- The units of work of a level, each with the graph node it comes from. -/
def levelUnits (graph : Graph) (level : List String) : List (String × NodeInfo) :=
  level.flatMap fun nodeID =>
    ((graph.nodes.lookup nodeID).toList.flatMap flattenNode).map (Prod.mk nodeID)

/-- For every stage, in order, the graph node and the unit of work behind each
of its tasks. -/
def layers (graph : Graph) (levels : List (List String)) : List (List (String × NodeInfo)) :=
  (levels.map (levelUnits graph)).filter fun units => !units.isEmpty

def taskOrigins (runtime : Runtime) (graph : Graph) : List (List (String × NodeInfo)) :=
  match topologicalSort runtime graph with
  | .error _ => []
  | .ok sortedLevels => layers graph sortedLevels

/-- The tasks of a stage are made from these units of work, one for one. -/
def Creates {Input : Type} (jobID : String) (input : Option Input) (sessionID : String)
    (stage : Stage Input) (units : List (String × NodeInfo)) : Prop :=
  List.Forall₂ (fun task unit => ∃ taskID,
    task = createTask unit.2 taskID stage.id jobID input sessionID) stage.tasks units

attribute [local simp] Except.map layers addLevel

theorem flatten_level_units (known : ∀ nodeID ∈ level, nodeID ∈ graph.nodes) :
    flattenLevel graph level = .ok ((levelUnits graph level).map Prod.snd) := by
  induction level with
  | nil => rfl
  | cons nodeID _ ih =>
    obtain ⟨_, found⟩ := Option.isSome_iff_exists.mp
      (AList.lookup_isSome.mpr (known nodeID mem_cons_self))
    have restFlat := ih fun other member => known other (mem_cons_of_mem _ member)
    simp [flattenLevel, Graph.getNode, found, restFlat, levelUnits]

section Stages

variable {Input : Type} (runtime : Runtime) (graph : Graph) (jobID : String)
  (input : Option Input) (sessionID : String)

theorem level_stage_creates (level : List String) (units : List (String × NodeInfo))
    (build : Build Input) :
    Creates jobID input sessionID
      (levelStage runtime graph jobID input sessionID level (units.map Prod.snd) build) units := by
  unfold Creates levelStage
  generalize build.calls + 1 = call
  induction units generalizing call with
  | nil => exact .nil
  | cons _ _ ih => exact .cons ⟨_, rfl⟩ (ih (call + 1))

theorem build_stages_layers (levelIdx : Nat) {levels : List (List String)}
    (known : ∀ level ∈ levels, ∀ nodeID ∈ level, nodeID ∈ graph.nodes) (build : Build Input) :
    ∃ final stages, buildStages runtime graph jobID input sessionID levelIdx levels build =
        .ok final ∧ final.stages = build.stages ++ stages ∧
      List.Forall₂ (Creates jobID input sessionID) stages (layers graph levels) := by
  induction levels generalizing levelIdx build with
  | nil => exact ⟨build, [], rfl, by simp, .nil⟩
  | cons level rest ih =>
    have flat := flatten_level_units (known level mem_cons_self)
    have knownRest : ∀ other ∈ rest, ∀ nodeID ∈ other, nodeID ∈ graph.nodes :=
      fun other member => known other (mem_cons_of_mem _ member)
    obtain ⟨final, stages, built, added, creates⟩ := ih (levelIdx + 1) knownRest
      (addLevel runtime graph jobID input sessionID level
        ((levelUnits graph level).map Prod.snd) build)
    simp only [buildStages, flat, built]
    by_cases noWork : levelUnits graph level = []
    · refine ⟨final, stages, rfl, ?_, ?_⟩
      · simpa [noWork] using added
      · simpa [noWork] using creates
    · refine ⟨final, levelStage runtime graph jobID input sessionID level
        ((levelUnits graph level).map Prod.snd) build :: stages, rfl, ?_, ?_⟩
      · simpa [noWork] using added
      · have kept : layers graph (level :: rest) = levelUnits graph level :: layers graph rest := by
          simp [noWork]
        rw [kept]
        exact .cons (level_stage_creates runtime graph jobID input sessionID level _ build) creates

end Stages

theorem levels_forward (leveled : Leveled graph levels) : levels.Pairwise fun early late =>
      ∀ source ∈ late, ∀ target ∈ early, target ∉ graph.getEdges source := by
  rw [pairwise_iff_forall_sublist]
  intro early late sublist source sourceIn target targetIn edge
  obtain ⟨front, _, rfl, inFront, inBack⟩ := cons_sublist_iff.mp sublist
  obtain ⟨before, after, rfl⟩ := append_of_mem (singleton_sublist.mp inBack)
  have shaped : Leveled graph ((front ++ before) ++ late :: after) := by simpa using leveled
  refine leveled_forward shaped edge sourceIn ?_
  simp only [flatten_append, List.mem_append]
  exact .inl (mem_flatten.mpr ⟨early, inFront, targetIn⟩)

theorem unit_origin {unit : String × NodeInfo} (member : unit ∈ levelUnits graph level) :
    unit.1 ∈ level := by
  obtain ⟨_, inLevel, produced⟩ := mem_flatMap.mp member
  obtain ⟨_, _, rfl⟩ := List.mem_map.mp produced
  exact inLevel

theorem layers_forward (leveled : Leveled graph levels) :
    (layers graph levels).Pairwise fun early late =>
      ∀ source ∈ late, ∀ target ∈ early, target.1 ∉ graph.getEdges source.1 := by
  refine List.Pairwise.filter _ (pairwise_map.mpr ?_)
  refine (levels_forward leveled).imp fun {early late} forward source sourceIn target targetIn => ?_
  exact forward source.1 (unit_origin sourceIn) target.1 (unit_origin targetIn)

/-- Stage `index` has a task produced from the node. -/
def ProducedIn (runtime : Runtime) (graph : Graph) (nodeID : String) (index : Nat) : Prop :=
  ∃ layer, (taskOrigins runtime graph)[index]? = some layer ∧ ∃ unit ∈ layer, unit.1 = nodeID

variable {runtime : Runtime} {jobID sessionID : String}

theorem produced_forward (sorted : topologicalSort runtime graph = .ok levels)
    (edge : target ∈ graph.getEdges source) {earlier later : Nat}
    (sourceIn : ProducedIn runtime graph source earlier)
    (targetIn : ProducedIn runtime graph target later) : earlier < later := by
  have leveled := topological_sort_leveled runtime graph sorted
  obtain ⟨_, sourceAt, sourceUnit, inSource, rfl⟩ := sourceIn
  obtain ⟨_, targetAt, targetUnit, inTarget, rfl⟩ := targetIn
  simp only [taskOrigins, sorted] at sourceAt targetAt
  obtain ⟨sourceBound, rfl⟩ := List.getElem?_eq_some_iff.mp sourceAt
  obtain ⟨targetBound, rfl⟩ := List.getElem?_eq_some_iff.mp targetAt
  by_contra notEarlier
  rcases Nat.lt_or_eq_of_le (not_lt.mp notEarlier) with before | same
  · exact pairwise_iff_getElem.mp (layers_forward leveled) later earlier targetBound
      sourceBound before sourceUnit inSource targetUnit inTarget edge
  · subst same
    obtain ⟨_, inLevels, isLayer⟩ := List.mem_map.mp (mem_filter.mp (getElem_mem sourceBound)).1
    rw [← isLayer] at inSource inTarget
    obtain ⟨before, after, split⟩ := append_of_mem inLevels
    have early := leveled.earlier before _ after split _ _ (unit_origin inTarget) edge
    have apart := leveled.nodup
    rw [split, flatten_append, nodup_append] at apart
    exact apart.2.2 _ early _ (mem_flatten.mpr ⟨_, mem_cons_self, unit_origin inSource⟩) rfl

theorem created_layer_agents {stage : Stage Input} {units : List (String × NodeInfo)}
    (creates : Creates jobID input sessionID stage units) :
    stage.tasks.map (·.agentID) = units.map fun unit => unit.2.id := by
  unfold Creates at creates
  generalize stage.tasks = tasks at creates
  induction creates with
  | nil => rfl
  | cons task _ rest =>
    obtain ⟨_, rfl⟩ := task
    simp [createTask, rest]

theorem created_agents {stages : List (Stage Input)} {units : List (List (String × NodeInfo))}
    (creates : List.Forall₂ (Creates jobID input sessionID) stages units) :
    stages.flatMap (fun stage => stage.tasks.map (·.agentID)) =
      units.flatten.map fun unit => unit.2.id := by
  induction creates with
  | nil => rfl
  | cons layer _ ih => simp [created_layer_agents layer, ih]

theorem layers_flatten (graph : Graph) (levels : List (List String)) :
    (layers graph levels).flatten = levelUnits graph levels.flatten := by
  induction levels with
  | nil => rfl
  | cons level rest ih =>
    have split : levelUnits graph (level :: rest).flatten =
        levelUnits graph level ++ levelUnits graph rest.flatten := by
      simp [levelUnits]
    rw [split, ← ih]
    by_cases noWork : levelUnits graph level = [] <;> simp [noWork]

/-- What a node stands for: itself, or the units of its children in a row when it is a
`ParallelNode`. -/
inductive Leaves : Node → List NodeInfo → Prop where
  | unit (info : NodeInfo) : Leaves (.unit info) [info]
  | none (info : NodeInfo) : Leaves (.parallel info []) []
  | child (info : NodeInfo) {first : Node} {rest : List Node} {units others : List NodeInfo}
      (opened : Leaves first units) (siblings : Leaves (.parallel info rest) others) :
      Leaves (.parallel info (first :: rest)) (units ++ others)

mutual

theorem flatten_leaves : ∀ node : Node, Leaves node (flattenNode node)
  | .unit info => .unit info
  | .parallel info children => flatten_children_leaves info children

theorem flatten_children_leaves (info : NodeInfo) :
    ∀ children : List Node, Leaves (.parallel info children) (flattenParallelNode children)
  | [] => .none info
  | child :: rest => .child info (flatten_leaves child) (flatten_children_leaves info rest)

end

/-- The units of work behind the tasks that come from a node. -/
def unitsOf (runtime : Runtime) (graph : Graph) (nodeID : String) : List NodeInfo :=
  ((taskOrigins runtime graph).flatten.filter fun unit => decide (unit.1 = nodeID)).map (·.2)

theorem level_units_of {node : Node} (nodeID : String) (distinct : level.Nodup)
    (known : nodeID ∈ level) (found : graph.nodes.lookup nodeID = some node) :
    ((levelUnits graph level).filter fun unit => decide (unit.1 = nodeID)).map (·.2) =
      flattenNode node := by
  obtain ⟨before, after, rfl⟩ := append_of_mem known
  have apart := nodup_middle.mp distinct
  have others : ∀ part : List String, nodeID ∉ part →
      (levelUnits graph part).filter (fun unit => decide (unit.1 = nodeID)) = [] := by
    intro part outside
    refine filter_eq_nil_iff.mpr fun unit member same => outside ?_
    exact of_decide_eq_true same ▸ unit_origin member
  have split : levelUnits graph (before ++ nodeID :: after) = levelUnits graph before ++
      ((flattenNode node).map (Prod.mk nodeID) ++ levelUnits graph after) := by
    simp [levelUnits, found]
  have outside := (nodup_cons.mp apart).1
  rw [List.mem_append, not_or] at outside
  rw [split, filter_append, filter_append, others before outside.1, others after outside.2]
  have own : ((flattenNode node).map (Prod.mk nodeID)).filter
      (fun unit => decide (unit.1 = nodeID)) = (flattenNode node).map (Prod.mk nodeID) := by
    refine filter_eq_self.mpr fun unit member => ?_
    obtain ⟨_, _, rfl⟩ := List.mem_map.mp member
    exact decide_eq_true rfl
  simp [own]

theorem level_units_agents (graph : Graph) (level : List String)
    (units : String → List NodeInfo) (each : ∀ nodeID ∈ level,
      (graph.nodes.lookup nodeID).toList.flatMap flattenNode = units nodeID) :
    (levelUnits graph level).map (fun unit => unit.2.id) =
      level.flatMap fun nodeID => (units nodeID).map (·.id) := by
  unfold levelUnits
  rw [map_flatMap]
  refine flatMap_congr fun nodeID member => ?_
  simp [each nodeID member]

/-- What a compiled job looks like beside its graph. -/
structure LaysOut {Input : Type} (runtime : Runtime) (graph : Graph) (input : Option Input)
    (sessionID : String) (job : Job Input) : Prop where
  units : ∀ nodeID node, graph.nodes.lookup nodeID = some node →
    Leaves node (unitsOf runtime graph nodeID)
  agents : (job.stages.flatMap fun stage => stage.tasks.map (·.agentID) : Multiset String) =
    graph.allNodes.flatMap fun nodeID => (unitsOf runtime graph nodeID).map (·.id)
  nonempty : ∀ stage ∈ job.stages, stage.tasks ≠ []
  origins : List.Forall₂ (Creates job.id input sessionID) job.stages (taskOrigins runtime graph)
  forward : ∀ source target, target ∈ graph.getEdges source →
    ∀ earlier later, ProducedIn runtime graph source earlier →
      ProducedIn runtime graph target later → earlier < later

theorem sorted_known (sorted : topologicalSort runtime graph = .ok levels) :
    ∀ level ∈ levels, ∀ nodeID ∈ level, nodeID ∈ graph.nodes := by
  intro level inLevels nodeID inLevel
  exact (sorted_nodes sorted).mem_iff.mp (mem_flatten.mpr ⟨level, inLevels, inLevel⟩)

theorem compile_succeeds_iff (runtime : Runtime) (graph : Graph) (input : Option Input)
    (options : CompileOptions) :
    (∃ job, compileWithOptions runtime graph input options = .ok job) ↔
      graph.validate = .ok () ∧ Acyclic graph.getEdges := by
  rw [← topological_sort_iff runtime graph]
  unfold compileWithOptions compile
  cases valid : graph.validate with
  | error => simp
  | ok =>
    cases sorted : topologicalSort runtime graph with
    | error => simp
    | ok =>
      obtain ⟨_, _, built, _⟩ := build_stages_layers runtime graph
        (runtime.newUUID 0) input options.sessionID 0 (sorted_known sorted)
        ⟨1, ∅, none, []⟩
      simp [newJob, built]

theorem units_of_eq {nodeID : String} {node : Node}
    (sorted : topologicalSort runtime graph = .ok levels)
    (found : graph.nodes.lookup nodeID = some node) :
    unitsOf runtime graph nodeID = flattenNode node := by
  have known : nodeID ∈ graph.nodes := AList.lookup_isSome.mp (by simp [found])
  have origins : taskOrigins runtime graph = layers graph levels := by
    simp only [taskOrigins, sorted]
  rw [unitsOf, origins, layers_flatten]
  exact level_units_of nodeID (topological_sort_leveled runtime graph sorted).nodup
    ((sorted_nodes sorted).mem_iff.mpr known) found

theorem compiled_layering {options : CompileOptions} {job : Job Input}
    (compiled : compileWithOptions runtime graph input options = .ok job) :
    LaysOut runtime graph input options.sessionID job := by
  unfold compileWithOptions at compiled
  cases made : compile runtime graph input options with
  | error =>
    rw [made] at compiled
    cases compiled
  | ok compilation =>
    rw [made] at compiled
    obtain rfl : compilation.job = job := Except.ok.inj compiled
    have spec := compile_spec runtime graph input options made
    unfold compile at made
    split at made
    · cases made
    · dsimp only at made
      split at made
      · cases made
      · rename_i levels sorted
        obtain ⟨_, _, built, added, creates⟩ := build_stages_layers runtime graph
          (runtime.newUUID 0) input options.sessionID 0 (sorted_known sorted)
          ⟨1, ∅, none, []⟩
        simp only [newJob, built, Except.ok.injEq] at made
        subst made
        simp only [nil_append] at added
        refine ⟨fun nodeID node found => ?_, ?_,
          fun stage member => (spec.stages stage member).nonempty, ?_, ?_⟩
        · rw [units_of_eq sorted found]
          exact flatten_leaves node
        · rw [Multiset.coe_eq_coe]
          dsimp only
          rw [added, created_agents creates, layers_flatten, level_units_agents graph _
            (unitsOf runtime graph) fun nodeID member => ?_]
          · exact (sorted_nodes sorted).flatMap_right _
          · obtain ⟨node, found⟩ := Option.isSome_iff_exists.mp
              (AList.lookup_isSome.mpr ((sorted_nodes sorted).mem_iff.mp member))
            simp [units_of_eq sorted found, found]
        · rw [taskOrigins, sorted]
          exact added ▸ creates
        · intro source target edge earlier later sourceIn targetIn
          exact produced_forward sorted edge sourceIn targetIn

/-- Compilation succeeds for the valid graphs without a directed cycle and for
no others, and lays their units of work out in stages. -/
theorem compile_is_layering {Input : Type} (runtime : Runtime) (graph : Graph)
    (input : Option Input) (options : CompileOptions) :
    ((∃ job, compileWithOptions runtime graph input options = .ok job) ↔
        graph.validate = .ok () ∧ Acyclic graph.getEdges) ∧
      ∀ job, compileWithOptions runtime graph input options = .ok job →
        LaysOut runtime graph input options.sessionID job :=
  ⟨compile_succeeds_iff runtime graph input options, fun _ compiled => compiled_layering compiled⟩

end Dagens.Graph.Layering
