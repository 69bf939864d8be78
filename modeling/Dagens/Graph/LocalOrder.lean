import Dagens.Graph.SmoothWalk
import Dagens.Graph.Layering

/-!
# Local order and compiled order

`ExecuteWithResult` runs the nodes of a graph in depth-first preorder, while the
compiler sorts them into levels. On an acyclic graph the levels respect every
edge. The preorder does so exactly when the edges of every node are in an order
that fits: a node with two ways into it may otherwise run before one of them.
-/

namespace Dagens.Graph.LocalOrder

open Lib Chronicle DepthFirst Traversal SmoothWalk List Relation.ReflTransGen

/-- Every node was run after all its predecessors that the entry leads to; the
newest node is first. -/
def AfterPredecessors (graph : Graph) (ran : List String) : Prop :=
  AtEvery (fun
    | [] => True
    | nodeID :: earlier => ∀ predecessor, Reach graph.getEdges graph.entryNode predecessor →
        nodeID ∈ graph.getEdges predecessor → predecessor ∈ earlier) ran

variable {graph : Graph}

theorem acyclic_edge (acyclic : KahnLevels.Acyclic graph.getEdges) (nodeID target : String)
    (edge : target ∈ graph.getEdges nodeID) :
    ¬ Reach graph.getEdges target nodeID :=
  fun path => acyclic nodeID (.head' edge path)

variable {ran : List String}

theorem topological_after (acyclic : KahnLevels.Acyclic graph.getEdges)
    (complete : ∀ nodeID, Reach graph.getEdges graph.entryNode nodeID → nodeID ∈ ran)
    (ordered : Topological graph.getEdges ran) : AfterPredecessors graph ran := by
  rintro (_ | ⟨nodeID, earlier⟩) moment
  · trivial
  · intro predecessor reached edge
    obtain ⟨later, rfl⟩ := moment
    have member := complete predecessor reached
    simp only [mem_append, mem_cons] at member
    rcases member with late | same | early
    · -- a predecessor that ran later would reach a node marked before it
      obtain ⟨front, back, rfl⟩ := append_of_mem late
      refine absurd (single edge)
        (ordered (predecessor :: (back ++ nodeID :: earlier)) ⟨front, by simp⟩ nodeID ?_)
      simp
    · exact absurd .refl (same ▸ acyclic_edge acyclic predecessor nodeID edge)
    · exact early

theorem after_topological (distinct : ran.Nodup)
    (sound : ∀ nodeID ∈ ran, Reach graph.getEdges graph.entryNode nodeID)
    (after : AfterPredecessors graph ran) : Topological graph.getEdges ran := by
  rintro (_ | ⟨nodeID, earlier⟩) moment
  · trivial
  · intro marked old path
    have reached : Reach graph.getEdges graph.entryNode nodeID :=
      sound nodeID (moment.subset mem_cons_self)
    -- walking back along the path, every node on it ran earlier
    have back : ∀ middle, Reach graph.getEdges nodeID middle →
        Reach graph.getEdges middle marked → middle ∈ earlier := by
      intro middle above below
      induction below using head_induction_on with
      | refl => exact old
      | head edge _ ih =>
        have lower := ih (above.tail edge)
        obtain ⟨front, rest, split⟩ := append_of_mem lower
        have suffix : _ :: rest <:+ earlier := ⟨front, split.symm⟩
        have run := after _ ((suffix.trans (suffix_cons nodeID earlier)).trans moment)
        exact suffix.subset (mem_cons_of_mem _ (run _ (reached.trans above) edge))
    have unique := distinct.sublist moment.sublist
    exact (nodup_cons.mp unique).1 (back nodeID .refl path)

section Run

variable {State : Type} [ExecutionState State] (workflow : Workflow State)

/-- A local run respects the edges exactly when the edges of every node below
the entry fit, and the compiled stages respect them always. -/
theorem local_order_iff (state : State) (valid : workflow.graph.validate = .ok ())
    (acyclic : KahnLevels.Acyclic workflow.graph.getEdges)
    (succeeds : ∀ nodeID state, (workflow.execute nodeID state).1 = none)
    (active : ∀ state : State, ExecutionState.ctxErr state = none) :
    (AfterPredecessors workflow.graph (ranNodes (executeWithResult workflow state).2.log) ↔
      Tidy workflow.graph.getEdges workflow.graph.entryNode) ∧
    ∀ {Input : Type} (runtime : Compiler.Runtime) (input : Option Input)
      (options : Compiler.CompileOptions),
      ∃ job, Compiler.compileWithOptions runtime workflow.graph input options = .ok job ∧
        Layering.LaysOut runtime workflow.graph input options.sessionID job := by
  obtain ⟨-, known⟩ := valid_entry valid
  have closed := nodes_closed workflow.graph
  have enough : unseen workflow.graph.nodes.keys [] < depth workflow := by simp [unseen, depth]
  have fresh : Fresh workflow.graph.getEdges workflow.graph.entryNode [] :=
    fun _ _ => not_mem_nil
  have reaches := visit_reaches closed (depth workflow) workflow.graph.entryNode [] known enough
    fresh
  have edgewise := acyclic_edge acyclic
  constructor
  · rw [execution_searches workflow state valid succeeds active]
    constructor
    · intro after
      refine topological_tidy closed edgewise (depth workflow) _ [] known enough fresh ?_
      refine after_topological (visit_nodup _ _ _ nodup_nil) ?_ after
      exact fun nodeID member => ((reaches nodeID).mp member).resolve_left not_mem_nil
    · intro tidy
      refine topological_after acyclic (fun nodeID reached => (reaches nodeID).mpr (.inr reached)) ?_
      exact tidy_topological closed edgewise (depth workflow) _ [] known enough fresh
        (at_every_nil.mpr trivial) tidy
  · intro Input runtime input options
    obtain ⟨job, compiled⟩ := (Layering.compile_succeeds_iff runtime workflow.graph input
      options).mpr ⟨valid, acyclic⟩
    exact ⟨job, compiled, Layering.compiled_layering compiled⟩

end Run

theorem ranked_acyclic (rank : String → Nat)
    (rises : ∀ source ∈ graph.nodes.keys, ∀ target ∈ graph.getEdges source,
      rank source < rank target) : KahnLevels.Acyclic graph.getEdges := by
  intro node cycle
  have climbs : ∀ target, Relation.TransGen (fun source target => target ∈ graph.getEdges source)
      node target → rank node < rank target := by
    intro target path
    induction path with
    | single edge => exact rises node (edges_closed graph node _ edge).1 _ edge
    | tail _ edge lower => exact lower.trans (rises _ (edges_closed graph _ _ edge).1 _ edge)
  exact lt_irrefl _ (climbs node cycle)

theorem after_checked
    (checked : ∀ moment ∈ ran.tails, ∀ nodeID ∈ moment.head?, ∀ predecessor ∈ graph.nodes.keys,
      nodeID ∈ graph.getEdges predecessor → predecessor ∈ moment.tail) :
    AfterPredecessors graph ran := by
  rintro (_ | ⟨nodeID, _⟩) moment
  · trivial
  · intro predecessor _ edge
    exact checked _ ((mem_tails _ _).mpr moment) nodeID rfl predecessor
      (edges_closed graph predecessor nodeID edge).1 edge

def calmNode (nodeID : String) (diary : Diary) : Option NodeError × Diary :=
  (none, ⟨nodeID :: diary.executed⟩)

def diamond : Workflow Diary :=
  directWorkflow (graphOf ["start", "left", "right", "join"]
    [("start", "left"), ("start", "right"), ("left", "join"), ("right", "join")]) calmNode

/-- The second edge of `start` leads where the first one has led already. -/
def shortcut : Workflow Diary :=
  directWorkflow (graphOf ["start", "middle", "finish"]
    [("start", "middle"), ("start", "finish"), ("middle", "finish")]) calmNode

/-- `join` runs before `right`, its second predecessor. -/
theorem diamond_joins_early :
    diamond.graph.validate = .ok () ∧ KahnLevels.Acyclic diamond.graph.getEdges ∧
      (∀ nodeID state, (diamond.execute nodeID state).1 = none) ∧
      ranNodes (executeWithResult diamond ⟨[]⟩).2.log = ["right", "join", "left", "start"] ∧
      ¬ AfterPredecessors diamond.graph
        (ranNodes (executeWithResult diamond ⟨[]⟩).2.log) := by
  have order : ranNodes (executeWithResult diamond ⟨[]⟩).2.log =
      ["right", "join", "left", "start"] := by decide +kernel
  have edges : "right" ∈ diamond.graph.getEdges "start" ∧
      "join" ∈ diamond.graph.getEdges "right" := by decide +kernel
  have entry : diamond.graph.entryNode = "start" := by decide +kernel
  refine ⟨by decide +kernel, ranked_acyclic (fun nodeID => ["start", "left", "right",
    "join"].idxOf nodeID) (by decide +kernel), fun _ _ => rfl, order, ?_⟩
  rw [order]
  intro after
  have late := after ["join", "left", "start"] ⟨["right"], rfl⟩ "right"
    (entry ▸ single edges.1) edges.2
  simp at late

theorem shortcut_order_kept :
    AfterPredecessors shortcut.graph (ranNodes (executeWithResult shortcut ⟨[]⟩).2.log) ∧
      Tidy shortcut.graph.getEdges shortcut.graph.entryNode := by
  have order : AfterPredecessors shortcut.graph
      (ranNodes (executeWithResult shortcut ⟨[]⟩).2.log) :=
    after_checked (by decide +kernel)
  refine ⟨order, (local_order_iff shortcut ⟨[]⟩ (by decide +kernel) ?_ (fun _ _ => rfl)
    (fun _ => rfl)).1.mp order⟩
  exact ranked_acyclic (fun nodeID => ["start", "middle", "finish"].idxOf nodeID)
    (by decide +kernel)

end Dagens.Graph.LocalOrder
