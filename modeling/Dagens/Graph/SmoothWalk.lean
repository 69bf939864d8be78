import Dagens.Lib.DepthFirst
import Dagens.Graph.Traversal

/-!
# Walks that nothing stops

When every node succeeds and the context stays active, a walk that follows all
edges is a depth-first search: it runs the nodes that it marks, each once, and
these are the nodes that the first one leads to.
-/

namespace Dagens.Graph.SmoothWalk

open Lib.DepthFirst Traversal List

section Search

variable {State : Type} {workflow : Workflow State} {walker : Walker State}

/-- Nothing stops the walk and no edge is declined. -/
structure Smooth (workflow : Workflow State) (walker : Walker State) : Prop where
  succeeds : ∀ nodeID state, (workflow.execute nodeID state).1 = none
  uncancelled : ∀ state, walker.interrupted state = none
  heedless : ∀ edge state, walker.follows edge state = true

/-- The nodes marked and the nodes run are the same, and they are `nodes`. -/
def Marked (nodes : List String) (result : Option WalkError × Walk State) : Prop :=
  result.1 = none ∧ result.2.visited = nodes ∧ ranNodes result.2.log = nodes

def Searches (workflow : Workflow State) (fuel : Nat) (nodeID : String) (walk : Walk State)
    (result : Option WalkError × Walk State) : Prop :=
  nodeID ∈ workflow.graph.nodes → unseen workflow.graph.nodes.keys walk.visited < fuel →
    ranNodes walk.log = walk.visited →
    Marked (visit workflow.graph.getEdges fuel nodeID walk.visited) result

def SearchesAll (workflow : Workflow State) (fuel : Nat) (edges : List (Edge State))
    (walk : Walk State) (result : Option WalkError × Walk State) : Prop :=
  (∀ edge ∈ edges, edge.toID ∈ workflow.graph.nodes) →
    unseen workflow.graph.nodes.keys walk.visited < fuel →
    ranNodes walk.log = walk.visited →
    Marked (visitAll workflow.graph.getEdges fuel (edges.map Edge.toID) walk.visited) result

theorem outgoing_known (workflow : Workflow State) (nodeID : String) :
    ∀ edge ∈ workflow.outgoing nodeID, edge.toID ∈ workflow.graph.nodes := by
  intro edge member
  have target : edge.toID ∈ workflow.graph.getEdges nodeID := by
    rw [← workflow.targets nodeID]
    exact mem_map_of_mem member
  exact (edges_closed workflow.graph nodeID edge.toID target).2

theorem smooth_cases (smooth : Smooth workflow walker) :
    WalkCases workflow walker (Searches workflow) fun fuel _ => SearchesAll workflow fuel where
  exhausted := by
    intro nodeID walk _ enough
    omega
  cancelled := by
    intro fuel nodeID walk err check
    rw [smooth.uncancelled] at check
    cases check
  seen := by
    intro fuel nodeID walk _ seen _ _ agree
    rw [visit_seen _ seen]
    exact ⟨rfl, rfl, agree⟩
  missing := by
    intro fuel nodeID walk err _ _ found known
    obtain ⟨node, present⟩ := get_node_ok known
    rw [present] at found
    cases found
  failing := by
    intro fuel nodeID walk node err after _ _ _ ran
    have succeeded := smooth.succeeds nodeID (walk.enter nodeID).state
    rw [Walk.runNode, Prod.mk.injEq, succeeded] at ran
    cases ran.1
  entered := by
    intro fuel nodeID walk node after result _ new _ ran follow known enough agree
    have less := unseen_cons known new
    rw [Walk.runNode, Prod.mk.injEq] at ran
    obtain ⟨-, rfl⟩ := ran
    have followed := follow (outgoing_known workflow nodeID)
      (by simp only [Walk.enter]; omega) (by simp [Walk.enter, ranNodes, agree])
    rw [visit_new fuel new]
    simpa [Walk.enter, workflow.targets] using followed
  done := by
    intro fuel source walk _ _ agree
    exact ⟨rfl, rfl, agree⟩
  stopped := by
    intro fuel source edge rest walk err check
    rw [smooth.uncancelled] at check
    cases check
  broken := by
    intro fuel source edge rest walk err after _ _ visit known enough agree
    obtain ⟨returned, -⟩ := visit (known edge mem_cons_self) enough agree
    cases returned
  passed := by
    intro fuel source edge rest walk after result _ _ visited follow known enough agree
    obtain ⟨-, marked, ran⟩ := visited (known edge mem_cons_self) enough agree
    have grown : walk.visited ⊆ after.visited := by
      simp only at marked
      rw [marked]
      exact (visit_grows fuel edge.toID _).subset
    have followed := follow (fun other member => known other (mem_cons_of_mem _ member))
      (lt_of_le_of_lt (unseen_mono _ grown) enough) (ran.trans marked.symm)
    simp only at marked
    rw [marked] at followed
    simpa [Walk.consider] using followed
  declined := by
    intro fuel source edge rest walk result _ asked
    rw [smooth.heedless] at asked
    cases asked

end Search

section Run

variable {State : Type} [ExecutionState State] (workflow : Workflow State)

/-- A run of a valid graph in which every node succeeds is the search from the
entry. -/
theorem execution_searches (state : State) (valid : workflow.graph.validate = .ok ())
    (succeeds : ∀ nodeID state, (workflow.execute nodeID state).1 = none)
    (active : ∀ state : State, ExecutionState.ctxErr state = none) :
    ranNodes (executeWithResult workflow state).2.log =
      visit workflow.graph.getEdges (depth workflow) workflow.graph.entryNode [] := by
  obtain ⟨-, known⟩ := valid_entry valid
  have smooth : Smooth workflow (graphWalker workflow) := ⟨succeeds, active, fun _ _ => rfl⟩
  have searched := traverse_induction (smooth_cases smooth)
    (depth workflow) workflow.graph.entryNode (begin state []) known
    (by simp [unseen, depth, begin]) rfl
  rw [execute_valid workflow state valid]
  exact searched.2.2

theorem nodes_closed (graph : Graph) : ∀ node ∈ graph.nodes.keys,
    ∀ target ∈ graph.getEdges node, target ∈ graph.nodes.keys :=
  fun node _ target edge => (edges_closed graph node target edge).2

end Run

end Dagens.Graph.SmoothWalk
