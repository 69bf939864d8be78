import Dagens.Graph.Model
import Dagens.Lib.DepthFirst

/-!
# Reaching a finish node

The search of `canReachFinish` returns on every graph, and finds a finish node
exactly when a path leads to one.
-/

namespace Dagens.Graph.FinishSearch

open Lib.DepthFirst List

/-- A search that returns, however many calls it makes. -/
inductive Searches (graph : Graph) : List String → List String → Bool → Prop
  | ends (visited) : Searches graph visited [] false
  | skips {visited nodeID agenda found} : nodeID ∈ visited →
      Searches graph visited agenda found → Searches graph visited (nodeID :: agenda) found
  | finds {visited nodeID} (agenda) : nodeID ∉ visited → nodeID ∈ graph.finishNodes →
      Searches graph visited (nodeID :: agenda) true
  | expands {visited nodeID agenda found} : nodeID ∉ visited → nodeID ∉ graph.finishNodes →
      Searches graph (nodeID :: visited) (graph.getEdges nodeID ++ agenda) found →
      Searches graph visited (nodeID :: agenda) found

def Finishes (graph : Graph) (nodeID : String) : Prop :=
  ∃ finish ∈ graph.finishNodes, Reach graph.getEdges nodeID finish

/-- The number of edges of the nodes that are not visited. -/
def edgesLeft (graph : Graph) (visited : List String) : Nat :=
  ((graph.edges.entries.filter fun entry => decide (entry.1 ∉ visited)).map (·.2.length)).sum

variable {graph : Graph} {visited agenda : List String} {nodeID : String} {found : Bool}

theorem edges_left_cons (graph : Graph) (new : nodeID ∉ visited) :
    (graph.getEdges nodeID).length + edgesLeft graph (nodeID :: visited) ≤
      edgesLeft graph visited := by
  have fewer : (graph.edges.entries.filter fun entry => decide (entry.1 ∉ nodeID :: visited)) <+
      graph.edges.entries.filter fun entry => decide (entry.1 ∉ visited) :=
    monotone_filter_right _ (by simp)
  unfold Graph.getEdges edgesLeft
  cases stored : graph.edges.lookup nodeID with
  | none =>
    have less := (fewer.map (·.2.length)).sum_le_sum (by simp)
    simpa using less
  | some targets =>
    have entry : ⟨nodeID, targets⟩ ∈ graph.edges.entries.filter fun entry =>
        decide (entry.1 ∉ visited) := by
      simpa [new] using AList.mem_lookup_iff.mp stored
    obtain ⟨_, same, inside⟩ := cons_subperm_of_not_mem_of_mem (by simp) entry fewer.subperm
    have less := (inside.map (·.2.length)).sum_le_sum (by simp)
    rw [(same.map _).sum_eq] at less
    simpa using less

/-- Every call takes one from the agenda, and every edge puts one there once. -/
theorem search_returns (fuel : Nat) (enough : agenda.length + edgesLeft graph visited < fuel) :
    Searches graph visited agenda (dfs graph fuel visited agenda) := by
  induction fuel generalizing visited agenda with
  | zero => omega
  | succ fuel ih =>
    cases agenda with
    | nil => exact .ends visited
    | cons nodeID agenda =>
      rw [length_cons] at enough
      rw [dfs]
      split_ifs with seen finish
      · exact .skips seen (ih (by omega))
      · exact .finds agenda seen finish
      · have fewer := edges_left_cons graph seen
        refine .expands seen finish (ih ?_)
        rw [length_append]
        omega

/-- Nothing visited is a finish node, and what it leads to is visited or on the agenda. -/
def Closed (graph : Graph) (visited agenda : List String) : Prop :=
  ∀ source ∈ visited, source ∉ graph.finishNodes ∧
    ∀ target ∈ graph.getEdges source, target ∈ visited ∨ target ∈ agenda

theorem finishes_visited (closed : Closed graph visited agenda) (seen : nodeID ∈ visited)
    (finishes : Finishes graph nodeID) : ∃ start ∈ agenda, Finishes graph start := by
  obtain ⟨finish, isFinish, path⟩ := finishes
  induction path using Relation.ReflTransGen.head_induction_on with
  | refl => exact absurd isFinish (closed _ seen).1
  | head edge path ih =>
    rcases (closed _ seen).2 _ edge with old | waiting
    · exact ih old
    · exact ⟨_, waiting, finish, isFinish, path⟩

theorem finishes_edges (plain : nodeID ∉ graph.finishNodes) :
    Finishes graph nodeID ↔ ∃ target ∈ graph.getEdges nodeID, Finishes graph target := by
  constructor
  · rintro ⟨finish, isFinish, path⟩
    rcases path.cases_head with rfl | ⟨target, edge, path⟩
    · exact absurd isFinish plain
    · exact ⟨target, edge, finish, isFinish, path⟩
  · rintro ⟨target, edge, finish, isFinish, path⟩
    exact ⟨finish, isFinish, .head edge path⟩

theorem search_exact (searched : Searches graph visited agenda found)
    (closed : Closed graph visited agenda) :
    found = true ↔ ∃ start ∈ agenda, Finishes graph start := by
  induction searched with
  | ends => simp
  | @skips visited nodeID agenda found seen _ ih =>
    have inside : Closed graph visited agenda := by
      intro source member
      refine (closed source member).imp_right fun edges target edge => ?_
      grind [edges target edge]
    rw [ih inside, exists_mem_cons_iff]
    exact ⟨.inr, fun either => either.elim (finishes_visited inside seen) id⟩
  | finds _ _ finish =>
    exact iff_of_true rfl ⟨_, mem_cons_self, _, finish, .refl⟩
  | @expands visited nodeID agenda found _ plain _ ih =>
    have inside : Closed graph (nodeID :: visited) (graph.getEdges nodeID ++ agenda) := by
      intro source member
      rcases mem_cons.mp member with rfl | old
      · exact ⟨plain, fun target edge => .inr (mem_append_left _ edge)⟩
      · refine (closed source old).imp_right fun edges target edge => ?_
        grind [edges target edge]
    simp only [ih inside, exists_mem_cons_iff, finishes_edges plain, mem_append, or_and_right,
      exists_or]

/-- The search returns, and is right. -/
theorem can_reach_finish_iff (graph : Graph) :
    Searches graph [] [graph.entryNode] graph.canReachFinish ∧
    (graph.canReachFinish = true ↔ ∃ finish ∈ graph.finishNodes,
      Reach graph.getEdges graph.entryNode finish) := by
  have returned : Searches graph [] [graph.entryNode] graph.canReachFinish :=
    search_returns _ (by simp [edgesLeft])
  refine ⟨returned, (search_exact returned fun _ none => absurd none not_mem_nil).trans ?_⟩
  simp [Finishes]

end Dagens.Graph.FinishSearch
