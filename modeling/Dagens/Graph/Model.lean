import Dagens.Scheduler.GoSupport

/-!
# Workflow graphs

`Graph` of `graph.go` as far as compilation reads it: nodes by id, the targets
of each node's edges, the entry and the finish nodes. The adding operations are
the only way to grow a graph, so every graph names its nodes by their own ids
and has edges between its own nodes only; both facts are fields.
-/

namespace Dagens.Graph

open Scheduler.GoSupport

set_option linter.dupNamespace false

/-- What the compiler reads of any node; `partition` is the metadata entry of
that name when it is a string. -/
structure NodeInfo where
  id : String
  name : String
  partition : Option String
  deriving DecidableEq, Repr

/-- Only `ParallelNode` is opened by the compiler. Every other node type is a
single unit of work. -/
inductive Node where
  | unit (info : NodeInfo)
  | parallel (info : NodeInfo) (children : List Node)

def Node.info : Node → NodeInfo
  | .unit info => info
  | .parallel info _ => info

structure Graph where
  name : String
  nodes : AList (fun _ : String => Node)
  edges : AList (fun _ : String => List String)
  entryNode : String
  finishNodes : List String
  node_ids : ∀ nodeID node, nodes.lookup nodeID = some node → node.info.id = nodeID
  edge_ends : ∀ source targets, edges.lookup source = some targets →
    source ∈ nodes ∧ ∀ target ∈ targets, target ∈ nodes

def newGraph (name : String) : Graph where
  name := name
  nodes := ∅
  edges := ∅
  entryNode := ""
  finishNodes := []
  node_ids := by simp
  edge_ends := by simp

/-- `GetEdges`, reduced to the targets. -/
def Graph.getEdges (graph : Graph) (source : String) : List String :=
  (graph.edges.lookup source).getD []

def Graph.getNode (graph : Graph) (nodeID : String) : Except GoError Node :=
  match graph.nodes.lookup nodeID with
  | none => .error (.plain ("node " ++ nodeID ++ " not found"))
  | some node => .ok node

def Graph.allNodes (graph : Graph) : List String := graph.nodes.keys

def Graph.addNode (graph : Graph) (node : Node) : Except GoError Graph :=
  if fresh : node.info.id ∈ graph.nodes then
    .error (.plain ("node " ++ node.info.id ++ " already exists in graph"))
  else
    .ok
      { graph with
        nodes := graph.nodes.insert node.info.id node
        node_ids := by
          intro nodeID other found
          by_cases same : nodeID = node.info.id
          · subst same
            rw [AList.lookup_insert, Option.some.injEq] at found
            rw [← found]
          · rw [AList.lookup_insert_ne same] at found
            exact graph.node_ids nodeID other found
        edge_ends := by
          intro source targets found
          obtain ⟨known, ends⟩ := graph.edge_ends source targets found
          simp only [AList.mem_insert]
          exact ⟨.inr known, fun target member => .inr (ends target member)⟩ }

def Graph.addEdge (graph : Graph) (source target : String) : Except GoError Graph :=
  if known : source ∈ graph.nodes then
    if targetKnown : target ∈ graph.nodes then
      .ok
        { graph with
          edges := graph.edges.insert source (graph.getEdges source ++ [target])
          edge_ends := by
            intro other targets found
            by_cases same : other = source
            · subst same
              rw [AList.lookup_insert, Option.some.injEq] at found
              refine ⟨known, fun last member => ?_⟩
              rw [← found, List.mem_append, List.mem_singleton] at member
              rcases member with old | new
              · unfold Graph.getEdges at old
                cases present : graph.edges.lookup other with
                | none => simp [present] at old
                | some olds =>
                  rw [present] at old
                  exact (graph.edge_ends other olds present).2 last old
              · exact new ▸ targetKnown
            · rw [AList.lookup_insert_ne same] at found
              exact graph.edge_ends other targets found }
    else .error (.plain ("target node " ++ target ++ " not found"))
  else .error (.plain ("source node " ++ source ++ " not found"))

def Graph.setEntry (graph : Graph) (nodeID : String) : Except GoError Graph :=
  if nodeID ∈ graph.nodes then .ok { graph with entryNode := nodeID }
  else .error (.plain ("entry node " ++ nodeID ++ " not found"))

def Graph.addFinish (graph : Graph) (nodeID : String) : Except GoError Graph :=
  if nodeID ∈ graph.nodes then
    .ok { graph with
      finishNodes := if nodeID ∈ graph.finishNodes then graph.finishNodes
        else graph.finishNodes ++ [nodeID] }
  else .error (.plain ("finish node " ++ nodeID ++ " not found"))

/-- The depth-first search of `canReachFinish`: `agenda` are the calls still to
be made, in their order. -/
def dfs (graph : Graph) : Nat → List String → List String → Bool
  | 0, _, _ => false
  | _ + 1, _, [] => false
  | fuel + 1, visited, nodeID :: agenda =>
    if nodeID ∈ visited then dfs graph fuel visited agenda
    else if nodeID ∈ graph.finishNodes then true
    else dfs graph fuel (nodeID :: visited) (graph.getEdges nodeID ++ agenda)

/-- Each node is expanded once, so each edge is followed at most once. -/
def Graph.canReachFinish (graph : Graph) : Bool :=
  dfs graph (2 + (graph.edges.entries.map (·.2.length)).sum) [] [graph.entryNode]

def Graph.validate (graph : Graph) : Except GoError Unit :=
  if graph.nodes.keys.isEmpty then .error (.plain "graph has no nodes")
  else if graph.entryNode = "" then .error (.plain "graph has no entry node")
  else if graph.entryNode ∉ graph.nodes then
    .error (.plain ("entry node " ++ graph.entryNode ++ " does not exist"))
  else if graph.finishNodes.isEmpty then .error (.plain "graph has no finish nodes")
  else
    match graph.finishNodes.find? fun finish => decide (finish ∉ graph.nodes) with
    | some finish => .error (.plain ("finish node " ++ finish ++ " does not exist"))
    | none =>
      if graph.canReachFinish then .ok ()
      else .error (.plain "entry node cannot reach any finish node")

theorem edges_closed (graph : Graph) (source : String) :
    ∀ target ∈ graph.getEdges source, source ∈ graph.nodes ∧ target ∈ graph.nodes := by
  intro target member
  unfold Graph.getEdges at member
  cases found : graph.edges.lookup source with
  | none => simp [found] at member
  | some targets =>
    rw [found] at member
    obtain ⟨known, ends⟩ := graph.edge_ends source targets found
    exact ⟨known, ends target member⟩

end Dagens.Graph
