import Dagens.Graph.Model

/-!
# Local execution of a graph

The four walks that run the nodes of a graph in process: `ExecuteWithResult` and
`ResumeFromPaused` of `graph.go`, `ExecuteWithObservability`, and the executor of
`a2a_integration.go`. They differ in whether they look at the context, in whether
they ask an edge before they follow it, and in what they make of an error.

A walk carries the state that nodes read and write, the `visited` map, and a log
of what happened, newest first. The log is not part of the source.
-/

namespace Dagens.Graph.Traversal

open Scheduler.GoSupport

/-- What the walks need of `State` and of the context they are given: `ctx.Err()`
(a nil context has none), the pause marker under `PauseRequestIDStateKey` when it
is a string, the assignment to that key, and `NewMemoryState`. -/
class ExecutionState (State : Type) where
  ctxErr : State → Option GoError
  requestIDFromState : State → String
  setRequestID : String → State → State
  newMemoryState : State

/-- The edge types of `edge.go` and `A2AEdge`. A missing function is `none`. -/
inductive Edge (State : Type) where
  | direct (source target : String)
  | conditional (source target : String) (condition : Option (State → Bool))
  | dynamic (source : String) (selector : Option (State → String))
  | agent (source target : String) (condition : Option (State → Except GoError Bool))

namespace Edge

variable {State : Type}

/-- A dynamic edge names no target. -/
def toID : Edge State → String
  | .direct _ target => target
  | .conditional _ target _ => target
  | .dynamic _ _ => ""
  | .agent _ target _ => target

def toWithState (selector : Option (State → String)) (state : State) : String :=
  match selector with
  | none => ""
  | some select => select state

def shouldTraverse (edge : Edge State) (state : State) : Bool :=
  match edge with
  | .direct _ _ => true
  | .conditional _ _ none => true
  | .conditional _ _ (some condition) => condition state
  | .dynamic _ selector => decide (toWithState selector state ≠ "")
  | .agent _ _ none => true
  | .agent _ _ (some condition) =>
    match condition state with
    | .ok success => success
    | .error _ => false

end Edge

structure PausedResult where
  requestID : String
  nodeID : String
  graphVersion : String
  deriving DecidableEq, Repr

structure ExecutionResult where
  paused : Option PausedResult
  deriving DecidableEq, Repr

def ExecutionResult.isPaused (result : ExecutionResult) : Bool := result.paused.isSome

/-- An error that a node returns, with the `PauseSignal` that `errors.As` finds
in its chain. -/
structure NodeError where
  error : GoError
  pauseSignal : Option PausedResult
  deriving DecidableEq, Repr

def NodeError.wrap (front : String) (err : NodeError) : NodeError :=
  { err with error := err.error.wrap front }

/-- How a walk ends early; `outOfFuel` belongs to the model only. -/
inductive WalkError where
  | paused (result : PausedResult) (cause : NodeError)
  | failed (err : NodeError)
  | outOfFuel
  deriving DecidableEq, Repr

def failedPlain (err : GoError) : WalkError := .failed ⟨err, none⟩

/-- A graph together with the behaviour of its nodes and edges. `version` is
`graphVersion`, and `isA2ANode` the type switch of the A2A executor. -/
structure Workflow (State : Type) where
  graph : Graph
  version : String
  isA2ANode : String → Bool
  execute : String → State → Option NodeError × State
  outgoing : String → List (Edge State)
  targets : ∀ nodeID, (outgoing nodeID).map Edge.toID = graph.getEdges nodeID

inductive Event (State : Type) where
  | ran (nodeID : String) (outcome : Option NodeError)
  | considered (source : String) (edge : Edge State) (state : State)

structure Walk (State : Type) where
  state : State
  visited : List String
  log : List (Event State)

namespace Walk

variable {State : Type}

def enter (walk : Walk State) (nodeID : String) : Walk State :=
  { walk with visited := nodeID :: walk.visited }

def consider (walk : Walk State) (source : String) (edge : Edge State) : Walk State :=
  { walk with log := .considered source edge walk.state :: walk.log }

def runNode (walk : Walk State) (workflow : Workflow State) (nodeID : String) :
    Option NodeError × Walk State :=
  let (outcome, state) := workflow.execute nodeID walk.state
  (outcome, { walk with state := state, log := .ran nodeID outcome :: walk.log })

end Walk

/-- The nodes that a log says were run, newest first. -/
def ranNodes {State : Type} : List (Event State) → List String
  | [] => []
  | .ran nodeID _ :: log => nodeID :: ranNodes log
  | .considered _ _ _ :: log => ranNodes log

/-- Where the walks differ: the check of the context, the question to an edge,
and the error made of a missing node and of a failing one. -/
structure Walker (State : Type) where
  interrupted : State → Option GoError
  follows : Edge State → State → Bool
  missing : String → GoError → WalkError
  failure : String → NodeError → State → WalkError

section Walks

variable {State : Type} (workflow : Workflow State) (walker : Walker State)

/-- The loop over the outgoing edges of `source`; `call` is the recursive call. -/
def followEdges (call : String → Walk State → Option WalkError × Walk State) (source : String) :
    List (Edge State) → Walk State → Option WalkError × Walk State
  | [], walk => (none, walk)
  | edge :: rest, walk =>
    match walker.interrupted walk.state with
    | some err => (some (failedPlain err), walk)
    | none =>
      if walker.follows edge walk.state then
        match call edge.toID (walk.consider source edge) with
        | (some err, after) => (some err, after)
        | (none, after) => followEdges call source rest after
      else followEdges call source rest (walk.consider source edge)

/-- Every nested call has entered one more node, so `fuel` bounds the depth. -/
def traverse : Nat → String → Walk State → Option WalkError × Walk State
  | 0, _, walk => (some .outOfFuel, walk)
  | fuel + 1, nodeID, walk =>
    match walker.interrupted walk.state with
    | some err => (some (failedPlain err), walk)
    | none =>
      if nodeID ∈ walk.visited then (none, walk)
      else
        match workflow.graph.getNode nodeID with
        | .error err => (some (walker.missing nodeID err), walk.enter nodeID)
        | .ok _ =>
          match (walk.enter nodeID).runNode workflow nodeID with
          | (some err, after) => (some (walker.failure nodeID err after.state), after)
          | (none, after) =>
            followEdges walker (traverse fuel) nodeID (workflow.outgoing nodeID) after

/-- Enough for any walk over the graph. -/
def depth : Nat := workflow.graph.nodes.keys.length + 1

end Walks

section Executors

variable {State : Type} [ExecutionState State] (workflow : Workflow State)

def normalizePausedResult (paused : PausedResult) (nodeID graphVersion requestID : String) :
    PausedResult where
  requestID := if paused.requestID = "" then requestID else paused.requestID
  nodeID := if paused.nodeID = "" then nodeID else paused.nodeID
  graphVersion := if paused.graphVersion = "" then graphVersion else paused.graphVersion

def extractPausedResult (err : NodeError) (nodeID : String) (state : State) :
    Option PausedResult :=
  let requestID := ExecutionState.requestIDFromState state
  match err.pauseSignal with
  | some signal => some (normalizePausedResult signal nodeID workflow.version requestID)
  | none =>
    if isHumanPauseError err.error then some ⟨requestID, nodeID, workflow.version⟩ else none

/-- `traverseNode` of `graph.go`. -/
def graphWalker : Walker State where
  interrupted := ExecutionState.ctxErr
  follows := fun _ _ => true
  missing := fun _ err => failedPlain err
  failure := fun nodeID err state =>
    match extractPausedResult workflow err nodeID state with
    | some paused => .paused paused err
    | none => .failed err

/-- `traverseNodeWithObservability`. -/
def observedWalker : Walker State where
  interrupted := ExecutionState.ctxErr
  follows := fun _ _ => true
  missing := fun _ err => failedPlain err
  failure := fun _ err _ => .failed err

omit [ExecutionState State] in
/-- `A2AGraphExecutor.traverseNode`. -/
def a2aWalker : Walker State where
  interrupted := fun _ => none
  follows := Edge.shouldTraverse
  missing := fun nodeID err => failedPlain (err.wrap ("failed to get node " ++ nodeID ++ ": "))
  failure := fun nodeID err _ =>
    .failed (err.wrap (if workflow.isA2ANode nodeID then "A2A node execution failed: "
      else "node execution failed: "))

def traverseNode : Nat → String → Walk State → Option WalkError × Walk State :=
  traverse workflow (graphWalker workflow)

/-- The result that the callers of `traverseNode` make of its error. -/
def resultOf : Option WalkError → Except NodeError ExecutionResult
  | none => .ok ⟨none⟩
  | some (.paused result _) => .ok ⟨some result⟩
  | some (.failed err) => .error err
  | some .outOfFuel => .error ⟨.plain "out of fuel", none⟩

omit [ExecutionState State] in
def begin (state : State) (visited : List String) : Walk State := ⟨state, visited, []⟩

def executeWithResult (state : State) : Except NodeError ExecutionResult × Walk State :=
  match workflow.graph.validate with
  | .error err => (.error ⟨err.wrap "graph validation failed: ", none⟩, begin state [])
  | .ok () =>
    if workflow.graph.entryNode = "" then (.ok ⟨none⟩, begin state [])
    else
      let (err, walk) := traverseNode workflow (depth workflow) workflow.graph.entryNode
        (begin state [])
      (resultOf err, walk)

/-- The loop of `ResumeFromPaused` calls `traverseNode` without a look at the
context of its own. -/
def resumeWalker : Walker State :=
  { graphWalker workflow with interrupted := fun _ => none }

def resumeFromPaused (state : State) (paused : Option PausedResult) :
    Except NodeError ExecutionResult × Walk State :=
  let refuse (err : GoError) : Except NodeError ExecutionResult × Walk State :=
    (.error ⟨err, none⟩, begin state [])
  match paused with
  | none => refuse (.plain "paused result is required")
  | some paused =>
    if paused.nodeID = "" then refuse (.plain "paused node_id is required")
    else
      match workflow.graph.validate with
      | .error err => refuse (err.wrap "graph validation failed: ")
      | .ok () =>
        match workflow.graph.getNode paused.nodeID with
        | .error err => refuse (err.wrap "resume node lookup failed: ")
        | .ok _ =>
          if paused.graphVersion ≠ "" ∧ workflow.version ≠ "" ∧
              paused.graphVersion ≠ workflow.version then
            refuse (.plain ("graph version mismatch: paused=" ++ paused.graphVersion ++
              " current=" ++ workflow.version))
          else
            let resumed := if paused.requestID = "" then state
              else ExecutionState.setRequestID paused.requestID state
            let (err, walk) := followEdges (resumeWalker workflow)
              (traverseNode workflow (depth workflow)) paused.nodeID
              (workflow.outgoing paused.nodeID) (begin resumed [paused.nodeID])
            (resultOf err, walk)

/-- `factory` is what `graphExecutionContextFactory` returns. Without an
execution context the graph runs through `ExecuteWithResult`. -/
def executeWithObservability (factory : Except GoError Unit) (state : State) :
    Option NodeError × Walk State :=
  match workflow.graph.validate with
  | .error err => (some ⟨err.wrap "graph validation failed: ", none⟩, begin state [])
  | .ok () =>
    match factory with
    | .error _ =>
      match executeWithResult workflow state with
      | (.error err, walk) => (some err, walk)
      | (.ok result, walk) =>
        (result.paused.map fun paused => ⟨.plain "graph execution paused", some paused⟩, walk)
    | .ok () =>
      if workflow.graph.entryNode = "" then (none, begin state [])
      else
        match traverse workflow observedWalker (depth workflow) workflow.graph.entryNode
            (begin state []) with
        | (none, walk) => (none, walk)
        | (some (.failed err), walk) => (some err, walk)
        | (some _, walk) => (some ⟨.plain "out of fuel", none⟩, walk)

/-- `GraphExecutionResult`: the outcome of every node that was run, and the
error that ended the walk. -/
structure GraphExecutionResult where
  success : Bool
  error : Option NodeError
  nodes : List (String × Option NodeError)
  deriving DecidableEq, Repr

omit [ExecutionState State] in
def nodeResults (log : List (Event State)) : List (String × Option NodeError) :=
  log.filterMap fun
    | .ran nodeID outcome => some (nodeID, outcome)
    | .considered _ _ _ => none

def a2aExecute (initialState : Option State) :
    Except NodeError GraphExecutionResult × Walk State :=
  let executionState := initialState.getD ExecutionState.newMemoryState
  if workflow.graph.entryNode = "" then
    (.error ⟨.plain "graph has no entry node", none⟩, begin executionState [])
  else
    match traverse workflow (a2aWalker workflow) (depth workflow) workflow.graph.entryNode
        (begin executionState []) with
    | (none, walk) => (.ok ⟨true, none, nodeResults walk.log⟩, walk)
    | (some (.failed err), walk) => (.ok ⟨false, some err, nodeResults walk.log⟩, walk)
    | (some _, walk) =>
      (.ok ⟨false, some ⟨.plain "out of fuel", none⟩, nodeResults walk.log⟩, walk)

end Executors

/-! ## Induction along a walk

Statements about calls of `traverse` and about runs of its loop are proved
together: each case below is one way in which the code can go on. -/

section Induction

variable {State : Type} (workflow : Workflow State) (walker : Walker State)

structure WalkCases (Visit : Nat → String → Walk State → Option WalkError × Walk State → Prop)
    (Follow : Nat → String → List (Edge State) → Walk State →
      Option WalkError × Walk State → Prop) : Prop where
  exhausted : ∀ nodeID walk, Visit 0 nodeID walk (some .outOfFuel, walk)
  cancelled : ∀ fuel nodeID walk err, walker.interrupted walk.state = some err →
    Visit (fuel + 1) nodeID walk (some (failedPlain err), walk)
  seen : ∀ fuel nodeID walk, walker.interrupted walk.state = none → nodeID ∈ walk.visited →
    Visit (fuel + 1) nodeID walk (none, walk)
  missing : ∀ fuel nodeID walk err, walker.interrupted walk.state = none →
    nodeID ∉ walk.visited → workflow.graph.getNode nodeID = .error err →
    Visit (fuel + 1) nodeID walk (some (walker.missing nodeID err), walk.enter nodeID)
  failing : ∀ fuel nodeID walk node err after, walker.interrupted walk.state = none →
    nodeID ∉ walk.visited → workflow.graph.getNode nodeID = .ok node →
    (walk.enter nodeID).runNode workflow nodeID = (some err, after) →
    Visit (fuel + 1) nodeID walk (some (walker.failure nodeID err after.state), after)
  entered : ∀ fuel nodeID walk node after result, walker.interrupted walk.state = none →
    nodeID ∉ walk.visited → workflow.graph.getNode nodeID = .ok node →
    (walk.enter nodeID).runNode workflow nodeID = (none, after) →
    Follow fuel nodeID (workflow.outgoing nodeID) after result →
    Visit (fuel + 1) nodeID walk result
  done : ∀ fuel source walk, Follow fuel source [] walk (none, walk)
  stopped : ∀ fuel source edge rest walk err, walker.interrupted walk.state = some err →
    Follow fuel source (edge :: rest) walk (some (failedPlain err), walk)
  broken : ∀ fuel source edge rest walk err after, walker.interrupted walk.state = none →
    walker.follows edge walk.state = true →
    Visit fuel edge.toID (walk.consider source edge) (some err, after) →
    Follow fuel source (edge :: rest) walk (some err, after)
  passed : ∀ fuel source edge rest walk after result, walker.interrupted walk.state = none →
    walker.follows edge walk.state = true →
    Visit fuel edge.toID (walk.consider source edge) (none, after) →
    Follow fuel source rest after result →
    Follow fuel source (edge :: rest) walk result
  declined : ∀ fuel source edge rest walk result, walker.interrupted walk.state = none →
    walker.follows edge walk.state = false →
    Follow fuel source rest (walk.consider source edge) result →
    Follow fuel source (edge :: rest) walk result

variable {workflow walker}
  {Visit : Nat → String → Walk State → Option WalkError × Walk State → Prop}
  {Follow : Nat → String → List (Edge State) → Walk State →
    Option WalkError × Walk State → Prop}

section

variable (cases : WalkCases workflow walker Visit Follow) (fuel : Nat)

include cases fuel

theorem follow_edges_induction
    (calls : ∀ nodeID walk, Visit fuel nodeID walk (traverse workflow walker fuel nodeID walk))
    (source : String) (edges : List (Edge State)) (walk : Walk State) :
    Follow fuel source edges walk
      (followEdges walker (traverse workflow walker fuel) source edges walk) := by
  induction edges generalizing walk with
  | nil => exact cases.done fuel source walk
  | cons edge rest ih =>
    simp only [followEdges]
    cases check : walker.interrupted walk.state with
    | some err => exact cases.stopped fuel source edge rest walk err check
    | none =>
      cases asked : walker.follows edge walk.state with
      | false => exact cases.declined fuel source edge rest walk _ check asked (ih _)
      | true =>
        have called := calls edge.toID (walk.consider source edge)
        simp only [if_true]
        cases returned : traverse workflow walker fuel edge.toID (walk.consider source edge)
          with
        | mk outcome after =>
          rw [returned] at called
          cases outcome with
          | some err =>
            exact cases.broken fuel source edge rest walk err after check asked called
          | none =>
            exact cases.passed fuel source edge rest walk after _ check asked called (ih after)

theorem traverse_induction (nodeID : String) (walk : Walk State) :
    Visit fuel nodeID walk (traverse workflow walker fuel nodeID walk) := by
  induction fuel generalizing nodeID walk with
  | zero => exact cases.exhausted nodeID walk
  | succ fuel ih =>
    simp only [traverse]
    cases check : walker.interrupted walk.state with
    | some err => exact cases.cancelled fuel nodeID walk err check
    | none =>
      by_cases visited : nodeID ∈ walk.visited
      · simpa [visited] using cases.seen fuel nodeID walk check visited
      · simp only [visited, if_false]
        cases found : workflow.graph.getNode nodeID with
        | error err => exact cases.missing fuel nodeID walk err check visited found
        | ok node =>
          cases ran : (walk.enter nodeID).runNode workflow nodeID with
          | mk outcome after =>
            cases outcome with
            | some err =>
              exact cases.failing fuel nodeID walk node err after check visited found ran
            | none =>
              exact cases.entered fuel nodeID walk node after _ check visited found ran
                (follow_edges_induction cases fuel ih nodeID _ after)

theorem follow_induction (source : String) (edges : List (Edge State)) (walk : Walk State) :
    Follow fuel source edges walk
      (followEdges walker (traverse workflow walker fuel) source edges walk) :=
  follow_edges_induction cases fuel (traverse_induction cases fuel) source edges walk

end

end Induction

variable {graph : Graph} {nodeID : String} {State : Type}

theorem get_node_ok (known : nodeID ∈ graph.nodes) : ∃ node, graph.getNode nodeID = .ok node := by
  obtain ⟨node, found⟩ := Option.isSome_iff_exists.mp (AList.lookup_isSome.mpr known)
  exact ⟨node, by simp [Graph.getNode, found]⟩

theorem run_node_eq {workflow : Workflow State} {walk after : Walk State}
    {outcome : Option NodeError}
    (ran : (walk.enter nodeID).runNode workflow nodeID = (outcome, after)) :
    (workflow.execute nodeID walk.state).1 = outcome ∧
      after = ⟨(workflow.execute nodeID walk.state).2, nodeID :: walk.visited,
        .ran nodeID outcome :: walk.log⟩ := by
  rw [Walk.runNode] at ran
  cases ran
  exact ⟨rfl, rfl⟩

theorem valid_entry (valid : graph.validate = .ok ()) :
    graph.entryNode ≠ "" ∧ graph.entryNode ∈ graph.nodes := by
  unfold Graph.validate at valid
  split_ifs at valid with _ named known <;> exact ⟨named, known⟩

theorem execute_valid [ExecutionState State] (workflow : Workflow State) (state : State)
    (valid : workflow.graph.validate = .ok ()) :
    executeWithResult workflow state =
      (resultOf (traverseNode workflow (depth workflow) workflow.graph.entryNode
        (begin state [])).1,
        (traverseNode workflow (depth workflow) workflow.graph.entryNode (begin state [])).2) := by
  simp [executeWithResult, valid, (valid_entry valid).1]

def directWorkflow {State : Type} (graph : Graph)
    (execute : String → State → Option NodeError × State) : Workflow State where
  graph := graph
  version := ""
  isA2ANode := fun _ => false
  execute := execute
  outgoing := fun nodeID => (graph.getEdges nodeID).map (Edge.direct nodeID)
  targets := fun nodeID => by simp [Function.comp_def, Edge.toID]

/-- Units of work with the given ids; the first is the entry, the last the finish. -/
def graphOf (nodeIDs : List String) (edges : List (String × String)) : Graph :=
  let nodes := nodeIDs.foldl
    (fun graph nodeID => (graph.addNode (.unit ⟨nodeID, nodeID, none⟩)).toOption.getD graph)
    (newGraph "sample")
  let joined := edges.foldl
    (fun graph edge => (graph.addEdge edge.1 edge.2).toOption.getD graph) nodes
  let entered := (joined.setEntry (nodeIDs.headD "")).toOption.getD joined
  (entered.addFinish (nodeIDs.getLastD "")).toOption.getD entered

/-- A state that only holds which nodes were executed. -/
structure Diary where
  executed : List String
  deriving DecidableEq, Repr

instance : ExecutionState Diary where
  ctxErr := fun _ => none
  requestIDFromState := fun _ => ""
  setRequestID := fun _ diary => diary
  newMemoryState := ⟨[]⟩

end Dagens.Graph.Traversal
