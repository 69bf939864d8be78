import Dagens.Graph.Traversal
import Dagens.Hitl.Callback
import Dagens.Hitl.CheckpointStores

/-!
# Human nodes and the two ways of an answer

A `HumanNode` either waits for the answer, or pauses the graph. A paused graph is
resumed from its checkpoint: `processJob` and `ResumeGraphFromCheckpoint` put the
answer into the state under the node's pending key and call
`resumeFromCheckpoint`.

JSON coding and the printing of durations belong to `HitlRuntime`, so every
statement holds for all of them.
-/

namespace Dagens.Hitl.HumanNode

open Scheduler.GoSupport Graph.Traversal Callback CheckpointStores

set_option linter.dupNamespace false

/-- Values of a state; `typeName` is what `%T` prints for the other ones. -/
inductive Value where
  | text (value : String)
  | bytes (value : String)
  | time (value : Nat)
  | other (typeName json : String)
  deriving DecidableEq, Repr

/-- `MemoryState`, with the error of the context that accompanies it. -/
structure MemoryState where
  data : AList fun _ : String => Value
  ctxErr : Option GoError

namespace MemoryState

def get (state : MemoryState) (key : String) : Option Value := state.data.lookup key

def set (state : MemoryState) (key : String) (value : Value) : MemoryState :=
  { state with data := state.data.insert key value }

def delete (state : MemoryState) (key : String) : MemoryState :=
  { state with data := state.data.erase key }

@[simp] theorem get_set_same (state : MemoryState) (key : String) (value : Value) :
    (state.set key value).get key = some value :=
  AList.lookup_insert state.data

@[simp] theorem get_set_other (state : MemoryState) {key other : String} (value : Value)
    (apart : other ≠ key) : (state.set key value).get other = state.get other :=
  AList.lookup_insert_ne apart

end MemoryState

def stateKeyHumanRequestID : String := "_hitl_request_id"

def stateKeyHumanTimeout : String := "_hitl_timeout"

def pendingKey (nodeID : String) : String := "_hitl_pending:" ++ nodeID

instance : ExecutionState MemoryState where
  ctxErr := MemoryState.ctxErr
  requestIDFromState := fun state =>
    match state.get stateKeyHumanRequestID with
    | some (.text requestID) => requestID
    | _ => ""
  setRequestID := fun requestID state => state.set stateKeyHumanRequestID (.text requestID)
  newMemoryState := ⟨∅, none⟩

/-- The coding of states and of responses (a nil response included), and
`time.Duration.String`. -/
class HitlRuntime where
  marshalState : MemoryState → Except GoError String
  decodeSnapshot : String → Except GoError MemoryState
  marshalResponse : Option HumanResponse → Except GoError String
  unmarshalResponse : String → Except GoError HumanResponse
  durationString : Int64 → String

variable [HitlRuntime]

/-- `MemoryState.Unmarshal`. -/
def unmarshalState (data : String) : Except GoError MemoryState :=
  if data = "" then .error (.plain "graph: empty state payload")
  else (HitlRuntime.decodeSnapshot data).mapError (·.wrap "graph: unmarshal state: ")

structure HumanNode where
  id : String
  timeout : Int64
  shortWaitThreshold : Int64
  maxConcurrentWaits : Int
  deriving DecidableEq, Repr

omit [HitlRuntime] in
/-- The defaults are five minutes and 1000 waits. -/
def newHumanNode (config : HumanNode) : HumanNode :=
  { config with
    shortWaitThreshold :=
      if config.shortWaitThreshold = 0 then 300000000000 else config.shortWaitThreshold
    maxConcurrentWaits :=
      if config.maxConcurrentWaits = 0 then 1000 else config.maxConcurrentWaits }

/-- What ends the `select` of a blocking wait. -/
inductive WaitEvent where
  | response (resp : HumanResponse)
  | timedOut
  | cancelled (err : GoError)
  deriving DecidableEq, Repr

/-- The surroundings of a first execution: the generated request id, the number
of blocking waits with this one, the result of `NotifyHuman`, and the event. -/
structure Surroundings where
  requestID : String
  activeWaits : Int
  notify : Option GoError
  event : WaitEvent
  deriving DecidableEq, Repr

def plainError (err : GoError) : Option NodeError := some ⟨err, none⟩

def errHumanTimeout : GoError := .plain "human response timeout exceeded"

def errHumanInteractionPending : GoError :=
  .plain "human interaction pending: checkpoint required"

def processResponse (state : MemoryState) (resp : HumanResponse) : MemoryState :=
  ((state.set "human_response" (.text resp.selectedOption)).set
    "human_response_text" (.text resp.freeformText)).set
    "human_response_timestamp" (.time resp.timestamp)

def blockWithTimeout (node : HumanNode) (around : Surroundings) (state : MemoryState) :
    Option NodeError × MemoryState :=
  if node.maxConcurrentWaits < around.activeWaits then
    (plainError (.plain ("max concurrent blocking waits reached (" ++
      toString node.maxConcurrentWaits ++ "), use checkpoint mode")), state)
  else
    match around.notify with
    | some err => (plainError (err.wrap "notify human: "), state)
    | none =>
      match around.event with
      | .response resp => (none, processResponse state resp)
      | .timedOut => (plainError errHumanTimeout, state)
      | .cancelled err => (plainError err, state)

def checkpointAndReturn (node : HumanNode) (around : Surroundings) (state : MemoryState) :
    Option NodeError × MemoryState :=
  (some ⟨errHumanInteractionPending, some ⟨around.requestID, node.id, ""⟩⟩,
    (state.set stateKeyHumanRequestID (.text around.requestID)).set stateKeyHumanTimeout
      (.text (HitlRuntime.durationString node.timeout)))

def Value.typeName : Value → String
  | .text _ => "string"
  | .bytes _ => "[]uint8"
  | .time _ => "time.Time"
  | .other name _ => name

/-- `HumanNode.Execute`: an answer that is pending in the state is taken from
there, otherwise the node asks. -/
def HumanNode.execute (node : HumanNode) (around : Surroundings) (state : MemoryState) :
    Option NodeError × MemoryState :=
  match state.get (pendingKey node.id) with
  | some (.bytes data) =>
    match HitlRuntime.unmarshalResponse data with
    | .error err => (plainError (err.wrap "unmarshal human response: "), state)
    | .ok resp => (none, (processResponse state resp).delete (pendingKey node.id))
  | some value =>
    (plainError (.plain ("invalid pending response type: expected []byte, got " ++
      value.typeName)), state)
  | none =>
    if 0 < node.timeout ∧ node.timeout ≤ node.shortWaitThreshold then
      blockWithTimeout node around state
    else checkpointAndReturn node around state

abbrev NodeExecutor := String → MemoryState → Option NodeError × MemoryState

/-- A graph registry: the version of a graph, and its executable graph.
`executables` is `none` for a registry without executable graphs. -/
structure GraphRegistry where
  versions : String → Option String
  executables : Option (String → Option (Workflow MemoryState))

def registerExecutableGraph (registry : GraphRegistry) (graphID version : String)
    (workflow : Workflow MemoryState) : GraphRegistry where
  versions := fun other => if other = graphID then some version else registry.versions other
  executables := some fun other =>
    if other = graphID then some workflow else registry.executables.bind (· other)

def getGraph (registry : GraphRegistry) (graphID : String) : Except GoError String :=
  match registry.versions graphID with
  | some version => .ok version
  | none => .error (.plain ("graph not found: " ++ graphID))

/-- The version check, `DeserializeState` and the injection of `processJob`. An
error is the reason with which the checkpoint goes to the DLQ. -/
def prepareJob (registry : GraphRegistry) (cp : ExecutionCheckpoint)
    (response : Option HumanResponse) : Except String MemoryState :=
  match getGraph registry cp.graphID with
  | .error err => .error ("failed to get current graph definition: " ++ err.message)
  | .ok version =>
    if version ≠ cp.graphVersion then
      .error ("graph version mismatch: cannot resume: checkpoint=" ++ cp.graphVersion ++
        ", current=" ++ version)
    else
      match unmarshalState (cp.stateData.getD "") with
      | .error err =>
        .error ("state deserialization failed: failed to unmarshal state: " ++ err.message)
      | .ok state =>
        match HitlRuntime.marshalResponse response with
        | .error err => .error ("response serialization failed: " ++ err.message)
        | .ok data => .ok (state.set (pendingKey cp.nodeID) (.bytes data))

/-- The same part of `ResumeGraphFromCheckpoint`, which takes missing state data
for an empty state. -/
def prepareResume (registry : GraphRegistry) (cp : ExecutionCheckpoint)
    (response : Option HumanResponse) : Except GoError MemoryState :=
  match getGraph registry cp.graphID with
  | .error err => .error (err.wrap "get current graph: ")
  | .ok version =>
    if version ≠ cp.graphVersion then
      .error (.plain ("graph version mismatch: cannot resume: checkpoint=" ++ cp.graphVersion ++
        ", current=" ++ version))
    else
      let restored : Except GoError MemoryState :=
        match cp.stateData with
        | none => .ok ExecutionState.newMemoryState
        | some data => unmarshalState data
      match restored with
      | .error err => .error (err.wrap "deserialize state: ")
      | .ok state =>
        match HitlRuntime.marshalResponse response with
        | .error err => .error (err.wrap "marshal response: ")
        | .ok data => .ok (state.set (pendingKey cp.nodeID) (.bytes data))

/-- `factory` builds the executor of the legacy path, if there is one; what it executes
is not in the log. -/
def resumeFromCheckpoint (registry : GraphRegistry)
    (factory : Option (String → String → Option NodeExecutor)) (cp : ExecutionCheckpoint)
    (state : MemoryState) : Except NodeError ExecutionResult × Walk MemoryState :=
  let refuse (err : GoError) : Except NodeError ExecutionResult × Walk MemoryState :=
    (.error ⟨err, none⟩, begin state [])
  match state.ctxErr with
  | some err => refuse (err.wrap "resume checkpoint interrupted: ")
  | none =>
    match registry.executables with
    | some executables =>
      match executables cp.graphID with
      | none => refuse (.plain ("get executable graph: executable graph not found: " ++
          cp.graphID))
      | some workflow =>
        resumeFromPaused workflow state (some ⟨cp.requestID, cp.nodeID, cp.graphVersion⟩)
    | none =>
      match factory with
      | none => refuse (.plain
          "executor factory is nil and graph registry does not provide executable graphs")
      | some build =>
        match build cp.graphID cp.graphVersion with
        | none => refuse (.plain ("executor factory returned nil for graph_id=" ++
            cp.graphID ++ " graph_version=" ++ cp.graphVersion))
        | some resumeFromNode =>
          match resumeFromNode cp.nodeID state with
          | (some err, after) => (.error err, begin after [])
          | (none, after) => (.ok ⟨none⟩, begin after [])

end Dagens.Hitl.HumanNode
