import Mathlib

/-!
# Tool calls of an LLM flow

`RunAsync` and `RunLive` hand the function calls of a model response to two
separately written loops. A callback or a handler is code of the application: it
may do anything to the world it runs in. Arguments are passed by reference, so
`Args` names the map and its content is part of the world. The trace keeps which
callbacks ran with what outcome, and which handlers.
-/

namespace Dagens.Runtime.LlmFlow

open List

set_option linter.dupNamespace false

section Types

variable (World Args Result : Type)

/-- An error is its text. -/
abbrev BeforeToolCallback := World → String → Args → World × Option String

abbrev AfterToolCallback :=
  World → String → Args → Option Result → Option String → World × Option String

abbrev ToolHandler := World → Args → World × Option Result × Option String

structure ToolDefinition where
  handler : Option (ToolHandler World Args Result)

structure Plugin where
  name : String
  priority : Int
  enabled : Bool
  beforeTool : List (BeforeToolCallback World Args)
  afterTool : List (AfterToolCallback World Args Result)

/-- `pluginOrder` names each registered plugin once. -/
structure PluginManager where
  plugins : AList (fun _ : String => Plugin World Args Result)
  pluginOrder : List String
  complete : ∀ name, name ∈ pluginOrder ↔ name ∈ plugins
  nodup : pluginOrder.Nodup

end Types

variable {World Args Result : Type}

def newPluginManager : PluginManager World Args Result where
  plugins := ∅
  pluginOrder := []
  complete := by simp
  nodup := nodup_nil

/-- Before the first plugin of a lower priority. -/
def insertByPriority (plugins : AList (fun _ : String => Plugin World Args Result))
    (plugin : Plugin World Args Result) : List String → List String
  | [] => [plugin.name]
  | name :: rest =>
    if ((plugins.lookup name).map (·.priority)).any (· < plugin.priority) then
      plugin.name :: name :: rest
    else name :: insertByPriority plugins plugin rest

theorem insert_by_priority_perm (plugins : AList (fun _ : String => Plugin World Args Result))
    (plugin : Plugin World Args Result) (order : List String) :
    (insertByPriority plugins plugin order).Perm (plugin.name :: order) := by
  induction order with
  | nil => exact List.Perm.refl _
  | cons name _ ih =>
    simp only [insertByPriority]
    split_ifs
    · exact List.Perm.refl _
    · exact (ih.cons name).trans (List.Perm.swap _ _ _)

def register (manager : PluginManager World Args Result) (plugin : Plugin World Args Result) :
    Except String (PluginManager World Args Result) :=
  if known : plugin.name ∈ manager.plugins then
    .error ("plugin " ++ plugin.name ++ " already registered")
  else .ok {
    plugins := manager.plugins.insert plugin.name plugin
    pluginOrder := insertByPriority manager.plugins plugin manager.pluginOrder
    complete := by
      intro name
      rw [(insert_by_priority_perm _ _ _).mem_iff, mem_cons, manager.complete,
        AList.mem_insert]
    nodup := by
      rw [(insert_by_priority_perm _ _ _).nodup_iff, nodup_cons, manager.complete]
      exact ⟨known, manager.nodup⟩ }

/-- `cleanupError` is the answer of the plugin's `Cleanup`, if it is called. -/
def unregister (manager : PluginManager World Args Result) (name : String)
    (cleanupError : Option String) : Except String (PluginManager World Args Result) :=
  if name ∉ manager.plugins then .error ("plugin " ++ name ++ " not registered")
  else
    match cleanupError with
    | some err => .error ("plugin " ++ name ++ " cleanup failed: " ++ err)
    | none => .ok {
        plugins := manager.plugins.erase name
        pluginOrder := manager.pluginOrder.erase name
        complete := by
          intro other
          rw [manager.nodup.mem_erase_iff, AList.mem_erase, manager.complete]
        nodup := manager.nodup.erase name }

/-- The registered plugins as `pluginOrder` has them. -/
def PluginManager.inOrder (manager : PluginManager World Args Result) :
    List (String × Plugin World Args Result) :=
  manager.pluginOrder.filterMap fun name =>
    (manager.plugins.lookup name).map fun plugin => (name, plugin)

theorem mem_in_order (manager : PluginManager World Args Result) (name : String)
    (plugin : Plugin World Args Result) :
    (name, plugin) ∈ manager.inOrder ↔ manager.plugins.lookup name = some plugin := by
  simp only [PluginManager.inOrder, mem_filterMap, Option.map_eq_some_iff, Prod.mk.injEq]
  constructor
  · rintro ⟨_, _, _, found, rfl, rfl⟩
    exact found
  · intro found
    have known : name ∈ manager.plugins := AList.lookup_isSome.mp (by simp [found])
    exact ⟨name, (manager.complete name).mpr known, plugin, found, rfl, rfl⟩

inductive Origin where
  | plugin (name : String) (index : Nat)
  | direct (index : Nat)
  deriving DecidableEq, Repr

/-- What is done for the call at a position of a response. -/
inductive Event (Args : Type) where
  | ran (position : Nat) (origin : Origin) (name : String) (args : Args) (err : Option String)
  | handled (position : Nat) (name : String) (args : Args)
  deriving DecidableEq, Repr

structure Gate (World Args : Type) where
  world : World
  trace : List (Event Args)

/-- The callbacks in order, up to the first error. -/
def runCallbacks (position : Nat) (name : String) (args : Args) (origin : Nat → Origin) :
    List (BeforeToolCallback World Args) → Nat → Gate World Args →
      Gate World Args × Option String
  | [], _, gate => (gate, none)
  | callback :: rest, index, gate =>
    let (world, err) := callback gate.world name args
    let after : Gate World Args :=
      ⟨world, gate.trace ++ [.ran position (origin index) name args err]⟩
    match err with
    | some text => (after, some text)
    | none => runCallbacks position name args origin rest (index + 1) after

def runPlugins (position : Nat) (toolName : String) (args : Args) :
    List (String × Plugin World Args Result) → Gate World Args →
      Gate World Args × Option String
  | [], gate => (gate, none)
  | (name, plugin) :: rest, gate =>
    if !plugin.enabled then runPlugins position toolName args rest gate
    else
      match runCallbacks position toolName args (.plugin name) plugin.beforeTool 0 gate with
      | (after, some err) => (after, some ("plugin " ++ name ++ " before_tool: " ++ err))
      | (after, none) => runPlugins position toolName args rest after

def runBeforeToolCallbacks (manager : PluginManager World Args Result) (position : Nat)
    (toolName : String) (args : Args) (gate : Gate World Args) :
    Gate World Args × Option String :=
  runPlugins position toolName args manager.inOrder gate

section AfterTool

variable (toolName : String) (args : Args) (result : Option Result) (err : Option String)

/-- The callbacks of a plugin after the tool, up to the first error. -/
def afterPlugin : List (AfterToolCallback World Args Result) → World → World × Option String
  | [], world => (world, none)
  | callback :: rest, world =>
    match callback world toolName args result err with
    | (after, some text) => (after, some text)
    | (after, none) => afterPlugin rest after

def afterPlugins : List (String × Plugin World Args Result) → World → World × Option String
  | [], world => (world, none)
  | (name, plugin) :: rest, world =>
    if !plugin.enabled then afterPlugins rest world
    else
      match afterPlugin toolName args result err plugin.afterTool world with
      | (after, some text) => (after, some ("plugin " ++ name ++ " after_tool: " ++ text))
      | (after, none) => afterPlugins rest after

def runAfterToolCallbacks (manager : PluginManager World Args Result) (world : World) :
    World × Option String :=
  afterPlugins toolName args result err manager.inOrder world

end AfterTool

structure LlmFlow (World Args Result : Type) where
  pluginManager : Option (PluginManager World Args Result)
  beforeToolCallbacks : List (BeforeToolCallback World Args)
  afterToolCallbacks : List (AfterToolCallback World Args Result)
  maxSteps : Nat
  /-- Whether there is a `LiveProvider`; `NewLlmFlow` sets none. -/
  liveProvider : Bool

structure FunctionCall (Args : Type) where
  name : String
  args : Args

/-- `error` is empty where the field is left out. -/
structure FunctionResponse (Result : Type) where
  name : String
  response : Option Result
  error : String

/-- The variables of a loop over the calls of a response. -/
structure Progress (World Args Result : Type) where
  gate : Gate World Args
  functionResponses : List (FunctionResponse Result)

abbrev ToolsDict (World Args Result : Type) := String → Option (ToolDefinition World Args Result)

def Progress.answer (progress : Progress World Args Result) (gate : Gate World Args)
    (response : FunctionResponse Result) : Progress World Args Result :=
  ⟨gate, progress.functionResponses ++ [response]⟩

/-- The callbacks of the plugins, if there is a manager. -/
def pluginsBefore (flow : LlmFlow World Args Result) (position : Nat)
    (call : FunctionCall Args) (gate : Gate World Args) : Gate World Args × Option String :=
  match flow.pluginManager with
  | none => (gate, none)
  | some manager => runBeforeToolCallbacks manager position call.name call.args gate

/-- Errors of the callbacks after a tool are dropped. -/
def pluginsAfter (flow : LlmFlow World Args Result) (call : FunctionCall Args)
    (result : Option Result) (err : Option String) (world : World) : World :=
  match flow.pluginManager with
  | none => world
  | some manager => (runAfterToolCallbacks call.name call.args result err manager world).1

def toolResponse (call : FunctionCall Args) (result : Option Result) (err : Option String) :
    FunctionResponse Result :=
  match err with
  | some text => ⟨call.name, none, text⟩
  | none => ⟨call.name, result, ""⟩

section Calls

variable (flow : LlmFlow World Args Result) (tools : ToolsDict World Args Result)

/-- The body of the loop of `handleFunctionCallsAsync`. -/
def handleFunctionCall (position : Nat) (call : FunctionCall Args)
    (progress : Progress World Args Result) : Progress World Args Result :=
  match tools call.name with
  | none => progress.answer progress.gate ⟨call.name, none, "unknown tool: " ++ call.name⟩
  | some tool =>
    match pluginsBefore flow position call progress.gate with
    | (gate, some err) =>
      progress.answer gate ⟨call.name, none, "before_tool callback failed: " ++ err⟩
    | (gate, none) =>
      match runCallbacks position call.name call.args .direct flow.beforeToolCallbacks 0
          gate with
      | (gate, some err) =>
        progress.answer gate ⟨call.name, none, "before_tool callback failed: " ++ err⟩
      | (gate, none) =>
        match tool.handler with
        | none => progress.answer gate ⟨call.name, none, "tool has no handler"⟩
        | some handler =>
          let (world, result, err) := handler gate.world call.args
          let world := pluginsAfter flow call result err world
          let world := flow.afterToolCallbacks.foldl
            (fun world callback => (callback world call.name call.args result err).1)
            world
          progress.answer
            ⟨world, gate.trace ++ [.handled position call.name call.args]⟩
            (toolResponse call result err)

/-- The body of the loop of `handleLiveFunctionCalls`. -/
def handleLiveFunctionCall (position : Nat) (call : FunctionCall Args)
    (progress : Progress World Args Result) : Progress World Args Result :=
  match pluginsBefore flow position call progress.gate with
  | (gate, some err) => progress.answer gate ⟨call.name, none, err⟩
  | (gate, none) =>
    match (tools call.name).bind (·.handler) with
    | none => progress.answer gate
        ⟨call.name, none, "tool " ++ call.name ++ " not found or has no handler"⟩
    | some handler =>
      let (world, result, err) := handler gate.world call.args
      let world := pluginsAfter flow call result err world
      progress.answer ⟨world, gate.trace ++ [.handled position call.name call.args]⟩
        (toolResponse call result err)

end Calls

/-- A loop over the calls of a response, from a position on. -/
def overCalls (body : Nat → FunctionCall Args → Progress World Args Result →
      Progress World Args Result) :
    List (FunctionCall Args) → Nat → Progress World Args Result → Progress World Args Result
  | [], _, progress => progress
  | call :: rest, position, progress =>
    overCalls body rest (position + 1) (body position call progress)

structure Handled (World Args Result : Type) where
  calls : List (FunctionCall Args)
  progress : Progress World Args Result

def handleFunctionCallsAsync (flow : LlmFlow World Args Result)
    (tools : ToolsDict World Args Result) (calls : List (FunctionCall Args)) (world : World) :
    Handled World Args Result :=
  ⟨calls, overCalls (handleFunctionCall flow tools) calls 0 ⟨⟨world, []⟩, []⟩⟩

def handleLiveFunctionCalls (flow : LlmFlow World Args Result)
    (tools : ToolsDict World Args Result) (calls : List (FunctionCall Args)) (world : World) :
    Handled World Args Result :=
  ⟨calls, overCalls (handleLiveFunctionCall flow tools) calls 0 ⟨⟨world, []⟩, []⟩⟩

structure Part (Args : Type) where
  text : String
  functionCall : Option (FunctionCall Args)

structure LlmResponse (Args : Type) where
  content : Option (List (Part Args))
  isPartial : Bool
  errorCode : String
  interrupted : Bool

def LlmResponse.getFunctionCalls (response : LlmResponse Args) : List (FunctionCall Args) :=
  (response.content.getD []).filterMap (·.functionCall)

inductive EventType where
  | message
  | toolCall
  | toolResult
  | error
  | other
  deriving DecidableEq, Repr

/-- The fields of an event that the loop of `RunAsync` looks at. -/
structure AsyncEvent where
  type : EventType
  isPartial : Bool
  failed : Bool
  deriving DecidableEq, Repr

def AsyncEvent.isFinalResponse (event : AsyncEvent) : Bool :=
  event.type = .message && !event.isPartial

def finalizeModelResponseEvent (response : LlmResponse Args) : AsyncEvent :=
  if response.errorCode ≠ "" then ⟨.error, response.isPartial, true⟩
  else if response.getFunctionCalls ≠ [] then ⟨.toolCall, response.isPartial, false⟩
  else ⟨.message, response.isPartial, false⟩

/-- A response that reaches the flow. Before it is handled the model, the
callbacks around it and the processors run and yield `events`. -/
structure Exchange (World Args : Type) where
  between : World → World
  events : List AsyncEvent
  response : LlmResponse Args

/-- What surrounds a step: the request processors fill the tools and may end the
invocation, the model answers, and the context may be cancelled. -/
structure StepInput (World Args Result : Type) where
  preprocess : World → World
  events : List AsyncEvent
  endInvocation : Bool
  tools : ToolsDict World Args Result
  exchanges : List (Exchange World Args)
  cancelled : Bool

structure Outcome (World Args Result : Type) where
  world : World
  lastEvent : Option AsyncEvent
  failed : Bool
  handled : List (Handled World Args Result)

/-- The events up to the first failed one reach `RunAsync`, which then no longer
receives: the step stays at its next send. -/
def Outcome.sends (outcome : Outcome World Args Result) (events : List AsyncEvent) :
    Outcome World Args Result :=
  { outcome with
    lastEvent := (events.getLast?).or outcome.lastEvent
    failed := outcome.failed || events.any (·.failed) }

def runExchanges (flow : LlmFlow World Args Result) (tools : ToolsDict World Args Result) :
    List (Exchange World Args) → Outcome World Args Result → Outcome World Args Result
  | [], outcome => outcome
  | exchange :: rest, outcome =>
    let response := exchange.response
    let outcome :=
      { outcome with world := exchange.between outcome.world }.sends exchange.events
    if outcome.failed then outcome
    else if response.content.isNone && response.errorCode = "" && !response.interrupted then
      runExchanges flow tools rest outcome
    else
      let outcome := outcome.sends [finalizeModelResponseEvent response]
      if response.getFunctionCalls = [] then
        if outcome.failed then outcome else runExchanges flow tools rest outcome
      else
        -- the tools of a failed response still run: its event has been received
        let handled :=
          handleFunctionCallsAsync flow tools response.getFunctionCalls outcome.world
        let outcome := { outcome with
          world := handled.progress.gate.world, handled := outcome.handled ++ [handled] }
        if outcome.failed then outcome
        else runExchanges flow tools rest (outcome.sends [⟨.toolResult, false, false⟩])

def runOneStepAsync (flow : LlmFlow World Args Result) (input : StepInput World Args Result)
    (world : World) (handled : List (Handled World Args Result)) :
    Outcome World Args Result :=
  let outcome := (Outcome.mk (input.preprocess world) none false handled).sends input.events
  if outcome.failed || input.endInvocation then outcome
  else runExchanges flow input.tools input.exchanges outcome

/-- The loop of `RunAsync` with the steps left; `inputs` is what the steps to come
meet. -/
def runSteps (flow : LlmFlow World Args Result) :
    Nat → (Nat → StepInput World Args Result) → World → List (Handled World Args Result) →
      List (Handled World Args Result)
  | 0, _, _, handled => handled
  | left + 1, inputs, world, handled =>
    let outcome := runOneStepAsync flow (inputs 0) world handled
    if outcome.failed || outcome.lastEvent.all (·.isFinalResponse) || (inputs 0).cancelled then
      outcome.handled
    else runSteps flow left (fun step => inputs (step + 1)) outcome.world outcome.handled

def runAsync (flow : LlmFlow World Args Result) (inputs : Nat → StepInput World Args Result)
    (world : World) : List (Handled World Args Result) :=
  runSteps flow flow.maxSteps inputs world []

/-- A response of the live provider, with the tools the invocation state has then
and whether the context is cancelled after it. -/
structure LiveInput (World Args Result : Type) where
  between : World → World
  tools : ToolsDict World Args Result
  response : LlmResponse Args
  cancelled : Bool

def liveResponses (flow : LlmFlow World Args Result) :
    List (LiveInput World Args Result) → World → List (Handled World Args Result) →
      List (Handled World Args Result)
  | [], _, handled => handled
  | input :: rest, world, handled =>
    let world := input.between world
    let calls := input.response.getFunctionCalls
    if calls = [] then if input.cancelled then handled else liveResponses flow rest world handled
    else
      let next := handleLiveFunctionCalls flow input.tools calls world
      if input.cancelled then handled ++ [next]
      else liveResponses flow rest next.progress.gate.world (handled ++ [next])

/-- Without a provider there is one error event and nothing else. -/
def runLive (flow : LlmFlow World Args Result) (inputs : List (LiveInput World Args Result))
    (world : World) : List (Handled World Args Result) :=
  if flow.liveProvider then liveResponses flow inputs world [] else []

end Dagens.Runtime.LlmFlow
