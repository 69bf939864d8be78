import Mathlib

/-!
# Model calls of an LLM flow

`callLlmAsync` surrounds a call of the provider with callbacks of the plugins and
of the flow, and leaves the standard path early in the mode of continuous function
calling. A callback is code of the application: what it answers may differ at every
response of a call, which is why its answer depends on the number of the response.
Callbacks after the model get a pointer, so they may also write to the response they
are given; a callback touches no other response.
-/

namespace Dagens.Runtime.ModelCalls

open List

structure LlmResponse (Content : Type) where
  content : Option Content
  isPartial : Bool
  errorCode : String
  errorMessage : String
  deriving DecidableEq

/-- The request is the same for all callbacks of a call. -/
structure ModelCallback (Input Content : Type) where
  id : Nat
  answer : Nat → Input → Except String (Option (LlmResponse Content))

/-- A callback returns an error, nil, the response it was given or another one. -/
inductive AfterAnswer (Content : Type) where
  | failed (err : String)
  | nothing
  | given
  | other (response : LlmResponse Content)

/-- `answer` also says how the callback leaves the response it was given. -/
structure AfterModelCallback (Content : Type) where
  id : Nat
  answer : Nat → LlmResponse Content → LlmResponse Content × AfterAnswer Content

section Types

variable (Content : Type)

abbrev BeforeModelCallback := ModelCallback Unit Content

/-- It is called with the text of the error. -/
abbrev OnModelErrorCallback := ModelCallback String Content

structure Plugin where
  name : String
  enabled : Bool
  beforeModel : List (BeforeModelCallback Content)
  afterModel : List (AfterModelCallback Content)
  onModelError : List (OnModelErrorCallback Content)

inductive StreamingMode where
  | none
  | sse
  | bidirectional
  deriving DecidableEq

structure RunConfig where
  streamingMode : StreamingMode
  supportCFC : Bool
  maxLLMCalls : Int

/-- `runConfig` is `none` also where it holds another type. -/
structure InvocationContext where
  llmCallCount : Nat
  runConfig : Option RunConfig

/-- The plugins are in the order of the manager. A provider is what it answers to
the request at hand: its responses, or the value of a panic of `GenerateContent`. -/
structure LlmFlow where
  pluginManager : Option (List (Plugin Content))
  beforeModelCallbacks : List (BeforeModelCallback Content)
  afterModelCallbacks : List (AfterModelCallback Content)
  onModelErrorCallbacks : List (OnModelErrorCallback Content)
  llmProvider : Option (Except String (List (LlmResponse Content)))
  liveProvider : Option (List (LlmResponse Content))
  defaultRunConfig : Option RunConfig

end Types

variable {Input Content : Type}

/-- In order up to the first error or response, with the callbacks that ran. -/
def untilAnswer (moment : Nat) (input : Input) : List (ModelCallback Input Content) →
    List Nat × Except String (Option (LlmResponse Content))
  | [] => ([], .ok none)
  | callback :: rest =>
    match callback.answer moment input with
    | .ok none =>
      let (ran, answer) := untilAnswer moment input rest
      (callback.id :: ran, answer)
    | answer => ([callback.id], answer)

/-- In order up to the first response, errors skipped. -/
def untilResponse (moment : Nat) (input : Input) : List (ModelCallback Input Content) →
    List Nat × Option (LlmResponse Content)
  | [] => ([], none)
  | callback :: rest =>
    match callback.answer moment input with
    | .ok (some response) => ([callback.id], some response)
    | _ =>
      let (ran, response) := untilResponse moment input rest
      (callback.id :: ran, response)

def runBeforeModelCallbacks :
    List (Plugin Content) → Except String (Option (LlmResponse Content))
  | [] => .ok none
  | plugin :: rest =>
    if !plugin.enabled then runBeforeModelCallbacks rest
    else
      match (untilAnswer 0 () plugin.beforeModel).2 with
      | .error err => .error ("plugin " ++ plugin.name ++ " before_model: " ++ err)
      | .ok (some response) => .ok (some response)
      | .ok none => runBeforeModelCallbacks rest

/-- The response that the provider sent, and the one that stands in its place once a
callback has returned another. -/
structure Objects (Content : Type) where
  provided : LlmResponse Content
  replacement : Option (LlmResponse Content)

def Objects.current (objects : Objects Content) : LlmResponse Content :=
  objects.replacement.getD objects.provided

def Objects.leave (objects : Objects Content) (left : LlmResponse Content) : Objects Content :=
  match objects.replacement with
  | none => { objects with provided := left }
  | some _ => { objects with replacement := some left }

/-- Every callback gets what the ones before it made of the response. -/
def runPluginCallbacks (moment : Nat) : List (AfterModelCallback Content) → Objects Content →
    Objects Content × Option String
  | [], objects => (objects, none)
  | callback :: rest, objects =>
    match callback.answer moment objects.current with
    | (left, .failed err) => (objects.leave left, some err)
    | (left, .other response) =>
      runPluginCallbacks moment rest { objects.leave left with replacement := some response }
    | (left, _) => runPluginCallbacks moment rest (objects.leave left)

def runAfterModelCallbacks (moment : Nat) : List (Plugin Content) → Objects Content →
    Objects Content × Option String
  | [], objects => (objects, none)
  | plugin :: rest, objects =>
    if !plugin.enabled then runAfterModelCallbacks moment rest objects
    else
      match runPluginCallbacks moment plugin.afterModel objects with
      | (objects, some err) =>
        (objects, some ("plugin " ++ plugin.name ++ " after_model: " ++ err))
      | (objects, none) => runAfterModelCallbacks moment rest objects

/-- After an error of a plugin the flow goes on with the response of the provider. -/
def afterPlugins (flow : LlmFlow Content) (moment : Nat) (response : LlmResponse Content) :
    Objects Content :=
  match runAfterModelCallbacks moment (flow.pluginManager.getD []) ⟨response, none⟩ with
  | (objects, some _) => { objects with replacement := none }
  | (objects, none) => objects

/-- The callbacks of the flow that ran, what they left, and the response that one of them
returned. -/
structure Handling (Content : Type) where
  ran : List Nat
  objects : Objects Content
  altered : Option (LlmResponse Content)

def runDirectCallbacks (moment : Nat) : List (AfterModelCallback Content) → Objects Content →
    Handling Content
  | [], objects => ⟨[], objects, none⟩
  | callback :: rest, objects =>
    match callback.answer moment objects.current with
    | (left, .given) => ⟨[callback.id], objects.leave left, some left⟩
    | (left, .other response) => ⟨[callback.id], objects.leave left, some response⟩
    | (left, _) =>
      let handling := runDirectCallbacks moment rest (objects.leave left)
      { handling with ran := callback.id :: handling.ran }

def handleAfterModelCallback (flow : LlmFlow Content) (moment : Nat)
    (response : LlmResponse Content) : Handling Content :=
  runDirectCallbacks moment flow.afterModelCallbacks (afterPlugins flow moment response)

/-- An error callback that was asked. -/
inductive Asked where
  | plugin (name : String) (id : Nat)
  | direct (id : Nat)
  deriving DecidableEq

/-- A response that leaves a wrapper, with the error callbacks that ran for it. -/
abbrev Wrapped (Content : Type) := List Asked × LlmResponse Content

def LlmResponse.errorText (response : LlmResponse Content) : String :=
  response.errorCode ++ ": " ++ response.errorMessage

/-- After a recovery nothing more is read from the provider. -/
def runAndHandleErrorStream (flow : LlmFlow Content) :
    Nat → List (LlmResponse Content) → List (Wrapped Content)
  | _, [] => []
  | moment, response :: rest =>
    if response.errorCode ≠ "" then
      match untilResponse moment response.errorText flow.onModelErrorCallbacks with
      | (ran, some recovery) => [(ran.map .direct, recovery)]
      | (ran, none) =>
        (ran.map .direct, response) :: runAndHandleErrorStream flow (moment + 1) rest
    else ([], response) :: runAndHandleErrorStream flow (moment + 1) rest

def failure (code message : String) : LlmResponse Content := ⟨none, false, code, message⟩

def runWithErrorHandling (flow : LlmFlow Content) :
    Except String (List (LlmResponse Content)) → List (Wrapped Content)
  | .ok responses => responses.map (([], ·))
  | .error value =>
    let err := "panic in LLM call: " ++ value
    let (ran, recovery) := untilResponse 0 err flow.onModelErrorCallbacks
    [(ran.map .direct, recovery.getD (failure "llm_error" err))]

/-- What the provider that a call takes has answered. -/
inductive Source (Content : Type) where
  | live (responses : List (LlmResponse Content))
  | standard (answer : Except String (List (LlmResponse Content)))

def Source.wrapped (flow : LlmFlow Content) : Source Content → List (Wrapped Content)
  | .live responses => runAndHandleErrorStream flow 0 responses
  | .standard answer => runWithErrorHandling flow answer

/-- A response in the loop of the call: the error callbacks asked before it, the
callbacks of the flow that ran after it, and what is passed on. -/
structure Handled (Content : Type) where
  moment : Nat
  asked : List Asked
  response : LlmResponse Content
  ran : List Nat
  passedOn : LlmResponse Content

/-- The caller goes on with its own pointer, to the provider's response, where no
callback of the flow has returned one. -/
def handleResponse (flow : LlmFlow Content) (moment : Nat) (wrapped : Wrapped Content) :
    Handled Content :=
  let handling := handleAfterModelCallback flow moment wrapped.2
  ⟨moment, wrapped.1, wrapped.2, handling.ran,
    handling.altered.getD handling.objects.provided⟩

/-- What a call does: the callbacks of the flow that ran before the model, the provider
if one was called, its responses and what the caller gets. -/
structure ModelCall (Content : Type) where
  context : InvocationContext
  ran : List Nat
  source : Option (Source Content)
  handled : List (Handled Content)
  output : List (LlmResponse Content)

def ModelCall.called (call : ModelCall Content) : Bool := call.source.isSome

def getRunConfig (flow : LlmFlow Content) (context : InvocationContext) : Option RunConfig :=
  context.runConfig.or flow.defaultRunConfig

def incrementLLMCallCount (context : InvocationContext) :
    InvocationContext × Option String :=
  let count := context.llmCallCount + 1
  let context := { context with llmCallCount := count }
  match context.runConfig with
  | some config =>
    if 0 < config.maxLLMCalls ∧ config.maxLLMCalls < count then
      (context, some s!"LLM call limit exceeded: {count} > {config.maxLLMCalls}")
    else (context, none)
  | none => (context, none)

/-- The loop over the responses, the same in both modes. -/
def deliver (flow : LlmFlow Content) (context : InvocationContext) (ran : List Nat)
    (shouldStream : Bool) (source : Source Content) : ModelCall Content :=
  let handled := (source.wrapped flow).mapIdx (handleResponse flow)
  ⟨context, ran, some source, handled,
    (handled.map (·.passedOn)).filter fun response => shouldStream || !response.isPartial⟩

def callLlmAsync (flow : LlmFlow Content) (context : InvocationContext) : ModelCall Content :=
  match runBeforeModelCallbacks (flow.pluginManager.getD []) with
  | .error err => ⟨context, [], none, [], [failure "plugin_callback_error" err]⟩
  | .ok (some response) => ⟨context, [], none, [], [response]⟩
  | .ok none =>
    match untilAnswer 0 () flow.beforeModelCallbacks with
    | (ran, .error err) => ⟨context, ran, none, [], [failure "callback_error" err]⟩
    | (ran, .ok (some response)) => ⟨context, ran, none, [], [response]⟩
    | (ran, .ok none) =>
      let config := getRunConfig flow context
      let shouldStream := config.any (·.streamingMode = .sse)
      match config.any (·.supportCFC), flow.liveProvider with
      | true, some responses => deliver flow context ran shouldStream (.live responses)
      | _, _ =>
        match incrementLLMCallCount context with
        | (context, some err) =>
          ⟨context, ran, none, [], [failure "call_limit_exceeded" err]⟩
        | (context, none) =>
          match flow.llmProvider with
          | none =>
            ⟨context, ran, none, [], [failure "no_provider" "LLM provider not configured"]⟩
          | some answer => deliver flow context ran shouldStream (.standard answer)

/-- The responses of a call went through the loop of the call, and no others. -/
theorem call_handled (flow : LlmFlow Content) (context : InvocationContext) :
    (callLlmAsync flow context).handled =
      ((callLlmAsync flow context).source.elim [] (·.wrapped flow)).mapIdx
        (handleResponse flow) := by
  unfold callLlmAsync
  dsimp only
  repeat' split
  all_goals rfl

theorem handled_response {flow : LlmFlow Content} {context : InvocationContext}
    {handled : Handled Content} (member : handled ∈ (callLlmAsync flow context).handled) :
    ∃ asked, handled = handleResponse flow handled.moment (asked, handled.response) := by
  rw [call_handled] at member
  obtain ⟨index, _, rfl⟩ := mem_mapIdx.mp member
  exact ⟨_, rfl⟩

/-- What a callback makes of a response. -/
def AfterModelCallback.turns (moment : Nat) (response : LlmResponse Content)
    (callback : AfterModelCallback Content) : Except String (LlmResponse Content) :=
  match callback.answer moment response with
  | (_, .failed err) => .error err
  | (_, .other altered) => .ok altered
  | (left, _) => .ok left

/-- What the callbacks of the enabled plugins make of a response, one after the other. -/
def LlmFlow.pluginRewrite (flow : LlmFlow Content) (moment : Nat)
    (response : LlmResponse Content) : Except String (LlmResponse Content) :=
  (((flow.pluginManager.getD []).filter (·.enabled)).flatMap (·.afterModel)).foldlM
    (fun response callback => callback.turns moment response) response

/-- The first response that a callback returns, or else the response as they leave it. -/
def firstAlteration (moment : Nat) :
    List (AfterModelCallback Content) → LlmResponse Content → LlmResponse Content
  | [], response => response
  | callback :: rest, response =>
    match callback.answer moment response with
    | (left, .given) => left
    | (_, .other altered) => altered
    | (left, _) => firstAlteration moment rest left

/-- Some callback returns a response. -/
def Alters (moment : Nat) : List (AfterModelCallback Content) → LlmResponse Content → Prop
  | [], _ => False
  | callback :: rest, response =>
    match callback.answer moment response with
    | (_, .given) => True
    | (_, .other _) => True
    | (left, _) => Alters moment rest left

@[simp] theorem current_leave (objects : Objects Content) (left : LlmResponse Content) :
    (objects.leave left).current = left := by
  rcases objects with ⟨_, _ | _⟩ <;> rfl

section Rewrites

variable {moment : Nat} {objects : Objects Content} {rewritten : LlmResponse Content}

theorem plugin_callbacks_turn (callbacks : List (AfterModelCallback Content))
    (objects : Objects Content) :
    (runPluginCallbacks moment callbacks objects).2.elim
        (.ok (runPluginCallbacks moment callbacks objects).1.current) .error =
      callbacks.foldlM (fun response callback => callback.turns moment response)
        objects.current := by
  induction callbacks generalizing objects with
  | nil => rfl
  | cons callback rest ih =>
    rw [foldlM_cons]
    rcases answered : callback.answer moment objects.current with ⟨left, answer⟩
    cases answer with
    | failed => simp [runPluginCallbacks, AfterModelCallback.turns, answered]; rfl
    | other response =>
      simp only [runPluginCallbacks, AfterModelCallback.turns, answered]
      exact ih _
    | nothing | given =>
      simp only [runPluginCallbacks, AfterModelCallback.turns, answered]
      refine (ih _).trans ?_
      rw [current_leave]
      rfl

theorem plugins_turn (plugins : List (Plugin Content)) (objects : Objects Content)
    (turned : ((plugins.filter (·.enabled)).flatMap (·.afterModel)).foldlM
      (fun response callback => callback.turns moment response) objects.current =
        .ok rewritten) :
    (runAfterModelCallbacks moment plugins objects).2 = none ∧
      (runAfterModelCallbacks moment plugins objects).1.current = rewritten := by
  induction plugins generalizing objects with
  | nil => exact ⟨rfl, Except.ok.inj turned⟩
  | cons plugin rest ih =>
    cases enabled : plugin.enabled with
    | false => simpa [runAfterModelCallbacks, enabled] using ih objects (by
        simpa [enabled] using turned)
    | true =>
      rw [filter_cons_of_pos enabled, flatMap_cons, foldlM_append,
        ← plugin_callbacks_turn] at turned
      rcases result : runPluginCallbacks moment plugin.afterModel objects with ⟨after, _ | err⟩
      · rw [result] at turned
        simpa [runAfterModelCallbacks, enabled, result] using ih after turned
      · rw [result] at turned
        cases turned

theorem direct_first (moment : Nat) (callbacks : List (AfterModelCallback Content))
    (objects : Objects Content) :
    ((runDirectCallbacks moment callbacks objects).altered.isSome ↔
        Alters moment callbacks objects.current) ∧
      firstAlteration moment callbacks objects.current =
        (runDirectCallbacks moment callbacks objects).altered.getD
          (runDirectCallbacks moment callbacks objects).objects.current := by
  induction callbacks generalizing objects with
  | nil => simp [runDirectCallbacks, Alters, firstAlteration]
  | cons callback rest ih =>
    rcases answered : callback.answer moment objects.current with ⟨left, answer⟩
    have later := ih (objects.leave left)
    rw [current_leave] at later
    cases answer with
    | given | other => simp [runDirectCallbacks, Alters, firstAlteration, answered]
    | failed | nothing =>
      simpa [runDirectCallbacks, Alters, firstAlteration, answered] using later

end Rewrites

def said (text : Nat) : LlmResponse Nat := ⟨some text, false, "", ""⟩

/-- A flow without callbacks. -/
def bareFlow : LlmFlow Nat := ⟨none, [], [], [], some (.ok [said 0]), none, none⟩

/-- A plugin that answers in the model's place, or writes to the response of the model. -/
def redacting (inPlace : Bool) : LlmFlow Nat :=
  { bareFlow with
    pluginManager := some [⟨"redactor", true, [], [⟨0, fun _ response =>
      if inPlace then (said 1, .given) else (response, .other (said 1))⟩], []⟩] }

/-- The error callbacks of the enabled plugins. The flow does not call
`RunOnModelErrorCallbacks`. -/
def LlmFlow.pluginRecoverers (flow : LlmFlow Content) :
    List (Asked × OnModelErrorCallback Content) :=
  ((flow.pluginManager.getD []).filter (·.enabled)).flatMap fun plugin =>
    plugin.onModelError.map fun callback => (.plugin plugin.name callback.id, callback)

def LlmFlow.recoverers (flow : LlmFlow Content) : List (Asked × OnModelErrorCallback Content) :=
  flow.pluginRecoverers ++
    flow.onModelErrorCallbacks.map fun callback => (.direct callback.id, callback)

/-- An error is offered until one recovers. -/
def offeredTo (moment : Nat) (err : String) : List (Asked × OnModelErrorCallback Content) →
    List Asked × Option (LlmResponse Content)
  | [] => ([], none)
  | (asked, callback) :: rest =>
    match callback.answer moment err with
    | .ok (some recovery) => ([asked], some recovery)
    | _ => ((asked :: (offeredTo moment err rest).1), (offeredTo moment err rest).2)

/-- What is to be passed on for an error. -/
def offeredError (flow : LlmFlow Content) (moment : Nat) (err : String)
    (unrecovered : LlmResponse Content) : Wrapped Content :=
  ((offeredTo moment err flow.recoverers).1,
    (offeredTo moment err flow.recoverers).2.getD unrecovered)

def offered (flow : LlmFlow Content) (moment : Nat) (response : LlmResponse Content) :
    Wrapped Content :=
  if response.errorCode ≠ "" then offeredError flow moment response.errorText response
  else ([], response)

def Source.offered (flow : LlmFlow Content) : Source Content → List (Wrapped Content)
  | .live responses => responses.mapIdx (ModelCalls.offered flow)
  | .standard (.ok responses) => responses.mapIdx (ModelCalls.offered flow)
  | .standard (.error value) => [offeredError flow 0 ("panic in LLM call: " ++ value)
      (failure "llm_error" ("panic in LLM call: " ++ value))]

/-- From `moment` on, an error that is recovered is the last response. -/
def RecoveredLast (flow : LlmFlow Content) (moment : Nat) (responses : List (LlmResponse Content)) :
    Prop :=
  ∀ index response, responses[index]? = some response → response.errorCode ≠ "" →
    (offeredTo (moment + index) response.errorText flow.recoverers).2.isSome →
    index + 1 = responses.length

/-- No error is left to the plugins; none is answered in standard mode where somebody
could recover it; and a recovered one is the last response in the other mode. -/
def Source.Recoverable (flow : LlmFlow Content) : Source Content → Prop
  | .standard (.error _) => flow.pluginRecoverers = []
  | .standard (.ok responses) =>
      flow.recoverers = [] ∨ ∀ response ∈ responses, response.errorCode = ""
  | .live responses => (∀ response ∈ responses, response.errorCode = "") ∨
      flow.pluginRecoverers = [] ∧ RecoveredLast flow 0 responses

attribute [local simp] getRunConfig bareFlow ModelCall.called deliver

section Recovery

variable {flow : LlmFlow Content} {moment : Nat} {err : String}

theorem offered_to_head (moment : Nat) (err : String)
    (callbacks : List (Asked × OnModelErrorCallback Content)) :
    (offeredTo moment err callbacks).1.head? = callbacks.head?.map Prod.fst := by
  cases callbacks with
  | nil => rfl
  | cons callback rest =>
    simp only [offeredTo]
    split <;> rfl

theorem offered_to_direct (callbacks : List (OnModelErrorCallback Content)) :
    offeredTo moment err (callbacks.map fun callback => (.direct callback.id, callback)) =
      ((untilResponse moment err callbacks).1.map .direct,
        (untilResponse moment err callbacks).2) := by
  induction callbacks with
  | nil => rfl
  | cons callback rest ih =>
    rcases answered : callback.answer moment err with _ | (_ | _) <;>
      simp [offeredTo, untilResponse, answered, ih]

theorem recoverers_direct (unplugged : flow.pluginRecoverers = []) :
    offeredTo moment err flow.recoverers =
      ((untilResponse moment err flow.onModelErrorCallbacks).1.map .direct,
        (untilResponse moment err flow.onModelErrorCallbacks).2) := by
  rw [LlmFlow.recoverers, unplugged, nil_append, offered_to_direct]

/-- A plugin that should have been asked is missing among the callbacks that were. -/
theorem plugin_not_asked (moment : Nat) (err : String) (plugged : flow.pluginRecoverers ≠ [])
    (ran : List Nat) :
    (offeredTo moment err flow.recoverers).1 ≠ ran.map .direct := by
  intro same
  obtain ⟨⟨asked, callback⟩, rest, split⟩ := exists_cons_of_ne_nil plugged
  have head := offered_to_head moment err flow.recoverers
  rw [same, LlmFlow.recoverers, split, cons_append, head?_cons, head?_map] at head
  have member : (asked, callback) ∈ flow.pluginRecoverers := by simp [split]
  obtain ⟨plugin, _, isOwn⟩ := mem_flatMap.mp member
  obtain ⟨_, _, named⟩ := mem_map.mp isOwn
  cases named
  cases ran <;> cases head

theorem offered_nobody (response : LlmResponse Content) :
    offered flow moment response = ([], response) ↔
      flow.recoverers = [] ∨ response.errorCode = "" := by
  unfold offered offeredError
  split_ifs with clean
  · constructor
    · intro same
      have head := offered_to_head moment response.errorText flow.recoverers
      rw [congrArg Prod.fst same] at head
      cases nobody : flow.recoverers with
      | nil => exact .inl rfl
      | cons => simp [nobody] at head
    · rintro (nobody | none)
      · simp [nobody, offeredTo]
      · exact absurd none clean
  · simp [not_not.mp clean]

theorem standard_offered (responses : List (LlmResponse Content)) :
    responses.map (([], ·)) = responses.mapIdx (offered flow) ↔
      flow.recoverers = [] ∨ ∀ response ∈ responses, response.errorCode = "" := by
  constructor
  · intro same
    by_cases nobody : flow.recoverers = []
    · exact .inl nobody
    refine .inr fun response member => ?_
    obtain ⟨index, found⟩ := mem_iff_getElem?.mp member
    have entry := congrArg (·[index]?) same
    simp only [getElem?_map, getElem?_mapIdx, found, Option.map_some, Option.some.injEq] at entry
    exact ((offered_nobody response).mp entry.symm).resolve_left nobody
  · intro condition
    refine ext_getElem (by simp) fun index _ _ => ?_
    rw [getElem_map, getElem_mapIdx]
    exact ((offered_nobody _).mpr
      (condition.imp_right fun clean => clean _ (getElem_mem _))).symm

theorem recovered_last_cons (response : LlmResponse Content)
    (rest : List (LlmResponse Content)) :
    RecoveredLast flow moment (response :: rest) ↔
      (response.errorCode ≠ "" →
        (offeredTo moment response.errorText flow.recoverers).2.isSome → rest = []) ∧
      RecoveredLast flow (moment + 1) rest := by
  have shift : ∀ index, moment + (index + 1) = moment + 1 + index := by omega
  constructor
  · intro all
    refine ⟨fun failing recovered => ?_, fun index other found failing recovered => ?_⟩
    · simpa using all 0 response rfl failing recovered
    · simpa using all (index + 1) other found failing (by rwa [shift])
  · rintro ⟨head, tail⟩ (_ | index) other found failing recovered
    · cases found
      simp [head failing recovered]
    · simpa using tail index other found failing (by rwa [← shift])

theorem clean_recovered_last (moment : Nat) (responses : List (LlmResponse Content))
    (clean : ∀ response ∈ responses, response.errorCode = "") :
    RecoveredLast flow moment responses :=
  fun _ response found failing => absurd (clean response (mem_of_getElem? found)) failing

theorem stream_head (moment : Nat) (response : LlmResponse Content)
    (rest : List (LlmResponse Content)) : ∃ (ran : List Nat) (first : _) (later : _),
    runAndHandleErrorStream flow moment (response :: rest) =
      (ran.map Asked.direct, first) :: later := by
  simp only [runAndHandleErrorStream]
  split_ifs
  · split <;> exact ⟨_, _, _, rfl⟩
  · exact ⟨[], _, _, rfl⟩

theorem live_offered (moment : Nat) (responses : List (LlmResponse Content)) :
    runAndHandleErrorStream flow moment responses =
        responses.mapIdx (fun index => offered flow (moment + index)) ↔
      (∀ response ∈ responses, response.errorCode = "") ∨
        flow.pluginRecoverers = [] ∧ RecoveredLast flow moment responses := by
  induction responses generalizing moment with
  | nil => simp [runAndHandleErrorStream]
  | cons response rest ih =>
    have shift : (fun index => offered flow (moment + (index + 1))) =
        fun index => offered flow (moment + 1 + index) := by
      funext index
      rw [Nat.add_assoc, Nat.add_comm 1]
    rw [mapIdx_cons, recovered_last_cons, Nat.add_zero, shift, forall_mem_cons]
    by_cases clean : response.errorCode = ""
    · simp [runAndHandleErrorStream, offered, clean, ih (moment + 1)]
    by_cases plugged : flow.pluginRecoverers = []
    · rcases result : untilResponse moment response.errorText flow.onModelErrorCallbacks with
        ⟨ran, _ | recovery⟩
      · simpa [runAndHandleErrorStream, offered, offeredError, clean, recoverers_direct plugged,
          result, plugged, ih (moment + 1)] using clean_recovered_last (moment + 1) rest
      · cases rest <;> simp [runAndHandleErrorStream, offered, offeredError, clean,
          recoverers_direct plugged, result, plugged, RecoveredLast]
    · -- the first error shows that the plugins are not asked
      obtain ⟨ran, _, _, stream⟩ := stream_head moment response rest
      simp only [clean, plugged, false_and, or_false, iff_false]
      rw [stream, cons.injEq]
      intro same
      refine plugin_not_asked moment response.errorText plugged ran ?_
      simpa [offered, offeredError, clean] using (congrArg Prod.fst same.1).symm

end Recovery

/-- In every call that takes a provider, its errors are offered as they should exactly
under the condition. -/
theorem errors_offered_iff (flow : LlmFlow Content) (context : InvocationContext)
    (source : Source Content) (taken : (callLlmAsync flow context).source = some source) :
    (callLlmAsync flow context).handled.map (fun handled => (handled.asked, handled.response)) =
        source.offered flow ↔ source.Recoverable flow := by
  have wrapped : (callLlmAsync flow context).handled.map
      (fun handled => (handled.asked, handled.response)) = source.wrapped flow := by
    rw [call_handled, taken]
    refine ext_getElem (by simp) fun index _ _ => ?_
    simp [handleResponse]
  rw [wrapped]
  cases source with
  | live responses =>
    simpa [Source.wrapped, Source.offered, Source.Recoverable] using live_offered 0 responses
  | standard answer =>
    cases answer with
    | ok responses => exact standard_offered responses
    | error value =>
      simp only [Source.wrapped, runWithErrorHandling, Source.offered, offeredError,
        Source.Recoverable, cons.injEq, and_true, Prod.mk.injEq]
      constructor
      · intro same
        by_contra plugged
        exact plugin_not_asked _ _ plugged _ same.1.symm
      · intro unplugged
        simp [recoverers_direct unplugged]

def recovering : LlmFlow Nat :=
  { bareFlow with
    onModelErrorCallbacks := [⟨4, fun _ _ => .ok (some (said 1))⟩]
    liveProvider := some [said 0, failure "overloaded" "later"] }

theorem last_error_recovered :
    (callLlmAsync recovering ⟨0, some ⟨.none, true, 0⟩⟩).handled.map
        (fun handled => (handled.asked, handled.response)) =
      [([], said 0), ([.direct 4], said 1)] := by
  refine (errors_offered_iff recovering ⟨0, some ⟨.none, true, 0⟩⟩
    (.live [said 0, failure "overloaded" "later"]) rfl).mpr (.inr ⟨rfl, ?_⟩)
  rw [recovered_last_cons, recovered_last_cons]
  refine ⟨fun failing => absurd rfl failing, fun _ _ => rfl, ?_⟩
  intro index response found
  cases found

/-- In standard mode no callback sees an error that the provider answers. -/
theorem errors_not_offered :
    ¬ ∀ (flow : LlmFlow Nat) (context : InvocationContext) (source : Source Nat),
      (callLlmAsync flow context).source = some source →
      (callLlmAsync flow context).handled.map (fun handled => (handled.asked, handled.response)) =
        source.offered flow := by
  intro handled
  have asked := handled { recovering with llmProvider := some (.ok [failure "overloaded" "later"]) }
    ⟨0, none⟩ _ rfl
  revert asked
  decide

/-- The calls of a provider when the flows of an invocation call the model in turn. -/
def providerCalls (context : InvocationContext) : List (LlmFlow Content) → Nat
  | [] => 0
  | flow :: rest =>
    let call := callLlmAsync flow context
    (if call.called then 1 else 0) + providerCalls call.context rest

section Limit

variable {context : InvocationContext} {config : RunConfig}

theorem call_counted (flow : LlmFlow Content) (found : context.runConfig = some config)
    (positive : 0 < config.maxLLMCalls)
    (standard : config.supportCFC = false ∨ flow.liveProvider = none) :
    (callLlmAsync flow context).context.runConfig = some config ∧
    context.llmCallCount ≤ (callLlmAsync flow context).context.llmCallCount ∧
    ((callLlmAsync flow context).called → context.llmCallCount + 1 ≤ config.maxLLMCalls ∧
      (callLlmAsync flow context).context.llmCallCount = context.llmCallCount + 1) := by
  have effective : getRunConfig flow context = some config := by simp [found]
  unfold callLlmAsync
  rw [effective]
  split
  · simp [found]
  · simp [found]
  split
  · simp [found]
  · simp [found]
  dsimp only
  split
  · rename_i live provider
    rcases standard with off | absent
    · simp [off] at live
    · simp [absent] at provider
  simp only [incrementLLMCallCount, found]
  by_cases exceeded : config.maxLLMCalls ≤ context.llmCallCount
  · simp [positive, exceeded]
  · cases flow.llmProvider with
    | none => simp [positive, exceeded]
    | some answer =>
      simp [positive, exceeded]
      omega

theorem provider_calls_le (flows : List (LlmFlow Content))
    (found : context.runConfig = some config) (positive : 0 < config.maxLLMCalls)
    (standard : config.supportCFC = false ∨ ∀ flow ∈ flows, flow.liveProvider = none) :
    providerCalls context flows ≤ config.maxLLMCalls.toNat - context.llmCallCount := by
  induction flows generalizing context with
  | nil => exact Nat.zero_le _
  | cons flow rest ih =>
    obtain ⟨same, grows, counted⟩ := call_counted flow found positive
      (standard.imp_right fun none => none flow mem_cons_self)
    have bound := ih same (standard.imp_right fun none other h => none other (mem_cons_of_mem _ h))
    simp only [providerCalls]
    split
    · have := counted ‹_›
      omega
    · omega

end Limit

/-- The limit of the invocation's own configuration holds where no call takes the
live provider. -/
theorem call_limit_enforced (context : InvocationContext) (config : RunConfig)
    (flows : List (LlmFlow Content)) (fresh : context.llmCallCount = 0)
    (found : context.runConfig = some config) (positive : 0 < config.maxLLMCalls)
    (standard : config.supportCFC = false ∨ ∀ flow ∈ flows, flow.liveProvider = none) :
    providerCalls context flows ≤ config.maxLLMCalls := by
  have bound := provider_calls_le flows found positive standard
  omega

theorem call_limit_enforced_sample :
    providerCalls ⟨0, some ⟨.none, false, 1⟩⟩ [bareFlow, bareFlow] ≤ (1 : Int) :=
  call_limit_enforced ⟨0, some ⟨.none, false, 1⟩⟩ ⟨.none, false, 1⟩ [bareFlow, bareFlow] rfl rfl
    (by decide) (.inl rfl)

/-- The limit of a default configuration is not looked at. -/
theorem default_limit_ignored :
    ¬ ∀ (context : InvocationContext) (flows : List (LlmFlow Nat)) (limit : Int),
      0 < limit → context.llmCallCount = 0 →
      (∀ flow ∈ flows, (getRunConfig flow context).map (·.maxLLMCalls) = some limit) →
      providerCalls context flows ≤ limit := by
  intro enforced
  let limited : LlmFlow Nat := { bareFlow with defaultRunConfig := some ⟨.none, false, 1⟩ }
  exact absurd (enforced ⟨0, none⟩ [limited, limited] 1 (by decide) rfl
    (by simp [limited])) (by decide)

/-- An agent that delegates to a flow. -/
structure LLMAsyncAgent (Content : Type) where
  beforeModelCallbacks : List (BeforeModelCallback Content)
  afterModelCallbacks : List (AfterModelCallback Content)
  onModelErrorCallbacks : List (OnModelErrorCallback Content)
  flow : LlmFlow Content

/-- A run first copies the callbacks of the agent to the flow. -/
def LLMAsyncAgent.runAsync (agent : LLMAsyncAgent Content) : LLMAsyncAgent Content :=
  { agent with flow := { agent.flow with
      beforeModelCallbacks := agent.flow.beforeModelCallbacks ++ agent.beforeModelCallbacks
      afterModelCallbacks := agent.flow.afterModelCallbacks ++ agent.afterModelCallbacks
      onModelErrorCallbacks := agent.flow.onModelErrorCallbacks ++ agent.onModelErrorCallbacks } }

/-- The flow in the run after the given number of others. -/
def LLMAsyncAgent.flowAfter (agent : LLMAsyncAgent Content) (runs : Nat) : LlmFlow Content :=
  (runAsync^[runs + 1] agent).flow

attribute [local simp] LLMAsyncAgent.runAsync

theorem flow_after_eq (agent : LLMAsyncAgent Content) (runs : Nat) :
    agent.flowAfter runs = { agent.flow with
      beforeModelCallbacks := agent.flow.beforeModelCallbacks ++
        (replicate (runs + 1) agent.beforeModelCallbacks).flatten
      afterModelCallbacks := agent.flow.afterModelCallbacks ++
        (replicate (runs + 1) agent.afterModelCallbacks).flatten
      onModelErrorCallbacks := agent.flow.onModelErrorCallbacks ++
        (replicate (runs + 1) agent.onModelErrorCallbacks).flatten } := by
  induction runs generalizing agent with
  | zero => simp [LLMAsyncAgent.flowAfter]
  | succ runs ih =>
    refine (ih agent.runAsync).trans ?_
    simp [replicate_succ, append_assoc]

theorem until_answer_silent (callbacks : List (BeforeModelCallback Content))
    (silent : ∀ callback ∈ callbacks, callback.answer 0 () = .ok none) :
    untilAnswer 0 () callbacks = (callbacks.map (·.id), .ok none) := by
  induction callbacks with
  | nil => rfl
  | cons callback rest ih =>
    rw [forall_mem_cons] at silent
    simp [untilAnswer, silent.1, ih silent.2]

/-- The callbacks that have to run after a response: up to the first one that returns a
response. -/
def reached (moment : Nat) : List (AfterModelCallback Content) → LlmResponse Content →
    List (AfterModelCallback Content)
  | [], _ => []
  | callback :: rest, response =>
    match callback.answer moment response with
    | (_, .given) => [callback]
    | (_, .other _) => [callback]
    | (left, _) => callback :: reached moment rest left

theorem direct_ran (moment : Nat) (callbacks : List (AfterModelCallback Content))
    (objects : Objects Content) :
    (runDirectCallbacks moment callbacks objects).ran =
      (reached moment callbacks objects.current).map (·.id) := by
  induction callbacks generalizing objects with
  | nil => rfl
  | cons callback rest ih =>
    rcases answered : callback.answer moment objects.current with ⟨left, answer⟩
    have later := ih (objects.leave left)
    rw [current_leave] at later
    cases answer <;> simp [runDirectCallbacks, reached, answered, later]

theorem reached_append (moment : Nat) (first second : List (AfterModelCallback Content))
    (response : LlmResponse Content) :
    (Alters moment first response →
        reached moment (first ++ second) response = reached moment first response) ∧
      (¬ Alters moment first response → reached moment first response = first ∧
        ∃ left, reached moment (first ++ second) response =
          first ++ reached moment second left) := by
  induction first generalizing response with
  | nil => exact ⟨fun altered => altered.elim, fun _ => ⟨rfl, response, rfl⟩⟩
  | cons callback rest ih =>
    rcases answered : callback.answer moment response with ⟨left, answer⟩
    have later := ih left
    cases answer with
    | given | other => simp [reached, Alters, answered]
    | failed | nothing =>
      simp only [cons_append, reached, Alters, answered, cons.injEq, true_and]
      exact later

theorem reached_nil_iff (moment : Nat) (callbacks : List (AfterModelCallback Content))
    (response : LlmResponse Content) : reached moment callbacks response = [] ↔ callbacks = [] := by
  cases callbacks with
  | nil => simp [reached]
  | cons callback rest =>
    simp only [reached, reduceCtorEq, iff_false]
    split <;> simp

/-- The callbacks of the flow and the agent, each as often as it was registered. -/
def LLMAsyncAgent.registered (agent : LLMAsyncAgent Content) : List (AfterModelCallback Content) :=
  agent.flow.afterModelCallbacks ++ agent.afterModelCallbacks

theorem copies_nil_iff {Callback : Type} (runs : Nat) (own : List Callback) :
    (replicate runs own).flatten = [] ↔ runs = 0 ∨ own = [] := by
  simp [flatten_eq_nil_iff, or_iff_not_imp_left]

/-- In a call that no callback ends, those of the flow run before the model. -/
theorem before_callbacks_ran {agent : LLMAsyncAgent Content} (runs : Nat)
    (context : InvocationContext)
    (plugins : runBeforeModelCallbacks (agent.flow.pluginManager.getD []) = .ok none)
    (silent : ∀ callback ∈ agent.flow.beforeModelCallbacks ++ agent.beforeModelCallbacks,
      callback.answer 0 () = .ok none) :
    (callLlmAsync (agent.flowAfter runs) context).ran =
      (agent.flowAfter runs).beforeModelCallbacks.map (·.id) := by
  have all : ∀ callback ∈ (agent.flowAfter runs).beforeModelCallbacks,
      callback.answer 0 () = .ok none := by
    rw [flow_after_eq]
    intro callback member
    rw [replicate_succ, flatten_cons, ← append_assoc] at member
    rcases mem_append.mp member with old | copied
    · exact silent callback old
    · obtain ⟨_, inCopies, inOwn⟩ := mem_flatten.mp copied
      rw [eq_of_mem_replicate inCopies] at inOwn
      exact silent callback (mem_append_right _ inOwn)
  have same : (agent.flowAfter runs).pluginManager = agent.flow.pluginManager := by
    rw [flow_after_eq]
  simp only [callLlmAsync, same, plugins, until_answer_silent _ all]
  repeat' split
  all_goals rfl

theorem after_callbacks_ran {agent : LLMAsyncAgent Content} {runs : Nat}
    {context : InvocationContext} {handled : Handled Content}
    (member : handled ∈ (callLlmAsync (agent.flowAfter runs) context).handled) :
    handled.ran = (reached handled.moment
      (agent.registered ++ (replicate runs agent.afterModelCallbacks).flatten)
      (afterPlugins agent.flow handled.moment handled.response).current).map (·.id) := by
  obtain ⟨_, isHandled⟩ := handled_response member
  refine (congrArg Handled.ran isHandled).trans ?_
  rw [flow_after_eq]
  refine (direct_ran ..).trans ?_
  simp [LLMAsyncAgent.registered, afterPlugins, replicate_succ]

/-- In a call that no callback ends, the callbacks before the model run once exactly in
the first run of an agent or where it has none of its own, and those after a response
exactly there or where one that was registered returns a response. -/
theorem callbacks_run_once_iff (agent : LLMAsyncAgent Content) (runs : Nat)
    (context : InvocationContext)
    (plugins : runBeforeModelCallbacks (agent.flow.pluginManager.getD []) = .ok none)
    (silent : ∀ callback ∈ agent.flow.beforeModelCallbacks ++ agent.beforeModelCallbacks,
      callback.answer 0 () = .ok none) :
    ((callLlmAsync (agent.flowAfter runs) context).ran =
        (agent.flow.beforeModelCallbacks ++ agent.beforeModelCallbacks).map (·.id) ↔
      runs = 0 ∨ agent.beforeModelCallbacks = []) ∧
    ∀ handled ∈ (callLlmAsync (agent.flowAfter runs) context).handled,
      (handled.ran = (reached handled.moment agent.registered
          (afterPlugins agent.flow handled.moment handled.response).current).map (·.id) ↔
        runs = 0 ∨ agent.afterModelCallbacks = [] ∨ Alters handled.moment agent.registered
          (afterPlugins agent.flow handled.moment handled.response).current) := by
  constructor
  · rw [before_callbacks_ran runs context plugins silent, flow_after_eq, replicate_succ,
      flatten_cons, ← append_assoc, map_append, append_right_eq_self, map_eq_nil_iff,
      copies_nil_iff]
  · intro handled member
    obtain ⟨stopped, passed⟩ := reached_append handled.moment agent.registered
      (replicate runs agent.afterModelCallbacks).flatten
      (afterPlugins agent.flow handled.moment handled.response).current
    rw [after_callbacks_ran member]
    by_cases altered : Alters handled.moment agent.registered
        (afterPlugins agent.flow handled.moment handled.response).current
    · simp [stopped altered, altered]
    · obtain ⟨all, left, more⟩ := passed altered
      rw [all, more, map_append, append_right_eq_self, map_eq_nil_iff, reached_nil_iff,
        copies_nil_iff]
      simp only [altered, or_false]

def observed : LLMAsyncAgent Nat := ⟨[⟨5, fun _ _ => .ok none⟩], [], [], bareFlow⟩

attribute [local simp] observed

theorem first_run_once :
    (callLlmAsync (observed.flowAfter 0) ⟨0, none⟩).ran = [5] :=
  (callbacks_run_once_iff observed 0 ⟨0, none⟩ rfl (by simp)).1.mpr (.inl rfl)

/-- In its second run the callbacks of an agent run twice. -/
theorem callbacks_run_twice :
    ¬ ∀ (agent : LLMAsyncAgent Nat) (runs : Nat) (context : InvocationContext),
      runBeforeModelCallbacks (agent.flow.pluginManager.getD []) = .ok none →
      (∀ callback ∈ agent.flow.beforeModelCallbacks ++ agent.beforeModelCallbacks,
        callback.answer 0 () = .ok none) →
      (callLlmAsync (agent.flowAfter runs) context).ran =
        (agent.flow.beforeModelCallbacks ++ agent.beforeModelCallbacks).map (·.id) := by
  intro once
  exact absurd (once observed 1 ⟨0, none⟩ rfl (by simp)) (by decide)

end Dagens.Runtime.ModelCalls
