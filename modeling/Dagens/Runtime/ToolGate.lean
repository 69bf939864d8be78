import Dagens.Runtime.LlmFlow

/-!
# The callbacks before a tool

A handler may run only after the callbacks of the enabled plugins and the direct
callbacks of the flow have passed the call. The loop of `RunAsync` runs both; the
loop of `RunLive` runs the plugins' callbacks only, so a direct callback has no
say in live mode.
-/

namespace Dagens.Runtime.ToolGate

open LlmFlow List

variable {World Args Result : Type}

/-- A callback that has to pass a call before its handler may run. -/
inductive Required (flow : LlmFlow World Args Result) : Origin → Prop where
  | plugin {manager : PluginManager World Args Result} {name : String}
      {plugin : Plugin World Args Result} {index : Nat}
      (managed : flow.pluginManager = some manager)
      (registered : manager.plugins.lookup name = some plugin)
      (enabled : plugin.enabled = true) (bound : index < plugin.beforeTool.length) :
      Required flow (.plugin name index)
  | direct {index : Nat} (bound : index < flow.beforeToolCallbacks.length) :
      Required flow (.direct index)

/-- What the calls of a response came to: no handler before every required
callback has passed its call, and one answer for each call in its place, an error
where a callback has refused. -/
structure Gated (required : Origin → Prop) (calls : List (FunctionCall Args))
    (progress : Progress World Args Result) : Prop where
  authorised : ∀ position name args before after,
    progress.gate.trace = before ++ Event.handled position name args :: after →
      (∃ call, calls[position]? = some call ∧ call.name = name ∧ call.args = args) ∧
      ∀ origin, required origin → Event.ran position origin name args none ∈ before
  answered : progress.functionResponses.map (·.name) = calls.map (·.name)
  refused : ∀ position origin name args text,
    Event.ran position origin name args (some text) ∈ progress.gate.trace →
      (∃ response, progress.functionResponses[position]? = some response ∧
        response.error ≠ "") ∧
      ∀ name args, Event.handled position name args ∉ progress.gate.trace

/-- The run of some callbacks on a call: each of `origins` is run, unless an
earlier one fails, which is what comes back. -/
structure Consulted (position : Nat) (call : FunctionCall Args) (origins : Origin → Prop)
    (ran : List (Event Args)) (err : Option String) : Prop where
  own : ∀ event ∈ ran, ∃ origin outcome, origins origin ∧
    event = .ran position origin call.name call.args outcome ∧ (outcome.isSome → err.isSome)
  all : err = none → ∀ origin, origins origin →
    Event.ran position origin call.name call.args none ∈ ran

variable {required : Origin → Prop} {position : Nat} {call : FunctionCall Args}
  {ran : List (Event Args)} {err : Option String} {origins : Origin → Prop} {gate : Gate World Args}
  {flow : LlmFlow World Args Result} {progress : Progress World Args Result}

theorem Consulted.append {first second : Origin → Prop} {more : List (Event Args)}
    (passed : Consulted position call first ran none)
    (rest : Consulted position call second more err) :
    Consulted position call (fun origin => first origin ∨ second origin) (ran ++ more) err where
  own := by
    intro event member
    rcases List.mem_append.mp member with early | late
    · obtain ⟨origin, outcome, known, rfl, silent⟩ := passed.own event early
      exact ⟨origin, outcome, .inl known, rfl, fun fails => absurd (silent fails) (by simp)⟩
    · obtain ⟨origin, outcome, known, rfl, reported⟩ := rest.own event late
      exact ⟨origin, outcome, .inr known, rfl, reported⟩
  all := by
    rintro rfl origin (known | known)
    · exact mem_append_left _ (passed.all rfl origin known)
    · exact mem_append_right _ (rest.all rfl origin known)

theorem Consulted.refuse {some' all' : Origin → Prop} {err' : Option String}
    (consulted : Consulted position call some' ran err)
    (more : ∀ origin, some' origin → all' origin) (fails : err'.isSome) :
    Consulted position call all' ran err' where
  own := by
    intro event member
    obtain ⟨origin, outcome, known, rfl, _⟩ := consulted.own event member
    exact ⟨origin, outcome, more origin known, rfl, fun _ => fails⟩
  all := by
    rintro rfl
    cases fails

theorem Consulted.congr {others : Origin → Prop}
    (consulted : Consulted position call origins ran err)
    (same : ∀ origin, origins origin ↔ others origin) :
    Consulted position call others ran err := by
  have equal : origins = others := funext fun origin => propext (same origin)
  exact equal ▸ consulted

attribute [local simp] runPlugins runCallbacks Progress.answer overCalls

section

variable (position call)

theorem consulted_nobody (nobody : ∀ origin, ¬ origins origin) :
    Consulted position call origins [] none where
  own := by simp
  all := fun _ origin known => absurd known (nobody origin)

theorem run_callbacks_consult (origin : Nat → Origin)
    (callbacks : List (BeforeToolCallback World Args)) (index : Nat) (gate : Gate World Args) :
    ∃ ran, (runCallbacks position call.name call.args origin callbacks index gate).1.trace =
        gate.trace ++ ran ∧
      Consulted position call
        (fun one => ∃ offset < callbacks.length, one = origin (index + offset)) ran
        (runCallbacks position call.name call.args origin callbacks index gate).2 := by
  induction callbacks generalizing index gate with
  | nil => exact ⟨[], by simp, consulted_nobody _ _ (by simp)⟩
  | cons callback _ ih =>
    rcases result : callback gate.world call.name call.args with ⟨world, err⟩
    have first : Consulted position call (fun one => one = origin index)
        [.ran position (origin index) call.name call.args err] err :=
      ⟨fun event member => ⟨_, _, rfl, mem_singleton.mp member, id⟩, by
        rintro rfl one rfl
        exact mem_singleton_self _⟩
    cases err with
    | some text =>
      refine ⟨[.ran position (origin index) call.name call.args (some text)],
        by simp [result], ?_⟩
      simp only [runCallbacks, result]
      exact first.refuse (fun one same => ⟨0, by simp, same⟩) rfl
    | none =>
      obtain ⟨ran, grown, consulted⟩ := ih (index + 1)
        ⟨world, gate.trace ++ [.ran position (origin index) call.name call.args none]⟩
      refine ⟨_ :: ran, by simp only [runCallbacks, result]; simpa using grown, ?_⟩
      simp only [runCallbacks, result]
      refine (first.append consulted).congr fun one => ⟨?_, ?_⟩
      · rintro (rfl | ⟨offset, bound, rfl⟩)
        · exact ⟨0, by simp, rfl⟩
        · exact ⟨offset + 1, by simpa using bound, by congr 1; omega⟩
      · rintro ⟨offset, bound, rfl⟩
        cases offset with
        | zero => exact .inl rfl
        | succ offset => exact .inr ⟨offset, by simpa using bound, by congr 1; omega⟩

def OfPlugins (plugins : List (String × Plugin World Args Result)) (origin : Origin) : Prop :=
  ∃ name plugin index, (name, plugin) ∈ plugins ∧ plugin.enabled = true ∧
    index < plugin.beforeTool.length ∧ origin = .plugin name index

theorem run_plugins_consult (plugins : List (String × Plugin World Args Result))
    (gate : Gate World Args) :
    ∃ ran, (runPlugins position call.name call.args plugins gate).1.trace = gate.trace ++ ran ∧
      Consulted position call (OfPlugins plugins) ran
        (runPlugins position call.name call.args plugins gate).2 := by
  induction plugins generalizing gate with
  | nil => exact ⟨[], by simp, consulted_nobody _ _ (by simp [OfPlugins])⟩
  | cons head rest ih =>
    obtain ⟨name, plugin⟩ := head
    cases enabled : plugin.enabled with
    | false =>
      obtain ⟨ran, grown, consulted⟩ := ih gate
      refine ⟨ran, by simpa [enabled] using grown, ?_⟩
      simp only [runPlugins, enabled]
      refine consulted.congr fun origin => ?_
      simp only [OfPlugins, mem_cons, Prod.mk.injEq]
      constructor
      · rintro ⟨other, one, index, member, rest⟩
        exact ⟨other, one, index, .inr member, rest⟩
      · rintro ⟨other, one, index, ⟨rfl, rfl⟩ | member, isEnabled, rest⟩
        · simp [enabled] at isEnabled
        · exact ⟨other, one, index, member, isEnabled, rest⟩
    | true =>
      obtain ⟨ran, grown, consulted⟩ :=
        run_callbacks_consult position call (.plugin name) plugin.beforeTool 0 gate
      rcases result : runCallbacks position call.name call.args (.plugin name)
        plugin.beforeTool 0 gate with ⟨after, err⟩
      rw [result] at grown consulted
      have mine : ∀ origin,
          (∃ offset < plugin.beforeTool.length, origin = Origin.plugin name (0 + offset)) →
            OfPlugins ((name, plugin) :: rest) origin := by
        rintro origin ⟨offset, bound, rfl⟩
        exact ⟨name, plugin, offset, mem_cons_self, enabled, bound, by simp⟩
      cases err with
      | some =>
        refine ⟨ran, by simpa [enabled, result] using grown, ?_⟩
        simp only [runPlugins, enabled, result]
        exact consulted.refuse mine rfl
      | none =>
        obtain ⟨more, grownMore, consultedMore⟩ := ih after
        refine ⟨ran ++ more, ?_, ?_⟩
        · simpa [enabled, result, ← append_assoc, ← grown] using grownMore
        · simp only [runPlugins, enabled, result]
          refine (consulted.append consultedMore).congr fun origin => ⟨?_, ?_⟩
          · rintro (own | ⟨other, one, index, member, others⟩)
            · exact mine origin own
            · exact ⟨other, one, index, mem_cons_of_mem _ member, others⟩
          · rintro ⟨other, one, index, member, isEnabled, bound, rfl⟩
            rcases mem_cons.mp member with same | member
            · cases same
              exact .inl ⟨index, bound, by simp⟩
            · exact .inr ⟨other, one, index, member, isEnabled, bound, rfl⟩

end

def PluginOrigin (flow : LlmFlow World Args Result) (origin : Origin) : Prop :=
  ∃ manager, flow.pluginManager = some manager ∧ OfPlugins manager.inOrder origin

section

variable (flow)

theorem plugins_before_consult (position : Nat) (call : FunctionCall Args) (gate : Gate World Args)
    :
    ∃ ran, (pluginsBefore flow position call gate).1.trace = gate.trace ++ ran ∧
      Consulted position call (PluginOrigin flow) ran
        (pluginsBefore flow position call gate).2 := by
  cases managed : flow.pluginManager with
  | none =>
    refine ⟨[], by simp [pluginsBefore, managed], ?_⟩
    simp only [pluginsBefore, managed]
    exact consulted_nobody _ _ (by simp [PluginOrigin, managed])
  | some manager =>
    obtain ⟨ran, grown, consulted⟩ :=
      run_plugins_consult position call manager.inOrder gate
    refine ⟨ran, by simpa [pluginsBefore, managed, runBeforeToolCallbacks] using grown, ?_⟩
    simp only [pluginsBefore, managed, runBeforeToolCallbacks]
    exact consulted.congr fun origin => by simp [PluginOrigin, managed]

theorem required_iff (origin : Origin) :
    PluginOrigin flow origin ∨ (∃ offset < flow.beforeToolCallbacks.length,
      origin = .direct (0 + offset)) ↔ Required flow origin := by
  constructor
  · rintro (⟨manager, managed, name, plugin, _, member, enabled, bound, rfl⟩ |
      ⟨_, bound, rfl⟩)
    · exact .plugin managed ((mem_in_order manager name plugin).mp member) enabled bound
    · exact .direct (by simpa using bound)
  · intro required
    cases required with
    | plugin managed registered enabled bound =>
      exact .inl ⟨_, managed, _, _, _, (mem_in_order ..).mpr registered, enabled, bound,
        rfl⟩
    | direct bound => exact .inr ⟨_, bound, by simp⟩

end

/-- What a loop body does with a call: it consults, and then it refuses, or it may
run the handler if nobody of `origins` has refused. -/
structure Treated (origins : Origin → Prop) (position : Nat) (call : FunctionCall Args)
    (progress after : Progress World Args Result) : Prop where
  treated : ∃ ran err handled response, Consulted position call origins ran err ∧
    after.gate.trace = progress.gate.trace ++ ran ++ handled ∧
    after.functionResponses = progress.functionResponses ++ [response] ∧
    response.name = call.name ∧
    (handled = [] ∧ response.error ≠ "" ∨
      handled = [.handled position call.name call.args] ∧ err = none)

variable {text : String}

theorem prefixed_ne_empty {front : String} (nonempty : front ≠ "") : front ++ text ≠ "" := by
  intro empty
  have chars := congrArg String.toList empty
  simp only [String.toList_append, String.toList_empty, append_eq_nil_iff] at chars
  exact nonempty (String.toList_inj.mp (by simpa using chars.1))

variable {after : Gate World Args} {world : World}
  {body : Nat → FunctionCall Args → Progress World Args Result → Progress World Args Result}

theorem run_plugins_error_ne_empty {name : String} {args : Args}
    {plugins : List (String × Plugin World Args Result)}
    (failed : runPlugins position name args plugins gate = (after, some text)) :
    text ≠ "" := by
  induction plugins generalizing gate with
  | nil => simp at failed
  | cons head _ ih =>
    obtain ⟨_⟩ := head
    simp only [runPlugins] at failed
    split_ifs at failed
    · exact ih failed
    · split at failed
      · cases failed
        exact prefixed_ne_empty (prefixed_ne_empty (prefixed_ne_empty (by decide)))
      · exact ih failed

theorem plugins_error_ne_empty
    (failed : pluginsBefore flow position call gate = (after, some text)) : text ≠ "" := by
  simp only [pluginsBefore] at failed
  split at failed
  · cases failed
  · exact run_plugins_error_ne_empty failed

theorem treated_unasked (nonempty : text ≠ "") :
    Treated origins position call progress (progress.answer progress.gate ⟨call.name, none, text⟩):=
  -- nobody is asked, which is no pass
  ⟨[], some text, [], _, ⟨by simp, by simp⟩, by simp, rfl, rfl,
    .inl ⟨rfl, nonempty⟩⟩

theorem treated_refused (consulted : Consulted position call origins ran err)
    (grown : gate.trace = progress.gate.trace ++ ran) (nonempty : text ≠ "") :
    Treated origins position call progress (progress.answer gate ⟨call.name, none, text⟩) :=
  ⟨ran, err, [], _, consulted, by simp [grown], rfl, rfl, .inl ⟨rfl, nonempty⟩⟩

theorem treated_handled {result : Option Result} (passed : Consulted position call origins ran none)
    (grown : gate.trace = progress.gate.trace ++ ran) :
    Treated origins position call progress (progress.answer
      ⟨world, gate.trace ++ [.handled position call.name call.args]⟩
      (toolResponse call result err)) :=
  ⟨ran, none, _, _, passed, by simp [grown], rfl,
    by cases err <;> rfl, .inr ⟨rfl, rfl⟩⟩

section

variable (flow) (tools : ToolsDict World Args Result)

theorem handle_function_call_treats (position : Nat) (call : FunctionCall Args)
    (progress : Progress World Args Result) :
    Treated (Required flow) position call progress
      (handleFunctionCall flow tools position call progress) := by
  cases found : tools call.name with
  | none =>
    simp only [handleFunctionCall, found]
    exact treated_unasked (prefixed_ne_empty (by decide))
  | some tool =>
    obtain ⟨ran, grown, consulted⟩ := plugins_before_consult flow position call progress.gate
    rcases result : pluginsBefore flow position call progress.gate with ⟨gate, err⟩
    rw [result] at grown consulted
    cases err with
    | some text =>
      simp only [handleFunctionCall, found, result]
      have refused := consulted.refuse
        (fun origin known => (required_iff flow origin).mp (.inl known))
        (rfl : (some text).isSome)
      exact treated_refused refused grown (prefixed_ne_empty (by decide))
    | none =>
      obtain ⟨more, grownMore, consultedMore⟩ := run_callbacks_consult position call .direct
        flow.beforeToolCallbacks 0 gate
      have both := (consulted.append consultedMore).congr (required_iff flow)
      rcases direct : runCallbacks position call.name call.args .direct
        flow.beforeToolCallbacks 0 gate with ⟨last, err⟩
      rw [direct] at grownMore both
      have trace : last.trace = progress.gate.trace ++ (ran ++ more) := by
        rw [← append_assoc, ← grown, ← grownMore]
      cases err with
      | some =>
        simp only [handleFunctionCall, found, result, direct]
        exact treated_refused both trace (prefixed_ne_empty (by decide))
      | none =>
        cases handler : tool.handler with
          simp only [handleFunctionCall, found, result, direct, handler]
        | none =>
          exact treated_refused both trace (by decide)
        | some handler =>
          exact treated_handled both trace

theorem handle_live_function_call_treats (position : Nat) (call : FunctionCall Args)
    (progress : Progress World Args Result) :
    Treated (PluginOrigin flow) position call progress
      (handleLiveFunctionCall flow tools position call progress) := by
  obtain ⟨_, grown, consulted⟩ := plugins_before_consult flow position call progress.gate
  rcases result : pluginsBefore flow position call progress.gate with ⟨_, err⟩
  rw [result] at grown consulted
  cases err with
  | some =>
    simp only [handleLiveFunctionCall, result]
    exact treated_refused consulted grown (plugins_error_ne_empty result)
  | none =>
    cases handler : (tools call.name).bind (·.handler) with
      simp only [handleLiveFunctionCall, result, handler]
    | none =>
      refine treated_refused consulted grown (prefixed_ne_empty ?_)
      exact prefixed_ne_empty (by decide)
    | some handler =>
      exact treated_handled consulted grown

end

/-- The trace is about calls that have had their turn. -/
def Past (calls : List (FunctionCall Args)) (trace : List (Event Args)) : Prop :=
  (∀ position origin name args err, Event.ran position origin name args err ∈ trace →
    position < calls.length) ∧
  ∀ position name args, Event.handled position name args ∈ trace → position < calls.length

theorem split_at_entry {α : Type} {old new before after : List α} {entry : α}
    (same : old ++ new = before ++ entry :: after) :
    (∃ tail, old = before ++ entry :: tail) ∨
      ∃ front, before = old ++ front ∧ new = front ++ entry :: after := by
  rcases append_eq_append_iff.mp same with ⟨front, whole, rest⟩ | ⟨tail, whole, rest⟩
  · exact .inr ⟨front, whole, rest⟩
  · cases tail with
    | nil => exact .inr ⟨[], by simpa using whole.symm, by simpa using rest.symm⟩
    | cons _ tail =>
      obtain ⟨rfl, _⟩ := List.cons.inj rest
      exact .inl ⟨tail, whole⟩

theorem Consulted.no_handler (consulted : Consulted position call origins ran err) (other : Nat)
    (name : String) (args : Args) : Event.handled other name args ∉ ran := by
  intro member
  obtain ⟨_, _, _, same, _⟩ := consulted.own _ member
  cases same

section Turn

variable {calls : List (FunctionCall Args)} {call : FunctionCall Args}
  {progress after : Progress World Args Result}

theorem past_turn (past : Past calls progress.gate.trace)
    (treated : Treated required calls.length call progress after) :
    Past (calls ++ [call]) after.gate.trace := by
  obtain ⟨_, err, _, _, consulted, grown, _, _, outcome⟩ := treated
  rw [grown]
  constructor
  · intro position origin name args err member
    simp only [List.mem_append, length_append, length_singleton] at member ⊢
    rcases member with (old | new) | new
    · exact Nat.lt_succ_of_lt (past.1 position origin name args err old)
    · obtain ⟨_, _, _, same, _⟩ := consulted.own _ new
      cases same
      exact Nat.lt_succ_self _
    · rcases outcome with ⟨rfl, _⟩ | ⟨rfl, _⟩ <;> simp at new
  · intro position name args member
    simp only [List.mem_append, length_append, length_singleton] at member ⊢
    rcases member with (old | new) | new
    · exact Nat.lt_succ_of_lt (past.2 position name args old)
    · exact absurd new (consulted.no_handler position name args)
    · rcases outcome with ⟨rfl, _⟩ | ⟨rfl, _⟩
      · simp at new
      · simp only [mem_singleton, Event.handled.injEq] at new
        omega

theorem authorised_turn (gated : Gated required calls progress)
    (treated : Treated required calls.length call progress after) (position : Nat)
    (name : String) (args : Args) (before later : List (Event Args))
    (entry : after.gate.trace = before ++ Event.handled position name args :: later) :
    (∃ one, (calls ++ [call])[position]? = some one ∧ one.name = name ∧ one.args = args) ∧
      ∀ origin, required origin → Event.ran position origin name args none ∈ before := by
  obtain ⟨_, _, _, _, consulted, grown, _, _, outcome⟩ := treated
  rw [grown, append_assoc] at entry
  rcases split_at_entry entry with ⟨tail, old⟩ | ⟨_, rfl, new⟩
  · obtain ⟨⟨one, found, same⟩, passed⟩ := gated.authorised position name args before tail old
    have bound := (List.getElem?_eq_some_iff.mp found).1
    exact ⟨⟨one, by rw [getElem?_append_left bound]; exact found, same⟩, passed⟩
  · rcases split_at_entry new with ⟨_, inRan⟩ | ⟨_, rfl, own⟩
    · exact absurd (inRan ▸ by simp) (consulted.no_handler position name args)
    · rcases outcome with ⟨rfl, _⟩ | ⟨rfl, rfl⟩
      · simp at own
      · have mine : Event.handled position name args =
            .handled calls.length call.name call.args := by
          have member : Event.handled position name args ∈
              [Event.handled calls.length call.name call.args] := by simp [own]
          exact mem_singleton.mp member
        cases mine
        refine ⟨⟨call, by simp, rfl, rfl⟩, fun origin known => ?_⟩
        have passed := consulted.all rfl origin known
        simp [passed]

section

variable (gated : Gated required calls progress) (past : Past calls progress.gate.trace)
  (treated : Treated required calls.length call progress after)

include gated past treated

theorem refused_turn (position : Nat) (origin : Origin) (name : String) (args : Args)
    (text : String) (entry : Event.ran position origin name args (some text) ∈ after.gate.trace) :
    (∃ response, after.functionResponses[position]? = some response ∧ response.error ≠ "") ∧
      ∀ name args, Event.handled position name args ∉ after.gate.trace := by
  obtain ⟨_, _, _, response, consulted, grown, answers, _, outcome⟩ := treated
  have length : progress.functionResponses.length = calls.length := by
    simpa using congrArg List.length gated.answered
  rw [grown, List.mem_append, List.mem_append] at entry
  rcases entry with (old | new) | new
  · obtain ⟨⟨found, place, isError⟩, unhandled⟩ :=
      gated.refused position origin name args text old
    have bound := past.1 position origin name args _ old
    refine ⟨⟨found, ?_, isError⟩, fun name args member => ?_⟩
    · rw [answers, getElem?_append_left (by omega)]
      exact place
    · rw [grown, List.mem_append, List.mem_append] at member
      rcases member with (early | early) | late
      · exact unhandled name args early
      · exact consulted.no_handler position name args early
      · rcases outcome with ⟨rfl, _⟩ | ⟨rfl, _⟩
        · simp at late
        · simp only [mem_singleton, Event.handled.injEq] at late
          omega
  · obtain ⟨_, _, _, same, fails⟩ := consulted.own _ new
    cases same
    rcases outcome with ⟨rfl, isError⟩ | ⟨_, rfl⟩
    · refine ⟨⟨response, by simp [answers, ← length], isError⟩, fun name args member => ?_⟩
      rw [grown, append_nil, List.mem_append] at member
      rcases member with early | early
      · exact absurd (past.2 _ name args early) (lt_irrefl _)
      · exact consulted.no_handler _ name args early
    · exact absurd (fails rfl) (by simp)
  · rcases outcome with ⟨rfl, _⟩ | ⟨rfl, _⟩ <;> simp at new

theorem gated_turn : Gated required (calls ++ [call]) after where
  authorised := authorised_turn gated treated
  answered := by
    obtain ⟨_, _, _, _, _, _, answers, named, _⟩ := treated
    simp [answers, gated.answered, named]
  refused := refused_turn gated past treated

end

end Turn

section

variable
  (treats : ∀ position call progress, Treated required position call progress (body position call
    progress))

include treats

theorem over_calls_gated (rest calls : List (FunctionCall Args))
    (progress : Progress World Args Result) (gated : Gated required calls progress)
    (past : Past calls progress.gate.trace) :
    Gated required (calls ++ rest) (overCalls body rest calls.length progress) := by
  induction rest generalizing calls progress with
  | nil => simpa using gated
  | cons call _ ih =>
    have treated := treats calls.length call progress
    have next := ih (calls ++ [call]) (body calls.length call progress)
      (gated_turn gated past treated) (past_turn past treated)
    simpa using next

theorem response_gated (calls : List (FunctionCall Args)) (world : World) :
    Gated required calls (overCalls body calls 0 ⟨⟨world, []⟩, []⟩) :=
  over_calls_gated treats calls [] ⟨⟨world, []⟩, []⟩ ⟨by simp, rfl, by simp⟩ ⟨by simp, by simp⟩

end

/-- A use of the flow in one of its two modes. -/
inductive Session (World Args Result : Type) where
  | standard (inputs : Nat → StepInput World Args Result) (world : World)
  | live (inputs : List (LiveInput World Args Result)) (world : World)

def Session.handled (flow : LlmFlow World Args Result) :
    Session World Args Result → List (Handled World Args Result)
  | .standard inputs world => runAsync flow inputs world
  | .live inputs world => runLive flow inputs world

def AllGated (required : Origin → Prop) (handled : List (Handled World Args Result)) : Prop :=
  ∀ one ∈ handled, Gated required one.calls one.progress

theorem AllGated.concat {handled : List (Handled World Args Result)}
    {one : Handled World Args Result} (all : AllGated required handled)
    (gated : Gated required one.calls one.progress) : AllGated required (handled ++ [one]) := by
  intro other member
  rcases List.mem_append.mp member with old | new
  · exact all other old
  · exact mem_singleton.mp new ▸ gated

theorem async_concat {handled : List (Handled World Args Result)}
    (all : AllGated (Required flow) handled) (tools : ToolsDict World Args Result)
    (calls : List (FunctionCall Args)) (world : World) :
    AllGated (Required flow) (handled ++ [handleFunctionCallsAsync flow tools calls world]) :=
  all.concat (response_gated (handle_function_call_treats flow tools) calls world)

section

variable (flow)

theorem run_exchanges_gated (tools : ToolsDict World Args Result)
    (exchanges : List (Exchange World Args)) (outcome : Outcome World Args Result)
    (gated : AllGated (Required flow) outcome.handled) :
    AllGated (Required flow) (runExchanges flow tools exchanges outcome).handled := by
  induction exchanges generalizing outcome with
  | nil => exact gated
  | cons _ _ ih =>
    simp only [runExchanges]
    split_ifs
    · exact gated
    · exact ih _ gated
    · exact gated
    · exact ih _ gated
    · exact async_concat gated tools _ _
    · exact ih _ (async_concat gated tools _ _)

theorem run_steps_gated (left : Nat) (inputs : Nat → StepInput World Args Result) (world : World)
    (handled : List (Handled World Args Result)) (gated : AllGated (Required flow) handled) :
    AllGated (Required flow) (runSteps flow left inputs world handled) := by
  induction left generalizing inputs world handled with
  | zero => exact gated
  | succ _ ih =>
    have step : AllGated (Required flow)
        (runOneStepAsync flow (inputs 0) world handled).handled := by
      simp only [runOneStepAsync]
      split_ifs
      · exact gated
      · exact run_exchanges_gated flow _ _ _ gated
    simp only [runSteps]
    split_ifs
    · exact step
    · exact ih _ _ _ step

end

theorem live_responses_gated
    (treats : ∀ tools position call progress, Treated required position call progress
      (handleLiveFunctionCall flow tools position call progress))
    (inputs : List (LiveInput World Args Result)) (world : World)
    (handled : List (Handled World Args Result)) (gated : AllGated required handled) :
    AllGated required (liveResponses flow inputs world handled) := by
  induction inputs generalizing world handled with
  | nil => exact gated
  | cons input _ ih =>
    simp only [liveResponses]
    split_ifs
    · exact gated
    · exact ih _ _ gated
    · exact gated.concat (response_gated (treats input.tools) _ _)
    · exact ih _ _ (gated.concat (response_gated (treats input.tools) _ _))

theorem required_of_plugins (unset : flow.beforeToolCallbacks = []) :
    Required flow = PluginOrigin flow := by
  funext origin
  rw [← required_iff flow origin]
  simp [unset]

/-- The plugins let no call pass, whatever the world. -/
def RefusesAll (flow : LlmFlow World Args Result) : Prop :=
  ∀ world call, (pluginsBefore flow 0 call ⟨world, []⟩).2 ≠ none

/-- What callbacks do depends on the world only, not on the bookkeeping. -/
def Alike (one other : Gate World Args × Option String) : Prop :=
  one.1.world = other.1.world ∧ one.2 = other.2

theorem run_callbacks_alike (name : String) (args : Args) (position : Nat)
    (origin : Nat → Origin) (callbacks : List (BeforeToolCallback World Args)) (index : Nat)
    (world : World) (trace base : List (Event Args)) :
    Alike (runCallbacks position name args origin callbacks index ⟨world, trace⟩)
      (runCallbacks 0 name args origin callbacks index ⟨world, base⟩) := by
  induction callbacks generalizing index world trace base with
  | nil => exact ⟨rfl, rfl⟩
  | cons callback _ ih =>
    rcases result : callback world name args with ⟨_, err⟩
    cases err with
    | some => simp [result, Alike]
    | none =>
      simp only [runCallbacks, result]
      exact ih _ _ _ _

theorem run_plugins_alike (name : String) (args : Args) (position : Nat)
    (plugins : List (String × Plugin World Args Result)) (world : World)
    (trace base : List (Event Args)) :
    Alike (runPlugins position name args plugins ⟨world, trace⟩)
      (runPlugins 0 name args plugins ⟨world, base⟩) := by
  induction plugins generalizing world trace base with
  | nil => exact ⟨rfl, rfl⟩
  | cons head _ ih =>
    obtain ⟨pluginName, plugin⟩ := head
    simp only [runPlugins]
    split_ifs
    · exact ih _ _ _
    · have alike := run_callbacks_alike name args position (.plugin pluginName)
        plugin.beforeTool 0 world trace base
      rcases one : runCallbacks position name args (.plugin pluginName) plugin.beforeTool 0
        ⟨world, trace⟩ with ⟨⟨_⟩, err⟩
      rcases other : runCallbacks 0 name args (.plugin pluginName) plugin.beforeTool 0
        ⟨world, base⟩ with ⟨⟨_⟩, _⟩
      rw [one, other] at alike
      obtain ⟨rfl, rfl⟩ := alike
      cases err with
      | some => exact ⟨rfl, rfl⟩
      | none => exact ih _ _ _

theorem refuses_everywhere (refuses : RefusesAll flow) (position : Nat) (call : FunctionCall Args)
    (gate : Gate World Args) :
    (pluginsBefore flow position call gate).2 ≠ none := by
  have fails := refuses gate.world call
  cases managed : flow.pluginManager with
  | none => simp [pluginsBefore, managed] at fails
  | some manager =>
    have alike := run_plugins_alike call.name call.args position
      manager.inOrder gate.world gate.trace []
    simp only [pluginsBefore, managed, runBeforeToolCallbacks] at fails ⊢
    rw [alike.2]
    exact fails

/-- A live session in which the model makes one call, of a tool that only answers. -/
def oneCall (call : FunctionCall Args) (world : World) : Session World Args Result :=
  .live [⟨id, fun _ => some ⟨some fun world _ => (world, none, none)⟩,
    ⟨some [⟨"", some call⟩], false, "", false⟩, true⟩] world

theorem live_call_ungated (live : flow.liveProvider = true) (direct : flow.beforeToolCallbacks ≠ [])
    (passes : (pluginsBefore flow 0 call ⟨world, []⟩).2 = none) :
    ¬ AllGated (Required flow) ((oneCall call world).handled flow) := by
  obtain ⟨ran, grown, consulted⟩ := plugins_before_consult flow 0 call ⟨world, []⟩
  rcases result : pluginsBefore flow 0 call ⟨world, []⟩ with ⟨_⟩
  rw [result] at grown consulted passes
  cases passes
  intro all
  have gated := all (handleLiveFunctionCalls flow _ [call] world) (by
    simp only [oneCall, Session.handled, runLive, live, if_true, liveResponses,
      LlmResponse.getFunctionCalls]
    exact mem_singleton_self _)
  have trace : (handleLiveFunctionCalls flow
      (fun _ => some ⟨some fun world _ => (world, none, none)⟩) [call] world).progress.gate.trace =
      ran ++ [Event.handled 0 call.name call.args] := by
    simpa [handleLiveFunctionCalls, handleLiveFunctionCall, result] using grown
  have asked := (gated.authorised 0 call.name call.args ran [] trace).2 (.direct 0)
    (.direct (length_pos_of_ne_nil direct))
  obtain ⟨_, _, ⟨_, _, _, _, _, _, _, _, same⟩, entry, _⟩ := consulted.own _ asked
  cases entry
  cases same

/-- In every session of either mode the calls of every response are gated, exactly
if the flow has no live provider or no direct callbacks, or its plugins let nothing
pass. -/
theorem tools_gated_iff (flow : LlmFlow World Args Result) :
    (∀ session : Session World Args Result,
        AllGated (Required flow) (session.handled flow)) ↔
      flow.liveProvider = false ∨ flow.beforeToolCallbacks = [] ∨ RefusesAll flow := by
  have start : AllGated (Required flow) ([] : List (Handled World Args Result)) := by
    simp [AllGated]
  constructor
  · intro gated
    by_contra neither
    simp only [not_or, RefusesAll, not_forall, not_not] at neither
    obtain ⟨live, direct, world, call, passes⟩ := neither
    exact live_call_ungated (Bool.eq_true_of_not_eq_false live) direct passes
      (gated (oneCall call world))
  · intro condition session
    cases session with
    | standard inputs world => exact run_steps_gated flow _ inputs world [] start
    | live inputs world =>
      simp only [Session.handled, runLive]
      split_ifs with live
      swap
      · exact start
      refine live_responses_gated (fun tools position call progress => ?_) inputs world [] start
      rcases condition with absent | unset | refuses
      · rw [absent] at live
        cases live
      · rw [required_of_plugins unset]
        exact handle_live_function_call_treats flow tools position call progress
      · obtain ⟨_, grown, consulted⟩ := plugins_before_consult flow position call progress.gate
        rcases result : pluginsBefore flow position call progress.gate with ⟨_, err⟩
        have fails := refuses_everywhere refuses position call progress.gate
        rw [result] at grown consulted fails
        cases err with
        | none => exact absurd rfl fails
        | some text =>
          simp only [handleLiveFunctionCall, result]
          have refused := consulted.refuse
            (fun origin known => (required_iff flow origin).mp (.inl known))
            (rfl : (some text).isSome)
          exact treated_refused refused grown (plugins_error_ne_empty result)

/-- No plugins; the one direct callback refuses every tool. The world counts the
runs of the tool. -/
def denyingFlow : LlmFlow Nat Unit Unit where
  pluginManager := none
  beforeToolCallbacks := [fun runs _ _ => (runs, some "not authorised")]
  afterToolCallbacks := []
  maxSteps := 10
  liveProvider := true

def countedTool : ToolsDict Nat Unit Unit :=
  fun _ => some ⟨some fun runs _ => (runs + 1, some (), none)⟩

/-- The refused tool runs in live mode. -/
theorem denied_tool_runs_live :
    ((Session.live [⟨id, countedTool, ⟨some [⟨"", some ⟨"delete_all", ()⟩⟩], false, "", false⟩,
        false⟩] 0).handled denyingFlow).map
          (fun handled => (handled.progress.gate.world, handled.progress.gate.trace)) =
      [(1, [Event.handled 0 "delete_all" ()])] ∧
    ¬ ∀ session : Session Nat Unit Unit,
      AllGated (Required denyingFlow) (session.handled denyingFlow) :=
  ⟨rfl, fun gated => live_call_ungated rfl (by simp [denyingFlow]) rfl
    (gated (oneCall ⟨"delete_all", ()⟩ 0))⟩

end Dagens.Runtime.ToolGate
