import Dagens.Graph.EdgeConditions
import Dagens.Hitl.HumanNode

/-!
# What the successors of a human node read

A graph that is resumed through an executable graph does not execute the human
node again: it goes on with the node's edges. So nothing takes the answer out of
the pending key, and the successors find the key in the state and the values of
the checkpoint.
-/

namespace Dagens.Hitl.AnswerDelivery

open Graph.Traversal Callback CheckpointStores HumanNode List

attribute [local simp] Except.toOption

/-- The state in which a walk turns to the first edge of a node. -/
def handedOver (nodeID : String) (log : List (Event MemoryState)) : Option MemoryState :=
  log.reverse.findSome? fun
    | .considered source _ state => if source = nodeID then some state else none
    | .ran _ _ => none

section Walks

variable {workflow : Workflow MemoryState} {walker : Walker MemoryState}
  {call : String → Walk MemoryState → Option WalkError × Walk MemoryState}

theorem handed_over_first {source : String} {edge : Edge MemoryState} {state : MemoryState}
    {log : List (Event MemoryState)} (first : [.considered source edge state] <:+ log) :
    handedOver source log = some state := by
  obtain ⟨newer, rfl⟩ := first
  simp [handedOver]

theorem follow_grows (grows : ∀ nodeID walk, walk.log <:+ (call nodeID walk).2.log)
    (source : String) (edges : List (Edge MemoryState)) (walk : Walk MemoryState) :
    walk.log <:+ (followEdges walker call source edges walk).2.log := by
  induction edges generalizing walk with
  | nil => exact suffix_refl _
  | cons edge rest ih =>
    have considered : walk.log <:+ (walk.consider source edge).log := suffix_cons _ _
    simp only [followEdges]
    cases walker.interrupted walk.state with
    | some => exact suffix_refl _
    | none =>
      have called := grows edge.toID (walk.consider source edge)
      dsimp only
      split_ifs
      · split
        · rename_i result
          rw [result] at called
          exact considered.trans called
        · rename_i result
          rw [result] at called
          exact (considered.trans called).trans (ih _)
      · exact considered.trans (ih _)

theorem resume_first (source : String) (edge : Edge MemoryState) (rest : List (Edge MemoryState))
    (state : MemoryState) (visited : List String) :
    handedOver source (followEdges (resumeWalker workflow)
      (traverseNode workflow (depth workflow)) source (edge :: rest) (begin state visited)).2.log =
        some state := by
  have grows : ∀ nodeID walk,
      walk.log <:+ (traverseNode workflow (depth workflow) nodeID walk).2.log :=
    fun nodeID walk => traverse_induction Graph.EdgeConditions.log_cases _ nodeID walk
  apply handed_over_first
  have called := grows edge.toID ((begin state visited).consider source edge)
  simp only [followEdges, resumeWalker, graphWalker, if_true]
  split
  · rename_i result
    rw [result] at called
    exact called
  · rename_i result
    rw [result] at called
    exact called.trans (follow_grows grows source rest _)

/-- The resume turns to the edges of the paused node in the state it is given, but for the
request id. -/
theorem resumed_hands_over {state handed : MemoryState} (paused : PausedResult)
    (reached : handedOver paused.nodeID
      (resumeFromPaused workflow state (some paused)).2.log = some handed)
    {key : String} (apart : key ≠ stateKeyHumanRequestID) : handed.get key = state.get key := by
  have nothing : handedOver paused.nodeID (begin state []).log = none := rfl
  unfold resumeFromPaused at reached
  dsimp only at reached
  split_ifs at reached
  · cases nothing.symm.trans reached
  all_goals
    split at reached
    · cases nothing.symm.trans reached
    split at reached
    · cases nothing.symm.trans reached
  · cases nothing.symm.trans reached
  all_goals
    cases edges : workflow.outgoing paused.nodeID with
    | nil =>
      rw [edges] at reached
      cases nothing.symm.trans reached
    | cons edge rest =>
      rw [edges] at reached
      cases (resume_first ..).symm.trans reached
      first
      | rfl
      | exact MemoryState.get_set_other _ _ apart

end Walks

section Resuming

variable [HitlRuntime]

inductive ResumeEntry where
  | processJob
  | resumeGraphFromCheckpoint
  deriving DecidableEq, Repr

/-- The state that an entry gives to `resumeFromCheckpoint`. -/
def injected (entry : ResumeEntry) (registry : GraphRegistry) (cp : ExecutionCheckpoint)
    (response : Option HumanResponse) : Option MemoryState :=
  match entry with
  | .processJob => (prepareJob registry cp response).toOption
  | .resumeGraphFromCheckpoint => (prepareResume registry cp response).toOption

/-- The walk after the answer has come back through `entry`. -/
def resumedWalk (entry : ResumeEntry) (registry : GraphRegistry)
    (factory : Option (String → String → Option NodeExecutor)) (cp : ExecutionCheckpoint)
    (response : Option HumanResponse) : Option (Walk MemoryState) :=
  (injected entry registry cp response).map fun state =>
    (resumeFromCheckpoint registry factory cp state).2

/-- The state that the checkpoint holds; an entry may take missing data for an empty one. -/
def restored (entry : ResumeEntry) (cp : ExecutionCheckpoint) : Option MemoryState :=
  match entry, cp.stateData with
  | .resumeGraphFromCheckpoint, none => some ExecutionState.newMemoryState
  | _, data => (unmarshalState (data.getD "")).toOption

/-- The values that the two ways have to agree on. -/
def answerKeys : List String := ["human_response", "human_response_text"]

/-- The successors read the same answer as after a wait, and the pending key is gone. -/
structure SameAnswer (nodeID : String) (waited handed : MemoryState) : Prop where
  values : ∀ key ∈ answerKeys, waited.get key = handed.get key
  cleared : handed.get (pendingKey nodeID) = none

variable {registry : GraphRegistry} {cp : ExecutionCheckpoint}
  {response : Option HumanResponse} {state : MemoryState}

theorem prepare_job_eq (prepared : prepareJob registry cp response = .ok state) :
    ∃ stored data, unmarshalState (cp.stateData.getD "") = .ok stored ∧
      state = stored.set (pendingKey cp.nodeID) (.bytes data) := by
  unfold prepareJob at prepared
  split at prepared
  · cases prepared
  split_ifs at prepared
  split at prepared
  · cases prepared
  rename_i decoded
  split at prepared
  · cases prepared
  · cases prepared
    exact ⟨_, _, decoded, rfl⟩

theorem prepare_resume_eq (prepared : prepareResume registry cp response = .ok state) :
    ∃ stored data, restored .resumeGraphFromCheckpoint cp = some stored ∧
      state = stored.set (pendingKey cp.nodeID) (.bytes data) := by
  unfold prepareResume at prepared
  split at prepared
  · cases prepared
  split_ifs at prepared
  dsimp only at prepared
  split at prepared
  · cases prepared
  rename_i decoded
  split at prepared
  · cases prepared
  · cases prepared
    refine ⟨_, _, ?_, rfl⟩
    cases stored : cp.stateData with
    | none =>
      rw [stored] at decoded
      cases decoded
      simp [restored, stored]
    | some data =>
      rw [stored] at decoded
      simp [restored, stored, decoded]

theorem injected_eq {entry : ResumeEntry}
    (prepared : injected entry registry cp response = some state) :
    ∃ stored data, restored entry cp = some stored ∧
      state = stored.set (pendingKey cp.nodeID) (.bytes data) := by
  cases entry with
  | processJob =>
    cases made : prepareJob registry cp response with
    | error => simp [injected, made] at prepared
    | ok =>
      obtain ⟨stored, data, decoded, rfl⟩ := prepare_job_eq made
      simp only [injected, made, Except.toOption, Option.some.injEq] at prepared
      exact ⟨stored, data, by simp [restored, decoded], prepared.symm⟩
  | resumeGraphFromCheckpoint =>
    cases made : prepareResume registry cp response with
    | error => simp [injected, made] at prepared
    | ok =>
      obtain ⟨stored, data, decoded, rfl⟩ := prepare_resume_eq made
      simp only [injected, made, Except.toOption, Option.some.injEq] at prepared
      exact ⟨stored, data, decoded, prepared.symm⟩

omit [HitlRuntime] in
theorem pending_apart (nodeID : String) {key : String}
    (other : key ∈ stateKeyHumanRequestID :: answerKeys) : pendingKey nodeID ≠ key := by
  rintro rfl
  have lists : ∃ text ∈ stateKeyHumanRequestID :: answerKeys,
      (pendingKey nodeID).toList = text.toList := ⟨_, other, rfl⟩
  simp [pendingKey, stateKeyHumanRequestID, answerKeys, String.toList_append] at lists

/-- Whoever waits for it, no answer that comes back through a checkpoint reaches the
successors of the node: they read what the checkpoint holds, and the pending key. -/
theorem answer_never_delivered (registry : GraphRegistry) (node : HumanNode)
    (factory : Option (String → String → Option NodeExecutor)) (cp : ExecutionCheckpoint)
    (entry : ResumeEntry) (resp : HumanResponse) (walk : Walk MemoryState) (handed : MemoryState)
    (paused : cp.nodeID = node.id)
    (resumed : resumedWalk entry registry factory cp (some resp) = some walk)
    (reached : handedOver node.id walk.log = some handed) :
    (∃ stored, restored entry cp = some stored ∧
      ∀ key ∈ answerKeys, handed.get key = stored.get key) ∧
    ∀ waited, ¬ SameAnswer node.id waited handed := by
  obtain ⟨state, prepared, rfl⟩ := Option.map_eq_some_iff.mp resumed
  obtain ⟨stored, data, decoded, rfl⟩ := injected_eq prepared
  have kept : ∀ key, key ≠ stateKeyHumanRequestID →
      handed.get key = (stored.set (pendingKey cp.nodeID) (.bytes data)).get key := by
    intro key apart
    rw [← paused] at reached
    unfold resumeFromCheckpoint at reached
    dsimp only at reached
    repeat' split at reached
    all_goals
      first
      | exact resumed_hands_over ⟨cp.requestID, cp.nodeID, cp.graphVersion⟩ reached apart
      | cases reached
  refine ⟨⟨stored, decoded, fun key isAnswer => ?_⟩, fun waited same => ?_⟩
  · rw [kept key (by rintro rfl; simp [answerKeys, stateKeyHumanRequestID] at isAnswer)]
    exact MemoryState.get_set_other _ _ (pending_apart _ (mem_cons_of_mem _ isAnswer)).symm
  · have pending := kept _ (pending_apart cp.nodeID mem_cons_self)
    rw [MemoryState.get_set_same, paused, same.cleared] at pending
    cases pending

end Resuming

/-- Every state is restored as an empty one; an answer is coded as its option. -/
@[reducible] def sampleRuntime : HitlRuntime where
  marshalState := fun _ => .ok "state"
  decodeSnapshot := fun _ => .ok ⟨∅, none⟩
  marshalResponse := fun response => .ok ((response.map (·.selectedOption)).getD "")
  unmarshalResponse := fun data => .ok ⟨data, "", 0⟩
  durationString := fun _ => "10m0s"

/-- The node waits up to a minute, or pauses. -/
def approval (waits : Bool) : HumanNode :=
  newHumanNode ⟨"approve", if waits then 60000000000 else 600000000000, 0, 0⟩

def approved : HumanResponse := ⟨"yes", "", 3⟩

/-- The surroundings answer a wait. -/
def approvalGraph (waits : Bool) : Workflow MemoryState :=
  directWorkflow (graphOf ["approve", "ship"] [("approve", "ship")]) fun nodeID state =>
    if nodeID = "approve" then
      @HumanNode.execute sampleRuntime (approval waits)
        ⟨"hitl-1", 1, none, .response approved⟩ state
    else (none, state)

def approvalRegistry : GraphRegistry :=
  registerExecutableGraph ⟨fun _ => none, none⟩ "sample" "v1" (approvalGraph false)

def approvalCheckpoint : ExecutionCheckpoint :=
  ⟨"sample", "v1", "approve", some "state", "hitl-1", "", 1, 9, "", 0, "", 0⟩

theorem approval_not_delivered : ∃ walk handed,
    @resumedWalk sampleRuntime .processJob approvalRegistry none approvalCheckpoint
      (some approved) = some walk ∧ handedOver "approve" walk.log = some handed ∧
    ∀ waited, ¬ SameAnswer "approve" waited handed :=
  ⟨_, _, rfl, rfl, (@answer_never_delivered sampleRuntime approvalRegistry (approval false) none
    approvalCheckpoint .processJob approved _ _ rfl rfl rfl).2⟩

/-- After a wait the successors read the answer. After a pause and a resume they read
none, and find the pending key, through either entry. -/
theorem approval_lost :
    (∃ waited, handedOver "approve"
        (executeWithResult (approvalGraph true) ⟨∅, none⟩).2.log = some waited ∧
      waited.get "human_response" = some (.text "yes")) ∧
    (executeWithResult (approvalGraph false) ⟨∅, none⟩).1.toOption.map (·.isPaused) = some true ∧
    ∀ entry, ∃ walk handed,
      @resumedWalk sampleRuntime entry approvalRegistry none approvalCheckpoint
        (some approved) = some walk ∧ handedOver "approve" walk.log = some handed ∧
      handed.get "human_response" = none ∧
      handed.get (pendingKey "approve") = some (.bytes "yes") := by
  refine ⟨⟨_, rfl, by decide +kernel⟩, by decide +kernel, fun entry => ?_⟩
  cases entry with
  | processJob | resumeGraphFromCheckpoint =>
    exact ⟨_, _, rfl, rfl, by decide +kernel, by decide +kernel⟩

end Dagens.Hitl.AnswerDelivery
