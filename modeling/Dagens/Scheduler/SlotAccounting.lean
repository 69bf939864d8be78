import Dagens.Scheduler.NodeCapacity
import Dagens.Scheduler.Machine

/-!
# Reservations of a running stage

The selection loop of `executeStage` and the task goroutines it starts, over
one table of nodes. A selection looks at the free slots of a node; the slot is
reserved later, by the goroutine, after its dispatch claim. The counters are
always exact. They stay within the bounds of the nodes when every selection
counts the goroutines that were sent to a node and have not reserved yet.
-/

namespace Dagens.Scheduler.SlotAccounting

open Lib.GuardedRun Lifecycle GoSupport Transitions Goroutine StageRun NodeCapacity Operations
  Machine List Option Bool

variable {Input : Type} [GoRuntime Input]

/-- A goroutine, and whether it is between `reserveNodeSlot` and
`releaseNodeSlot`, that is in `executeTask`. -/
structure Slotted where
  routine : Goroutine
  executing : Bool
  deriving DecidableEq, Repr

def startSlotted (nodeID : String) : Slotted := ⟨startGoroutine nodeID, false⟩

/-- A call of `executeStage`: the stage object, its number of tasks, and the
healthy nodes it was given. -/
structure StageCall where
  ref : Nat
  stage : Nat
  total : Nat
  nodes : List String

structure StageState (Input : Type) where
  sched : Scheduler Input
  fleet : Fleet
  now : Time
  cancelled : Bool
  deferring : Bool
  run : StageRun Slotted

/-- Besides the stage's own steps: time, heartbeats, the sticky map and the rest
of the scheduler may change at any moment. -/
inductive SlotAction (Input : Type) where
  | tick (elapsed : Time)
  | heartbeat (nodeID : String) (inFlight maxConcurrency : Int) (reportedAt : Time)
  | affinity (entries : String → Option AffinityEntry)
  | interfere (sched : Scheduler Input)
  | cancel
  | select
  | poll (nodes : List String)
  | giveUp
  | reserve (index : Nat)
  | work (index : Nat) (answers : Answers)
  | release (index : Nat)
  | report (index : Nat) (viaDone : Bool)

def partitionKeyAt (call : StageCall) (state : StageState Input) (index : Nat) : String :=
  ((objectTask state.sched call.ref ⟨call.stage, index⟩).map (·.partitionKey)).getD ""

def choose (call : StageCall) (state : StageState Input) (index : Nat) (nodes : List String) :
    Fleet × Option String :=
  let selected := selectNodeForTask state.fleet (partitionKeyAt call state index) nodes state.now
  (selected.1, selected.2.2)

def launched (call : StageCall) (state : StageState Input) (fleet : Fleet)
    (selection : Except GoError String) : Option (StageState Input) :=
  (launch call.total false selection startSlotted state.run).map fun run =>
    { state with fleet := fleet, run := run, deferring := false }

def selectStep (call : StageCall) (state : StageState Input) : Option (StageState Input) :=
  if state.deferring then none
  else if state.cancelled then
    launched call state state.fleet (.error errContextCanceled)
  else
    match choose call state state.run.workers.length call.nodes with
    | (fleet, some nodeID) => launched call state fleet (.ok nodeID)
    | (fleet, none) =>
      if state.fleet.config.enableStageCapacityDeferral then
        some { state with fleet := fleet, deferring := true }
      else launched call state fleet (.error errNoWorkerCapacity)

/-- A turn of the deferral's ticker, on the nodes that are healthy then. -/
def pollStep (call : StageCall) (state : StageState Input) (nodes : List String) :
    Option (StageState Input) :=
  if !state.deferring then none
  else if nodes.isEmpty then some state
  else
    match choose call state state.run.workers.length nodes with
    | (fleet, some nodeID) => launched call state fleet (.ok nodeID)
    | (fleet, none) => some { state with fleet := fleet }

def giveUpStep (call : StageCall) (state : StageState Input) : Option (StageState Input) :=
  if !state.deferring then none
  else launched call state state.fleet
    (.error (if state.cancelled then errContextCanceled else errNoWorkerCapacity))

def routineAt (state : StageState Input) (index : Nat) : Option Slotted :=
  match state.run.workers[index]? with
  | some (.running slotted) => some slotted
  | _ => none

def withRoutine (state : StageState Input) (index : Nat) (slotted : Slotted) : StageRun Slotted :=
  { state.run with workers := state.run.workers.set index (.running slotted) }

/-- `executeTask` has returned, or the claim before it has failed. -/
def returnedFromTask : TaskPC → Bool
  | .attempted _ _ => true
  | .finished _ => true
  | _ => false

def reserveStep (state : StageState Input) (index : Nat) : Option (StageState Input) :=
  match routineAt state index with
  | some slotted =>
    if slotted.routine.pc = .starting ∧ slotted.executing = false then
      some { state with
        fleet := reserveNodeSlot state.fleet slotted.routine.nodeID state.now
        run := withRoutine state index { slotted with executing := true } }
    else none
  | none => none

def releaseStep (state : StageState Input) (index : Nat) : Option (StageState Input) :=
  match routineAt state index with
  | some slotted =>
    if returnedFromTask slotted.routine.pc ∧ slotted.executing = true then
      some { state with
        fleet := releaseNodeSlot state.fleet slotted.routine.nodeID state.now
        run := withRoutine state index { slotted with executing := false } }
    else none
  | none => none

/-- The reservation is made before `executeTask` and given back after it. -/
def slotDue (slotted : Slotted) : Bool :=
  (decide (slotted.routine.pc = .starting) && !slotted.executing) ||
    (returnedFromTask slotted.routine.pc && slotted.executing)

/-- A failed attempt is about to select a node again. -/
def reselects (sched : Scheduler Input) (slotted : Slotted) : Bool :=
  match slotted.routine.pc with
  | .attempted _ retryable =>
    retryable && decide (slotted.routine.attempt < sched.config.maxDispatchAttempts)
  | _ => false

def cooled (fleet : Fleet) (slotted : Slotted) (answers : Answers) (now : Time) : Fleet :=
  match slotted.routine.pc, answers.executor with
  | .calling, some err =>
    if !err.isPolicyViolation && isDispatchCapacityConflict err then
      markDispatchCooldown fleet slotted.routine.nodeID now
    else fleet
  | _, _ => fleet

def reselection (call : StageCall) (state : StageState Input) (index : Nat) (slotted : Slotted) :
    Fleet × Option String :=
  if reselects state.sched slotted then choose call state index call.nodes
  else (state.fleet, none)

def workSlot (call : StageCall) (state : StageState Input) (index : Nat) (answers : Answers) :
    Option (StageState Input) :=
  match routineAt state index, objectTask state.sched call.ref ⟨call.stage, index⟩ with
  | some slotted, some task =>
    if slotDue slotted then none
    else
      match slotted.routine.pc with
      | .finished err => (finish index err state.run).map fun run => { state with run := run }
      | _ =>
        let (fleet, node) := reselection call state index slotted
        (goroutineStep state.sched slotted.routine task
            { answers with selectNode := node } state.now).map fun progress =>
          { state with
            sched := updateTask progress.sched call.ref ⟨call.stage, index⟩ progress.task
            fleet := cooled fleet slotted answers state.now
            run := withRoutine state index { slotted with routine := progress.routine } }
  | _, _ => none

/-- A heartbeat that would change the bound of its node is not taken. -/
def heartbeatStep (state : StageState Input) (nodeID : String) (inFlight maxConcurrency : Int)
    (reportedAt : Time) : Option (StageState Input) :=
  let fleet := updateNodeCapacityAt state.fleet nodeID inFlight maxConcurrency reportedAt state.now
  if boundOn fleet nodeID = boundOn state.fleet nodeID then some { state with fleet := fleet }
  else none

def slotStep (call : StageCall) (state : StageState Input) :
    SlotAction Input → Option (StageState Input)
  | .tick elapsed => some { state with now := state.now + elapsed }
  | .heartbeat nodeID inFlight maxConcurrency reportedAt =>
    heartbeatStep state nodeID inFlight maxConcurrency reportedAt
  | .affinity entries => some { state with fleet := { state.fleet with affinityMap := entries } }
  | .interfere sched => some { state with sched := sched }
  | .cancel => some { state with cancelled := true }
  | .select => selectStep call state
  | .poll nodes => pollStep call state nodes
  | .giveUp => giveUpStep call state
  | .reserve index => reserveStep state index
  | .work index answers => workSlot call state index answers
  | .release index => releaseStep state index
  | .report index viaDone =>
    (report index state.cancelled viaDone state.run).map fun run => { state with run := run }

/-- The goroutine has been sent to its node and has not reserved yet. -/
def beforeReservation : TaskPC → Bool
  | .claiming => true
  | .claimPending _ => true
  | .claimed => true
  | .recordingJob _ _ => true
  | .starting => true
  | _ => false

def executesOn (nodeID : String) : Worker Slotted → Bool
  | .running slotted => slotted.executing && decide (slotted.routine.nodeID = nodeID)
  | _ => false

def assignedTo (nodeID : String) : Worker Slotted → Bool
  | .running slotted =>
    (slotted.executing || beforeReservation slotted.routine.pc) &&
      decide (slotted.routine.nodeID = nodeID)
  | _ => false

/-- The `executeTask` calls in progress on a node. -/
def executions (state : StageState Input) (nodeID : String) : Nat :=
  state.run.workers.countP (executesOn nodeID)

/-- The goroutines that hold or will take a slot of the node. -/
def assigned (state : StageState Input) (nodeID : String) : Nat :=
  state.run.workers.countP (assignedTo nodeID)

/-- The nodes a step selects from, when it selects one. -/
def selectsFrom (call : StageCall) (state : StageState Input) :
    SlotAction Input → Option (List String)
  | .select => some call.nodes
  | .poll nodes => some nodes
  | .work index _ =>
    if (routineAt state index).any (reselects state.sched) then some call.nodes else none
  | _ => none

/-- Every node that looks free to a selection has room for one goroutine more
than were already sent to it. -/
def roomAtSelection (call : StageCall) (state : StageState Input) (action : SlotAction Input) :
    Bool :=
  ((selectsFrom call state action).getD []).all fun nodeID =>
    decide (freeOn state.fleet nodeID ≤ 0) ||
      decide (assigned state nodeID < boundOn state.fleet nodeID)

def one (found : Bool) : Nat := if found then 1 else 0

variable {index : Nat} {state after : StageState Input} {slotted : Slotted} {call : StageCall}
  {action : SlotAction Input} {sched : Scheduler Input} {task : Task Input} {answers : Answers}
  {now : Time} {progress : Progress Input}

omit [GoRuntime Input] in
theorem count_set {Value : Type} (holds : Value → Bool) {values : List Value} {old : Value}
    (found : values[index]? = some old) (value : Value) :
    (values.set index value).countP holds + one (holds old) =
      values.countP holds + one (holds value) := by
  obtain ⟨inside, same⟩ := List.getElem?_eq_some_iff.mp found
  have counted : one (holds values[index]) ≤ values.countP holds := by
    unfold one
    split_ifs with met
    · exact countP_pos_iff.mpr ⟨_, getElem_mem inside, met⟩
    · exact Nat.zero_le _
  rw [countP_set inside, ← same]
  unfold one at counted ⊢
  omega

structure SameCounters (before after : Fleet) : Prop where
  reserved : ∀ nodeID, reservedOn after nodeID = reservedOn before nodeID
  bound : ∀ nodeID, boundOn after nodeID = boundOn before nodeID

/-- The effect of a step on counters and goroutines, node by node. -/
inductive SlotMove (call : StageCall) (state : StageState Input) (action : SlotAction Input)
    (after : StageState Input) : Prop where
  | steady (counters : SameCounters state.fleet after.fleet)
      (executing : ∀ nodeID, executions after nodeID = executions state nodeID)
      (sent : ∀ nodeID, assigned after nodeID ≤ assigned state nodeID)
  | sent (nodes : List String) (chosen : String)
      (offered : selectsFrom call state action = some nodes) (listed : chosen ∈ nodes)
      (free : 0 < freeOn state.fleet chosen) (counters : SameCounters state.fleet after.fleet)
      (executing : ∀ nodeID, executions after nodeID = executions state nodeID)
      (sent : ∀ nodeID, assigned after nodeID ≤
        assigned state nodeID + one (decide (chosen = nodeID)))
  | reserved (own : String)
      (counter : ∀ nodeID, reservedOn after.fleet nodeID =
        reservedOn state.fleet nodeID + one (decide (own = nodeID)))
      (bound : ∀ nodeID, boundOn after.fleet nodeID = boundOn state.fleet nodeID)
      (executing : ∀ nodeID, executions after nodeID =
        executions state nodeID + one (decide (own = nodeID)))
      (sent : ∀ nodeID, assigned after nodeID ≤ assigned state nodeID)
  | released (own : String)
      (counter : ∀ nodeID, reservedOn after.fleet nodeID =
        reservedOn state.fleet nodeID - one (decide (own = nodeID)))
      (bound : ∀ nodeID, boundOn after.fleet nodeID = boundOn state.fleet nodeID)
      (executing : ∀ nodeID, executions after nodeID + one (decide (own = nodeID)) =
        executions state nodeID)
      (sent : ∀ nodeID, assigned after nodeID ≤ assigned state nodeID)

theorem same_counters_of_slots {before after : Fleet} (same : SameSlots before after) :
    SameCounters before after := ⟨same.reserved, same.bound⟩

theorem same_counters_refl (fleet : Fleet) : SameCounters fleet fleet :=
  ⟨fun _ => rfl, fun _ => rfl⟩

attribute [local simp] executesOn executions assignedTo beforeReservation startSlotted withRoutine
  failedAttempt

section

omit [GoRuntime Input]

theorem routine_at_some (found : routineAt state index = some slotted) :
    state.run.workers[index]? = some (.running slotted) := by
  unfold routineAt at found
  split at found
  · rename_i worker
    cases found
    exact worker
  · cases found

theorem replaced_steady {old worker : Worker Slotted} (found : state.run.workers[index]? = some old)
    (workers : after.run.workers = state.run.workers.set index worker)
    (counters : SameCounters state.fleet after.fleet)
    (executing : ∀ nodeID, executesOn nodeID worker = executesOn nodeID old)
    (sent : ∀ nodeID, assignedTo nodeID worker = true → assignedTo nodeID old = true) :
    SlotMove call state action after := by
  refine .steady counters (fun nodeID => ?_) (fun nodeID => ?_)
  · have counted := count_set (executesOn nodeID) found worker
    rw [executing nodeID] at counted
    simp only [executions, workers]
    omega
  · have counted := count_set (assignedTo nodeID) found worker
    have fewer : one (assignedTo nodeID worker) ≤ one (assignedTo nodeID old) := by
      unfold one
      split_ifs with new was
      · exact le_rfl
      · exact absurd (sent nodeID new) was
      · exact Nat.zero_le _
      · exact le_rfl
    simp only [assigned, workers]
    omega

variable {nodes : List String}

theorem launched_move {fleet : Fleet} {node : Option String} {selection : Except GoError String}
    (offered : selectsFrom call state action = some nodes)
    (chosen : Chosen state.fleet nodes fleet node)
    (selected : ∀ nodeID, selection = .ok nodeID → node = some nodeID)
    (taken : launched call state fleet selection = some after) :
    SlotMove call state action after := by
  obtain ⟨_, launches, rfl⟩ := map_eq_some_iff.mp taken
  simp only [launch, false_eq_true, if_false] at launches
  split_ifs at launches
  cases selection with
  | error =>
    cases launches
    exact .steady (same_counters_of_slots chosen.slots) (fun _ => rfl) (fun _ => le_rfl)
  | ok nodeID =>
    cases launches
    obtain ⟨listed, free⟩ := chosen.free nodeID (selected nodeID rfl)
    refine .sent nodes nodeID offered listed free (same_counters_of_slots chosen.slots)
      (fun other => ?_) (fun other => ?_)
    · simp [countP_append]
    · simp [assigned, countP_append, startGoroutine, countP_singleton, one]

theorem choose_chosen (call : StageCall) (state : StageState Input) (index : Nat)
    (nodes : List String) :
    Chosen state.fleet nodes (choose call state index nodes).1 (choose call state index nodes).2 :=
  select_for_task_chosen _ _ _ _

theorem unchosen (fleet : Fleet) (nodes : List String) : Chosen fleet nodes fleet none :=
  ⟨same_slots_of_table rfl rfl, by simp⟩

theorem select_step_move (taken : selectStep call state = some after) :
    SlotMove call state .select after := by
  have chosen := choose_chosen call state state.run.workers.length call.nodes
  unfold selectStep at taken
  split at taken
  · cases taken
  · split at taken
    · exact launched_move rfl (unchosen state.fleet call.nodes) (by simp) taken
    · split at taken
      · rename_i fleet nodeID result
        rw [result] at chosen
        exact launched_move rfl chosen (by rintro _ ⟨⟩; rfl) taken
      · rename_i fleet result
        rw [result] at chosen
        split at taken
        · cases taken
          exact .steady (same_counters_of_slots chosen.slots) (fun _ => rfl) (fun _ => le_rfl)
        · exact launched_move rfl chosen (by simp) taken

theorem poll_step_move (taken : pollStep call state nodes = some after) :
    SlotMove call state (.poll nodes) after := by
  have chosen := choose_chosen call state state.run.workers.length nodes
  unfold pollStep at taken
  split_ifs at taken
  · cases taken
    exact .steady (same_counters_refl _) (fun _ => rfl) (fun _ => le_rfl)
  · split at taken
    · rename_i fleet nodeID result
      rw [result] at chosen
      exact launched_move rfl chosen (by rintro _ ⟨⟩; rfl) taken
    · rename_i fleet result
      rw [result] at chosen
      cases taken
      exact .steady (same_counters_of_slots chosen.slots) (fun _ => rfl) (fun _ => le_rfl)

theorem reserve_step_move (taken : reserveStep state index = some after) :
    SlotMove call state (.reserve index) after := by
  unfold reserveStep at taken
  split at taken
  · rename_i slotted found
    split_ifs at taken with ready
    cases taken
    obtain ⟨pc, idle⟩ := ready
    have worker := routine_at_some found
    refine .reserved slotted.routine.nodeID (fun nodeID => ?_) (fun nodeID => ?_)
      (fun nodeID => ?_) (fun nodeID => ?_)
    · rw [(reserve_spec ..).1]
      simp only [one, decide_eq_true_eq]
    · exact (reserve_spec ..).2
    · have counted := count_set (executesOn nodeID) worker
        (.running { slotted with executing := true })
      simp only [executesOn, idle, Bool.false_and, Bool.true_and, one, false_eq_true,
        if_false] at counted
      simpa [one] using counted
    · have counted := count_set (assignedTo nodeID) worker
        (.running { slotted with executing := true })
      simp only [assignedTo, idle, pc, beforeReservation, Bool.or_true] at counted
      simp only [assigned, withRoutine]
      omega
  · cases taken

theorem release_step_move (taken : releaseStep state index = some after) :
    SlotMove call state (.release index) after := by
  unfold releaseStep at taken
  split at taken
  · rename_i slotted found
    split_ifs at taken with ready
    cases taken
    obtain ⟨pc, busy⟩ := ready
    have worker := routine_at_some found
    refine .released slotted.routine.nodeID (fun nodeID => ?_) (fun nodeID => ?_)
      (fun nodeID => ?_) (fun nodeID => ?_)
    · rw [(release_spec ..).1]
      simp only [one, decide_eq_true_eq]
    · exact (release_spec ..).2
    · have counted := count_set (executesOn nodeID) worker
        (.running { slotted with executing := false })
      simp only [executesOn, busy, Bool.false_and, Bool.true_and, one, false_eq_true,
        if_false] at counted
      simpa [one] using counted
    · have counted := count_set (assignedTo nodeID) worker
        (.running { slotted with executing := false })
      have ended : beforeReservation slotted.routine.pc = false := by
        revert pc
        cases slotted.routine.pc <;> simp [returnedFromTask]
      simp only [assignedTo, busy, ended, Bool.or_self, Bool.false_and, one,
        false_eq_true, if_false] at counted
      simp only [assigned, withRoutine]
      omega
  · cases taken

end

theorem cooled_counters (fleet : Fleet) (slotted : Slotted) (answers : Answers) (now : Time) :
    SameCounters fleet (cooled fleet slotted answers now) := by
  unfold cooled
  split
  · split_ifs <;> exact ⟨fun _ => rfl, fun _ => rfl⟩
  · exact same_counters_refl fleet

variable {routine : Goroutine}

theorem goroutine_stays (move : GoroutineMove sched routine task answers now progress)
    (going : progress.routine.attempt = routine.attempt) :
    progress.routine.nodeID = routine.nodeID ∧
      (beforeReservation progress.routine.pc = true → beforeReservation routine.pc = true) := by
  cases move with
  | quiet _ _ _ control =>
    refine ⟨rfl, ?_⟩
    dsimp only at control ⊢
    revert control
    generalize routine.pc = pc
    intro control
    cases control <;> simp
  | retried => simp at going
  | noted _ before | jobRecorded _ _ _ _ before | legacyClaim before | illegalClaim before
    | claimPrepared _ before | claimCommitted _ before =>
    exact ⟨rfl, fun _ => by rw [before]; rfl⟩
  | reportPrepared _ _ _ _ _ _ _ _ phase =>
    cases phase <;> exact ⟨rfl, fun later => by simp at later⟩
  | reportCommitted _ _ _ _ _ _ phase =>
    cases phase <;> exact ⟨rfl, fun later => by simp at later⟩

theorem retry_reselects (plain : ¬ reselects sched slotted = true)
    (stepped : goroutineStep sched slotted.routine task answers now = some progress) :
    progress.routine.attempt = slotted.routine.attempt := by
  have move := goroutine_move stepped
  cases move with
  | retried _ _ before =>
    have spent : ¬ slotted.routine.attempt < sched.config.maxDispatchAttempts := by
      simpa [reselects, before] using plain
    simp [goroutineStep, before, spent] at stepped
  | _ => rfl

theorem reselected_node (again : reselects sched slotted = true)
    (stepped : goroutineStep sched slotted.routine task answers now = some progress)
    (sent : beforeReservation progress.routine.pc = true) :
    answers.selectNode = some progress.routine.nodeID := by
  revert again stepped
  unfold reselects
  cases pc : slotted.routine.pc <;> simp only [false_eq_true, false_implies]
  intro again stepped
  simp only [goroutineStep, pc, again, if_true] at stepped
  split at stepped
  · cases stepped
    cases sent
  · rename_i nodeID selected
    cases stepped
    exact selected

omit [GoRuntime Input] in
theorem reselected_move (found : routineAt state index = some slotted)
    (idle : slotted.executing = false) (again : reselects state.sched slotted = true)
    (fleet : SameCounters (choose call state index call.nodes).1 after.fleet)
    (workers : after.run.workers = state.run.workers.set index (.running { slotted with routine :=
      routine }))
    (outcome : beforeReservation routine.pc = true → (choose call state index call.nodes).2 = some
      routine.nodeID) :
    SlotMove call state (.work index answers) after := by
  have chosen := choose_chosen call state index call.nodes
  have counters : SameCounters state.fleet after.fleet :=
    ⟨fun nodeID => (fleet.reserved nodeID).trans (chosen.slots.reserved nodeID),
      fun nodeID => (fleet.bound nodeID).trans (chosen.slots.bound nodeID)⟩
  have worker := routine_at_some found
  have executing (nodeID : String) :
      executesOn nodeID (.running { slotted with routine := routine }) =
        executesOn nodeID (.running slotted) := by
    simp [idle]
  by_cases sent : beforeReservation routine.pc = true
  · obtain ⟨listed, free⟩ := chosen.free _ (outcome sent)
    have ended : beforeReservation slotted.routine.pc = false := by
      revert again
      unfold reselects
      cases slotted.routine.pc <;> simp
    refine .sent call.nodes routine.nodeID ?_ listed free counters (fun nodeID => ?_)
      (fun nodeID => ?_)
    · simp [selectsFrom, found, again]
    · have counted := count_set (executesOn nodeID) worker
        (.running { slotted with routine := routine })
      rw [executing nodeID] at counted
      simp only [executions, workers]
      omega
    · have counted := count_set (assignedTo nodeID) worker
        (.running { slotted with routine := routine })
      simp only [assignedTo, idle, ended, sent, Bool.or_self, Bool.false_and, Bool.or_true,
        Bool.true_and] at counted
      simp only [assigned, workers, idle]
      simp only [one, false_eq_true, if_false] at counted ⊢
      omega
  · refine replaced_steady worker workers counters executing (fun nodeID later => ?_)
    simp [-beforeReservation, idle, sent] at later

theorem work_slot_move (taken : workSlot call state index answers = some after) :
    SlotMove call state (.work index answers) after := by
  unfold workSlot at taken
  split at taken
  · rename_i slotted task found taskFound
    split at taken
    · cases taken
    · rename_i settled
      have idle (ended : returnedFromTask slotted.routine.pc = true) :
          slotted.executing = false := by
        by_contra busy
        simp [slotDue, ended, busy] at settled
      have worker := routine_at_some found
      split at taken
      · rename_i err pc
        have free := idle (by rw [pc]; rfl)
        obtain ⟨_, finished, rfl⟩ := map_eq_some_iff.mp taken
        simp only [finish, worker] at finished
        cases err with
        | none | some =>
          cases finished
          exact replaced_steady worker rfl (same_counters_refl _)
            (fun nodeID => by simp [free]) (fun nodeID later => by cases later)
      · rename_i unfinished
        rcases selected : reselection call state index slotted with ⟨fleet, _⟩
        rw [selected] at taken
        obtain ⟨_, stepped, rfl⟩ := map_eq_some_iff.mp taken
        have cooling := cooled_counters fleet slotted answers state.now
        by_cases again : reselects state.sched slotted = true
        · simp only [reselection, again, if_true] at selected
          have free : slotted.executing = false := by
            refine idle ?_
            revert again
            unfold reselects
            cases slotted.routine.pc <;> simp [returnedFromTask]
          refine reselected_move found free again ?_ rfl ?_
          · rw [selected]
            exact cooling
          · rw [selected]
            exact reselected_node again stepped
        · simp only [reselection, again] at selected
          cases selected
          obtain ⟨stays, before⟩ := goroutine_stays (goroutine_move stepped)
            (retry_reselects again stepped)
          refine replaced_steady worker rfl cooling (fun nodeID => ?_) (fun nodeID later => ?_)
          · simp [stays]
          · simp only [assignedTo, stays, and_eq_true, or_eq_true] at later ⊢
            exact ⟨later.1.imp_right before, later.2⟩
  · cases taken

theorem slot_move (taken : slotStep call state action = some after) :
    SlotMove call state action after := by
  have quiet {next : StageState Input} (workers : next.run = state.run)
      (counters : SameCounters state.fleet next.fleet) : SlotMove call state action next := by
    refine .steady counters (fun nodeID => ?_) (fun nodeID => ?_)
    · rw [executions, workers, ← executions]
    · rw [assigned, workers, ← assigned]
  cases action with
  | tick | interfere | cancel =>
    cases taken
    exact quiet rfl (same_counters_refl _)
  | heartbeat nodeID =>
    simp only [slotStep, heartbeatStep] at taken
    split_ifs at taken with unchanged
    cases taken
    refine quiet rfl ⟨fun other => (update_capacity_spec _ _ _ _ _ _ other).1, fun other => ?_⟩
    by_cases same : other = nodeID
    · exact same ▸ unchanged
    · exact (update_capacity_spec _ _ _ _ _ _ other).2 same
  | affinity =>
    cases taken
    exact quiet rfl ⟨fun _ => rfl, fun _ => rfl⟩
  | select => exact select_step_move taken
  | poll => exact poll_step_move taken
  | giveUp =>
    simp only [slotStep, giveUpStep] at taken
    split at taken
    · cases taken
    · obtain ⟨run, launches, rfl⟩ := map_eq_some_iff.mp taken
      simp only [launch, false_eq_true, if_false] at launches
      split at launches <;> cases launches
      exact .steady (same_counters_refl _) (fun _ => rfl) (fun _ => le_rfl)
  | reserve => exact reserve_step_move taken
  | work => exact work_slot_move taken
  | release => exact release_step_move taken
  | report =>
    obtain ⟨_, reported, rfl⟩ := map_eq_some_iff.mp taken
    unfold report at reported
    split at reported
    · rename_i err found
      cases reported
      exact replaced_steady found rfl (same_counters_refl _) (fun _ => rfl) (fun _ assigned => assigned)
    · cases reported

/-- A call of `executeStage` at its start: nothing is started or reserved. -/
structure Idle (state : StageState Input) : Prop where
  run : state.run = newStageRun Slotted
  unreserved : ∀ nodeID, reservedOn state.fleet nodeID = 0

def CountersExact (state : StageState Input) : Prop :=
  ∀ nodeID, reservedOn state.fleet nodeID = executions state nodeID

def AssignedWithin (state : StageState Input) : Prop :=
  ∀ nodeID, assigned state nodeID ≤ boundOn state.fleet nodeID

/-- The counter of a node is the number of its `executeTask` calls, whatever
the selections do. -/
theorem reserved_counts_executions {guard : StageState Input → SlotAction Input → Prop}
    (reached : Reaches (slotStep call) guard Idle state) : CountersExact state := by
  refine reaches_invariant ?_ ?_ reached
  · intro state idle nodeID
    rw [idle.unreserved, executions, idle.run]
    rfl
  · intro state _ _ exact _ taken nodeID
    have before := exact nodeID
    cases slot_move taken with
    | steady counters executing | sent _ _ _ _ _ counters executing =>
      rw [counters.reserved, executing, before]
    | reserved _ counter _ executing => rw [counter, executing, before]
    | released _ counter _ executing =>
      have later := executing nodeID
      rw [counter]
      omega

theorem assigned_within_bound
    (reached : Reaches (slotStep call) (fun state action => roomAtSelection call state action =
      true) Idle state) :
    AssignedWithin state := by
  refine reaches_invariant ?_ ?_ reached
  · intro state idle nodeID
    rw [assigned, idle.run]
    exact Nat.zero_le _
  · intro state action _ within room taken nodeID
    have before := within nodeID
    cases slot_move taken with
    | steady counters _ sent =>
      rw [counters.bound]
      exact (sent nodeID).trans before
    | sent _ chosen offered listed free counters _ sent =>
      rw [counters.bound]
      refine (sent nodeID).trans ?_
      by_cases same : chosen = nodeID
      · subst same
        simp only [roomAtSelection, offered, getD_some, List.all_eq_true,
          or_eq_true, decide_eq_true_eq] at room
        have space := (room chosen listed).resolve_left (not_le.mpr free)
        simp only [one, decide_true, if_true]
        omega
      · simpa [one, same] using before
    | reserved _ _ bound _ sent | released _ _ bound _ sent =>
      rw [bound]
      exact (sent nodeID).trans before

/-- When all goroutines have returned, no slot is reserved. -/
theorem slots_returned (call : StageCall)
    (reached : Reaches (slotStep call) (fun _ _ => True) Idle state)
    (done : ∀ worker ∈ state.run.workers, ∃ err, worker = .returned err) (nodeID : String) :
    reservedOn state.fleet nodeID = 0 := by
  rw [reserved_counts_executions reached nodeID, executions, countP_eq_zero]
  intro worker inside
  obtain ⟨_, rfl⟩ := done worker inside
  simp [executesOn]

omit [GoRuntime Input] in
theorem executions_assigned (state : StageState Input) (nodeID : String) :
    executions state nodeID ≤ assigned state nodeID := by
  refine countP_mono_left fun worker _ executing => ?_
  cases worker with
  | running =>
    simp only [executesOn, and_eq_true] at executing
    simp [executing.1, executing.2]
  | reporting | returned => cases executing

/-- While every selection leaves room for the goroutines already sent to a
node, each counter is exact and within the node's bound. -/
theorem slots_within_bound_while_room (call : StageCall) {state : StageState Input}
    (reached : Reaches (slotStep call)
      (fun state action => roomAtSelection call state action = true) Idle state)
    (nodeID : String) :
    reservedOn state.fleet nodeID = executions state nodeID ∧
      reservedOn state.fleet nodeID ≤ boundOn state.fleet nodeID := by
  have exact := reserved_counts_executions reached nodeID
  refine ⟨exact, ?_⟩
  rw [exact]
  exact (executions_assigned state nodeID).trans (assigned_within_bound reached nodeID)

def sampleConfig : CapacityConfig := ⟨false, 1, 64, 30, 2, false⟩

def oneSlotCall (total : Nat) : StageCall := ⟨0, 0, total, ["node-1"]⟩

def oneSlotStart (taskIDs : List String) : StageState SampleInput where
  sched := registerJob (newScheduler SampleInput ⟨false, 10, 2⟩) (sampleJob taskIDs)
  fleet := newFleet sampleConfig
  now := 1
  cancelled := false
  deferring := false
  run := newStageRun Slotted

theorem one_slot_idle (taskIDs : List String) : Idle (oneSlotStart taskIDs) :=
  ⟨rfl, fun _ => rfl⟩

def claims (index count : Nat) : List (SlotAction SampleInput) :=
  List.replicate count (.work index answered) ++ [.reserve index]

/-- Both tasks are sent to the node before either of them reserves. -/
def eagerSelection : List (SlotAction SampleInput) :=
  [.select, .select] ++ claims 0 6 ++ claims 1 4

theorem second_selection_overcommits_node :
    ∃ final, run (slotStep (oneSlotCall 2)) (oneSlotStart ["task-1", "task-2"]) eagerSelection =
        some final ∧
      reservedOn final.fleet "node-1" = 2 ∧ boundOn final.fleet "node-1" = 1 ∧
      executions final "node-1" = 2 :=
  ⟨_, rfl, by decide⟩

def singleSelection : List (SlotAction SampleInput) := [.select] ++ claims 0 6

theorem single_task_keeps_bound :
    ∃ final, run (slotStep (oneSlotCall 1)) (oneSlotStart ["task-1"]) singleSelection =
        some final ∧
      reservedOn final.fleet "node-1" = executions final "node-1" ∧
      reservedOn final.fleet "node-1" ≤ boundOn final.fleet "node-1" :=
  ⟨_, rfl, slots_within_bound_while_room (oneSlotCall 1)
    (reaches_of_run (.start (one_slot_idle ["task-1"])) singleSelection (by decide) rfl) "node-1"⟩

def wholeTask : List (SlotAction SampleInput) :=
  singleSelection ++ List.replicate 6 (.work 0 answered) ++ [.release 0, .work 0 answered]

theorem whole_task_returns : ∃ final,
    run (slotStep (oneSlotCall 1)) (oneSlotStart ["task-1"]) wholeTask = some final ∧
      reservedOn final.fleet "node-1" = 0 :=
  ⟨_, rfl, slots_returned (oneSlotCall 1)
    (reaches_of_run (.start (one_slot_idle ["task-1"])) wholeTask (by decide) rfl)
    (by simp [oneSlotStart, newStageRun]) "node-1"⟩

end Dagens.Scheduler.SlotAccounting
