import Dagens.Scheduler.Transitions

/-!
# Node capacity, cooldowns and node selection

The scheduler's table of nodes: what each node reports, what the scheduler has
reserved on it, the cooldowns after refused dispatches, and the sticky map from
partition keys to nodes. Reading the table fills in missing entries and drops
expired cooldowns, so every function returns the table it leaves.
-/

namespace Dagens.Scheduler.NodeCapacity

open Lifecycle Function List

set_option linter.dupNamespace false

/-- The settings the table reads, as `Validate` leaves them. -/
structure CapacityConfig where
  enableStickiness : Bool
  defaultWorkerMaxConcurrency : Nat
  maxWorkerConcurrencyCap : Nat
  capacityTTL : Time
  dispatchRejectCooldown : Time
  enableStageCapacityDeferral : Bool
  deriving DecidableEq, Repr

structure NodeCapacity where
  reservedInFlight : Nat
  reportedInFlight : Nat
  maxConcurrency : Nat
  lastUpdated : Time
  deriving DecidableEq, Repr

structure AffinityEntry where
  nodeID : String
  createdAt : Time
  lastUsedAt : Time
  hitCount : Nat
  deriving DecidableEq, Repr

structure Fleet where
  config : CapacityConfig
  nodeCapacity : String → Option NodeCapacity
  dispatchCooldowns : String → Option Time
  nodeIndex : Nat
  affinityMap : String → Option AffinityEntry

def newFleet (config : CapacityConfig) : Fleet where
  config := config
  nodeCapacity := fun _ => none
  dispatchCooldowns := fun _ => none
  nodeIndex := 0
  affinityMap := fun _ => none

def setCapacity (fleet : Fleet) (nodeID : String) (capacity : NodeCapacity) : Fleet :=
  { fleet with nodeCapacity := update fleet.nodeCapacity nodeID (some capacity) }

def newNodeCapacity (config : CapacityConfig) (now : Time) : NodeCapacity where
  reservedInFlight := 0
  reportedInFlight := 0
  maxConcurrency := config.defaultWorkerMaxConcurrency
  lastUpdated := now

def getOrCreateNodeCapacity (fleet : Fleet) (nodeID : String) (now : Time) :
    NodeCapacity × Fleet :=
  match fleet.nodeCapacity nodeID with
  | some capacity => (capacity, fleet)
  | none =>
    let capacity := newNodeCapacity fleet.config now
    (capacity, setCapacity fleet nodeID capacity)

def updateNodeCapacityAt (fleet : Fleet) (nodeID : String) (inFlight maxConcurrency : Int)
    (reportedAt now : Time) : Fleet :=
  let (capacity, created) := getOrCreateNodeCapacity fleet nodeID now
  let raised := if maxConcurrency ≤ 0 then fleet.config.defaultWorkerMaxConcurrency
    else maxConcurrency.toNat
  setCapacity created nodeID
    { capacity with
      reportedInFlight := inFlight.toNat
      maxConcurrency := min raised fleet.config.maxWorkerConcurrencyCap
      lastUpdated := if reportedAt = 0 then now else reportedAt }

def reserveNodeSlot (fleet : Fleet) (nodeID : String) (now : Time) : Fleet :=
  let (capacity, created) := getOrCreateNodeCapacity fleet nodeID now
  setCapacity created nodeID
    { capacity with
      reservedInFlight := capacity.reservedInFlight + 1
      lastUpdated := now }

/-- The counter does not go below zero. -/
def releaseNodeSlot (fleet : Fleet) (nodeID : String) (now : Time) : Fleet :=
  let (capacity, created) := getOrCreateNodeCapacity fleet nodeID now
  setCapacity created nodeID
    { capacity with
      reservedInFlight := capacity.reservedInFlight - 1
      lastUpdated := now }

def availableCapacity (capacity : NodeCapacity) : Int :=
  capacity.maxConcurrency - max capacity.reservedInFlight capacity.reportedInFlight

def isCapacityFresh (config : CapacityConfig) (capacity : NodeCapacity) (now : Time) : Bool :=
  decide (capacity.lastUpdated ≠ 0) && decide (now ≤ capacity.lastUpdated + config.capacityTTL)

/-- A cooldown that has run out is deleted by the check. -/
def isInDispatchCooldown (fleet : Fleet) (nodeID : String) (now : Time) : Bool × Fleet :=
  match fleet.dispatchCooldowns nodeID with
  | none => (false, fleet)
  | some expiry =>
    if expiry < now then
      (false, { fleet with
        dispatchCooldowns := update fleet.dispatchCooldowns nodeID none })
    else (true, fleet)

def markDispatchCooldown (fleet : Fleet) (nodeID : String) (now : Time) : Fleet :=
  { fleet with
    dispatchCooldowns := update fleet.dispatchCooldowns nodeID
      (some (now + fleet.config.dispatchRejectCooldown)) }

def nodeHasAvailableCapacity (fleet : Fleet) (nodeID : String) (now : Time) : Bool × Fleet :=
  let (cooling, checked) := isInDispatchCooldown fleet nodeID now
  if cooling then (false, checked)
  else
    let (capacity, created) := getOrCreateNodeCapacity checked nodeID now
    (decide (0 < availableCapacity capacity), created)

/-- The nodes with the most free slots among those looked at. -/
structure Best where
  available : Int
  nodes : List String
  deriving DecidableEq, Repr

def noneSeen : Best := ⟨-1, []⟩

def Best.offer (best : Best) (nodeID : String) (available : Int) : Best :=
  if best.available < available then ⟨available, [nodeID]⟩
  else if available = best.available then { best with nodes := best.nodes ++ [nodeID] }
  else best

structure Scan where
  fleet : Fleet
  fresh : Best
  stale : Best

def scanNode (now : Time) (scan : Scan) (nodeID : String) : Scan :=
  let (cooling, checked) := isInDispatchCooldown scan.fleet nodeID now
  if cooling then { scan with fleet := checked }
  else
    let (capacity, created) := getOrCreateNodeCapacity checked nodeID now
    let available := availableCapacity capacity
    if isCapacityFresh created.config capacity now then
      { scan with fleet := created, fresh := scan.fresh.offer nodeID available }
    else { scan with fleet := created, stale := scan.stale.offer nodeID available }

def scanNodes (fleet : Fleet) (nodes : List String) (now : Time) : Scan :=
  nodes.foldl (scanNode now) ⟨fleet, noneSeen, noneSeen⟩

def pickRoundRobin (fleet : Fleet) (nodes : List String) : Fleet × Option String :=
  ({ fleet with nodeIndex := fleet.nodeIndex + 1 }, nodes[fleet.nodeIndex % nodes.length]?)

/-- Stale entries count only when there is no fresh one. -/
def selectScanned (scan : Scan) : Fleet × Option String :=
  if 0 < scan.fresh.available ∧ scan.fresh.nodes ≠ [] then
    pickRoundRobin scan.fleet scan.fresh.nodes
  else if scan.fresh.nodes ≠ [] then (scan.fleet, none)
  else if scan.stale.available ≤ 0 ∨ scan.stale.nodes = [] then (scan.fleet, none)
  else pickRoundRobin scan.fleet scan.stale.nodes

def selectNodeByCapacity (fleet : Fleet) (nodes : List String) (now : Time) :
    Fleet × Option String :=
  match nodes with
  | [nodeID] =>
    let (free, checked) := nodeHasAvailableCapacity fleet nodeID now
    (checked, if free then some nodeID else none)
  | _ => selectScanned (scanNodes fleet nodes now)

structure AffinityResult where
  nodeID : String
  isHit : Bool
  isStale : Bool
  partitionKey : String
  deriving DecidableEq, Repr

def touchAffinity (fleet : Fleet) (partitionKey : String) (now : Time) : Fleet :=
  match fleet.affinityMap partitionKey with
  | none => fleet
  | some entry =>
    { fleet with
      affinityMap := update fleet.affinityMap partitionKey
        (some { entry with lastUsedAt := now, hitCount := entry.hitCount + 1 }) }

def setAffinity (fleet : Fleet) (partitionKey nodeID : String) (now : Time) : Fleet :=
  { fleet with
    affinityMap := update fleet.affinityMap partitionKey (some ⟨nodeID, now, now, 1⟩) }

def deleteAffinity (fleet : Fleet) (partitionKey : String) : Fleet :=
  { fleet with affinityMap := update fleet.affinityMap partitionKey none }

/-- The part of `selectNodeForTask` after the sticky node was ruled out. -/
def selectAndPin (fleet : Fleet) (partitionKey : String) (nodes : List String) (isStale : Bool)
    (now : Time) : Fleet × AffinityResult × Option String :=
  match selectNodeByCapacity fleet nodes now with
  | (selected, none) => (selected, ⟨"", false, isStale, partitionKey⟩, none)
  | (selected, some nodeID) =>
    (setAffinity selected partitionKey nodeID now, ⟨nodeID, false, isStale, partitionKey⟩,
      some nodeID)

def selectNodeForTask (fleet : Fleet) (partitionKey : String) (nodes : List String)
    (now : Time) : Fleet × AffinityResult × Option String :=
  if !fleet.config.enableStickiness || decide (partitionKey = "") then
    match selectNodeByCapacity fleet nodes now with
    | (selected, none) => (selected, ⟨"", false, false, partitionKey⟩, none)
    | (selected, some nodeID) => (selected, ⟨nodeID, false, false, partitionKey⟩, some nodeID)
  else
    match fleet.affinityMap partitionKey with
    | none => selectAndPin fleet partitionKey nodes false now
    | some entry =>
      if entry.nodeID ∈ nodes then
        let (free, checked) := nodeHasAvailableCapacity fleet entry.nodeID now
        if free then
          (touchAffinity checked partitionKey now, ⟨entry.nodeID, true, false, partitionKey⟩,
            some entry.nodeID)
        else selectAndPin checked partitionKey nodes false now
      else selectAndPin (deleteAffinity fleet partitionKey) partitionKey nodes true now

def reservedOn (fleet : Fleet) (nodeID : String) : Nat :=
  ((fleet.nodeCapacity nodeID).map (·.reservedInFlight)).getD 0

def boundOn (fleet : Fleet) (nodeID : String) : Nat :=
  ((fleet.nodeCapacity nodeID).map (·.maxConcurrency)).getD
    fleet.config.defaultWorkerMaxConcurrency

def reportedOn (fleet : Fleet) (nodeID : String) : Nat :=
  ((fleet.nodeCapacity nodeID).map (·.reportedInFlight)).getD 0

def freeOn (fleet : Fleet) (nodeID : String) : Int :=
  boundOn fleet nodeID - max (reservedOn fleet nodeID) (reportedOn fleet nodeID)

/-- Counters and bounds are as before; entries may have been filled in. -/
structure SameSlots (before after : Fleet) : Prop where
  config : after.config = before.config
  reserved : ∀ nodeID, reservedOn after nodeID = reservedOn before nodeID
  bound : ∀ nodeID, boundOn after nodeID = boundOn before nodeID
  reported : ∀ nodeID, reportedOn after nodeID = reportedOn before nodeID

variable {after fleet : Fleet} {nodeID : String} {nodes : List String} {before middle : Fleet}
  {seen : List String} {scan : Scan}

theorem same_slots_of_table (config : after.config = before.config)
    (table : after.nodeCapacity = before.nodeCapacity) : SameSlots before after := by
  refine ⟨config, fun nodeID => ?_, fun nodeID => ?_, fun nodeID => ?_⟩
  · simp only [reservedOn, table]
  · simp only [boundOn, table, config]
  · simp only [reportedOn, table]

theorem SameSlots.trans {first last : Fleet} (left : SameSlots first middle)
    (right : SameSlots middle last) : SameSlots first last :=
  ⟨right.config.trans left.config, fun nodeID => (right.reserved nodeID).trans
    (left.reserved nodeID), fun nodeID => (right.bound nodeID).trans (left.bound nodeID),
    fun nodeID => (right.reported nodeID).trans (left.reported nodeID)⟩

theorem SameSlots.free (same : SameSlots before after) (nodeID : String) :
    freeOn after nodeID = freeOn before nodeID := by
  simp only [freeOn, same.bound, same.reserved, same.reported]

attribute [local simp] reservedOn setCapacity boundOn reportedOn newNodeCapacity noneSeen

section

variable (fleet nodeID) (now : Time)

theorem get_or_create_spec :
    SameSlots fleet (getOrCreateNodeCapacity fleet nodeID now).2 ∧
      (getOrCreateNodeCapacity fleet nodeID now).1.reservedInFlight = reservedOn fleet nodeID ∧
      (getOrCreateNodeCapacity fleet nodeID now).1.maxConcurrency = boundOn fleet nodeID ∧
      (getOrCreateNodeCapacity fleet nodeID now).1.reportedInFlight = reportedOn fleet nodeID := by
  unfold getOrCreateNodeCapacity
  cases found : fleet.nodeCapacity nodeID with
  | some =>
    simp only [reservedOn, boundOn, reportedOn, found, Option.map_some, Option.getD_some, and_self,
      and_true]
    exact same_slots_of_table rfl rfl
  | none =>
    refine ⟨⟨rfl, ?_, ?_, ?_⟩, ?_⟩
    iterate 3
      intro other
      by_cases same : other = nodeID
      · subst same
        simp [found]
      · simp [same]
    simp [found]

theorem cooldown_same_slots : SameSlots fleet (isInDispatchCooldown fleet nodeID now).2 := by
  unfold isInDispatchCooldown
  split
  · exact same_slots_of_table rfl rfl
  · split_ifs <;> exact same_slots_of_table rfl rfl

theorem has_capacity_spec :
    SameSlots fleet (nodeHasAvailableCapacity fleet nodeID now).2 ∧
      ((nodeHasAvailableCapacity fleet nodeID now).1 = true → 0 < freeOn fleet nodeID) := by
  have checked := cooldown_same_slots fleet nodeID now
  obtain ⟨created, reserved, bound, reported⟩ :=
    get_or_create_spec (isInDispatchCooldown fleet nodeID now).2 nodeID now
  unfold nodeHasAvailableCapacity
  dsimp only
  split_ifs
  · exact ⟨checked, by simp⟩
  · refine ⟨checked.trans created, fun free => ?_⟩
    rw [← checked.free]
    simpa only [freeOn, availableCapacity, reserved, bound, reported, decide_eq_true_eq] using free

end

/-- Every candidate kept was looked at and has the number of free slots noted. -/
def Best.Honest (best : Best) (fleet : Fleet) (seen : List String) : Prop :=
  ∀ nodeID ∈ best.nodes, nodeID ∈ seen ∧ freeOn fleet nodeID = best.available

theorem offer_honest {best : Best} (honest : best.Honest fleet seen) (looked : nodeID ∈ seen) :
    (best.offer nodeID (freeOn fleet nodeID)).Honest fleet seen := by
  unfold Best.offer
  split_ifs with better same
  · intro other member
    rw [mem_singleton.mp member]
    exact ⟨looked, rfl⟩
  · intro other member
    rcases mem_append.mp member with old | new
    · exact honest other old
    · rw [mem_singleton.mp new]
      exact ⟨looked, same⟩
  · exact honest

structure ScanSound (fleet : Fleet) (seen : List String) (scan : Scan) : Prop where
  slots : SameSlots fleet scan.fleet
  fresh : scan.fresh.Honest fleet seen
  stale : scan.stale.Honest fleet seen

theorem scan_node_sound (sound : ScanSound fleet seen scan) (looked : nodeID ∈ seen) (now : Time) :
    ScanSound fleet seen (scanNode now scan nodeID) := by
  have checked := sound.slots.trans (cooldown_same_slots scan.fleet nodeID now)
  obtain ⟨created, reserved, bound, reported⟩ :=
    get_or_create_spec (isInDispatchCooldown scan.fleet nodeID now).2 nodeID now
  have free : availableCapacity (getOrCreateNodeCapacity
      (isInDispatchCooldown scan.fleet nodeID now).2 nodeID now).1 = freeOn fleet nodeID := by
    rw [← checked.free]
    simp only [freeOn, availableCapacity, reserved, bound, reported]
  unfold scanNode
  dsimp only
  rw [free]
  split_ifs
  · exact ⟨checked, sound.fresh, sound.stale⟩
  · exact ⟨checked.trans created, offer_honest sound.fresh looked, sound.stale⟩
  · exact ⟨checked.trans created, sound.fresh, offer_honest sound.stale looked⟩

attribute [local simp] Best.Honest

theorem scan_nodes_sound (fleet : Fleet) (nodes : List String) (now : Time) :
    ScanSound fleet nodes (scanNodes fleet nodes now) := by
  have initial : ScanSound fleet nodes ⟨fleet, noneSeen, noneSeen⟩ :=
    ⟨same_slots_of_table rfl rfl, by simp, by simp⟩
  unfold scanNodes
  generalize (⟨fleet, noneSeen, noneSeen⟩ : Scan) = scan at initial
  suffices folds : ∀ todo : List String, (∀ nodeID ∈ todo, nodeID ∈ nodes) → ∀ scan,
      ScanSound fleet nodes scan → ScanSound fleet nodes (todo.foldl (scanNode now) scan) from
    folds nodes (fun _ member => member) scan initial
  intro todo
  induction todo with
  | nil => exact fun _ _ sound => sound
  | cons nodeID _ ih =>
    intro listed scan sound
    exact ih (fun other member => listed other (mem_cons_of_mem _ member)) _
      (scan_node_sound sound (listed nodeID mem_cons_self) now)

theorem pick_mem (picked : (pickRoundRobin fleet nodes).2 = some nodeID) : nodeID ∈ nodes :=
  mem_of_getElem? picked

/-- What every selection guarantees: the counters are left alone, and the node
chosen is on offer and has a free slot. -/
structure Chosen (fleet : Fleet) (nodes : List String) (after : Fleet) (node : Option String) :
    Prop where
  slots : SameSlots fleet after
  free : ∀ nodeID, node = some nodeID → nodeID ∈ nodes ∧ 0 < freeOn fleet nodeID

theorem select_scanned_chosen (sound : ScanSound fleet nodes scan) :
    Chosen fleet nodes (selectScanned scan).1 (selectScanned scan).2 := by
  have picked {best : Best} (honest : best.Honest fleet nodes) (free : 0 < best.available) :
      Chosen fleet nodes (pickRoundRobin scan.fleet best.nodes).1
        (pickRoundRobin scan.fleet best.nodes).2 := by
    refine ⟨sound.slots.trans (same_slots_of_table rfl rfl), fun nodeID same => ?_⟩
    obtain ⟨looked, count⟩ := honest nodeID (pick_mem same)
    exact ⟨looked, count ▸ free⟩
  unfold selectScanned
  split_ifs with freshFree fresh full
  · exact picked sound.fresh freshFree.1
  · exact ⟨sound.slots, by simp⟩
  · exact ⟨sound.slots, by simp⟩
  · exact picked sound.stale (not_le.mp (not_or.mp full).1)

theorem select_by_capacity_chosen (fleet : Fleet) (nodes : List String) (now : Time) :
    Chosen fleet nodes (selectNodeByCapacity fleet nodes now).1
      (selectNodeByCapacity fleet nodes now).2 := by
  unfold selectNodeByCapacity
  split
  · rename_i nodeID
    obtain ⟨slots, free⟩ := has_capacity_spec fleet nodeID now
    refine ⟨slots, fun other same => ?_⟩
    dsimp only at same
    split_ifs at same with enough
    cases same
    exact ⟨mem_singleton_self _, free enough⟩
  · exact select_scanned_chosen (scan_nodes_sound fleet nodes now)

theorem Chosen.widen {node : Option String} (slots : SameSlots fleet middle)
    (chosen : Chosen middle nodes after node) :
    Chosen fleet nodes after node :=
  ⟨slots.trans chosen.slots, fun nodeID same =>
    ⟨(chosen.free nodeID same).1, slots.free nodeID ▸ (chosen.free nodeID same).2⟩⟩

section

variable (fleet) (partitionKey : String)

theorem select_and_pin_chosen (nodes : List String) (isStale : Bool) (now : Time) :
    Chosen fleet nodes (selectAndPin fleet partitionKey nodes isStale now).1
      (selectAndPin fleet partitionKey nodes isStale now).2.2 := by
  have chosen := select_by_capacity_chosen fleet nodes now
  unfold selectAndPin
  split
  · rename_i selected result
    rw [result] at chosen
    exact ⟨chosen.slots, by simp⟩
  · rename_i selected nodeID result
    rw [result] at chosen
    exact ⟨chosen.slots.trans (same_slots_of_table rfl rfl), chosen.free⟩

theorem select_for_task_chosen (nodes : List String) (now : Time) :
    Chosen fleet nodes (selectNodeForTask fleet partitionKey nodes now).1
      (selectNodeForTask fleet partitionKey nodes now).2.2 := by
  unfold selectNodeForTask
  split_ifs
  · have chosen := select_by_capacity_chosen fleet nodes now
    split
    · rename_i selected result
      rw [result] at chosen
      exact ⟨chosen.slots, by simp⟩
    · rename_i selected nodeID result
      rw [result] at chosen
      exact chosen
  · split
    · exact select_and_pin_chosen fleet partitionKey nodes false now
    · rename_i entry pinned
      obtain ⟨slots, free⟩ := has_capacity_spec fleet entry.nodeID now
      split_ifs with healthy
      · dsimp only
        split_ifs with enough
        · refine ⟨slots.trans ?_, fun nodeID same => ?_⟩
          · unfold touchAffinity
            split <;> exact same_slots_of_table rfl rfl
          · cases same
            exact ⟨healthy, free enough⟩
        · exact (select_and_pin_chosen _ partitionKey nodes false now).widen slots
      · have cleared : SameSlots fleet (deleteAffinity fleet partitionKey) :=
          same_slots_of_table rfl rfl
        exact (select_and_pin_chosen _ partitionKey nodes true now).widen cleared

end

section

variable (fleet nodeID)

theorem reserve_spec (now : Time) (other : String) :
    reservedOn (reserveNodeSlot fleet nodeID now) other =
        reservedOn fleet other + (if nodeID = other then 1 else 0) ∧
      boundOn (reserveNodeSlot fleet nodeID now) other = boundOn fleet other := by
  obtain ⟨created, reserved, bound, _⟩ := get_or_create_spec fleet nodeID now
  unfold reserveNodeSlot
  dsimp only
  by_cases same : nodeID = other
  · subst same
    simp [reserved, bound]
  · rw [← created.reserved other, ← created.bound other]
    simp [same, Ne.symm same]

theorem release_spec (now : Time) (other : String) :
    reservedOn (releaseNodeSlot fleet nodeID now) other =
        reservedOn fleet other - (if nodeID = other then 1 else 0) ∧
      boundOn (releaseNodeSlot fleet nodeID now) other = boundOn fleet other := by
  obtain ⟨created, reserved, bound, _⟩ := get_or_create_spec fleet nodeID now
  unfold releaseNodeSlot
  dsimp only
  by_cases same : nodeID = other
  · subst same
    simp [reserved, bound]
  · rw [← created.reserved other, ← created.bound other]
    simp [same, Ne.symm same]

theorem update_capacity_spec (inFlight maxConcurrency : Int) (reportedAt now : Time)
    (other : String) :
    reservedOn (updateNodeCapacityAt fleet nodeID inFlight maxConcurrency reportedAt now) other =
        reservedOn fleet other ∧
      (other ≠ nodeID → boundOn (updateNodeCapacityAt fleet nodeID inFlight maxConcurrency reportedAt
        now) other = boundOn fleet other) := by
  obtain ⟨created, reserved, _⟩ := get_or_create_spec fleet nodeID now
  unfold updateNodeCapacityAt
  dsimp only
  by_cases same : other = nodeID
  · subst same
    simp [reserved]
  · rw [← created.reserved other, ← created.bound other]
    simp [same]

end

end Dagens.Scheduler.NodeCapacity
