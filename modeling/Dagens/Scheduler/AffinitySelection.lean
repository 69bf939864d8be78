import Dagens.Scheduler.NodeCapacity

/-!
# The affinity map after a sticky selection

A pinned node is taken while it is healthy, has a free slot and is not cooling
down after a rejected dispatch; otherwise the key moves to the node selected.
-/

namespace Dagens.Scheduler.AffinitySelection

open Lifecycle NodeCapacity Function

structure Truthful (fleet : Fleet) (partitionKey : String) (nodes : List String) (now : Time)
    (outcome : Fleet × AffinityResult × Option String) : Prop where
  chosen : ∀ nodeID, outcome.2.2 = some nodeID → nodeID ∈ nodes ∧ 0 < freeOn fleet nodeID ∧
    (outcome.1.affinityMap partitionKey).map (·.nodeID) = some nodeID ∧
    outcome.2.1.nodeID = nodeID
  sticky : ∀ entry, fleet.affinityMap partitionKey = some entry → entry.nodeID ∈ nodes →
    0 < freeOn fleet entry.nodeID → (isInDispatchCooldown fleet entry.nodeID now).1 = false →
    outcome.2.2 = some entry.nodeID ∧ outcome.2.1.isHit = true
  cooling : ∀ entry, fleet.affinityMap partitionKey = some entry →
    (isInDispatchCooldown fleet entry.nodeID now).1 = true →
    outcome.2.2 ≠ some entry.nodeID ∧ outcome.2.1.isHit = false
  others : ∀ other, other ≠ partitionKey → outcome.1.affinityMap other = fleet.affinityMap other
  failed : outcome.2.2 = none → outcome.1.affinityMap partitionKey =
    (fleet.affinityMap partitionKey).filter (·.nodeID ∈ nodes)

variable (fleet : Fleet) (nodeID : String) (nodes : List String) (now : Time)

theorem cooldown_affinity :
    (isInDispatchCooldown fleet nodeID now).2.affinityMap = fleet.affinityMap := by
  unfold isInDispatchCooldown
  split
  · rfl
  · split_ifs <;> rfl

theorem created_affinity :
    (getOrCreateNodeCapacity fleet nodeID now).2.affinityMap = fleet.affinityMap := by
  unfold getOrCreateNodeCapacity
  cases fleet.nodeCapacity nodeID <;> rfl

theorem has_capacity_affinity :
    (nodeHasAvailableCapacity fleet nodeID now).2.affinityMap = fleet.affinityMap := by
  unfold nodeHasAvailableCapacity
  dsimp only
  split_ifs
  · exact cooldown_affinity fleet nodeID now
  · exact (created_affinity ..).trans (cooldown_affinity fleet nodeID now)

theorem scan_affinity (scan : Scan) :
    (nodes.foldl (scanNode now) scan).fleet.affinityMap = scan.fleet.affinityMap := by
  induction nodes generalizing scan with
  | nil => rfl
  | cons first _ ih =>
    have checked := cooldown_affinity scan.fleet first now
    rw [List.foldl_cons, ih]
    unfold scanNode
    dsimp only
    split_ifs
    · exact checked
    · exact (created_affinity ..).trans checked
    · exact (created_affinity ..).trans checked

theorem select_affinity :
    (selectNodeByCapacity fleet nodes now).1.affinityMap = fleet.affinityMap := by
  have scanned : (scanNodes fleet nodes now).fleet.affinityMap = fleet.affinityMap :=
    scan_affinity nodes now _
  unfold selectNodeByCapacity
  split
  · exact has_capacity_affinity ..
  · rw [← scanned]
    unfold selectScanned
    split_ifs <;> rfl

/-- A node that is cooling down, and is not among the candidates. -/
structure Avoids (scan : Scan) : Prop where
  cooling : (isInDispatchCooldown scan.fleet nodeID now).1 = true
  fresh : nodeID ∉ scan.fresh.nodes
  stale : nodeID ∉ scan.stale.nodes

section Cooling

variable {fleet nodeID now}

theorem cooling_iff : (isInDispatchCooldown fleet nodeID now).1 = true ↔
    ∃ expiry, fleet.dispatchCooldowns nodeID = some expiry ∧ now ≤ expiry := by
  unfold isInDispatchCooldown
  cases fleet.dispatchCooldowns nodeID with
  | none => simp
  | some expiry => by_cases late : expiry < now <;> simp [late, not_lt.mp]

theorem cooldown_kept (other : String)
    (cooling : (isInDispatchCooldown fleet nodeID now).1 = true) :
    (isInDispatchCooldown (isInDispatchCooldown fleet other now).2 nodeID now).1 = true := by
  obtain ⟨expiry, found, ahead⟩ := cooling_iff.mp cooling
  refine cooling_iff.mpr ⟨expiry, ?_, ahead⟩
  unfold isInDispatchCooldown
  split
  · exact found
  · split_ifs with expired
    · -- the check deletes only a cooldown that has run out
      have apart : nodeID ≠ other := by
        rintro rfl
        simp_all [not_lt.mpr ahead]
      exact (update_of_ne apart _ _).trans found
    · exact found

theorem created_cooldown (other : String)
    (cooling : (isInDispatchCooldown fleet nodeID now).1 = true) :
    (isInDispatchCooldown (getOrCreateNodeCapacity fleet other now).2 nodeID now).1 = true := by
  have table := cooling_iff.mp cooling
  refine cooling_iff.mpr ?_
  unfold getOrCreateNodeCapacity
  cases fleet.nodeCapacity other <;> exact table

theorem has_capacity_cooldown
    (cooling : (isInDispatchCooldown fleet nodeID now).1 = true) :
    nodeHasAvailableCapacity fleet nodeID now =
      (false, (isInDispatchCooldown fleet nodeID now).2) := by
  simp [nodeHasAvailableCapacity, cooling]

theorem offer_avoids {best : Best} {other : String} {available : Int}
    (absent : nodeID ∉ best.nodes) (apart : nodeID ≠ other) :
    nodeID ∉ (best.offer other available).nodes := by
  unfold Best.offer
  split_ifs <;> simp [absent, apart]

theorem scan_avoids {scan : Scan} (avoids : Avoids nodeID now scan) (other : String) :
    Avoids nodeID now (scanNode now scan other) := by
  obtain ⟨cooling, fresh, stale⟩ := avoids
  have checked := cooldown_kept other cooling
  have created := created_cooldown other checked
  unfold scanNode
  dsimp only
  split_ifs with cools
  · exact ⟨checked, fresh, stale⟩
  all_goals
    have apart : nodeID ≠ other := fun same => cools (same ▸ cooling)
    first
    | exact ⟨created, offer_avoids fresh apart, stale⟩
    | exact ⟨created, fresh, offer_avoids stale apart⟩

theorem select_avoids
    (cooling : (isInDispatchCooldown fleet nodeID now).1 = true) :
    (selectNodeByCapacity fleet nodes now).2 ≠ some nodeID := by
  have avoids : Avoids nodeID now (scanNodes fleet nodes now) := by
    have start : Avoids nodeID now ⟨fleet, noneSeen, noneSeen⟩ :=
      ⟨cooling, List.not_mem_nil, List.not_mem_nil⟩
    unfold scanNodes
    generalize (⟨fleet, noneSeen, noneSeen⟩ : Scan) = scan at start
    induction nodes generalizing scan with
    | nil => exact start
    | cons other _ ih => exact ih _ (scan_avoids start other)
  unfold selectNodeByCapacity
  split
  · rename_i only
    intro chosen
    dsimp only at chosen
    split_ifs at chosen with free
    cases chosen
    rw [has_capacity_cooldown cooling] at free
    cases free
  · unfold selectScanned
    split_ifs
    · exact fun chosen => avoids.fresh (pick_mem chosen)
    · simp
    · simp
    · exact fun chosen => avoids.stale (pick_mem chosen)

end Cooling

theorem pin_truthful {partitionKey : String} {looked : Fleet} (isStale : Bool)
    (slots : SameSlots fleet looked)
    (others : ∀ other, other ≠ partitionKey → looked.affinityMap other = fleet.affinityMap other)
    (kept : looked.affinityMap partitionKey =
      (fleet.affinityMap partitionKey).filter (·.nodeID ∈ nodes))
    (ruledOut : ∀ entry, fleet.affinityMap partitionKey = some entry → entry.nodeID ∈ nodes →
      0 < freeOn fleet entry.nodeID → (isInDispatchCooldown fleet entry.nodeID now).1 = true)
    (cools : ∀ entry, fleet.affinityMap partitionKey = some entry →
      (isInDispatchCooldown fleet entry.nodeID now).1 = true →
      (isInDispatchCooldown looked entry.nodeID now).1 = true) :
    Truthful fleet partitionKey nodes now (selectAndPin looked partitionKey nodes isStale now) := by
  have selects := select_by_capacity_chosen looked nodes now
  have map := select_affinity looked nodes now
  have sticky : ∀ entry, fleet.affinityMap partitionKey = some entry → entry.nodeID ∈ nodes →
      0 < freeOn fleet entry.nodeID →
      ¬ (isInDispatchCooldown fleet entry.nodeID now).1 = false := by
    intro entry pinned healthy free
    simp [ruledOut entry pinned healthy free]
  have passed : ∀ entry, fleet.affinityMap partitionKey = some entry →
      (isInDispatchCooldown fleet entry.nodeID now).1 = true →
      (selectNodeByCapacity looked nodes now).2 ≠ some entry.nodeID :=
    fun entry pinned cooling => select_avoids nodes (cools entry pinned cooling)
  unfold selectAndPin
  split
  · rename_i selected result
    rw [result] at map
    refine ⟨by simp, fun entry pinned healthy free warm => absurd warm
      (sticky entry pinned healthy free), fun _ _ _ => ⟨by simp, rfl⟩, fun other apart => ?_,
      fun _ => ?_⟩
    · exact (congrFun map other).trans (others other apart)
    · exact (congrFun map partitionKey).trans kept
  · rename_i selected chosen result
    rw [result] at map selects passed
    refine ⟨?_, fun entry pinned healthy free warm => absurd warm
      (sticky entry pinned healthy free), fun entry pinned cooling =>
      ⟨passed entry pinned cooling, rfl⟩, fun other apart => ?_, by simp⟩
    · intro nodeID same
      cases same
      obtain ⟨listed, free⟩ := selects.free chosen rfl
      exact ⟨listed, by rwa [← slots.free], by simp [setAffinity], rfl⟩
    · simp only [setAffinity, update_of_ne apart]
      exact (congrFun map other).trans (others other apart)

/-- Sticky selection keeps the affinity map truthful; a healthy pinned node with a
free slot is chosen unless it is cooling down, and passed over while it is. -/
theorem sticky_selection_truthful (partitionKey : String)
    (enabled : fleet.config.enableStickiness = true) (keyed : partitionKey ≠ "") :
    Truthful fleet partitionKey nodes now (selectNodeForTask fleet partitionKey nodes now) := by
  simp only [selectNodeForTask, enabled, keyed, Bool.not_true, decide_false, Bool.or_self,
    Bool.false_eq_true, if_false]
  split
  · rename_i unpinned
    exact pin_truthful fleet nodes now false (same_slots_of_table rfl rfl) (fun _ _ => rfl)
      (by simp [unpinned]) (by simp [unpinned]) (fun _ _ => id)
  · rename_i entry pinned
    have map := has_capacity_affinity fleet entry.nodeID now
    obtain ⟨slots, free⟩ := has_capacity_spec fleet entry.nodeID now
    split_ifs with healthy enough
    · refine ⟨?_, ?_, ?_, fun other apart => ?_, by simp⟩
      · intro nodeID same
        cases same
        exact ⟨healthy, free enough, by simp [touchAffinity, map, pinned], rfl⟩
      · intro other same _ _ _
        cases pinned.symm.trans same
        exact ⟨rfl, rfl⟩
      · intro other same cooling
        cases pinned.symm.trans same
        rw [has_capacity_cooldown cooling] at enough
        cases enough
      · simp [touchAffinity, map, pinned, apart]
    · refine pin_truthful fleet nodes now false slots (fun _ _ => by rw [map])
        (by simp [map, pinned, healthy, Option.filter]) (fun other same _ wasFree => ?_)
        fun other same cooling => ?_
      all_goals cases pinned.symm.trans same
      swap
      · rw [has_capacity_cooldown cooling]
        exact cooldown_kept entry.nodeID cooling
      by_contra warm
      have checked := cooldown_same_slots fleet entry.nodeID now
      obtain ⟨_, reserved, bound, reported⟩ :=
        get_or_create_spec (isInDispatchCooldown fleet entry.nodeID now).2 entry.nodeID now
      rw [← checked.free] at wasFree
      rw [Bool.not_eq_true] at warm
      refine enough ?_
      simpa [nodeHasAvailableCapacity, warm, availableCapacity, reserved, bound, reported, freeOn]
        using wasFree
    · refine pin_truthful fleet nodes now true (same_slots_of_table rfl rfl)
        (fun other apart => by simp [deleteAffinity, apart])
        (by simp [deleteAffinity, pinned, healthy, Option.filter]) (fun other same listed => ?_)
        fun _ _ cooling => ?_
      · cases pinned.symm.trans same
        exact absurd listed healthy
      · have table := cooling_iff.mp cooling
        exact cooling_iff.mpr table

/-- Key `k` is pinned to node `a`, which is cooling down until 9. -/
def coolingFleet : Fleet :=
  markDispatchCooldown (setAffinity (newFleet ⟨true, 4, 8, 10, 5, true⟩) "k" "a" 1) "a" 4

/-- A healthy pinned node with free slots is passed over while it cools down. -/
theorem cooling_node_passed_over :
    0 < freeOn coolingFleet "a" ∧
      (coolingFleet.affinityMap "k").map (·.nodeID) = some "a" ∧
      (selectNodeForTask coolingFleet "k" ["a", "b"] 5).2 =
        (⟨"b", false, false, "k"⟩, some "b") := by
  decide

theorem warm_node_chosen :
    Truthful coolingFleet "k" ["a", "b"] 10 (selectNodeForTask coolingFleet "k" ["a", "b"] 10) :=
  sticky_selection_truthful coolingFleet ["a", "b"] 10 "k" rfl (by decide)

end Dagens.Scheduler.AffinitySelection
