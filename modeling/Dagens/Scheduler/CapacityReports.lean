import Dagens.Lib.GuardedRun
import Dagens.Scheduler.NodeCapacity

/-!
# Capacity reports and the freshness of a node's entry

A report overwrites the entry of its node whatever the entry's time is, so the
last to arrive wins. Lookups that create an entry, reservations and releases write
the time of the scheduler into it, which then counts as fresh without a report.
-/

namespace Dagens.Scheduler.CapacityReports

open Lib.GuardedRun Lifecycle NodeCapacity List Function

structure Report where
  inFlight : Int
  maxConcurrency : Int
  reportedAt : Time
  deriving DecidableEq, Repr

/-- Reports of one node in the order of their arrival, each with its time of receipt. -/
def processReports (fleet : Fleet) (nodeID : String) (arrivals : List (Report × Time)) : Fleet :=
  arrivals.foldl (fun fleet arrival => updateNodeCapacityAt fleet nodeID arrival.1.inFlight
    arrival.1.maxConcurrency arrival.1.reportedAt arrival.2) fleet

/-- `ReportedInFlight`, `MaxConcurrency` and `LastUpdated` of a node. -/
def snapshot (fleet : Fleet) (nodeID : String) : Option (Nat × Nat × Time) :=
  (fleet.nodeCapacity nodeID).map fun capacity =>
    (capacity.reportedInFlight, capacity.maxConcurrency, capacity.lastUpdated)

def clamped (config : CapacityConfig) (report : Report) : Nat × Nat × Time :=
  (report.inFlight.toNat,
    min (if report.maxConcurrency ≤ 0 then config.defaultWorkerMaxConcurrency
      else report.maxConcurrency.toNat) config.maxWorkerConcurrencyCap,
    report.reportedAt)

section

variable (fleet : Fleet) (nodeID : String)

theorem process_config (arrivals : List (Report × Time)) :
    (processReports fleet nodeID arrivals).config = fleet.config := by
  induction arrivals generalizing fleet with
  | nil => rfl
  | cons _ _ ih =>
    refine (ih _).trans ?_
    simp only [updateNodeCapacityAt, getOrCreateNodeCapacity]
    cases fleet.nodeCapacity nodeID <;> rfl

theorem process_snapshot (earlier : List (Report × Time)) {last : Report × Time}
    (dated : last.1.reportedAt ≠ 0) :
    snapshot (processReports fleet nodeID (earlier ++ [last])) nodeID =
      some (clamped fleet.config last.1) := by
  rw [← process_config fleet nodeID earlier, processReports, foldl_append]
  simp [snapshot, updateNodeCapacityAt, setCapacity, clamped, dated, processReports]

end

/-- The node ends with the figures of its newest report exactly when the newest
report arrives last. -/
theorem newest_report_kept_iff (fleet : Fleet) (nodeID : String) (arrivals : List (Report × Time))
    (distinct : (arrivals.map (·.1.reportedAt)).Nodup)
    (dated : ∀ arrival ∈ arrivals, arrival.1.reportedAt ≠ 0) :
    (∀ newest ∈ arrivals,
      (∀ arrival ∈ arrivals, arrival.1.reportedAt ≤ newest.1.reportedAt) →
        snapshot (processReports fleet nodeID arrivals) nodeID =
          some (clamped fleet.config newest.1)) ↔
      ∀ last ∈ arrivals.getLast?, ∀ arrival ∈ arrivals,
        arrival.1.reportedAt ≤ last.1.reportedAt := by
  induction arrivals using reverseRecOn with
  | nil => simp
  | append_singleton earlier last =>
    have inside : last ∈ earlier ++ [last] := by simp
    have ends := process_snapshot fleet nodeID earlier (dated last inside)
    rw [ends, getLast?_concat]
    constructor
    · intro kept _ isLast
      cases isLast
      obtain ⟨newest, arrived, greatest⟩ := (earlier ++ [last]).toFinset.exists_max_image
        (·.1.reportedAt) ⟨last, mem_toFinset.mpr inside⟩
      simp only [mem_toFinset] at arrived greatest
      have same := Option.some.inj (kept newest arrived greatest)
      have sameTime : last.1.reportedAt = newest.1.reportedAt := congrArg (·.2.2) same
      rw [sameTime]
      exact greatest
    · intro isGreatest newest arrived greatest
      have sameTime := le_antisymm (isGreatest last rfl newest arrived) (greatest last inside)
      rw [inj_on_of_nodup_map distinct arrived inside sameTime]

def heartbeat (inFlight : Int) (reportedAt : Time) : Report × Time := (⟨inFlight, 4, reportedAt⟩, 9)

def someConfig : CapacityConfig := ⟨true, 4, 8, 10, 5, false⟩

/-- A late report of an older load replaces the newer figures. -/
theorem late_report_wins :
    snapshot (processReports (newFleet someConfig) "n" [heartbeat 3 2, heartbeat 0 1]) "n" =
        some (0, 4, 1) ∧
      clamped someConfig (heartbeat 3 2).1 = (3, 4, 2) := by
  decide

theorem reports_in_order :
    snapshot (processReports (newFleet someConfig) "n" [heartbeat 0 1, heartbeat 3 2]) "n" =
      some (clamped someConfig (heartbeat 3 2).1) :=
  (newest_report_kept_iff (newFleet someConfig) "n" [heartbeat 0 1, heartbeat 3 2]
    (by decide) (by decide)).mpr (by decide) (heartbeat 3 2) (by decide) (by decide)

/-- The table with the times of the reports that have been processed. -/
structure Monitor where
  fleet : Fleet
  processed : List (String × Time)

inductive Operation where
  | report (nodeID : String) (report : Report)
  | select (nodes : List String)
  | look (nodeID : String)
  | reserve (nodeID : String)
  | release (nodeID : String)

def step (monitor : Monitor) : Operation × Time → Option Monitor
  | (.report nodeID report, now) =>
    some ⟨updateNodeCapacityAt monitor.fleet nodeID report.inFlight report.maxConcurrency
        report.reportedAt now,
      (nodeID, if report.reportedAt = 0 then now else report.reportedAt) :: monitor.processed⟩
  | (.select nodes, now) =>
    some { monitor with fleet := (selectNodeByCapacity monitor.fleet nodes now).1 }
  | (.look nodeID, now) =>
    some { monitor with fleet := (nodeHasAvailableCapacity monitor.fleet nodeID now).2 }
  | (.reserve nodeID, now) =>
    some { monitor with fleet := reserveNodeSlot monitor.fleet nodeID now }
  | (.release nodeID, now) =>
    some { monitor with fleet := releaseNodeSlot monitor.fleet nodeID now }

def init (monitor : Monitor) : Prop :=
  monitor.fleet.nodeCapacity = (fun _ => none) ∧ monitor.processed = []

/-- A node that counts as fresh has reported within the time to live. -/
def FreshReported (monitor : Monitor) : Prop :=
  ∀ nodeID capacity now, monitor.fleet.nodeCapacity nodeID = some capacity →
    isCapacityFresh monitor.fleet.config capacity now = true →
    ∃ reportedAt, (nodeID, reportedAt) ∈ monitor.processed ∧
      now ≤ reportedAt + monitor.fleet.config.capacityTTL

/-- Only nodes with an entry are looked at, and slots are taken and given back only
at a node with a report stamped with that time or a later one. -/
def Backed (monitor : Monitor) : Operation × Time → Prop
  | (.report _ _, _) => True
  | (.select nodes, _) => ∀ nodeID ∈ nodes, (monitor.fleet.nodeCapacity nodeID).isSome
  | (.look nodeID, _) => (monitor.fleet.nodeCapacity nodeID).isSome
  | (.reserve nodeID, now) | (.release nodeID, now) =>
    ∃ reportedAt, (nodeID, reportedAt) ∈ monitor.processed ∧ now ≤ reportedAt

/-- Every time in the table is covered by a report. -/
def Covered (monitor : Monitor) : Prop :=
  ∀ nodeID capacity, monitor.fleet.nodeCapacity nodeID = some capacity →
    ∃ reportedAt, (nodeID, reportedAt) ∈ monitor.processed ∧ capacity.lastUpdated ≤ reportedAt

theorem cooldown_keeps_table (fleet : Fleet) (nodeID : String) (now : Time) :
    (isInDispatchCooldown fleet nodeID now).2.nodeCapacity = fleet.nodeCapacity := by
  unfold isInDispatchCooldown
  split
  · rfl
  · split_ifs <;> rfl

variable {nodeID : String} {fleet : Fleet}

section

variable (now : Time) (known : (fleet.nodeCapacity nodeID).isSome)

include now known

theorem known_node_kept : (getOrCreateNodeCapacity fleet nodeID now).2 = fleet := by
  obtain ⟨_, found⟩ := Option.isSome_iff_exists.mp known
  simp [getOrCreateNodeCapacity, found]

theorem look_keeps_table :
    (nodeHasAvailableCapacity fleet nodeID now).2.nodeCapacity = fleet.nodeCapacity := by
  have checked := cooldown_keeps_table fleet nodeID now
  unfold nodeHasAvailableCapacity
  dsimp only
  split_ifs
  · exact checked
  · rw [known_node_kept now (by rwa [checked]), checked]

end

variable {nodes : List String}

theorem scan_keeps_table {scan : Scan} (now : Time)
    (known : ∀ nodeID ∈ nodes, (scan.fleet.nodeCapacity nodeID).isSome) :
    (nodes.foldl (scanNode now) scan).fleet.nodeCapacity = scan.fleet.nodeCapacity := by
  induction nodes generalizing scan with
  | nil => rfl
  | cons first _ ih =>
    obtain ⟨_, _⟩ := forall_mem_cons.mp known
    have checked := cooldown_keeps_table scan.fleet first now
    have kept : (scanNode now scan first).fleet.nodeCapacity = scan.fleet.nodeCapacity := by
      unfold scanNode
      dsimp only
      split_ifs
      · exact checked
      · rw [known_node_kept now (by rwa [checked]), checked]
      · rw [known_node_kept now (by rwa [checked]), checked]
    rw [foldl_cons, ih (by rwa [kept]), kept]

theorem select_keeps_table (now : Time)
    (known : ∀ nodeID ∈ nodes, (fleet.nodeCapacity nodeID).isSome) :
    (selectNodeByCapacity fleet nodes now).1.nodeCapacity = fleet.nodeCapacity := by
  have scanned : (scanNodes fleet nodes now).fleet.nodeCapacity = fleet.nodeCapacity :=
    scan_keeps_table now known
  unfold selectNodeByCapacity
  split
  · exact look_keeps_table now (known _ (by simp))
  · rw [← scanned]
    unfold selectScanned
    split_ifs <;> rfl

variable {monitor : Monitor}

theorem covered_set {capacity : NodeCapacity}
    {processed : List (String × Time)} (covered : Covered monitor)
    (grown : monitor.processed ⊆ processed)
    (table : fleet.nodeCapacity = update monitor.fleet.nodeCapacity nodeID (some capacity))
    (backed : ∃ reportedAt, (nodeID, reportedAt) ∈ processed ∧
      capacity.lastUpdated ≤ reportedAt) : Covered ⟨fleet, processed⟩ := by
  intro other held found
  rw [table, update_apply] at found
  split_ifs at found with same
  · cases found
    rw [same]
    exact backed
  · obtain ⟨reportedAt, member, later⟩ := covered other held found
    exact ⟨reportedAt, grown member, later⟩

theorem set_created (fleet : Fleet) (nodeID : String) (now : Time) (capacity : NodeCapacity) :
    (setCapacity (getOrCreateNodeCapacity fleet nodeID now).2 nodeID capacity).nodeCapacity =
      update fleet.nodeCapacity nodeID (some capacity) := by
  unfold getOrCreateNodeCapacity
  cases fleet.nodeCapacity nodeID <;> simp [setCapacity]

theorem covered_step {after : Monitor} {operation : Operation × Time}
    (covered : Covered monitor) (allowed : Backed monitor operation)
    (taken : step monitor operation = some after) : Covered after := by
  obtain ⟨operation, now⟩ := operation
  cases operation with
  | report =>
    cases taken
    exact covered_set covered (subset_cons_self _ _) (set_created ..)
      ⟨_, mem_cons_self, Nat.le_refl _⟩
  | select =>
    cases taken
    intro nodeID capacity found
    rw [select_keeps_table now allowed] at found
    exact covered nodeID capacity found
  | look =>
    cases taken
    intro other capacity found
    rw [look_keeps_table now allowed] at found
    exact covered other capacity found
  | reserve | release =>
    cases taken
    exact covered_set covered (List.Subset.refl _) (set_created ..) allowed

/-- In a run whose operations meet the condition a fresh node has reported. -/
theorem fresh_nodes_reported (monitor : Monitor) (reached : Reaches step Backed init monitor) :
    FreshReported monitor := by
  have covered : Covered monitor := by
    refine reaches_invariant ?_ ?_ reached
    · intro state ⟨empty, _⟩ nodeID capacity found
      rw [empty] at found
      cases found
    · intro state _ _ covered allowed taken
      exact covered_step covered allowed taken
  intro nodeID capacity _ found fresh
  obtain ⟨reportedAt, member, later⟩ := covered nodeID capacity found
  simp only [isCapacityFresh, Bool.and_eq_true, decide_eq_true_eq] at fresh
  exact ⟨reportedAt, member, fresh.2.trans (Nat.add_le_add_right later _)⟩

def emptyMonitor : Monitor := ⟨newFleet someConfig, []⟩

theorem empty_monitor_init : init emptyMonitor :=
  ⟨rfl, rfl⟩

/-- Looking at an unknown node makes it fresh. -/
theorem unknown_node_fresh :
    ∃ monitor, Reaches step (fun _ _ => True) init monitor ∧
      run step emptyMonitor [(.look "n", 5)] = some monitor ∧ ¬ FreshReported monitor := by
  refine ⟨_, reaches_of_run (.start empty_monitor_init) [(.look "n", 5)]
    (allowed_of_always (fun _ _ => trivial) _ _) rfl, rfl, ?_⟩
  intro reported
  obtain ⟨_, member, _⟩ := reported "n" ⟨0, 0, 4, 5⟩ 5 rfl rfl
  cases member

/-- A node reports, is selected and has a slot reserved. -/
def reservedRun : List (Operation × Time) :=
  [(.report "n" ⟨1, 4, 6⟩, 6), (.select ["n"], 6), (.reserve "n", 6)]

theorem reserved_node_reported :
    ∃ monitor, run step emptyMonitor reservedRun = some monitor ∧ FreshReported monitor := by
  have allowed : Allowed step Backed emptyMonitor reservedRun := by
    refine ⟨trivial, ?_, ?_, trivial⟩
    · intro nodeID member
      rw [mem_singleton.mp member]
      rfl
    · exact ⟨6, by decide, le_rfl⟩
  refine ⟨_, rfl, fresh_nodes_reported _ ?_⟩
  exact reaches_of_run (.start empty_monitor_init) _ allowed rfl

end Dagens.Scheduler.CapacityReports
