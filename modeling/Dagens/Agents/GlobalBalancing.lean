import Mathlib

/-!
# Round robin across local agents and remote nodes

`executeGlobal` advances the counter of the embedded `LoadBalancerAgent` to choose between a
local and a remote execution; a local execution advances it again to choose the agent.
-/

namespace Dagens.Agents.GlobalBalancing

open List Nat

/-- `healthy` has one entry per local agent, `nodes` the ids of the registry's healthy nodes. -/
structure Balancer where
  healthy : List Bool
  nodes : List String
  localNodeID : String

/-- The counters count calls and stay far below the bound of `int64`. -/
structure Counters where
  counter : Nat := 0
  remoteCounter : Nat := 0

inductive Placement where
  | onAgent (index : Nat)
  | onNode (id : String)
  | failed (message : String)
  deriving DecidableEq

def Placement.isLocal : Placement → Bool
  | .onAgent _ => true
  | _ => false

def Placement.isRemote : Placement → Bool
  | .onNode _ => true
  | _ => false

namespace Balancer

variable (balancer : Balancer)

/-- The agents `selectAgent` chooses from: the healthy ones, or all if none is. -/
def healthyIndices : List Nat :=
  let all := List.range balancer.healthy.length
  let healthy := all.filter fun index => balancer.healthy.getD index false
  if healthy.isEmpty then all else healthy

/-- `LoadBalancerAgent.Execute` under `RoundRobin`. -/
def executeLocal (counters : Counters) : Placement × Counters :=
  if balancer.healthy.isEmpty then (.failed "no agents configured", counters)
  else
    let counter := counters.counter + 1
    let indices := balancer.healthyIndices
    (.onAgent (indices.getD ((counter - 1) % indices.length) 0), { counters with counter })

def remoteNodes : List String :=
  balancer.nodes.filter (· != balancer.localNodeID)

def executeOnRemoteNode (counters : Counters) : Placement × Counters :=
  if balancer.remoteNodes.isEmpty then balancer.executeLocal counters
  else
    let remoteCounter := counters.remoteCounter + 1
    let nodeIndex := remoteCounter % balancer.remoteNodes.length
    (.onNode (balancer.remoteNodes.getD nodeIndex ""), { counters with remoteCounter })

def totalCapacity : Nat :=
  balancer.healthy.length + balancer.remoteNodes.length

def executeGlobal (counters : Counters) : Placement × Counters :=
  if balancer.totalCapacity = 0 then balancer.executeLocal counters
  else
    let totalIndex := counters.counter + 1
    let counters := { counters with counter := totalIndex }
    if totalIndex % balancer.totalCapacity < balancer.healthy.length then
      balancer.executeLocal counters
    else balancer.executeOnRemoteNode counters

/-- The counters before call number `call`, in a run from a fresh agent. -/
def countersAt : Nat → Counters
  | 0 => {}
  | call + 1 => (balancer.executeGlobal (countersAt call)).2

def placement (call : Nat) : Placement :=
  (balancer.executeGlobal (balancer.countersAt call)).1

/-- Every window of `totalCapacity` calls has one local call per local agent. -/
def WindowsFair : Prop :=
  ∀ start,
    let window := (List.range' start balancer.totalCapacity).map balancer.placement
    window.countP Placement.isLocal = balancer.healthy.length ∧
      window.countP Placement.isRemote = balancer.remoteNodes.length

/-- Of two local calls with only remote calls between them, the later one has the next agent. -/
def AgentsInTurn : Prop :=
  ∀ first second index next, first < second →
    balancer.placement first = .onAgent index → balancer.placement second = .onAgent next →
    (∀ between, first < between → between < second →
      (balancer.placement between).isRemote = true) →
    next = (index + 1) % balancer.healthy.length

/-- The value the choice between local and remote is made on. -/
def totalIndex (call : Nat) : Nat :=
  (balancer.countersAt call).counter + 1

def IsLocalCall (call : Nat) : Prop :=
  balancer.totalIndex call % balancer.totalCapacity < balancer.healthy.length

variable {balancer}

section Calls

variable (someLocal : 0 < balancer.healthy.length) (someRemote : 0 < balancer.remoteNodes.length)
include someLocal someRemote

theorem call_spec (call : Nat) :
    ((balancer.placement call).isLocal = true ↔ balancer.IsLocalCall call) ∧
      balancer.totalIndex (call + 1) = balancer.totalIndex call + 1 +
        if (balancer.placement call).isLocal then 1 else 0 := by
  have agents : balancer.healthy.isEmpty = false := by
    simpa [isEmpty_eq_false_iff] using ne_nil_of_length_pos someLocal
  have remotes : balancer.remoteNodes.isEmpty = false := by
    simpa [isEmpty_eq_false_iff] using ne_nil_of_length_pos someRemote
  have capacity : balancer.totalCapacity ≠ 0 := by
    unfold totalCapacity
    omega
  simp only [totalIndex, countersAt, placement, executeGlobal, capacity, if_false, IsLocalCall]
  split
  · simp [executeLocal, Placement.isLocal, *]
  · simp [executeOnRemoteNode, Placement.isLocal, *]

/-- Every call advances the shared counter by one, and every local call by one more. -/
theorem total_index_advance (start length : Nat) :
    balancer.totalIndex (start + length) = balancer.totalIndex start + length +
      ((range' start length).map balancer.placement).countP Placement.isLocal := by
  induction length with
  | zero => simp
  | succ length ih =>
    rw [← add_assoc, (call_spec someLocal someRemote _).2, ih, range'_concat]
    simp only [one_mul, map_append, countP_append, map_cons, map_nil,
      countP_singleton]
    omega

variable (fair : balancer.WindowsFair)
include fair

/-- Two windows that differ in their ends only agree on their ends. -/
theorem local_call_repeats (call : Nat) :
    balancer.IsLocalCall (call + balancer.totalCapacity) ↔ balancer.IsLocalCall call := by
  rw [← (call_spec someLocal someRemote _).1, ← (call_spec someLocal someRemote _).1]
  have here := total_index_advance someLocal someRemote call balancer.totalCapacity
  have next := total_index_advance someLocal someRemote (call + 1) balancer.totalCapacity
  rw [(fair call).1] at here
  rw [(fair (call + 1)).1, add_right_comm] at next
  have last := (call_spec someLocal someRemote (call + balancer.totalCapacity)).2
  have first := (call_spec someLocal someRemote call).2
  rw [Bool.eq_iff_iff.symm]
  grind

/-- A window moves the residue of a local call down by the number of remote nodes, so a local
call of least residue is followed by a remote one. -/
theorem no_local_call (residue call : Nat) (isLocal : balancer.IsLocalCall call)
    (at_residue : balancer.totalIndex call % balancer.totalCapacity = residue) : False := by
  induction residue using Nat.strong_induction_on generalizing call with
  | _ residue ih =>
    have repeats := (local_call_repeats someLocal someRemote fair call).mpr isLocal
    have advanced := total_index_advance someLocal someRemote call balancer.totalCapacity
    rw [(fair call).1] at advanced
    have shifted : balancer.totalIndex (call + balancer.totalCapacity) % balancer.totalCapacity =
        (residue + balancer.healthy.length) % balancer.totalCapacity := by
      rw [advanced, add_right_comm, add_mod_right, add_mod, at_residue]
      simp
    have below : residue < balancer.healthy.length := at_residue ▸ isLocal
    have capacity : balancer.totalCapacity =
        balancer.healthy.length + balancer.remoteNodes.length := rfl
    have wrapped : balancer.totalCapacity ≤ residue + balancer.healthy.length := by
      by_contra short
      have still := repeats
      rw [IsLocalCall, shifted, mod_eq_of_lt (by omega)] at still
      omega
    refine ih (residue - balancer.remoteNodes.length) (by omega) _ repeats ?_
    rw [shifted, mod_eq_sub_mod wrapped, mod_eq_of_lt (by omega)]
    omega

theorem windows_unfair : False := by
  have some_local : 0 < ((range' 0 balancer.totalCapacity).map
      balancer.placement).countP Placement.isLocal := by
    rw [(fair 0).1]
    exact someLocal
  obtain ⟨_, member, isLocal⟩ := countP_pos_iff.mp some_local
  obtain ⟨call, _, rfl⟩ := mem_map.mp member
  exact no_local_call someLocal someRemote fair _ call
    ((call_spec someLocal someRemote call).1.mp isLocal) rfl

end Calls

theorem never_globally_fair (balancer : Balancer) (someLocal : 1 ≤ balancer.healthy.length)
    (someRemote : 1 ≤ balancer.remoteNodes.length) :
    ¬ (balancer.WindowsFair ∧ balancer.AgentsInTurn) := by
  intro both
  exact windows_unfair someLocal someRemote both.1

/-- One local agent and one remote node. -/
def pair : Balancer := ⟨[true], ["a", "b"], "a"⟩

theorem pair_not_fair : ¬ (pair.WindowsFair ∧ pair.AgentsInTurn) :=
  never_globally_fair pair (by decide) (by decide)

/-- After its first call the pair never uses the remote node again, and with three agents the
second local call goes to the agent of the first. -/
theorem calls_out_of_turn :
    (List.range 5).map pair.placement =
      [.onNode "b", .onAgent 0, .onAgent 0, .onAgent 0, .onAgent 0] ∧
    (List.range 3).map (Balancer.placement ⟨[true, true, true], ["b"], "a"⟩) =
      [.onAgent 1, .onNode "b", .onAgent 1] ∧
    ¬ pair.WindowsFair := by
  refine ⟨by decide, by decide, fun fair => ?_⟩
  have window := (fair 1).1
  revert window
  decide

end Balancer

end Dagens.Agents.GlobalBalancing
