import Dagens.Lib.GuardedRun
import Dagens.Lib.Replica
import Dagens.Lib.RevisionStore

/-!
# The registry's cache of the nodes

`Start` puts the node's own entry, caches it, reads the entries that exist and leaves
the rest to a goroutine with a watch. The watch has no starting revision: it delivers
what happens after its creation. When it reports an error the loop goes back to the
same channel, which etcd's client has closed.
-/

namespace Dagens.Registry.NodeCache

open Lib Replica RevisionStore Function

set_option linter.dupNamespace false

/-- `json.Marshal` and `json.Unmarshal` of a node. `Info` is what JSON carries of it:
nodes that marshal alike, such as times that differ in their monotonic reading only,
are one. -/
structure NodeCodec (Info : Type) where
  marshal : Info → String
  unmarshal : String → Option Info
  back : ∀ info, unmarshal (marshal info) = some info

/-- `lost`: the watch has reported an error. `failed`: `Start` has returned one. -/
inductive Stage where
  | registering
  | caching
  | syncing
  | started
  | watching (undelivered : List (Change String String))
  | lost
  | failed
  deriving DecidableEq, Repr

/-- `store` is the part of etcd under the node prefix. -/
structure Registry (Info : Type) where
  keyPrefix : String
  nodeID : String
  nodeInfo : Info
  store : Store String String
  nodes : String → Option Info
  stage : Stage

inductive Answer where
  | ok
  | fault (applied : Bool)
  deriving DecidableEq, Repr

/-- `put` and `delete` are other nodes' writes; `proceed` is the next step of `Start`
or the creation of the watch. -/
inductive Action (Info : Type) where
  | put (nodeID : String) (info : Info)
  | delete (nodeID : String)
  | proceed (answer : Answer)
  | deliver
  | watchError

variable {Info : Type}

def nodePrefix (registry : Registry Info) : String := registry.keyPrefix ++ "/nodes/"

def nodeKey (registry : Registry Info) (nodeID : String) : String :=
  nodePrefix registry ++ nodeID

def extractNodeIDFromKey (registry : Registry Info) (key : String) : String :=
  let start := (nodePrefix registry).toList
  if start <+: key.toList ∧ start.length < key.toList.length then
    let remainder := key.toList.drop start.length
    if '/' ∈ remainder then "" else String.ofList remainder
  else ""

section Steps

variable (codec : NodeCodec Info) (registry : Registry Info)

/-- One entry of the answer to the initial read. -/
def syncNode (nodes : String → Option Info) (kv : KeyValue String String) :
    String → Option Info :=
  let nodeID := extractNodeIDFromKey registry kv.key
  if nodeID = "" then nodes
  else match codec.unmarshal kv.value with
    | none => nodes
    | some info => update nodes nodeID (some info)

def syncExistingNodes : String → Option Info :=
  registry.store.kvs.foldl (syncNode codec registry) registry.nodes

def handleNodeEvent (event : Change String String) : String → Option Info :=
  let nodeID := extractNodeIDFromKey registry event.key
  if nodeID = "" then registry.nodes
  else match event.value with
    | some value => match codec.unmarshal value with
      | none => registry.nodes
      | some info => update registry.nodes nodeID (some info)
    | none =>
      if (registry.nodes nodeID).isSome then update registry.nodes nodeID none
      else registry.nodes

/-- A write to etcd with its event. -/
def change (store : Store String String) (event : Change String String) : Registry Info :=
  { registry with
    store := store
    stage := match registry.stage with
      | .watching undelivered => .watching (undelivered ++ [event])
      | stage => stage }

def proceed (answer : Answer) : Option (Registry Info) :=
  match registry.stage, answer with
  | .registering, answer =>
    let store := registry.store.put (nodeKey registry registry.nodeID)
      (codec.marshal registry.nodeInfo)
    match answer with
    | .ok => some { registry with store := store, stage := .caching }
    | .fault applied => some { registry with
        store := if applied then store else registry.store, stage := .failed }
  | .caching, _ => some { registry with
      nodes := update registry.nodes registry.nodeID (some registry.nodeInfo)
      stage := .syncing }
  | .syncing, .ok => some { registry with
      nodes := syncExistingNodes codec registry, stage := .started }
  | .syncing, .fault _ => some { registry with stage := .failed }
  | .started, _ => some { registry with stage := .watching [] }
  | _, _ => none

def registryStep : Action Info → Option (Registry Info)
  | .put nodeID info =>
    let key := nodeKey registry nodeID
    some (change registry (registry.store.put key (codec.marshal info))
      ⟨key, some (codec.marshal info)⟩)
  | .delete nodeID =>
    let key := nodeKey registry nodeID
    if key ∈ registry.store.keys then
      some (change registry (registry.store.delete fun other => decide (other = key))
        ⟨key, none⟩)
    else some registry
  | .proceed answer => proceed codec registry answer
  | .deliver =>
    match registry.stage with
    | .watching (event :: rest) => some { registry with
        nodes := handleNodeEvent codec registry event, stage := .watching rest }
    | _ => none
  | .watchError =>
    match registry.stage with
    | .watching _ => some { registry with stage := .lost }
    | _ => none

/-- The entries of the cache, as keys and values of etcd. -/
def entries : Set (String × String) :=
  { entry | ∃ nodeID info, registry.nodes nodeID = some info ∧
    entry = (nodeKey registry nodeID, codec.marshal info) }

end Steps

def stored (registry : Registry Info) : Set (String × String) :=
  { entry | ∃ kv ∈ registry.store.kvs, entry = (kv.key, kv.value) }

/-- `Start` has returned and every event that will be delivered has been processed. -/
def settled (registry : Registry Info) : Bool :=
  match registry.stage with
  | .watching [] | .lost => true
  | _ => false

/-- Without a slash, and not empty. -/
def ValidID (nodeID : String) : Prop := '/' ∉ nodeID.toList ∧ nodeID ≠ ""

theorem extract_node_key (registry : Registry Info) {nodeID : String} (valid : ValidID nodeID) :
    extractNodeIDFromKey registry (nodeKey registry nodeID) = nodeID := by
  obtain ⟨noSlash, nonempty⟩ := valid
  have longer : 0 < nodeID.toList.length := by
    rw [List.length_pos_iff]
    intro empty
    exact nonempty (String.toList_eq_nil_iff.mp empty)
  simp [extractNodeIDFromKey, nodeKey, String.toList_append, noSlash, longer]

theorem node_key_inj (registry : Registry Info) {one two : String}
    (same : nodeKey registry one = nodeKey registry two) : one = two := by
  have lists := congrArg String.toList same
  simp only [nodeKey, String.toList_append, List.append_cancel_left_eq] at lists
  exact String.toList_injective lists

end Dagens.Registry.NodeCache
