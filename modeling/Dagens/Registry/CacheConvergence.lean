import Dagens.Registry.NodeCache

/-!
# Convergence of the node cache

While the watch lives the cache lacks only what the watch has not delivered. The
initial read and the watch are two operations, and nothing reads etcd again after a
watch error: what changes between the two, or after the error, never reaches the
cache.
-/

namespace Dagens.Registry.CacheConvergence

open Lib GuardedRun Replica RevisionStore NodeCache List Function Option Store

variable {Info : Type}

def noSlash : Action Info → Prop
  | .put nodeID _ => '/' ∉ nodeID.toList
  | _ => True

/-- No entry changes between the initial read and the creation of the watch or after a
watch error, the node's own entry is not deleted before the initial read, the watch
does not fail with events to deliver, and no id is empty. -/
def undisturbed (registry : Registry Info) : Action Info → Prop
  | .put nodeID _ => nodeID ≠ "" ∧ registry.stage ≠ .started ∧ registry.stage ≠ .lost
  | .delete nodeID => nodeKey registry nodeID ∈ registry.store.keys →
      registry.stage ≠ .started ∧ registry.stage ≠ .lost ∧
        (registry.stage = .caching ∨ registry.stage = .syncing → nodeID ≠ registry.nodeID)
  | .proceed _ => registry.nodeID ≠ ""
  | .deliver => True
  | .watchError => registry.stage = .watching []

instance decidableNoSlash : (action : Action Info) → Decidable (noSlash action)
  | .put nodeID _ => inferInstanceAs (Decidable ('/' ∉ nodeID.toList))
  | .delete _ | .proceed _ | .deliver | .watchError => inferInstanceAs (Decidable True)

instance decidableUndisturbed (registry : Registry Info) :
    (action : Action Info) → Decidable (undisturbed registry action)
  | .put nodeID _ => inferInstanceAs (Decidable (nodeID ≠ "" ∧ _ ∧ _))
  | .delete nodeID => inferInstanceAs (Decidable (nodeKey registry nodeID ∈ _ → _ ∧ _ ∧ _))
  | .proceed _ => inferInstanceAs (Decidable (registry.nodeID ≠ ""))
  | .deliver => inferInstanceAs (Decidable True)
  | .watchError => inferInstanceAs (Decidable (registry.stage = .watching []))

/-- The nodes that etcd holds. -/
def content (codec : NodeCodec Info) (registry : Registry Info) (nodeID : String) :
    Option Info :=
  (registry.store.get (nodeKey registry nodeID)).bind codec.unmarshal

/-- The event of a change of a node. -/
def encode (codec : NodeCodec Info) (registry : Registry Info) (change : Change String Info) :
    Change String String :=
  ⟨nodeKey registry change.key, change.value.map codec.marshal⟩

/-- Every entry under the prefix is a node with a valid id. -/
def ValidEntries (codec : NodeCodec Info) (registry : Registry Info) : Prop :=
  ∀ kv ∈ registry.store.kvs, ∃ nodeID info, ValidID nodeID ∧
    kv.key = nodeKey registry nodeID ∧ kv.value = codec.marshal info

def Cached (codec : NodeCodec Info) (registry : Registry Info) : Prop :=
  match registry.stage with
  | .registering => ∀ nodeID, registry.nodes nodeID = none
  | .caching => (∀ nodeID, registry.nodes nodeID = none) ∧
      nodeKey registry registry.nodeID ∈ registry.store.keys
  | .syncing => (∀ nodeID, registry.nodes nodeID ≠ none → nodeID = registry.nodeID) ∧
      nodeKey registry registry.nodeID ∈ registry.store.keys
  | .started | .lost => registry.nodes = content codec registry
  | .watching undelivered => ∃ changes : List (Change String Info),
      undelivered = changes.map (encode codec registry) ∧
        (∀ change ∈ changes, ValidID change.key) ∧
        InStep (content codec registry) registry.nodes changes
  | .failed => True

structure Tracking (codec : NodeCodec Info) (registry : Registry Info) : Prop where
  own : '/' ∉ registry.nodeID.toList
  valid : ValidEntries codec registry
  cached : Cached codec registry

/-- A registry before `Start`, over an etcd with valid nodes. -/
structure Fresh (codec : NodeCodec Info) (registry : Registry Info) : Prop where
  own : '/' ∉ registry.nodeID.toList
  valid : ValidEntries codec registry
  empty : ∀ nodeID, registry.nodes nodeID = none
  unstarted : registry.stage = .registering

theorem tracking_fresh {codec : NodeCodec Info} {registry : Registry Info}
    (fresh : Fresh codec registry) : Tracking codec registry := by
  refine ⟨fresh.own, fresh.valid, ?_⟩
  simp only [Cached, fresh.unstarted]
  exact fresh.empty

section Content

variable {codec : NodeCodec Info} {registry : Registry Info}

theorem valid_put (valid : ValidEntries codec registry) {nodeID : String}
    (isValid : ValidID nodeID) (info : Info) (stage : Stage) :
    ValidEntries codec { registry with
      store := registry.store.put (nodeKey registry nodeID) (codec.marshal info)
      stage := stage } := by
  intro kv member
  have got : (registry.store.put (nodeKey registry nodeID) (codec.marshal info)).get kv.key =
      some kv.value := get_eq_some_iff.mpr ⟨kv, member, rfl, rfl⟩
  rw [get_put] at got
  split_ifs at got with isKey
  · exact ⟨nodeID, info, isValid, isKey, (Option.some.inj got).symm⟩
  · obtain ⟨old, oldMember, sameKey, sameValue⟩ := get_eq_some_iff.mp got
    rw [← sameKey, ← sameValue]
    exact valid old oldMember

theorem content_put (nodeID : String) (info : Info) (stage : Stage) :
    content codec { registry with
      store := registry.store.put (nodeKey registry nodeID) (codec.marshal info)
      stage := stage } = (Change.mk nodeID (some info)).apply (content codec registry) := by
  funext other
  have keys : nodeKey registry other = nodeKey registry nodeID ↔ other = nodeID :=
    ⟨node_key_inj registry, congrArg _⟩
  show ((registry.store.put (nodeKey registry nodeID) (codec.marshal info)).get
    (nodeKey registry other)).bind codec.unmarshal = _
  rw [get_put, Change.apply, update_apply]
  simp only [keys]
  split_ifs with same
  · exact codec.back info
  · rfl

theorem content_delete (nodeID : String) (stage : Stage) :
    content codec { registry with
      store := registry.store.delete fun other => decide (other = nodeKey registry nodeID)
      stage := stage } = (Change.mk nodeID none).apply (content codec registry) := by
  funext other
  have keys : nodeKey registry other = nodeKey registry nodeID ↔ other = nodeID :=
    ⟨node_key_inj registry, congrArg _⟩
  show ((registry.store.delete fun key => decide (key = nodeKey registry nodeID)).get
    (nodeKey registry other)).bind codec.unmarshal = _
  rw [get_delete, Change.apply, update_apply]
  simp only [keys, decide_eq_true_eq]
  split_ifs <;> rfl

theorem handle_encoded (change : Change String Info) (isValid : ValidID change.key) :
    handleNodeEvent codec registry (encode codec registry change) =
      change.apply registry.nodes := by
  obtain ⟨nodeID, value⟩ := change
  have known : nodeID ≠ "" := isValid.2
  simp only [handleNodeEvent, encode, extract_node_key registry isValid, if_neg known]
  cases value with
  | some => simp [codec.back, Change.apply]
  | none =>
    simp only [map_none, Change.apply]
    split_ifs with held
    · rfl
    · funext other
      rw [update_apply]
      split_ifs with same
      · rw [same]
        exact not_isSome_iff_eq_none.mp held
      · rfl

theorem sync_fold (kvs : List (KeyValue String String)) (distinct : (kvs.map (·.key)).Nodup)
    (valid : ∀ kv ∈ kvs, ∃ nodeID info, ValidID nodeID ∧
      kv.key = nodeKey registry nodeID ∧ kv.value = codec.marshal info)
    (nodes : String → Option Info) (nodeID : String) :
    kvs.foldl (syncNode codec registry) nodes nodeID =
      match kvs.find? fun kv => decide (kv.key = nodeKey registry nodeID) with
      | some kv => codec.unmarshal kv.value
      | none => nodes nodeID := by
  induction kvs generalizing nodes with
  | nil => rfl
  | cons kv rest ih =>
    obtain ⟨fresh, restDistinct⟩ := nodup_cons.mp distinct
    obtain ⟨its, info, isValid, isKey, isValue⟩ := valid kv mem_cons_self
    have synced : syncNode codec registry nodes kv = update nodes its (some info) := by
      simp [syncNode, isKey, isValue, extract_node_key registry isValid, isValid.2, codec.back]
    rw [foldl_cons, ih restDistinct
      (fun other member => valid other (mem_cons_of_mem _ member)), synced]
    by_cases same : nodeID = its
    · subst same
      -- no later entry has the key again
      have absent : rest.find? (fun other => decide (other.key = nodeKey registry nodeID)) =
          none := by
        rw [find?_eq_none]
        intro other member isSame
        rw [← isKey, decide_eq_true_eq] at isSame
        exact fresh (List.mem_map.mpr ⟨other, member, isSame⟩)
      rw [absent, find?_cons_of_pos (by simp [isKey])]
      simp [isValue, codec.back]
    · have other : kv.key ≠ nodeKey registry nodeID := by
        rw [isKey]
        exact fun equal => same (node_key_inj registry equal).symm
      rw [find?_cons_of_neg (by simp [other]), update_of_ne same]

theorem sync_content (valid : ValidEntries codec registry)
    (cached : ∀ nodeID, registry.nodes nodeID ≠ none → nodeID = registry.nodeID)
    (own : nodeKey registry registry.nodeID ∈ registry.store.keys) :
    syncExistingNodes codec registry = content codec registry := by
  funext nodeID
  rw [syncExistingNodes, sync_fold registry.store.kvs registry.store.nodup_keys valid, content,
    Store.get]
  cases found : registry.store.kvs.find? fun kv => decide (kv.key = nodeKey registry nodeID) with
  | some => rfl
  | none =>
    show registry.nodes nodeID = none
    by_contra held
    obtain ⟨kv, member, isKey⟩ := List.mem_map.mp own
    rw [cached nodeID held] at found
    simpa [isKey] using find?_eq_none.mp found kv member

end Content

section Steps

variable {codec : NodeCodec Info} {registry after : Registry Info}

theorem cached_change (cached : Cached codec registry) (unread : registry.stage ≠ .started)
    (alive : registry.stage ≠ .lost) {store : Store String String}
    (changed : Change String Info) (isValid : ValidID changed.key)
    (own : registry.stage = .caching ∨ registry.stage = .syncing →
      nodeKey registry registry.nodeID ∈ registry.store.keys →
      nodeKey registry registry.nodeID ∈ store.keys)
    (contents : ∀ stage, content codec { registry with store := store, stage := stage } =
      changed.apply (content codec registry)) :
    Cached codec (change registry store (encode codec registry changed)) := by
  cases was : registry.stage with
    simp only [Cached, change, was] at cached ⊢
  | registering =>
    exact cached
  | caching =>
    exact ⟨cached.1, own (.inl was) cached.2⟩
  | syncing =>
    exact ⟨cached.1, own (.inr was) cached.2⟩
  | started => exact absurd was unread
  | watching =>
    obtain ⟨changes, queued, allValid, inStep⟩ := cached
    refine ⟨changes ++ [changed], ?_, ?_, ?_⟩
    · rw [queued, map_append]
      rfl
    · intro one member
      rcases List.mem_append.mp member with old | new
      · exact allValid one old
      · rw [mem_singleton.mp new]
        exact isValid
    · rw [contents]
      exact in_step_change inStep changed
  | lost => exact absurd was alive

variable {nodeID : String}

section

variable (tracking : Tracking codec registry)

include tracking

theorem tracking_delete (known : nodeKey registry nodeID ∈ registry.store.keys)
    (calm : undisturbed registry (.delete nodeID)) :
    Tracking codec (change registry
      (registry.store.delete fun other => decide (other = nodeKey registry nodeID))
      ⟨nodeKey registry nodeID, none⟩) := by
  obtain ⟨unread, alive, others⟩ := calm known
  have isValid : ValidID nodeID := by
    obtain ⟨kv, member, isKey⟩ := List.mem_map.mp known
    obtain ⟨_, _, valid, sameKey, _⟩ := tracking.valid kv member
    rw [node_key_inj registry (isKey.symm.trans sameKey)]
    exact valid
  refine ⟨tracking.own, ?_, ?_⟩
  · exact fun kv member => tracking.valid kv (mem_of_mem_filter member)
  · refine cached_change tracking.cached unread alive ⟨nodeID, none⟩ isValid ?_
      (content_delete nodeID)
    intro early own
    have different : nodeKey registry registry.nodeID ≠ nodeKey registry nodeID :=
      fun same => others early (node_key_inj registry same).symm
    simp [own, different]

theorem tracking_proceed {answer : Answer} (named : registry.nodeID ≠ "")
    (taken : proceed codec registry answer = some after) :
    Tracking codec after := by
  have isValid : ValidID registry.nodeID := ⟨tracking.own, named⟩
  have cached := tracking.cached
  cases was : registry.stage with
  | registering =>
    simp only [Cached, proceed, was] at cached taken
    cases answer with
    | ok =>
      cases taken
      refine ⟨tracking.own, valid_put tracking.valid isValid _ _, cached, ?_⟩
      exact (mem_keys_put ..).mpr (.inl rfl)
    | fault applied =>
      cases taken
      cases applied with
      | true => exact ⟨tracking.own, valid_put tracking.valid isValid _ _, trivial⟩
      | false => exact ⟨tracking.own, tracking.valid, trivial⟩
  | caching =>
    simp only [Cached, proceed, was] at cached taken
    cases taken
    refine ⟨tracking.own, tracking.valid, ?_, cached.2⟩
    intro nodeID held
    by_contra different
    simp [update_of_ne different, cached.1] at held
  | syncing =>
    simp only [Cached, was] at cached
    cases answer with
    | ok =>
      simp only [proceed, was] at taken
      cases taken
      exact ⟨tracking.own, tracking.valid, sync_content tracking.valid cached.1 cached.2⟩
    | fault =>
      simp only [proceed, was] at taken
      cases taken
      exact ⟨tracking.own, tracking.valid, trivial⟩
  | started =>
    simp only [Cached, proceed, was] at cached taken
    cases taken
    exact ⟨tracking.own, tracking.valid, [], rfl, by simp, in_step_settled.mpr cached⟩
  | watching | lost | failed => simp [proceed, was] at taken

end

theorem tracking_step {action : Action Info} (tracking : Tracking codec registry)
    (slashless : noSlash action) (calm : undisturbed registry action)
    (taken : registryStep codec registry action = some after) : Tracking codec after := by
  cases action with
  | put =>
    cases taken
    obtain ⟨nonempty, unread, alive⟩ := calm
    refine ⟨tracking.own, valid_put tracking.valid ⟨slashless, nonempty⟩ _ _, ?_⟩
    refine cached_change tracking.cached unread alive ⟨_, some _⟩ ⟨slashless, nonempty⟩ ?_
      (content_put _ _)
    exact fun _ known => (mem_keys_put ..).mpr (.inr known)
  | delete =>
    simp only [registryStep] at taken
    split_ifs at taken with known
    · cases taken
      exact tracking_delete tracking known calm
    · cases taken
      exact tracking
  | proceed => exact tracking_proceed tracking calm taken
  | deliver =>
    have cached := tracking.cached
    match was : registry.stage with
    | .watching (event :: rest) =>
      simp only [Cached, was] at cached
      simp only [registryStep, was] at taken
      cases taken
      obtain ⟨changes, queued, allValid, inStep⟩ := cached
      cases changes with
      | nil => cases queued
      | cons changed changes =>
        obtain ⟨rfl, rfl⟩ := List.cons.inj queued
        refine ⟨tracking.own, tracking.valid, changes, rfl,
          fun one member => allValid one (mem_cons_of_mem _ member), ?_⟩
        rw [handle_encoded changed (allValid changed mem_cons_self)]
        exact in_step_deliver inStep
    | .watching [] | .registering | .caching | .syncing | .started | .lost | .failed =>
      simp [registryStep, was] at taken
  | watchError =>
    have cached := tracking.cached
    have drained : registry.stage = .watching [] := calm
    simp only [Cached, drained] at cached
    simp only [registryStep, drained] at taken
    cases taken
    obtain ⟨changes, queued, _, inStep⟩ := cached
    have none : changes = [] := map_eq_nil_iff.mp queued.symm
    rw [none] at inStep
    exact ⟨tracking.own, tracking.valid, in_step_settled.mp inStep⟩

theorem entries_of_content (valid : ValidEntries codec registry)
    (agrees : registry.nodes = content codec registry) :
    entries codec registry = stored registry := by
  ext ⟨key, value⟩
  simp only [entries, stored, Set.mem_ofPred_eq, agrees, content, bind_eq_some_iff]
  constructor
  · rintro ⟨nodeID, info, ⟨_, got, decoded⟩, same⟩
    obtain ⟨kv, member, isKey, isValue⟩ := get_eq_some_iff.mp got
    obtain ⟨_, _, _, _, marshalled⟩ := valid kv member
    refine ⟨kv, member, ?_⟩
    rw [same, isKey, marshalled]
    rw [← isValue, marshalled, codec.back] at decoded
    rw [Option.some.inj decoded]
  · rintro ⟨kv, member, same⟩
    obtain ⟨nodeID, info, _, isKey, marshalled⟩ := valid kv member
    refine ⟨nodeID, info, ⟨codec.marshal info, ?_, codec.back info⟩, ?_⟩
    · exact get_eq_some_iff.mpr ⟨kv, member, isKey, marshalled⟩
    · rw [same, isKey, marshalled]

theorem settled_agrees (tracking : Tracking codec registry) (quiet : settled registry = true) :
    registry.nodes = content codec registry := by
  have cached := tracking.cached
  match was : registry.stage with
  | .watching [] =>
    simp only [Cached, was] at cached
    obtain ⟨changes, queued, _, inStep⟩ := cached
    have none : changes = [] := map_eq_nil_iff.mp queued.symm
    rw [none] at inStep
    exact in_step_settled.mp inStep
  | .lost =>
    simp only [Cached, was] at cached
    exact cached
  | .watching (_ :: _) | .registering | .caching | .syncing | .started | .failed =>
    simp [settled, was] at quiet

end Steps

/-- In every run without changes in the blind spots, once all delivered events are
processed the cache has exactly the entries of etcd. -/
theorem settled_cache_equals_etcd (codec : NodeCodec Info) {registry : Registry Info}
    (reached : Reaches (registryStep codec)
      (fun state action => noSlash action ∧ undisturbed state action) (Fresh codec) registry)
    (quiet : settled registry = true) : entries codec registry = stored registry := by
  have tracking : Tracking codec registry := by
    refine reaches_invariant ?_ ?_ reached
    · exact fun _ fresh => tracking_fresh fresh
    · exact fun _ _ _ held met taken => tracking_step held met.1 met.2 taken
  exact entries_of_content tracking.valid (settled_agrees tracking quiet)

section Sample

/-- Nodes that are their own text. -/
def plainCodec : NodeCodec String := ⟨id, some, fun _ => rfl⟩

def newRegistry : Registry String := ⟨"/dagens", "a", "A", .empty, fun _ => none, .registering⟩

theorem new_registry_fresh : Fresh plainCodec newRegistry :=
  ⟨by decide, by simp [ValidEntries, newRegistry, empty], fun _ => rfl, rfl⟩

/-- Another node joins while the watch lives, is updated and leaves again. -/
def watchedRun : List (Action String) :=
  [.put "b" "B", .proceed .ok, .proceed .ok, .proceed .ok, .proceed .ok, .put "c" "C",
    .delete "b", .deliver, .deliver]

theorem watched_changes_arrive : ∃ registry : Registry String,
    run (registryStep plainCodec) newRegistry watchedRun = some registry ∧
      settled registry = true ∧ registry.nodes "c" = some "C" ∧
      entries plainCodec registry = stored registry := by
  have ends : (run (registryStep plainCodec) newRegistry watchedRun).any (fun registry =>
    settled registry && decide (registry.nodes "c" = some "C")) = true := by
    decide +kernel
  have allowed : Allowed (registryStep plainCodec)
      (fun state action => noSlash action ∧ undisturbed state action) newRegistry watchedRun := by
    decide +kernel
  obtain ⟨registry, ran, facts⟩ := (any_eq_true _ _).mp ends
  obtain ⟨quiet, known⟩ := (Bool.and_eq_true _ _).mp facts
  exact ⟨registry, ran, quiet, of_decide_eq_true known, settled_cache_equals_etcd plainCodec
    (reaches_of_run (.start new_registry_fresh) watchedRun allowed ran) quiet⟩

/-- A node joins between the initial read and the creation of the watch. -/
def unseenRun : List (Action String) :=
  [.proceed .ok, .proceed .ok, .proceed .ok, .put "b" "B", .proceed .ok]

theorem unseen_node_missing : ∃ registry : Registry String,
    Fresh plainCodec newRegistry ∧
      run (registryStep plainCodec) newRegistry unseenRun = some registry ∧
      settled registry = true ∧ entries plainCodec registry ≠ stored registry := by
  have ends : (run (registryStep plainCodec) newRegistry unseenRun).any (fun registry =>
    settled registry && decide (registry.nodes "b" = none ∧
      (⟨"/dagens/nodes/b", "B", 2, 2⟩ : KeyValue String String) ∈ registry.store.kvs ∧
      registry.keyPrefix = "/dagens")) = true := by
    decide +kernel
  obtain ⟨registry, ran, facts⟩ := (any_eq_true _ _).mp ends
  obtain ⟨quiet, found⟩ := (Bool.and_eq_true _ _).mp facts
  obtain ⟨unknown, member, isPrefix⟩ := of_decide_eq_true found
  refine ⟨registry, new_registry_fresh, ran, quiet, ?_⟩
  intro same
  have inEtcd : ("/dagens/nodes/b", "B") ∈ stored registry := ⟨_, member, rfl⟩
  rw [← same] at inEtcd
  obtain ⟨nodeID, _, held, equal⟩ := inEtcd
  have isKey : nodeKey registry nodeID = nodeKey registry "b" := by
    rw [← (Prod.mk.inj equal).1, nodeKey, nodePrefix, isPrefix]
    decide
  rw [node_key_inj registry isKey, unknown] at held
  cases held

end Sample

end Dagens.Registry.CacheConvergence
