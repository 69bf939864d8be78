import Dagens.Remote.DispatchAuthority

/-!
# Whose dispatches pass

The token is trimmed when it is stamped and when it is read, the worker compares it
with the value in etcd as it is. A leader whose identity has spaces at an end is
therefore refused as stale. A key that has become the oldest since has another
revision, and no earlier leader passes.
-/

namespace Dagens.Remote.AuthorityFence

open Lib.RevisionStore Scheduler.GoText DispatchAuthority

section Token

variable {base : String → Option MetadataValue} {authority : DispatchAuthority}

theorem received_field {key field : String} (stamps : metadata authority key = stamp field)
    (given : trimSpace field ≠ "") :
    metadataString (convertStringMap (convertInterfaceMap (stamped base authority))) key =
      trimSpace field := by
  simp [metadataString, convertStringMap, convertInterfaceMap, stamped, stamps, stamp, given,
    MetadataValue.format, trim_space_trimmed]

theorem received_leader (given : trimSpace authority.leaderID ≠ "") :
    (received base authority).leaderID = trimSpace authority.leaderID :=
  received_field (by simp [metadata]) given

theorem received_epoch (given : trimSpace authority.epoch ≠ "") :
    (received base authority).epoch = trimSpace authority.epoch :=
  received_field (by simp [metadata, leaderIDKey, epochKey]) given

end Token

variable {provider : EtcdLeadershipProvider} {store : Store String String} {electionKey : String}
  {kv : KeyValue String String} {started localLeader : Bool} {authority : LeadershipAuthority}

theorem leader_authority
    (reported : dispatchAuthority provider started localLeader store = .ok authority)
    (named : provider.identity ≠ "") (leads : authority.isLeader = true) :
    ∃ kv, currentLeader store provider.electionKey = some kv ∧ kv.value = provider.identity ∧
      authority.leaderID = provider.identity ∧ authority.epoch = kv.modRevision.repr := by
  unfold dispatchAuthority at reported
  split_ifs at reported
  cases found : currentLeader store provider.electionKey with
  | none =>
    rw [found] at reported
    obtain rfl := Except.ok.inj reported
    exact absurd (of_decide_eq_true ((Bool.and_eq_true _ _).mp leads).2).symm named
  | some kv =>
    rw [found] at reported
    obtain rfl := Except.ok.inj reported
    have owned : kv.value = provider.identity :=
      of_decide_eq_true ((Bool.and_eq_true _ _).mp leads).2
    exact ⟨kv, rfl, owned, owned, rfl⟩

theorem trim_space_empty : trimSpace "" = "" := by decide

theorem nonempty_of_nonblank {text : String} (nonblank : trimSpace text ≠ "") : text ≠ "" := by
  intro empty
  rw [empty] at nonblank
  exact nonblank trim_space_empty

theorem leader_received
    (reported : dispatchAuthority provider started localLeader store = .ok authority)
    (named : trimSpace provider.identity ≠ "") (leads : authority.isLeader = true) (scope : String)
    (base : String → Option MetadataValue) :
    ∃ kv, currentLeader store provider.electionKey = some kv ∧ kv.value = provider.identity ∧
      (received base (authority.token scope)).leaderID = trimSpace provider.identity ∧
      (received base (authority.token scope)).epoch = kv.modRevision.repr := by
  obtain ⟨kv, found, isValue, isLeaderID, isEpoch⟩ :=
    leader_authority reported (nonempty_of_nonblank named) leads
  refine ⟨kv, found, isValue, ?_, ?_⟩
  · rw [received_leader, LeadershipAuthority.token, isLeaderID]
    rwa [LeadershipAuthority.token, isLeaderID]
  · have digits : trimSpace kv.modRevision.repr ≠ "" := by
      rw [trim_space_repr]
      exact Nat.repr_ne_empty
    rw [received_epoch, LeadershipAuthority.token, isEpoch, trim_space_repr]
    rwa [LeadershipAuthority.token, isEpoch]

theorem validate_against {authority : DispatchAuthority} {revision : Nat}
    (found : currentLeader store electionKey = some kv) (valued : kv.value ≠ "")
    (named : trimSpace authority.leaderID ≠ "") (isEpoch : authority.epoch = revision.repr) :
    (validate store electionKey authority = .ok () ↔
      authority.leaderID = kv.value ∧ revision = kv.modRevision) ∧
    (¬ (authority.leaderID = kv.value ∧ revision = kv.modRevision) →
      validate store electionKey authority = .error
        (.stale authority.leaderID authority.epoch kv.value kv.modRevision.repr)) := by
  have given : ¬ (trimSpace authority.leaderID = "" ∨ trimSpace authority.epoch = "") := by
    rw [isEpoch, trim_space_repr]
    simp [named]
  have known : ¬ (kv.value = "" ∨ kv.modRevision.repr = "") := by
    simp [valued]
  have differs : (authority.leaderID ≠ kv.value ∨ authority.epoch ≠ kv.modRevision.repr) ↔
      ¬ (authority.leaderID = kv.value ∧ revision = kv.modRevision) := by
    rw [isEpoch, not_and_or]
    exact or_congr Iff.rfl (not_congr Nat.repr_inj)
  simp only [validate, if_neg given, found, if_neg known]
  constructor
  · split_ifs with stale
    · simpa using differs.mp stale
    · simpa using not_not.mp fun other => stale (differs.mpr other)
  · intro other
    rw [if_pos (differs.mpr other)]

theorem current_leader_mem (found : currentLeader store electionKey = some kv) : kv ∈ store.kvs :=
  List.mem_of_mem_filter (List.mem_of_mem_head? found)

/-- For every accepted identity, election key and content of etcd: the dispatches of a
leader pass as long as its election does not change exactly if the identity has no
space at its ends. Once the key of another candidate is the oldest they are refused,
as stale exactly if that candidate has a name. -/
theorem steady_leader_passes_iff (endpoints : List String) (electionKey identity : String)
    (provider : EtcdLeadershipProvider)
    (created : newEtcdLeadershipProvider endpoints electionKey identity = .ok provider)
    (started localLeader : Bool) (store : Store String String) (authority : LeadershipAuthority)
    (reported : dispatchAuthority provider started localLeader store = .ok authority)
    (leads : authority.isLeader = true) (scope : String)
    (base : String → Option MetadataValue) :
    ((∀ later : Store String String,
        currentLeader later (effectiveKey electionKey) =
          currentLeader store (effectiveKey electionKey) →
        validate later (effectiveKey electionKey) (received base (authority.token scope)) =
          .ok ()) ↔
      trimSpace identity = identity) ∧
    ∀ (later : Store String String) (leader candidate : KeyValue String String),
      store.Evolves later → currentLeader store (effectiveKey electionKey) = some leader →
      currentLeader later (effectiveKey electionKey) = some candidate →
      candidate.key ≠ leader.key →
      (validate later (effectiveKey electionKey) (received base (authority.token scope)) =
          .error (.stale (trimSpace identity) leader.modRevision.repr candidate.value
            candidate.modRevision.repr) ↔
        candidate.value ≠ "") := by
  unfold newEtcdLeadershipProvider at created
  split_ifs at created with _ named
  obtain rfl := Except.ok.inj created
  obtain ⟨kv, found, isValue, isLeaderID, isEpoch⟩ :=
    leader_received reported named leads scope base
  generalize received base (authority.token scope) = token at isLeaderID isEpoch ⊢
  have tokenNamed : trimSpace token.leaderID ≠ "" := by
    rw [isLeaderID, trim_space_trimmed]
    exact named
  have valued : kv.value ≠ "" := by
    rw [isValue]
    exact nonempty_of_nonblank named
  constructor
  · -- a steady election leaves the key and its revision, so only the names count
    have passes : ∀ later : Store String String, currentLeader later (effectiveKey electionKey) =
        currentLeader store (effectiveKey electionKey) →
        (validate later (effectiveKey electionKey) token = .ok () ↔
          trimSpace identity = identity) := by
      intro later steady
      rw [(validate_against (steady.trans found) valued tokenNamed isEpoch).1, isLeaderID, isValue]
      simp
    constructor
    · exact fun allPass => (passes store rfl).mp (allPass store rfl)
    · exact fun trimmed later steady => (passes later steady).mpr trimmed
  · intro later leader candidate evolves isLeader isCandidate different
    obtain rfl : kv = leader := Option.some.inj (found.symm.trans isLeader)
    constructor
    · intro stale unnamed
      unfold validate at stale
      split_ifs at stale <;> simp [isCandidate, unnamed] at stale
    · intro candidateNamed
      have newer := Store.evolves_mod_ne evolves (current_leader_mem found)
        (current_leader_mem isCandidate) different
      rw [(validate_against isCandidate candidateNamed tokenNamed isEpoch).2
        fun both => newer both.2.symm, isLeaderID, isEpoch]

def noBase : String → Option MetadataValue := fun _ => none

/-- etcd after the candidates have put their keys one after the other. -/
def elected (candidates : List (String × String)) : Store String String :=
  candidates.foldl (fun store candidate => store.put candidate.1 candidate.2) Store.empty

/-- A candidate takes over from the leader, whose dispatch is refused from then on. -/
theorem successor_fences_leader :
    validate (elected [("/e/1", "a")]) "/e"
        (received noBase (LeadershipAuthority.token ⟨true, "1", "a"⟩ "")) = .ok () ∧
      validate ((elected [("/e/1", "a"), ("/e/2", "b")]).delete fun key => decide (key = "/e/1"))
          "/e" (received noBase (LeadershipAuthority.token ⟨true, "1", "a"⟩ "")) =
        .error (.stale "a" "1" "b" "2") := by
  have fence := steady_leader_passes_iff ["etcd"] "/e" "a" ⟨"/e", "a"⟩ (by decide +kernel) true
    true (elected [("/e/1", "a")]) ⟨true, "1", "a"⟩ (by decide +kernel) rfl "" noBase
  have key : effectiveKey "/e" = "/e" := by decide +kernel
  have trimmed : trimSpace "a" = "a" := by decide +kernel
  rw [key, trimmed] at fence
  refine ⟨fence.1.mpr rfl _ rfl, ?_⟩
  exact (fence.2 _ ⟨"/e/1", "a", 1, 1⟩ ⟨"/e/2", "b", 2, 2⟩
    (.delete (.put .refl "/e/2" "b") _) (by decide +kernel) (by decide +kernel)
    (by decide +kernel)).mpr (by decide +kernel)

/-- An identity that starts with a space is accepted and leads, and its own dispatches
are refused as stale while nothing changes in etcd. -/
theorem spaced_leader_refused :
    newEtcdLeadershipProvider ["etcd"] "/e" " a" = .ok ⟨"/e", " a"⟩ ∧
      dispatchAuthority ⟨"/e", " a"⟩ true true (elected [("/e/1", " a")]) =
        .ok ⟨true, "1", " a"⟩ ∧
      validate (elected [("/e/1", " a")]) "/e"
          (received noBase (LeadershipAuthority.token ⟨true, "1", " a"⟩ "")) =
        .error (.stale "a" "1" " a" "1") := by
  decide +kernel

end Dagens.Remote.AuthorityFence
