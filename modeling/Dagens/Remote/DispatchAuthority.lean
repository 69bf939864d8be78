import Dagens.Lib.RevisionStore
import Dagens.Scheduler.GoText

/-!
# The authority of a dispatch

A scheduler that leads stamps its identity and the revision of its election key onto
every dispatch. The worker reads the oldest election key from etcd and lets the
dispatch pass if both are the same. On the way the token goes through a map of
arbitrary values and one of texts.
-/

namespace Dagens.Remote.DispatchAuthority

open Lib.RevisionStore Scheduler.GoText

set_option linter.dupNamespace false

structure DispatchAuthority where
  leaderID : String
  epoch : String
  scope : String
  deriving DecidableEq, Repr

inductive MetadataValue where
  | text (value : String)
  | number (value : Int)
  deriving DecidableEq, Repr

/-- `fmt.Sprintf("%v", value)`. -/
def MetadataValue.format : MetadataValue → String
  | .text value => value
  | .number value => toString value

def leaderIDKey : String := "dispatch_leader_id"

def epochKey : String := "dispatch_epoch"

def scopeKey : String := "dispatch_scope"

/-- A field that is blank is left out. -/
def stamp (field : String) : Option MetadataValue :=
  if trimSpace field = "" then none else some (.text (trimSpace field))

def metadata (authority : DispatchAuthority) (key : String) : Option MetadataValue :=
  if key = leaderIDKey then stamp authority.leaderID
  else if key = epochKey then stamp authority.epoch
  else if key = scopeKey then stamp authority.scope
  else none

/-- The request's own metadata with those of the authority over them. -/
def stamped (base : String → Option MetadataValue) (authority : DispatchAuthority)
    (key : String) : Option MetadataValue :=
  (metadata authority key).or (base key)

def convertInterfaceMap (values : String → Option MetadataValue) (key : String) : Option String :=
  (values key).map MetadataValue.format

def convertStringMap (texts : String → Option String) (key : String) : Option MetadataValue :=
  (texts key).map .text

def metadataString (values : String → Option MetadataValue) (key : String) : String :=
  match values key with
  | none => ""
  | some value => trimSpace value.format

/-- The early return for an empty map gives the same fields. -/
def authorityFromMetadata (values : String → Option MetadataValue) : DispatchAuthority where
  leaderID := metadataString values leaderIDKey
  epoch := metadataString values epochKey
  scope := metadataString values scopeKey

/-- What the worker reads from a request that was stamped with the authority. -/
def received (base : String → Option MetadataValue) (authority : DispatchAuthority) :
    DispatchAuthority :=
  authorityFromMetadata (convertStringMap (convertInterfaceMap (stamped base authority)))

def defaultElectionKey : String := "/dagens/control-plane/scheduler"

/-- A blank election key is replaced by the default one, by scheduler and worker. -/
def effectiveKey (electionKey : String) : String :=
  if trimSpace electionKey = "" then defaultElectionKey else electionKey

def electionPrefix (electionKey : String) : String :=
  if electionKey.toList.getLast? = some '/' then electionKey else electionKey ++ "/"

/-- The oldest key of the election. -/
def currentLeader (store : Store String String) (electionKey : String) :
    Option (KeyValue String String) :=
  (store.range fun key =>
    decide ((electionPrefix electionKey).toList <+: key.toList)).head?

structure EtcdLeadershipProvider where
  electionKey : String
  identity : String
  deriving DecidableEq, Repr

inductive ProviderError where
  | endpointsRequired
  | identityRequired
  deriving DecidableEq, Repr

def newEtcdLeadershipProvider (endpoints : List String) (electionKey identity : String) :
    Except ProviderError EtcdLeadershipProvider :=
  if endpoints = [] then .error .endpointsRequired
  else if trimSpace identity = "" then .error .identityRequired
  else .ok ⟨effectiveKey electionKey, identity⟩

structure LeadershipAuthority where
  isLeader : Bool
  epoch : String
  leaderID : String
  deriving DecidableEq, Repr

inductive AuthorityError where
  | notStarted
  deriving DecidableEq, Repr

/-- `localLeader` is what the elector believes; without a key the epoch is the store's
revision. -/
def dispatchAuthority (provider : EtcdLeadershipProvider) (started localLeader : Bool)
    (store : Store String String) : Except AuthorityError LeadershipAuthority :=
  if started then
    match currentLeader store provider.electionKey with
    | none => .ok ⟨localLeader && decide ("" = provider.identity), store.revision.repr, ""⟩
    | some kv =>
      .ok ⟨localLeader && decide (kv.value = provider.identity), kv.modRevision.repr, kv.value⟩
  else .error .notStarted

/-- The token that the scheduler puts into the context of a dispatch. -/
def LeadershipAuthority.token (authority : LeadershipAuthority) (scope : String) :
    DispatchAuthority :=
  ⟨authority.leaderID, authority.epoch, scope⟩

/-- `missing` and `unavailable` wrap `ErrMissingDispatchAuthority`, `stale` wraps
`ErrStaleDispatchAuthority`. -/
inductive ValidationError where
  | missing (leaderID epoch : String)
  | unavailable (electionKey : String)
  | stale (leaderID epoch currentLeaderID currentEpoch : String)
  deriving DecidableEq, Repr

/-- `Validate` of a validator with the election key, once etcd has answered. -/
def validate (store : Store String String) (electionKey : String)
    (authority : DispatchAuthority) : Except ValidationError Unit :=
  if trimSpace authority.leaderID = "" ∨ trimSpace authority.epoch = "" then
    .error (.missing authority.leaderID authority.epoch)
  else
    match currentLeader store electionKey with
    | none => .error (.unavailable electionKey)
    | some kv =>
      if kv.value = "" ∨ kv.modRevision.repr = "" then .error (.unavailable electionKey)
      else if authority.leaderID ≠ kv.value ∨ authority.epoch ≠ kv.modRevision.repr then
        .error (.stale authority.leaderID authority.epoch kv.value kv.modRevision.repr)
      else .ok ()

end Dagens.Remote.DispatchAuthority
