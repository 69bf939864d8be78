import Dagens.Lib.AdmissionQueue
import Dagens.Lib.GuardedRun
import Dagens.Lib.Parties
import Dagens.Lib.RevisionStore

/-!
# The distributed semaphore

An `Acquire` registers a permit key under its session's lease and waits until the
key is among the first `size` in the order of creation. `Release` does not know
which key its `Acquire` has created: it reads the oldest key of the session and
deletes that one. Every call to etcd is a step of its own. A call that fails may
have taken effect before its answer was lost.

A caller is one `Acquire` together with the one `Release` that follows its
success. Semaphore objects have no state besides their session, so a caller only
names the lease.
-/

namespace Dagens.Coordination.Semaphore

open Lib.RevisionStore List Option Store

set_option linter.dupNamespace false

/-- `{key}/permits/{lease}/{permitID}` -/
structure PermitKey where
  lease : Nat
  permitID : Nat
  deriving DecidableEq, Repr

inductive AcquireError where
  | putPermitKey
  | queryPermits
  | permitKeyLost
  | watchError
  | contextDone
  deriving DecidableEq, Repr

inductive ReleaseError where
  | queryPermits
  | noPermits
  | deletePermit
  deriving DecidableEq, Repr

/-- Where a caller is: what it does next, or what its call has returned. -/
inductive Stage where
  | registering
  | ranking
  | watching
  | cleaning (err : AcquireError)
  | refused (err : AcquireError)
  | holding
  | finding
  | deleting (target : PermitKey)
  | released (err : Option ReleaseError)
  deriving DecidableEq, Repr

/-- `Acquire` has succeeded and no `Release` has completed. -/
def Stage.outstanding : Stage → Bool
  | .holding | .finding | .deleting _ => true
  | _ => false

/-- `Acquire` has registered its key and has not returned. -/
def Stage.pending : Stage → Bool
  | .ranking | .watching | .cleaning _ => true
  | _ => false

theorem Stage.pending_not_outstanding {stage : Stage} (pending : stage.pending = true) :
    stage.outstanding = false := by
  cases stage with
  | holding | finding | deleting => cases pending
  | _ => rfl

/-- Neither call is in progress and nothing is left to release. -/
def Stage.settled : Stage → Bool
  | .refused _ | .released _ => true
  | _ => false

structure Caller where
  lease : Nat
  permitID : Nat
  cancelled : Bool
  stage : Stage
  deriving DecidableEq, Repr

def Caller.key (caller : Caller) : PermitKey := ⟨caller.lease, caller.permitID⟩

/-- `uuids` counts the permit ids drawn so far. -/
structure Semaphore where
  size : Int
  permits : Store PermitKey String
  callers : List Caller
  uuids : Nat

/-- What etcd answers; a failed write may have been applied. -/
inductive Answer where
  | ok
  | fault (applied : Bool)
  deriving DecidableEq, Repr

inductive Action where
  | acquire (lease : Nat)
  | cancel (caller : Nat)
  | proceed (caller : Nat) (answer : Answer)
  | giveUp (caller : Nat)
  | release (caller : Nat)
  deriving DecidableEq, Repr

/-- The position of the key among the permits sorted by creation. -/
def rank (permits : Store PermitKey String) (key : PermitKey) : Option Nat :=
  ((permits.range fun _ => true).map (·.key)).idxOf? key

/-- The session's permit with the lowest create revision. -/
def oldest (permits : Store PermitKey String) (lease : Nat) : Option PermitKey :=
  ((permits.range fun key => decide (key.lease = lease)).map (·.key)).head?

def deleteKey (permits : Store PermitKey String) (key : PermitKey) : Store PermitKey String :=
  permits.delete fun one => decide (one = key)

/-- A write that was answered or lost. -/
def written (permits after : Store PermitKey String) : Answer → Store PermitKey String
  | .ok => after
  | .fault applied => if applied then after else permits

/-- The next etcd call of the caller and the code up to the one after it. -/
def advance (size : Int) (permits : Store PermitKey String) (caller : Caller)
    (answer : Answer) : Option (Store PermitKey String × Stage) :=
  match caller.stage, answer with
  | .registering, answer =>
    some (written permits (permits.put caller.key "waiting") answer,
      if answer = .ok then .ranking else .refused .putPermitKey)
  | .ranking, .ok =>
    match rank permits caller.key with
    | none => some (permits, .cleaning .permitKeyLost)
    | some rank => some (permits, if (rank : Int) < size then .holding else .watching)
  | .ranking, .fault _ => some (permits, .cleaning .queryPermits)
  | .watching, .ok => some (permits, .ranking)
  | .watching, .fault _ => some (permits, .cleaning .watchError)
  | .cleaning err, answer =>
    some (written permits (deleteKey permits caller.key) answer, .refused err)
  | .finding, .ok =>
    match oldest permits caller.lease with
    | none => some (permits, .released (some .noPermits))
    | some target => some (permits, .deleting target)
  | .finding, .fault _ => some (permits, .released (some .queryPermits))
  | .deleting target, answer =>
    some (written permits (deleteKey permits target) answer,
      .released (if answer = .ok then none else some .deletePermit))
  | _, _ => none

def setCaller (semaphore : Semaphore) (index : Nat) (caller : Caller) : Semaphore :=
  { semaphore with callers := semaphore.callers.set index caller }

def semaphoreStep (semaphore : Semaphore) : Action → Option Semaphore
  | .acquire lease => some { semaphore with
      callers := semaphore.callers ++ [⟨lease, semaphore.uuids, false, .registering⟩]
      uuids := semaphore.uuids + 1 }
  | .cancel index => do
      let caller ← semaphore.callers[index]?
      some (setCaller semaphore index { caller with cancelled := true })
  | .proceed index answer => do
      let caller ← semaphore.callers[index]?
      let (permits, stage) ← advance semaphore.size semaphore.permits caller answer
      some { setCaller semaphore index { caller with stage := stage } with permits := permits }
  | .giveUp index => do
      let caller ← semaphore.callers[index]?
      if caller.stage = .watching ∧ caller.cancelled = true then
        some (setCaller semaphore index { caller with stage := .cleaning .contextDone })
      else none
  | .release index => do
      let caller ← semaphore.callers[index]?
      if caller.stage = .holding then
        some (setCaller semaphore index { caller with stage := .finding })
      else none

/-- No caller yet; the store may hold permits of others, with other ids. -/
def Fresh (semaphore : Semaphore) : Prop :=
  semaphore.callers = [] ∧ ∀ key ∈ semaphore.permits.keys, key.permitID < semaphore.uuids

def Answer.faulty : Answer → Bool
  | .ok => false
  | .fault _ => true

/-- The step meets a failing call to etcd. -/
def Action.faulty : Action → Bool
  | .proceed _ answer => answer.faulty
  | _ => false

/-- The effect of a caller's step on the keys, by the stages it leads between. -/
inductive CallerMove (size : Int) (caller : Caller) (keys : List PermitKey) :
    Bool → Stage → List PermitKey → Prop where
  | registers (faulty : Bool) (was : caller.stage = .registering) {after : List PermitKey}
      (put : caller.key ∉ keys → after = keys ++ [caller.key]) :
      CallerMove size caller keys faulty
        (if faulty then .refused .putPermitKey else .ranking) after
  | fails (was : caller.stage = .registering) :
      CallerMove size caller keys true (.refused .putPermitKey) keys
  | waits (faulty : Bool) (was : caller.stage.pending = true) (stage : Stage)
      (still : stage.pending = true)
      (lost : stage = .cleaning .permitKeyLost → caller.key ∉ keys) :
      CallerMove size caller keys faulty stage keys
  | enters (was : caller.stage = .ranking) (admitted : caller.key ∈ keys.take size.toNat) :
      CallerMove size caller keys false .holding keys
  | cleans (faulty : Bool) (err : AcquireError) (was : caller.stage = .cleaning err) :
      CallerMove size caller keys faulty (.refused err)
        (keys.filter fun key => !decide (key = caller.key))
  | leaves (err : AcquireError) (was : caller.stage = .cleaning err) :
      CallerMove size caller keys true (.refused err) keys
  | calls (was : caller.stage = .holding) : CallerMove size caller keys false .finding keys
  | finds (was : caller.stage = .finding) (target : PermitKey)
      (mine : target.lease = caller.lease) (member : target ∈ keys) :
      CallerMove size caller keys false (.deleting target) keys
  | deletes (faulty : Bool) (target : PermitKey) (was : caller.stage = .deleting target)
      (err : Option ReleaseError) :
      CallerMove size caller keys faulty (.released err)
        (keys.filter fun key => !decide (key = target))
  | misses (was : caller.stage = .finding) (none : ∀ key ∈ keys, key.lease ≠ caller.lease) :
      CallerMove size caller keys false (.released (some .noPermits)) keys
  | returns (was : caller.stage.outstanding = true) (err : ReleaseError) :
      CallerMove size caller keys true (.released (some err)) keys

inductive SemaphoreMove (semaphore : Semaphore) : Action → Semaphore → Prop where
  | joins (lease : Nat) : SemaphoreMove semaphore (.acquire lease) { semaphore with
      callers := semaphore.callers ++ [⟨lease, semaphore.uuids, false, .registering⟩]
      uuids := semaphore.uuids + 1 }
  | cancels {index : Nat} {caller : Caller} (found : semaphore.callers[index]? = some caller) :
      SemaphoreMove semaphore (.cancel index)
        (setCaller semaphore index { caller with cancelled := true })
  | moves {action : Action} {index : Nat} {caller : Caller}
      (found : semaphore.callers[index]? = some caller)
      (acts : (∃ answer, action = .proceed index answer) ∨
        ∀ target, caller.stage ≠ .deleting target)
      {stage : Stage} {permits : Store PermitKey String}
      (move : CallerMove semaphore.size caller semaphore.permits.keys action.faulty stage
        permits.keys) :
      SemaphoreMove semaphore action
        { setCaller semaphore index { caller with stage := stage } with permits := permits }

-- The equations are made once here; the lemmas below, checked in parallel, all ask for them.
attribute [local simp] advance semaphoreStep Stage.pending Stage.outstanding

theorem range_all (permits : Store PermitKey String) :
    (permits.range fun _ => true).map (·.key) = permits.keys := by
  rw [range_keys]
  simp

variable {permits : Store PermitKey String} {key target : PermitKey} {lease : Nat}

theorem rank_none (unranked : rank permits key = none) : key ∉ permits.keys := by
  rw [rank, range_all] at unranked
  exact List.idxOf?_eq_none_iff.mp unranked

theorem oldest_some (found : oldest permits lease = some target) :
    target.lease = lease ∧ target ∈ permits.keys := by
  rw [oldest, range_keys] at found
  have member := mem_filter.mp (mem_of_mem_head? found)
  exact ⟨by simpa using member.2, member.1⟩

theorem oldest_none (missing : oldest permits lease = none) :
    ∀ key ∈ permits.keys, key.lease ≠ lease := by
  rw [oldest, range_keys, List.head?_eq_none_iff, filter_eq_nil_iff] at missing
  exact fun key member => by simpa using missing key member

@[simp] theorem keys_delete_key (permits : Store PermitKey String) (key : PermitKey) :
    (deleteKey permits key).keys = permits.keys.filter fun one => !decide (one = key) :=
  keys_delete _ _

theorem written_cases {after : Store PermitKey String} (answer : Answer) :
    written permits after answer = after ∨
      written permits after answer = permits ∧ answer = .fault false := by
  cases answer with
  | ok => exact .inl rfl
  | fault applied =>
    cases applied with
    | true => exact .inl rfl
    | false => exact .inr ⟨rfl, rfl⟩

section Advance

variable {size : Int} {permits after : Store PermitKey String} {caller : Caller}
  {answer : Answer} {stage : Stage}
  (advanced : advance size permits caller answer = some (after, stage))

include advanced

theorem registering_moves (was : caller.stage = .registering) :
    CallerMove size caller permits.keys answer.faulty stage after.keys := by
  simp only [advance, was] at advanced
  cases advanced
  rcases written_cases answer with put | ⟨lost, rfl⟩
  · rw [put]
    cases answer with
    | ok => exact .registers false was (keys_put_new _)
    | fault => exact .registers true was (keys_put_new _)
  · rw [lost]
    exact .fails was

theorem ranking_moves (was : caller.stage = .ranking) :
    CallerMove size caller permits.keys answer.faulty stage after.keys := by
  have pending : caller.stage.pending = true := by simp [was]
  cases answer with
  | fault =>
    simp only [advance, was] at advanced
    cases advanced
    exact .waits true pending _ rfl (by rintro ⟨⟩)
  | ok =>
    simp only [advance, was] at advanced
    split at advanced
    · rename_i unranked
      cases advanced
      exact .waits false pending _ rfl fun _ => rank_none unranked
    · rename_i position ranked
      split_ifs at advanced with within
      · cases advanced
        refine .enters was ?_
        rw [rank, range_all] at ranked
        obtain ⟨_, same, _⟩ := List.idxOf?_eq_some_iff.mp ranked
        rw [mem_take_iff_getElem]
        exact ⟨position, by omega, by simpa using same⟩
      · cases advanced
        exact .waits false pending _ rfl (by rintro ⟨⟩)

theorem watching_moves (was : caller.stage = .watching) :
    CallerMove size caller permits.keys answer.faulty stage after.keys := by
  have pending : caller.stage.pending = true := by simp [was]
  cases answer with
  | ok | fault =>
    simp only [advance, was] at advanced
    cases advanced
    exact .waits _ pending _ rfl (by rintro ⟨⟩)

theorem cleaning_moves {err : AcquireError} (was : caller.stage = .cleaning err) :
    CallerMove size caller permits.keys answer.faulty stage after.keys := by
  simp only [advance, was] at advanced
  cases advanced
  rcases written_cases answer with deleted | ⟨lost, rfl⟩
  · rw [deleted, keys_delete_key]
    exact .cleans _ err was
  · rw [lost]
    exact .leaves err was

theorem finding_moves (was : caller.stage = .finding) :
    CallerMove size caller permits.keys answer.faulty stage after.keys := by
  cases answer with
  | fault =>
    simp only [advance, was] at advanced
    cases advanced
    exact .returns (by simp [was]) _
  | ok =>
    simp only [advance, was] at advanced
    split at advanced
    · rename_i missing
      cases advanced
      exact .misses was (oldest_none missing)
    · rename_i target found
      cases advanced
      exact .finds was target (oldest_some found).1 (oldest_some found).2

theorem deleting_moves (was : caller.stage = .deleting target) :
    CallerMove size caller permits.keys answer.faulty stage after.keys := by
  simp only [advance, was] at advanced
  cases advanced
  rcases written_cases answer with deleted | ⟨lost, rfl⟩
  · rw [deleted, keys_delete_key]
    exact .deletes _ target was _
  · rw [lost]
    exact .returns (by simp [was]) _

theorem advance_moves : CallerMove size caller permits.keys answer.faulty stage after.keys := by
  cases was : caller.stage with
  | registering => exact registering_moves advanced was
  | ranking => exact ranking_moves advanced was
  | watching => exact watching_moves advanced was
  | cleaning => exact cleaning_moves advanced was
  | finding => exact finding_moves advanced was
  | deleting => exact deleting_moves advanced was
  | refused | holding | released => simp [advance, was] at advanced

end Advance

theorem semaphore_moves {semaphore after : Semaphore} {action : Action}
    (taken : semaphoreStep semaphore action = some after) :
    SemaphoreMove semaphore action after := by
  cases action with
    simp only [semaphoreStep, bind_eq_bind, bind_eq_some_iff] at taken
  | acquire lease =>
    cases taken
    exact .joins lease
  | cancel =>
    obtain ⟨caller, found, taken⟩ := taken
    cases taken
    exact .cancels found
  | proceed _ answer =>
    obtain ⟨caller, found, ⟨_⟩, advanced, taken⟩ := taken
    cases taken
    exact .moves found (.inl ⟨answer, rfl⟩) (advance_moves advanced)
  | giveUp =>
    obtain ⟨caller, found, taken⟩ := taken
    split_ifs at taken with waiting
    cases taken
    exact .moves found (.inr (by simp [waiting.1])) (.waits false
      (by simp [waiting.1]) _ rfl (by rintro ⟨⟩))
  | release =>
    obtain ⟨_, found, taken⟩ := taken
    split_ifs at taken with holds
    cases taken
    exact .moves found (.inr (by simp [holds])) (.calls holds)

end Dagens.Coordination.Semaphore
