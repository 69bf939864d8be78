import Dagens.Lib.GuardedRun
import Dagens.Lib.Parties
import Dagens.Lib.RevisionStore

/-!
# The distributed mutex

Each mutex object has a local slot, guarded by its own `mu`, and the caller that owns
the slot goes to etcd. There a session has one key under the lock's prefix, and its
lock is granted when that key is the oldest. The key belongs to the session, not to
the object: a session that already waits or holds finds its key again.
-/

namespace Dagens.Coordination.Mutex

open Lib.RevisionStore Option

set_option linter.dupNamespace false

inductive Request where
  | lock
  | tryLock
  deriving DecidableEq, Repr

inductive ContextError where
  | canceled
  | deadlineExceeded
  deriving DecidableEq, Repr

/-- `refused` is the answer false without an error. -/
inductive Outcome where
  | refused
  | failed
  | unlocked
  | unlockFailed
  deriving DecidableEq, Repr

/-- `parked` waits for the channel with the number; `abandoning` is the deletion that
follows a failed wait. -/
inductive Stage where
  | entering
  | parked (waitCh : Nat)
  | acquiring
  | waiting
  | abandoning
  | failing
  | holding
  | unlocking
  | releasing
  | done (outcome : Outcome)
  deriving DecidableEq, Repr

/-- The stages of the caller that owns the local slot. -/
def Stage.owning : Stage → Bool
  | .entering | .parked _ | .done _ => false
  | _ => true

/-- From the request for etcd's lock to the deletion of the key. -/
def Stage.engaged : Stage → Bool
  | .waiting | .abandoning | .holding | .unlocking => true
  | _ => false

/-- Between a successful `Lock` or `TryLock` and the effect of `Unlock`. -/
def Stage.holds : Stage → Bool
  | .holding | .unlocking => true
  | _ => false

/-- `context` is the error of the caller's context once it has ended; that of a
`TryLock` ends by its own deadline too. -/
structure Caller where
  object : Nat
  lease : Nat
  request : Request
  context : Option ContextError
  stage : Stage
  deriving DecidableEq, Repr

/-- A `DistributedMutex` with its session; `waitCh` numbers the channels it has made,
the newest of which is open as long as the slot is taken. -/
structure MutexObject where
  lease : Nat
  locked : Bool
  waitCh : Nat
  deriving DecidableEq, Repr

/-- Mutex objects with one key; `store` is the part of etcd under the lock's prefix,
by session. -/
structure Mutex where
  store : Store Nat Unit
  objects : List MutexObject
  callers : List Caller

inductive Answer where
  | ok
  | fault (applied : Bool)
  deriving DecidableEq, Repr

inductive Action where
  | newMutex (lease : Nat)
  | call (object : Nat) (request : Request)
  | endContext (caller : Nat) (error : ContextError)
  | proceed (caller : Nat) (answer : Answer)
  | giveUp (caller : Nat)
  deriving DecidableEq, Repr

def written (store after : Store Nat Unit) : Answer → Store Nat Unit
  | .ok => after
  | .fault applied => if applied then after else store

def MutexObject.take (object : MutexObject) : MutexObject :=
  { object with locked := true, waitCh := object.waitCh + 1 }

def MutexObject.free (object : MutexObject) : MutexObject := { object with locked := false }

def setCaller (mutex : Mutex) (index : Nat) (caller : Caller) : Mutex :=
  { mutex with callers := mutex.callers.set index caller }

def setObject (mutex : Mutex) (index : Nat) (object : MutexObject) : Mutex :=
  { mutex with objects := mutex.objects.set index object }

section Steps

variable (mutex : Mutex) (index : Nat) (caller : Caller) (object : MutexObject)

/-- The test of the local slot. -/
def enterStep : Mutex :=
  if object.locked then
    let stage := match caller.request with
      | .lock => .parked object.waitCh
      | .tryLock => .done .refused
    setCaller mutex index { caller with stage := stage }
  else setCaller (setObject mutex caller.object object.take) index
    { caller with stage := .acquiring }

/-- The transaction that puts the session's key if it does not exist, and reads the
oldest one. -/
def acquireStep : Answer → Mutex
  | .ok =>
    let store := mutex.store.create caller.lease ()
    let stage := if store.oldest = some caller.lease then .holding else .waiting
    setCaller { mutex with store := store } index { caller with stage := stage }
  | .fault applied =>
    let store := mutex.store.create caller.lease ()
    setCaller { mutex with store := written mutex.store store (.fault applied) } index
      { caller with stage := .failing }

/-- A wait ends with the lock, with an error, or with the loss of the key. -/
def waitStep : Answer → Option Mutex
  | .ok =>
    if mutex.store.oldest = some caller.lease then
      some (setCaller mutex index { caller with stage := .holding })
    else if caller.lease ∈ mutex.store.keys then none
    else some (setCaller mutex index { caller with stage := .failing })
  | .fault _ => some (setCaller mutex index { caller with stage := .abandoning })

def dropKey (answer : Answer) : Mutex :=
  let store := mutex.store.delete fun lease => decide (lease = caller.lease)
  { mutex with store := written mutex.store store answer }

def failStep : Mutex :=
  let outcome :=
    if caller.request = .tryLock ∧ caller.context = some .deadlineExceeded then .refused
    else .failed
  setCaller (setObject mutex caller.object object.free) index
    { caller with stage := .done outcome }

def unlockStep (answer : Answer) : Mutex :=
  let stage := if answer = .ok then .releasing else .done .unlockFailed
  setCaller (dropKey mutex caller answer) index { caller with stage := stage }

def proceed (answer : Answer) : Option Mutex :=
  match caller.stage with
  | .entering => some (enterStep mutex index caller object)
  | .parked waitCh =>
    -- a closed channel only wakes the caller; it tests the slot again
    if object.locked ∧ object.waitCh = waitCh then none
    else some (setCaller mutex index { caller with stage := .entering })
  | .acquiring => some (acquireStep mutex index caller answer)
  | .waiting => waitStep mutex index caller answer
  | .abandoning =>
    some (setCaller (dropKey mutex caller answer) index { caller with stage := .failing })
  | .failing => some (failStep mutex index caller object)
  | .holding =>
    let stage := if object.locked then .unlocking else .done .unlocked
    some (setCaller mutex index { caller with stage := stage })
  | .unlocking => some (unlockStep mutex index caller answer)
  | .releasing => some (setCaller (setObject mutex caller.object object.free) index
      { caller with stage := .done .unlocked })
  | .done _ => none

end Steps

def mutexStep (mutex : Mutex) : Action → Option Mutex
  | .newMutex lease => some { mutex with objects := mutex.objects ++ [⟨lease, false, 0⟩] }
  | .call index request => do
      let object ← mutex.objects[index]?
      some { mutex with
        callers := mutex.callers ++ [⟨index, object.lease, request, none, .entering⟩] }
  | .endContext index error => do
      let caller ← mutex.callers[index]?
      some (setCaller mutex index { caller with context := some error })
  | .proceed index answer => do
      let caller ← mutex.callers[index]?
      let object ← mutex.objects[caller.object]?
      proceed mutex index caller object answer
  | .giveUp index => do
      let caller ← mutex.callers[index]?
      match caller.stage, caller.context with
      | .parked _, some _ =>
        some (setCaller mutex index { caller with stage := .done .failed })
      | _, _ => none

/-- No objects and no callers yet; other clients may have keys under the prefix. -/
def Fresh (mutex : Mutex) : Prop := mutex.objects = [] ∧ mutex.callers = []

variable {stage : Stage}

theorem Stage.engaged_owning (engaged : stage.engaged = true) : stage.owning = true := by
  cases stage <;> first | rfl | cases engaged

theorem Stage.holds_engaged (holds : stage.holds = true) : stage.engaged = true := by
  cases stage <;> first | rfl | cases holds

/-- The effect of a step of a caller on itself, on the object whose slot it uses and on
the keys of the sessions. -/
structure CallerMove (mutex : Mutex) (index : Nat) (caller : Caller) (object : MutexObject)
    (answer : Answer) (after : Mutex) (next : Caller) (left : MutexObject) : Prop where
  callers : after.callers = mutex.callers.set index next
  objects : ∀ place : Nat, after.objects[place]? =
    if place = caller.object then some left else mutex.objects[place]?
  same : next.object = caller.object ∧ next.lease = caller.lease
  takes : next.stage.owning = true → caller.stage.owning = true ∨
    object.locked = false ∧ left.locked = true
  frees : object.locked = true → left.locked = true ∨ next.stage.owning = false
  freesOwn : object.locked = true → left.locked = true ∨ caller.stage.owning = true
  engages : next.stage.engaged = true → caller.stage.engaged = true ∨
    caller.stage = .acquiring ∧ answer = .ok
  grants : next.stage.holds = true → after.store.oldest = some caller.lease ∨
    caller.stage.holds = true ∧ after.store = mutex.store
  first : ∀ lease, mutex.store.oldest = some lease → after.store.oldest = some lease ∨
    lease = caller.lease ∧ caller.stage.engaged = true

inductive MutexMove (mutex : Mutex) : Action → Mutex → Prop where
  | adds (lease : Nat) : MutexMove mutex (.newMutex lease)
      { mutex with objects := mutex.objects ++ [⟨lease, false, 0⟩] }
  | begins {action : Action} {caller : Caller} (was : caller.stage = .entering) :
      MutexMove mutex action { mutex with callers := mutex.callers ++ [caller] }
  | turns {action : Action} {index : Nat} {caller next : Caller}
      (found : mutex.callers[index]? = some caller)
      (same : next.object = caller.object ∧ next.lease = caller.lease)
      (stage : next.stage.owning = true → next.stage = caller.stage) :
      MutexMove mutex action (setCaller mutex index next)
  | moves {index : Nat} {caller next : Caller} {object left : MutexObject} {answer : Answer}
      {after : Mutex} (found : mutex.callers[index]? = some caller)
      (of : mutex.objects[caller.object]? = some object)
      (move : CallerMove mutex index caller object answer after next left) :
      MutexMove mutex (.proceed index answer) after

attribute [local simp] Stage.engaged Stage.owning Stage.holds

section Moves

variable {mutex after : Mutex} {index : Nat} {caller : Caller} {object : MutexObject}
  {answer : Answer}

section

variable (of : mutex.objects[caller.object]? = some object)

include of

theorem objects_same (place : Nat) :
    mutex.objects[place]? =
      if place = caller.object then some object else mutex.objects[place]? := by
  split_ifs with own
  · rw [own, of]
  · rfl

theorem objects_set (left : MutexObject) (place : Nat) :
    (mutex.objects.set caller.object left)[place]? =
      if place = caller.object then some left else mutex.objects[place]? := by
  split_ifs with own
  · rw [own, List.getElem?_set_self (List.getElem?_eq_some_iff.mp of).1]
  · rw [List.getElem?_set_ne (Ne.symm own)]

theorem stage_moves (stage : Stage) (takes : stage.owning = true → caller.stage.owning = true)
    (engages : stage.engaged = true → caller.stage.engaged = true)
    (grants : stage.holds = true → mutex.store.oldest = some caller.lease ∨ caller.stage.holds =
      true) :
    CallerMove mutex index caller object answer
      (setCaller mutex index { caller with stage := stage }) { caller with stage := stage }
      object where
  callers := rfl
  objects := objects_same of
  same := ⟨rfl, rfl⟩
  takes := fun owning => .inl (takes owning)
  frees := .inl
  freesOwn := .inl
  engages := fun engaged => .inl (engages engaged)
  grants := fun holds => (grants holds).imp id fun held => ⟨held, rfl⟩
  first := fun _ oldest => .inl oldest

theorem drop_moves (stage : Stage) (was : caller.stage.engaged = true)
    (off : stage.engaged = false) :
    CallerMove mutex index caller object answer
      (setCaller (dropKey mutex caller answer) index { caller with stage := stage })
      { caller with stage := stage } object where
  callers := rfl
  objects := objects_same of
  same := ⟨rfl, rfl⟩
  takes := fun _ => .inl (Stage.engaged_owning was)
  frees := .inl
  freesOwn := .inl
  engages := fun _ => .inl was
  grants := by
    intro holds
    rw [show stage.engaged = true from Stage.holds_engaged holds] at off
    cases off
  first := by
    intro lease oldest
    by_cases own : lease = caller.lease
    · exact .inr ⟨own, was⟩
    · have kept : (mutex.store.delete fun other => decide (other = caller.lease)).oldest =
          some lease := Store.oldest_delete oldest (by simp [own])
      cases answer with
      | ok => exact .inl kept
      | fault applied =>
        cases applied with
        | true => exact .inl kept
        | false => exact .inl oldest

theorem free_moves (outcome : Outcome) (was : caller.stage.owning = true) :
    CallerMove mutex index caller object answer
      (setCaller (setObject mutex caller.object object.free) index
        { caller with stage := .done outcome })
      { caller with stage := .done outcome } object.free where
  callers := rfl
  objects := objects_set of object.free
  same := ⟨rfl, rfl⟩
  takes := fun owning => by cases owning
  frees := fun _ => .inr rfl
  freesOwn := fun _ => .inr was
  engages := fun engaged => by cases engaged
  grants := fun holds => by cases holds
  first := fun _ oldest => .inl oldest

theorem enter_moves :
    ∃ next left, CallerMove mutex index caller object answer
      (enterStep mutex index caller object) next left := by
  unfold enterStep
  split_ifs with locked
  · exact ⟨_, _, stage_moves of _ (by split <;> simp)
      (by split <;> simp) (by split <;> simp)⟩
  · refine ⟨_, object.take, rfl, objects_set of object.take, ⟨rfl, rfl⟩, ?_, ?_, ?_, ?_, ?_,
      fun _ oldest => .inl oldest⟩
    · exact fun _ => .inr ⟨by simpa using locked, rfl⟩
    · exact fun _ => .inl rfl
    · exact fun _ => .inl rfl
    · exact fun engaged => by cases engaged
    · exact fun holds => by cases holds

theorem acquire_moves (was : caller.stage = .acquiring) :
    ∃ next left, CallerMove mutex index caller object answer
      (acquireStep mutex index caller answer) next left := by
  have owning : caller.stage.owning = true := by simp [was]
  cases answer with
  | ok =>
    refine ⟨_, object, rfl, objects_same of, ⟨rfl, rfl⟩, fun _ => .inl owning, .inl, .inl,
      fun _ => .inr ⟨was, rfl⟩, ?_, ?_⟩
    · intro holds
      by_cases first : (mutex.store.create caller.lease ()).oldest = some caller.lease
      · exact .inl first
      · simp [first] at holds
    · exact fun lease oldest => .inl (Store.oldest_create oldest caller.lease ())
  | fault applied =>
    refine ⟨_, object, rfl, objects_same of, ⟨rfl, rfl⟩, fun _ => .inl owning, .inl, .inl,
      (fun engaged => by cases engaged), (fun holds => by cases holds), ?_⟩
    intro lease oldest
    cases applied with
    | true => exact .inl (Store.oldest_create oldest caller.lease ())
    | false => exact .inl oldest

theorem wait_moves (was : caller.stage = .waiting)
    (taken : waitStep mutex index caller answer = some after) :
    ∃ next left, CallerMove mutex index caller object answer after next left := by
  have owning : caller.stage.owning = true := by simp [was]
  have engaged : caller.stage.engaged = true := by simp [was]
  cases answer with
  | ok =>
    simp only [waitStep] at taken
    split_ifs at taken with first known
    · cases taken
      exact ⟨_, _, stage_moves of _ (fun _ => owning) (fun _ => engaged) (fun _ => .inl first)⟩
    · cases taken
      exact ⟨_, _, stage_moves of _ (fun _ => owning) (fun _ => engaged)
        (fun holds => by cases holds)⟩
  | fault =>
    cases taken
    exact ⟨_, _, stage_moves of _ (fun _ => owning) (fun _ => engaged)
      (fun holds => by cases holds)⟩

theorem proceed_moves (taken : proceed mutex index caller object answer = some after) :
    ∃ next left, CallerMove mutex index caller object answer after next left := by
  obtain ⟨_, _, _, _, current⟩ := caller
  cases current with
  | entering =>
    cases taken
    exact enter_moves of
  | parked =>
    simp only [proceed] at taken
    split_ifs at taken with blocked
    cases taken
    exact ⟨_, _, stage_moves of _ (fun owning => by cases owning)
      (fun engaged => by cases engaged) (fun holds => by cases holds)⟩
  | acquiring =>
    cases taken
    exact acquire_moves of rfl
  | waiting =>
    exact wait_moves of rfl taken
  | abandoning =>
    cases taken
    exact ⟨_, _, drop_moves of _ (by simp) rfl⟩
  | failing | releasing =>
    cases taken
    exact ⟨_, _, free_moves of _ (by simp)⟩
  | holding =>
    cases taken
    refine ⟨_, _, stage_moves of _ ?_ ?_ ?_⟩ <;> simp
  | unlocking =>
    cases taken
    exact ⟨_, _, drop_moves of _ (by simp) (by split_ifs <;> rfl)⟩
  | done => simp [proceed] at taken

end

theorem mutex_moves {action : Action} (taken : mutexStep mutex action = some after) :
    MutexMove mutex action after := by
  cases action with
    simp only [mutexStep, bind_eq_bind, bind_eq_some_iff] at taken
  | newMutex lease =>
    cases taken
    exact .adds lease
  | call =>
    obtain ⟨found, _, taken⟩ := taken
    cases taken
    exact .begins rfl
  | endContext =>
    obtain ⟨caller, found, taken⟩ := taken
    cases taken
    exact .turns found ⟨rfl, rfl⟩ (fun _ => rfl)
  | proceed =>
    obtain ⟨caller, found, _, of, taken⟩ := taken
    obtain ⟨_, _, move⟩ := proceed_moves of taken
    exact .moves found of move
  | giveUp =>
    obtain ⟨_, found, taken⟩ := taken
    split at taken
    · cases taken
      exact .turns found ⟨rfl, rfl⟩ (fun owning => by cases owning)
    · cases taken

end Moves

end Dagens.Coordination.Mutex
