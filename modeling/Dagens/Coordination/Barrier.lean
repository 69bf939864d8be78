import Dagens.Lib.GuardedRun
import Dagens.Lib.Parties
import Dagens.Lib.RevisionStore

/-!
# The distributed barrier

`Wait` joins the generation that etcd holds, registers a participant key under its
session's lease and then repeats: look for the generation's release key, count the
participants, and create the release key if there are enough. All keys of one
barrier are under its prefix, which `Reset` deletes as a whole; a lease that expires
takes its participants with it. Every call to etcd is a step of its own, and a
failed call may have taken effect.
-/

namespace Dagens.Coordination.Barrier

open Lib.RevisionStore Option

set_option linter.dupNamespace false

/-- `{key}/generation`, `{key}/participants/{generation}/{lease}-{number}` and
`{key}/released/{generation}`. A generation is a time in nanoseconds. -/
inductive BarrierKey where
  | generation
  | participant (generation lease number : Nat)
  | released (generation : Nat)
  deriving DecidableEq, Repr

inductive BarrierValue where
  | generation (nanos : Nat)
  | waiting
  | released
  deriving DecidableEq, Repr

inductive WaitError where
  | getGeneration
  | registerParticipant
  | checkRelease
  | countParticipants
  | tripBarrier
  | watchCanceled
  | contextDone
  deriving DecidableEq, Repr

/-- What a `Wait` does next, or what it has returned. -/
inductive Stage where
  | joining
  | numbering
  | registering
  | checking
  | counting
  | tripping
  | waiting
  | cleaning (result : Option WaitError)
  | done (result : Option WaitError)
  deriving DecidableEq, Repr

/-- Between the registration and the deferred deletion. -/
def Stage.active : Stage → Bool
  | .checking | .counting | .tripping | .waiting | .cleaning _ => true
  | _ => false

/-- `nanos` is the time read for a new generation. `generation` and `number` are the
ones of the call once it has them. `registered`: its Put has taken effect, its
deletion has not. -/
structure Call where
  object : Nat
  lease : Nat
  nanos : Nat
  cancelled : Bool
  generation : Nat
  number : Nat
  registered : Bool
  stage : Stage
  deriving DecidableEq, Repr

def Call.key (call : Call) : BarrierKey :=
  .participant call.generation call.lease call.number

/-- A `DistributedBarrier` with its session. -/
structure BarrierObject where
  lease : Nat
  participantCounter : Nat
  deriving DecidableEq, Repr

/-- Barrier objects with one key and one count; `clock` is the time, `expired` are
the leases that have ended. -/
structure Barrier where
  count : Int
  store : Store BarrierKey BarrierValue
  objects : List BarrierObject
  calls : List Call
  clock : Nat
  expired : List Nat

inductive Answer where
  | ok
  | fault (applied : Bool)
  deriving DecidableEq, Repr

inductive Action where
  | newBarrier (lease : Nat)
  | wait (object : Nat)
  | cancel (call : Nat)
  | proceed (call : Nat) (answer : Answer)
  | giveUp (call : Nat)
  | reset (answer : Answer)
  | expire (lease : Nat)
  deriving DecidableEq, Repr

def isParticipant (generation : Nat) : BarrierKey → Bool
  | .participant joined _ _ => decide (joined = generation)
  | _ => false

def ofLease (lease : Nat) : BarrierKey → Bool
  | .participant _ held _ => decide (held = lease)
  | _ => false

/-- The answer to a count-only range read. -/
def countParticipants (store : Store BarrierKey BarrierValue) (generation : Nat) : Nat :=
  (store.range (isParticipant generation)).length

def written (store after : Store BarrierKey BarrierValue) :
    Answer → Store BarrierKey BarrierValue
  | .ok => after
  | .fault applied => if applied then after else store

/-- The write of an answered or lost call happens. -/
def Answer.applies : Answer → Bool
  | .ok => true
  | .fault applied => applied

section Wait

variable (barrier : Barrier) (call : Call)

/-- The transaction of `getOrCreateGeneration`. -/
def joinStep (answer : Answer) : Store BarrierKey BarrierValue × Call :=
  let store := barrier.store.create .generation (.generation call.nanos)
  match answer, store.get .generation with
  | .ok, some (.generation nanos) =>
    (store, { call with generation := nanos, stage := .numbering })
  | answer, _ =>
    (written barrier.store store answer, { call with stage := .done (some .getGeneration) })

def registerStep (answer : Answer) : Store BarrierKey BarrierValue × Call :=
  (written barrier.store (barrier.store.put call.key .waiting) answer,
    { call with
      registered := answer.applies
      stage := if answer = .ok then .checking else .done (some .registerParticipant) })

def checkStep : Answer → Call
  | .ok =>
    if .released call.generation ∈ barrier.store.keys then
      { call with stage := .cleaning none }
    else { call with stage := .counting }
  | .fault _ => { call with stage := .cleaning (some .checkRelease) }

def countStep : Answer → Call
  | .ok =>
    if (countParticipants barrier.store call.generation : Int) ≥ barrier.count then
      { call with stage := .tripping }
    else { call with stage := .waiting }
  | .fault _ => { call with stage := .cleaning (some .countParticipants) }

def tripStep (answer : Answer) : Store BarrierKey BarrierValue × Call :=
  (written barrier.store (barrier.store.create (.released call.generation) .released) answer,
    { call with stage := if answer = .ok then .waiting else .cleaning (some .tripBarrier) })

def cleanStep (result : Option WaitError) (answer : Answer) :
    Store BarrierKey BarrierValue × Call :=
  (written barrier.store (barrier.store.delete fun key => decide (key = call.key)) answer,
    { call with registered := call.registered && !answer.applies, stage := .done result })

end Wait

/-- The call at the index becomes `call`, and the store becomes `store`. -/
def setCall (barrier : Barrier) (index : Nat)
    (next : Store BarrierKey BarrierValue × Call) : Barrier :=
  { barrier with store := next.1, calls := barrier.calls.set index next.2 }

def proceed (barrier : Barrier) (index : Nat) (call : Call) (answer : Answer) : Option Barrier :=
  match call.stage with
  | .joining => some (setCall barrier index (joinStep barrier call answer))
  | .numbering => do
      -- an atomic addition on the object
      let object ← barrier.objects[call.object]?
      let number := object.participantCounter + 1
      some { setCall barrier index
          (barrier.store, { call with number := number, stage := .registering }) with
        objects := barrier.objects.set call.object { object with participantCounter := number } }
  | .registering =>
    if answer.applies = true ∧ call.lease ∈ barrier.expired then none
    else some (setCall barrier index (registerStep barrier call answer))
  | .checking => some (setCall barrier index (barrier.store, checkStep barrier call answer))
  | .counting => some (setCall barrier index (barrier.store, countStep barrier call answer))
  | .tripping => some (setCall barrier index (tripStep barrier call answer))
  | .waiting => some (setCall barrier index (barrier.store,
      { call with stage :=
          if answer = .ok then .checking else .cleaning (some .watchCanceled) }))
  | .cleaning result => some (setCall barrier index (cleanStep barrier call result answer))
  | .done _ => none

def barrierStep (barrier : Barrier) : Action → Option Barrier
  | .newBarrier lease => some { barrier with objects := barrier.objects ++ [⟨lease, 0⟩] }
  | .wait index => do
      let object ← barrier.objects[index]?
      some { barrier with
        calls := barrier.calls ++
          [⟨index, object.lease, barrier.clock, false, 0, 0, false, .joining⟩]
        clock := barrier.clock + 1 }
  | .cancel index => do
      let call ← barrier.calls[index]?
      some (setCall barrier index (barrier.store, { call with cancelled := true }))
  | .proceed index answer => do
      let call ← barrier.calls[index]?
      proceed barrier index call answer
  | .giveUp index => do
      let call ← barrier.calls[index]?
      if call.stage = .waiting ∧ call.cancelled = true then
        some (setCall barrier index
          (barrier.store, { call with stage := .cleaning (some .contextDone) }))
      else none
  | .reset answer => some { barrier with
      store := written barrier.store (barrier.store.delete fun _ => true) answer }
  | .expire lease => some { barrier with
      store := barrier.store.delete (ofLease lease)
      expired := lease :: barrier.expired }

/-- Nothing under the barrier's prefix yet. -/
def Fresh (barrier : Barrier) : Prop :=
  barrier.store.keys = [] ∧ barrier.objects = [] ∧ barrier.calls = []

def emptyBarrier (count : Int) : Barrier := ⟨count, .empty, [], [], 0, []⟩

theorem empty_fresh (count : Int) : Fresh (emptyBarrier count) := ⟨rfl, rfl, rfl⟩

/-- Before the registration. -/
def Stage.early : Stage → Bool
  | .joining | .numbering | .registering => true
  | _ => false

inductive CallMove (barrier : Barrier) (call : Call) :
    Store BarrierKey BarrierValue → Call → Prop where
  | prepares {store : Store BarrierKey BarrierValue} {next : Call}
      (was : call.stage.early = true)
      (keys : ∀ key, key ∈ store.keys ↔ key ∈ barrier.store.keys ∨
        key = .generation ∧ key ∈ store.keys)
      (flag : next.registered = call.registered)
      (stage : next.stage.active = false ∧ next.stage ≠ .done none) :
      CallMove barrier call store next
  | registers (was : call.stage = .registering) (answer : Answer) :
      CallMove barrier call (registerStep barrier call answer).1
        (registerStep barrier call answer).2
  | looks {stage : Stage} (was : call.stage.active = true) (still : stage.active = true)
      (opened : stage = .cleaning none → .released call.generation ∈ barrier.store.keys)
      (enough : stage = .tripping →
        (countParticipants barrier.store call.generation : Int) ≥ barrier.count) :
      CallMove barrier call barrier.store { call with stage := stage }
  | trips (was : call.stage = .tripping) (answer : Answer) :
      CallMove barrier call (tripStep barrier call answer).1 (tripStep barrier call answer).2
  | cleans (result : Option WaitError) (was : call.stage = .cleaning result) (answer : Answer) :
      CallMove barrier call (cleanStep barrier call result answer).1
        (cleanStep barrier call result answer).2

inductive BarrierMove (barrier : Barrier) : Action → Barrier → Prop where
  | adds (lease : Nat) : BarrierMove barrier (.newBarrier lease)
      { barrier with objects := barrier.objects ++ [⟨lease, 0⟩] }
  | begins (object lease : Nat) : BarrierMove barrier (.wait object) { barrier with
      calls := barrier.calls ++ [⟨object, lease, barrier.clock, false, 0, 0, false, .joining⟩]
      clock := barrier.clock + 1 }
  | cancels {index : Nat} {call : Call} (found : barrier.calls[index]? = some call) :
      BarrierMove barrier (.cancel index)
        (setCall barrier index (barrier.store, { call with cancelled := true }))
  | moves {action : Action} {index : Nat} {call : Call}
      (found : barrier.calls[index]? = some call)
      {store : Store BarrierKey BarrierValue} {next : Call} (move : CallMove barrier call store next)
      (acts : call.stage = .registering → next.stage.active = true → action = .proceed index .ok)
      (objects : List BarrierObject) :
      BarrierMove barrier action { setCall barrier index (store, next) with objects := objects }
  | resets (answer : Answer) : BarrierMove barrier (.reset answer) { barrier with
      store := written barrier.store (barrier.store.delete fun _ => true) answer }
  | expires (lease : Nat) : BarrierMove barrier (.expire lease) { barrier with
      store := barrier.store.delete (ofLease lease), expired := lease :: barrier.expired }

attribute [local simp] Stage.active joinStep Stage.early

section Moves

variable {barrier after : Barrier} {call : Call} {index : Nat}

theorem join_moves (was : call.stage = .joining) (answer : Answer) :
    CallMove barrier call (joinStep barrier call answer).1 (joinStep barrier call answer).2 := by
  have created : ∀ key, key ∈ (barrier.store.create .generation (.generation call.nanos)).keys ↔
      key ∈ barrier.store.keys ∨ key = .generation ∧
        key ∈ (barrier.store.create .generation (.generation call.nanos)).keys := by
    intro key
    rw [Store.mem_keys_create]
    tauto
  have early : call.stage.early = true := by simp [was]
  cases answer with
  | ok =>
    simp only [joinStep]
    split <;> exact .prepares early created rfl ⟨rfl, by simp⟩
  | fault applied =>
    cases applied with
    | true => exact .prepares early created rfl ⟨rfl, by simp⟩
    | false => exact .prepares early (by simp [written]) rfl ⟨rfl, by simp⟩

theorem check_moves (was : call.stage = .checking) (answer : Answer) :
    CallMove barrier call barrier.store (checkStep barrier call answer) := by
  have active : call.stage.active = true := by simp [was]
  cases answer with
  | fault => exact .looks active rfl (by simp) (by simp)
  | ok =>
    simp only [checkStep]
    split_ifs with opened
    · exact .looks active rfl (fun _ => opened) (by simp)
    · exact .looks active rfl (by simp) (by simp)

theorem count_moves (was : call.stage = .counting) (answer : Answer) :
    CallMove barrier call barrier.store (countStep barrier call answer) := by
  have active : call.stage.active = true := by simp [was]
  cases answer with
  | fault => exact .looks active rfl (by simp) (by simp)
  | ok =>
    simp only [countStep]
    split_ifs with enough
    · exact .looks active rfl (by simp) (fun _ => enough)
    · exact .looks active rfl (by simp) (by simp)

theorem proceed_moves {answer : Answer} (found : barrier.calls[index]? = some call)
    (taken : proceed barrier index call answer = some after) :
    BarrierMove barrier (.proceed index answer) after := by
  cases was : call.stage with
    simp only [proceed, was] at taken
  | joining =>
    cases taken
    exact .moves found (join_moves was answer) (by simp [was]) barrier.objects
  | numbering =>
    simp only [bind_eq_bind, bind_eq_some_iff] at taken
    obtain ⟨object, _, taken⟩ := taken
    cases taken
    have numbered : CallMove barrier call barrier.store { call with
        number := object.participantCounter + 1, stage := .registering } :=
      .prepares (by simp [was]) (by simp) rfl ⟨rfl, by simp⟩
    exact .moves found numbered (by simp [was]) _
  | registering =>
    split_ifs at taken
    cases taken
    have acts : (registerStep barrier call answer).2.stage.active = true →
        Action.proceed index answer = .proceed index .ok := by
      cases answer <;> simp [registerStep]
    exact .moves found (.registers was answer) (fun _ => acts) barrier.objects
  | checking =>
    cases taken
    exact .moves found (check_moves was answer) (by simp [was]) barrier.objects
  | counting =>
    cases taken
    exact .moves found (count_moves was answer) (by simp [was]) barrier.objects
  | tripping =>
    cases taken
    exact .moves found (.trips was answer) (by simp [was]) barrier.objects
  | waiting =>
    have active : call.stage.active = true := by simp [was]
    cases taken
    refine .moves found (.looks active ?_ ?_ ?_) (by simp [was]) barrier.objects <;> split_ifs <;>
      simp
  | cleaning result =>
    cases taken
    exact .moves found (.cleans result was answer) (by simp [was]) barrier.objects
  | done => simp at taken

theorem barrier_moves {action : Action} (taken : barrierStep barrier action = some after) :
    BarrierMove barrier action after := by
  cases action with
    simp only [barrierStep, bind_eq_bind, bind_eq_some_iff] at taken
  | newBarrier lease =>
    cases taken
    exact .adds lease
  | wait object =>
    obtain ⟨found, _, taken⟩ := taken
    cases taken
    exact .begins object found.lease
  | cancel =>
    obtain ⟨call, found, taken⟩ := taken
    cases taken
    exact .cancels found
  | proceed =>
    obtain ⟨call, found, taken⟩ := taken
    exact proceed_moves found taken
  | giveUp =>
    obtain ⟨_, found, taken⟩ := taken
    split_ifs at taken with waits
    cases taken
    exact .moves found (.looks (by simp [waits.1]) rfl (by simp) (by simp))
      (by simp [waits.1]) barrier.objects
  | reset answer =>
    cases taken
    exact .resets answer
  | expire lease =>
    cases taken
    exact .expires lease

end Moves

end Dagens.Coordination.Barrier
