import Dagens.Lib.GuardedRun
import Dagens.Hitl.Callback

/-!
# Resuming one request

Everything that happens to one request id: callbacks, the queue of its jobs, the
workers that process them, and direct calls of `ResumeGraphFromCheckpoint`. Calls
proceed one store operation at a time, in any interleaving; each operation may
fail, and then changes nothing. Other requests use other keys and rows.

`processJob` and `ResumeGraphFromCheckpoint` take the same operations in part, so
one type of stages serves both.
-/

namespace Dagens.Hitl.Resumption

open Scheduler.GoSupport Callback

/-- An error of `resumeFromCheckpoint`. `authority` is whether `errors.Is` finds
a stale or a missing dispatch authority in it. -/
structure ResumeError where
  message : String
  authority : Bool
  deriving DecidableEq, Repr

def contains (text needle : String) : Bool := decide (needle.toList <:+: text.toList)

def isRetryable (err : ResumeError) : Bool :=
  err.authority || contains err.message "timeout" ||
    contains err.message "connection refused" || contains err.message "database is locked"

inductive Outcome where
  | completed
  | paused
  | failed (err : ResumeError)
  deriving DecidableEq, Repr

def maxResumptionAttempts : Nat := 3

/-- The checkpoint of the request. The store only sees whether there is a row;
`missing` is a request that never had one. -/
inductive CheckpointStatus where
  | missing
  | stored (failureCount : Nat)
  | deleted
  | replaced
  | deadLettered
  deriving DecidableEq, Repr

def CheckpointStatus.settled : CheckpointStatus → Bool
  | .deleted | .replaced | .deadLettered => true
  | .missing | .stored _ => false

def CheckpointStatus.isStored : CheckpointStatus → Bool
  | .stored _ => true
  | _ => false

/-- A job of the queue; `gone` is acknowledged, or taken out of the memory queue. -/
inductive JobStatus where
  | queued
  | delivered (time : Nat)
  | gone
  deriving DecidableEq, Repr

inductive QueueKind where
  | simpleInMemory
  | redis
  deriving DecidableEq, Repr

/-- A worker processes a job; a direct call has none. -/
inductive Origin where
  | worker (job : Nat)
  | direct
  deriving DecidableEq, Repr

/-- What a call does next. `failureCount` is the one of the loaded checkpoint;
`afterResume` says that a resume without error came before. -/
inductive ResumeStage where
  | load
  | validate (failureCount : Nat)
  | checkDone (failureCount : Nat)
  | markDone (failureCount : Nat)
  | resuming (failureCount : Nat)
  | recordFailure
  | unmarkDone
  | moveToDLQ (afterResume : Bool)
  | persist
  | deleteOld
  | deleteCheckpoint
  | releaseLock
  | acknowledge
  deriving DecidableEq, Repr

structure Activity where
  origin : Origin
  stage : ResumeStage
  deriving DecidableEq, Repr

/-- `replaces` is whether the checkpoint store has `Replace`; `claimIdle` counts
nanoseconds. -/
structure Config (Secret : Type) where
  signHMAC : Secret → String → String
  secret : Secret
  requestID : String
  queue : QueueKind
  claimIdle : Nat
  replaces : Bool

/-- Keys carry the time at which they expire. `returned` counts the resumes that
returned without error. -/
structure System where
  now : Nat
  checkpoint : CheckpointStatus
  doneKey : Option Nat
  processingKey : Option Nat
  jobs : List JobStatus
  handlers : List (Callback × Stage)
  active : List Activity
  returned : Nat
  deriving DecidableEq, Repr

def keyExists (key : Option Nat) (now : Nat) : Bool :=
  match key with
  | some expiry => decide (now < expiry)
  | none => false

/-- 24 hours. -/
def doneTTL : Nat := 86400000000000

def processingLockTTL : Nat := 300000000000

/-- What the environment decides: whether the store operation fails, whether the
checks of the stage pass, and what the resume returns. -/
structure Reply where
  fault : Bool
  accepted : Bool
  outcome : Outcome
  deriving DecidableEq, Repr

namespace System

/-- `checkpoint` after an operation that removes its row. -/
def remove (system : System) (status : CheckpointStatus) : System :=
  { system with checkpoint := if system.checkpoint.isStored then status else system.checkpoint }

def returnResume (system : System) : System := { system with returned := system.returned + 1 }

end System

section Operations

variable {Secret : Type} (config : Config Secret)

/-- `Ack` of a job: the memory queue has nothing left to acknowledge. -/
def ackJob (system : System) (job : Nat) : System :=
  match config.queue with
  | .simpleInMemory => system
  | .redis => { system with jobs := system.jobs.set job .gone }

/-- After the new checkpoint of a nested pause is persisted, and after that failed. -/
def persisted (origin : Origin) : Option ResumeStage :=
  match origin with
  | .worker _ => some .acknowledge
  | .direct => none

def notPersisted (origin : Origin) : Option ResumeStage :=
  match origin with
  | .worker _ => some (.moveToDLQ true)
  | .direct => none

/-- The stage after an error of `resumeFromCheckpoint`. -/
def afterFailure (origin : Origin) (failureCount : Nat) (err : ResumeError) : ResumeStage :=
  match origin with
  | .worker _ =>
    if isRetryable err ∧ failureCount < maxResumptionAttempts then .recordFailure
    else .moveToDLQ false
  | .direct => .unmarkDone

/-- The next operation of a call, and the stage after it; `none` when the call
has returned. -/
def operate (system : System) (activity : Activity) (reply : Reply) :
    System × Option ResumeStage :=
  match activity.stage with
  | .load =>
    if reply.fault then (system, none)
    else
      match system.checkpoint, activity.origin with
      | .stored failureCount, _ => (system, some (.validate failureCount))
      | _, .worker _ => (system, some .acknowledge)
      | _, .direct => (system, none)
  | .validate failureCount =>
    match activity.origin, reply.accepted with
    | .worker _, true => (system, some (.markDone failureCount))
    | .worker _, false => (system, some (.moveToDLQ false))
    | .direct, true => (system, some (.checkDone failureCount))
    | .direct, false => (system, none)
  | .checkDone failureCount =>
    if reply.fault ∨ keyExists system.doneKey system.now then (system, none)
    else (system, some (.markDone failureCount))
  | .markDone failureCount =>
    if reply.fault then (system, none)
    else ({ system with doneKey := some (system.now + doneTTL) },
      some (.resuming failureCount))
  | .resuming failureCount =>
    match reply.outcome with
    | .completed => (system.returnResume, some .deleteCheckpoint)
    | .paused => (system.returnResume, some .persist)
    | .failed err => (system, some (afterFailure activity.origin failureCount err))
  | .recordFailure =>
    match system.checkpoint with
    | .stored failureCount =>
      if reply.fault then (system, none)
      else ({ system with checkpoint := .stored (failureCount + 1) }, none)
    | _ => (system, none)
  | .unmarkDone =>
    (if reply.fault then system else { system with doneKey := none }, none)
  | .moveToDLQ _ =>
    (if reply.fault then system else system.remove .deadLettered, some .acknowledge)
  | .persist =>
    if reply.accepted = false ∨ reply.fault then (system, notPersisted activity.origin)
    else if config.replaces then
      if system.checkpoint.isStored then
        (system.remove .replaced, persisted activity.origin)
      else (system, notPersisted activity.origin)
    else (system, some .deleteOld)
  | .deleteOld =>
    if reply.accepted = false then (system, notPersisted activity.origin)
    else (if reply.fault then system else system.remove .replaced, persisted activity.origin)
  | .deleteCheckpoint =>
    let after := if reply.fault then system else system.remove .deleted
    match activity.origin, reply.fault with
    | .worker _, _ => (after, some .releaseLock)
    | .direct, true => (after, some .recordFailure)
    | .direct, false => (after, none)
  | .releaseLock =>
    (if reply.fault then system else { system with processingKey := none }, some .acknowledge)
  | .acknowledge =>
    match activity.origin, reply.fault with
    | .worker job, false => (ackJob config system job, none)
    | _, _ => (system, none)

inductive Action where
  | elapse (duration : Nat)
  | callback (call : Callback)
  | handle (index : Nat) (fault : Option GoError) (full : Bool)
  | deliver (job : Nat)
  | resume
  | act (index : Nat) (reply : Reply)
  deriving DecidableEq, Repr

/-- What the stores answer to a handler; only the memory queue can be full. -/
def answersOf (system : System) (fault : Option GoError) (full : Bool) : StoreAnswers where
  processed :=
    match fault with
    | some err => .error err
    | none => .ok (keyExists system.doneKey system.now)
  wasSet :=
    match fault with
    | some err => .error err
    | none => .ok (!keyExists system.processingKey system.now)
  enqueued :=
    if full ∧ config.queue = .simpleInMemory then some .serviceOverloaded
    else fault.map .failed

/-- The effect of a handler's operation on the stores. -/
def handled (system : System) (stage : Stage) (answers : StoreAnswers) (fault : Option GoError) :
    System :=
  match stage with
  | .lock =>
    match answers.wasSet with
    | .ok true => { system with processingKey := some (system.now + processingLockTTL) }
    | _ => system
  | .enqueue =>
    match answers.enqueued with
    | none => { system with jobs := system.jobs ++ [.queued] }
    | some _ => system
  | .unlock _ =>
    match fault with
    | none => { system with processingKey := none }
    | some _ => system
  | _ => system

/-- `Dequeue`: a new message, or one that has been idle for `claimIdle`. -/
def delivery (system : System) (status : JobStatus) : Option JobStatus :=
  match config.queue, status with
  | .simpleInMemory, .queued => some .gone
  | .redis, .queued => some (.delivered system.now)
  | .redis, .delivered time =>
    if time + config.claimIdle ≤ system.now then some (.delivered system.now) else none
  | _, _ => none

def step (system : System) : Action → Option System
  | .elapse duration => some { system with now := system.now + duration }
  | .callback call =>
    if call.requestID = config.requestID then
      some { system with handlers := system.handlers ++ [(call, .verify)] }
    else none
  | .handle index fault full =>
    match system.handlers[index]? with
    | none => none
    | some (call, stage) =>
      let answers := answersOf config system fault full
      let next := handleStep config.signHMAC config.secret call system.now answers stage
      some { handled system stage answers fault with
        handlers := system.handlers.set index (call, next) }
  | .deliver job =>
    match system.jobs[job]? with
    | none => none
    | some status =>
      (delivery config system status).map fun next =>
        { system with
          jobs := system.jobs.set job next
          active := system.active ++ [⟨.worker job, .load⟩] }
  | .resume => some { system with active := system.active ++ [⟨.direct, .load⟩] }
  | .act index reply =>
    match system.active[index]? with
    | none => none
    | some activity =>
      let (after, next) := operate config system activity reply
      match next with
      | some stage =>
        some { after with active := system.active.set index { activity with stage := stage } }
      | none => some { after with active := system.active.eraseIdx index }

/-- Handlers touch neither the calls nor the checkpoint; they may enqueue a job. -/
structure HandlerFrame (system after : System) : Prop where
  checkpoint : after.checkpoint = system.checkpoint
  returned : after.returned = system.returned
  active : after.active = system.active
  jobs : after.jobs = system.jobs ∨ after.jobs = system.jobs ++ [.queued]

theorem handled_frame (system : System) (stage : Stage) (answers : StoreAnswers)
    (fault : Option GoError) : HandlerFrame system (handled system stage answers fault) := by
  unfold handled
  split
  · split <;> exact ⟨rfl, rfl, rfl, .inl rfl⟩
  · split
    · exact ⟨rfl, rfl, rfl, .inr rfl⟩
    · exact ⟨rfl, rfl, rfl, .inl rfl⟩
  · split <;> exact ⟨rfl, rfl, rfl, .inl rfl⟩
  · exact ⟨rfl, rfl, rfl, .inl rfl⟩

end Operations

/-- Nothing has been sent or resumed yet; keys and checkpoint may be any. -/
structure Fresh (system : System) : Prop where
  jobs : system.jobs = []
  handlers : system.handlers = []
  active : system.active = []
  returned : system.returned = 0

def sampleConfig (queue : QueueKind) : Config Unit where
  signHMAC := fun _ payload => payload
  secret := ()
  requestID := "hitl-1"
  queue := queue
  claimIdle := 30000000000
  replaces := true

def waiting : System where
  now := 0
  checkpoint := .stored 0
  doneKey := none
  processingKey := none
  jobs := []
  handlers := []
  active := []
  returned := 0

def fine (outcome : Outcome) : Reply := ⟨false, true, outcome⟩

/-- A callback that is enqueued as job 0. -/
def answeredCallback : List Action :=
  [.callback ⟨"hitl-1", 0, "hitl-1:0", none⟩, .handle 0 none false, .handle 0 none false,
    .handle 0 none false, .handle 0 none false]

/-- A worker takes job 0 and gets as far as the resume. -/
def workedUpTo (index : Nat) : List Action :=
  .deliver 0 :: List.replicate 3 (.act index (fine .completed))

/-- The resume completes, and the job is acknowledged. -/
def servedAnswer : List Action :=
  answeredCallback ++ workedUpTo 0 ++ List.replicate 4 (.act 0 (fine .completed))

end Dagens.Hitl.Resumption
