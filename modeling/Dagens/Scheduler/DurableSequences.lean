import Dagens.Scheduler.TableRefs

/-!
# Sequence numbers that come from the store

Over a store with `NextSequenceID` the numbers of records are the store's, and
the process's own `jobSequences` changes only when it is seeded. The locked part
of a reconcile pass still compares the replay with `jobSequences`, so a replay
that was read long ago can look newer than the memory. Executions and passes
leave a terminal job alone exactly when the locked part never meets a terminal
job with an unfinished replay that looks newer, and no quarantine is forced on a
job that has ended otherwise.
-/

namespace Dagens.Scheduler.DurableSequences

open Lib GuardedRun Lifecycle GoSupport Replay Transitions StoreEffects Reconcile Memory Machine
  MachineMoves Wiring Ledger JobHistory TableRefs Option Function

variable {Input : Type} [GoRuntime Input]

/-- The counters in the machine's scheduler are the store's; `seeded` is the
`jobSequences` map of the process. -/
structure DurableState (Input : Type) [GoRuntime Input] where
  machine : Machine Input
  seeded : String → Nat

def recount (machine : Machine Input) (counters : String → Nat) : Machine Input :=
  { machine with sched := { machine.sched with jobSequences := counters } }

/-- The locked part of a pass, which reads and seeds `jobSequences`. -/
def appliesReplay (machine : Machine Input) (action : Action Input) : Bool :=
  match actionAccess machine action with
  | .warm _ => true
  | _ => false

/-- Executions and passes; every other step with a number asks the store. -/
def durableStep (state : DurableState Input) (action : Action Input) :
    Option (DurableState Input) :=
  if callAction action then
    if appliesReplay state.machine action then
      (machineStep (recount state.machine state.seeded) action).map fun after =>
        ⟨recount after state.machine.sched.jobSequences, after.sched.jobSequences⟩
    else (machineStep state.machine action).map fun after => ⟨after, state.seeded⟩
  else none

def ended (state : Option JobLifecycleState) : Bool := state.any isTerminalJobState

/-- A terminal job meets a replay that does not look newer or has ended, too. -/
def applySpares (state : DurableState Input) (replayed : ReplayedJobState) : Bool :=
  match registeredJob state.machine.sched replayed.job.jobID with
  | none => true
  | some job =>
    !ended job.lifecycleState ||
      decide (replayed.job.lastSequenceID ≤ state.seeded replayed.job.jobID) ||
      ended replayed.job.currentState

def forceSpares (sched : Scheduler Input) (ref : Nat) : Bool :=
  !ended (lifecycleOf sched ref) || decide (lifecycleOf sched ref = some .failed)

def passSpares (state : DurableState Input) : PassPC → Bool
  | .locking _ replayed _ => applySpares state replayed
  | .forcing ref _ _ => forceSpares state.machine.sched ref
  | _ => true

def sparesTerminal (state : DurableState Input) : Action Input → Bool
  | .thread pid (.step _) =>
    match threadOf state.machine pid with
    | some (.pass pass) => passSpares state pass.pc
    | _ => true
  | _ => true

/-- The table's object of a job that has ended keeps its state. -/
def TerminalKept (sched after : Scheduler Input) : Prop :=
  ∀ jobID job state, registeredJob sched jobID = some job → isTerminalJobState state = true →
    job.lifecycleState = some state →
    ∃ later, registeredJob after jobID = some later ∧ later.lifecycleState = some state

/-- A job whose history has ended has ended in memory, in the same state. -/
def EndsTracked (sched : Scheduler Input) : Prop :=
  ∀ jobID job record state, registeredJob sched jobID = some job →
    lastJobRecord (sched.store.transitions jobID) = some record →
    isTerminalJobState state = true → record.newState = state.text →
    job.lifecycleState = some state

/-- `executeJob` has been called any number of times, and nothing else runs yet. -/
structure Starts (state : DurableState Input) : Prop where
  grounded : Grounded state.machine
  calls : ∀ pid thread, threadOf state.machine pid = some thread → ∃ ref, thread = .entering ref
  ends : EndsTracked state.machine.sched

variable {sched after : Scheduler Input} {ref : Nat} {job : Job Input} {state : DurableState Input}
  {replayed : ReplayedJobState} {row : DurableJobRecord} {machine : Machine Input}
  {action : Action Input}

attribute [local simp] registeredJob tableHolds passAccess access ended lifecycleOf forceSpares

section

omit [GoRuntime Input]

theorem kept_of_objects (jobs : after.jobs = sched.jobs)
    (objects : ∀ ref job, sched.objects ref = some job → ∃ later, after.objects ref = some later ∧ ∀
      state, isTerminalJobState state = true → job.lifecycleState = some state →
      later.lifecycleState = some state) : TerminalKept sched after := by
  intro _ job state registered terminal isState
  obtain ⟨ref, entry, found⟩ := bind_eq_some_iff.mp registered
  obtain ⟨later, foundLater, kept⟩ := objects ref job found
  exact ⟨later, by simp [jobs, entry, foundLater], kept state terminal isState⟩

theorem kept_steady (jobs : after.jobs = sched.jobs)
    (objects : ∀ ref, Option.Rel Unmoved (sched.objects ref) (after.objects ref)) :
    TerminalKept sched after := by
  refine kept_of_objects jobs fun ref job found => ?_
  have related := objects ref
  rw [found] at related
  generalize after.objects ref = object at related ⊢
  cases related with
  | some same => exact ⟨_, rfl, fun state _ isState => by rw [same.state, isState]⟩

theorem kept_set {later : Job Input} (jobs : after.jobs = sched.jobs)
    (found : sched.objects ref = some job)
    (objects : after.objects = update sched.objects ref (some later))
    (kept : ∀ state, isTerminalJobState state = true → job.lifecycleState = some state →
      later.lifecycleState = some state) : TerminalKept sched after := by
  refine kept_of_objects jobs fun other object atOther => ?_
  rw [objects]
  by_cases same : other = ref
  · subst same
    rw [found] at atOther
    cases atOther
    exact ⟨later, update_self .., kept⟩
  · exact ⟨object, by rw [update_of_ne same]; exact atOther, fun _ _ isState => isState⟩

theorem kept_registered (wired : Wired sched) (registers : Registers sched job after) :
    TerminalKept sched after := by
  intro jobID other _ registered _ isState
  obtain ⟨ref, entry, found⟩ := bind_eq_some_iff.mp registered
  have known : jobID ≠ job.id := by
    rintro rfl
    rw [registers.unknown] at entry
    cases entry
  have older : ref ≠ sched.nextRef := by
    rintro rfl
    rw [wired.unused _ le_rfl] at found
    cases found
  refine ⟨other, ?_, isState⟩
  simp [registers.jobs, registers.objects, known, older, entry, found]

end

theorem kept_move {access : Access} (wired : Wired sched) (move : SchedMove sched access after)
    (uninstalled : ∀ jobID replayed, access ≠ .install jobID replayed)
    (unforced : ∀ row, access ≠ .force row)
    (applied : ∀ replayed job state, access = .warm replayed → registeredJob sched
      replayed.job.jobID = some job → isTerminalJobState state = true → job.lifecycleState = some
      state → sched.jobSequences replayed.job.jobID < replayed.job.lastSequenceID →
      replayed.job.currentState = some state) : TerminalKept sched after := by
  cases move with
  | steady _ same | prepared _ same => exact kept_steady same.jobs same.objects
  | recorded ref transition newState errorSummary now fault =>
    rcases record_job_transition_cases sched ref transition newState errorSummary now fault with
      same | ⟨job, found, allowed, taken | ⟨_, row, rfl, rfl, _, moved⟩⟩
    · rw [same]
      exact kept_steady rfl fun _ => rel_refl unmoved_refl _
    · rw [taken]
      exact kept_steady rfl fun _ => rel_refl unmoved_refl _
    · rw [moved]
      refine kept_set rfl found rfl fun state terminal isState => ?_
      rw [isState] at allowed
      cases state <;> cases terminal <;> cases newState <;> first | rfl | cases allowed
  | reported _ _ task write found =>
    obtain ⟨_, steady⟩ := commit_steady found (taskCommitted task write sched.store) write.newState
    exact kept_steady steady.jobs steady.objects
  | claimed _ _ task write found =>
    obtain ⟨_, steady⟩ := commit_steady found (claimCommitted task write sched.store) .dispatched
    exact kept_steady steady.jobs steady.objects
  | registered _ registers | warmed _ _ registers =>
    exact kept_registered wired registers
  | linked ref job found unknown =>
    have known := wired.heap ref job found
    simp [unknown] at known
  | installed jobID replayed => exact absurd rfl (uninstalled jobID replayed)
  | caughtUp replayed _ job entry found behind =>
    refine kept_set rfl found rfl fun state terminal isState => ?_
    exact applied replayed job state rfl (by simp [entry, found]) terminal
      isState behind
  | forced _ row => exact absurd rfl (unforced row)

theorem job_text_injective {state other : JobLifecycleState} (same : state.text = other.text) :
    state = other := by
  have parsed := congrArg JobLifecycleState.parse same
  simpa using parsed

section

omit [GoRuntime Input]

variable {jobID : String} {record : TransitionRecord}

theorem registered_of_record (wired : Wired sched) (sound : StoreSound sched)
    (last : lastJobRecord (sched.store.transitions jobID) = some record) :
    ∃ job, registeredJob sched jobID = some job := by
  obtain ⟨member, isJob⟩ := last_job_record_mem last
  obtain ⟨ref, entry⟩ := isSome_iff_exists.mp (sound.jobsKnown jobID record member isJob)
  obtain ⟨job, found, _⟩ := wired.entries jobID ref entry
  exact ⟨job, by simp [entry, found]⟩

theorem ends_kept (wired : Wired sched) (sound : StoreSound sched) (ends : EndsTracked sched)
    (kept : TerminalKept sched after)
    (log : lastJobRecord (after.store.transitions jobID) = lastJobRecord (sched.store.transitions
      jobID)) {state : JobLifecycleState} (registered : registeredJob after jobID = some job)
    (last : lastJobRecord (after.store.transitions jobID) = some record)
    (terminal : isTerminalJobState state = true) (moved : record.newState = state.text) :
    job.lifecycleState = some state := by
  rw [log] at last
  obtain ⟨earlier, before⟩ := registered_of_record wired sound last
  obtain ⟨_, isLater, isState⟩ := kept jobID earlier state before terminal
    (ends jobID earlier record state before last terminal moved)
  rw [registered, Option.some.injEq] at isLater
  rw [isLater, isState]

theorem ends_move {access : Access} (wired : Wired sched) (sound : StoreSound sched)
    (ends : EndsTracked sched) (accesses : AccessSound sched access)
    (table : ∀ ref, access = .jobTransition ref → tableHolds sched ref = true)
    (move : StoreMove sched access after) (kept : TerminalKept sched after) :
    EndsTracked after := by
  intro jobID job _ _ registered last terminal moved
  cases move with
  | unchanged _ store =>
    exact ends_kept wired sound ends kept (by rw [store]) registered last terminal moved
  | job ref owner transition newState errorSummary now found _ _ store _ jobs objects =>
    have entry : sched.jobs owner.id = some ref := by
      simpa [found] using table ref rfl
    by_cases same : jobID = owner.id
    · subst same
      have isLast : lastJobRecord (after.store.transitions owner.id) = some (jobRecord
          (nextSequence sched owner.id) owner transition newState errorSummary now) := by
        rw [store, upsert_job_transitions]
        exact last_job_appended (sound.logs owner.id) rfl (Nat.lt_succ_self _)
      rw [isLast] at last
      cases last
      obtain rfl : { owner with lifecycleState := some newState } = job := by
        simpa [jobs, objects, entry] using registered
      exact congrArg some (job_text_injective moved)
    · refine ends_kept wired sound ends kept ?_ registered last terminal moved
      have elsewhere : jobID ≠ (jobRecord (nextSequence sched owner.id) owner transition newState
          errorSummary now).jobID := same
      rw [store, upsert_job_transitions, appended_transitions, if_neg elsewhere]
  | task prepared _ _ _ _ transitions =>
    refine ends_kept wired sound ends kept ?_ registered last terminal moved
    rw [transitions, last_job_appended_task (sound.logs _).sorted
      (PendingSound.entity (accesses (.pending prepared) rfl))]
  | forced _ _ store =>
    refine ends_kept wired sound ends kept ?_ registered last terminal moved
    rw [store, upsert_job_transitions]

end

/-- A replay that has ended was read when memory had ended, too. -/
def ReplayTracked (sched : Scheduler Input) (replayed : ReplayedJobState) : Prop :=
  ∀ state, isTerminalJobState state = true → replayed.job.currentState = some state →
    ∃ job, registeredJob sched replayed.job.jobID = some job ∧ job.lifecycleState = some state

omit [GoRuntime Input] in
theorem replay_tracked_kept (tracked : ReplayTracked sched replayed)
    (kept : TerminalKept sched after) :
    ReplayTracked after replayed := by
  intro state terminal isState
  obtain ⟨job, registered, same⟩ := tracked state terminal isState
  exact kept _ job state registered terminal same

omit [GoRuntime Input] in
theorem fresh_replay_tracked (wired : Wired sched) (sound : StoreSound sched)
    (ends : EndsTracked sched) {raw : ReplayedJobState} {ctxErr : Option GoError}
    (replays : replayJobState ctxErr sched.store row.jobID = .ok raw) :
    ReplayTracked sched (completeReplay row raw) := by
  intro state terminal isState
  obtain ⟨accepted, own, _⟩ := replay_job_state_ok replays
  have replayed : KeyedReplay.replayOne follow none
      (jobRecords (sched.store.transitions row.jobID)) =
        some (raw.job.currentState.map .job) := replayed_control accepted none
  have same : raw.job.currentState = some state := isState
  cases last : lastJobRecord (sched.store.transitions row.jobID) with
  | none =>
    have empty : jobRecords (sched.store.transitions row.jobID) = [] :=
      List.getLast?_eq_none_iff.mp last
    rw [empty, same] at replayed
    simp [KeyedReplay.replayOne] at replayed
  | some record =>
    obtain ⟨member, entity⟩ := last_job_record_mem last
    obtain ⟨job, registered⟩ := registered_of_record wired sound last
    have text : record.newState = state.text := by
      have moved := job_record_state entity ((sound.logs row.jobID).filed record member).1
        (replay_one_last last replayed)
      rw [moved, same]
      rfl
    refine ⟨job, ?_, ends row.jobID job record state registered last terminal text⟩
    show registeredJob sched raw.job.jobID = some job
    rw [own]
    exact registered

structure Tracked (state : DurableState Input) : Prop extends Grounded state.machine where
  calls : Calls state.machine
  ends : EndsTracked state.machine.sched
  replays : ∀ replayed, Carries state.machine (.warming replayed) →
    ReplayTracked state.machine.sched replayed

/-- A step of a pass in the locked part of its loop body. -/
structure Locked (machine : Machine Input) (action : Action Input) (replayed : ReplayedJobState)
    where
  pid : Nat
  oracle : Oracle
  pass : Pass
  durableJob : DurableJobRecord
  todo : List DurableJobRecord
  isStep : action = .thread pid (.step oracle)
  lives : threadOf machine pid = some (.pass pass)
  locking : pass.pc = .locking durableJob replayed todo

theorem locked_of_access (applies : actionAccess machine action = .warm replayed) :
    Nonempty (Locked machine action replayed) := by
  cases action with
  | thread pid event =>
    simp only [actionAccess] at applies
    split at applies
    · rename_i thread lives
      have uses : accessItem (access machine.sched thread event) = some (.warming replayed) := by
        rw [applies]
        rfl
      have holds := access_holds machine.sched thread event uses
      cases holds with
      | warming pass durableJob _ todo locking =>
        cases event with
        | step oracle => exact ⟨⟨pid, oracle, pass, durableJob, todo, rfl, lives, locking⟩⟩
        | launch | work | report | cancel | expire =>
          cases applies
    · cases applies
  | _ => cases applies

def lockedMachine (machine : Machine Input) {action : Action Input} {replayed : ReplayedJobState}
    (locked : Locked machine action replayed) : Machine Input :=
  let result := lockStep machine.sched locked.pass locked.durableJob replayed locked.todo
    locked.oracle
  { machine with
    sched := result.1
    threads := machine.threads.set locked.pid
      (result.2.map fun pc => .pass { locked.pass with pc := pc }) }

attribute [local simp] lockedMachine

theorem locked_step (locked : Locked machine action replayed) :
    machineStep machine action = some (lockedMachine machine locked) := by
  obtain ⟨_, _, _, _, _, rfl, lives, locking⟩ := locked
  simp [machineStep, lives, threadStep, passStep, locking, resumed, outcome]

/-- The same step with other counters. -/
def Locked.recount {machine : Machine Input} {action : Action Input} {replayed : ReplayedJobState}
    (locked : Locked machine action replayed) (counters : String → Nat) :
    Locked (recount machine counters) action replayed :=
  ⟨locked.pid, locked.oracle, locked.pass, locked.durableJob, locked.todo, locked.isStep,
    locked.lives, locked.locking⟩

theorem locked_items (locked : Locked machine action replayed) {item : Item}
    (carried : Carries (lockedMachine machine locked) item) : Carries machine item := by
  obtain ⟨pid, _, pass, durableJob, _, rfl, lives, locking⟩ := locked
  obtain ⟨other, thread, livesAfter, holds⟩ := carried
  simp only [threadOf, lockedMachine, List.getElem?_set] at livesAfter
  split_ifs at livesAfter with same inside
  · simp only [lockStep, map_some, join_some] at livesAfter
    cases livesAfter
    cases holds with
    | warming _ _ _ _ again => split_ifs at again
    | listing _ row member =>
      refine ⟨pid, .pass pass, lives, .listing pass row ?_⟩
      rw [locking]
      split_ifs at member
      · exact member
      · exact List.mem_cons_of_mem durableJob member
  · cases livesAfter
  · exact ⟨other, thread, livesAfter, holds⟩

theorem grounded_quiet {after : Machine Input} (grounded : Grounded machine)
    (wired : Wired after.sched) (store : after.sched.store = machine.sched.store)
    (sequences : after.sched.jobSequences = machine.sched.jobSequences)
    (known : ∀ jobID, (machine.sched.jobs jobID).isSome → (after.sched.jobs jobID).isSome)
    (objects : ∀ ref job, machine.sched.objects ref = some job → ∃ later, after.sched.objects ref =
      some later ∧ Kept job later) (items : ∀ item, Carries after item → Carries machine item) :
    Grounded after := by
  have counted : ∀ jobID sequenceID, Counted machine.sched jobID sequenceID →
      Counted after.sched jobID sequenceID := fun jobID sequenceID sound =>
    ⟨known jobID sound.known, by rw [sequences]; exact sound.covered⟩
  refine ⟨wired, ⟨?_, ?_, ?_, ?_⟩, ?_⟩
  · rw [store, sequences]
    exact grounded.store.logs
  · rw [store]
    exact fun jobID record member isJob =>
      known jobID (grounded.store.jobsKnown jobID record member isJob)
  · rw [store]
    exact fun jobID row found => ⟨(grounded.store.rows jobID row found).1,
      counted _ _ (grounded.store.rows jobID row found).2⟩
  · rw [store]
    exact grounded.store.tasks
  · intro item carried
    exact item_sound_kept (fun jobID => by rw [sequences]) known objects
      (grounded.items item (items item carried))

omit [GoRuntime Input] in
theorem wired_recount (wired : Wired sched) (counters : String → Nat) :
    Wired { sched with jobSequences := counters } :=
  ⟨wired.entries, wired.unused, wired.heap⟩

/-- The state after the locked part, whose counters are the process's own. -/
def lockedState (state : DurableState Input) {action : Action Input}
    {replayed : ReplayedJobState} (locked : Locked state.machine action replayed) :
    DurableState Input :=
  let after := lockedMachine (recount state.machine state.seeded) (locked.recount state.seeded)
  ⟨recount after state.machine.sched.jobSequences, after.sched.jobSequences⟩

theorem durable_step_cases {after : DurableState Input}
    (taken : durableStep state action = some after) :
    callAction action = true ∧
      ((∃ replayed, ∃ locked : Locked state.machine action replayed,
          after = lockedState state locked) ∨
        (∀ replayed, actionAccess state.machine action ≠ .warm replayed) ∧
          machineStep state.machine action = some after.machine ∧ after.seeded = state.seeded) := by
  unfold durableStep at taken
  split_ifs at taken with scope applies
  · refine ⟨scope, .inl ?_⟩
    unfold appliesReplay at applies
    split at applies
    · rename_i replayed isWarm
      obtain ⟨locked⟩ := locked_of_access isWarm
      rw [locked_step (locked.recount state.seeded)] at taken
      cases taken
      exact ⟨replayed, locked, rfl⟩
    · cases applies
  · obtain ⟨_, moved, rfl⟩ := map_eq_some_iff.mp taken
    refine ⟨scope, .inr ⟨?_, moved, rfl⟩⟩
    intro replayed isWarm
    simp [appliesReplay, isWarm] at applies

theorem locked_move (locked : Locked state.machine action replayed) :
    SchedMove (recount state.machine state.seeded).sched (.warm replayed)
      (lockedMachine (recount state.machine state.seeded) (locked.recount state.seeded)).sched :=
  warm_move _ replayed _

theorem locked_carries (locked : Locked machine action replayed) :
    Carries machine (.warming replayed) :=
  ⟨locked.pid, .pass locked.pass, locked.lives,
    .warming locked.pass locked.durableJob replayed locked.todo locked.locking⟩

theorem locked_spares (locked : Locked state.machine action replayed) :
    sparesTerminal state action = applySpares state replayed := by
  obtain ⟨_, _, _, _, _, rfl, lives, locking⟩ := locked
  simp [sparesTerminal, lives, passSpares, locking]

theorem call_access_uninstalled (calls : Calls machine) (action : Action Input) (jobID : String)
    (replayed : ReplayedJobState) :
    actionAccess machine action ≠ .install jobID replayed := by
  cases action with
  | thread pid =>
    simp only [actionAccess]
    split
    · rename_i thread lives
      exact call_uninstalled (calls.calls pid thread lives) jobID replayed
    · rintro ⟨⟩
  | _ => rintro ⟨⟩

theorem call_access_table (calls : Calls machine) (action : Action Input) (ref : Nat)
    (records : actionAccess machine action = .jobTransition ref) :
    tableHolds machine.sched ref = true := by
  cases action with
  | thread pid =>
    simp only [actionAccess] at records
    split at records
    · rename_i thread lives
      exact calls.table pid thread ref lives (access_points (calls.calls pid thread lives) records)
    · cases records
  | _ => cases records

theorem forced_of_access {after : Machine Input} (forces : actionAccess machine action = .force row)
    (taken : machineStep machine action = some after) :
    ∃ pid oracle pass ref todo, action = .thread pid (.step oracle) ∧
      threadOf machine pid = some (.pass pass) ∧ pass.pc = .forcing ref row todo ∧
      after.sched = forceStep machine.sched ref row machine.now oracle.fault := by
  cases action with
  | thread pid event =>
    obtain ⟨thread, lives, stepped⟩ := bind_eq_some_iff.mp taken
    obtain ⟨_, moved, same⟩ := bind_eq_some_iff.mp stepped
    cases same
    simp only [actionAccess, lives] at forces
    have uses : accessItem (access machine.sched thread event) = some (.listing row) := by
      rw [forces]
      rfl
    have holds := access_holds machine.sched thread event uses
    cases holds with
    | listing pass =>
      cases event with
      | step oracle =>
        cases atPC : pass.pc with
        | forcing ref _ todo =>
          simp only [access, atPC, passAccess, Access.force.injEq] at forces
          subst forces
          refine ⟨pid, oracle, pass, ref, todo, rfl, lives, atPC, ?_⟩
          simp only [threadStep, passStep, atPC] at moved
          cases moved
          rfl
        | queueing | deciding =>
          simp only [access, atPC, passAccess] at forces
          split_ifs at forces
        | _ => simp [atPC] at forces
      | launch | work | report | cancel | expire => cases forces
  | _ => cases forces

theorem kept_of_spares {after : DurableState Input} (tracked : Tracked state)
    (spared : sparesTerminal state action = true) (taken : durableStep state action = some after) :
    TerminalKept state.machine.sched after.machine.sched := by
  obtain ⟨_, ⟨replayed, locked, rfl⟩ | ⟨unlocked, moved, _⟩⟩ := durable_step_cases taken
  · rw [locked_spares locked] at spared
    suffices keeps : TerminalKept (recount state.machine state.seeded).sched (lockedMachine
        (recount state.machine state.seeded) (locked.recount state.seeded)).sched from keeps
    refine kept_move (wired_recount tracked.wired state.seeded) (locked_move locked)
      (by rintro _ _ ⟨⟩) (by rintro _ ⟨⟩) ?_
    rintro _ job ended ⟨⟩ registered terminal isEnded behind
    -- the guard leaves a replay that has ended, and that one was read after the job had
    have looked : registeredJob state.machine.sched replayed.job.jobID = some job := registered
    have newer : ¬ replayed.job.lastSequenceID ≤ state.seeded replayed.job.jobID :=
      not_le.mpr behind
    simp only [applySpares, looked, isEnded, DurableSequences.ended, any_some, terminal,
      Bool.not_true, newer, decide_false, Bool.or_self, Bool.false_or, Option.any_eq_true]
      at spared
    obtain ⟨final, isFinal, finalTerminal⟩ := spared
    obtain ⟨_, sameOwner, sameState⟩ := tracked.replays replayed (locked_carries locked) final
      finalTerminal isFinal
    rw [looked, Option.some.injEq] at sameOwner
    rw [isFinal, ← sameState, ← sameOwner, isEnded]
  · have move := (grounded_move tracked.toGrounded moved).move
    by_cases forces : ∃ row, actionAccess state.machine action = .force row
    · obtain ⟨row, isForce⟩ := forces
      obtain ⟨_, _, _, _, _, rfl, lives, forcing, forced⟩ :=
        forced_of_access isForce moved
      rw [forced]
      simp only [sparesTerminal, lives, passSpares, forcing] at spared
      unfold forceStep
      split
      · exact kept_steady rfl fun _ => rel_refl unmoved_refl _
      · rename_i job found
        have failed : ∀ state, isTerminalJobState state = true → job.lifecycleState = some state →
            some JobLifecycleState.failed = some state := by
          intro state terminal isState
          simp only [forceSpares, lifecycleOf, found, bind_some, isState, ended,
            any_some, terminal, Bool.not_true, Bool.false_or, decide_eq_true_eq] at spared
          exact spared.symm
        dsimp only
        split <;> exact kept_set rfl found rfl failed
    · refine kept_move tracked.wired move (call_access_uninstalled tracked.calls action)
        (fun row isForce => forces ⟨row, isForce⟩) ?_
      intro replayed _ _ isWarm
      exact absurd isWarm (unlocked replayed)

theorem tracked_locked (tracked : Tracked state) (locked : Locked state.machine action replayed)
    (scope : callAction action = true)
    (kept : TerminalKept state.machine.sched (lockedState state locked).machine.sched) :
    Tracked (lockedState state locked) := by
  have wired := wired_recount tracked.wired state.seeded
  have move := locked_move locked
  have store : (lockedState state locked).machine.sched.store = state.machine.sched.store := by
    cases move_store move with
    | unchanged _ store => exact store
  have grounded : Grounded (lockedState state locked).machine := by
    refine grounded_quiet tracked.toGrounded (wired_recount (move_wired wired move) _) store rfl
      (fun jobID => move_keeps_known wired move) (fun ref job => move_keeps_objects wired move) ?_
    exact fun item carried => locked_items (locked.recount state.seeded) carried
  have before : Calls (recount state.machine state.seeded) :=
    ⟨tracked.calls.calls, tracked.calls.table⟩
  have calls := calls_step wired before scope (locked_step (locked.recount state.seeded))
    fun ref => table_holds_move wired (by rintro _ _ ⟨⟩) move
  refine ⟨grounded, ⟨calls.calls, calls.table⟩, ?_, ?_⟩
  · intro jobID job _ _ registered last terminal moved
    exact ends_kept tracked.wired tracked.store tracked.ends kept (by rw [store]) registered last
      terminal moved
  · intro other carried
    exact replay_tracked_kept
      (tracked.replays other (locked_items (locked.recount state.seeded) carried)) kept

theorem tracked_of_kept {after : DurableState Input} (tracked : Tracked state)
    (taken : durableStep state action = some after)
    (kept : TerminalKept state.machine.sched after.machine.sched) : Tracked after := by
  obtain ⟨scope, ⟨_, locked, rfl⟩ | ⟨_, moved, _⟩⟩ := durable_step_cases taken
  · exact tracked_locked tracked locked scope kept
  · have move := (grounded_move tracked.toGrounded moved).move
    refine ⟨grounded_step _ action _ tracked.toGrounded moved, ?_, ?_, ?_⟩
    · exact calls_step tracked.wired tracked.calls scope moved fun ref =>
      table_holds_move tracked.wired (call_access_uninstalled tracked.calls action) move
    · exact ends_move tracked.wired tracked.store tracked.ends
        (grounded_access tracked.toGrounded action) (call_access_table tracked.calls action)
        (move_store move) kept
    · intro replayed carried
      rcases (grounded_move tracked.toGrounded moved).items _ carried with old | acquired
      · exact replay_tracked_kept (tracked.replays replayed old) kept
      · cases acquired with
        | replayed _ _ _ _ replays =>
          exact replay_tracked_kept
            (fresh_replay_tracked tracked.wired tracked.store tracked.ends replays) kept

theorem locked_leaves (locked : Locked state.machine action replayed)
    (kept : TerminalKept state.machine.sched (lockedState state locked).machine.sched) :
    applySpares state replayed = true := by
  cases registered : registeredJob state.machine.sched replayed.job.jobID with
  | none => simp [-registeredJob, applySpares, registered]
  | some job =>
    by_contra unspared
    simp only [applySpares, registered, Bool.or_eq_true, Bool.not_eq_true', decide_eq_true_eq,
      not_or, Bool.not_eq_false, not_le] at unspared
    obtain ⟨⟨isEnded, behind⟩, unfinished⟩ := unspared
    obtain ⟨final, isFinal, terminal⟩ : ∃ final, job.lifecycleState = some final ∧
        isTerminalJobState final = true := by
      simpa [Option.any_eq_true] using isEnded
    obtain ⟨_, entry, found⟩ := bind_eq_some_iff.mp registered
    obtain ⟨_, isLater, sameState⟩ := kept _ job final registered terminal isFinal
    have moved : registeredJob (lockedState state locked).machine.sched replayed.job.jobID =
        some { job with
          lifecycleState := replayed.job.currentState
          updatedAt := replayed.job.updatedAt } := by
      simp [lockedState, lockStep, warmJob, recount, entry, found, behind, seedJobSequence,
        setObject]
    rw [moved, Option.some.injEq] at isLater
    rw [← isLater] at sameState
    simp only at sameState
    simp [sameState, terminal] at unfinished

omit [GoRuntime Input] in
theorem force_leaves (held : tableHolds sched ref = true) (now : Time) (fault : Option GoError)
    (kept : TerminalKept sched (forceStep sched ref row now fault)) :
    forceSpares sched ref = true := by
  cases found : sched.objects ref with
  | none => simp [found]
  | some job =>
    have entry : sched.jobs job.id = some ref := by
      simpa [found] using held
    cases isState : job.lifecycleState with
    | none => simp [found, isState]
    | some state =>
      cases terminal : isTerminalJobState state with
      | false => simp [found, isState, terminal]
      | true =>
        obtain ⟨later, isLater, sameState⟩ := kept job.id job state
          (by simp [entry, found]) terminal isState
        have failed : later.lifecycleState = some .failed := by
          unfold forceStep at isLater
          simp only [found] at isLater
          split at isLater <;>
            simp only [registeredJob, setObject, entry, bind_some,
              update_self, Option.some.injEq] at isLater <;>
            rw [← isLater]
        rw [sameState] at failed
        simp [found, isState, failed]

theorem spares_of_kept {after : DurableState Input} (tracked : Tracked state)
    (taken : durableStep state action = some after)
    (kept : TerminalKept state.machine.sched after.machine.sched) :
    sparesTerminal state action = true := by
  obtain ⟨_, ⟨replayed, locked, rfl⟩ | ⟨unlocked, moved, _⟩⟩ := durable_step_cases taken
  · rw [locked_spares locked]
    exact locked_leaves locked kept
  · unfold sparesTerminal
    split
    · rename_i pid oracle _
      split
      · rename_i pass lives
        cases atPC : pass.pc with
        | locking _ replayed =>
          refine absurd ?_ (unlocked replayed)
          simp [actionAccess, lives, atPC]
        | forcing ref row =>
          have isForce : actionAccess state.machine (.thread pid (.step oracle)) = .force row := by
            simp [actionAccess, lives, atPC]
          obtain ⟨_, _, _, _, _, isAction, sameLives, forcing,
            forced⟩ := forced_of_access isForce moved
          cases isAction
          rw [lives] at sameLives
          cases sameLives
          rw [atPC] at forcing
          cases forcing
          rw [forced] at kept
          exact force_leaves (tracked.calls.table pid (.pass pass) ref lives
            (.reconciling pass ref (by rw [atPC]; exact List.mem_singleton_self _))) _ _ kept
        | _ => rfl
      · rfl
    · rfl

theorem starts_tracked (state : DurableState Input) (starts : Starts state) : Tracked state := by
  have called : ∀ pid thread, threadOf state.machine pid = some thread → isCall thread = true := by
    intro pid thread lives
    obtain ⟨ref, rfl⟩ := starts.calls pid thread lives
    rfl
  refine ⟨starts.grounded, ⟨called, ?_⟩, starts.ends, ?_⟩
  · intro pid thread ref lives points
    obtain ⟨_, rfl⟩ := starts.calls pid thread lives
    cases points
  · rintro _ ⟨pid, thread, lives, holds⟩
    obtain ⟨_, rfl⟩ := starts.calls pid thread lives
    cases holds

omit [GoRuntime Input] in
theorem ends_of_current (current : MemoryCurrent sched) : EndsTracked sched := by
  intro jobID job record state registered last _ moved
  have text := current jobID job record registered last
  rw [moved] at text
  cases isState : job.lifecycleState with
  | none =>
    rw [isState] at text
    cases state <;> exact absurd text (by decide)
  | some =>
    rw [isState] at text
    rw [job_text_injective text]

def submission : List (Action SampleInput) := [.submit (sampleJob [])] ++ steps 0 4

/-- The job is queued and `executeJob` has been called for it. -/
def queuedStart : DurableState SampleInput where
  machine := { (run machineStep sampleMachine submission).getD sampleMachine with
    threads := [some (.entering 0)] }
  seeded := fun _ => 0

theorem queued_start_starts : Starts queuedStart := by
  have reached : Reaches machineStep
      (fun before action => tracksHistory before.sched (actionAccess before action) = true) Fresh
      ((run machineStep sampleMachine submission).getD sampleMachine) :=
    reaches_of_run (.start sample_fresh) submission (by decide) rfl
  have current : Current ((run machineStep sampleMachine submission).getD sampleMachine) := by
    refine reaches_invariant ?_ ?_ reached
    · exact fresh_current
    · exact current_step
  have calls : ∀ pid thread, threadOf queuedStart.machine pid = some thread →
      ∃ ref, thread = .entering ref := by
    intro pid thread lives
    cases pid with
    | zero =>
      cases lives
      exact ⟨0, rfl⟩
    | succ => cases lives
  refine ⟨⟨current.wired, current.store, ?_⟩, calls, ends_of_current current.memory⟩
  rintro _ ⟨pid, thread, lives, holds⟩
  obtain ⟨_, rfl⟩ := calls pid thread lives
  cases holds

/-- A pass reads the queued job, then the job is executed to its end. -/
def overtakenRead : List (Action SampleInput) :=
  [.reconcile .follower] ++ steps 1 3 ++ steps 0 9

/-- Two passes read the queued job and one of them applies its replay before the
job is executed. -/
def seededRead : List (Action SampleInput) :=
  [.reconcile .follower, .reconcile .follower] ++ steps 1 4 ++ steps 2 3 ++ steps 0 9

end Dagens.Scheduler.DurableSequences
