import Dagens.Scheduler.MachineMoves

/-!
# How jobs, table and threads hang together

Facts that hold in every run, whatever the environment does: the table points
to objects of the right id, every object is known to the table, objects stay
in place with their tasks, sequence numbers and logs only grow. Threads enter
these statements through the items they carry.
-/

namespace Dagens.Scheduler.Wiring

open GoSupport Replay Recovery Transitions StoreEffects Reconcile
  Operations Memory Machine MachineMoves Function Option

variable {Input : Type} [GoRuntime Input]

/-- Some thread of the machine carries the item. -/
def Carries (machine : Machine Input) (item : Item) : Prop :=
  ∃ pid thread, threadOf machine pid = some thread ∧ Holds thread item

structure MachineMove (machine : Machine Input) (action : Action Input)
    (after : Machine Input) : Prop where
  move : SchedMove machine.sched (actionAccess machine action) after.sched
  items : ∀ item, Carries after item →
    Carries machine item ∨ Acquires (Carries machine) machine.sched after.sched item

variable {sched after before : Scheduler Input} {item : Item} {machine : Machine Input} {ref : Nat}
  {job : Job Input}

omit [GoRuntime Input] in
theorem acquires_mono {held more : Item → Prop} (wider : ∀ item, held item → more item)
    (acquired : Acquires held sched after item) :
    Acquires more sched after item := by
  cases acquired with
  | prepared prepared prepares => exact .prepared prepared prepares
  | read jobID replayed ctxErr replays => exact .read jobID replayed ctxErr replays
  | replayed row raw ctxErr listed replays =>
    exact .replayed row raw ctxErr (wider _ listed) replays
  | listed row member => exact .listed row member

variable {thread found : Thread Input} {pid : Nat} {action : Action Input} {position : Position}

theorem thread_of_spawn {after : Machine Input}
    (grown : after.threads = machine.threads ++ [some thread])
    (lives : threadOf after pid = some found) :
    threadOf machine pid = some found ∨ found = thread := by
  simp only [threadOf, grown] at lives ⊢
  by_cases inside : pid < machine.threads.length
  · rw [List.getElem?_append_left inside] at lives
    exact .inl lives
  · rw [List.getElem?_append_right (not_lt.mp inside), List.getElem?_singleton] at lives
    split_ifs at lives
    · exact .inr (Option.some.inj lives).symm
    · cases lives

theorem thread_of_resumed {other : Nat} {result : Outcome Input}
    (lives : threadOf (resumed machine pid result) other = some found) :
    (other = pid ∧ result.thread = some found) ∨
      other ≠ pid ∧ threadOf machine other = some found := by
  simp only [threadOf, resumed, List.getElem?_set] at lives ⊢
  split_ifs at lives with same inside
  · exact .inl ⟨same.symm, lives⟩
  · cases lives
  · exact .inr ⟨fun equal => same equal.symm, lives⟩

theorem spawn_items {after : Machine Input}
    (grown : after.threads = machine.threads ++ [some thread]) (idle : ∀ item, ¬ Holds thread item)
    (carried : Carries after item) :
    Carries machine item := by
  obtain ⟨pid, found, lives, holds⟩ := carried
  rcases thread_of_spawn grown lives with old | rfl
  · exact ⟨pid, found, old, holds⟩
  · exact absurd holds (idle item)

theorem machine_move {after : Machine Input}
    (own : ∀ jobID replayed, Carries machine (.reading jobID replayed) → replayed.job.jobID = jobID)
    (taken : machineStep machine action = some after) : MachineMove machine action after := by
  cases action with
  | tick =>
    cases taken
    exact ⟨.steady _ (steady_refl _), fun item carried => .inl carried⟩
  | submit job =>
    obtain ⟨_, admits, rfl⟩ := map_eq_some_iff.mp taken
    unfold admitJob at admits
    split_ifs at admits with known room
    cases admits
    have unknown : machine.sched.jobs job.id = none := by simpa using known
    exact ⟨.registered { job with status := .pending }
        ⟨unknown, rfl, rfl, rfl, rfl, rfl, fun _ => le_rfl⟩,
      fun item carried => .inl (spawn_items rfl (by rintro _ ⟨⟩) carried)⟩
  | dequeue =>
    obtain ⟨⟨_⟩, popped, rfl⟩ := map_eq_some_iff.mp taken
    unfold dequeued at popped
    split at popped
    · cases popped
    · cases popped
      exact ⟨.steady _ (steady_of_objects rfl rfl rfl rfl rfl rfl),
        fun item carried => .inl (spawn_items rfl (by rintro _ ⟨⟩) carried)⟩
  | resume =>
    cases taken
    exact ⟨.steady _ (steady_refl _),
      fun item carried => .inl (spawn_items rfl (by rintro _ ⟨⟩) carried)⟩
  | reconcile =>
    cases taken
    refine ⟨.steady _ (steady_refl _), fun item carried => .inl (spawn_items rfl ?_ carried)⟩
    intro item holds
    cases holds with
    | warming _ _ _ _ locking => cases locking
    | listing _ _ member => cases member
  | thread pid event =>
    obtain ⟨thread, lives, stepped⟩ := bind_eq_some_iff.mp taken
    obtain ⟨_, result_eq, final⟩ := bind_eq_some_iff.mp stepped
    cases final
    have spec := thread_spec
      (fun jobID replayed holds => own jobID replayed ⟨pid, thread, lives, holds⟩) result_eq
    refine ⟨?_, ?_⟩
    · simp only [actionAccess, lives]
      exact spec.move
    · rintro item ⟨other, found, livesAfter, holds⟩
      rcases thread_of_resumed livesAfter with ⟨rfl, next⟩ | ⟨_, old⟩
      · rcases spec.items found item next holds with kept | acquired
        · exact .inl ⟨other, thread, lives, kept⟩
        · exact .inr (acquires_mono (fun item held => ⟨other, thread, lives, held⟩) acquired)
      · exact .inl ⟨other, found, old, holds⟩

/-- No object comes or goes, and none changes its tasks. -/
structure InPlace (before after : Scheduler Input) : Prop where
  jobs : after.jobs = before.jobs
  nextRef : after.nextRef = before.nextRef
  objects : ∀ ref, Option.Rel Kept (before.objects ref) (after.objects ref)

/-- A new object becomes the table's entry for its id. -/
structure Places (before : Scheduler Input) (job : Job Input) (after : Scheduler Input) :
    Prop where
  jobs : after.jobs = update before.jobs job.id (some before.nextRef)
  nextRef : after.nextRef = before.nextRef + 1
  objects : after.objects = update before.objects before.nextRef (some job)

structure Wired (sched : Scheduler Input) : Prop where
  entries : ∀ jobID ref, sched.jobs jobID = some ref →
    ∃ job, sched.objects ref = some job ∧ job.id = jobID
  unused : ∀ ref, sched.nextRef ≤ ref → sched.objects ref = none
  heap : ∀ ref job, sched.objects ref = some job → (sched.jobs job.id).isSome

omit [GoRuntime Input] in
theorem in_place_set {later : Job Input} (found : sched.objects ref = some job)
    (jobs : after.jobs = sched.jobs) (nextRef : after.nextRef = sched.nextRef)
    (objects : after.objects = update sched.objects ref (some later))
    (kept : Kept job later) : InPlace sched after := by
  refine ⟨jobs, nextRef, fun other => ?_⟩
  rw [objects]
  by_cases same : other = ref
  · subst same
    rw [update_self, found]
    exact .some kept
  · rw [update_of_ne same]
    exact rel_refl kept_refl _

omit [GoRuntime Input] in
theorem steady_in_place (steady : Steady before after) : InPlace before after := by
  refine ⟨steady.jobs, steady.nextRef, fun ref => ?_⟩
  have related := steady.objects ref
  generalize before.objects ref = place, after.objects ref = later at related ⊢
  cases related with
  | none => exact .none
  | some same => exact .some same.kept

section

omit [GoRuntime Input]

theorem update_task_in_place {old task : Task Input} (store : TransitionStore)
    (found : objectTask sched ref position = some old) (kept : TaskKept old task) :
    InPlace sched (updateTask { sched with store := store } ref position task) := by
  obtain ⟨job, atRef, atPosition⟩ := bind_eq_some_iff.mp found
  have updated : updateTask { sched with store := store } ref position task =
      setObject { sched with store := store } ref (setTaskAt job position task) := by
    simp [updateTask, atRef]
  rw [updated]
  exact in_place_set atRef rfl rfl rfl (kept_set_task atPosition kept)

theorem registers_places (registers : Registers sched job after) : Places sched job after :=
  ⟨registers.jobs, registers.nextRef, registers.objects⟩

end

theorem install_places (sched : Scheduler Input) (jobID : String) (replayed : ReplayedJobState)
    (rows : List DurableTaskRecord) :
    Places sched
      (adoptExisting (buildRecoveredRuntimeJob replayed rows) (registeredJob sched jobID))
      (installRefreshedJob sched jobID replayed rows) :=
  ⟨rfl, rfl, rfl⟩

section

variable {access : Access} (wired : Wired sched) (move : SchedMove sched access after)

include wired move

theorem move_objects :
    InPlace sched after ∨ (∃ job, Registers sched job after) ∨
      ∃ jobID replayed rows, access = .install jobID replayed ∧ rows.Perm (replayedRows replayed) ∧
        after = installRefreshedJob sched jobID replayed rows := by
  cases move with
  | steady _ same => exact .inl (steady_in_place same)
  | prepared _ same =>
    have place := steady_in_place same
    exact .inl ⟨place.jobs, place.nextRef, place.objects⟩
  | recorded ref transition newState errorSummary now fault =>
    refine .inl ?_
    rcases record_job_transition_cases sched ref transition newState errorSummary now fault with
      same | ⟨_, found, _, taken | ⟨_, _, _, _, _, moved⟩⟩
    · rw [same]
      exact steady_in_place (steady_refl sched)
    · rw [taken]
      exact ⟨rfl, rfl, fun _ => rel_refl kept_refl _⟩
    · rw [moved]
      exact in_place_set found rfl rfl rfl (kept_of_stages rfl rfl)
  | reported _ _ _ _ found | claimed _ _ _ _ found =>
    exact .inl (update_task_in_place _ found ⟨rfl, fun _ => rfl⟩)
  | registered job registers | warmed _ job registers =>
    exact .inr (.inl ⟨job, registers⟩)
  | linked ref job found unknown =>
    have known := wired.heap ref job found
    simp [unknown] at known
  | installed jobID replayed rows permutes =>
    exact .inr (.inr ⟨jobID, replayed, rows, rfl, permutes, rfl⟩)
  | caughtUp _ _ _ _ found =>
    exact .inl (in_place_set found rfl rfl rfl (kept_of_stages rfl rfl))
  | forced ref row now fault =>
    refine .inl ?_
    unfold forceStep
    split
    · exact steady_in_place (steady_refl sched)
    · rename_i job found
      dsimp only
      split <;> exact in_place_set found rfl rfl rfl (kept_of_stages rfl rfl)

theorem move_memory : InPlace sched after ∨ ∃ job, Places sched job after := by
  rcases move_objects wired move with
    place | ⟨job, registers⟩ | ⟨jobID, replayed, rows, _, _, rfl⟩
  · exact .inl place
  · exact .inr ⟨job, registers_places registers⟩
  · exact .inr ⟨_, install_places sched jobID replayed rows⟩

end

section

omit [GoRuntime Input]

theorem in_place_wired (wired : Wired before) (place : InPlace before after) : Wired after := by
  refine ⟨?_, ?_, ?_⟩
  · intro jobID ref entry
    rw [place.jobs] at entry
    obtain ⟨job, found, id⟩ := wired.entries jobID ref entry
    obtain ⟨later, foundLater, kept⟩ := rel_find (place.objects _) found
    exact ⟨later, foundLater, kept.id.trans id⟩
  · intro ref beyond
    rw [place.nextRef] at beyond
    have related := place.objects ref
    rw [wired.unused ref beyond] at related
    generalize after.objects ref = object at related ⊢
    cases related with
    | none => rfl
  · intro ref job found
    obtain ⟨earlier, foundEarlier, kept⟩ := rel_origin (place.objects _) found
    rw [place.jobs, kept.id]
    exact wired.heap ref earlier foundEarlier

theorem places_wired (wired : Wired before) (places : Places before job after) : Wired after := by
  have known : ∀ jobID, (before.jobs jobID).isSome → (after.jobs jobID).isSome := by
    intro jobID isKnown
    rw [places.jobs]
    by_cases same : jobID = job.id
    · subst same
      simp
    · rwa [update_of_ne same]
  refine ⟨?_, ?_, ?_⟩
  · intro jobID ref entry
    rw [places.jobs] at entry
    rw [places.objects]
    by_cases same : jobID = job.id
    · subst same
      rw [update_self] at entry
      cases entry
      exact ⟨job, update_self .., rfl⟩
    · rw [update_of_ne same] at entry
      obtain ⟨other, found, id⟩ := wired.entries jobID ref entry
      have older : ref ≠ before.nextRef := by
        rintro rfl
        rw [wired.unused _ le_rfl] at found
        cases found
      exact ⟨other, by rw [update_of_ne older]; exact found, id⟩
  · intro ref beyond
    rw [places.nextRef] at beyond
    rw [places.objects, update_of_ne (by omega)]
    exact wired.unused ref (by omega)
  · intro ref other found
    rw [places.objects] at found
    by_cases same : ref = before.nextRef
    · subst same
      rw [update_self] at found
      cases found
      rw [places.jobs, update_self]
      rfl
    · rw [update_of_ne same] at found
      exact known _ (wired.heap ref other found)

end

section

variable {access : Access} (wired : Wired sched) (move : SchedMove sched access after)

include wired move

theorem move_wired : Wired after := by
  rcases move_memory wired move with place | ⟨_, places⟩
  · exact in_place_wired wired place
  · exact places_wired wired places

theorem move_keeps_objects {ref : Nat} {job : Job Input} (found : sched.objects ref = some job) :
    ∃ later, after.objects ref = some later ∧ Kept job later := by
  rcases move_memory wired move with place | ⟨_, places⟩
  · exact rel_find (place.objects _) found
  · have older : ref ≠ sched.nextRef := by
      rintro rfl
      rw [wired.unused _ le_rfl] at found
      cases found
    exact ⟨job, by rw [places.objects, update_of_ne older]; exact found, kept_refl job⟩

theorem move_keeps_known {jobID : String} (known : (sched.jobs jobID).isSome) :
    (after.jobs jobID).isSome := by
  obtain ⟨ref, entry⟩ := isSome_iff_exists.mp known
  obtain ⟨_, found, rfl⟩ := wired.entries jobID ref entry
  obtain ⟨later, foundLater, kept⟩ := move_keeps_objects wired move found
  have heap := (move_wired wired move).heap ref later foundLater
  rwa [kept.id] at heap

end

omit [GoRuntime Input] in
theorem take_sequence_le (sched : Scheduler Input) (taken jobID : String) :
    sched.jobSequences jobID ≤ (takeSequence sched taken).jobSequences jobID := by
  simp only [takeSequence]
  by_cases same : jobID = taken
  · subst same
    simp [nextSequence]
  · rw [update_of_ne same]

theorem move_sequences {access : Access} (move : SchedMove sched access after) (jobID : String) :
    sched.jobSequences jobID ≤ after.jobSequences jobID := by
  cases move with
  | steady _ same => rw [same.sequences]
  | prepared taken same =>
    rw [← same.sequences]
    exact take_sequence_le _ taken jobID
  | recorded ref transition newState errorSummary now fault =>
    rcases record_job_transition_cases sched ref transition newState errorSummary now fault with
      same | ⟨job, _, _, taken | ⟨_, _, _, _, _, moved⟩⟩
    · rw [same]
    · rw [taken]
      exact take_sequence_le sched job.id jobID
    · rw [moved]
      exact take_sequence_le sched job.id jobID
  | reported | claimed =>
    unfold updateTask
    split <;> exact le_rfl
  | registered _ registers | warmed _ _ registers => exact registers.sequences jobID
  | linked => exact le_rfl
  | installed | caughtUp => exact seed_sequences_le _ _ _ _ _
  | forced =>
    unfold forceStep
    split
    · exact le_rfl
    · dsimp only
      split <;> exact le_rfl

def accessItem : Access → Option Item
  | .commit prepared _ => some (.pending prepared)
  | .install jobID replayed => some (.reading jobID replayed)
  | .warm replayed => some (.warming replayed)
  | .force durableJob => some (.listing durableJob)
  | _ => none

omit [GoRuntime Input] in
theorem exec_access_item (sched : Scheduler Input) (exec : Exec) :
    accessItem (execAccess sched exec) = none := by
  unfold execAccess
  split
  · rfl
  · split_ifs <;> rfl
  · rfl
  · rfl
  · rfl

theorem routine_access_item {routine : Goroutine.Goroutine} {answers : Goroutine.Answers}
    (uses : accessItem (routineAccess ref position routine answers) = some item) :
    ∃ prepared, item = .pending prepared ∧
      routinePending ref position routine.pc = some prepared := by
  unfold routineAccess at uses
  split at uses
  · cases uses
  · split at uses
    · rename_i prepared pending
      cases uses
      exact ⟨prepared, rfl, pending⟩
    · cases uses

theorem access_holds (sched : Scheduler Input) (thread : Thread Input) (event : Event)
    (uses : accessItem (access sched thread event) = some item) :
    Holds thread item := by
  cases event with
  | step =>
    cases thread with
    | submit ref pc =>
      cases pc <;> cases uses
      exact .creating ref _ _ _
    | loop pc =>
      cases pc <;> cases uses
      exact .refreshing _ _
    | resume jobID context pc =>
      cases pc <;> cases uses
      exact .resuming jobID context _
    | entering => cases uses
    | exec => simp [access, exec_access_item] at uses
    | pass pass =>
      change accessItem (passAccess sched pass.pc) = some item at uses
      cases pc : pass.pc with
      | locking durableJob replayed todo =>
        rw [pc] at uses
        cases uses
        exact .warming pass durableJob replayed todo pc
      | queueing | deciding =>
        simp only [pc, passAccess] at uses
        split_ifs at uses <;> cases uses
      | forcing _ durableJob =>
        rw [pc] at uses
        cases uses
        refine .listing pass durableJob ?_
        rw [pc]
        exact List.mem_cons_self
      | _ => simp [pc, passAccess, accessItem] at uses
  | work index =>
    cases thread with
    | exec exec =>
      simp only [access, workAccess] at uses
      split at uses
      · rename_i stage run inStage
        split at uses
        · rename_i routine running
          obtain ⟨prepared, rfl, pending⟩ := routine_access_item uses
          exact .working exec stage run index routine prepared inStage running pending
        · cases uses
      · cases uses
    | _ => simp [access, accessItem] at uses
  | _ => simp [access, accessItem] at uses

theorem action_carries (uses : accessItem (actionAccess machine action) = some item) :
    Carries machine item := by
  cases action with
  | thread pid event =>
    simp only [actionAccess] at uses
    split at uses
    · rename_i thread lives
      exact ⟨pid, thread, lives, access_holds machine.sched thread event uses⟩
    · cases uses
  | _ => cases uses

end Dagens.Scheduler.Wiring
