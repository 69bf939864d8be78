import Dagens.Hitl.Resumption

/-!
# A request is resumed at most once

Nothing but the checkpoint row keeps a second resume away: workers never look at
the done key. So a request is resumed once, however its deliveries overlap, as long
as no call reads the row while another one has it, and every resume without error
gets the row removed.
-/

namespace Dagens.Hitl.ResumeOnce

open Lib.GuardedRun Resumption List

def isResuming (activity : Activity) : Bool :=
  match activity.stage with
  | .resuming _ => true
  | _ => false

/-- No two calls of `resumeFromCheckpoint` are in progress, and at most one has
returned without error. -/
structure ResumedOnce (system : System) : Prop where
  inProgress : (system.active.filter isResuming).length ≤ 1
  returned : system.returned ≤ 1

/-- The operation that removes the row after a resume without error succeeds. -/
def Removes (activity : Activity) (reply : Reply) : Prop :=
  match activity.stage with
  | .persist => activity.origin = .direct → reply.accepted = true ∧ reply.fault = false
  | .deleteOld =>
    (activity.origin = .direct → reply.accepted = true) ∧
      (reply.accepted = true → reply.fault = false)
  | .deleteCheckpoint => reply.fault = false
  | .moveToDLQ afterResume => afterResume = true → reply.fault = false
  | _ => True

instance (activity : Activity) (reply : Reply) : Decidable (Removes activity reply) := by
  unfold Removes
  split <;> infer_instance

/-- The call has loaded the checkpoint and has not come back from the resume. -/
def holdsCheckpoint : ResumeStage → Bool
  | .validate _ | .checkDone _ | .markDone _ | .resuming _ => true
  | _ => false

/-- The call is about to remove the row after a resume without error. -/
def isRemoving : ResumeStage → Bool
  | .persist | .deleteOld | .deleteCheckpoint | .moveToDLQ true => true
  | _ => false

/-- From the load of the row to its removal, or to the failure of the resume. -/
def engaged (stage : ResumeStage) : Bool := holdsCheckpoint stage || isRemoving stage

/-- A call reads the row only when no other one has it. -/
def Exclusive (system : System) : Action → Prop
  | .act index reply => ∀ activity ∈ system.active[index]?, Removes activity reply ∧
    (activity.stage = .load → reply.fault = false → system.checkpoint.isStored = true →
      ∀ other ∈ system.active, engaged other.stage = false)
  | _ => True

instance (system : System) : (action : Action) → Decidable (Exclusive system action)
  | .act index _ => inferInstanceAs (Decidable (∀ activity ∈ system.active[index]?, _ ∧ _))
  | .elapse _ | .callback _ | .handle .. | .deliver _ | .resume => inferInstanceAs (Decidable True)

/-- What the calls at the given stages have to do with the resumes that returned
without error. -/
def Accounted (checkpoint : CheckpointStatus) (returned : Nat) (stages : List ResumeStage) :
    Prop :=
  returned ≤ 1 ∧ (∀ current ∈ stages, holdsCheckpoint current = true → returned = 0) ∧
    (returned = 1 → checkpoint.isStored = true → ∃ current ∈ stages, isRemoving current = true)

def stages (system : System) : List ResumeStage := system.active.map (·.stage)

structure Inv (system : System) : Prop where
  single : (stages system).countP engaged ≤ 1
  accounted : Accounted system.checkpoint system.returned (stages system)

variable {checkpoint after : CheckpointStatus} {returned : Nat} {stage : ResumeStage}
  {here rest : List ResumeStage}

theorem accounted_none (stages : List ResumeStage) : Accounted checkpoint 0 stages :=
  ⟨by omega, fun _ _ _ => rfl, fun impossible => by cases impossible⟩

theorem accounted_gone (once : returned ≤ 1) (gone : checkpoint.isStored = false)
    (free : ∀ current ∈ here, holdsCheckpoint current = false) :
    Accounted checkpoint returned here := by
  refine ⟨once, fun current member holds => ?_, fun _ stored => ?_⟩
  · rw [free current member] at holds
    cases holds
  · rw [gone] at stored
    cases stored

theorem accounted_append (here rest : List ResumeStage)
    (free : ∀ current ∈ rest, engaged current = false) :
    Accounted checkpoint returned (here ++ rest) ↔ Accounted checkpoint returned here := by
  have holds : ∀ current ∈ rest, holdsCheckpoint current = false := fun current member =>
    (Bool.or_eq_false_iff.mp (free current member)).1
  have removes : ∀ current ∈ rest, isRemoving current = false := fun current member =>
    (Bool.or_eq_false_iff.mp (free current member)).2
  unfold Accounted
  refine and_congr_right fun _ => and_congr ⟨fun all current member => ?_, ?_⟩
    (imp_congr_right fun _ => imp_congr_right fun _ => ⟨?_, ?_⟩)
  · exact all current (mem_append_left _ member)
  · intro all current member held
    rcases mem_append.mp member with inside | outside
    · exact all current inside held
    · rw [holds current outside] at held
      cases held
  · rintro ⟨current, member, removing⟩
    rcases mem_append.mp member with inside | outside
    · exact ⟨current, inside, removing⟩
    · rw [removes current outside] at removing
      cases removing
  · rintro ⟨current, member, removing⟩
    exact ⟨current, mem_append_left _ member, removing⟩

theorem accounted_perm {other : List ResumeStage} (same : here ~ other)
    (accounted : Accounted checkpoint returned here) : Accounted checkpoint returned other := by
  simpa only [Accounted, same.mem_iff] using accounted

attribute [local simp] holdsCheckpoint System.returnResume

theorem accounted_removing (once : returned ≤ 1) (removing : isRemoving stage = true) :
    Accounted checkpoint returned [stage] := by
  refine ⟨once, fun current member holds => ?_, fun _ _ => ⟨stage, mem_singleton_self _,
    removing⟩⟩
  cases mem_singleton.mp member
  cases stage <;> simp [isRemoving] at removing holds

section Steps

variable {Secret : Type} {config : Config Secret}

theorem persisted_free {origin : Origin} {current : ResumeStage}
    (member : current ∈ persisted origin) : holdsCheckpoint current = false := by
  cases origin with
  | worker => cases member; rfl
  | direct => cases member

/-- What a call does that has the row. -/
theorem operate_accounted (config : Config Secret) {system : System} {activity : Activity}
    {reply : Reply} (has : engaged activity.stage = true)
    (accounted : Accounted system.checkpoint system.returned [activity.stage])
    (removes : Removes activity reply) :
    Accounted (operate config system activity reply).1.checkpoint
      (operate config system activity reply).1.returned
      (operate config system activity reply).2.toList := by
  obtain ⟨origin, stage⟩ := activity
  have once := accounted.1
  have held (holds : holdsCheckpoint stage = true) : system.returned = 0 :=
    accounted.2.1 stage (mem_singleton_self _) holds
  have settle (status : CheckpointStatus) (settled : status.isStored = false)
      (next : List ResumeStage) (free : ∀ current ∈ next, holdsCheckpoint current = false) :
      Accounted (system.remove status).checkpoint system.returned next := by
    refine accounted_gone once ?_ free
    unfold System.remove
    cases stored : system.checkpoint.isStored <;> simp [stored, settled]
  cases stage with
    simp only [operate]
  | load | recordFailure | unmarkDone | releaseLock | acknowledge => cases has
  | validate | checkDone | markDone =>
    split
    all_goals
      simp only [held rfl]
      exact accounted_none _
  | resuming =>
    split
    · exact accounted_removing (by simp [held rfl]) rfl
    · exact accounted_removing (by simp [held rfl]) rfl
    · rw [held rfl]
      exact accounted_none _
  | moveToDLQ afterResume =>
    cases afterResume with
    | false => cases has
    | true =>
      simp only [removes rfl]
      exact settle .deadLettered rfl _ (by simp)
  | persist =>
    split_ifs with failed replaces stored
    · cases origin with
      | worker => exact accounted_removing once rfl
      | direct =>
        obtain ⟨accepted, fault⟩ := removes rfl
        simp [accepted, fault] at failed
    · exact settle .replaced rfl _ fun _ member => persisted_free (Option.mem_toList.mp member)
    · refine accounted_gone once (by simpa using stored) fun current member => ?_
      cases origin with
      | worker => cases mem_singleton.mp member; rfl
      | direct => cases member
    · exact accounted_removing once rfl
  | deleteOld =>
    split_ifs with refused fault
    · cases origin with
      | worker => exact accounted_removing once rfl
      | direct =>
        rw [removes.1 rfl] at refused
        cases refused
    · rw [removes.2 (by simpa using refused)] at fault
      cases fault
    · exact settle .replaced rfl _ fun _ member => persisted_free (Option.mem_toList.mp member)
  | deleteCheckpoint =>
    have sound : reply.fault = false := removes
    simp only [sound]
    cases origin with
    | worker => exact settle .deleted rfl _ (by simp)
    | direct => exact settle .deleted rfl _ (by simp)

/-- A call without the row neither counts as a resume nor stores one; it gets the row
by reading it. -/
theorem operate_idle (config : Config Secret) (system : System) (reply : Reply)
    {activity : Activity} (idle : engaged activity.stage = false) :
    (operate config system activity reply).1.returned = system.returned ∧
    ((operate config system activity reply).1.checkpoint.isStored = true →
      system.checkpoint.isStored = true) ∧
    ((∀ current ∈ (operate config system activity reply).2, engaged current = false) ∨
      activity.stage = .load ∧ reply.fault = false ∧ system.checkpoint.isStored = true) := by
  obtain ⟨origin, stage⟩ := activity
  cases stage with
    simp only [operate]
  | validate | checkDone | markDone | resuming | persist | deleteOld | deleteCheckpoint =>
    cases idle
  | load =>
    split_ifs with fault
    · exact ⟨rfl, id, .inl (by simp)⟩
    · split
      · rename_i stored
        exact ⟨rfl, id, .inr ⟨trivial, by simpa using fault, by rw [stored]; rfl⟩⟩
      · exact ⟨rfl, id, .inl (by simp [engaged, isRemoving])⟩
      · exact ⟨rfl, id, .inl (by simp)⟩
  | recordFailure =>
    split
    · rename_i stored
      split_ifs
      · exact ⟨rfl, id, .inl (by simp)⟩
      · exact ⟨rfl, fun _ => by rw [stored]; rfl, .inl (by simp)⟩
    · exact ⟨rfl, id, .inl (by simp)⟩
  | unmarkDone =>
    split_ifs <;> exact ⟨rfl, id, .inl (by simp)⟩
  | moveToDLQ afterResume =>
    cases afterResume with
    | true => cases idle
    | false =>
      split_ifs
      · exact ⟨rfl, id, .inl (by simp [engaged, isRemoving])⟩
      · refine ⟨rfl, fun stored => ?_, .inl (by simp [engaged, isRemoving])⟩
        by_contra gone
        simp [System.remove, gone] at stored
  | releaseLock =>
    split_ifs <;> exact ⟨rfl, id, .inl (by simp [engaged, isRemoving])⟩
  | acknowledge =>
    split
    · unfold ackJob
      split <;> exact ⟨rfl, id, .inl (by simp)⟩
    · exact ⟨rfl, id, .inl (by simp)⟩

/-- The calls before and after one of them has acted. -/
theorem act_stages {system after : System} {index : Nat} {reply : Reply}
    (taken : step config system (.act index reply) = some after) : ∃ activity rest,
    system.active[index]? = some activity ∧ stages system ~ activity.stage :: rest ∧
      stages after ~ (operate config system activity reply).2.toList ++ rest ∧
      after.checkpoint = (operate config system activity reply).1.checkpoint ∧
      after.returned = (operate config system activity reply).1.returned := by
  simp only [step] at taken
  cases found : system.active[index]? with
  | none =>
    rw [found] at taken
    cases taken
  | some activity =>
    rw [found] at taken
    obtain ⟨inside, rfl⟩ := List.getElem?_eq_some_iff.mp found
    refine ⟨_, (system.active.eraseIdx index).map (·.stage), rfl, ?_, ?_⟩
    · exact ((getElem_cons_eraseIdx_perm inside).map (·.stage)).symm
    · dsimp only at taken
      split at taken
      · rename_i stage next
        cases taken
        rw [next]
        refine ⟨?_, rfl, rfl⟩
        exact (set_perm_cons_eraseIdx inside (Activity.mk _ stage)).map (·.stage)
      · rename_i next
        cases taken
        rw [next]
        exact ⟨.refl _, rfl, rfl⟩

theorem act_inv {system after : System} {index : Nat} {reply : Reply} (inv : Inv system)
    (allowed : Exclusive system (.act index reply))
    (taken : step config system (.act index reply) = some after) : Inv after := by
  obtain ⟨activity, rest, found, before, later, checkpoint, returned⟩ := act_stages taken
  obtain ⟨removes, alone⟩ := allowed activity found
  have count := inv.single
  have accounted := accounted_perm before inv.accounted
  rw [before.countP_eq] at count
  suffices kept : (((operate config system activity reply).2.toList ++ rest).countP engaged ≤ 1 ∧
      Accounted after.checkpoint after.returned
        ((operate config system activity reply).2.toList ++ rest)) by
    exact ⟨later.countP_eq _ ▸ kept.1, accounted_perm later.symm kept.2⟩
  rw [checkpoint, returned]
  have few (next : Option ResumeStage) : next.toList.countP engaged ≤ 1 :=
    countP_le_length.trans (by cases next <;> simp)
  by_cases has : engaged activity.stage = true
  · -- no other call has the row
    rw [countP_cons_of_pos has] at count
    have none : rest.countP engaged = 0 := by omega
    have free : ∀ current ∈ rest, engaged current = false := fun current member => by
      simpa using countP_eq_zero.mp none current member
    refine ⟨by simpa [countP_append, none] using few _, (accounted_append _ _ free).mpr ?_⟩
    exact operate_accounted config has ((accounted_append [_] _ free).mp accounted)
      removes
  · rw [countP_cons_of_neg has] at count
    obtain ⟨same, stored, idle | ⟨loads, sound, present⟩⟩ :=
      operate_idle config system reply (by simpa using has)
    · have others : Accounted system.checkpoint system.returned rest := by
        refine (accounted_append _ [activity.stage] (by simpa using has)).mp ?_
        exact accounted_perm (perm_append_singleton _ _).symm accounted
      refine ⟨?_, ?_⟩
      · rw [countP_append, countP_eq_zero.mpr (by simpa using idle), zero_add]
        exact count
      · rw [same]
        refine accounted_perm perm_append_comm ((accounted_append _ _ (by simpa using idle)).mpr ?_)
        exact ⟨others.1, others.2.1, fun one still => others.2.2 one (stored still)⟩
    · -- nobody else has the row, so no resume has returned without error
      have free := alone loads sound present
      have unread : ∀ current ∈ stages system, engaged current = false := by
        simpa [stages] using free
      have zero : system.returned = 0 := by
        have nobody := (accounted_append [] _ unread).mp inv.accounted
        by_contra some
        obtain ⟨_, member, -⟩ := nobody.2.2 (by have := nobody.1; omega) present
        cases member
      have others : rest.countP engaged = 0 := countP_eq_zero.mpr fun current member => by
        simp [unread current (before.mem_iff.mpr (mem_cons_of_mem _ member))]
      rw [same, zero]
      exact ⟨by simpa [countP_append, others] using few _, accounted_none _⟩

theorem step_inv {system after : System} {action : Action} (inv : Inv system)
    (allowed : Exclusive system action) (taken : step config system action = some after) :
    Inv after := by
  have begun (origin : Origin) : Inv { system with
      active := system.active ++ [Activity.mk origin .load] } := by
    have unread : ∀ current ∈ [ResumeStage.load], engaged current = false := by
      simp [engaged, isRemoving]
    constructor
    · simpa [stages, countP_append, engaged, isRemoving] using inv.single
    · simpa [stages] using (accounted_append _ _ unread).mpr inv.accounted
  cases action with
  | elapse =>
    cases taken
    exact ⟨inv.single, inv.accounted⟩
  | callback =>
    simp only [step] at taken
    split_ifs at taken
    cases taken
    exact ⟨inv.single, inv.accounted⟩
  | handle _ fault full =>
    simp only [step] at taken
    split at taken
    · cases taken
    · rename_i call stage found
      cases taken
      obtain ⟨checkpoint, returned, active, -⟩ := handled_frame system stage
        (answersOf config system fault full) fault
      constructor
      · simpa only [stages, active] using inv.single
      · simpa only [stages, checkpoint, returned, active] using inv.accounted
  | deliver job =>
    simp only [step] at taken
    split at taken
    · cases taken
    · obtain ⟨next, -, rfl⟩ := Option.map_eq_some_iff.mp taken
      exact ⟨(begun (.worker job)).single, (begun (.worker job)).accounted⟩
  | resume =>
    cases taken
    exact begun .direct
  | act => exact act_inv inv allowed taken

/-- In every run in which no call reads the checkpoint while another one has it, and
every resume without error gets it removed, the request is resumed at most once. -/
theorem resumed_at_most_once (config : Config Secret) {system : System}
    (reached : Reaches (step config) Exclusive Fresh system) : ResumedOnce system := by
  have inv : Inv system := by
    refine reaches_invariant ?_ (fun _ _ _ inv allowed taken => step_inv inv allowed taken) reached
    intro _ started
    constructor
    · simp [stages, started.active]
    · rw [started.returned]
      exact accounted_none _
  refine ⟨?_, inv.accounted.1⟩
  rw [← countP_eq_length_filter]
  refine le_trans (countP_mono_left fun activity _ resuming => ?_) (countP_map .. ▸ inv.single)
  obtain ⟨origin, stage⟩ := activity
  cases stage <;> first | rfl | cases resuming

end Steps

/-- A second worker gets the job before the first one has read the checkpoint, and
reads it when the first one has resumed and deleted it. -/
def redeliveredAnswer : List Action :=
  answeredCallback ++ [.deliver 0, .elapse 30000000000, .deliver 0] ++
    replicate 5 (.act 0 (fine .completed)) ++ replicate 2 (.act 1 (fine .completed))

theorem redelivered_resumes_once : ∃ system,
    run (step (sampleConfig .redis)) waiting redeliveredAnswer = some system ∧
      system.returned = 1 ∧ ResumedOnce system := by
  have fresh : Fresh waiting := ⟨rfl, rfl, rfl, rfl⟩
  refine ⟨_, rfl, by decide +kernel, resumed_at_most_once (sampleConfig .redis) ?_⟩
  exact reaches_of_run (.start fresh) redeliveredAnswer (by decide +kernel) rfl

/-- The first worker is still in the resume when its job has been idle for
`claimIdle`: a second worker resumes the same checkpoint, and both succeed. -/
theorem redelivery_resumes_twice : ∃ together twice,
    run (step (sampleConfig .redis)) waiting
        (answeredCallback ++ workedUpTo 0 ++ [.elapse 30000000000] ++ workedUpTo 1) =
      some together ∧
    (together.active.filter isResuming).length = 2 ∧
    run (step (sampleConfig .redis)) together
        [.act 0 (fine .completed), .act 1 (fine .completed)] = some twice ∧
    twice.returned = 2 :=
  ⟨_, _, rfl, by decide +kernel, rfl, by decide +kernel⟩

end Dagens.Hitl.ResumeOnce
