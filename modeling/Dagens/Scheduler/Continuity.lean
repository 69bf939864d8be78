import Dagens.Scheduler.RowAgreement

/-!
# Histories that only grow

Whatever is interleaved or fails, a later state of the scheduler
continues the earlier ones: no record of a log is lost or moved against another,
sequence numbers do not go back, and rows and entries of the job table stay.
-/

namespace Dagens.Scheduler.Continuity

open Lib.GuardedRun Lifecycle GoSupport Transitions StoreEffects Machine MachineMoves Wiring Ledger
  RowAgreement List

variable {Input : Type} [GoRuntime Input] {sched after : Scheduler Input} {access : Access}
  {store later : TransitionStore} {machine : Machine Input}

/-- Rows may change, but their last sequence numbers do not go back. -/
def RowsStay (store later : TransitionStore) : Prop :=
  ∀ jobID row, store.jobs.lookup jobID = some row →
    ∃ next, later.jobs.lookup jobID = some next ∧ row.lastSequenceID ≤ next.lastSequenceID

structure Continues (sched after : Scheduler Input) : Prop where
  log : ∀ jobID, sched.store.transitions jobID <+ after.store.transitions jobID
  rows : RowsStay sched.store after.store
  tasks : sched.store.tasks.keys ⊆ after.store.tasks.keys
  sequences : ∀ jobID, sched.jobSequences jobID ≤ after.jobSequences jobID
  known : ∀ jobID, (sched.jobs jobID).isSome → (after.jobs jobID).isSome

theorem rows_stay_refl (store : TransitionStore) : RowsStay store store :=
  fun _ row found => ⟨row, found, le_rfl⟩

theorem rows_stay_appended (record : TransitionRecord) :
    RowsStay store (appended store record) := by
  intro jobID row found
  rw [appended_jobs_lookup, found]
  split_ifs
  · exact ⟨_, rfl, le_max_left _ _⟩
  · exact ⟨row, rfl, le_rfl⟩

theorem rows_stay_upsert (stay : RowsStay store later) (job : DurableJobRecord) :
    RowsStay store (upsertJob later job) := by
  intro jobID row found
  obtain ⟨next, present, le⟩ := stay jobID row found
  rw [upsert_job_lookup, present]
  split_ifs
  · exact ⟨_, rfl, le.trans (le_max_left _ _)⟩
  · exact ⟨next, rfl, le⟩

section

variable (sound : StoreSound sched)

include sound

omit [GoRuntime Input] in
theorem log_appended (record : TransitionRecord) (jobID : String) :
    sched.store.transitions jobID <+ (appended sched.store record).transitions jobID := by
  rw [appended_transitions]
  split_ifs with same
  · subst same
    exact sublist_insertionSort (sound.logs _).sorted (sublist_append_left _ _)
  · exact Sublist.refl _

theorem move_continues (wired : Wired sched) (move : SchedMove sched access after) :
    Continues sched after := by
  have sequences := move_sequences move
  have known : ∀ jobID, (sched.jobs jobID).isSome → (after.jobs jobID).isSome := fun _ =>
    move_keeps_known wired move
  cases move_store move with
  | unchanged _ store =>
    refine ⟨fun _ => ?_, ?_, ?_, sequences, known⟩ <;> rw [store]
    · exact rows_stay_refl _
    · exact Subset.refl _
  | job _ _ _ _ _ _ _ _ _ store =>
    refine ⟨fun jobID => ?_, ?_, ?_, sequences, known⟩ <;> rw [store]
    · exact log_appended sound _ jobID
    · exact rows_stay_upsert (rows_stay_appended _) _
    · exact Subset.refl _
  | task prepared task _ _ _ transitions jobs tasks =>
    refine ⟨fun jobID => ?_, ?_, ?_, sequences, known⟩
    · rw [transitions]
      exact log_appended sound _ jobID
    · unfold RowsStay
      rw [jobs]
      cases prepared.write.snapshot with
      | none => exact rows_stay_appended _
      | some row => exact rows_stay_upsert (rows_stay_appended _) row
    · rw [tasks]
      intro taskID member
      exact (AList.mem_insert _).mpr (.inr member)
  | forced _ _ store =>
    refine ⟨fun jobID => ?_, ?_, ?_, sequences, known⟩ <;> rw [store]
    · exact Sublist.refl _
    · exact rows_stay_upsert (rows_stay_refl _) _
    · exact Subset.refl _

end

omit [GoRuntime Input] in
theorem Continues.trans {next : Scheduler Input} (first : Continues sched after)
    (second : Continues after next) : Continues sched next where
  log jobID := (first.log jobID).trans (second.log jobID)
  rows := by
    intro jobID row found
    obtain ⟨_, present, le⟩ := first.rows jobID row found
    obtain ⟨last, presentLast, leLast⟩ := second.rows jobID _ present
    exact ⟨last, presentLast, le.trans leLast⟩
  tasks := Subset.trans first.tasks second.tasks
  sequences jobID := (first.sequences jobID).trans (second.sequences jobID)
  known jobID isKnown := second.known jobID (first.known jobID isKnown)

theorem later_states_continue {earlier : Machine Input}
    (reached : Reaches machineStep (fun _ _ => True) Fresh earlier)
    (continued : Reaches machineStep (fun _ _ => True) (· = earlier) machine) :
    Continues earlier.sched machine.sched := by
  induction continued with
  | start same =>
    rw [same]
    exact ⟨fun _ => Sublist.refl _, rows_stay_refl _, Subset.refl _, fun _ => le_rfl,
      fun _ => id⟩
  | next prior _ taken ih =>
    have grounded := reaches_invariant (fun _ same => same ▸ reached_grounded reached)
      (fun _ _ _ grounded _ taken => grounded_step _ _ _ grounded taken) prior
    exact ih.trans (move_continues grounded.store grounded.wired
      (grounded_move grounded taken).move)

theorem claims_continue : ∃ earlier machine,
    run machineStep sampleMachine twoTasksStarted = some earlier ∧
      run machineStep earlier (works 1 0 4 answered) = some machine ∧
      Continues earlier.sched machine.sched :=
  ⟨_, _, rfl, rfl, later_states_continue
    (reaches_of_run (.start sample_fresh) twoTasksStarted (by decide) rfl)
    (reaches_of_run (.start rfl) (works 1 0 4 answered)
      (allowed_of_always (fun _ _ => trivial) _ _) rfl)⟩

/-- Logs, rows and counters fit together in every state. -/
theorem stores_sound (reached : Reaches machineStep (fun _ _ => True) Fresh machine) :
    StoreSound machine.sched :=
  (reached_grounded reached).store

theorem claimed_store_sound : ∃ machine, run machineStep sampleMachine claimsInTurnRun =
    some machine ∧ StoreSound machine.sched :=
  ⟨_, rfl, stores_sound (reaches_of_run (.start sample_fresh) claimsInTurnRun (by decide) rfl)⟩

end Dagens.Scheduler.Continuity
