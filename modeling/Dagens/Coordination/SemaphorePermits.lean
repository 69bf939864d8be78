import Dagens.Coordination.SemaphoreAdmission

/-!
# Permit keys that stay

A `Release` deletes the oldest key of its session. If that is the key of a caller
that is still acquiring, that caller loses its place and the released key is
nobody's any more; if another `Release` has read the same key before, the second
deletion removes nothing. Where neither happens, keys and callers stay in balance.
-/

namespace Dagens.Coordination.SemaphorePermits

open Lib GuardedRun AdmissionQueue Parties RevisionStore Semaphore SemaphoreAdmission List

/-- A `Release` that deletes finds the key it has read, and its `Acquire` has
returned. -/
def deletesSettled (semaphore : Semaphore) : Action → Bool
  | .proceed index _ =>
    match (semaphore.callers[index]?).map Caller.stage with
    | some (.deleting target) =>
      decide (target ∈ semaphore.permits.keys) && !isPending semaphore.callers target
    | _ => true
  | _ => true

/-- The keys of a session that no pending caller waits with. -/
def free (keys : List PermitKey) (callers : List Caller) (lease : Nat) : Nat :=
  keys.countP fun key => decide (key.lease = lease) && !isPending callers key

structure Balanced (semaphore : Semaphore) : Prop where
  balance : ∀ lease, free semaphore.permits.keys semaphore.callers lease =
    (holders semaphore.callers).count lease
  present : ∀ caller ∈ semaphore.callers, caller.stage.pending = true →
    caller.key ∈ semaphore.permits.keys
  kept : ∀ caller ∈ semaphore.callers, caller.stage ≠ .cleaning .permitKeyLost ∧
    caller.stage ≠ .refused .permitKeyLost

attribute [local simp] Stage.pending Stage.outstanding

section Free

variable {callers : List Caller} {index : Nat} {caller : Caller}

section

variable (ids : (callers.map (·.permitID)).Nodup) (found : callers[index]? = some caller)
  (stage : Stage)

include ids found stage

theorem free_elsewhere (lease : Nat) {keys : List PermitKey}
    (others : ∀ key ∈ keys, key ≠ caller.key) :
    free keys (callers.set index { caller with stage := stage }) lease =
      free keys callers lease := by
  refine countP_congr fun key member => ?_
  rw [is_pending_stage ids found, if_neg (others key member)]

theorem free_same (same : stage.pending = caller.stage.pending) (keys : List PermitKey)
    (lease : Nat) :
    free keys (callers.set index { caller with stage := stage }) lease =
      free keys callers lease := by
  refine countP_congr fun key _ => ?_
  rw [is_pending_stage ids found]
  split_ifs with own
  · rw [own, is_pending_own ids found, same]
  · rfl

end

variable {keys : List PermitKey}

theorem free_enter (ids : (callers.map (·.permitID)).Nodup) (distinct : keys.Nodup)
    (found : callers[index]? = some caller) (was : caller.stage = .ranking)
    (member : caller.key ∈ keys) (lease : Nat) :
    free keys (callers.set index { caller with stage := .holding }) lease =
      free keys callers lease + (if caller.lease = lease then 1 else 0) := by
  have before := countP_leave distinct caller.key fun key =>
    decide (key.lease = lease) && !isPending callers key
  have after := countP_leave distinct caller.key fun key => decide (key.lease = lease) &&
    !isPending (callers.set index { caller with stage := .holding }) key
  have elsewhere := free_elsewhere ids found .holding lease
    (show ∀ key ∈ keys.filter (fun key => !decide (key = caller.key)), key ≠ caller.key by simp)
  have waiting : isPending callers caller.key = true := by
    simp [is_pending_own ids found, was]
  have freed : isPending (callers.set index { caller with stage := .holding }) caller.key =
      false := by
    rw [is_pending_stage ids found, if_pos rfl]
    rfl
  simp only [member, waiting, freed, Bool.not_true, Bool.and_false, Bool.not_false,
    Bool.and_true, true_and, Bool.false_eq_true, if_false, decide_eq_true_eq] at before after
  unfold free at elsewhere ⊢
  rw [← after, ← before, elsewhere]
  rfl

theorem free_moves {size : Int} {stage : Stage} {later : List PermitKey}
    (ids : (callers.map (·.permitID)).Nodup) (distinct : keys.Nodup)
    (found : callers[index]? = some caller)
    (unregistered : caller.stage = .registering → caller.key ∉ keys)
    (present : caller.stage.pending = true → caller.key ∈ keys)
    (owned : caller.stage.outstanding = true → ∃ key ∈ keys, key.lease = caller.lease)
    (settled : ∀ target, caller.stage = .deleting target →
      target.lease = caller.lease ∧ target ∈ keys ∧ isPending callers target = false)
    (move : CallerMove size caller keys false stage later) (lease : Nat) :
    free later (callers.set index { caller with stage := stage }) lease +
        (if caller.lease = lease ∧ caller.stage.outstanding = true then 1 else 0) =
      free keys callers lease +
        (if caller.lease = lease ∧ stage.outstanding = true then 1 else 0) := by
  cases move with
  | registers _ was put =>
    have unknown := unregistered was
    have elsewhere := free_elsewhere ids found .ranking lease
      (fun key inside same => unknown (same ▸ inside) : ∀ key ∈ keys, key ≠ caller.key)
    have waiting : isPending (callers.set index { caller with stage := .ranking })
        caller.key = true := by
      rw [is_pending_stage ids found, if_pos rfl]
      rfl
    rw [put unknown]
    simpa [free, was, waiting] using elsewhere
  | waits _ was stage still =>
    simpa [-Stage.outstanding, Stage.pending_not_outstanding was,
      Stage.pending_not_outstanding still] using free_same ids found stage (still.trans was.symm) keys lease
  | enters was =>
    simpa [was] using
      free_enter ids distinct found was (present (by simp [was])) lease
  | cleans _ err was =>
    have waiting : isPending callers caller.key = true := by
      simp [is_pending_own ids found, was]
    have left := countP_leave distinct caller.key fun key =>
      decide (key.lease = lease) && !isPending callers key
    have elsewhere := free_elsewhere ids found (.refused err) lease
      (show ∀ key ∈ keys.filter (fun key => !decide (key = caller.key)), key ≠ caller.key by simp)
    simp only [waiting, Bool.not_true, Bool.and_false, Bool.false_eq_true, and_false, if_false,
      Nat.add_zero] at left
    simpa [was, free, left] using elsewhere
  | calls was =>
    simpa [was] using
      free_same ids found .finding (by simp [was]) keys lease
  | finds was target =>
    simpa [was] using
      free_same ids found (.deleting target) (by simp [was]) keys lease
  | deletes _ target was err =>
    obtain ⟨mine, stored, notPending⟩ := settled target was
    have left := countP_leave distinct target fun key =>
      decide (key.lease = lease) && !isPending callers key
    have same := free_same ids found (.released err) (by simp [was])
      (keys.filter fun key => !decide (key = target)) lease
    simp only [stored, notPending, mine, Bool.not_false, Bool.and_true, decide_eq_true_eq,
      true_and] at left
    simp only [was, Stage.outstanding, Bool.false_eq_true, and_false, if_false, and_true, same]
    exact left
  | misses was missing =>
    obtain ⟨key, inside, mine⟩ := owned (by simp [was])
    exact absurd mine (missing key inside)

end Free

section Steps

variable {semaphore after : Semaphore} {action : Action}

theorem balanced_fresh (fresh : Fresh semaphore) (clear : semaphore.permits.keys = []) :
    Balanced semaphore := by
  refine ⟨fun lease => ?_, ?_, ?_⟩ <;> simp [free, holders, clear, fresh.1]

variable {caller : Caller} {size : Int} {later : List PermitKey} {stage : Stage}

theorem balanced_finds (balanced : Balanced semaphore) (member : caller ∈ semaphore.callers)
    (holds : caller.stage.outstanding = true) :
    ∃ key ∈ semaphore.permits.keys, key.lease = caller.lease := by
  have some : 0 < (holders semaphore.callers).count caller.lease := by
    rw [count_pos_iff]
    exact List.mem_map.mpr ⟨caller, mem_filter.mpr ⟨member, holds⟩, rfl⟩
  rw [← balanced.balance] at some
  obtain ⟨key, inside, counted⟩ := countP_pos_iff.mp some
  simp only [Bool.and_eq_true, decide_eq_true_eq] at counted
  exact ⟨key, inside, counted.1⟩

theorem pending_key_kept {one : Caller} {keys : List PermitKey}
    (move : CallerMove size caller keys false stage later)
    (unregistered : caller.stage = .registering → caller.key ∉ keys) (waits : one.key ∈ keys)
    (other : one.key ≠ caller.key)
    (target : ∀ target, caller.stage = .deleting target → one.key ≠ target) :
    one.key ∈ later := by
  cases move with
  | registers _ was put =>
    rw [put (unregistered was)]
    exact mem_append_left _ waits
  | cleans => simp [waits, other]
  | deletes _ target' was => simp [waits, target target' was]
  | waits | enters | calls | finds | misses => exact waits

section

variable {keys : List PermitKey} (move : CallerMove size caller keys false stage later)

include move

theorem own_key_kept (unregistered : caller.stage = .registering → caller.key ∉ keys)
    (present : caller.stage.pending = true → caller.key ∈ keys) (still : stage.pending = true) :
    caller.key ∈ later := by
  cases move with
  | registers _ was put =>
    rw [put (unregistered was)]
    exact mem_append_right _ (mem_singleton_self _)
  | waits _ was => exact present was
  | enters | cleans | calls | finds | deletes | misses => cases still

theorem never_lost (present : caller.stage.pending = true → caller.key ∈ keys)
    (kept : caller.stage ≠ .cleaning .permitKeyLost) :
    stage ≠ .cleaning .permitKeyLost ∧ stage ≠ .refused .permitKeyLost := by
  cases move with
  | registers => simp
  | waits _ was _ still lost =>
    refine ⟨fun same => lost same (present was), ?_⟩
    rintro rfl
    cases still
  | cleans _ _ was =>
    refine ⟨by simp, ?_⟩
    intro same
    cases same
    exact kept was
  | enters | calls | finds | deletes | misses => simp

end

variable {index : Nat}

theorem balanced_moves (identified : Identified semaphore) (balanced : Balanced semaphore)
    (found : semaphore.callers[index]? = some caller) {permits : Store PermitKey String}
    (move : CallerMove semaphore.size caller semaphore.permits.keys false stage permits.keys)
    (settled : ∀ target, caller.stage = .deleting target → target ∈ semaphore.permits.keys ∧
      isPending semaphore.callers target = false) :
    Balanced { setCaller semaphore index { caller with stage := stage } with
      permits := permits } := by
  have member := mem_of_getElem? found
  have unregistered := identified.unregistered caller member
  refine ⟨fun lease => ?_, fun one inside pending => ?_, fun one inside => ?_⟩
  · have keys := free_moves identified.ids semaphore.permits.nodup_keys found unregistered
      (balanced.present caller member) (balanced_finds balanced member)
      (fun target was => ⟨identified.own caller member target was, settled target was⟩) move lease
    have counted := holders_set found stage lease
    have before := balanced.balance lease
    change free permits.keys (semaphore.callers.set index { caller with stage := stage }) lease =
      (holders (semaphore.callers.set index { caller with stage := stage })).count lease
    omega
  · rcases mem_set_cases inside with rfl | ⟨_, apart, foundOther⟩
    · have own : caller.key ∈ permits.keys :=
        own_key_kept move unregistered (balanced.present caller member) pending
      exact own
    · have old := mem_of_getElem? foundOther
      refine pending_key_kept move unregistered (balanced.present one old pending) ?_ ?_
      · intro same
        exact apart (same_id identified.ids found foundOther (congrArg PermitKey.permitID same))
      · rintro _ was rfl
        have waiting := is_pending_own identified.ids foundOther
        rw [(settled _ was).2, pending] at waiting
        cases waiting
  · rcases mem_set_old inside with rfl | old
    · exact never_lost move (balanced.present caller member) (balanced.kept caller member).1
    · exact balanced.kept one old

theorem balanced_joins (balanced : Balanced semaphore) (lease : Nat) :
    Balanced { semaphore with
      callers := semaphore.callers ++ [⟨lease, semaphore.uuids, false, .registering⟩]
      uuids := semaphore.uuids + 1 } := by
  have same : ∀ key, isPending (semaphore.callers ++
      [⟨lease, semaphore.uuids, false, .registering⟩]) key = isPending semaphore.callers key := by
    simp [isPending]
  refine ⟨fun one => ?_, fun one inside pending => ?_, fun one inside => ?_⟩
  · simpa [free, same, holders] using balanced.balance one
  · rcases List.mem_append.mp inside with old | new
    · exact balanced.present one old pending
    · obtain rfl := mem_singleton.mp new
      cases pending
  · rcases List.mem_append.mp inside with old | new
    · exact balanced.kept one old
    · obtain rfl := mem_singleton.mp new
      simp

theorem balanced_step (identified : Identified semaphore) (balanced : Balanced semaphore)
    (faultless : action.faulty = false) (settled : deletesSettled semaphore action = true)
    (move : SemaphoreMove semaphore action after) : Balanced after := by
  cases move with
  | joins lease => exact balanced_joins balanced lease
  | cancels found =>
    have member := mem_of_getElem? found
    refine ⟨fun lease => ?_, fun one inside pending => ?_, fun one inside => ?_⟩
    · have before := balanced.balance lease
      simp only [setCaller, free, count_holders, cancel_pending identified.ids found,
        cancel_holders found] at before ⊢
      exact before
    · rcases mem_set_old inside with rfl | old
      · exact (balanced.present _ member pending :)
      · exact balanced.present one old pending
    · rcases mem_set_old inside with rfl | old
      · exact (balanced.kept _ member :)
      · exact balanced.kept one old
  | moves found acts move =>
    rw [faultless] at move
    refine balanced_moves identified balanced found move fun target was => ?_
    rcases acts with ⟨_, rfl⟩ | elsewhere
    · simpa [deletesSettled, found, was] using settled
    · exact absurd was (elsewhere target)

end Steps

theorem settled_clear {semaphore : Semaphore} (balanced : Balanced semaphore)
    (settled : ∀ caller ∈ semaphore.callers, caller.stage.settled = true) :
    semaphore.permits.keys = [] := by
  have idle : ∀ caller ∈ semaphore.callers,
      caller.stage.pending = false ∧ caller.stage.outstanding = false := by
    intro caller member
    have done := settled caller member
    cases stage : caller.stage with
    | refused | released => exact ⟨rfl, rfl⟩
    | _ => simp [stage, Stage.settled] at done
  rw [eq_nil_iff_forall_not_mem]
  intro key member
  have notPending : isPending semaphore.callers key = false := by
    simp only [isPending, List.any_eq_false, Bool.and_eq_true, not_and]
    exact fun caller inside pending => absurd pending
      (by simp [-Stage.pending, (idle caller inside).1])
  have nobody : (holders semaphore.callers).count key.lease = 0 := by
    rw [count_holders, countP_eq_zero]
    intro caller inside
    simp [-Stage.outstanding, (idle caller inside).2]
  have counted : 0 < free semaphore.permits.keys semaphore.callers key.lease :=
    countP_pos_iff.mpr ⟨key, member, by simp [notPending]⟩
  rw [balanced.balance, nobody] at counted
  exact lt_irrefl 0 counted

/-- Nobody has used the semaphore yet. -/
def Clear (semaphore : Semaphore) : Prop :=
  Fresh semaphore ∧ semaphore.permits.keys = []

structure Kept (semaphore : Semaphore) : Prop where
  identified : Identified semaphore
  balanced : Balanced semaphore

/-- Without failing calls, and if each `Release` that deletes finds its key there and
not with a caller that is still acquiring: no `Acquire` loses its key, and no key
remains once every caller is done. -/
theorem permits_returned (semaphore : Semaphore)
    (reached : Reaches semaphoreStep
      (fun before action => action.faulty = false ∧ deletesSettled before action = true)
      Clear semaphore) :
    (∀ caller ∈ semaphore.callers, caller.stage ≠ .refused .permitKeyLost) ∧
      ((∀ caller ∈ semaphore.callers, caller.stage.settled = true) →
        semaphore.permits.keys = []) := by
  have kept : Kept semaphore := by
    refine reaches_invariant (fun _ start => ?_) (fun _ _ _ kept allowed taken => ?_) reached
    · exact ⟨identified_fresh start.1, balanced_fresh start.1 start.2⟩
    · exact ⟨identified_step kept.identified (semaphore_moves taken),
        balanced_step kept.identified kept.balanced allowed.1 allowed.2 (semaphore_moves taken)⟩
  exact ⟨fun caller member => (kept.balanced.kept caller member).2,
    settled_clear kept.balanced⟩

theorem sample_clear (size : Int) : Clear (sampleSemaphore size) :=
  ⟨sample_fresh size, rfl⟩

/-- Two callers of one session, each acquiring and releasing in turn. -/
def inTurn : List Action :=
  [.acquire 1, .proceed 0 .ok, .proceed 0 .ok, .release 0, .proceed 0 .ok, .proceed 0 .ok,
    .acquire 1, .proceed 1 .ok, .proceed 1 .ok, .release 1, .proceed 1 .ok, .proceed 1 .ok]

theorem callers_in_turn_leave_nothing :
    ∃ semaphore, run semaphoreStep (sampleSemaphore 2) inTurn = some semaphore ∧
      semaphore.callers.map (·.stage) = [.released none, .released none] ∧
      semaphore.permits.keys = [] := by
  have ends : (run semaphoreStep (sampleSemaphore 2) inTurn).any (fun semaphore =>
    decide (semaphore.callers.map (·.stage) = [.released none, .released none] ∧
      ∀ caller ∈ semaphore.callers, caller.stage.settled = true)) = true := by decide +kernel
  obtain ⟨semaphore, ran, facts⟩ := (Option.any_eq_true _ _).mp ends
  obtain ⟨stages, settled⟩ := of_decide_eq_true facts
  have allowed : Allowed semaphoreStep (fun before action => action.faulty = false ∧
      deletesSettled before action = true) (sampleSemaphore 2) inTurn := by decide +kernel
  refine ⟨semaphore, ran, stages, ?_⟩
  exact (permits_returned semaphore
    (reaches_of_run (.start (sample_clear 2)) inTurn allowed ran)).2 settled

/-- The second caller is admitted and releases while the first, which has
registered before it, has not yet looked at its rank. -/
def overtaken : List Action :=
  [.acquire 1, .acquire 1, .proceed 0 .ok, .proceed 1 .ok, .proceed 1 .ok, .release 1,
    .proceed 1 .ok, .proceed 1 .ok, .proceed 0 .ok, .proceed 0 .ok]

/-- The release deletes the first caller's key: that caller is told that its key
is lost, and the key of the second one stays. -/
theorem overtaken_caller_loses_key :
    (run semaphoreStep (sampleSemaphore 2) overtaken).any (fun semaphore =>
      decide (semaphore.callers.map (fun caller => (caller.cancelled, caller.stage)) =
          [(false, .refused .permitKeyLost), (false, .released none)] ∧
        semaphore.permits.keys = [⟨1, 1⟩])) = true ∧
    overtaken.all (fun action => !action.faulty) = true := by
  decide +kernel

end Dagens.Coordination.SemaphorePermits
