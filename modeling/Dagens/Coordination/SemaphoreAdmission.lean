import Dagens.Coordination.Semaphore

/-!
# How many callers hold a permit

Callers and keys are not in correspondence: a `Release` may delete the key of a
caller that is still acquiring, and the key of the released one stays. What holds
is a count for each session: of the keys in the first `size` places that belong to
the session and to no pending caller there are at least as many as the session has
successful callers. A release takes one of each.
-/

namespace Dagens.Coordination.SemaphoreAdmission

open Lib GuardedRun AdmissionQueue Parties RevisionStore Semaphore List Nat

/-- The key is the one of a caller that is still acquiring. -/
def isPending (callers : List Caller) (key : PermitKey) : Bool :=
  callers.any fun caller => caller.stage.pending && decide (caller.key = key)

/-- The sessions of the callers between a successful `Acquire` and the end of
their `Release`. -/
def holders (callers : List Caller) : List Nat :=
  (callers.filter (·.stage.outstanding)).map (·.lease)

theorem count_holders (callers : List Caller) (lease : Nat) :
    (holders callers).count lease =
      callers.countP fun caller => decide (caller.lease = lease) && caller.stage.outstanding := by
  simp only [holders, List.count, countP_map, countP_filter, Function.comp_def]
  rfl

/-- Ids are drawn once, and a key is in the store only after its registration. -/
structure Identified (semaphore : Semaphore) : Prop where
  ids : (semaphore.callers.map (·.permitID)).Nodup
  drawn : ∀ caller ∈ semaphore.callers, caller.permitID < semaphore.uuids
  stored : ∀ key ∈ semaphore.permits.keys, key.permitID < semaphore.uuids
  unregistered : ∀ caller ∈ semaphore.callers, caller.stage = .registering →
    caller.key ∉ semaphore.permits.keys
  own : ∀ caller ∈ semaphore.callers, ∀ target, caller.stage = .deleting target →
    target.lease = caller.lease

section Set

variable {callers : List Caller} {index : Nat} {caller next : Caller}

theorem same_id (ids : (callers.map (·.permitID)).Nodup) {other : Nat} {one : Caller}
    (found : callers[index]? = some caller) (foundOther : callers[other]? = some one)
    (same : one.permitID = caller.permitID) : other = index := by
  have bound : index < (callers.map (·.permitID)).length := by
    simpa using (List.getElem?_eq_some_iff.mp found).1
  refine ((getElem?_inj bound ids).mp ?_).symm
  simp [found, foundOther, same]

section

variable (ids : (callers.map (·.permitID)).Nodup) (found : callers[index]? = some caller)

include ids found

theorem nodup_ids_set (same : next.permitID = caller.permitID) :
    ((callers.set index next).map (·.permitID)).Nodup := by
  obtain ⟨bound, rfl⟩ := List.getElem?_eq_some_iff.mp found
  have placed : (callers.map (·.permitID))[index]? = some next.permitID := by
    simp [bound, same]
  obtain ⟨_, equal⟩ := List.getElem?_eq_some_iff.mp placed
  rw [map_set, ← equal, set_getElem_self]
  exact ids

theorem is_pending_set (sameKey : next.key = caller.key) (key : PermitKey) :
    isPending (callers.set index next) key =
      if key = caller.key then next.stage.pending else isPending callers key := by
  have placed : next ∈ callers.set index next := mem_set_self found next
  split_ifs with own
  · subst own
    rw [Bool.eq_iff_iff]
    simp only [isPending, List.any_eq_true, Bool.and_eq_true, decide_eq_true_eq]
    constructor
    · rintro ⟨one, member, pending, equal⟩
      rcases mem_set_cases member with rfl | ⟨other, apart, foundOther⟩
      · exact pending
      · exact absurd (same_id ids found foundOther (congrArg PermitKey.permitID equal)) apart
    · exact fun pending => ⟨next, placed, pending, sameKey⟩
  · rw [Bool.eq_iff_iff]
    simp only [isPending, List.any_eq_true, Bool.and_eq_true, decide_eq_true_eq]
    constructor
    · rintro ⟨one, member, pending, equal⟩
      rcases mem_set_old member with rfl | old
      · exact absurd (equal.symm.trans sameKey) own
      · exact ⟨one, old, pending, equal⟩
    · rintro ⟨one, member, pending, equal⟩
      obtain ⟨other, foundOther⟩ := mem_iff_getElem?.mp member
      have apart : other ≠ index := by
        rintro rfl
        rw [found] at foundOther
        cases foundOther
        exact own equal.symm
      exact ⟨one, mem_set_other apart foundOther next, pending, equal⟩

theorem is_pending_stage (stage : Stage) (key : PermitKey) :
    isPending (callers.set index { caller with stage := stage }) key =
      if key = caller.key then stage.pending else isPending callers key :=
  is_pending_set ids found (rfl : ({ caller with stage := stage } : Caller).key = caller.key) key

theorem is_pending_own : isPending callers caller.key = caller.stage.pending := by
  have unchanged := is_pending_set ids found (rfl : caller.key = caller.key) caller.key
  have bound := (List.getElem?_eq_some_iff.mp found).1
  have same : callers.set index caller = callers := by
    rw [← (List.getElem?_eq_some_iff.mp found).2]
    exact set_getElem_self bound
  rw [same, if_pos rfl] at unchanged
  exact unchanged

theorem cancel_pending (key : PermitKey) :
    isPending (callers.set index { caller with cancelled := true }) key =
      isPending callers key := by
  rw [is_pending_set ids found
    (rfl : ({ caller with cancelled := true } : Caller).key = caller.key)]
  split_ifs with own
  · rw [own, is_pending_own ids found]
  · rfl

end

theorem cancel_holders (found : callers[index]? = some caller) (lease : Nat) :
    ((callers.set index { caller with cancelled := true }).countP fun one =>
      decide (one.lease = lease) && one.stage.outstanding) =
      callers.countP fun one => decide (one.lease = lease) && one.stage.outstanding := by
  have counted := countP_set_found found { caller with cancelled := true }
    fun one => decide (one.lease = lease) && one.stage.outstanding
  exact add_right_cancel counted

end Set

variable {semaphore : Semaphore}

theorem identified_fresh (fresh : Fresh semaphore) : Identified semaphore := by
  obtain ⟨nobody, others⟩ := fresh
  refine ⟨by simp [nobody], ?_, others, ?_, ?_⟩ <;> simp [nobody]

attribute [local simp] Stage.pending Stage.outstanding

section Steps

variable {semaphore after : Semaphore} {action : Action} {size : Int} {caller : Caller}
  {later : List PermitKey} {stage : Stage}

section

variable {keys : List PermitKey} {faulty : Bool}
  (move : CallerMove size caller keys faulty stage later)

include move

theorem caller_move_keys (unregistered : caller.stage = .registering → caller.key ∉ keys)
    {key : PermitKey} (member : key ∈ later) :
    key ∈ keys ∨ key = caller.key ∧ caller.stage = .registering := by
  cases move with
  | registers _ was put =>
    rw [put (unregistered was)] at member
    rcases List.mem_append.mp member with old | own
    · exact .inl old
    · exact .inr ⟨mem_singleton.mp own, was⟩
  | cleans | deletes =>
    exact .inl (mem_of_mem_filter member)
  | fails | waits | enters | leaves | calls | finds | misses | returns => exact .inl member

theorem caller_move_not_registering : stage ≠ .registering := by
  cases move with
  | registers faulty => cases faulty <;> simp
  | waits _ _ _ still =>
    rintro rfl
    cases still
  | _ => simp

theorem caller_move_target {target : PermitKey} (deleting : stage = .deleting target) :
    target.lease = caller.lease := by
  cases move with
  | finds _ _ mine =>
    cases deleting
    exact mine
  | registers faulty => cases faulty <;> cases deleting
  | waits _ _ _ still =>
    cases deleting
    cases still
  | _ => cases deleting

end

variable {index : Nat}

theorem identified_moves (identified : Identified semaphore)
    (found : semaphore.callers[index]? = some caller) {faulty : Bool}
    {permits : Store PermitKey String}
    (move : CallerMove semaphore.size caller semaphore.permits.keys faulty stage permits.keys) :
    Identified { setCaller semaphore index { caller with stage := stage } with
      permits := permits } := by
  have member := mem_of_getElem? found
  have keys : ∀ key ∈ permits.keys, key ∈ semaphore.permits.keys ∨
      key = caller.key ∧ caller.stage = .registering :=
    fun key inside => caller_move_keys move (identified.unregistered caller member) inside
  refine ⟨?_, ?_, ?_, ?_, ?_⟩
  · exact nodup_ids_set identified.ids found rfl
  · intro one inside
    rcases mem_set_old inside with rfl | old
    · exact identified.drawn caller member
    · exact identified.drawn one old
  · intro key inside
    rcases keys key inside with old | ⟨rfl, _⟩
    · exact identified.stored key old
    · exact identified.drawn caller member
  · intro one inside registering stored
    rcases mem_set_cases inside with rfl | ⟨_, apart, foundOther⟩
    · exact caller_move_not_registering move registering
    · have old := mem_of_getElem? foundOther
      rcases keys one.key stored with before | ⟨same, _⟩
      · exact identified.unregistered one old registering before
      · exact apart (same_id identified.ids found foundOther (congrArg PermitKey.permitID same))
  · intro one inside target deleting
    rcases mem_set_old inside with rfl | old
    · exact caller_move_target move deleting
    · exact identified.own one old target deleting

theorem identified_step (identified : Identified semaphore)
    (move : SemaphoreMove semaphore action after) : Identified after := by
  cases move with
  | joins =>
    have unused : semaphore.uuids ∉ semaphore.callers.map (·.permitID) := by
      intro member
      obtain ⟨caller, inside, same⟩ := List.mem_map.mp member
      exact absurd (identified.drawn caller inside) (by omega)
    refine ⟨?_, ?_, ?_, ?_, ?_⟩
    · simpa [nodup_append] using ⟨identified.ids, fun one inside same =>
      unused (List.mem_map.mpr ⟨one, inside, same⟩)⟩
    · intro caller inside
      rcases List.mem_append.mp inside with old | new
      · exact lt_succ_of_lt (identified.drawn caller old)
      · obtain rfl := mem_singleton.mp new
        exact lt_succ_self _
    · exact fun key inside => lt_succ_of_lt (identified.stored key inside)
    · intro caller inside registering stored
      rcases List.mem_append.mp inside with old | new
      · exact identified.unregistered caller old registering stored
      · obtain rfl := mem_singleton.mp new
        exact absurd (identified.stored _ stored) (lt_irrefl _)
    · intro caller inside target deleting
      rcases List.mem_append.mp inside with old | new
      · exact identified.own caller old target deleting
      · obtain rfl := mem_singleton.mp new
        cases deleting
  | cancels found =>
    rename_i index caller
    have member := mem_of_getElem? found
    refine ⟨nodup_ids_set identified.ids found rfl, ?_, identified.stored, ?_, ?_⟩
    all_goals
      intro one inside
      rcases mem_set_old inside with rfl | old
    · exact identified.drawn caller member
    · exact identified.drawn one old
    · exact identified.unregistered caller member
    · exact identified.unregistered one old
    · exact identified.own caller member
    · exact identified.own one old
  | moves found _ move => exact identified_moves identified found move

/-- The keys of a session in the first places that no pending caller waits with. -/
def covering (size : Int) (keys : List PermitKey) (callers : List Caller) (lease : Nat) : Nat :=
  admitted size.toNat keys fun key => decide (key.lease = lease) && !isPending callers key

def Covered (semaphore : Semaphore) : Prop :=
  ∀ lease, (holders semaphore.callers).count lease ≤
    covering semaphore.size semaphore.permits.keys semaphore.callers lease

theorem holders_set {callers : List Caller} (found : callers[index]? = some caller) (stage : Stage)
    (lease : Nat) :
    (holders (callers.set index { caller with stage := stage })).count lease +
        (if caller.lease = lease ∧ caller.stage.outstanding = true then 1 else 0) =
      (holders callers).count lease +
        (if caller.lease = lease ∧ stage.outstanding = true then 1 else 0) := by
  have counted := countP_set_found found { caller with stage := stage }
    fun one => decide (one.lease = lease) && one.stage.outstanding
  simpa [-Stage.outstanding, count_holders] using counted

section Covering

variable (size : Int) {callers : List Caller} {index : Nat} {caller : Caller}
  {keys later : List PermitKey} {stage : Stage} (lease : Nat)

theorem covering_mono (keys : List PermitKey) (ids : (callers.map (·.permitID)).Nodup)
    (found : callers[index]? = some caller)
    (still : stage.pending = true → caller.stage.pending = true) :
    covering size keys callers lease ≤
      covering size keys (callers.set index { caller with stage := stage }) lease := by
  refine admitted_mono fun key _ counted => ?_
  simp only [Bool.and_eq_true, Bool.not_eq_true', decide_eq_true_eq] at counted ⊢
  refine ⟨counted.1, ?_⟩
  rw [is_pending_stage ids found]
  split_ifs with own
  · rw [own, is_pending_own ids found] at counted
    cases waits : stage.pending with
    | false => rfl
    | true => exact absurd (still waits) (by simp [-Stage.pending, counted.2])
  · exact counted.2

section

variable (ids : (callers.map (·.permitID)).Nodup) (found : callers[index]? = some caller)

include ids found

theorem covering_join (unregistered : caller.key ∉ keys) :
    covering size keys callers lease ≤
      covering size (keys ++ [caller.key]) (callers.set index { caller with stage := stage })
        lease := by
  refine le_trans (admitted_mono fun key member counted => ?_) (admitted_join ..)
  have other : key ≠ caller.key := fun same => unregistered (same ▸ member)
  rw [is_pending_stage ids found, if_neg other]
  exact counted

theorem covering_enter (was : caller.stage = .ranking) (place : caller.key ∈ keys.take size.toNat) :
    covering size keys callers caller.lease + 1 ≤
      covering size keys (callers.set index { caller with stage := .holding }) caller.lease := by
  refine countP_gain place ?_ ?_ ?_
  · simp [is_pending_own ids found, was]
  · rw [is_pending_stage ids found, if_pos rfl]
    simp [Caller.key]
  · intro key counted
    rw [is_pending_stage ids found]
    split_ifs with own
    · rw [own]
      simp [Caller.key]
    · exact counted

end

theorem covering_leave (callers : List Caller) (distinct : keys.Nodup) (target : PermitKey) :
    covering size keys callers lease ≤
      covering size (keys.filter fun key => !decide (key = target)) callers lease +
        (if target.lease = lease ∧ isPending callers target = false then 1 else 0) := by
  have left := admitted_leave distinct size.toNat target
    fun key => decide (key.lease = lease) && !isPending callers key
  simpa [covering] using left

theorem covering_moves (ids : (callers.map (·.permitID)).Nodup) (distinct : keys.Nodup)
    (found : callers[index]? = some caller)
    (unregistered : caller.stage = .registering → caller.key ∉ keys)
    (own : ∀ target, caller.stage = .deleting target → target.lease = caller.lease)
    {faulty : Bool} (move : CallerMove size caller keys faulty stage later) :
    covering size keys callers lease +
        (if caller.lease = lease ∧ stage.outstanding = true then 1 else 0) ≤
      covering size later (callers.set index { caller with stage := stage }) lease +
        (if caller.lease = lease ∧ caller.stage.outstanding = true then 1 else 0) := by
  cases move with
  | registers faulty was put =>
    rw [put (unregistered was)]
    cases faulty <;>
      simpa [was] using covering_join size lease ids found (unregistered was)
  | fails was | leaves _ was | calls was | finds was =>
    simpa [was] using covering_mono size lease _ ids found (by simp)
  | waits _ was _ still =>
    simpa [-Stage.outstanding, Stage.pending_not_outstanding was,
      Stage.pending_not_outstanding still] using covering_mono size lease _ ids found fun _ => was
  | enters was place =>
    by_cases mine : caller.lease = lease
    · subst mine
      simpa [was] using covering_enter size ids found was place
    · simpa [mine] using covering_mono size lease _ ids found (by simp)
  | cleans _ err was =>
    have waiting : isPending callers caller.key = true := by
      simp [is_pending_own ids found, was]
    have kept : covering size keys callers lease ≤
        covering size (keys.filter fun key => !decide (key = caller.key)) callers lease := by
      have left := covering_leave size lease callers distinct caller.key
      simpa [waiting] using left
    have freed := kept.trans (covering_mono size lease _ ids found
      (by simp : (Stage.refused err).pending = true → _))
    simpa [was] using freed
  | deletes _ target was err =>
    have cost : (if target.lease = lease ∧ isPending callers target = false then 1 else 0) ≤
        if caller.lease = lease then 1 else 0 := by
      rw [own target was]
      split_ifs <;> simp_all
    have freed := (covering_leave size lease callers distinct target).trans (Nat.add_le_add_right
      (covering_mono size lease _ ids found
        (by simp : (Stage.released err).pending = true → _)) _)
    simp only [was, Stage.outstanding, Bool.false_eq_true, and_false, if_false, and_true]
    omega
  | misses =>
    have freed := covering_mono size lease keys ids found
      (by simp : (Stage.released (some .noPermits)).pending = true → _)
    exact le_trans (by simpa using freed) (le_add_right _ _)
  | returns _ err =>
    have freed := covering_mono size lease keys ids found
      (by simp : (Stage.released (some err)).pending = true → _)
    exact le_trans (by simpa using freed) (le_add_right _ _)

end Covering

theorem covered_step (identified : Identified semaphore) (covered : Covered semaphore)
    (move : SemaphoreMove semaphore action after) : Covered after := by
  cases move with
  | joins lease =>
    intro one
    have same : ∀ key, isPending (semaphore.callers ++
        [⟨lease, semaphore.uuids, false, .registering⟩]) key =
        isPending semaphore.callers key := by
      simp [isPending]
    simpa [holders, covering, same] using covered one
  | cancels found =>
    intro lease
    have before := covered lease
    simp only [setCaller, count_holders, covering, cancel_pending identified.ids found,
      cancel_holders found] at before ⊢
    exact before
  | moves found acts move =>
    rename_i index caller stage permits
    intro lease
    have member := mem_of_getElem? found
    have places := covering_moves semaphore.size lease identified.ids
      semaphore.permits.nodup_keys found (identified.unregistered caller member)
      (identified.own caller member) move
    have counted := holders_set found stage lease
    have before := covered lease
    change (holders (semaphore.callers.set index { caller with stage := stage })).count lease ≤
      covering semaphore.size permits.keys
        (semaphore.callers.set index { caller with stage := stage }) lease
    omega

end Steps

structure Accounted (semaphore : Semaphore) : Prop where
  identified : Identified semaphore
  covered : Covered semaphore

theorem accounted_fresh (fresh : Fresh semaphore) : Accounted semaphore :=
  ⟨identified_fresh fresh, fun lease => by simp [holders, fresh.1]⟩

theorem accounted_step {after : Semaphore} {action : Action} (accounted : Accounted semaphore)
    (taken : semaphoreStep semaphore action = some after) :
    Accounted after :=
  ⟨identified_step accounted.identified (semaphore_moves taken),
    covered_step accounted.identified accounted.covered (semaphore_moves taken)⟩

/-- In every run, with any failing calls and any cancelled ones, no more callers
than `size` are between a successful `Acquire` and the end of their `Release`. -/
theorem holders_within_size (semaphore : Semaphore)
    (reached : Reaches semaphoreStep (fun _ _ => True) Fresh semaphore) :
    semaphore.callers.countP (·.stage.outstanding) ≤ semaphore.size.toNat := by
  have accounted : Accounted semaphore :=
    reaches_invariant (fun _ fresh => accounted_fresh fresh)
      (fun _ _ _ accounted _ taken => accounted_step accounted taken) reached
  have bound := holders_le_places accounted.covered
  simpa [holders, countP_eq_length_filter] using bound

def sampleSemaphore (size : Int) : Semaphore := ⟨size, .empty, [], 0⟩

theorem sample_fresh (size : Int) : Fresh (sampleSemaphore size) := ⟨rfl, by simp [sampleSemaphore, Store.empty, Store.keys]⟩

/-- Two callers of one session register; the first in line gets the permit. -/
def twoCallers : List Action :=
  [.acquire 1, .acquire 1, .proceed 0 .ok, .proceed 1 .ok, .proceed 1 .ok, .proceed 0 .ok]

theorem second_caller_waits :
    ∃ semaphore, run semaphoreStep (sampleSemaphore 1) twoCallers = some semaphore ∧
      semaphore.callers.map (·.stage) = [.holding, .watching] ∧
      semaphore.callers.countP (·.stage.outstanding) ≤ 1 := by
  have ends : (run semaphoreStep (sampleSemaphore 1) twoCallers).any (fun semaphore =>
    decide (semaphore.callers.map (·.stage) = [.holding, .watching] ∧
      semaphore.size = 1)) = true := by decide +kernel
  obtain ⟨semaphore, ran, facts⟩ := (Option.any_eq_true _ _).mp ends
  obtain ⟨stages, size⟩ := of_decide_eq_true facts
  refine ⟨semaphore, ran, stages, ?_⟩
  have bound := holders_within_size semaphore
    (reaches_of_run (.start (sample_fresh 1)) twoCallers (allowed_of_always (by simp) _ _) ran)
  rw [size] at bound
  exact bound

end Dagens.Coordination.SemaphoreAdmission
