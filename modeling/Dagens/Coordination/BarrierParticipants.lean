import Dagens.Coordination.Barrier

/-!
# The participants of a barrier

A `Wait` registers under its session's lease and the number that its own barrier
object has drawn for it. Two calls of one object never share a number; two objects
of one session count separately, and then the deferred deletion of one call removes
the key that another still waits under.
-/

namespace Dagens.Coordination.BarrierParticipants

open Lib GuardedRun Parties RevisionStore Barrier List Option

/-- From the drawing of the number to the cleanup. -/
def Stage.numbered (stage : Stage) : Bool := decide (stage = .registering) || stage.active

def SameNumber (one two : Call) : Prop :=
  Stage.numbered one.stage = true ∧ Stage.numbered two.stage = true ∧
    one.object = two.object ∧ one.number = two.number

structure Numbered (barrier : Barrier) : Prop where
  drawn : ∀ call ∈ barrier.calls, ∃ object, barrier.objects[call.object]? = some object ∧
    call.number ≤ object.participantCounter
  apart : Apart SameNumber barrier.calls

inductive NumberMove (barrier : Barrier) : Barrier → Prop where
  | begins {index : Nat} {object : BarrierObject} (found : barrier.objects[index]? = some object)
      {call : Call} (newcomer : call.object = index ∧ call.number = 0 ∧
        Stage.numbered call.stage = false) (clock : Nat) :
      NumberMove barrier { barrier with calls := barrier.calls ++ [call], clock := clock }
  | draws {index : Nat} {call : Call} {object : BarrierObject}
      (found : barrier.calls[index]? = some call)
      (of : barrier.objects[call.object]? = some object) :
      NumberMove barrier
        { setCall barrier index (barrier.store,
            { call with number := object.participantCounter + 1, stage := .registering }) with
          objects := barrier.objects.set call.object
            { object with participantCounter := object.participantCounter + 1 } }
  | keeps {after : Barrier}
      (calls : ∀ (place : Nat) (next : Call), after.calls[place]? = some next → ∃ call : Call,
        barrier.calls[place]? = some call ∧ next.object = call.object ∧
          next.number = call.number ∧
          (Stage.numbered next.stage = true → Stage.numbered call.stage = true))
      (objects : ∀ (place : Nat) (object : BarrierObject), barrier.objects[place]? = some object →
        after.objects[place]? = some object) : NumberMove barrier after

variable {after barrier : Barrier} {call : Call} {action : Action} {index : Nat}

attribute [local simp] Stage.numbered registerStep written cleanStep Stage.active tripStep setCall

section Numbers

theorem same_number_symm (one two : Call) (same : SameNumber one two) : SameNumber two one :=
  ⟨same.2.1, same.1, same.2.2.1.symm, same.2.2.2.symm⟩

theorem keeps_set (found : barrier.calls[index]? = some call)
    (next : Store BarrierKey BarrierValue × Call) (object : next.2.object = call.object)
    (number : next.2.number = call.number)
    (numbered : Stage.numbered next.2.stage = true → Stage.numbered call.stage = true) :
    NumberMove barrier (setCall barrier index next) := by
  refine .keeps ?_ (fun _ _ known => known)
  intro _ one foundOne
  rcases found_set_cases foundOne with ⟨rfl, rfl⟩ | ⟨_, old⟩
  · exact ⟨call, found, object, number, numbered⟩
  · exact ⟨one, old, rfl, rfl, id⟩

theorem proceed_numbers (found : barrier.calls[index]? = some call) (answer : Answer)
    (taken : proceed barrier index call answer = some after) : NumberMove barrier after := by
  -- past the drawing only the last stage is unnumbered, and no step leads back
  cases was : call.stage with
    simp only [proceed, was] at taken
  | joining =>
    cases taken
    apply keeps_set found
    · simp only [joinStep]
      split <;> rfl
    · simp only [joinStep]
      split <;> rfl
    · simp only [joinStep]
      split <;> simp
  | numbering =>
    simp only [bind_eq_bind, bind_eq_some_iff] at taken
    obtain ⟨_, of, taken⟩ := taken
    cases taken
    exact .draws found of
  | registering =>
    split_ifs at taken with ended
    cases taken
    exact keeps_set found _ rfl rfl fun _ => by simp [was]
  | checking | counting =>
    cases taken
    refine keeps_set found _ ?_ ?_ fun _ => by simp [was]
    all_goals
      cases answer with
      | ok =>
        simp only [checkStep, countStep]
        split <;> rfl
      | fault => rfl
  | tripping | waiting | cleaning =>
    cases taken
    exact keeps_set found _ rfl rfl fun _ => by simp [was]
  | done => simp at taken

theorem number_moves (taken : barrierStep barrier action = some after) :
    NumberMove barrier after := by
  cases action with
    simp only [barrierStep, bind_eq_bind, bind_eq_some_iff] at taken
  | newBarrier =>
    cases taken
    refine .keeps (fun _ one found => ⟨one, found, rfl, rfl, id⟩) ?_
    intro _ _ known
    exact getElem?_append_left (List.getElem?_eq_some_iff.mp known).1 ▸ known
  | wait =>
    obtain ⟨_, found, taken⟩ := taken
    cases taken
    exact .begins found ⟨rfl, rfl, rfl⟩ _
  | cancel =>
    obtain ⟨call, found, taken⟩ := taken
    cases taken
    exact keeps_set found _ rfl rfl id
  | proceed _ answer =>
    obtain ⟨call, found, taken⟩ := taken
    exact proceed_numbers found answer taken
  | giveUp =>
    obtain ⟨_, found, taken⟩ := taken
    split_ifs at taken with waits
    cases taken
    refine keeps_set found _ rfl rfl (fun _ => ?_)
    simp [waits.1]
  | reset | expire =>
    cases taken
    exact .keeps (fun _ one found => ⟨one, found, rfl, rfl, id⟩) (fun _ _ known => known)

theorem numbered_step (numbered : Numbered barrier) (move : NumberMove barrier after) :
    Numbered after := by
  cases move with
  | begins found newcomer clock =>
    rename_i index object call
    obtain ⟨same, number, unnumbered⟩ := newcomer
    constructor
    · intro one inside
      rcases List.mem_append.mp inside with old | new
      · exact numbered.drawn one old
      · rw [mem_singleton.mp new, same, number]
        exact ⟨object, found, Nat.zero_le _⟩
    · refine apart_append same_number_symm numbered.apart ?_
      intro other ⟨_, numberedNew, _⟩
      rw [unnumbered] at numberedNew
      cases numberedNew
  | draws found of =>
    rename_i index call object
    -- the number drawn is above every number of the object
    have above : ∀ one ∈ barrier.calls, one.object = call.object →
        one.number ≤ object.participantCounter := by
      intro one inside same
      obtain ⟨its, known, bound⟩ := numbered.drawn one inside
      rw [same, of] at known
      cases known
      exact bound
    constructor
    · intro one inside
      have kept : ∀ one : Call, (∃ its, barrier.objects[one.object]? = some its ∧
          one.number ≤ its.participantCounter) → ∃ its, (barrier.objects.set call.object
            ⟨object.lease, object.participantCounter + 1⟩)[one.object]? = some its ∧
              one.number ≤ its.participantCounter := by
        rintro one ⟨its, known, bound⟩
        by_cases same : one.object = call.object
        · rw [same, of] at known
          cases known
          refine ⟨_, by rw [same, getElem?_set_self (List.getElem?_eq_some_iff.mp of).1], ?_⟩
          exact Nat.le_succ_of_le bound
        · exact ⟨its, by rw [getElem?_set_ne (Ne.symm same), known], bound⟩
      rcases mem_set_old inside with rfl | old
      · exact ⟨_, getElem?_set_self (List.getElem?_eq_some_iff.mp of).1, le_refl _⟩
      · exact kept one (numbered.drawn one old)
    · refine apart_set same_number_symm numbered.apart ?_
      intro place other _ old ⟨_, _, sameObject, sameNumber⟩
      have bound := above other (mem_of_getElem? old) sameObject
      simp only at sameNumber
      omega
  | keeps calls objects =>
    constructor
    · intro one inside
      obtain ⟨place, found⟩ := mem_iff_getElem?.mp inside
      obtain ⟨before, foundBefore, object, number, _⟩ := calls place one found
      obtain ⟨its, known, bound⟩ := numbered.drawn before (mem_of_getElem? foundBefore)
      rw [object, number]
      exact ⟨its, objects _ its known, bound⟩
    · intro first second one two foundOne foundTwo
        ⟨numberedOne, numberedTwo, sameObject, sameNumber⟩
      obtain ⟨a, foundA, objectA, numberA, stageA⟩ := calls first one foundOne
      obtain ⟨b, foundB, objectB, numberB, stageB⟩ := calls second two foundTwo
      refine numbered.apart first second a b foundA foundB
        ⟨stageA numberedOne, stageB numberedTwo, ?_, ?_⟩
      · rw [← objectA, ← objectB, sameObject]
      · rw [← numberA, ← numberB, sameNumber]

end Numbers

/-- Every call between its registration and its cleanup has a key in etcd that no other
such call uses, and the count of a generation is at least the number of them in it. -/
structure Counted (barrier : Barrier) : Prop where
  stored : ∀ call ∈ barrier.calls, call.stage.active = true → call.key ∈ barrier.store.keys
  own : ∀ (first second : Nat) (one two : Call), barrier.calls[first]? = some one →
    barrier.calls[second]? = some two → one.stage.active = true → two.stage.active = true →
    one.key = two.key → first = second
  counted : ∀ generation, barrier.calls.countP (fun call => call.stage.active &&
    decide (call.generation = generation)) ≤ countParticipants barrier.store generation

/-- A call through another object of the same session with the same number, in the
same generation, between its registration and its cleanup. -/
def clashes (call other : Call) : Bool :=
  other.stage.active && decide (other.object ≠ call.object) && decide (other.lease = call.lease)
    && decide (other.generation = call.generation) && decide (other.number = call.number)

/-- No registration is acknowledged while a call through another object of the same
session waits under the same number. -/
def ownNumber (barrier : Barrier) : Action → Bool
  | .proceed index .ok => barrier.calls[index]?.all fun call =>
    decide (call.stage ≠ .registering) || barrier.calls.all fun other => !clashes call other
  | _ => true

/-- Leases live on and nobody resets the barrier. -/
def calm : Action → Bool
  | .reset _ | .expire _ => false
  | _ => true

section Keys

variable {next : Call} {store : Store BarrierKey BarrierValue}

theorem counted_intro
    (stored : ∀ call ∈ barrier.calls, call.stage.active = true → call.key ∈ barrier.store.keys)
    (own : ∀ (first second : Nat) (one two : Call), barrier.calls[first]? = some one →
      barrier.calls[second]? = some two → one.stage.active = true → two.stage.active = true →
      one.key = two.key → first = second) : Counted barrier := by
  refine ⟨stored, own, ?_⟩
  intro generation
  have keys : countParticipants barrier.store generation =
      (barrier.store.keys.filter (isParticipant generation)).length := by
    rw [← Store.range_keys, length_map]
    rfl
  rw [keys]
  apply countP_le_length Call.key
  · intro call inside kind
    simp only [Bool.and_eq_true, decide_eq_true_eq] at kind
    obtain ⟨active, rfl⟩ := kind
    exact mem_filter.mpr ⟨stored call inside active, by simp [Call.key, isParticipant]⟩
  · intro first second one two foundOne foundTwo ⟨kindOne, kindTwo, same⟩
    simp only [Bool.and_eq_true] at kindOne kindTwo
    exact own first second one two foundOne foundTwo kindOne.1 kindTwo.1 same

def SameKey (one two : Call) : Prop :=
  one.stage.active = true ∧ two.stage.active = true ∧ one.key = two.key

theorem same_key_symm (one two : Call) (same : SameKey one two) : SameKey two one :=
  ⟨same.2.1, same.1, same.2.2.symm⟩

section

variable (counted : Counted barrier)

include counted

theorem own_apart : Apart SameKey barrier.calls :=
  fun first second one two foundOne foundTwo same =>
    counted.own first second one two foundOne foundTwo same.1 same.2.1 same.2.2

theorem counted_set (objects : List BarrierObject)
    (kept : ∀ (place : Nat) (other : Call), place ≠ index → barrier.calls[place]? = some other →
      other.stage.active = true → other.key ∈ store.keys)
    (stored : next.stage.active = true → next.key ∈ store.keys)
    (own : next.stage.active = true → ∀ (place : Nat) (other : Call), place ≠ index →
      barrier.calls[place]? = some other → other.stage.active = true → other.key ≠ next.key) :
    Counted { setCall barrier index (store, next) with objects := objects } := by
  apply counted_intro
  · intro one inside active
    rcases mem_set_cases inside with rfl | ⟨place, apart, old⟩
    · exact stored active
    · exact kept place one apart old active
  · have apart : Apart SameKey (barrier.calls.set index next) := by
      refine apart_set same_key_symm (own_apart counted) ?_
      intro place other elsewhere old ⟨isActive, active, same⟩
      exact own active place other elsewhere old isActive same
    exact fun first second one two foundOne foundTwo activeOne activeTwo same =>
      apart first second one two foundOne foundTwo ⟨activeOne, activeTwo, same⟩

theorem counted_on (found : barrier.calls[index]? = some call) (objects : List BarrierObject)
    (was : call.stage.active = true) (key : next.key = call.key)
    (kept : ∀ key ∈ barrier.store.keys, key ∈ store.keys) :
    Counted { setCall barrier index (store, next) with objects := objects } := by
  apply counted_set counted objects
  · exact fun place other apart old active =>
    kept _ (counted.stored other (mem_of_getElem? old) active)
  · intro active
    rw [key]
    exact kept _ (counted.stored call (mem_of_getElem? found) was)
  · intro active place other apart old isActive same
    exact apart (counted.own place index other call old found isActive was (same.trans key))

theorem counted_moves (found : barrier.calls[index]? = some call)
    (move : CallMove barrier call store next) (objects : List BarrierObject)
    (own : call.stage = .registering → next.stage.active = true → ∀ (place : Nat) (other : Call),
      place ≠ index → barrier.calls[place]? = some other → other.stage.active = true → other.key ≠
      call.key) :
    Counted { setCall barrier index (store, next) with objects := objects } := by
  cases move with
  | prepares _ keys _ stage =>
    apply counted_set counted objects
    · exact fun place other apart old active =>
      (keys _).mpr (.inl (counted.stored other (mem_of_getElem? old) active))
    · simp [-Stage.active, stage.1]
    · simp [-Stage.active, stage.1]
  | registers was answer =>
    have kept : ∀ key ∈ barrier.store.keys, key ∈ (registerStep barrier call answer).1.keys := by
      intro key inside
      cases answer with
      | ok => simp [inside]
      | fault applied => cases applied <;> simp [inside]
    apply counted_set counted objects
    · exact fun place other apart old active =>
      kept _ (counted.stored other (mem_of_getElem? old) active)
    · cases answer with
      | ok => simp [Call.key]
      | fault => simp
    · exact own was
  | looks was =>
    exact counted_on counted found objects was rfl (fun _ inside => inside)
  | trips was answer =>
    refine counted_on counted found objects (by simp [was]) rfl ?_
    intro key inside
    cases answer with
    | ok => simp [inside]
    | fault applied => cases applied <;> simp [inside]
  | cleans _ was answer =>
    have active : call.stage.active = true := by simp [was]
    apply counted_set counted objects
    · intro place other apart old isActive
      -- only the call's own key goes, and no other active call uses it
      have stored := counted.stored other (mem_of_getElem? old) isActive
      have different : other.key ≠ call.key := fun same =>
        apart (counted.own place index other call old found isActive active same)
      cases answer with
      | ok => simp [stored, different]
      | fault applied => cases applied <;> simp [stored, different]
    · simp
    · simp

end

theorem own_key (numbered : Numbered barrier) (found : barrier.calls[index]? = some call)
    (was : call.stage = .registering) (alone : ownNumber barrier (.proceed index .ok) = true)
    (place : Nat) (other : Call) (apart : place ≠ index)
    (foundOther : barrier.calls[place]? = some other) (active : other.stage.active = true) :
    other.key ≠ call.key := by
  intro same
  simp only [Call.key, BarrierKey.participant.injEq] at same
  obtain ⟨generation, lease, number⟩ := same
  by_cases object : other.object = call.object
  · exact apart (numbered.apart place index other call foundOther found
      ⟨by simp [-Stage.active, active], by simp [was], object, number⟩)
  · simp only [ownNumber, found, all_some, was, ne_eq, not_true_eq_false, decide_false,
      Bool.false_or, List.all_eq_true, Bool.not_eq_true'] at alone
    have free := alone other (mem_of_getElem? foundOther)
    simp [-Stage.active, clashes, active, object, lease, generation, number] at free

theorem counted_step (counted : Counted barrier) (numbered : Numbered barrier)
    (still : calm action = true) (alone : ownNumber barrier action = true)
    (taken : barrierStep barrier action = some after) : Counted after := by
  cases barrier_moves taken with
  | adds => exact ⟨counted.stored, counted.own, counted.counted⟩
  | begins =>
    apply counted_intro
    · intro one inside active
      rcases List.mem_append.mp inside with old | new
      · exact counted.stored one old active
      · rw [mem_singleton.mp new] at active
        cases active
    · intro first second one two foundOne foundTwo activeOne activeTwo same
      refine apart_append same_key_symm (own_apart counted) ?_ first second one two foundOne
        foundTwo ⟨activeOne, activeTwo, same⟩
      intro other ⟨_, activeNew, _⟩
      cases activeNew
  | cancels found =>
    rename_i index call
    apply counted_set counted barrier.objects
    · exact fun place other apart old active =>
      counted.stored other (mem_of_getElem? old) active
    · exact counted.stored call (mem_of_getElem? found)
    · exact fun active place other apart old isActive same =>
      apart (counted.own place index other call old found isActive active same)
  | moves found move acts objects =>
    apply counted_moves counted found move objects
    intro was active
    cases acts was active
    exact own_key numbered found was alone
  | resets => cases still
  | expires => cases still

theorem clash_uncounted (taken : barrierStep barrier action = some after)
    (counted : Counted after) : ownNumber barrier action = true := by
  by_contra clash
  match action with
  | .proceed index .ok =>
    cases found : barrier.calls[index]? with
    | none => simp [ownNumber, found] at clash
    | some call =>
      simp only [ownNumber, found, all_some, ne_eq, Bool.or_eq_true, decide_eq_true_eq,
        List.all_eq_true, Bool.not_eq_true', not_or, not_not, not_forall,
        Bool.not_eq_false] at clash
      obtain ⟨was, other, inside, clashing⟩ := clash
      simp only [clashes, Bool.and_eq_true, decide_eq_true_eq] at clashing
      obtain ⟨⟨⟨⟨active, object⟩, lease⟩, generation⟩, number⟩ := clashing
      obtain ⟨place, foundOther⟩ := mem_iff_getElem?.mp inside
      have apart : place ≠ index := by
        rintro rfl
        rw [found] at foundOther
        cases foundOther
        exact object rfl
      simp only [barrierStep, found, bind_eq_bind, bind_some, proceed, was]
        at taken
      split_ifs at taken
      cases taken
      refine apart (counted.own place index other (registerStep barrier call .ok).2 ?_ ?_
        active rfl ?_)
      · simpa [getElem?_set_ne (Ne.symm apart)] using foundOther
      · simp [(List.getElem?_eq_some_iff.mp found).1]
      · simp [Call.key, lease, generation, number]
  | .proceed index (.fault applied) => exact clash rfl
  | .newBarrier _ | .wait _ | .cancel _ | .giveUp _ | .reset _ | .expire _ => exact clash rfl

theorem counted_fresh (fresh : Fresh barrier) : Counted barrier := by
  obtain ⟨_, _, nobody⟩ := fresh
  apply counted_intro <;> simp [nobody]

theorem numbered_fresh (fresh : Fresh barrier) : Numbered barrier := by
  obtain ⟨_, _, nobody⟩ := fresh
  constructor <;> simp [nobody, Apart]

structure Kept (barrier : Barrier) : Prop where
  counted : Counted barrier
  numbered : Numbered barrier

end Keys

/-- In a run without resets and lost leases in which nobody has registered beside a
call of another object with the same key, the next step keeps all waiting calls
counted exactly if it is no such registration either. -/
theorem waiting_participants_counted_iff {barrier after : Barrier}
    (reached : Reaches barrierStep
      (fun state action => calm action = true ∧ ownNumber state action = true) Fresh barrier)
    (action : Action) (still : calm action = true)
    (taken : barrierStep barrier action = some after) :
    Counted after ↔ ownNumber barrier action = true := by
  have kept : Kept barrier := by
    refine reaches_invariant ?_ ?_ reached
    · exact fun _ fresh => ⟨counted_fresh fresh, numbered_fresh fresh⟩
    · intro _ _ _ held met stepped
      exact ⟨counted_step held.counted held.numbered met.1 met.2 stepped,
        numbered_step held.numbered (number_moves stepped)⟩
  constructor
  · exact clash_uncounted taken
  · exact fun alone => counted_step kept.counted kept.numbered still alone taken

section Sample

/-- Two calls of one object have registered, and one of another session is about to. -/
def twoSessions : List Action :=
  [Action.newBarrier 1, .newBarrier 2, .wait 0, .wait 0, .wait 1] ++
    replicate 3 (Action.proceed 0 .ok) ++ replicate 3 (Action.proceed 1 .ok) ++
    replicate 2 (Action.proceed 2 .ok)

theorem both_sessions_counted : ∃ barrier after : Barrier,
    run barrierStep (emptyBarrier 3) twoSessions = some barrier ∧
      barrierStep barrier (.proceed 2 .ok) = some after ∧
      ownNumber barrier (.proceed 2 .ok) = true ∧
      after.calls.countP (·.stage.active) = 3 ∧ Counted after := by
  have ends : (run barrierStep (emptyBarrier 3) twoSessions).any (fun barrier =>
    ownNumber barrier (.proceed 2 .ok) && (barrierStep barrier (.proceed 2 .ok)).any
      (fun after => decide (after.calls.countP (·.stage.active) = 3))) = true := by
    rfl
  have allowed : Allowed barrierStep
      (fun state action => calm action = true ∧ ownNumber state action = true)
      (emptyBarrier 3) twoSessions := by
    exact of_decide_eq_true rfl
  obtain ⟨barrier, ran, facts⟩ := (Option.any_eq_true _ _).mp ends
  obtain ⟨alone, goesOn⟩ := (Bool.and_eq_true _ _).mp facts
  obtain ⟨after, taken, waits⟩ := (Option.any_eq_true _ _).mp goesOn
  have reached := reaches_of_run (.start (empty_fresh 3)) twoSessions allowed ran
  exact ⟨barrier, after, ran, taken, alone, of_decide_eq_true waits,
    (waiting_participants_counted_iff reached (.proceed 2 .ok) rfl taken).mpr alone⟩

/-- Two objects of one session: both calls register under number 1, and the one that
is cancelled deletes the key of the other. -/
def sharedSession : List Action :=
  [Action.newBarrier 1, .newBarrier 1, .wait 0, .wait 1] ++
    replicate 3 (Action.proceed 0 .ok) ++ replicate 3 (Action.proceed 1 .ok) ++
    replicate 2 (Action.proceed 0 .ok) ++ [Action.cancel 0, .giveUp 0, .proceed 0 .ok]

theorem shared_session_uncounted : sharedSession.all calm = true ∧
    ∃ barrier : Barrier, run barrierStep (emptyBarrier 2) sharedSession = some barrier ∧
      (∃ call ∈ barrier.calls, call.stage = .checking ∧
        countParticipants barrier.store call.generation = 0) ∧ ¬ Counted barrier := by
  have ends : (run barrierStep (emptyBarrier 2) sharedSession).any (fun barrier =>
    decide (∃ call ∈ barrier.calls, call.stage = .checking ∧
      countParticipants barrier.store call.generation = 0 ∧
      call.key ∉ barrier.store.keys)) = true := by
    rfl
  obtain ⟨barrier, ran, found⟩ := (Option.any_eq_true _ _).mp ends
  obtain ⟨call, inside, was, nobody, missing⟩ := of_decide_eq_true found
  refine ⟨rfl, barrier, ran, ⟨call, inside, was, nobody⟩, ?_⟩
  intro counted
  exact missing (counted.stored call inside (by simp [was]))

end Sample

end Dagens.Coordination.BarrierParticipants
