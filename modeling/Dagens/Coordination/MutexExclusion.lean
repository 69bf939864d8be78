import Dagens.Coordination.Mutex

/-!
# Mutual exclusion

Objects of different sessions are kept apart by the age of their keys and callers of
one object by its slot. Nothing keeps two objects of one session apart: etcd takes
the second for the first, and grants it the lock that the first holds.
-/

namespace Dagens.Coordination.MutexExclusion

open Lib GuardedRun Parties Mutex List Option

/-- A caller through another object of the same session that has asked etcd for the
lock and not given it back yet. -/
def engagedElsewhere (caller other : Caller) : Bool :=
  other.stage.engaged && decide (other.object ≠ caller.object) &&
    decide (other.lease = caller.lease)

/-- Etcd answers a request for the lock only while no caller through another object of
the same session waits for it, holds it or gives it back. -/
def sessionFree (mutex : Mutex) : Action → Bool
  | .proceed index .ok => mutex.callers[index]?.all fun caller =>
    decide (caller.stage ≠ .acquiring) ||
      mutex.callers.all fun other => !engagedElsewhere caller other
  | _ => true

def SameSlot (one two : Caller) : Prop :=
  one.stage.owning = true ∧ two.stage.owning = true ∧ one.object = two.object

def SameSession (one two : Caller) : Prop :=
  one.stage.engaged = true ∧ two.stage.engaged = true ∧ one.lease = two.lease

theorem same_slot_symm (one two : Caller) (same : SameSlot one two) : SameSlot two one :=
  ⟨same.2.1, same.1, same.2.2.symm⟩

theorem same_session_symm (one two : Caller) (same : SameSession one two) : SameSession two one :=
  ⟨same.2.1, same.1, same.2.2.symm⟩

/-- What a run keeps in which the sessions are used by one object at a time. -/
structure Exclusive (mutex : Mutex) : Prop where
  slot : Apart SameSlot mutex.callers
  locked : ∀ caller ∈ mutex.callers, caller.stage.owning = true →
    ∃ object, mutex.objects[caller.object]? = some object ∧ object.locked = true
  session : Apart SameSession mutex.callers
  oldest : ∀ caller ∈ mutex.callers, caller.stage.holds = true →
    mutex.store.oldest = some caller.lease

variable {mutex : Mutex}

theorem exclusive_fresh (fresh : Fresh mutex) : Exclusive mutex := by
  obtain ⟨_, nobody⟩ := fresh
  constructor <;> simp [nobody, Apart]

theorem exclusive_one_holder (exclusive : Exclusive mutex) :
    mutex.callers.countP (·.stage.holds) ≤ 1 := by
  apply countP_le_one
  intro first second one two foundOne foundTwo ⟨holdsOne, holdsTwo⟩
  have oldestOne := exclusive.oldest one (mem_of_getElem? foundOne) holdsOne
  have oldestTwo := exclusive.oldest two (mem_of_getElem? foundTwo) holdsTwo
  have sameLease : one.lease = two.lease := Option.some.inj (oldestOne.symm.trans oldestTwo)
  exact exclusive.session first second one two foundOne foundTwo
    ⟨Stage.holds_engaged holdsOne, Stage.holds_engaged holdsTwo, sameLease⟩

section Steps

variable {mutex after : Mutex} {index : Nat} {caller next : Caller} {object left : MutexObject}
  {answer : Answer}

theorem exclusive_turns (exclusive : Exclusive mutex) (found : mutex.callers[index]? = some caller)
    (same : next.object = caller.object ∧ next.lease = caller.lease)
    (stage : next.stage.owning = true → next.stage = caller.stage) :
    Exclusive (setCaller mutex index next) := by
  have member := mem_of_getElem? found
  -- whatever a later caller claims, an earlier one at its place has claimed already
  have before : ∀ (place : Nat) (one : Caller),
      (setCaller mutex index next).callers[place]? = some one → one.stage.owning = true →
      ∃ old, mutex.callers[place]? = some old ∧ old.object = one.object ∧
        old.lease = one.lease ∧ old.stage = one.stage := by
    intro place one foundOne owning
    rcases found_set_cases foundOne with ⟨rfl, rfl⟩ | ⟨_, old⟩
    · exact ⟨caller, found, same.1.symm, same.2.symm, (stage owning).symm⟩
    · exact ⟨one, old, rfl, rfl, rfl⟩
  constructor
  · intro first second one two foundOne foundTwo ⟨owningOne, owningTwo, sameObject⟩
    obtain ⟨a, foundA, objectA, _, stageA⟩ := before first one foundOne owningOne
    obtain ⟨b, foundB, objectB, _, stageB⟩ := before second two foundTwo owningTwo
    exact exclusive.slot first second a b foundA foundB
      ⟨stageA ▸ owningOne, stageB ▸ owningTwo, by rw [objectA, objectB, sameObject]⟩
  · intro one inside owning
    obtain ⟨place, foundOne⟩ := mem_iff_getElem?.mp inside
    obtain ⟨a, foundA, objectA, _, stageA⟩ := before place one foundOne owning
    rw [← objectA]
    exact exclusive.locked a (mem_of_getElem? foundA) (stageA ▸ owning)
  · intro first second one two foundOne foundTwo ⟨engagedOne, engagedTwo, sameLease⟩
    obtain ⟨a, foundA, _, leaseA, stageA⟩ :=
      before first one foundOne (Stage.engaged_owning engagedOne)
    obtain ⟨b, foundB, _, leaseB, stageB⟩ :=
      before second two foundTwo (Stage.engaged_owning engagedTwo)
    exact exclusive.session first second a b foundA foundB
      ⟨stageA ▸ engagedOne, stageB ▸ engagedTwo, by rw [leaseA, leaseB, sameLease]⟩
  · intro one inside holds
    obtain ⟨place, foundOne⟩ := mem_iff_getElem?.mp inside
    obtain ⟨a, foundA, _, leaseA, stageA⟩ :=
      before place one foundOne (Stage.engaged_owning (Stage.holds_engaged holds))
    rw [← leaseA]
    exact exclusive.oldest a (mem_of_getElem? foundA) (stageA ▸ holds)

variable {place : Nat} {other : Caller}

section

variable (exclusive : Exclusive mutex) (found : mutex.callers[index]? = some caller)

include exclusive found

section

variable (of : mutex.objects[caller.object]? = some object)
  (move : CallerMove mutex index caller object answer after next left)

include of move

theorem slot_moves (apart : place ≠ index) (foundOther : mutex.callers[place]? = some other) :
    ¬ SameSlot other next := by
  intro ⟨owningOther, owningNext, sameObject⟩
  rw [move.same.1] at sameObject
  rcases move.takes owningNext with owning | ⟨free, _⟩
  · exact apart (exclusive.slot place index other caller foundOther found
      ⟨owningOther, owning, sameObject⟩)
  · obtain ⟨_, known, locked⟩ :=
      exclusive.locked other (mem_of_getElem? foundOther) owningOther
    rw [sameObject, of] at known
    cases known
    rw [free] at locked
    cases locked

theorem locked_moves :
    ∀ one ∈ after.callers, one.stage.owning = true →
      ∃ its, after.objects[one.object]? = some its ∧ its.locked = true := by
  intro one inside owning
  rw [move.callers] at inside
  rw [move.objects]
  rcases mem_set_cases inside with rfl | ⟨place, apart, old⟩
  · rw [if_pos move.same.1]
    refine ⟨left, rfl, ?_⟩
    rcases move.takes owning with was | ⟨_, taken⟩
    · obtain ⟨its, known, locked⟩ := exclusive.locked caller (mem_of_getElem? found) was
      rw [of] at known
      cases known
      rcases move.frees locked with kept | off
      · exact kept
      · rw [owning] at off
        cases off
    · exact taken
  · obtain ⟨its, known, locked⟩ := exclusive.locked one (mem_of_getElem? old) owning
    split_ifs with own
    · rw [own, of] at known
      cases known
      refine ⟨left, rfl, ?_⟩
      rcases move.freesOwn locked with kept | was
      · exact kept
      · exact absurd (exclusive.slot place index one caller old found ⟨owning, was, own⟩) apart
    · exact ⟨its, known, locked⟩

end

section

variable (move : CallerMove mutex index caller object answer after next left)

include move

theorem session_moves (free : sessionFree mutex (.proceed index answer) = true)
    (apart : place ≠ index) (foundOther : mutex.callers[place]? = some other) :
    ¬ SameSession other next := by
  intro ⟨engagedOther, engagedNext, sameLease⟩
  rw [move.same.2] at sameLease
  rcases move.engages engagedNext with engaged | ⟨was, rfl⟩
  · exact apart (exclusive.session place index other caller foundOther found
      ⟨engagedOther, engaged, sameLease⟩)
  · by_cases sameObject : other.object = caller.object
    · exact apart (exclusive.slot place index other caller foundOther found
        ⟨Stage.engaged_owning engagedOther, by simp [was, Stage.owning], sameObject⟩)
    · simp only [sessionFree, found, all_some, was, ne_eq, not_true_eq_false, decide_false,
        Bool.false_or, List.all_eq_true, Bool.not_eq_true'] at free
      have alone := free other (mem_of_getElem? foundOther)
      simp [engagedElsewhere, engagedOther, sameObject, sameLease] at alone

theorem oldest_moves :
    ∀ one ∈ after.callers, one.stage.holds = true → after.store.oldest = some one.lease := by
  intro one inside holds
  rw [move.callers] at inside
  rcases mem_set_cases inside with rfl | ⟨place, apart, old⟩
  · rw [move.same.2]
    rcases move.grants holds with first | ⟨held, same⟩
    · exact first
    · rw [same]
      exact exclusive.oldest caller (mem_of_getElem? found) held
  · rcases move.first one.lease (exclusive.oldest one (mem_of_getElem? old) holds)
      with kept | ⟨sameLease, engaged⟩
    · exact kept
    · exact absurd (exclusive.session place index one caller old found
        ⟨Stage.holds_engaged holds, engaged, sameLease⟩) apart

end

end

theorem exclusive_step {action : Action} (exclusive : Exclusive mutex)
    (free : sessionFree mutex action = true) (move : MutexMove mutex action after) :
    Exclusive after := by
  cases move with
  | adds =>
    refine ⟨exclusive.slot, ?_, exclusive.session, exclusive.oldest⟩
    intro one inside owning
    obtain ⟨its, known, locked⟩ := exclusive.locked one inside owning
    have bound := (List.getElem?_eq_some_iff.mp known).1
    exact ⟨its, (getElem?_append_left bound).trans known, locked⟩
  | begins was =>
    rename_i newcomer
    refine ⟨?_, ?_, ?_, ?_⟩
    · refine apart_append same_slot_symm exclusive.slot ?_
      intro other shared
      have owning := shared.2.1
      simp [was, Stage.owning] at owning
    · intro one inside owning
      rcases List.mem_append.mp inside with old | new
      · exact exclusive.locked one old owning
      · rw [mem_singleton.mp new, was] at owning
        cases owning
    · refine apart_append same_session_symm exclusive.session ?_
      intro other shared
      have engaged := shared.2.1
      simp [was, Stage.engaged] at engaged
    · intro one inside holds
      rcases List.mem_append.mp inside with old | new
      · exact exclusive.oldest one old holds
      · rw [mem_singleton.mp new, was] at holds
        cases holds
  | turns found same stage => exact exclusive_turns exclusive found same stage
  | moves found of move =>
    refine ⟨?_, locked_moves exclusive found of move, ?_, oldest_moves exclusive found move⟩
    · rw [move.callers]
      exact apart_set same_slot_symm exclusive.slot fun place other apart foundOther =>
        slot_moves exclusive found of move apart foundOther
    · rw [move.callers]
      exact apart_set same_session_symm exclusive.session fun place other apart foundOther =>
        session_moves exclusive found move free apart foundOther

end Steps

/-- In every run in which a session is used through one object at a time, at most one
caller is between its acquisition and its `Unlock`, whichever calls to etcd fail and
whichever contexts end meanwhile. -/
theorem at_most_one_holder {mutex : Mutex}
    (reached : Reaches mutexStep (fun state action => sessionFree state action = true)
      Fresh mutex) :
    mutex.callers.countP (·.stage.holds) ≤ 1 := by
  have exclusive : Exclusive mutex := by
    refine reaches_invariant ?_ ?_ reached
    · exact fun _ fresh => exclusive_fresh fresh
    · exact fun before next action held free taken =>
      exclusive_step held free (mutex_moves taken)
  exact exclusive_one_holder exclusive

section Sample

def noMutex : Mutex := ⟨.empty, [], []⟩

theorem no_mutex_fresh : Fresh noMutex := ⟨rfl, rfl⟩

/-- Two objects of two sessions: the second caller waits until the first has unlocked. -/
def twoSessions : List Action :=
  [Action.newMutex 1, .newMutex 2, .call 0 .lock, .call 1 .lock] ++
    replicate 2 (Action.proceed 0 .ok) ++ replicate 2 (Action.proceed 1 .ok) ++
    replicate 3 (Action.proceed 0 .ok) ++ [Action.proceed 1 .ok]

theorem two_sessions_in_turn : ∃ mutex : Mutex,
    run mutexStep noMutex twoSessions = some mutex ∧
      mutex.callers.map (·.stage) = [.done .unlocked, .holding] ∧
      mutex.callers.countP (·.stage.holds) ≤ 1 := by
  have ends : (run mutexStep noMutex twoSessions).any (fun mutex =>
    decide (mutex.callers.map (·.stage) = [.done .unlocked, .holding])) = true := by
    rfl
  have allowed : Allowed mutexStep (fun state action => sessionFree state action = true)
      noMutex twoSessions := by
    exact of_decide_eq_true rfl
  obtain ⟨mutex, ran, facts⟩ := (any_eq_true _ _).mp ends
  exact ⟨mutex, ran, of_decide_eq_true facts,
    at_most_one_holder (reaches_of_run (.start no_mutex_fresh) twoSessions allowed ran)⟩

def oneSession : List Action :=
  [Action.newMutex 1, .newMutex 1, .call 0 .lock, .call 1 .tryLock] ++
    replicate 2 (Action.proceed 0 .ok) ++ replicate 2 (Action.proceed 1 .ok)

theorem one_session_two_holders : ∃ mutex : Mutex,
    Fresh noMutex ∧ run mutexStep noMutex oneSession = some mutex ∧
      mutex.callers.map (·.stage) = [.holding, .holding] ∧
      ¬ mutex.callers.countP (·.stage.holds) ≤ 1 := by
  have ends : (run mutexStep noMutex oneSession).any (fun mutex =>
    decide (mutex.callers.map (·.stage) = [.holding, .holding] ∧
      ¬ mutex.callers.countP (·.stage.holds) ≤ 1)) = true := by
    rfl
  obtain ⟨mutex, ran, facts⟩ := (any_eq_true _ _).mp ends
  exact ⟨mutex, no_mutex_fresh, ran, of_decide_eq_true facts⟩

end Sample

end Dagens.Coordination.MutexExclusion
