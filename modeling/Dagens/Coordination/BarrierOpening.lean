import Dagens.Coordination.Barrier
import Dagens.Lib.Histories

/-!
# A barrier that opens was full

The release key outlives the participants that were counted for it, and between
the count and the transaction that creates it the barrier may be reset. What a
`Wait` without error shows is therefore about the past: some state of the run had
enough calls registered in the generation it has joined.
-/

namespace Dagens.Coordination.BarrierOpening

open Lib GuardedRun Histories Parties RevisionStore Barrier List

/-- The calls of a generation whose registration is in etcd. -/
def registeredCalls (barrier : Barrier) (generation : Nat) : Nat :=
  barrier.calls.countP fun call => call.registered &&
    decide (call.generation = generation) && decide (call.key ∈ barrier.store.keys)

/-- At some earlier moment as many calls as `count` were registered in the
generation. -/
def WasFull (past : List Barrier) (count : Int) (generation : Nat) : Prop :=
  ∃ earlier ∈ past, count ≤ registeredCalls earlier generation

variable {past : List Barrier}

theorem WasFull.later {count : Int} {generation : Nat}
    (full : WasFull past count generation) (barrier : Barrier) :
    WasFull (barrier :: past) count generation := by
  obtain ⟨earlier, member, enough⟩ := full
  exact ⟨earlier, mem_cons_of_mem _ member, enough⟩

/-- The stages that only an opened or full barrier leads to. -/
def Stage.opens : Stage → Bool
  | .tripping | .cleaning none | .done none => true
  | _ => false

structure Justified (past : List Barrier) (barrier : Barrier) : Prop where
  unregistered : ∀ call ∈ barrier.calls, call.stage.early = true → call.registered = false
  owned : ∀ generation lease number,
    .participant generation lease number ∈ barrier.store.keys → ∃ call ∈ barrier.calls,
      call.registered = true ∧ call.key = .participant generation lease number
  released : ∀ generation, .released generation ∈ barrier.store.keys →
    WasFull past barrier.count generation
  opening : ∀ call ∈ barrier.calls, Stage.opens call.stage = true →
    WasFull past barrier.count call.generation

variable {barrier : Barrier}

theorem justified_fresh (fresh : Fresh barrier) : Justified [] barrier := by
  obtain ⟨clear, _, nobody⟩ := fresh
  constructor <;> simp [clear, nobody]

theorem count_le_registered (justified : Justified past barrier) (generation : Nat) :
    countParticipants barrier.store generation ≤ registeredCalls barrier generation := by
  have keys : countParticipants barrier.store generation =
      (barrier.store.keys.filter (isParticipant generation)).length := by
    rw [← Store.range_keys, length_map]
    rfl
  rw [keys]
  refine length_le_countP (barrier.store.nodup_keys.filter _) Call.key ?_
  intro key member
  obtain ⟨stored, participates⟩ := mem_filter.mp member
  cases key with
  | generation | released => cases participates
  | participant joined lease number =>
    obtain ⟨call, inside, registered, same⟩ := justified.owned joined lease number stored
    have joins : call.generation = joined := by
      simp only [Call.key, BarrierKey.participant.injEq] at same
      exact same.1
    have inGeneration : joined = generation := by simpa [isParticipant] using participates
    subst inGeneration
    refine ⟨call, inside, ?_, same⟩
    simp [registered, joins, same, stored]

attribute [local simp] Stage.opens written Stage.early registerStep tripStep cleanStep Stage.active

section Steps

variable {after : Barrier} {index : Nat} {call next : Call} {store : Store BarrierKey BarrierValue}

theorem owner_kept (found : barrier.calls[index]? = some call) {key : BarrierKey}
    (owner : ∃ one ∈ barrier.calls, one.registered = true ∧ one.key = key)
    (own : call.registered = true → call.key = key →
      next.registered = true ∧ next.key = key) :
    ∃ one ∈ barrier.calls.set index next, one.registered = true ∧ one.key = key := by
  obtain ⟨one, member, registered, same⟩ := owner
  obtain ⟨other, foundOther⟩ := mem_iff_getElem?.mp member
  by_cases apart : other = index
  · subst apart
    rw [found] at foundOther
    cases foundOther
    exact ⟨next, mem_set_self found next, own registered same⟩
  · exact ⟨one, mem_set_other apart foundOther next, registered, same⟩

section

variable (justified : Justified past barrier)

include justified

theorem justified_set (objects : List BarrierObject)
    (early : next.stage.early = true → next.registered = false)
    (keys : ∀ generation lease number, .participant generation lease number ∈ store.keys → ∃ one ∈
      barrier.calls.set index next, one.registered = true ∧ one.key = .participant generation lease
      number)
    (released : ∀ generation, .released generation ∈ store.keys → .released generation ∈
      barrier.store.keys ∨ WasFull (barrier :: past) barrier.count generation)
    (opening : Stage.opens next.stage = true → WasFull (barrier :: past) barrier.count
      next.generation) :
    Justified (barrier :: past)
      { setCall barrier index (store, next) with objects := objects } where
  unregistered := by
    intro one inside
    rcases mem_set_old inside with rfl | old
    · exact early
    · exact justified.unregistered one old
  owned := keys
  released := by
    intro generation inside
    rcases released generation inside with old | full
    · exact (justified.released generation old).later barrier
    · exact full
  opening := by
    intro one inside opens
    rcases mem_set_old inside with rfl | old
    · exact opening opens
    · exact (justified.opening one old opens).later barrier

theorem justified_moves (found : barrier.calls[index]? = some call)
    (move : CallMove barrier call store next) (objects : List BarrierObject) :
    Justified (barrier :: past)
      { setCall barrier index (store, next) with objects := objects } := by
  have member := mem_of_getElem? found
  cases move with
  | prepares was keys flag stage =>
    have off : call.registered = false := justified.unregistered call member was
    refine justified_set justified objects (fun _ => flag.trans off) ?_ ?_ ?_
    · intro generation lease number inside
      have old := ((keys _).mp inside).resolve_right (by simp)
      exact owner_kept found (justified.owned _ _ _ old) (by simp [off])
    · exact fun generation inside => .inl (((keys _).mp inside).resolve_right (by simp))
    · intro opens
      exfalso
      obtain ⟨inactive, unopened⟩ := stage
      cases isStage : next.stage with
      | tripping | cleaning => simp [isStage] at inactive
      | done result =>
        cases result with
        | none => exact unopened isStage
        | some => simp [isStage] at opens
      | _ => simp [isStage] at opens
  | registers was answer =>
    have off : call.registered = false :=
      justified.unregistered call member (by simp [was])
    have keys : ∀ key, key ∈ (registerStep barrier call answer).1.keys →
        key ∈ barrier.store.keys ∨ key = call.key ∧ answer.applies = true := by
      intro key inside
      cases answer with
      | ok => simpa [Answer.applies, or_comm] using inside
      | fault applied => cases applied <;>
          simpa [Answer.applies, or_comm] using inside
    refine justified_set justified objects ?_ ?_ ?_ ?_
    · cases answer <;> simp
    · intro generation lease number inside
      rcases keys _ inside with old | ⟨own, applied⟩
      · exact owner_kept found (justified.owned _ _ _ old) (by simp [off])
      · exact ⟨_, mem_set_self found _, applied, own.symm⟩
    · intro generation inside
      exact .inl ((keys _ inside).resolve_right (by simp [Call.key]))
    · cases answer <;> simp
  | looks was still opened enough =>
    rename_i stage
    refine justified_set justified objects ?_ ?_ (fun _ inside => .inl inside) ?_
    · intro early
      cases stage <;> simp at early still
    · exact fun generation lease number inside =>
      owner_kept found (justified.owned _ _ _ inside) (fun registered same =>
        ⟨registered, same⟩)
    · intro opens
      cases stage with
      | tripping =>
        have counted := count_le_registered justified call.generation
        exact ⟨barrier, mem_cons_self, (enough rfl).trans (by exact_mod_cast counted)⟩
      | cleaning result =>
        cases result with
        | none => exact (justified.released _ (opened rfl)).later barrier
        | some => cases opens
      | done => cases still
      | _ => cases opens
  | trips was answer =>
    have keys : ∀ key, key ∈ (tripStep barrier call answer).1.keys →
        key ∈ barrier.store.keys ∨ key = .released call.generation := by
      intro key inside
      cases answer with
      | ok => simpa [or_comm] using inside
      | fault applied =>
        cases applied with
        | true => simpa [or_comm] using inside
        | false => exact .inl (by simpa using inside)
    refine justified_set justified objects ?_ ?_ ?_ ?_
    · cases answer <;> simp
    · intro generation lease number inside
      have old := (keys _ inside).resolve_right (by simp)
      exact owner_kept found (justified.owned _ _ _ old) (fun registered same =>
        ⟨registered, same⟩)
    · intro generation inside
      rcases keys _ inside with old | same
      · exact .inl old
      · cases same
        exact .inr ((justified.opening call member (by simp [was])).later barrier)
    · cases answer <;> simp
  | cleans result was answer =>
    have keys : ∀ key, key ∈ (cleanStep barrier call result answer).1.keys →
        key ∈ barrier.store.keys ∧ (answer.applies = true → key ≠ call.key) := by
      intro key inside
      cases answer with
      | ok => simpa [Answer.applies] using inside
      | fault applied => cases applied <;>
          simpa [Answer.applies] using inside
    refine justified_set justified objects (by simp) ?_ ?_ ?_
    · intro generation lease number inside
      obtain ⟨old, others⟩ := keys _ inside
      refine owner_kept found (justified.owned _ _ _ old) fun registered same => ?_
      have kept : answer.applies = false := by
        by_contra applied
        exact others (by simpa using applied) same.symm
      exact ⟨by simp [registered, kept], same⟩
    · exact fun generation inside => .inl (keys _ inside).1
    · intro opens
      cases result with
      | none => exact (justified.opening call member (by simp [was])).later barrier
      | some => cases opens

theorem justified_thinned (expired : List Nat)
    (fewer : ∀ key ∈ store.keys, key ∈ barrier.store.keys) :
    Justified (barrier :: past) { barrier with store := store, expired := expired } where
  unregistered := justified.unregistered
  owned := fun _ _ _ inside => justified.owned _ _ _ (fewer _ inside)
  released := fun _ inside => (justified.released _ (fewer _ inside)).later barrier
  opening := fun one inside opens => (justified.opening one inside opens).later barrier

end

theorem justified_step {action : Action} (justified : Justified past barrier)
    (move : BarrierMove barrier action after) : Justified (barrier :: past) after := by
  cases move with
  | adds =>
    exact ⟨justified.unregistered, justified.owned,
      fun _ inside => (justified.released _ inside).later barrier,
      fun one inside opens => (justified.opening one inside opens).later barrier⟩
  | begins =>
    refine ⟨?_, ?_, fun _ inside => (justified.released _ inside).later barrier, ?_⟩
    · intro one inside early
      rcases mem_append.mp inside with old | new
      · exact justified.unregistered one old early
      · rw [mem_singleton.mp new]
    · intro generation number of inside
      obtain ⟨one, old, owns⟩ := justified.owned _ _ _ inside
      exact ⟨one, mem_append_left _ old, owns⟩
    · intro one inside opens
      rcases mem_append.mp inside with old | new
      · exact (justified.opening one old opens).later barrier
      · rw [mem_singleton.mp new] at opens
        cases opens
  | cancels found =>
    rename_i index call
    have member : call ∈ barrier.calls := mem_of_getElem? found
    refine justified_set justified barrier.objects (justified.unregistered call member) ?_
      (fun _ inside => .inl inside) ?_
    · exact fun generation lease number inside =>
      owner_kept found (justified.owned _ _ _ inside) (fun registered same =>
        ⟨registered, same⟩)
    · exact fun opens => (justified.opening call member opens).later barrier
  | moves found move _ objects => exact justified_moves justified found move objects
  | resets answer =>
    refine justified_thinned justified barrier.expired ?_
    intro key inside
    cases answer with
    | ok => simp at inside
    | fault applied =>
      cases applied with
      | true => simp at inside
      | false => exact inside
  | expires lease =>
    refine justified_thinned justified (lease :: barrier.expired) ?_
    intro key inside
    rw [Store.keys_delete] at inside
    exact mem_of_mem_filter inside

end Steps

/-- Whenever a `Wait` has returned without error, the barrier had at some moment
`count` calls registered in the generation that it joined, whatever answers etcd
has given, and whichever leases have expired and resets have run meanwhile. -/
theorem opened_barrier_was_full {history : History Barrier}
    (reached : Reaches (recordStep barrierStep) (fun _ _ => True) (Begins Fresh) history)
    (call : Call) (inside : call ∈ history.now.calls) (returned : call.stage = .done none) :
    ∃ earlier ∈ history.past,
      history.now.count ≤ registeredCalls earlier call.generation := by
  have justified : Justified history.past history.now :=
    history_invariant (fun _ fresh => justified_fresh fresh)
      (fun _ _ _ _ justified _ taken => justified_step justified (barrier_moves taken)) reached
  exact justified.opening call inside (by simp [returned])

section Sample

/-- Two sessions; the first call finds one participant and waits, the second finds two
and opens the barrier. -/
def meeting : List Action :=
  [Action.newBarrier 1, .newBarrier 2, .wait 0, .wait 1] ++
    replicate 5 (Action.proceed 0 .ok) ++ replicate 6 (Action.proceed 1 .ok) ++
    replicate 3 (Action.proceed 0 .ok)

/-- The first call returns without error, and two were registered at some moment. -/
theorem two_calls_meet : ∃ history : History Barrier,
    Reaches (recordStep barrierStep) (fun _ _ => True) (Begins Fresh) history ∧
      ∃ call ∈ history.now.calls, call.stage = .done none ∧
        ∃ earlier ∈ history.past,
          history.now.count ≤ registeredCalls earlier call.generation := by
  have returns : (run (recordStep barrierStep) ⟨[], emptyBarrier 2⟩ meeting).any
      (fun history => decide (∃ call ∈ history.now.calls, call.stage = .done none)) = true := by
    rfl
  obtain ⟨history, ran, found⟩ := (Option.any_eq_true _ _).mp returns
  obtain ⟨call, inside, returned⟩ := of_decide_eq_true found
  have reached : Reaches (recordStep barrierStep) (fun _ _ => True) (Begins Fresh) history :=
    reaches_of_run (.start ⟨rfl, empty_fresh 2⟩) meeting (allowed_of_always (by simp) _ _) ran
  exact ⟨history, reached, call, inside, returned,
    opened_barrier_was_full reached call inside returned⟩

end Sample

end Dagens.Coordination.BarrierOpening
