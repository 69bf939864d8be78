import Mathlib

/-!
# Watching a state

An observer applies the events of a `MemoryState` to the data of a snapshot.
`SetMetadata` publishes its key as if it were one of the data, and the event of
`Restore` carries nothing.
-/

namespace Dagens.Graph.WatchedState

inductive Event (Value : Type) where
  | set (key : String) (value : Value)
  | delete (key : String)
  | restore

abbrev Values (Value : Type) := AList fun _ : String => Value

structure MemoryState (Value : Type) where
  data : Values Value
  metadata : Values Value

inductive Operation (Value : Type) where
  | set (key : String) (value : Value)
  | delete (key : String)
  | deletePrefix (front : String)
  | setMetadata (key : String) (value : Value)
  | restore (snapshot : Option (MemoryState Value))

variable {Value : Type}

/-- What an observer does with an event. -/
def receive (mirror : Values Value) : Event Value → Values Value
  | .set key value => mirror.insert key value
  | .delete key => mirror.erase key
  | .restore => mirror

/-- The state after an operation, and the events it publishes. -/
def operate (state : MemoryState Value) : Operation Value → MemoryState Value × List (Event Value)
  | .set key value => ({ state with data := state.data.insert key value }, [.set key value])
  | .delete key =>
    if key ∈ state.data then ({ state with data := state.data.erase key }, [.delete key])
    else (state, [])
  | .deletePrefix front =>
    let keysToDelete := state.data.keys.filter fun key => front.toList.isPrefixOf key.toList
    ({ state with data := keysToDelete.foldl (fun data key => data.erase key) state.data },
      keysToDelete.map .delete)
  | .setMetadata key value =>
    ({ state with metadata := state.metadata.insert key value }, [.set key value])
  | .restore none => (state, [])
  | .restore (some snapshot) => (snapshot, [.restore])

def Alike (one two : Values Value) : Prop := ∀ key, one.lookup key = two.lookup key

/-- The mirror is right now and after each operation. -/
def Mirrors (mirror : Values Value) (state : MemoryState Value) :
    List (Operation Value) → Prop
  | [] => Alike mirror state.data
  | operation :: rest => Alike mirror state.data ∧
    Mirrors ((operate state operation).2.foldl receive mirror) (operate state operation).1 rest

/-- The data have the metadata that are set, and are what they are restored to. -/
def Harmless (state : MemoryState Value) : Operation Value → Prop
  | .setMetadata key value => state.data.lookup key = some value
  | .restore (some snapshot) => Alike state.data snapshot.data
  | _ => True

def AllHarmless (state : MemoryState Value) : List (Operation Value) → Prop
  | [] => True
  | operation :: rest => Harmless state operation ∧ AllHarmless (operate state operation).1 rest

variable {mirror data : Values Value}

attribute [local simp] operate receive

theorem received_alike (events : List (Event Value)) (alike : Alike mirror data) :
    Alike (events.foldl receive mirror) (events.foldl receive data) := by
  induction events generalizing mirror data with
  | nil => exact alike
  | cons event rest ih =>
    refine ih fun key => ?_
    cases event with
    | set other | delete other =>
      rcases eq_or_ne key other with rfl | different
      · simp
      · simp [different, alike key]
    | restore => exact alike key

theorem operation_mirrored_iff (state : MemoryState Value) (operation : Operation Value)
    (alike : Alike mirror state.data) :
    Alike ((operate state operation).2.foldl receive mirror) (operate state operation).1.data ↔
      Harmless state operation := by
  cases operation with
  | set key value => exact iff_of_true (received_alike [.set key value] alike) trivial
  | delete key =>
    refine iff_of_true ?_ trivial
    simp only [operate]
    split_ifs
    · exact received_alike [.delete key] alike
    · exact alike
  | deletePrefix front =>
    refine iff_of_true ?_ trivial
    have received := received_alike (operate state (.deletePrefix front)).2 alike
    simpa [List.foldl_map] using received
  | setMetadata key value =>
    change _ ↔ state.data.lookup key = some value
    constructor
    · intro after
      simpa using (after key).symm
    · intro held other
      rcases eq_or_ne other key with rfl | different
      · simp [held]
      · simp [different, alike other]
  | restore snapshot =>
    cases snapshot with
    | none => exact iff_of_true alike trivial
    | some snapshot => exact forall_congr' fun key => by rw [← alike key]; rfl

/-- From a snapshot on, the mirror is right after each operation exactly when every
operation is harmless in its state. -/
theorem watching_mirrors_iff (start : MemoryState Value) (operations : List (Operation Value)) :
    Mirrors start.data start operations ↔ AllHarmless start operations := by
  suffices general : ∀ mirror, Alike mirror start.data →
      (Mirrors mirror start operations ↔ AllHarmless start operations) from general _ fun _ => rfl
  induction operations generalizing start with
  | nil => exact fun mirror alike => iff_of_true alike trivial
  | cons operation rest ih =>
    intro mirror alike
    have step := operation_mirrored_iff start operation alike
    constructor
    · rintro ⟨-, later⟩
      have now : Harmless start operation := step.mp (by cases rest <;> simp_all [Mirrors])
      exact ⟨now, (ih _ _ (step.mpr now)).mp later⟩
    · rintro ⟨now, later⟩
      exact ⟨alike, (ih _ _ (step.mpr now)).mpr later⟩

theorem metadata_mirrored_as_data :
    ¬ Mirrors ∅ (⟨∅, ∅⟩ : MemoryState Nat) [.setMetadata "owner" 1] := by
  rintro ⟨-, after⟩
  cases after "owner"

end Dagens.Graph.WatchedState
