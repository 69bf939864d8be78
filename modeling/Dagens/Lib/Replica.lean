import Mathlib

/-!
# A replica fed by changes

A source and a replica are maps from keys to values. The source's changes are put in
a queue and applied to the replica in order. The two are in step when applying what
is queued makes the replica equal to the source.
-/

namespace Dagens.Lib.Replica

open List

/-- A key gets a value, or loses the one it has. -/
structure Change (Key Value : Type) where
  key : Key
  value : Option Value
  deriving DecidableEq, Repr

variable {Key Value : Type} [DecidableEq Key]

def Change.apply (change : Change Key Value) (content : Key → Option Value) :
    Key → Option Value :=
  Function.update content change.key change.value

def replay (changes : List (Change Key Value)) (content : Key → Option Value) :
    Key → Option Value :=
  changes.foldl (fun content change => change.apply content) content

/-- The replica lacks only what is queued. -/
def InStep (source replica : Key → Option Value) (queue : List (Change Key Value)) : Prop :=
  replay queue replica = source

variable {source replica : Key → Option Value} {queue : List (Change Key Value)}

theorem in_step_settled : InStep source replica [] ↔ replica = source := Iff.rfl

theorem in_step_change (inStep : InStep source replica queue) (change : Change Key Value) :
    InStep (change.apply source) replica (queue ++ [change]) := by
  unfold InStep at inStep ⊢
  rw [replay, foldl_append, foldl_cons, foldl_nil, ← replay, inStep]

theorem in_step_deliver {change : Change Key Value}
    (inStep : InStep source replica (change :: queue)) :
    InStep source (change.apply replica) queue :=
  inStep

end Dagens.Lib.Replica
