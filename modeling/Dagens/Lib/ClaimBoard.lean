import Mathlib

/-!
# Places that claim keys of a shared table

Every place has a key and has to claim it in a table of rows before it may work;
`free` says when the row lets a claim pass, `closed` what a place that has
finished leaves in the row. A refused claim is final. Places may share a key.

Two facts decide whether all places can finish. With distinct keys whose rows
are free at the start no place is ever refused, in any interleaving. And if the
places take turns, they can only all have finished if the keys were distinct and
free at the start.
-/

namespace Dagens.Lib.ClaimBoard

inductive Stand where
  | idle
  | trying
  | holding
  | settled
  | failed
  deriving DecidableEq, Repr

def Stand.claimed : Stand → Bool
  | .holding | .settled => true
  | _ => false

def Stand.active : Stand → Bool
  | .trying | .holding => true
  | _ => false

structure Board (Place Key Row : Type) where
  stand : Place → Stand
  rows : Key → Option Row

variable {Place Key Row : Type} (key : Place → Key) (free : Key → Option Row → Prop)
  (closed : Option Row → Prop)

/-- One place changes its stand and at most the row of its own key. -/
structure Moves (before after : Board Place Key Row) (place : Place) (old new : Stand) : Prop where
  old : before.stand place = old
  new : after.stand place = new
  others : ∀ other, other ≠ place → after.stand other = before.stand other
  rows : ∀ other, other ≠ key place → after.rows other = before.rows other

/-- A step of the board. If it is `serial`, a place begins only while no other
one is at work. -/
inductive BoardStep (serial : Prop) (before after : Board Place Key Row) : Prop where
  | rests (stands : ∀ place, after.stand place = before.stand place)
      (rows : ∀ key, after.rows key = before.rows key)
  | begins (place : Place) (moves : Moves key before after place .idle .trying)
      (row : after.rows (key place) = before.rows (key place))
      (alone : serial → ∀ other, (before.stand other).active = false)
  | claims (place : Place) (moves : Moves key before after place .trying .holding)
      (passes : free (key place) (before.rows (key place)))
  | spends (place : Place) (moves : Moves key before after place .trying .failed)
      (row : after.rows (key place) = before.rows (key place))
      (refused : ¬ free (key place) (before.rows (key place)))
  | holds (place : Place) (moves : Moves key before after place .holding .holding)
  | settles (place : Place) (moves : Moves key before after place .holding .settled)
      (leaves : closed (after.rows (key place)))

variable {key free closed}

section Moves

variable {before after : Board Place Key Row} {place : Place} {old new : Stand}

theorem Moves.stand_cases (moves : Moves key before after place old new) (other : Place) :
    other = place ∧ after.stand other = new ∨
      other ≠ place ∧ after.stand other = before.stand other := by
  by_cases same : other = place
  · exact .inl ⟨same, same ▸ moves.new⟩
  · exact .inr ⟨same, moves.others other same⟩

theorem Moves.rests {serial : Prop} (moves : Moves key before after place old old)
    (row : after.rows (key place) = before.rows (key place)) :
    BoardStep key free closed serial before after := by
  refine .rests (fun other => ?_) fun target => ?_
  · rcases moves.stand_cases other with ⟨rfl, same⟩ | ⟨_, same⟩
    · rw [same, moves.old]
    · exact same
  · by_cases own : target = key place
    · rw [own, row]
    · exact moves.rows target own

end Moves

/-- No place is refused, and the rows of unclaimed keys are those of the start. -/
structure Smooth (key : Place → Key) (start : Key → Option Row) (board : Board Place Key Row) :
    Prop where
  unfailed : ∀ place, board.stand place ≠ .failed
  rows : ∀ place, (board.stand place).claimed = false →
    board.rows (key place) = start (key place)

section Smooth

variable {start : Key → Option Row} {before after : Board Place Key Row}

theorem smooth_idle (idle : ∀ place, before.stand place = .idle)
    (rows : ∀ target, before.rows target = start target) : Smooth key start before := by
  refine ⟨fun place => ?_, fun place _ => rows (key place)⟩
  rw [idle]
  decide

theorem smooth_moves (distinct : Function.Injective key) (smooth : Smooth key start before)
    {place : Place} {old new : Stand} (moves : Moves key before after place old new)
    (unfailed : new ≠ .failed)
    (row : new.claimed = false → after.rows (key place) = start (key place)) :
    Smooth key start after := by
  refine ⟨?_, ?_⟩
  · intro other
    rcases moves.stand_cases other with ⟨_, isNew⟩ | ⟨_, same⟩
    · rw [isNew]
      exact unfailed
    · rw [same]
      exact smooth.unfailed other
  · intro other unclaimed
    rcases moves.stand_cases other with ⟨rfl, isNew⟩ | ⟨different, same⟩
    · exact row (isNew ▸ unclaimed)
    · rw [moves.rows _ fun shared => different (distinct shared)]
      exact smooth.rows other (same ▸ unclaimed)

theorem smooth_step {serial : Prop} (distinct : Function.Injective key)
    (opened : ∀ place, free (key place) (start (key place))) (smooth : Smooth key start before)
    (step : BoardStep key free closed serial before after) : Smooth key start after := by
  cases step with
  | rests stands rows =>
    refine ⟨fun place => ?_, fun place unclaimed => ?_⟩
    · rw [stands]
      exact smooth.unfailed place
    · rw [rows]
      exact smooth.rows place (stands place ▸ unclaimed)
  | begins place moves row =>
    refine smooth_moves distinct smooth moves (by decide) fun _ => ?_
    rw [row]
    exact smooth.rows place (by rw [moves.old]; rfl)
  | claims _ moves | holds _ moves | settles _ moves =>
    exact smooth_moves distinct smooth moves (by decide) (by rintro ⟨⟩)
  | spends place moves _ refused =>
    have same := smooth.rows place (by rw [moves.old]; rfl)
    rw [same] at refused
    exact absurd (opened place) refused
end Smooth

structure Serial (key : Place → Key) (free : Key → Option Row → Prop)
    (closed : Option Row → Prop) (start : Key → Option Row) (board : Board Place Key Row) :
    Prop where
  untouched : ∀ target, (∀ place, key place = target → (board.stand place).claimed = false) →
    board.rows target = start target
  passed : ∀ place, (board.stand place).claimed = true → free (key place) (start (key place))
  closed : ∀ place, board.stand place = .settled → closed (board.rows (key place))
  distinct : ∀ first second, (board.stand first).claimed = true →
    (board.stand second).claimed = true → key first = key second → first = second
  turn : ∀ first second, (board.stand first).active = true →
    (board.stand second).active = true → first = second

section Serial

variable {start : Key → Option Row} {before after : Board Place Key Row}

theorem serial_idle (idle : ∀ place, before.stand place = .idle)
    (rows : ∀ target, before.rows target = start target) :
    Serial key free closed start before := by
  refine ⟨fun target _ => rows target, ?_, ?_, ?_, ?_⟩ <;> intro place <;>
    simp [idle, Stand.claimed, Stand.active]

theorem claimed_settled {stand : Stand} (claimed : stand.claimed = true)
    (quiet : stand.active = false) : stand = .settled := by
  cases stand <;> simp_all [Stand.claimed, Stand.active]

variable {place : Place} {old new : Stand}

section

variable (serial : Serial key free closed start before)
  (moves : Moves key before after place old new)

include serial moves

theorem serial_untouched (row : after.rows (key place) = before.rows (key place))
    (unclaimed : old.claimed = false) (stays : new.claimed = false)
    (turn : new.active = true → ∀ other, other ≠ place → (before.stand other).active = false) :
    Serial key free closed start after := by
  have rows : ∀ target, after.rows target = before.rows target := by
    intro target
    by_cases own : target = key place
    · rw [own, row]
    · exact moves.rows target own
  have claims : ∀ other, (after.stand other).claimed = (before.stand other).claimed := by
    intro other
    rcases moves.stand_cases other with ⟨rfl, isNew⟩ | ⟨_, same⟩
    · rw [isNew, moves.old, stays, unclaimed]
    · rw [same]
  refine ⟨?_, ?_, ?_, ?_, ?_⟩
  · intro target none
    rw [rows]
    exact serial.untouched target fun other shared => (claims other).symm.trans (none other shared)
  · intro other claimed
    exact serial.passed other ((claims other).symm.trans claimed)
  · intro other settled
    rw [rows]
    rcases moves.stand_cases other with ⟨rfl, isNew⟩ | ⟨_, same⟩
    · rw [settled] at isNew
      rw [← isNew] at stays
      cases stays
    · exact serial.closed other (same.symm.trans settled)
  · intro first second one two
    exact serial.distinct first second ((claims first).symm.trans one)
      ((claims second).symm.trans two)
  · intro first second one two
    rcases moves.stand_cases first with ⟨rfl, isNew⟩ | ⟨different, same⟩ <;>
      rcases moves.stand_cases second with ⟨rfl, isNew'⟩ | ⟨different', same'⟩
    · rfl
    · rw [same', turn (isNew ▸ one) second different'] at two
      cases two
    · rw [same, turn (isNew' ▸ two) first different] at one
      cases one
    · exact serial.turn first second (same ▸ one) (same' ▸ two)

theorem serial_claimed (works : old.active = true) (claimed : new.claimed = true)
    (passes : free (key place) (start (key place)))
    (alone : ∀ other, other ≠ place → (before.stand other).claimed = true → key other ≠ key place)
    (leaves : new = .settled → closed (after.rows (key place))) :
    Serial key free closed start after := by
  refine ⟨?_, ?_, ?_, ?_, ?_⟩
  · intro target none
    have other : target ≠ key place := by
      rintro rfl
      have unclaimed := none place rfl
      rw [moves.new, claimed] at unclaimed
      cases unclaimed
    rw [moves.rows target other]
    refine serial.untouched target fun another shared => ?_
    have different : another ≠ place := fun same => other (same ▸ shared.symm)
    rw [← moves.others another different]
    exact none another shared
  · intro other isClaimed
    rcases moves.stand_cases other with ⟨rfl, _⟩ | ⟨_, same⟩
    · exact passes
    · exact serial.passed other (same ▸ isClaimed)
  · intro other settled
    rcases moves.stand_cases other with ⟨rfl, isNew⟩ | ⟨different, same⟩
    · exact leaves (isNew.symm.trans settled)
    · rw [same] at settled
      rw [moves.rows _ (alone other different (by rw [settled]; rfl))]
      exact serial.closed other settled
  · intro first second one two shared
    rcases moves.stand_cases first with ⟨rfl, _⟩ | ⟨different, same⟩ <;>
      rcases moves.stand_cases second with ⟨rfl, _⟩ | ⟨different', same'⟩
    · rfl
    · exact absurd shared.symm (alone second different' (same' ▸ two))
    · exact absurd shared (alone first different (same ▸ one))
    · exact serial.distinct first second (same ▸ one) (same' ▸ two) shared
  · intro first second one two
    have wasActive : ∀ other, (after.stand other).active = true →
        (before.stand other).active = true := by
      intro other active
      rcases moves.stand_cases other with ⟨rfl, _⟩ | ⟨_, same⟩
      · rw [moves.old, works]
      · exact same ▸ active
    exact serial.turn first second (wasActive first one) (wasActive second two)

end

theorem serial_step {turns : Prop} (exclusive : ∀ target row, closed row → ¬ free target row)
    (holds : turns) (serial : Serial key free closed start before)
    (step : BoardStep key free closed turns before after) :
    Serial key free closed start after := by
  cases step with
  | rests stands rows =>
    refine ⟨?_, ?_, ?_, ?_, ?_⟩
    · intro target none
      rw [rows]
      exact serial.untouched target fun place shared => stands place ▸ none place shared
    · intro place claimed
      exact serial.passed place (stands place ▸ claimed)
    · intro place settled
      rw [rows]
      exact serial.closed place (stands place ▸ settled)
    · intro first second one two
      exact serial.distinct first second (stands first ▸ one) (stands second ▸ two)
    · intro first second one two
      exact serial.turn first second (stands first ▸ one) (stands second ▸ two)
  | begins _ moves row alone =>
    exact serial_untouched serial moves row rfl rfl fun _ other _ => alone holds other
  | claims place moves passes =>
    -- who has claimed the key before has finished, and its row refuses the claim
    have alone : ∀ other, other ≠ place → (before.stand other).claimed = true →
        key other ≠ key place := by
      intro other different claimed shared
      by_cases active : (before.stand other).active = true
      · exact different (serial.turn other place active (by rw [moves.old]; rfl))
      · have settled := claimed_settled claimed (by simpa using active)
        exact exclusive _ _ (serial.closed other settled) (shared ▸ passes)
    have unclaimed : ∀ other, key other = key place → (before.stand other).claimed = false := by
      intro other shared
      by_cases same : other = place
      · rw [same, moves.old]
        rfl
      · by_contra claimed
        exact alone other same (by simpa using claimed) shared
    have row := serial.untouched (key place) unclaimed
    exact serial_claimed serial moves rfl rfl (row ▸ passes) alone (by rintro ⟨⟩)
  | spends _ moves row =>
    exact serial_untouched serial moves row rfl rfl (by rintro ⟨⟩)
  | holds place moves =>
    have claimed : (before.stand place).claimed = true := by rw [moves.old]; rfl
    exact serial_claimed serial moves rfl rfl (serial.passed place claimed)
      (fun other different isClaimed shared =>
        different (serial.distinct other place isClaimed claimed shared)) (by rintro ⟨⟩)
  | settles place moves leaves =>
    have claimed : (before.stand place).claimed = true := by rw [moves.old]; rfl
    exact serial_claimed serial moves rfl rfl (serial.passed place claimed)
      (fun other different isClaimed shared =>
        different (serial.distinct other place isClaimed claimed shared)) fun _ => leaves

theorem serial_settled (serial : Serial key free closed start before)
    (settled : ∀ place, before.stand place = .settled) :
    Function.Injective key ∧ ∀ place, free (key place) (start (key place)) := by
  have claimed : ∀ place, (before.stand place).claimed = true := by
    intro place
    rw [settled place]
    rfl
  exact ⟨fun first second => serial.distinct first second (claimed first) (claimed second),
    fun place => serial.passed place (claimed place)⟩

end Serial

end Dagens.Lib.ClaimBoard
