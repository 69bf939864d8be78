import Mathlib

/-!
# Logs cut into periods

A log has its newest entry first. Some entries are changes; the entries since the
last change are the current period. A property that is to hold at every moment
of the past is a property of every suffix of the log.
-/

namespace Dagens.Lib.Chronicle

open List

variable {Entry : Type} (isChange : Entry → Bool)

/-- The entries since the last change. -/
def period (log : List Entry) : List Entry := log.takeWhile fun entry => !isChange entry

def lastChange (log : List Entry) : Option Entry := log.find? isChange

variable {isChange} {entry : Entry}

theorem period_change (change : isChange entry = true) (log : List Entry) :
    period isChange (entry :: log) = [] := by
  simp [period, change]

theorem period_entry (other : isChange entry = false) (log : List Entry) :
    period isChange (entry :: log) = entry :: period isChange log := by
  simp [period, other]

/-- The property held at every moment of the log. -/
def AtEvery (property : List Entry → Prop) (log : List Entry) : Prop :=
  ∀ moment, moment <:+ log → property moment

variable {property : List Entry → Prop}

theorem at_every_nil : AtEvery property [] ↔ property [] := by
  simp [AtEvery]

theorem at_every_cons {log : List Entry} :
    AtEvery property (entry :: log) ↔ property (entry :: log) ∧ AtEvery property log := by
  constructor
  · intro every
    exact ⟨every _ (suffix_refl _), fun moment earlier =>
      every moment (earlier.trans (suffix_cons entry log))⟩
  · rintro ⟨now, every⟩ moment earlier
    rcases suffix_cons_iff.mp earlier with rfl | before
    · exact now
    · exact every moment before

end Dagens.Lib.Chronicle
