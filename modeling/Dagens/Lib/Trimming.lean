import Mathlib

/-!
# Trimming

Dropping the letters of a class from both ends of a text.
-/

namespace Dagens.Lib.Trimming

open List

variable {Letter : Type} (blank : Letter → Bool)

def trim (text : List Letter) : List Letter := (text.dropWhile blank).rdropWhile blank

section

variable {text : List Letter} (clean : ∀ letter ∈ text, blank letter = false)

include clean

theorem drop_while_clean : text.dropWhile blank = text := by
  cases text with
  | nil => rfl
  | cons letter =>
    exact dropWhile_cons_of_neg (by simp [clean letter mem_cons_self])

theorem trim_clean : trim blank text = text := by
  rw [trim, drop_while_clean blank clean, List.rdropWhile, drop_while_clean blank, reverse_reverse]
  exact fun letter member => clean letter (mem_reverse.mp member)

end

theorem drop_while_trim (text : List Letter) :
    (trim blank text).dropWhile blank = trim blank text := by
  cases left : trim blank text with
  | nil => rfl
  | cons =>
    obtain ⟨_, whole⟩ := rdropWhile_prefix blank (text.dropWhile blank)
    rw [← trim, left, cons_append] at whole
    have nonempty : text.dropWhile blank ≠ [] := by simp [← whole]
    have first := head_dropWhile_not blank nonempty
    simp only [← whole, head_cons] at first
    exact dropWhile_cons_of_neg (by simp [first])

theorem trim_trim (text : List Letter) : trim blank (trim blank text) = trim blank text := by
  conv_lhs => rw [trim, drop_while_trim]
  exact rdropWhile_idempotent blank (text.dropWhile blank)

end Dagens.Lib.Trimming
