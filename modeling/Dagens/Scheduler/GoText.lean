import Dagens.Lib.Trimming
import Dagens.Scheduler.GoSupport

/-!
# Trimmed texts
-/

namespace Dagens.Scheduler.GoText

open Lib.Trimming GoSupport

def trimSpace (text : String) : String := String.ofList (trim isSpace text.toList)

theorem trim_space_trimmed (text : String) : trimSpace (trimSpace text) = trimSpace text := by
  simp only [trimSpace, String.toList_ofList, trim_trim]

theorem digit_not_space {digit : Char} (isDigit : digit.isDigit = true) :
    isSpace digit = false := by
  simp only [Char.isDigit, Bool.and_eq_true, decide_eq_true_eq, ge_iff_le, UInt32.le_iff_toNat_le]
    at isDigit
  have low : 48 ≤ digit.toNat := isDigit.1
  have high : digit.toNat ≤ 57 := isDigit.2
  simp only [isSpace, Bool.or_eq_false_iff, Bool.and_eq_false_iff, decide_eq_false_iff_not]
  omega

theorem trim_space_repr (number : Nat) : trimSpace number.repr = number.repr := by
  have clean : ∀ digit ∈ number.repr.toList, isSpace digit = false := by
    intro digit member
    rw [Nat.toList_repr] at member
    exact digit_not_space (Nat.isDigit_of_mem_toDigits (by omega) (by omega) member)
  rw [trimSpace, trim_clean isSpace clean, String.ofList_toList]

end Dagens.Scheduler.GoText
