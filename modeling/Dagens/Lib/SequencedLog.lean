import Mathlib

/-!
# Logs kept in sequence order

An append to a sequenced log adds the new entry and sorts by sequence number.
The sort is stable, so it commutes with every filter: what an append does to
the entries of one kind never depends on the entries of the other kinds.
-/

namespace Dagens.Lib.SequencedLog

open List

variable {Entry : Type} (seq : Entry → Nat)

def InOrder (first second : Entry) : Prop := seq first ≤ seq second

instance : DecidableRel (InOrder seq) := fun first second =>
  inferInstanceAs (Decidable (seq first ≤ seq second))

instance : Std.Total (InOrder seq) :=
  ⟨fun first second => Nat.le_total (seq first) (seq second)⟩

instance : IsTrans Entry (InOrder seq) :=
  ⟨fun _ _ _ firstSecond secondThird => Nat.le_trans firstSecond secondThird⟩

def Sequenced (log : List Entry) : Prop := log.Pairwise (InOrder seq)

def append (log : List Entry) (entry : Entry) : List Entry :=
  (log ++ [entry]).insertionSort (InOrder seq)

section

variable (log : List Entry) (entry : Entry)

theorem append_sequenced : Sequenced seq (append seq log entry) :=
  pairwise_insertionSort (InOrder seq) _

theorem mem_append (other : Entry) :
    other ∈ append seq log entry ↔ other ∈ log ∨ other = entry := by
  simp [append, mem_insertionSort]

theorem append_perm : (append seq log entry).Perm (entry :: log) :=
  (perm_insertionSort (InOrder seq) _).trans (perm_append_singleton entry log)

end

theorem filter_ordered_insert (keep : Entry → Bool) (entry : Entry) (log : List Entry)
    (sorted : Sequenced seq log) :
    (log.orderedInsert (InOrder seq) entry).filter keep =
      if keep entry then (log.filter keep).orderedInsert (InOrder seq) entry
      else log.filter keep := by
  induction log with
  | nil => cases kept : keep entry <;> simp [kept]
  | cons head tail ih =>
    have tailSorted : Sequenced seq tail := (pairwise_cons.mp sorted).2
    have headFirst := (pairwise_cons.mp sorted).1
    by_cases before : InOrder seq entry head
    · rw [orderedInsert_cons_of_le _ tail before]
      cases kept : keep entry with
      | false => simp [kept]
      | true =>
        have beforeAll : ∀ other ∈ (head :: tail).filter keep, InOrder seq entry other := by
          intro other member
          rcases mem_cons.mp (mem_filter.mp member).1 with same | later
          · exact same ▸ before
          · exact Nat.le_trans before (headFirst other later)
        rw [if_pos rfl, filter_cons_of_pos kept]
        cases rest : (head :: tail).filter keep with
        | nil => simp
        | cons other others =>
          rw [orderedInsert_cons_of_le _ others (beforeAll other (by simp [rest]))]
    · rw [orderedInsert_of_not_le _ tail before]
      cases headKept : keep head with
      | false => simp [headKept, ih tailSorted]
      | true =>
        rw [filter_cons_of_pos headKept, filter_cons_of_pos headKept, ih tailSorted]
        cases kept : keep entry with
        | false => simp
        | true =>
          rw [if_pos rfl, if_pos rfl, orderedInsert_of_not_le _ _ before]

section

variable (keep : Entry → Bool) (log : List Entry)

include keep log

theorem filter_insertion_sort :
    (log.insertionSort (InOrder seq)).filter keep =
      (log.filter keep).insertionSort (InOrder seq) := by
  induction log with
  | nil => rfl
  | cons head tail ih =>
    rw [insertionSort_cons, filter_ordered_insert seq keep head _
      (pairwise_insertionSort (InOrder seq) tail), ih]
    cases kept : keep head <;> simp [kept]

theorem filter_append_other (entry : Entry) (sorted : Sequenced seq log)
    (dropped : keep entry = false) :
    (append seq log entry).filter keep = log.filter keep := by
  rw [append, filter_insertion_sort, filter_append]
  simp only [filter_cons, dropped, Bool.false_eq_true, if_false, filter_nil, append_nil]
  exact (sorted.filter keep).insertionSort_eq

/-- An entry with the highest sequence number of its kind goes to the end of
the entries of that kind, whatever was appended in between. -/
theorem filter_append_newest (entry : Entry) (sorted : Sequenced seq log) (kept : keep entry = true)
    (newest : ∀ old ∈ log, keep old = true → seq old ≤ seq entry) :
    (append seq log entry).filter keep = log.filter keep ++ [entry] := by
  rw [append, filter_insertion_sort, filter_append]
  simp only [filter_cons, kept, if_true, filter_nil]
  apply List.Pairwise.insertionSort_eq
  rw [pairwise_append]
  refine ⟨sorted.filter keep, pairwise_singleton _ _, ?_⟩
  intro old oldMember _ lastMember
  rw [mem_singleton] at lastMember
  subst lastMember
  exact newest old (mem_filter.mp oldMember).1 (mem_filter.mp oldMember).2

end

theorem append_newest (log : List Entry) (entry : Entry) (sorted : Sequenced seq log)
    (newest : ∀ old ∈ log, seq old ≤ seq entry) :
    append seq log entry = log ++ [entry] := by
  have kept := filter_append_newest seq (fun _ => true) log entry sorted rfl
    (fun old member _ => newest old member)
  simpa using kept

end Dagens.Lib.SequencedLog
