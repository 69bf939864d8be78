import Mathlib

/-!
# Splitting a list for a fixed number of workers

`FixedCountSplitter` hands the truncated quotient of the length by the count to `ListSplitter`,
which steps through the list by that size. What the quotient leaves over makes further splits.
-/

namespace Dagens.Agents.FixedSplits

open List Nat

variable {Item : Type}

inductive Value (Item : Type) where
  | items (data : List Item)
  | number (value : Nat)

structure AgentInput (Item : Type) where
  instruction : String
  context : String → Option (Value Item)

/-- The type assertion `.([]interface{})` on the value at a key. -/
def itemsAt (key : String) (input : AgentInput Item) : Option (List Item) :=
  match input.context key with
  | some (.items data) => some data
  | _ => none

section

variable (input : AgentInput Item) (itemsKey : String) (items : List Item) (chunkSize : Nat)

/-- The split at position `i`. Of two equal keys of a map literal the later one stays. -/
def splitAt (i : Nat) : AgentInput Item where
  instruction := input.instruction
  context key :=
    if key = "chunk" then some (.number (i / chunkSize))
    else if key = itemsKey then some (.items ((items.drop i).take chunkSize))
    else none

/-- The loop from position `i`; with a positive step, a round for each item is enough. -/
def splitLoop : Nat → Nat → List (AgentInput Item)
  | 0, _ => []
  | rounds + 1, i =>
    if i < items.length then
      splitAt input itemsKey items chunkSize i :: splitLoop rounds (i + chunkSize)
    else []

end

def chunkOf (key : String) (split : AgentInput Item) : List Item := (itemsAt key split).getD []

def listSplitter (itemsKey : String) (chunkSize : Nat) (input : AgentInput Item) :
    Except String (List (AgentInput Item)) :=
  match itemsAt itemsKey input with
  | none => .error ("items not found at key " ++ itemsKey)
  | some items => .ok (splitLoop input itemsKey items chunkSize items.length 0)

def chunkSizeFor (length count : Nat) : Nat := if length / count = 0 then 1 else length / count

def fixedCountSplitter (count : Nat) (dataKey : String) (input : AgentInput Item) :
    Except String (List (AgentInput Item)) :=
  match itemsAt dataKey input with
  | none => .error ("data not found at key " ++ dataKey)
  | some data => listSplitter dataKey (chunkSizeFor data.length count) input

/-- The splits that `fanOutExecutor.Execute` hands to its workers. -/
def fanOutSplits (splitter : AgentInput Item → Except String (List (AgentInput Item)))
    (workers : Nat) (input : AgentInput Item) : Except String (List (AgentInput Item)) :=
  match splitter input with
  | .error err => .error ("input splitting failed: " ++ err)
  | .ok splits =>
    if splits.length > workers then
      .error s!"more splits ({splits.length}) than workers ({workers})"
    else .ok splits

/-- At most `count` numbered splits of nearly equal length that make up the list. -/
structure Fair (count : Nat) (dataKey : String) (items : List Item)
    (splits : List (AgentInput Item)) : Prop where
  few : splits.length ≤ count
  whole : splits.flatMap (chunkOf dataKey) = items
  numbered : ∀ index (split : AgentInput Item), splits[index]? = some split →
    split.context "chunk" = some (.number index)
  even : ∀ split ∈ splits, ∀ other ∈ splits, (chunkOf dataKey split).length ≤
    (chunkOf dataKey other).length + 1

section

variable {input split : AgentInput Item} {dataKey : String} {items : List Item} {size count : Nat}

theorem chunk_of_split (named : dataKey ≠ "chunk") (i : Nat) :
    chunkOf dataKey (splitAt input dataKey items size i) = (items.drop i).take size := by
  simp [chunkOf, itemsAt, splitAt, named]

variable (positive : 0 < size)
include positive

theorem loop_whole (named : dataKey ≠ "chunk") (rounds i : Nat)
    (enough : items.length ≤ i + rounds) :
    (splitLoop input dataKey items size rounds i).flatMap (chunkOf dataKey) = items.drop i := by
  induction rounds generalizing i with
  | zero => exact (drop_eq_nil_of_le enough).symm
  | succ rounds ih =>
    unfold splitLoop
    split_ifs with inside
    · rw [flatMap_cons, ih (i + size) (by omega), chunk_of_split named, ← drop_drop,
        take_append_drop]
    · exact (drop_eq_nil_of_le (not_lt.mp inside)).symm

theorem loop_get (rounds first index : Nat) (enough : items.length ≤ first * size + rounds) :
    (splitLoop input dataKey items size rounds (first * size))[index]? =
      if (first + index) * size < items.length then
        some (splitAt input dataKey items size ((first + index) * size))
      else none := by
  have later : first * size ≤ (first + index) * size := mul_le_mul_right size (by omega)
  induction rounds generalizing first index with
  | zero =>
    rw [if_neg (by omega)]
    rfl
  | succ rounds ih =>
    unfold splitLoop
    by_cases inside : first * size < items.length
    · rw [if_pos inside]
      cases index with
      | zero => exact (if_pos inside).symm
      | succ index =>
        have next : first * size + size = (first + 1) * size := (succ_mul first size).symm
        have shift : first + 1 + index = first + (index + 1) := by omega
        rw [getElem?_cons_succ, next, ih (first + 1) index (by omega), shift]
        exact mul_le_mul_right size (by omega)
    · rw [if_neg inside, if_neg (by omega)]
      rfl

theorem splits_get (index : Nat) :
    (splitLoop input dataKey items size items.length 0)[index]? =
      if index * size < items.length then
        some (splitAt input dataKey items size (index * size))
      else none := by
  simpa using @loop_get Item input dataKey items size positive items.length 0 index (by omega)

theorem splits_few_iff (count : Nat) :
    (splitLoop input dataKey items size items.length 0).length ≤ count ↔
      items.length ≤ count * size := by
  rw [← getElem?_eq_none_iff, splits_get positive]
  simp

theorem mem_splits
    (member : split ∈ splitLoop input dataKey items size items.length 0) :
    ∃ index, index * size < items.length ∧
      split = splitAt input dataKey items size (index * size) := by
  obtain ⟨index, found⟩ := mem_iff_getElem?.mp member
  rw [splits_get positive] at found
  split_ifs at found with inside
  exact ⟨index, inside, (Option.some.inj found).symm⟩

theorem split_length (named : dataKey ≠ "chunk") (filled : size = 1 ∨ items.length = count * size)
    (member : split ∈ splitLoop input dataKey items size items.length 0) :
    (chunkOf dataKey split).length = size := by
  obtain ⟨index, inside, rfl⟩ := mem_splits positive member
  have full : (index + 1) * size ≤ items.length := by
    rcases filled with rfl | product
    · omega
    · rw [product] at inside ⊢
      exact mul_le_mul_right size (Nat.lt_of_mul_lt_mul_right inside)
  rw [succ_mul] at full
  rw [chunk_of_split named, length_take, length_drop]
  omega

theorem fair_splits_iff
    (filled : items.length ≤ count * size → size = 1 ∨ items.length = count * size) :
    Fair count dataKey items (splitLoop input dataKey items size items.length 0) ↔
      items.length ≤ count * size ∧ (dataKey = "chunk" → items = []) := by
  constructor
  · intro fair
    refine ⟨(splits_few_iff positive count).mp fair.few, ?_⟩
    rintro rfl
    rw [← fair.whole, flatMap_eq_nil_iff]
    intro split member
    obtain ⟨_, -, rfl⟩ := mem_splits positive member
    rfl
  · rintro ⟨few, lost⟩
    by_cases named : dataKey = "chunk"
    · obtain rfl := lost named
      exact ⟨zero_le _, rfl, by simp [splitLoop], by simp [splitLoop]⟩
    · refine ⟨(splits_few_iff positive count).mpr few, ?_, ?_, ?_⟩
      · exact loop_whole positive named items.length 0 (by omega)
      · intro index split found
        rw [splits_get positive] at found
        split_ifs at found
        obtain rfl := Option.some.inj found
        simp [splitAt, Nat.mul_div_cancel index positive]
      · intro split member other present
        rw [split_length positive named (filled few) member,
          split_length positive named (filled few) present]
        omega

end

theorem chunk_size_spec (length : Nat) {count : Nat} (positive : 0 < count) :
    0 < chunkSizeFor length count ∧
      (length ≤ count * chunkSizeFor length count ↔ length < count ∨ length % count = 0) ∧
      (length ≤ count * chunkSizeFor length count → chunkSizeFor length count = 1 ∨
        length = count * chunkSizeFor length count) := by
  have parts := div_add_mod length count
  unfold chunkSizeFor
  split_ifs with small
  · have below : length < count := (div_eq_zero_iff_lt positive).mp small
    exact ⟨by decide, ⟨fun _ => .inl below, fun _ => by omega⟩, fun _ => .inl rfl⟩
  · have above : ¬length < count := fun below => small (div_eq_of_lt below)
    exact ⟨pos_of_ne_zero small, by omega, by omega⟩

/-- The splits are fair, and accepted by `count` workers, exactly for a list that is shorter than
the count or a multiple of it. Under the key of the chunk numbers every item is lost. -/
theorem fixed_count_fair_iff (count : Nat) (positive : 0 < count) (dataKey : String)
    (input : AgentInput Item) (items : List Item) (held : itemsAt dataKey input = some items) :
    (∃ splits, fixedCountSplitter count dataKey input = .ok splits ∧
      Fair count dataKey items splits ∧
      fanOutSplits (fixedCountSplitter count dataKey) count input = .ok splits) ↔
    (items.length < count ∨ items.length % count = 0) ∧ (dataKey = "chunk" → items = []) := by
  obtain ⟨sized, fits, filled⟩ := chunk_size_spec items.length positive
  have split : fixedCountSplitter count dataKey input = .ok (splitLoop input dataKey items
      (chunkSizeFor items.length count) items.length 0) := by
    simp [fixedCountSplitter, listSplitter, held]
  rw [← fits]
  constructor
  · rintro ⟨splits, result, fair, -⟩
    obtain rfl := Except.ok.inj (split.symm.trans result)
    exact (fair_splits_iff sized filled).mp fair
  · intro conditions
    have fair : Fair count dataKey items (splitLoop input dataKey items
        (chunkSizeFor items.length count) items.length 0) :=
      (fair_splits_iff sized filled).mpr conditions
    refine ⟨_, split, fair, ?_⟩
    simp only [fanOutSplits, split]
    exact if_neg (not_lt.mpr fair.few)

def sampleInput (items : List Nat) : AgentInput Nat :=
  ⟨"sum", fun key => if key = "data" then some (.items items) else none⟩

theorem six_for_three_fair : ∃ splits,
    fixedCountSplitter 3 "data" (sampleInput [1, 2, 3, 4, 5, 6]) = .ok splits ∧
      Fair 3 "data" [1, 2, 3, 4, 5, 6] splits ∧
      fanOutSplits (fixedCountSplitter 3 "data") 3 (sampleInput [1, 2, 3, 4, 5, 6]) = .ok splits :=
  (fixed_count_fair_iff 3 (by decide) "data" _ [1, 2, 3, 4, 5, 6] rfl).mpr ⟨by decide, by decide⟩

/-- Five items for three workers make five splits of one item. -/
theorem five_for_three_rejected :
    fanOutSplits (fixedCountSplitter 3 "data") 3 (sampleInput [1, 2, 3, 4, 5]) =
      .error "more splits (5) than workers (3)" := by
  rfl

end Dagens.Agents.FixedSplits
