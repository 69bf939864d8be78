import Mathlib

/-!
# SQL statements on a table with a primary key

A table maps its key to the row stored under it. The statements that matter here
are a plain `INSERT`, which a present key makes fail, the two `INSERT … ON
CONFLICT` forms, which report how many rows they touched, and `UPDATE` and
`DELETE` of one key.
-/

namespace Dagens.Lib.KeyedTable

open List AList

variable {Key Row : Type} [DecidableEq Key]

/-- `INSERT`; `none` is the violation of the primary key. -/
def insertRow (table : AList fun _ : Key => Row) (key : Key) (row : Row) :
    Option (AList fun _ : Key => Row) :=
  if key ∈ table then none else some (table.insert key row)

/-- `INSERT … ON CONFLICT (key) DO UPDATE SET … WHERE …`: `change` is what the
update makes of the row found, `none` when the condition does not hold. -/
def insertOrUpdate (table : AList fun _ : Key => Row) (key : Key) (row : Row)
    (change : Row → Option Row) : (AList fun _ : Key => Row) × Nat :=
  match table.lookup key with
  | none => (table.insert key row, 1)
  | some existing =>
    match change existing with
    | none => (table, 0)
    | some changed => (table.insert key changed, 1)

/-- `INSERT … ON CONFLICT (key) DO NOTHING`. -/
def insertOrNothing (table : AList fun _ : Key => Row) (key : Key) (row : Row) :
    (AList fun _ : Key => Row) × Nat :=
  if key ∈ table then (table, 0) else (table.insert key row, 1)

/-- `DELETE … WHERE key = …`. -/
def deleteRow (table : AList fun _ : Key => Row) (key : Key) : AList fun _ : Key => Row :=
  table.erase key

/-- `UPDATE … SET … WHERE key = …`. -/
def updateRow (table : AList fun _ : Key => Row) (key : Key) (change : Row → Row) :
    AList fun _ : Key => Row :=
  match table.lookup key with
  | none => table
  | some existing => table.insert key (change existing)

variable {table : AList fun _ : Key => Row} {row : Row}

theorem lookup_inserted (table : AList fun _ : Key => Row) (key : Key) (row : Row) (other : Key) :
    (table.insert key row).lookup other = if other = key then some row else table.lookup other := by
  by_cases same : other = key
  · subst same
    simp
  · simp [lookup_insert_ne same, same]

section

variable (table) (key : Key)

theorem lookup_update_row (change : Row → Row) (other : Key) :
    (updateRow table key change).lookup other =
      if other = key then (table.lookup key).map change else table.lookup other := by
  unfold updateRow
  cases found : table.lookup key with
  | none =>
    by_cases same : other = key
    · subst same
      simp [found]
    · simp [same]
  | some => exact lookup_inserted table key _ other

theorem lookup_insert_or_nothing (row : Row) (other : Key) :
    (insertOrNothing table key row).1.lookup other =
      if other = key then some ((table.lookup key).getD row) else table.lookup other := by
  unfold insertOrNothing
  by_cases present : key ∈ table
  · obtain ⟨_, found⟩ := Option.isSome_iff_exists.mp (lookup_isSome.mpr present)
    by_cases same : other = key
    · subst same
      simp [present, found]
    · simp [present, same]
  · have absent := lookup_eq_none.mpr present
    simp [present, absent, lookup_inserted]

theorem lookup_delete_row (other : Key) :
    (deleteRow table key).lookup other = if other = key then none else table.lookup other := by
  unfold deleteRow
  by_cases same : other = key
  · subst same
    simp
  · simp [lookup_erase_ne same, same]

end

/-- The rows that a `SELECT` goes through. -/
def rows (table : AList fun _ : Key => Row) : List Row := table.entries.map (·.2)

omit [DecidableEq Key] in
/-- `DELETE … WHERE …`. -/
def deleteWhere (table : AList fun _ : Key => Row) (condition : Row → Bool) :
    AList fun _ : Key => Row where
  entries := table.entries.filter fun entry => !condition entry.2
  nodupKeys := List.NodupKeys.sublist filter_sublist table.nodupKeys

omit [DecidableEq Key] in
theorem mem_delete_where {condition : Row → Bool}
    (member : row ∈ rows (deleteWhere table condition)) : row ∈ rows table := by
  obtain ⟨_, kept, rfl⟩ := mem_map.mp member
  exact mem_map_of_mem (mem_of_mem_filter kept)

end Dagens.Lib.KeyedTable
