import Dagens.Lib.GuardedRun
import Dagens.Hitl.CheckpointStores

/-!
# Conservation of checkpoints

A ledger keeps beside a store the checkpoints whose creation succeeded and that
no later delete, replacement or move has named. They are owed: each has to be
found under its request id, with its own contents. A step conserves when it also
reports truthfully what it did.

Both stores fail to conserve at steps that meet an occupied id. `PostgresSafe`
and `MemorySafe` say exactly at which ones.
-/

namespace Dagens.Hitl.CheckpointConservation

open Lib GuardedRun KeyedTable Scheduler.GoSupport CheckpointStores List Option AList

/-- A checkpoint without the fields that `RecordFailure` writes. -/
def contents (cp : ExecutionCheckpoint) : ExecutionCheckpoint :=
  { cp with failureCount := 0, lastError := "", lastAttempt := 0 }

structure Ledger (Store : Type) where
  store : Store
  owed : List ExecutionCheckpoint

/-- The request ids that a call names as leaving the store or being replaced. -/
def names : Call → List String
  | .create _ => []
  | .replace old next => old :: next.toList.map (·.requestID)
  | .recordFailure _ _ _ => []
  | .delete requestID => [requestID]
  | .moveToDLQ requestID _ => [requestID]

def settle (call : Call) (outcome : Option StoreError) (owed : List ExecutionCheckpoint) :
    List ExecutionCheckpoint :=
  match outcome with
  | some _ => owed
  | none =>
    match call with
    | .create cp => cp :: owed
    | _ => owed.filter fun cp => decide (cp.requestID ∉ names call)

section Ledgers

variable {Store : Type} (kind : CheckpointStore Store)

def step (ledger : Ledger Store) (action : Faults × Call) : Option (Ledger Store) :=
  let (outcome, after) := kind.perform action.1 action.2 ledger.store
  some ⟨after, settle action.2 outcome ledger.owed⟩

/-- Every checkpoint that is owed is found with its own contents. -/
def Kept (ledger : Ledger Store) : Prop :=
  ∀ cp ∈ ledger.owed, ∃ found, kind.find ledger.store cp.requestID = some found ∧
    contents found = contents cp

/-- What a call has to report and to leave behind. -/
structure Conserves (ledger : Ledger Store) (faults : Faults) (call : Call) : Prop where
  replaced : ∀ old next, call = .replace old (some next) →
    (kind.perform faults call ledger.store).1 = none →
    kind.find (kind.perform faults call ledger.store).2 next.requestID = some next ∧
      (old ≠ next.requestID → kind.find (kind.perform faults call ledger.store).2 old = none)
  unchanged : (kind.perform faults call ledger.store).1 ≠ none →
    (kind.perform faults call ledger.store).2 = ledger.store
  notFound : ∀ requestID finalError, call = .moveToDLQ requestID finalError →
    (kind.perform faults call ledger.store).1 = some .checkpointNotFound →
    kind.find ledger.store requestID = none
  moved : ∀ requestID finalError, call = .moveToDLQ requestID finalError →
    (kind.perform faults call ledger.store).1 = none →
    ∃ cp data, kind.find ledger.store requestID = some cp ∧ cp.stateData = some data ∧
      kind.deadLetter (kind.perform faults call ledger.store).2 requestID = some data
  kept : Kept kind ⟨(kind.perform faults call ledger.store).2,
    settle call (kind.perform faults call ledger.store).1 ledger.owed⟩

variable {kind} {ledger : Ledger Store} {call : Call} {err : StoreError}

theorem kept_failed (kept : Kept kind ledger) :
    Kept kind ⟨ledger.store, settle call (some err) ledger.owed⟩ :=
  kept

theorem kept_named {after : Store} (kept : Kept kind ledger) (named : ∀ cp, call ≠ .create cp)
    (frame : ∀ requestID, requestID ∉ names call → kind.find after requestID = kind.find
      ledger.store requestID) :
    Kept kind ⟨after, settle call none ledger.owed⟩ := by
  intro cp member
  have filtered : cp ∈ ledger.owed.filter fun cp => decide (cp.requestID ∉ names call) := by
    cases call with
    | create cp => exact absurd rfl (named cp)
    | _ => exact member
  obtain ⟨owed, free⟩ := mem_filter.mp filtered
  obtain ⟨found, present, same⟩ := kept cp owed
  exact ⟨found, (frame cp.requestID (of_decide_eq_true free)).trans present, same⟩

theorem conserves_failed {faults : Faults} (kept : Kept kind ledger) (err : StoreError)
    (performed : kind.perform faults call ledger.store = (some err, ledger.store))
    (honest : ∀ requestID finalError, call = .moveToDLQ requestID finalError → err =
      .checkpointNotFound → kind.find ledger.store requestID = none) :
    Conserves kind ledger faults call where
  replaced := by simp [performed]
  unchanged := by simp [performed]
  notFound := by
    intro requestID finalError called denied
    rw [performed, Option.some.injEq] at denied
    exact honest requestID finalError called denied
  moved := by simp [performed]
  kept := by
    rw [performed]
    exact kept_failed kept

end Ledgers

/-- When the statement inserts, the id is free, or already has what is inserted. The
job id is not stored, and the times that are compared have to be whole microseconds. -/
def Inserts (table : AList fun _ : String => CheckpointRow)
    (same : ExecutionCheckpoint → ExecutionCheckpoint → Prop) (times : List Nat)
    (cp : ExecutionCheckpoint) : Prop :=
  match table.lookup cp.requestID with
  | none => cp.jobID = "" ∧ ∀ time ∈ times, timestamptz time = time
  | some row => same (row.scan cp.requestID) cp

/-- Failing statements apart: a created checkpoint meets no other row; a
replacement has a new id and meets no other row; a checkpoint that is moved to
the DLQ has no row there yet. -/
def PostgresSafe (ledger : Ledger Tables) (action : Faults × Call) : Prop :=
  match action.2 with
  | .create cp => action.1 0 = none → cp.stateData ≠ none →
      Inserts ledger.store.checkpoints (fun stored cp => contents stored = contents cp)
        [cp.createdAt, cp.expiresAt] cp
  | .replace old (some next) => (∀ statement, statement < 5 → action.1 statement = none) →
      next.stateData ≠ none → old ∈ ledger.store.checkpoints →
      next.requestID ≠ old ∧ Inserts ledger.store.checkpoints Eq
        [next.createdAt, next.expiresAt, next.lastAttempt] next
  | .moveToDLQ requestID _ => action.1 0 = none → action.1 1 = none →
      requestID ∈ ledger.store.checkpoints → requestID ∉ ledger.store.dlq
  | _ => True

attribute [local simp] Postgres.moveToCheckpointDLQ Postgres.insertCheckpoint PostgresSafe
  StoreError.wrap Postgres.recordFailure errorOf Postgres.replace Postgres.create Memory.replace
  Memory.recordFailure postgresStore Postgres.delete

section Postgres

variable {tables : Tables}

theorem find_postgres (requestID : String) : postgresStore.find tables requestID =
    (tables.checkpoints.lookup requestID).map (CheckpointRow.scan requestID) := by
  simp only [postgresStore, Postgres.getByRequestID]
  cases tables.checkpoints.lookup requestID <;> rfl

variable {data : String}

/-- What is read back of a checkpoint. -/
def readBack (cp : ExecutionCheckpoint) : ExecutionCheckpoint :=
  { cp with
    jobID := ""
    createdAt := timestamptz cp.createdAt
    expiresAt := timestamptz cp.expiresAt
    lastAttempt := timestamptz cp.lastAttempt }

theorem scan_row_of (cp : ExecutionCheckpoint) (held : cp.stateData = some data) :
    (rowOf cp data).scan cp.requestID = readBack cp := by
  have attempt : ((nullableTime cp.lastAttempt).map timestamptz).getD 0 =
      timestamptz cp.lastAttempt := by
    unfold nullableTime
    split_ifs with zero
    · rw [zero]
      rfl
    · rfl
  rw [readBack, ← attempt]
  simp [CheckpointRow.scan, rowOf, held]

variable {cp next : ExecutionCheckpoint} {old : String}

theorem inserts_iff {table : AList fun _ : String => CheckpointRow} {times : List Nat}
    (held : cp.stateData = some data) (same : ExecutionCheckpoint → ExecutionCheckpoint → Prop)
    (kept : same (readBack cp) cp ↔ cp.jobID = "" ∧ ∀ time ∈ times, timestamptz time = time) :
    same (((table.lookup cp.requestID).getD (rowOf cp data)).scan cp.requestID) cp ↔
      Inserts table same times cp := by
  unfold Inserts
  cases table.lookup cp.requestID with
  | none => simp only [getD_none, scan_row_of cp held, kept]
  | some => rfl

theorem read_back_equal (cp : ExecutionCheckpoint) : readBack cp = cp ↔
    cp.jobID = "" ∧ ∀ time ∈ [cp.createdAt, cp.expiresAt, cp.lastAttempt],
      timestamptz time = time := by
  obtain ⟨_⟩ := cp
  simp [readBack, @eq_comm String ""]

theorem read_back_contents (cp : ExecutionCheckpoint) : contents (readBack cp) = contents cp ↔
    cp.jobID = "" ∧ ∀ time ∈ [cp.createdAt, cp.expiresAt], timestamptz time = time := by
  obtain ⟨_⟩ := cp
  simp [readBack, contents, @eq_comm String ""]

variable {ledger : Ledger Tables} {faults : Faults}

theorem find_inserted (requestID : String) :
    postgresStore.find { tables with checkpoints :=
        (insertOrNothing tables.checkpoints cp.requestID (rowOf cp data)).1 } requestID =
      if requestID = cp.requestID then
        some (((tables.checkpoints.lookup cp.requestID).getD (rowOf cp data)).scan cp.requestID)
      else postgresStore.find tables requestID := by
  rw [find_postgres, lookup_insert_or_nothing]
  split_ifs with same
  · rw [same]
    rfl
  · rw [find_postgres]

section

variable (kept : Kept postgresStore ledger)

include kept

theorem create_conserves_iff (cp : ExecutionCheckpoint) :
    Conserves postgresStore ledger faults (.create cp) ↔
      PostgresSafe ledger (faults, .create cp) := by
  cases fault : faults 0 with
  | some err =>
    refine ⟨fun _ => by simp [fault],
      fun _ => conserves_failed kept (.failed (err.wrap "insert checkpoint: ")) ?_ (by simp)⟩
    simp [fault]
  | none =>
    cases held : cp.stateData with
    | none =>
      refine ⟨fun _ => by simp [held],
        fun _ => conserves_failed kept
          (.failed (notNullViolation.wrap "insert checkpoint: ")) ?_ (by simp)⟩
      simp [fault, held]
    | some data =>
      have performed : postgresStore.perform faults (.create cp) ledger.store =
          (none, { ledger.store with checkpoints :=
            (insertOrNothing ledger.store.checkpoints cp.requestID (rowOf cp data)).1 }) := by
        simp [fault, held]
      have safe : PostgresSafe ledger (faults, .create cp) ↔
          contents (((ledger.store.checkpoints.lookup cp.requestID).getD (rowOf cp data)).scan
            cp.requestID) = contents cp := by
        rw [inserts_iff held (fun stored cp => contents stored = contents cp)
          (read_back_contents cp)]
        simp [fault, held]
      rw [safe]
      constructor
      · intro conserves
        have owed := conserves.kept
        rw [performed] at owed
        obtain ⟨found, present, same⟩ := owed cp mem_cons_self
        rw [find_inserted, if_pos rfl, Option.some.injEq] at present
        rw [present]
        exact same
      · intro same
        refine ⟨by simp, by simp [-postgresStore, performed], by simp, by simp, ?_⟩
        rw [performed]
        intro other member
        rw [find_inserted]
        rcases mem_cons.mp member with rfl | earlier
        · exact ⟨_, if_pos rfl, same⟩
        · obtain ⟨found, present, owed⟩ := kept other earlier
          by_cases occupied : other.requestID = cp.requestID
          · -- the id is taken by the checkpoint that is owed already
            rw [find_postgres, occupied] at present
            obtain ⟨_, stored, rfl⟩ := map_eq_some_iff.mp present
            exact ⟨_, by simp [occupied, stored], owed⟩
          · exact ⟨found, by rw [if_neg occupied]; exact present, owed⟩

theorem delete_conserves (requestID : String) :
    Conserves postgresStore ledger faults (.delete requestID) := by
  cases fault : faults 0 with
  | some err =>
    refine conserves_failed kept (.wrap "delete checkpoint: " err) ?_ (by simp)
    simp [fault]
  | none =>
    have performed : postgresStore.perform faults (.delete requestID) ledger.store =
        (none, { ledger.store with
          checkpoints := deleteRow ledger.store.checkpoints requestID }) := by
      simp [fault]
    refine ⟨by simp, by simp [-postgresStore, performed], by simp, by simp, ?_⟩
    rw [performed]
    refine kept_named kept (by simp) fun other free => ?_
    have apart : other ≠ requestID := by simpa [names] using free
    rw [find_postgres, find_postgres, lookup_delete_row, if_neg apart]

theorem record_failure_conserves (requestID : String) (err : GoError) (now : Nat) :
    Conserves postgresStore ledger faults (.recordFailure requestID err now) := by
  cases fault : faults 0 with
  | some cause =>
    refine conserves_failed kept (.wrap "record failure: " cause) ?_ (by simp)
    simp [fault]
  | none =>
    cases stored : ledger.store.checkpoints.lookup requestID with
    | none =>
      refine conserves_failed kept .checkpointNotFound ?_ (by simp)
      simp [fault, stored]
    | some row =>
      have performed : postgresStore.perform faults (.recordFailure requestID err now)
          ledger.store = (none, { ledger.store with
            checkpoints := updateRow ledger.store.checkpoints requestID fun _ =>
              { row with
                failureCount := row.failureCount + 1
                lastError := err.message
                lastAttempt := some (timestamptz now) } }) := by
        simp [fault, stored]
      refine ⟨by simp, by simp [-postgresStore, performed], by simp, by simp, ?_⟩
      rw [performed]
      intro cp member
      have owed : cp ∈ ledger.owed := (mem_filter.mp member).1
      obtain ⟨found, present, same⟩ := kept cp owed
      simp only [find_postgres, lookup_update_row] at present ⊢
      by_cases here : cp.requestID = requestID
      · rw [here, stored, map_some, Option.some.injEq] at present
        subst present
        refine ⟨_, by simp [here, stored]; rfl, ?_⟩
        rw [← same]
        rfl
      · exact ⟨found, by rw [if_neg here]; exact present, same⟩

theorem move_conserves_free {requestID finalError : String} {row : CheckpointRow}
    (first : faults 0 = none) (second : faults 1 = none)
    (stored : ledger.store.checkpoints.lookup requestID = some row)
    (free : requestID ∉ ledger.store.dlq) :
    Conserves postgresStore ledger faults (.moveToDLQ requestID finalError) := by
  have inserted : insertOrNothing ledger.store.dlq requestID
      (Postgres.dlqRowOf requestID finalError row) =
        (ledger.store.dlq.insert requestID (Postgres.dlqRowOf requestID finalError row), 1) := by
    simp [insertOrNothing, free]
  cases third : faults 2 with
  | some err =>
    refine conserves_failed kept (.wrap "delete after dlq insert: " err) ?_
      (by simp)
    simp [first, second, stored, inserted, third]
  | none =>
    cases fourth : faults 3 with
    | some err =>
      refine conserves_failed kept (.wrap "commit dlq transaction: " err) ?_
        (by simp)
      simp [first, second, stored, inserted, third, fourth]
    | none =>
      have performed : postgresStore.perform faults (.moveToDLQ requestID finalError)
          ledger.store = (none, ⟨deleteRow ledger.store.checkpoints requestID,
            ledger.store.dlq.insert requestID (Postgres.dlqRowOf requestID finalError row)⟩) := by
        simp [first, second, stored, inserted, third, fourth]
      refine ⟨by simp, by simp [-postgresStore, performed],
        by simp [-postgresStore, performed], ?_, ?_⟩
      · rintro _ _ called -
        cases called
        rw [performed]
        refine ⟨row.scan requestID, row.stateData, by rw [find_postgres, stored]; rfl, rfl, ?_⟩
        simp [Postgres.dlqRowOf]
      · rw [performed]
        refine kept_named kept (by simp) fun other apart => ?_
        have distinct : other ≠ requestID := by simpa [names] using apart
        rw [find_postgres, find_postgres, lookup_delete_row, if_neg distinct]

theorem move_conserves_iff (requestID finalError : String) :
    Conserves postgresStore ledger faults (.moveToDLQ requestID finalError) ↔
      PostgresSafe ledger (faults, .moveToDLQ requestID finalError) := by
  cases first : faults 0 with
  | some err =>
    refine ⟨fun _ => by simp [first],
      fun _ => conserves_failed kept (.wrap "begin dlq transaction: " err) ?_
        (by simp)⟩
    simp [first]
  | none =>
    cases second : faults 1 with
    | some err =>
      refine ⟨fun _ => by simp [second],
        fun _ => conserves_failed kept (.wrap "insert into dlq: " err) ?_
          (by simp)⟩
      simp [first, second]
    | none =>
      cases stored : ledger.store.checkpoints.lookup requestID with
      | none =>
        have absent : requestID ∉ ledger.store.checkpoints := lookup_eq_none.mp stored
        have performed : postgresStore.perform faults (.moveToDLQ requestID finalError)
            ledger.store = (some .checkpointNotFound, ledger.store) := by
          simp [first, second, stored]
        refine ⟨fun _ => by simp [absent],
          fun _ => conserves_failed kept _ performed ?_⟩
        rintro _ _ called -
        cases called
        rw [find_postgres, stored]
        rfl
      | some =>
        have present : requestID ∈ ledger.store.checkpoints :=
          lookup_isSome.mp (by simp [stored])
        have safe : PostgresSafe ledger (faults, .moveToDLQ requestID finalError) ↔
            requestID ∉ ledger.store.dlq := by
          simp [first, second, present]
        rw [safe]
        by_cases occupied : requestID ∈ ledger.store.dlq
        · -- nothing is inserted, so the call denies the checkpoint
          have performed : (postgresStore.perform faults (.moveToDLQ requestID finalError)
              ledger.store).1 = some .checkpointNotFound := by
            simp [first, second, stored, insertOrNothing, occupied]
          refine ⟨fun conserves => ?_, fun free => absurd occupied free⟩
          have denied := conserves.notFound requestID finalError rfl performed
          rw [find_postgres, stored] at denied
          cases denied
        · exact ⟨fun _ => occupied,
            fun _ => move_conserves_free kept first second stored occupied⟩

end

theorem find_replaced (requestID : String) :
    postgresStore.find ⟨deleteRow
        (insertOrNothing tables.checkpoints next.requestID (rowOf next data)).1 old, tables.dlq⟩
        requestID =
      if requestID = old then none
      else if requestID = next.requestID then
        some (((tables.checkpoints.lookup next.requestID).getD (rowOf next data)).scan
          next.requestID)
      else postgresStore.find tables requestID := by
  rw [find_postgres, lookup_delete_row]
  split_ifs with gone
  · rfl
  · rename_i same
    rw [lookup_insert_or_nothing, if_pos same, same]
    rfl
  · rename_i other
    rw [lookup_insert_or_nothing, if_neg other, find_postgres]

theorem replace_faulty (tables : Tables) (old : String) (next : ExecutionCheckpoint)
    {statement : Nat} (bounded : statement < 5) (fault : faults statement ≠ none) :
    ∃ err, postgresStore.perform faults (.replace old (some next)) tables = (some err, tables) := by
  simp only [postgresStore, Postgres.replace]
  cases first : faults 0 with
  | some => exact ⟨_, rfl⟩
  | none =>
    cases second : faults 1 with
    | some => exact ⟨_, rfl⟩
    | none =>
      split_ifs with present
      · cases third : Postgres.insertCheckpoint (faults 2) next tables.checkpoints with
        | error => exact ⟨_, rfl⟩
        | ok =>
          cases fourth : faults 3 with
          | some => exact ⟨_, rfl⟩
          | none =>
            cases fifth : faults 4 with
            | some => exact ⟨_, rfl⟩
            | none =>
              exfalso
              interval_cases statement
              · exact fault first
              · exact fault second
              · obtain ⟨_, faulty⟩ := ne_none_iff_exists'.mp fault
                simp [faulty] at third
              · exact fault fourth
              · exact fault fifth
      · exact ⟨_, rfl⟩

section

variable (kept : Kept postgresStore ledger)

include kept

theorem replace_conserves_sent (sent : ∀ statement, statement < 5 → faults statement = none)
    (present : old ∈ ledger.store.checkpoints) (held : next.stateData = some data) :
    Conserves postgresStore ledger faults (.replace old (some next)) ↔
      PostgresSafe ledger (faults, .replace old (some next)) := by
  have performed : postgresStore.perform faults (.replace old (some next)) ledger.store =
      (none, ⟨deleteRow
        (insertOrNothing ledger.store.checkpoints next.requestID (rowOf next data)).1 old,
        ledger.store.dlq⟩) := by
    simp [sent, held, present]
  have safe : PostgresSafe ledger (faults, .replace old (some next)) ↔
      next.requestID ≠ old ∧ ((ledger.store.checkpoints.lookup next.requestID).getD
        (rowOf next data)).scan next.requestID = next := by
    rw [inserts_iff held Eq (read_back_equal next)]
    simp only [PostgresSafe, held]
    exact ⟨fun safe => safe sent (by simp) present, fun safe _ _ _ => safe⟩
  rw [safe]
  constructor
  · intro conserves
    obtain ⟨stored, -⟩ := conserves.replaced old next rfl (by rw [performed])
    rw [performed, find_replaced, if_pos rfl] at stored
    split_ifs at stored with gone
    exact ⟨gone, Option.some.inj stored⟩
  · rintro ⟨apart, same⟩
    refine ⟨?_, by simp [-postgresStore, performed], by simp, by simp, ?_⟩
    · rintro _ _ called -
      cases called
      rw [performed, find_replaced, find_replaced, if_neg apart, if_pos rfl, if_pos rfl, same]
      exact ⟨rfl, fun _ => rfl⟩
    · rw [performed]
      refine kept_named kept (by simp) fun other free => ?_
      obtain ⟨notOld, notNext⟩ : other ≠ old ∧ other ≠ next.requestID := by
        simpa [names] using free
      rw [find_replaced, if_neg notOld, if_neg notNext]

theorem replace_conserves_iff (old : String) (next : Option ExecutionCheckpoint) :
    Conserves postgresStore ledger faults (.replace old next) ↔
      PostgresSafe ledger (faults, .replace old next) := by
  cases next with
  | none => exact ⟨fun _ => trivial, fun _ => conserves_failed kept _ rfl (by simp)⟩
  | some next =>
    by_cases sent : ∀ statement, statement < 5 → faults statement = none
    · by_cases present : old ∈ ledger.store.checkpoints
      · cases held : next.stateData with
        | none =>
          have performed : postgresStore.perform faults (.replace old (some next))
              ledger.store = (some (.wrap "insert replacement checkpoint: "
                (notNullViolation.wrap "insert checkpoint: ")), ledger.store) := by
            simp [sent, held, present]
          exact ⟨fun _ => by simp [held],
            fun _ => conserves_failed kept _ performed (by simp)⟩
        | some => exact replace_conserves_sent kept sent present held
      · refine ⟨fun _ => by simp [present],
          fun _ => conserves_failed kept .checkpointNotFound ?_ (by simp)⟩
        simp [sent, present]
    · push Not at sent
      obtain ⟨statement, bounded, fault⟩ := sent
      obtain ⟨_, performed⟩ := replace_faulty ledger.store old next bounded fault
      refine ⟨fun _ sent => absurd (sent statement bounded) fault,
        fun _ => conserves_failed kept _ performed (by simp)⟩

theorem postgres_conserves_iff (call : Call) :
    Conserves postgresStore ledger faults call ↔ PostgresSafe ledger (faults, call) := by
  cases call with
  | create cp => exact create_conserves_iff kept cp
  | replace old next => exact replace_conserves_iff kept old next
  | recordFailure requestID err now =>
    exact ⟨fun _ => trivial, fun _ => record_failure_conserves kept requestID err now⟩
  | delete requestID => exact ⟨fun _ => trivial, fun _ => delete_conserves kept requestID⟩
  | moveToDLQ requestID finalError => exact move_conserves_iff kept requestID finalError

end

end Postgres

/-- A created checkpoint replaces no other one that is owed; a replacement has a
new id; nothing is moved to the DLQ, because there is none. -/
def MemorySafe (ledger : Ledger MemoryTable) (action : Faults × Call) : Prop :=
  match action.2 with
  | .create cp => ∀ other ∈ ledger.owed, other.requestID = cp.requestID →
      contents other = contents cp
  | .replace old (some next) => old ≠ "" → old ∈ ledger.store → next.requestID ≠ old
  | .moveToDLQ requestID _ => requestID ∉ ledger.store
  | _ => True

section Memory

variable {ledger : Ledger MemoryTable} {faults : Faults}

theorem find_memory (store : MemoryTable) (requestID : String) :
    memoryStore.find store requestID = store.lookup requestID := by
  simp only [memoryStore, Memory.getByRequestID]
  cases store.lookup requestID <;> rfl

section

variable (kept : Kept memoryStore ledger)

include kept

theorem memory_create_iff (cp : ExecutionCheckpoint) :
    Conserves memoryStore ledger faults (.create cp) ↔ MemorySafe ledger (faults, .create cp) := by
  have performed : memoryStore.perform faults (.create cp) ledger.store =
      (none, ledger.store.insert cp.requestID cp) := rfl
  constructor
  · intro conserves other member taken
    have owed := conserves.kept
    rw [performed] at owed
    obtain ⟨found, present, same⟩ := owed other (mem_cons_of_mem _ member)
    rw [find_memory, taken, lookup_insert, Option.some.injEq] at present
    rw [← same, present]
  · intro safe
    refine ⟨by simp, by simp [performed], by simp, by simp, ?_⟩
    rw [performed]
    intro other member
    rw [find_memory]
    by_cases taken : other.requestID = cp.requestID
    · refine ⟨cp, by rw [taken, lookup_insert], ?_⟩
      rcases mem_cons.mp member with rfl | earlier
      · rfl
      · exact (safe other earlier taken).symm
    · rcases mem_cons.mp member with rfl | earlier
      · exact absurd rfl taken
      · obtain ⟨found, present, same⟩ := kept other earlier
        rw [find_memory] at present
        exact ⟨found, by rw [lookup_insert_ne taken]; exact present, same⟩

theorem memory_replace_iff (old : String) (next : Option ExecutionCheckpoint) :
    Conserves memoryStore ledger faults (.replace old next) ↔
      MemorySafe ledger (faults, .replace old next) := by
  cases next with
  | none => exact ⟨fun _ => trivial, fun _ => conserves_failed kept _ rfl (by simp)⟩
  | some next =>
    by_cases unnamed : old = ""
    · refine ⟨fun _ named => absurd unnamed named, fun _ => conserves_failed kept
        (.failed (.plain "old request id is empty")) ?_ (by simp)⟩
      simp [memoryStore, unnamed]
    by_cases present : old ∈ ledger.store
    · have performed : memoryStore.perform faults (.replace old (some next)) ledger.store =
          (none, (ledger.store.insert next.requestID next).erase old) := by
        simp [memoryStore, unnamed, present]
      have gone : ((ledger.store.insert next.requestID next).erase old).lookup old = none :=
        lookup_erase _ _
      constructor
      · intro conserves _ _ same
        obtain ⟨stored, -⟩ := conserves.replaced old next rfl (by rw [performed])
        rw [performed, find_memory] at stored
        dsimp only at stored
        rw [same, lookup_erase] at stored
        cases stored
      · intro safe
        have apart : next.requestID ≠ old := safe unnamed present
        refine ⟨?_, by simp [performed], by simp, by simp, ?_⟩
        · rintro _ _ called -
          cases called
          rw [performed, find_memory, find_memory, lookup_erase_ne apart, lookup_insert]
          exact ⟨rfl, fun _ => gone⟩
        · rw [performed]
          refine kept_named kept (by simp) fun other free => ?_
          obtain ⟨notOld, notNext⟩ : other ≠ old ∧ other ≠ next.requestID := by
            simpa [names] using free
          rw [find_memory, find_memory, lookup_erase_ne notOld,
            lookup_insert_ne notNext]
    · refine ⟨fun _ _ stored => absurd stored present,
        fun _ => conserves_failed kept .checkpointNotFound ?_ (by simp)⟩
      simp [memoryStore, unnamed, present]

theorem memory_record_failure (requestID : String) (err : GoError) (now : Nat) :
    Conserves memoryStore ledger faults (.recordFailure requestID err now) := by
  cases stored : ledger.store.lookup requestID with
  | none =>
    refine conserves_failed kept .checkpointNotFound ?_ (by simp)
    simp [memoryStore, stored]
  | some cp =>
    have performed : memoryStore.perform faults (.recordFailure requestID err now)
        ledger.store = (none, ledger.store.insert requestID { cp with
          failureCount := cp.failureCount + 1
          lastError := err.message
          lastAttempt := now }) := by
      simp [memoryStore, stored]
    refine ⟨by simp, by simp [performed], by simp, by simp, ?_⟩
    rw [performed]
    intro other member
    have owed : other ∈ ledger.owed := (mem_filter.mp member).1
    obtain ⟨found, present, same⟩ := kept other owed
    rw [find_memory] at present ⊢
    by_cases here : other.requestID = requestID
    · rw [here, stored, Option.some.injEq] at present
      subst present
      refine ⟨{ cp with
        failureCount := cp.failureCount + 1
        lastError := err.message
        lastAttempt := now }, ?_, same⟩
      rw [here]
      exact lookup_insert ledger.store
    · exact ⟨found, by rw [lookup_insert_ne here]; exact present, same⟩

theorem memory_delete (requestID : String) :
    Conserves memoryStore ledger faults (.delete requestID) := by
  refine ⟨by simp, fun failed => absurd rfl failed, by simp, by simp, ?_⟩
  refine kept_named kept (by simp) fun other free => ?_
  have apart : other ≠ requestID := by simpa [names] using free
  rw [find_memory, find_memory]
  exact lookup_erase_ne apart

theorem memory_move_iff (requestID finalError : String) :
    Conserves memoryStore ledger faults (.moveToDLQ requestID finalError) ↔
      MemorySafe ledger (faults, .moveToDLQ requestID finalError) := by
  constructor
  · intro conserves present
    have performed : memoryStore.perform faults (.moveToDLQ requestID finalError)
        ledger.store = (none, ledger.store.erase requestID) := by
      simp [memoryStore, Memory.moveToCheckpointDLQ, present]
    obtain ⟨_, _, -, -, dead⟩ := conserves.moved requestID finalError rfl (by rw [performed])
    cases dead
  · intro absent
    have performed : memoryStore.perform faults (.moveToDLQ requestID finalError)
        ledger.store = (some .checkpointNotFound, ledger.store) := by
      simp only [memoryStore, Memory.moveToCheckpointDLQ]
      exact if_pos absent
    refine conserves_failed kept _ performed ?_
    rintro _ _ called -
    cases called
    rw [find_memory]
    exact lookup_eq_none.mpr absent

theorem memory_conserves_iff (call : Call) :
    Conserves memoryStore ledger faults call ↔ MemorySafe ledger (faults, call) := by
  cases call with
  | create cp => exact memory_create_iff kept cp
  | replace old next => exact memory_replace_iff kept old next
  | recordFailure requestID err now =>
    exact ⟨fun _ => trivial, fun _ => memory_record_failure kept requestID err now⟩
  | delete requestID => exact ⟨fun _ => trivial, fun _ => memory_delete kept requestID⟩
  | moveToDLQ requestID finalError => exact memory_move_iff kept requestID finalError

end

end Memory

/-- Nothing has been created yet; the tables may hold rows of earlier runs. -/
def Opened {Store : Type} (ledger : Ledger Store) : Prop := ledger.owed = []

theorem reached_kept {Store : Type} {kind : CheckpointStore Store}
    {safe : Ledger Store → Faults × Call → Prop}
    (conserving : ∀ ledger faults call, Kept kind ledger → safe ledger (faults, call) →
      Conserves kind ledger faults call)
    {ledger : Ledger Store} (reached : Reaches (step kind) safe Opened ledger) :
    Kept kind ledger := by
  refine reaches_invariant ?_ ?_ reached
  · intro ledger opened _ member
    rw [opened] at member
    cases member
  · rintro ledger ⟨faults, call⟩ _ kept allowed taken
    cases taken
    exact (conserving ledger faults call kept allowed).kept

def sampleCheckpoint (requestID data : String) : ExecutionCheckpoint where
  graphID := "graph-1"
  graphVersion := "v1"
  nodeID := "approve"
  stateData := some data
  requestID := requestID
  jobID := ""
  createdAt := 1000
  expiresAt := 9000
  traceID := ""
  failureCount := 0
  lastError := ""
  lastAttempt := 0

def noFaults : Faults := fun _ => none

/-- A paused request whose checkpoint went to the DLQ pauses again. -/
def pausedAgain : List (Faults × Call) :=
  [(noFaults, .create (sampleCheckpoint "req-1" "first")),
    (noFaults, .moveToDLQ "req-1" "gave up"),
    (noFaults, .create (sampleCheckpoint "req-1" "second"))]

end Dagens.Hitl.CheckpointConservation
