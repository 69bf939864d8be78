import Dagens.Archive.PruneJobs

/-!
# What pruning deletes

A prune compares one sequence number, the state and three counts, some time after the
bundle was read and some time before the rows are deleted. Rows that change without
the sequence number, or between the comparison and the deletion, are lost; and a
bundle has no fractions of seconds.
-/

namespace Dagens.Archive.PrunedRows

open Lib GuardedRun Parties Scheduler Scheduler.Lifecycle Scheduler.PostgresStore Database
  ExportBundles PruneJobs List Option Bool

/-- A prune that has read the job's row and not finished with the job. -/
def busyWith (prune : Prune) (jobID : String) : Bool :=
  match prune.stage, prune.remaining with
  | .jobRow, _ | .aborted, _ | _, [] => false
  | _, entry :: _ => decide (entry.jobID = jobID)

/-- A row of the job is new or changed, in a table that the export has read. -/
def adds (loaded : Loaded) (db after : Database) : Bool :=
  ((jobOf after loaded.jobID).any fun row => decide (jobOf db loaded.jobID ≠ some row)) ||
    (loaded.tasks.isSome && (tasksOf after loaded.jobID).any fun row =>
      decide (row ∉ tasksOf db loaded.jobID)) ||
    (loaded.transitions.isSome && (transitionsOf after loaded.jobID).any fun row =>
      decide (row ∉ transitionsOf db loaded.jobID)) ||
    (loaded.sequences.isSome && (sequencesOf after loaded.jobID).any fun row =>
      decide (row ∉ sequencesOf db loaded.jobID))

/-- The job's row, if there is one, is past the sequence number that was archived. -/
def overtaken (loaded : Loaded) (db : Database) : Bool :=
  (jobOf db loaded.jobID).all fun row => decide (loaded.job.lastSequenceID < row.lastSequenceID)

/-- A transaction that touches rows which have been read leaves a higher sequence
number, and does not run while a prune is at the job. -/
def traceable (world : World) : Action → Bool
  | .write writes =>
    match applyWrites world.db writes with
    | none => true
    | some after => world.exporting.archive.all fun loaded =>
      !adds loaded world.db after ||
        (!(world.prunes.any (busyWith · loaded.jobID)) && overtaken loaded after)
  | _ => true

/-- The database has no rows of the job but those that were read. -/
structure Faithful (loaded : Loaded) (db : Database) : Prop where
  job : ∀ row, jobOf db loaded.jobID = some row → row = loaded.job
  tasks : ∀ read, loaded.tasks = some read → ∀ row ∈ tasksOf db loaded.jobID, row ∈ read
  transitions : ∀ read, loaded.transitions = some read →
    ∀ row ∈ transitionsOf db loaded.jobID, row ∈ read
  sequences : ∀ read, loaded.sequences = some read →
    ∀ row ∈ sequencesOf db loaded.jobID, row ∈ read

variable {loaded : Loaded} {db : Database}

section Reading

variable {after : Database}

theorem unadded (quiet : adds loaded db after = false) :
    (∀ row, jobOf after loaded.jobID = some row → jobOf db loaded.jobID = some row) ∧
      (loaded.tasks.isSome = true → ∀ row ∈ tasksOf after loaded.jobID,
        row ∈ tasksOf db loaded.jobID) ∧
      (loaded.transitions.isSome = true → ∀ row ∈ transitionsOf after loaded.jobID,
        row ∈ transitionsOf db loaded.jobID) ∧
      (loaded.sequences.isSome = true → ∀ row ∈ sequencesOf after loaded.jobID,
        row ∈ sequencesOf db loaded.jobID) := by
  simp only [adds, or_eq_false_iff] at quiet
  obtain ⟨⟨⟨job, tasks⟩, transitions⟩, sequences⟩ := quiet
  refine ⟨?_, ?_, ?_, ?_⟩
  · intro row found
    simpa [found] using job
  · intro read
    simpa [read] using tasks
  · intro read
    simpa [read] using transitions
  · intro read
    simpa [read] using sequences

theorem faithful_unadded (faithful : Faithful loaded db) (quiet : adds loaded db after = false) :
    Faithful loaded after := by
  obtain ⟨job, tasks, transitions, sequences⟩ := unadded quiet
  constructor
  · exact fun row found => faithful.job row (job row found)
  · exact fun read isRead row member =>
    faithful.tasks read isRead row (tasks (by simp [isRead]) row member)
  · exact fun read isRead row member =>
    faithful.transitions read isRead row (transitions (by simp [isRead]) row member)
  · exact fun read isRead row member =>
    faithful.sequences read isRead row (sequences (by simp [isRead]) row member)

theorem overtaken_unadded (past : overtaken loaded db = true)
    (quiet : adds loaded db after = false) : overtaken loaded after = true := by
  unfold overtaken at past ⊢
  cases found : jobOf after loaded.jobID with
  | none => rfl
  | some row =>
    rw [(unadded quiet).1 row found] at past
    exact past

theorem without_adds (loaded : Loaded) (db : Database) (jobID : String) (rows : Rows) :
    adds loaded db (db.without jobID rows) = false := by
  simp only [adds, or_eq_false_iff, and_eq_false_iff]
  refine ⟨⟨⟨?_, .inr ?_⟩, .inr ?_⟩, .inr ?_⟩
  · cases found : jobOf (db.without jobID rows) loaded.jobID with
    | none => rfl
    | some => simp [without_job found]
  · rw [List.any_eq_false]
    exact fun row member => by simpa using without_tasks member
  · rw [List.any_eq_false]
    exact fun row member => by simpa using without_transitions member
  · rw [List.any_eq_false]
    exact fun row member => by simpa using without_sequences member

end Reading

/-- The bundle has the rows, up to fractions of seconds. -/
structure Covers (bundle : Bundle) (rows : Rows) : Prop where
  job : ∀ row, rows.job = some row → exportJob row = bundle.job
  tasks : ∀ row ∈ rows.tasks, exportTask row ∈ bundle.tasks
  transitions : ∀ row ∈ rows.transitions, exportTransition row ∈ bundle.transitions
  sequences : ∀ row ∈ rows.sequences, exportSequence row ∈ bundle.sequences

theorem covers_empty (bundle : Bundle) : Covers bundle .empty := by
  constructor <;> simp [Rows.empty]

/-- The manifest entry of a job that has been read. -/
structure Describes (entry : ManifestEntry) (loaded : Loaded) : Prop where
  sameJob : entry.jobID = loaded.jobID
  bundle : loaded.bundle = some entry.sha256
  sequence : entry.lastSequenceID = loaded.job.lastSequenceID

theorem bundle_parts {bundle : Bundle} (whole : loaded.bundle = some bundle) :
    ∃ tasks transitions sequences, loaded.tasks = some tasks ∧
      loaded.transitions = some transitions ∧ loaded.sequences = some sequences ∧
      bundle = ⟨archiveSchemaVersion, exportJob loaded.job, tasks.map exportTask,
        transitions.map exportTransition, sequences.map exportSequence⟩ := by
  simp only [Loaded.bundle, bind_eq_bind, bind_eq_some_iff] at whole
  obtain ⟨tasks, isTasks, transitions, isTransitions, sequences, isSequences, same⟩ := whole
  exact ⟨tasks, transitions, sequences, isTasks, isTransitions, isSequences,
    (Option.some.inj same).symm⟩

variable {entry : ManifestEntry}

/-- The bundle of a job that is as it was read has all rows of the job. -/
theorem covers_current (describes : Describes entry loaded) (faithful : Faithful loaded db) :
    Covers entry.sha256 ⟨jobOf db entry.jobID, tasksOf db entry.jobID,
      transitionsOf db entry.jobID, sequencesOf db entry.jobID⟩ := by
  obtain ⟨tasks, transitions, sequences, isTasks, isTransitions, isSequences, isBundle⟩ :=
    bundle_parts describes.bundle
  rw [describes.sameJob, isBundle]
  refine ⟨fun row found => by rw [faithful.job row found], ?_, ?_, ?_⟩
  · exact fun row member => List.mem_map_of_mem (faithful.tasks tasks isTasks row member)
  · exact fun row member =>
      List.mem_map_of_mem (faithful.transitions transitions isTransitions row member)
  · exact fun row member =>
      List.mem_map_of_mem (faithful.sequences sequences isSequences row member)

/-- An entry whose job is in the database as it was read. -/
def Certain (exporting : Export) (db : Database) (entry : ManifestEntry) : Prop :=
  ∃ loaded ∈ exporting.archive, Describes entry loaded ∧ Faithful loaded db

/-- The snapshot of a prune that is at its queries. -/
def comparing : PruneStage → Option Snapshot
  | .transitionRows snapshot | .taskRows snapshot | .sequenceRows snapshot => some snapshot
  | _ => none

/-- The prune is at its statements. -/
def deleting : PruneStage → Bool
  | .deleteTransitions | .deleteTasks | .deleteSequences | .deleteJob | .committing => true
  | _ => false

structure Backed (exporting : Export) (db : Database) (prune : Prune) : Prop where
  listed : ∀ entry ∈ prune.remaining, entry ∈ exporting.entries
  compared : ∀ snapshot entry rest, comparing prune.stage = some snapshot →
    prune.remaining = entry :: rest → snapshot.lastSequenceID = entry.lastSequenceID →
    Certain exporting db entry
  certain : ∀ entry rest, deleting prune.stage = true → prune.remaining = entry :: rest →
    Certain exporting db entry
  covered : ∀ entry rest, prune.remaining = entry :: rest → Covers entry.sha256 prune.marked
  deleted : ∀ pair ∈ prune.deleted, pair.1 ∈ exporting.entries ∧ Covers pair.1.sha256 pair.2

structure Exported (exporting : Export) (db : Database) : Prop where
  kept : ∀ loaded ∈ exporting.archive, overtaken loaded db = true ∨ Faithful loaded db
  pending : exporting.stage = .tasks ∨ exporting.stage = .transitions ∨
    exporting.stage = .sequences → ∃ loaded archive job rest,
      exporting.archive = loaded :: archive ∧ exporting.remaining = job :: rest ∧
        loaded.jobID = job.jobID ∧ loaded.sequences = none
  entries : ∀ entry ∈ exporting.entries, ∃ loaded ∈ exporting.archive, Describes entry loaded
  verified : ∀ verification, exporting.stage = .finished verification →
    verification.verified = true → ∀ entry ∈ exporting.entries,
      exporting.files entry.relativePath = some entry.sha256

structure Sound (world : World) : Prop where
  exported : Exported world.exporting world.db
  finished : ∀ prune ∈ world.prunes, ∃ verification,
    world.exporting.stage = .finished verification ∧ verification.verified = true
  backed : ∀ prune ∈ world.prunes, Backed world.exporting world.db prune

variable {world : World}

theorem sound_fresh (fresh : Fresh world) : Sound world := by
  obtain ⟨begins, unread, unwritten, alone⟩ := fresh
  refine ⟨⟨?_, ?_, ?_, ?_⟩, ?_, ?_⟩
  · simp [unread]
  · simp [begins]
  · simp [unwritten]
  · simp [begins]
  · simp [alone]
  · simp [alone]

variable {exporting : Export} {prune : Prune}

attribute [local simp] comparing deleting exportStep exportJob

section Writes

variable {after : Database}

theorem backed_quiet (backed : Backed exporting db prune)
    (quiet : ∀ loaded ∈ exporting.archive, busyWith prune loaded.jobID = true →
      adds loaded db after = false) : Backed exporting after prune := by
  -- the stages at which something is certain are those of a busy prune
  have still : ∀ entry rest, prune.stage ≠ .jobRow → prune.stage ≠ .aborted →
      prune.remaining = entry :: rest → Certain exporting db entry →
      Certain exporting after entry := by
    intro entry rest working running current ⟨loaded, inside, describes, faithful⟩
    refine ⟨loaded, inside, describes, faithful_unadded faithful (quiet loaded inside ?_)⟩
    unfold busyWith
    rw [current]
    cases was : prune.stage <;> simp_all [describes.sameJob]
  refine ⟨backed.listed, ?_, ?_, backed.covered, backed.deleted⟩
  · intro snapshot entry rest isComparing current same
    refine still entry rest ?_ ?_ current
      (backed.compared snapshot entry rest isComparing current same)
    · rintro was
      simp [was] at isComparing
    · rintro was
      simp [was] at isComparing
  · intro entry rest isDeleting current
    refine still entry rest ?_ ?_ current (backed.certain entry rest isDeleting current)
    · rintro was
      simp [was] at isDeleting
    · rintro was
      simp [was] at isDeleting

theorem exported_kept (exported : Exported exporting db)
    (kept : ∀ loaded ∈ exporting.archive, overtaken loaded after = true ∨ Faithful loaded after) :
    Exported exporting after :=
  ⟨kept, exported.pending, exported.entries, exported.verified⟩

theorem sound_write (sound : Sound world) {writes : List Write}
    (traced : traceable world (.write writes) = true) :
    Sound { world with db := (applyWrites world.db writes).getD world.db } := by
  cases applied : applyWrites world.db writes with
  | none => exact ⟨sound.exported, sound.finished, sound.backed⟩
  | some =>
    simp only [traceable, applied, List.all_eq_true, or_eq_true, not_eq_true',
      and_eq_true] at traced
    refine ⟨exported_kept sound.exported ?_, sound.finished, ?_⟩
    · intro loaded inside
      rcases traced loaded inside with quiet | ⟨_, past⟩
      · rcases sound.exported.kept loaded inside with past | faithful
        · exact .inl (overtaken_unadded past quiet)
        · exact .inr (faithful_unadded faithful quiet)
      · exact .inl past
    · intro prune inPrunes
      refine backed_quiet (sound.backed prune inPrunes) ?_
      intro loaded inside busy
      rcases traced loaded inside with quiet | ⟨idle, _⟩
      · exact quiet
      · rw [List.any_eq_false] at idle
        exact absurd busy (by simpa using idle prune inPrunes)

theorem sound_without (sound : Sound world) (jobID : String) (rows : Rows) :
    Sound { world with db := world.db.without jobID rows } := by
  refine ⟨exported_kept sound.exported ?_, sound.finished, ?_⟩
  · intro loaded inside
    have quiet := without_adds loaded world.db jobID rows
    rcases sound.exported.kept loaded inside with past | faithful
    · exact .inl (overtaken_unadded past quiet)
    · exact .inr (faithful_unadded faithful quiet)
  · exact fun prune inPrunes => backed_quiet (sound.backed prune inPrunes)
      fun loaded _ _ => without_adds loaded world.db jobID rows

end Writes

variable {now : Time}

section Exporting

variable {next : Export}

section

variable (exported : Exported exporting db)

include exported

theorem exported_further {archive : List Loaded}
    (isArchive : exporting.archive = loaded :: archive) (unfinished : loaded.sequences = none)
    (further : Loaded) (sameJob : further.jobID = loaded.jobID) (sameRow : further.job = loaded.job)
    (reads : Faithful loaded db → Faithful further db) :
    (∀ one ∈ further :: archive, overtaken one db = true ∨ Faithful one db) ∧
      ∀ entry ∈ exporting.entries, ∃ one ∈ further :: archive, Describes entry one := by
  constructor
  · intro one inside
    rcases mem_cons.mp inside with rfl | old
    · rcases exported.kept loaded (by simp [isArchive]) with past | faithful
      · refine .inl ?_
        unfold overtaken at past ⊢
        rw [sameJob, sameRow]
        exact past
      · exact .inr (reads faithful)
    · exact exported.kept one (by simp [isArchive, old])
  · intro entry listed
    obtain ⟨one, inside, describes⟩ := exported.entries entry listed
    rw [isArchive] at inside
    rcases mem_cons.mp inside with rfl | old
    · obtain ⟨_, _, _, _, _, isRead, _⟩ := bundle_parts describes.bundle
      rw [unfinished] at isRead
      cases isRead
    · exact ⟨one, mem_cons_of_mem _ old, describes⟩

theorem exported_verifying (was : exporting.stage = .verifying)
    (taken : exportStep db exporting now = some next) :
    Exported next db := by
  simp only [exportStep, was] at taken
  split_ifs at taken with verifies
  · split at taken
    · rename_i verification checked
      cases taken
      refine ⟨exported.kept, by simp, exported.entries, ?_⟩
      intro _ _ _ entry listed
      simp only [verifyManifest] at checked
      split_ifs at checked with allVerified
      have one := List.all_eq_true.mp allVerified entry listed
      obtain ⟨_, stored, isVerified⟩ := (Option.any_eq_true _ _).mp one
      simp only [verifyBundle, and_eq_true, decide_eq_true_eq] at isVerified
      rw [stored, isVerified.1.1.1.1.1.1.1]
    · cases taken
      exact ⟨exported.kept, by simp, exported.entries, by simp⟩
  · cases taken
    refine ⟨exported.kept, by simp, exported.entries, ?_⟩
    intro verification isFinished isVerified
    cases isFinished
    cases isVerified

theorem exported_sequences (was : exporting.stage = .sequences)
    (taken : exportStep db exporting now = some next) :
    Exported next db := by
  obtain ⟨loaded, _, _, _, isArchive, isRemaining, sameJob, unfinished⟩ :=
    exported.pending (.inr (.inr was))
  simp only [exportStep, was, isArchive, isRemaining, bind_eq_bind, bind_eq_some_iff] at taken
  obtain ⟨_, whole, taken⟩ := taken
  cases taken
  obtain ⟨kept, entries⟩ := exported_further exported isArchive unfinished
    { loaded with sequences := some (sequencesOf db loaded.jobID) } rfl rfl
    (fun faithful => ⟨faithful.job, faithful.tasks, faithful.transitions, by
      rintro _ ⟨⟩ _ member
      exact member⟩)
  refine ⟨kept, ?_, ?_, ?_⟩
  · intro loading
    simp only [finishBundle] at loading
    split_ifs at loading <;> simp at loading
  · intro entry listed
    rcases List.mem_append.mp listed with old | new
    · exact entries entry old
    · rw [mem_singleton.mp new]
      refine ⟨_, mem_cons_self, sameJob.symm, whole, ?_⟩
      obtain ⟨_, _, _, _, _, _, isBundle⟩ := bundle_parts whole
      simp [manifestEntry, isBundle]
  · intro _ isFinished
    simp only [finishBundle] at isFinished
    split_ifs at isFinished

theorem exported_step (taken : exportStep db exporting now = some next) : Exported next db := by
  cases was : exporting.stage with
  | listing =>
    simp only [exportStep, was] at taken
    split_ifs at taken with nothing
    · cases taken
      exact ⟨exported.kept, by simp, exported.entries, by simp⟩
    · cases taken
      exact ⟨exported.kept, by simp, exported.entries, by simp⟩
  | jobRow =>
    cases isRemaining : exporting.remaining with
    | nil => simp [was, isRemaining] at taken
    | cons job rest =>
      simp only [exportStep, was, isRemaining] at taken
      split at taken
      · cases taken
        exact ⟨exported.kept, by simp, exported.entries, by simp⟩
      · rename_i row found
        cases taken
        refine ⟨?_, ?_, ?_, by simp⟩
        · intro one inside
          rcases mem_cons.mp inside with rfl | old
          · refine .inr ⟨?_, by simp, by simp, by simp⟩
            intro other foundOther
            exact Option.some.inj (foundOther.symm.trans found)
          · exact exported.kept one old
        · exact fun _ => ⟨_, _, job, rest, rfl, rfl, rfl, rfl⟩
        · intro entry listed
          obtain ⟨one, inside, describes⟩ := exported.entries entry listed
          exact ⟨one, mem_cons_of_mem _ inside, describes⟩
  | tasks =>
    obtain ⟨loaded, archive, job, rest, isArchive, isRemaining, sameJob, unfinished⟩ :=
      exported.pending (.inl was)
    simp only [exportStep, was, isArchive, isRemaining] at taken
    cases taken
    obtain ⟨kept, entries⟩ := exported_further exported isArchive unfinished
      { loaded with tasks := some (tasksOf db loaded.jobID) } rfl rfl
      (fun faithful => ⟨faithful.job, by
        rintro read ⟨⟩ row member
        exact member, faithful.transitions, faithful.sequences⟩)
    exact ⟨kept, fun _ => ⟨_, _, job, rest, rfl, rfl, sameJob, unfinished⟩, entries, by simp⟩
  | transitions =>
    obtain ⟨loaded, _, job, rest, isArchive, isRemaining, sameJob, unfinished⟩ :=
      exported.pending (.inr (.inl was))
    simp only [exportStep, was, isArchive, isRemaining] at taken
    cases taken
    obtain ⟨kept, entries⟩ := exported_further exported isArchive unfinished
      { loaded with transitions := some (transitionsOf db loaded.jobID) } rfl rfl
      (fun faithful => ⟨faithful.job, faithful.tasks, by
        rintro _ ⟨⟩ _ member
        exact member, faithful.sequences⟩)
    exact ⟨kept, fun _ => ⟨_, _, job, rest, rfl, rfl, sameJob, unfinished⟩, entries, by simp⟩
  | sequences => exact exported_sequences exported was taken
  | verifying => exact exported_verifying exported was taken
  | finished | aborted => simp [was] at taken

end

end Exporting

section Pruning

variable {next : Prune} {index : Nat} {answer : Answer} {rest : List ManifestEntry}
  {stage : PruneStage} {before : Database}

theorem backed_skip (backed : Backed exporting before prune)
    (current : prune.remaining = entry :: rest) :
    Backed exporting db (skip prune rest) := by
  refine ⟨?_, ?_, ?_, fun _ _ _ => covers_empty _, backed.deleted⟩
  · exact fun one inside => backed.listed one (by simp [current, show one ∈ rest from inside])
  · exact fun _ _ _ isComparing => by cases isComparing
  · exact fun _ _ isDeleting => by cases isDeleting

theorem backed_job_row (sound : Sound world) (backed : Backed world.exporting world.db prune)
    (current : prune.remaining = entry :: rest) :
    Backed world.exporting world.db (loadJobRow world prune entry rest) := by
  unfold loadJobRow
  cases found : jobOf world.db entry.jobID with
  | none => exact backed_skip backed current
  | some =>
    refine ⟨backed.listed, ?_, ?_, backed.covered, backed.deleted⟩
    · rintro _ _ _ ⟨⟩ isCurrent same
      obtain ⟨rfl, rfl⟩ := List.cons.inj (current.symm.trans isCurrent)
      obtain ⟨loaded, inside, describes⟩ :=
        sound.exported.entries entry (backed.listed entry (by simp [current]))
      rcases sound.exported.kept loaded inside with past | faithful
      · -- a job that was overtaken shows another sequence number
        rw [describes.sameJob] at found
        simp only [overtaken, found, all_some, decide_eq_true_eq] at past
        simp only [describes.sequence] at same
        omega
      · exact ⟨loaded, inside, describes, faithful⟩
    · exact fun _ _ isDeleting => by cases isDeleting

section

variable (backed : Backed world.exporting world.db prune)

include backed

theorem backed_query {before after : Snapshot} (was : comparing prune.stage = some before)
    (now : comparing stage = some after) (same : after.lastSequenceID = before.lastSequenceID)
    (queries : deleting stage = false) :
    Backed world.exporting world.db { prune with stage := stage } := by
  refine ⟨backed.listed, ?_, ?_, backed.covered, backed.deleted⟩
  · intro snapshot entry rest isComparing current equal
    have isAfter : snapshot = after := Option.some.inj (isComparing.symm.trans now)
    rw [isAfter, same] at equal
    exact backed.compared before entry rest was current equal
  · intro entry rest isDeleting
    simp only [queries] at isDeleting
    cases isDeleting

theorem backed_decide {snapshot : Snapshot} (was : prune.stage = .sequenceRows snapshot)
    (current : prune.remaining = entry :: rest) :
    Backed world.exporting world.db (decidePrune world prune entry rest snapshot now) := by
  simp only [decidePrune]
  split_ifs with passes
  · refine ⟨backed.listed, ?_, ?_, backed.covered, backed.deleted⟩
    · exact fun _ _ _ isComparing => by cases isComparing
    · intro _ _ _ isCurrent
      obtain ⟨rfl, rfl⟩ := List.cons.inj (current.symm.trans isCurrent)
      have checks := passes.1
      simp only [eligible, and_eq_true, decide_eq_true_eq] at checks
      exact backed.compared snapshot entry rest (by simp [was]) current checks.1.1.1.1.2
  · exact backed_skip backed current

theorem backed_statement (was : deleting prune.stage = true)
    (current : prune.remaining = entry :: rest) (marked : Rows) (queried : comparing stage = none)
    (covers : Covers entry.sha256 ⟨jobOf world.db entry.jobID, tasksOf world.db entry.jobID,
      transitionsOf world.db entry.jobID, sequencesOf world.db entry.jobID⟩ →
      Covers entry.sha256 prune.marked → Covers entry.sha256 marked) :
    Backed world.exporting world.db { prune with stage := stage, marked := marked } := by
  refine ⟨backed.listed, ?_, ?_, ?_, backed.deleted⟩
  · intro _ _ _ isComparing
    simp only [queried] at isComparing
    cases isComparing
  · exact fun one others _ isCurrent => backed.certain one others was isCurrent
  · intro one others isCurrent
    obtain ⟨rfl, rfl⟩ := List.cons.inj (current.symm.trans isCurrent)
    obtain ⟨_, _, describes, faithful⟩ := backed.certain entry rest was current
    exact covers (covers_current describes faithful) (backed.covered entry rest current)

end

theorem backed_abort (backed : Backed exporting before prune) :
    Backed exporting db { prune with stage := .aborted, marked := .empty } := by
  refine ⟨backed.listed, ?_, ?_, fun _ _ _ => covers_empty _, backed.deleted⟩
  · exact fun _ _ _ isComparing => by cases isComparing
  · exact fun _ _ isDeleting => by cases isDeleting

theorem backed_committed (backed : Backed world.exporting world.db prune)
    (current : prune.remaining = entry :: rest) :
    Backed world.exporting world.db
      { prune with deleted := (entry, prune.marked) :: prune.deleted } := by
  refine ⟨backed.listed, backed.compared, backed.certain, backed.covered, ?_⟩
  intro pair member
  rcases mem_cons.mp member with rfl | old
  · exact ⟨backed.listed entry (by simp [current]), backed.covered entry rest current⟩
  · exact backed.deleted pair old

section

variable (sound : Sound world) (found : world.prunes[index]? = some prune)

include sound found

theorem sound_set (backed : Backed world.exporting world.db next) :
    Sound { world with prunes := world.prunes.set index next } := by
  refine ⟨sound.exported, ?_, ?_⟩
  · intro one inside
    rcases mem_set_old inside with rfl | old
    · exact sound.finished prune (mem_of_getElem? found)
    · exact sound.finished one old
  · intro one inside
    rcases mem_set_old inside with rfl | old
    · exact backed
    · exact sound.backed one old

theorem sound_commit (current : prune.remaining = entry :: rest) (answer : Answer) :
    Sound { world with
      db := (commit world prune entry rest answer).1
      prunes := world.prunes.set index (commit world prune entry rest answer).2 } := by
  have backed := sound.backed prune (mem_of_getElem? found)
  have committed := backed_committed backed current
  have thinned := sound_without sound entry.jobID prune.marked
  cases answer with
  | ok => exact sound_set thinned found (backed_skip committed current)
  | fault applied =>
    cases applied with
    | true => exact sound_set thinned found (backed_abort committed)
    | false => exact sound_set sound found (backed_abort backed)

theorem sound_prune (taken : pruneStep world prune index now answer = some (db, next)) :
    Sound { world with db := db, prunes := world.prunes.set index next } := by
  have backed := sound.backed prune (mem_of_getElem? found)
  cases current : prune.remaining with
  | nil => cases was : prune.stage <;> simp [pruneStep, was, current] at taken
  | cons =>
    cases was : prune.stage with
      simp only [pruneStep, was, current] at taken
    | jobRow =>
      cases taken
      exact sound_set sound found (backed_job_row sound backed current)
    | transitionRows snapshot | taskRows snapshot =>
      cases taken
      rw [← current]
      have compares : comparing prune.stage = some snapshot := by simp [was]
      exact sound_set sound found (backed_query backed compares rfl rfl rfl)
    | sequenceRows =>
      cases taken
      exact sound_set sound found (backed_decide backed was current)
    | deleteTransitions | deleteTasks | deleteSequences | deleteJob =>
      split_ifs at taken
      cases taken
      rw [← current]
      refine sound_set sound found (backed_statement backed (by simp [was]) current _ rfl
        fun all old => ?_)
      obtain ⟨_, _, _, _⟩ := all
      obtain ⟨_, _, _, _⟩ := old
      constructor <;> assumption
    | committing =>
      simp only [Option.some.injEq] at taken
      have committed := sound_commit sound found current answer
      rw [taken] at committed
      exact committed
    | aborted => simp at taken

end

theorem sound_alone {next : Export} (sound : Sound world) (exported : Exported next world.db)
    (unfinished : ∀ verification, world.exporting.stage ≠ .finished verification) :
    Sound { world with exporting := next } := by
  have nobody : ∀ prune, prune ∉ world.prunes := by
    intro prune inside
    obtain ⟨verification, isFinished, _⟩ := sound.finished prune inside
    exact unfinished verification isFinished
  exact ⟨exported, fun prune inside => absurd inside (nobody prune),
    fun prune inside => absurd inside (nobody prune)⟩

theorem sound_step {action : Action} {after : World} (sound : Sound world)
    (traced : traceable world action = true) (taken : worldStep world action = some after) :
    Sound after := by
  cases action with
  | write =>
    simp only [worldStep] at taken
    split_ifs at taken
    cases taken
    exact sound_write sound traced
  | exports =>
    simp only [worldStep, bind_eq_bind, bind_eq_some_iff] at taken
    obtain ⟨_, stepped, taken⟩ := taken
    cases taken
    -- a finished export takes no step, so there are no prunes yet
    refine sound_alone sound (exported_step sound.exported stepped) fun verification was => ?_
    simp [was] at stepped
  | exportFails =>
    simp only [worldStep] at taken
    split at taken
    · cases taken
    · rename_i unfinished
      cases taken
      exact sound_alone sound ⟨sound.exported.kept, by simp, sound.exported.entries, by simp⟩
        unfinished
  | newPrune =>
    simp only [worldStep] at taken
    split at taken
    · rename_i verification isFinished
      split_ifs at taken with valid
      cases taken
      simp only [validateManifest, and_eq_true] at valid
      refine ⟨sound.exported, fun _ _ => ⟨verification, isFinished, valid.1.1.2⟩, ?_⟩
      intro one inside
      rcases List.mem_append.mp inside with old | new
      · exact sound.backed one old
      · rw [mem_singleton.mp new]
        refine ⟨fun entry listed => mem_of_mem_take listed, ?_, ?_,
          fun _ _ _ => covers_empty _, by simp⟩
        · exact fun _ _ _ isComparing => by cases isComparing
        · exact fun _ _ isDeleting => by cases isDeleting
    · cases taken
  | prune =>
    simp only [worldStep, bind_eq_bind, bind_eq_some_iff] at taken
    obtain ⟨prune, found, ⟨_⟩, stepped, taken⟩ := taken
    cases taken
    exact sound_prune sound found stepped
  | pruneFails =>
    simp only [worldStep, bind_eq_bind, bind_eq_some_iff] at taken
    obtain ⟨prune, found, taken⟩ := taken
    cases taken
    exact sound_set sound found (backed_abort (sound.backed prune (mem_of_getElem? found)))

end Pruning

/-- The row as it is in the database has no fractions of seconds. -/
def WholeSeconds (row : JobRow) : Prop :=
  toSecond row.createdAt = row.createdAt ∧ toSecond row.updatedAt = row.updatedAt

theorem job_exported_iff (row : JobRow) : exportJob row = row ↔ WholeSeconds row := by
  obtain ⟨_⟩ := row
  simp [WholeSeconds]

/-- A row whose time is exported in whole seconds. -/
theorem mem_exported_iff {Row : Type} (exportRow : Row → Row) (time : Row → Time)
    (truncates : ∀ row, time (exportRow row) = toSecond (time row)) {read : List Row} {row : Row}
    (archived : exportRow row ∈ read.map exportRow)
    (exact : toSecond (time row) = time row → exportRow row = row) :
    row ∈ read.map exportRow ↔ toSecond (time row) = time row := by
  constructor
  · intro member
    obtain ⟨_, _, rfl⟩ := List.mem_map.mp member
    simp [truncates, toSecond]
  · intro whole
    rwa [exact whole] at archived

/-- In every run in which the scheduler's writes to archived jobs are traceable, each
row that a prune has deleted is in the bundle that the manifest names, with the same
values exactly if its times are whole seconds. -/
theorem pruned_rows_archived_iff {world : World}
    (reached : Reaches worldStep (fun state action => traceable state action = true) Fresh world)
    (prune : Prune) (inside : prune ∈ world.prunes) (entry : ManifestEntry) (rows : Rows)
    (pruned : (entry, rows) ∈ prune.deleted) :
    ∃ bundle, world.exporting.files entry.relativePath = some bundle ∧
      (∀ row, rows.job = some row → (bundle.job = row ↔ WholeSeconds row)) ∧
      (∀ row ∈ rows.tasks, row ∈ bundle.tasks ↔ toSecond row.updatedAt = row.updatedAt) ∧
      (∀ row ∈ rows.transitions,
        row ∈ bundle.transitions ↔ toSecond row.occurredAt = row.occurredAt) ∧
      (∀ row ∈ rows.sequences,
        row ∈ bundle.sequences ↔ toSecond row.updatedAt = row.updatedAt) := by
  have sound : Sound world := by
    refine reaches_invariant ?_ ?_ reached
    · exact fun _ fresh => sound_fresh fresh
    · exact fun _ _ _ held traced taken => sound_step held traced taken
  obtain ⟨listed, covers⟩ := (sound.backed prune inside).deleted (entry, rows) pruned
  obtain ⟨verification, isFinished, isVerified⟩ := sound.finished prune inside
  obtain ⟨_, _, describes⟩ := sound.exported.entries entry listed
  refine ⟨entry.sha256, sound.exported.verified verification isFinished isVerified entry listed,
    fun row found => by rw [← covers.job row found, job_exported_iff], ?_⟩
  obtain ⟨_, _, _, _, _, _, isBundle⟩ := bundle_parts describes.bundle
  rw [isBundle] at covers ⊢
  refine ⟨fun row member => ?_, fun row member => ?_, fun row member => ?_⟩
  · exact mem_exported_iff exportTask (·.updatedAt) (fun _ => rfl) (covers.tasks row member)
      fun whole => by rw [exportTask, whole]
  · exact mem_exported_iff exportTransition (·.occurredAt) (fun _ => rfl)
      (covers.transitions row member) fun whole => by rw [exportTransition, whole]
  · exact mem_exported_iff exportSequence (·.updatedAt) (fun _ => rfl)
      (covers.sequences row member) fun whole => by rw [exportSequence, whole]

section Sample

def sampleWorld : World where
  db := emptyDatabase
  exporting := {
    config := ⟨fun _ _ => true, 0, 100, fun _ => true, false, true, none⟩
    stage := .listing
    remaining := []
    archive := []
    files := fun _ => none
    entries := [] }
  prunes := []

theorem sample_fresh : Fresh sampleWorld := ⟨rfl, rfl, rfl, rfl⟩

def second : Time := 1000000000

def sampleTask (agentName : String) (time : Time) : DurableTaskRecord :=
  ⟨"t", "j", "stage-0", "node", "agent", agentName, "", "", some .succeeded, 1, time⟩

/-- A finished job with one task, beside other rows. -/
def seed (others : List Write) : Action :=
  .write ([.upsertJob ⟨"j", "job", some .succeeded, 1, second, second⟩,
    .upsertTask (sampleTask "first" second), .nextSequenceID "j" second] ++ others)

def exportRun (others : List Write) (count : Nat) : List Action :=
  seed others :: List.replicate count (.exports (5 * second))

def pruneRun (count : Nat) : List Action :=
  .newPrune ⟨100, false, none⟩ :: List.replicate count (.prune 0 (9 * second) .ok)

/-- Between the export and the prune another archived job is resumed. -/
def resumedBetween : List Action :=
  exportRun [.upsertJob ⟨"k", "job", some .succeeded, 1, second, second⟩] 10 ++
    .write [.upsertJob ⟨"k", "job", some .running, 2, second, 6 * second⟩] :: pruneRun 13

theorem undisturbed_job_archived : ∃ (world : World) (prune : Prune) (entry : ManifestEntry)
    (rows : Rows), run worldStep sampleWorld resumedBetween = some world ∧
      prune ∈ world.prunes ∧ (entry, rows) ∈ prune.deleted ∧
      rows.tasks = [sampleTask "first" second] ∧
      ∃ bundle, world.exporting.files entry.relativePath = some bundle ∧
        (∀ row ∈ rows.tasks, row ∈ bundle.tasks ↔ toSecond row.updatedAt = row.updatedAt) := by
  have ends : (run worldStep sampleWorld resumedBetween).any (fun world =>
    world.prunes.any fun prune => prune.deleted.any fun pair =>
      decide (pair.2.tasks = [sampleTask "first" second])) = true := by
    decide +kernel
  have allowed : Allowed worldStep (fun state action => traceable state action = true)
      sampleWorld resumedBetween := by
    decide +kernel
  obtain ⟨world, ran, pruned⟩ := (Option.any_eq_true _ _).mp ends
  obtain ⟨prune, inside, deletes⟩ := List.any_eq_true.mp pruned
  obtain ⟨⟨entry, rows⟩, member, tasks⟩ := List.any_eq_true.mp deletes
  obtain ⟨bundle, stored, _, archived, _⟩ := pruned_rows_archived_iff
    (reaches_of_run (.start sample_fresh) resumedBetween allowed ran)
    prune inside entry rows member
  exact ⟨world, prune, entry, rows, ran, inside, member, of_decide_eq_true tasks, bundle, stored,
    archived⟩

/-- Between the export and the prune a late `UpsertTask` changes a column of the task. -/
def lateUpdate : Action := .write [.upsertTask (sampleTask "second" (2 * second))]

theorem late_update_lost : ∃ (world : World) (prune : Prune) (entry : ManifestEntry)
    (rows : Rows) (bundle : Bundle), Fresh sampleWorld ∧
      run worldStep sampleWorld (exportRun [] 6 ++ lateUpdate :: pruneRun 9) = some world ∧
      prune ∈ world.prunes ∧ (entry, rows) ∈ prune.deleted ∧
      world.exporting.files entry.relativePath = some bundle ∧
      sampleTask "second" (2 * second) ∈ rows.tasks ∧
      sampleTask "second" (2 * second) ∉ bundle.tasks := by
  have ends : (run worldStep sampleWorld
      (exportRun [] 6 ++ lateUpdate :: pruneRun 9)).any (fun world =>
    world.prunes.any fun prune => prune.deleted.any fun pair =>
      (world.exporting.files pair.1.relativePath).any fun bundle =>
        decide (sampleTask "second" (2 * second) ∈ pair.2.tasks ∧
          sampleTask "second" (2 * second) ∉ bundle.tasks)) = true := by
    decide +kernel
  obtain ⟨world, ran, pruned⟩ := (Option.any_eq_true _ _).mp ends
  obtain ⟨prune, inside, deletes⟩ := List.any_eq_true.mp pruned
  obtain ⟨⟨entry, rows⟩, member, found⟩ := List.any_eq_true.mp deletes
  obtain ⟨bundle, stored, facts⟩ := (Option.any_eq_true _ _).mp found
  obtain ⟨deleted, missing⟩ := of_decide_eq_true facts
  exact ⟨world, prune, entry, rows, bundle, sample_fresh, ran, inside, member, stored, deleted,
    missing⟩

end Sample

end Dagens.Archive.PrunedRows
